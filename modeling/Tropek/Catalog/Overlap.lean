import Tropek.Catalog.Versioning

namespace Tropek
namespace Catalog

open Library Manifest TransitionSystem KeyedTable

/-!
# Versions and overlapping transactions

As long as no two transactions on one name overlap, what each of them has read is still
the last version when it inserts the next one, and none of them waits or fails.  When one
takes its snapshot while another one is under way, both want the same version, and one of
them cannot have it.
-/

/-! ## Transactions that keep apart -/

def CreateTransaction.Current (tx : CreateTransaction) (api : Api) : Prop :=
  match tx.phase with
  | .starting => True
  | .picked version => version = api.maxSloVersion tx.params.name
  | .locked maxVersion => maxVersion = api.maxSloVersion tx.params.name
  | .inserted maxVersion slo =>
      maxVersion = api.maxSloVersion tx.params.name ∧ slo = api.nextSlo tx.params
  | .committed _ => True
  | .failed => False

structure Orderly (start w : CreateWorld) : Prop where
  current : forall tx, tx ∈ w.transactions.rows -> tx.Current w.api
  alone : forall tx other, tx ∈ w.transactions.rows -> other ∈ w.transactions.rows ->
    tx.underWay = true -> other.underWay = true -> tx.params.name = other.params.name ->
    tx.id = other.id
  last : forall name,
    lastVersion w.api name = lastVersion start.api name + (w.assigned name).length
  contiguous : forall name, (w.assigned name).Perm
    (following (lastVersion start.api name) (w.assigned name).length)

section Advance

variable {start w : CreateWorld} {tx : CreateTransaction}

theorem Statement.uncommitted {action : CreateAction} {phase : CreatePhase} {api : Api}
    (statement : Statement w tx action phase api) : tx.committedSlo = none := by
  unfold CreateTransaction.committedSlo
  cases statement with
  | pick starting => rw [starting]
  | lock version picked _ => rw [picked]
  | refuse maxVersion locked _ _ => rw [locked]
  | insert maxVersion locked _ _ => rw [locked]
  | commit maxVersion slo inserted _ => rw [inserted]

theorem mem_advance {phase : CreatePhase} (found : w.transactions.find tx.id = some tx)
    {other : CreateTransaction} (member : other ∈ (w.advance tx.id phase).rows) :
    (other ∈ w.transactions.rows ∧ other.id ≠ tx.id) ∨ other = tx.setPhase phase := by
  rcases (mem_update _ _ _ (CreateTransaction.setPhase_id phase) other).mp member with
    old | ⟨changed, isChanged, same⟩
  · exact Or.inl old
  · rw [found] at isChanged
    cases isChanged
    exact Or.inr same.symm

theorem assigned_advance (found : w.transactions.find tx.id = some tx)
    (uncommitted : tx.committedSlo = none) (phase : CreatePhase) (api : Api) (name : String) :
    (CreateWorld.assigned { api, transactions := w.advance tx.id phase } name).Perm
      (((tx.setPhase phase).assigned name).toList ++ w.assigned name) := by
  rcases update_perm w.transactions (CreateTransaction.setPhase phase)
    (CreateTransaction.setPhase_id phase) found with ⟨others, before, after⟩
  have nothing : tx.assigned name = none := by
    unfold CreateTransaction.assigned
    rw [uncommitted, Option.map_none, ite_self]
  have earlier : (w.assigned name).Perm
      (others.filterMap (CreateTransaction.assigned name)) := by
    have parts := before.filterMap (CreateTransaction.assigned name)
    rw [List.filterMap_cons_none nothing] at parts
    exact parts
  have later := after.filterMap (CreateTransaction.assigned name)
  refine later.trans (List.Perm.trans ?_ (List.Perm.append_left _ earlier.symm))
  rw [List.filterMap_cons]
  cases (tx.setPhase phase).assigned name with
  | none => exact List.Perm.refl _
  | some version => exact List.Perm.refl _

theorem current_of_idle {api later : Api} (idle : tx.underWay = false) (current : tx.Current api) :
    tx.Current later := by
  unfold CreateTransaction.underWay at idle
  unfold CreateTransaction.Current at current ⊢
  cases phase : tx.phase with
  | starting => trivial
  | committed slo => trivial
  | picked version =>
      rw [phase] at idle
      cases idle
  | locked maxVersion =>
      rw [phase] at idle
      cases idle
  | inserted maxVersion slo =>
      rw [phase] at idle
      cases idle
  | failed =>
      rw [phase] at current
      exact current

section

variable (orderly : Orderly start w) (found : w.transactions.find tx.id = some tx)

include orderly found

theorem orderly_advance {phase : CreatePhase} (uncommitted : tx.committedSlo = none)
    (quiet : (tx.setPhase phase).committedSlo = none) (current : (tx.setPhase phase).Current w.api)
    (alone : (tx.setPhase phase).underWay = true -> forall other, other ∈ w.transactions.rows ->
      other.underWay = true -> other.params.name = tx.params.name -> other.id = tx.id) :
    Orderly start { w with transactions := w.advance tx.id phase } := by
  have nothing : forall name, (tx.setPhase phase).assigned name = none := by
    intro name
    unfold CreateTransaction.assigned
    rw [quiet, Option.map_none, ite_self]
  have same : forall name,
      (CreateWorld.assigned { w with transactions := w.advance tx.id phase } name).Perm
        (w.assigned name) := by
    intro name
    have parts := assigned_advance found uncommitted phase w.api name
    rw [nothing name] at parts
    exact parts
  refine ⟨?_, ?_, ?_, ?_⟩
  · intro other member
    rcases mem_advance found member with ⟨old, _⟩ | changed
    · exact orderly.current other old
    · exact changed ▸ current
  · intro first second firstIn secondIn firstUnderWay secondUnderWay sameName
    rcases mem_advance found firstIn with ⟨firstOld, _⟩ | firstChanged
    · rcases mem_advance found secondIn with ⟨secondOld, _⟩ | secondChanged
      · exact orderly.alone first second firstOld secondOld firstUnderWay secondUnderWay sameName
      · subst secondChanged
        exact alone secondUnderWay first firstOld firstUnderWay sameName
    · subst firstChanged
      rcases mem_advance found secondIn with ⟨secondOld, _⟩ | secondChanged
      · exact (alone firstUnderWay second secondOld secondUnderWay sameName.symm).symm
      · subst secondChanged
        rfl
  · intro name
    rw [(same name).length_eq]
    exact orderly.last name
  · intro name
    rw [(same name).length_eq]
    exact (same name).trans (orderly.contiguous name)

theorem orderly_commit {maxVersion : Option Int}
    (inserted : tx.phase = .inserted maxVersion (w.api.nextSlo tx.params)) (later : Api)
    (defaults : later.changePointDefaults = w.api.changePointDefaults)
    (rows : later.slos.rows = w.api.slos.rows ++ [w.api.nextSlo tx.params]) :
    Orderly start
      { api := later, transactions := w.advance tx.id (.committed (w.api.nextSlo tx.params)) } := by
  have uncommitted : tx.committedSlo = none := by
    unfold CreateTransaction.committedSlo
    rw [inserted]
  have underWay : tx.underWay = true := by
    unfold CreateTransaction.underWay
    rw [inserted]
  let next : CreateWorld :=
    { api := later, transactions := w.advance tx.id (.committed (w.api.nextSlo tx.params)) }
  have onTop : forall name, (next.assigned name).Perm
      (if tx.params.name = name then (lastVersion w.api name + 1) :: w.assigned name
        else w.assigned name) := by
    intro name
    have parts := assigned_advance found uncommitted (.committed (w.api.nextSlo tx.params)) later name
    by_cases same : tx.params.name = name
    · have assigns : (tx.setPhase (.committed (w.api.nextSlo tx.params))).assigned name =
          some (lastVersion w.api name + 1) := by
        rw [<- same]
        exact if_pos rfl
      rw [if_pos same]
      rw [assigns] at parts
      exact parts
    · have nothing : (tx.setPhase (.committed (w.api.nextSlo tx.params))).assigned name = none :=
        if_neg same
      rw [if_neg same]
      rw [nothing] at parts
      exact parts
  have lasts : forall name, lastVersion later name =
      if tx.params.name = name then lastVersion w.api name + 1 else lastVersion w.api name := by
    intro name
    unfold lastVersion
    rw [maxSloVersion_insert rows name]
    by_cases same : tx.params.name = name
    · rw [if_pos same, if_pos same, <- same]
      rfl
    · rw [if_neg same, if_neg same]
  refine ⟨?_, ?_, ?_, ?_⟩
  · intro other member
    rcases mem_advance found member with ⟨old, different⟩ | changed
    · have current := orderly.current other old
      cases idle : other.underWay with
      | false => exact current_of_idle idle current
      | true =>
          have apart : tx.params.name ≠ other.params.name := fun same =>
            different (orderly.alone other tx old (find_mem found) idle underWay same.symm)
          have maximum : later.maxSloVersion other.params.name =
              w.api.maxSloVersion other.params.name := by
            rw [maxSloVersion_insert rows, if_neg apart]
          have next : later.nextSlo other.params = w.api.nextSlo other.params := by
            refine nextSlo_congr ?_ defaults
            unfold versionsOf
            have none : [w.api.nextSlo tx.params].filter
                (fun slo => slo.name = other.params.name) = [] :=
              List.filter_cons_of_neg fun named => apart (of_decide_eq_true named)
            rw [rows, List.filter_append, none, List.append_nil]
          unfold CreateTransaction.Current at current ⊢
          rw [maximum, next]
          exact current
    · exact changed ▸ trivial
  · intro first second firstIn secondIn firstUnderWay secondUnderWay sameName
    rcases mem_advance found firstIn with ⟨firstOld, _⟩ | firstChanged
    · rcases mem_advance found secondIn with ⟨secondOld, _⟩ | secondChanged
      · exact orderly.alone first second firstOld secondOld firstUnderWay secondUnderWay sameName
      · subst secondChanged
        cases secondUnderWay
    · subst firstChanged
      cases firstUnderWay
  · intro name
    rw [(onTop name).length_eq, lasts name]
    split
    · rw [orderly.last name, List.length_cons, Nat.cast_succ, add_assoc]
    · exact orderly.last name
  · intro name
    rw [(onTop name).length_eq]
    refine (onTop name).trans ?_
    split
    · rw [List.length_cons, orderly.last name]
      exact (List.Perm.cons _ (orderly.contiguous name)).trans (following_succ _ _).symm
    · exact orderly.contiguous name

end

end Advance

variable {start w next : CreateWorld} {tx : CreateTransaction} {action : CreateAction}

theorem orderly_insert (orderly : Orderly start w) (fresh : w.transactions.find tx.id = none)
    (starting : tx.phase = .starting) :
    Orderly start { w with transactions := w.transactions.insert tx fresh } := by
  have idle : tx.underWay = false := by
    unfold CreateTransaction.underWay
    rw [starting]
  have same : forall name,
      CreateWorld.assigned { w with transactions := w.transactions.insert tx fresh } name =
        w.assigned name := by
    intro name
    have nothing : tx.assigned name = none := by
      unfold CreateTransaction.assigned CreateTransaction.committedSlo
      rw [starting, Option.map_none, ite_self]
    change (w.transactions.rows ++ [tx]).filterMap _ = _
    rw [List.filterMap_append, List.filterMap_cons_none nothing, List.filterMap_nil, List.append_nil]
    rfl
  refine ⟨?_, ?_, ?_, ?_⟩
  · intro other member
    rcases (mem_insert _ _ fresh other).mp member with old | new
    · exact orderly.current other old
    · subst new
      unfold CreateTransaction.Current
      rw [starting]
      trivial
  · intro first second firstIn secondIn firstUnderWay secondUnderWay sameName
    rcases (mem_insert _ _ fresh first).mp firstIn with firstOld | firstNew
    · rcases (mem_insert _ _ fresh second).mp secondIn with secondOld | secondNew
      · exact orderly.alone first second firstOld secondOld firstUnderWay secondUnderWay sameName
      · rw [secondNew, idle] at secondUnderWay
        cases secondUnderWay
    · rw [firstNew, idle] at firstUnderWay
      cases firstUnderWay
  · intro name
    rw [same name]
    exact orderly.last name
  · intro name
    rw [same name]
    exact orderly.contiguous name

theorem Orderly.locked_next {maxVersion : Option Int} (orderly : Orderly start w)
    (found : w.transactions.find tx.id = some tx) (locked : tx.phase = .locked maxVersion) :
    maxVersion = w.api.maxSloVersion tx.params.name ∧
      sloAfter w.api tx.params maxVersion = w.api.nextSlo tx.params := by
  have current := orderly.current tx (find_mem found)
  unfold CreateTransaction.Current at current
  rw [locked] at current
  subst current
  exact ⟨rfl, sloAfter_max w.api tx.params⟩

theorem orderly_step (orderly : Orderly start w) (accepted : Alone w action)
    (stepped : w.step action = some next) : Orderly start next := by
  rcases step_eq_some.mp stepped with ⟨tx, fresh, _, starting, same⟩ |
    ⟨tx, phase, api, found, statement, same⟩
  · subst same
    exact orderly_insert orderly fresh starting
  · subst same
    have member := find_mem found
    have current := orderly.current tx member
    have uncommitted := statement.uncommitted
    unfold CreateTransaction.Current at current
    cases statement with
    | pick starting =>
        refine orderly_advance orderly found uncommitted rfl rfl ?_
        intro _ other inside underWay sameName
        rw [accepted tx member rfl other inside sameName] at underWay
        cases underWay
    | lock version picked free =>
        rw [picked] at current
        subst current
        refine orderly_advance orderly found uncommitted rfl (recheck_max w.api tx.params.name) ?_
        intro _ other inside underWay sameName
        refine orderly.alone other tx inside member underWay ?_ sameName
        unfold CreateTransaction.underWay
        rw [picked]
    | refuse maxVersion locked free taken =>
        rw [(orderly.locked_next found locked).2,
          nextSlo_fresh (List.Subset.refl _) tx.params] at taken
        cases taken
    | insert maxVersion locked free absent =>
        have isNext := orderly.locked_next found locked
        refine orderly_advance orderly found uncommitted rfl isNext ?_
        intro _ other inside underWay sameName
        refine orderly.alone other tx inside member underWay ?_ sameName
        unfold CreateTransaction.underWay
        rw [locked]
    | commit maxVersion slo inserted fresh =>
        rw [inserted] at current
        cases current.2
        exact orderly_commit orderly found inserted _ rfl rfl

theorem orderly_empty (initial : start.transactions = .empty) : Orderly start start := by
  have nobody : start.transactions.rows = [] := by
    rw [initial]
    rfl
  have nothing : forall name, start.assigned name = [] := by
    intro name
    unfold CreateWorld.assigned
    rw [nobody, List.filterMap_nil]
  refine ⟨?_, ?_, ?_, ?_⟩
  · intro tx member
    rw [nobody] at member
    exact absurd member List.not_mem_nil
  · intro tx _ member
    rw [nobody] at member
    exact absurd member List.not_mem_nil
  · intro name
    rw [nothing name]
    exact (add_zero _).symm
  · intro name
    rw [nothing name]
    exact List.Perm.refl _

/-! ## Every transaction goes on -/

def CreateTransaction.remaining (tx : CreateTransaction) : Nat :=
  match tx.phase with
  | .starting => 4
  | .picked _ => 3
  | .locked _ => 2
  | .inserted _ _ => 1
  | .committed _ | .failed => 0

def CreateWorld.remaining (w : CreateWorld) : Nat :=
  (w.transactions.rows.map CreateTransaction.remaining).sum

theorem remaining_advance {phase : CreatePhase} (found : w.transactions.find tx.id = some tx)
    (fewer : (tx.setPhase phase).remaining < tx.remaining) (api : Api) :
    CreateWorld.remaining { api, transactions := w.advance tx.id phase } < w.remaining := by
  rcases update_perm w.transactions (CreateTransaction.setPhase phase)
    (CreateTransaction.setPhase_id phase) found with ⟨others, before, after⟩
  have earlier := (before.map CreateTransaction.remaining).sum_eq
  have later := (after.map CreateTransaction.remaining).sum_eq
  rw [List.map_cons, List.sum_cons] at earlier later
  unfold CreateWorld.remaining
  calc
    ((w.advance tx.id phase).rows.map CreateTransaction.remaining).sum
        = (tx.setPhase phase).remaining + (others.map CreateTransaction.remaining).sum := later
    _ < tx.remaining + (others.map CreateTransaction.remaining).sum := by omega
    _ = (w.transactions.rows.map CreateTransaction.remaining).sum := earlier.symm

section Progress

variable {start w : CreateWorld} {tx : CreateTransaction}

theorem rowLocked_underWay {other : CreateTransaction} {version : Int}
    (locked : other.lockedVersion = some version) : other.underWay = true := by
  unfold CreateTransaction.lockedVersion at locked
  unfold CreateTransaction.underWay
  cases phase : other.phase with
  | starting | committed | failed =>
      rw [phase] at locked
      cases locked
  | picked version => rfl
  | locked maxVersion => rfl
  | inserted maxVersion slo => rfl

section

variable (orderly : Orderly start w)

include orderly

theorem Orderly.row_free (member : tx ∈ w.transactions.rows) (underWay : tx.underWay = true)
    (version : Int) : w.rowLocked tx version = false := by
  refine List.any_eq_false.mpr fun other inside blocks => ?_
  simp only [Bool.and_eq_true, decide_eq_true_eq] at blocks
  rcases blocks with ⟨⟨different, sameName⟩, locked⟩
  exact different (orderly.alone other tx inside member (rowLocked_underWay locked) underWay sameName)

theorem pending_next {other : CreateTransaction} {slo : SLO} (member : other ∈ w.transactions.rows)
    (pending : other.pending = some slo) :
    other.underWay = true ∧ slo.name = other.params.name := by
  have current := orderly.current other member
  unfold CreateTransaction.pending at pending
  unfold CreateTransaction.Current at current
  unfold CreateTransaction.underWay
  cases phase : other.phase with
  | inserted maxVersion inserted =>
      rw [phase] at pending current
      cases pending
      exact ⟨rfl, congrArg SLO.name current.2⟩
  | starting | picked | locked | committed | failed =>
      rw [phase] at pending
      cases pending

theorem Orderly.key_free (member : tx ∈ w.transactions.rows) (underWay : tx.underWay = true)
    (version : Int) : w.keyPending tx (tx.params.name, version) = false := by
  refine List.any_eq_false.mpr fun other inside blocks => ?_
  simp only [Bool.and_eq_true, decide_eq_true_eq, Option.map_eq_some_iff] at blocks
  rcases blocks with ⟨different, slo, pending, sameKey⟩
  rcases pending_next orderly inside pending with ⟨otherUnderWay, named⟩
  have sameName : other.params.name = tx.params.name := named.symm.trans (congrArg Prod.fst sameKey)
  exact different (orderly.alone other tx inside member otherUnderWay underWay sameName)

theorem Orderly.goes_on (found : w.transactions.find tx.id = some tx)
    (underWay : tx.underWay = true) :
    Exists fun action => Exists fun phase => Exists fun api =>
      Statement w tx action phase api ∧ (tx.setPhase phase).remaining < tx.remaining ∧
        Alone w action := by
  have member := find_mem found
  cases phase : tx.phase with
  | picked version =>
      have free : version.any (w.rowLocked tx) = false := by
        cases version with
        | none => rfl
        | some version => exact orderly.row_free member underWay version
      refine ⟨_, _, _, .lock version phase free, ?_, trivial⟩
      unfold CreateTransaction.remaining
      rw [phase]
      exact Nat.lt_succ_self 2
  | locked maxVersion =>
      rcases orderly.locked_next found phase with ⟨_, isNext⟩
      have absent : (w.api.slos.find (sloAfter w.api tx.params maxVersion).key).isSome = false := by
        rw [isNext, nextSlo_fresh (List.Subset.refl _) tx.params]
        rfl
      refine ⟨_, _, _, .insert maxVersion phase (orderly.key_free member underWay _) absent, ?_,
        trivial⟩
      unfold CreateTransaction.remaining
      rw [phase]
      exact Nat.lt_succ_self 1
  | inserted maxVersion slo =>
      have current := orderly.current tx member
      unfold CreateTransaction.Current at current
      rw [phase] at current
      have fresh : w.api.slos.find slo.key = none := by
        rw [current.2]
        exact nextSlo_fresh (List.Subset.refl _) tx.params
      refine ⟨_, _, _, .commit maxVersion slo phase fresh, ?_, trivial⟩
      unfold CreateTransaction.remaining
      rw [phase]
      exact Nat.lt_succ_self 0
  | starting | committed | failed =>
      unfold CreateTransaction.underWay at underWay
      rw [phase] at underWay
      cases underWay

theorem Orderly.progress (member : tx ∈ w.transactions.rows) (uncommitted : tx.committedSlo = none) :
    Exists fun action => Exists fun next => Alone w action ∧ w.step action = some next ∧
      next.remaining < w.remaining := by
  by_cases someone : Exists fun other => other ∈ w.transactions.rows ∧ other.underWay = true
  · rcases someone with ⟨other, inside, underWay⟩
    have found := find_of_mem inside
    rcases orderly.goes_on found underWay with ⟨action, phase, api, statement, fewer, alone⟩
    exact ⟨action, _, alone, step_eq_some.mpr (Or.inr ⟨other, phase, api, found, statement, rfl⟩),
      remaining_advance found fewer api⟩
  · have nobody : forall other, other ∈ w.transactions.rows -> other.underWay = false :=
      fun other inside => Bool.eq_false_iff.mpr fun underWay => someone ⟨other, inside, underWay⟩
    have found := find_of_mem member
    have idle := nobody tx member
    have current := orderly.current tx member
    unfold CreateTransaction.underWay at idle
    unfold CreateTransaction.committedSlo at uncommitted
    unfold CreateTransaction.Current at current
    cases phase : tx.phase with
    | starting =>
        refine ⟨.pick tx.id, _, fun other inside _ another present _ => nobody another present,
          step_eq_some.mpr (Or.inr ⟨tx, _, _, found, .pick phase, rfl⟩),
          remaining_advance found ?_ w.api⟩
        unfold CreateTransaction.remaining
        rw [phase]
        exact Nat.lt_succ_self 3
    | committed slo =>
        rw [phase] at uncommitted
        cases uncommitted
    | failed =>
        rw [phase] at current
        exact absurd current not_false
    | picked | locked | inserted =>
        rw [phase] at idle
        cases idle

end

end Progress

theorem Orderly.commits (orderly : Orderly start w) :
    Exists fun rest => Exists fun final => exec CreateWorld.step w rest = some final ∧
      forall tx, tx ∈ final.transactions.rows -> tx.committedSlo.isSome = true := by
  induction size : w.remaining using Nat.strong_induction_on generalizing w with
  | _ count ih =>
      by_cases ended : forall tx, tx ∈ w.transactions.rows -> tx.committedSlo.isSome = true
      · exact ⟨[], w, rfl, ended⟩
      · push Not at ended
        rcases ended with ⟨tx, member, open_⟩
        have uncommitted := Option.isSome_eq_false_iff.mp (Bool.eq_false_iff.mpr open_)
        rcases orderly.progress member (Option.isNone_iff_eq_none.mp uncommitted) with
          ⟨action, next, alone, stepped, fewer⟩
        rcases ih _ (size ▸ fewer) (orderly_step orderly alone stepped) rfl with
          ⟨rest, final, ran, committed⟩
        refine ⟨action :: rest, final, ?_, committed⟩
        unfold exec
        rw [stepped]
        exact ran

/-! ## Two transactions that want one version -/

/-- The transaction will insert this version of the name, or has done so, or has failed. -/
def CreateTransaction.Wants (tx : CreateTransaction) (api : Api) (name : String) (version : Int) :
    Prop :=
  tx.params.name = name ∧
    match tx.phase with
    | .starting => False
    | .picked picked => recheck api name picked = picked ∧ picked.getD 0 + 1 = version
    | .locked maxVersion => maxVersion.getD 0 + 1 = version
    | .inserted _ slo => slo.key = (name, version)
    | .committed slo => slo.key = (name, version)
    | .failed => True

/-- What is committed stays, so that no two transactions have committed one version. -/
structure Recorded (w : CreateWorld) : Prop where
  stored : forall tx slo, tx ∈ w.transactions.rows -> tx.committedSlo = some slo ->
    w.api.slos.find slo.key ≠ none
  distinct : forall tx other slo another, tx ∈ w.transactions.rows ->
    other ∈ w.transactions.rows -> tx.committedSlo = some slo ->
    other.committedSlo = some another -> slo.key = another.key -> tx.id = other.id

def Contested (w : CreateWorld) : Prop :=
  Exists fun tx => Exists fun other => Exists fun name => Exists fun version =>
    tx ∈ w.transactions.rows ∧ other ∈ w.transactions.rows ∧ tx.id ≠ other.id ∧
      tx.Wants w.api name version ∧ other.Wants w.api name version

theorem recheck_insert {api : Api} {slo : SLO} (fresh : api.slos.find slo.key = none)
    {name : String} {picked : Option Int} (still : recheck api name picked = picked) :
    recheck { api with slos := api.slos.insert slo fresh } name picked = picked := by
  cases picked with
  | none => rfl
  | some version =>
      rcases Option.map_eq_some_iff.mp still with ⟨row, found, isVersion⟩
      have kept : (api.slos.insert slo fresh).find (name, version) = some row := by
        rw [find_insert]
        split
        · rename_i same
          rw [same, fresh] at found
          cases found
        · exact found
      unfold recheck
      rw [Option.bind_some, kept, Option.map_some, isVersion]

section Statement

variable {w : CreateWorld} {tx : CreateTransaction} {action : CreateAction} {phase : CreatePhase}
  {api : Api}

section

variable (statement : Statement w tx action phase api)

include statement

theorem Statement.recheck {name : String} {picked : Option Int}
    (still : Catalog.recheck w.api name picked = picked) :
    Catalog.recheck api name picked = picked := by
  cases statement with
  | pick | lock | refuse | insert => exact still
  | commit maxVersion slo inserted fresh => exact recheck_insert fresh still

theorem Statement.wants_other {other : CreateTransaction} {name : String} {version : Int}
    (wants : other.Wants w.api name version) : other.Wants api name version := by
  refine ⟨wants.1, ?_⟩
  have wanted := wants.2
  cases otherPhase : other.phase with
  | picked picked =>
      rw [otherPhase] at wanted
      exact ⟨statement.recheck wanted.1, wanted.2⟩
  | starting | locked | inserted | committed | failed =>
      rw [otherPhase] at wanted
      exact wanted

theorem Statement.wants_self {name : String} {version : Int} (wants : tx.Wants w.api name version) :
    (tx.setPhase phase).Wants api name version := by
  rcases wants with ⟨named, wanted⟩
  refine ⟨named, ?_⟩
  cases statement with
  | pick starting =>
      rw [starting] at wanted
      exact absurd wanted not_false
  | lock picked isPicked free =>
      rw [isPicked] at wanted
      subst named
      exact (congrArg (fun picked => picked.getD 0 + 1) wanted.1).trans wanted.2
  | refuse maxVersion locked free taken => trivial
  | insert maxVersion locked free absent =>
      rw [locked] at wanted
      exact Prod.ext named wanted
  | commit maxVersion slo inserted fresh =>
      rw [inserted] at wanted
      exact wanted

end

theorem Statement.wants (statement : Statement w tx action phase api)
    (found : w.transactions.find tx.id = some tx) {other : CreateTransaction} {name : String}
    {version : Int} (member : other ∈ w.transactions.rows)
    (wants : other.Wants w.api name version) :
    Exists fun later => later ∈ (w.advance tx.id phase).rows ∧ later.id = other.id ∧
      later.Wants api name version := by
  by_cases same : other.id = tx.id
  · have isTx := eq_of_key member (find_mem found) same
    subst isTx
    refine ⟨other.setPhase phase, ?_, rfl, statement.wants_self wants⟩
    exact (mem_update _ _ _ (CreateTransaction.setPhase_id phase) _).mpr
      (Or.inr ⟨other, found, rfl⟩)
  · refine ⟨other, ?_, rfl, statement.wants_other wants⟩
    exact (mem_update _ _ _ (CreateTransaction.setPhase_id phase) _).mpr
      (Or.inl ⟨member, same⟩)

theorem Statement.keeps (statement : Statement w tx action phase api) {key : String × Int}
    (present : w.api.slos.find key ≠ none) : api.slos.find key ≠ none := by
  cases statement with
  | pick | lock | refuse | insert => exact present
  | commit maxVersion slo inserted fresh =>
      dsimp only
      rw [find_insert]
      split
      · exact Option.some_ne_none _
      · exact present

theorem Statement.commits (statement : Statement w tx action phase api) {slo : SLO}
    (committed : (tx.setPhase phase).committedSlo = some slo) :
    w.api.slos.find slo.key = none ∧ api.slos.find slo.key ≠ none := by
  cases statement with
  | pick | lock | refuse | insert => cases committed
  | commit maxVersion slo inserted fresh =>
      cases committed
      refine ⟨fresh, ?_⟩
      dsimp only
      rw [find_insert, if_pos rfl]
      exact Option.some_ne_none _

end Statement

theorem recorded_empty (initial : start.transactions = .empty) : Recorded start := by
  have nobody : forall tx, tx ∉ start.transactions.rows := by
    intro tx member
    rw [initial] at member
    exact absurd member List.not_mem_nil
  exact ⟨fun tx slo member => absurd member (nobody tx),
    fun tx other slo another member => absurd member (nobody tx)⟩

theorem recorded_step (recorded : Recorded w) (stepped : w.step action = some next) :
    Recorded next := by
  rcases step_eq_some.mp stepped with ⟨new, fresh, _, starting, same⟩ |
    ⟨changed, phase, api, found, statement, same⟩
  · subst same
    have nothing : new.committedSlo = none := by
      unfold CreateTransaction.committedSlo
      rw [starting]
    have earlier : forall tx slo, tx ∈ (w.transactions.insert new fresh).rows ->
        tx.committedSlo = some slo -> tx ∈ w.transactions.rows := by
      intro tx slo member committed
      rcases (mem_insert _ _ fresh tx).mp member with old | isNew
      · exact old
      · rw [isNew, nothing] at committed
        cases committed
    exact ⟨fun tx slo member committed =>
        recorded.stored tx slo (earlier tx slo member committed) committed,
      fun tx other slo another txIn otherIn committed committedToo =>
        recorded.distinct tx other slo another (earlier tx slo txIn committed)
          (earlier other another otherIn committedToo) committed committedToo⟩
  · subst same
    refine ⟨?_, ?_⟩
    · intro tx slo member committed
      rcases mem_advance found member with ⟨old, _⟩ | isChanged
      · exact statement.keeps (recorded.stored tx slo old committed)
      · exact (statement.commits (isChanged ▸ committed)).2
    · intro tx other slo another txIn otherIn committed committedToo sameKey
      rcases mem_advance found txIn with ⟨txOld, _⟩ | txChanged
      · rcases mem_advance found otherIn with ⟨otherOld, _⟩ | otherChanged
        · exact recorded.distinct tx other slo another txOld otherOld committed committedToo sameKey
        · have absent := (statement.commits (otherChanged ▸ committedToo)).1
          exact absurd (sameKey ▸ absent) (recorded.stored tx slo txOld committed)
      · rcases mem_advance found otherIn with ⟨otherOld, _⟩ | otherChanged
        · have absent := (statement.commits (txChanged ▸ committed)).1
          exact absurd (sameKey ▸ absent) (recorded.stored other another otherOld committedToo)
        · rw [txChanged, otherChanged]

theorem contested_step (contested : Contested w) (stepped : w.step action = some next) :
    Contested next := by
  rcases contested with ⟨tx, other, name, version, txIn, otherIn, different, wants, wantsToo⟩
  rcases step_eq_some.mp stepped with ⟨new, fresh, _, _, same⟩ |
    ⟨changed, phase, api, found, statement, same⟩
  · subst same
    exact ⟨tx, other, name, version, (mem_insert _ _ fresh tx).mpr (Or.inl txIn),
      (mem_insert _ _ fresh other).mpr (Or.inl otherIn), different, wants, wantsToo⟩
  · subst same
    rcases statement.wants found txIn wants with ⟨later, laterIn, isTx, laterWants⟩
    rcases statement.wants found otherIn wantsToo with ⟨another, anotherIn, isOther, anotherWants⟩
    exact ⟨later, another, name, version, laterIn, anotherIn,
      fun same => different (isTx.symm.trans (same.trans isOther)), laterWants, anotherWants⟩

theorem contested_uncommitted (contested : Contested w) (recorded : Recorded w) :
    ¬ forall tx, tx ∈ w.transactions.rows -> tx.committedSlo.isSome = true := by
  intro committed
  rcases contested with ⟨tx, other, name, version, txIn, otherIn, different, wants, wantsToo⟩
  have keyOf : forall {tx : CreateTransaction} {slo : SLO}, tx.committedSlo = some slo ->
      tx.Wants w.api name version -> slo.key = (name, version) := by
    intro tx slo isSlo wants
    have wanted := wants.2
    unfold CreateTransaction.committedSlo at isSlo
    cases phase : tx.phase with
    | committed row =>
        rw [phase] at isSlo wanted
        cases isSlo
        exact wanted
    | starting | picked | locked | inserted | failed =>
        rw [phase] at isSlo
        cases isSlo
  rcases Option.isSome_iff_exists.mp (committed tx txIn) with ⟨slo, isSlo⟩
  rcases Option.isSome_iff_exists.mp (committed other otherIn) with ⟨another, isAnother⟩
  refine different (recorded.distinct tx other slo another txIn otherIn isSlo isAnother ?_)
  exact (keyOf isSlo wants).trans (keyOf isAnother wantsToo).symm

theorem Orderly.wants (orderly : Orderly start w) (member : tx ∈ w.transactions.rows)
    (underWay : tx.underWay = true) :
    tx.Wants w.api tx.params.name (lastVersion w.api tx.params.name + 1) := by
  have current := orderly.current tx member
  unfold CreateTransaction.Current at current
  unfold CreateTransaction.underWay at underWay
  refine ⟨rfl, ?_⟩
  cases phase : tx.phase with
  | picked version =>
      rw [phase] at current
      subst current
      exact ⟨recheck_max w.api tx.params.name, rfl⟩
  | locked maxVersion =>
      rw [phase] at current
      subst current
      rfl
  | inserted maxVersion slo =>
      rw [phase] at current
      rw [current.2]
      exact nextSlo_key w.api tx.params
  | starting | committed | failed =>
      rw [phase] at underWay
      cases underWay

/-- A transaction that takes its snapshot while another one of the name is under way
wants the version of that one. -/
theorem contested_of_overlap (orderly : Orderly start w) (overlaps : ¬ Alone w action)
    (stepped : w.step action = some next) : Contested next := by
  rcases step_eq_some.mp stepped with ⟨tx, _, isStart, _⟩ |
    ⟨tx, phase, api, found, statement, same⟩
  · subst isStart
    exact absurd trivial overlaps
  · subst same
    cases statement with
    | pick starting =>
        unfold Alone at overlaps
        push Not at overlaps
        rcases overlaps with ⟨changed, member, isTx, other, inside, sameName, underWay⟩
        cases eq_of_key member (find_mem found) isTx
        have underWay := Bool.eq_true_of_not_eq_false underWay
        have different : other.id ≠ tx.id := by
          intro same
          cases eq_of_key inside member same
          unfold CreateTransaction.underWay at underWay
          rw [starting] at underWay
          cases underWay
        have wants := orderly.wants inside underWay
        rw [sameName] at wants
        refine ⟨tx.setPhase (.picked (w.api.maxSloVersion tx.params.name)), other, _, _, ?_, ?_,
          different.symm, ⟨rfl, recheck_max w.api tx.params.name, rfl⟩, wants⟩
        · exact (mem_update _ _ _ (CreateTransaction.setPhase_id _) _).mpr
            (Or.inr ⟨tx, found, rfl⟩)
        · exact (mem_update _ _ _ (CreateTransaction.setPhase_id _) _).mpr
            (Or.inl ⟨inside, different⟩)
    | lock | refuse | insert | commit => exact absurd trivial overlaps

theorem alone_of_commits {final : CreateWorld} {actions rest : List CreateAction}
    (orderly : Orderly start w) (recorded : Recorded w)
    (ran : exec CreateWorld.step w (actions ++ rest) = some final)
    (committed : forall tx, tx ∈ final.transactions.rows -> tx.committedSlo.isSome = true) :
    Along CreateWorld.step Alone w actions := by
  induction actions generalizing w with
  | nil => trivial
  | cons action others ih =>
      rcases exec_cons ran with ⟨next, stepped, ran⟩
      have laterRecorded := recorded_step recorded stepped
      rw [along_cons_iff stepped]
      by_cases accepted : Alone w action
      · exact ⟨accepted,
          ih (orderly_step orderly accepted stepped) laterRecorded ran⟩
      · have contested := contested_of_overlap orderly accepted stepped
        have preserves : forall state action next, Contested state ∧ Recorded state ->
            CreateWorld.step state action = some next -> Contested next ∧ Recorded next :=
          fun state action next holds stepped =>
            ⟨contested_step holds.1 stepped, recorded_step holds.2 stepped⟩
        have both := exec_preserves preserves ⟨contested, laterRecorded⟩ ran
        exact absurd committed (contested_uncommitted both.1 both.2)

/-- In every run the versions are assigned as promised exactly if no two transactions on
one name overlap. -/
theorem promised_iff_alone {start final : CreateWorld} {actions : List CreateAction}
    (initial : start.transactions = .empty)
    (ran : exec CreateWorld.step start actions = some final) :
    Promised start final ↔ Along CreateWorld.step Alone start actions := by
  constructor
  · intro promised
    rcases promised.commits with ⟨rest, later, went, committed⟩
    have whole : exec CreateWorld.step start (actions ++ rest) = some later := by
      rw [exec_append, ran]
      exact went
    exact alone_of_commits (orderly_empty initial) (recorded_empty initial) whole committed
  · intro along
    have orderly := exec_preserves_along
      (fun state action next holds accepted stepped => orderly_step holds accepted stepped)
      (orderly_empty initial) along ran
    exact ⟨orderly.contiguous, orderly.commits⟩

def latencyParams : SLOCreateParams :=
  SLODefinitionCreate.params { name := "latency", objectives := [{ sli := "p99" }] } none

def latencyRequests : List CreateAction :=
  [.start 1 latencyParams, .start 2 latencyParams, .pick 1, .lock 1, .insert 1, .commit 1,
    .pick 2, .lock 2, .insert 2, .commit 2]

theorem latency_promised : Exists fun final =>
    exec CreateWorld.step { api := Api.empty } latencyRequests = some final ∧
      Promised { api := Api.empty } final := by
  have possible : (exec CreateWorld.step { api := Api.empty } latencyRequests).isSome = true := by
    decide +kernel
  rcases Option.isSome_iff_exists.mp possible with ⟨final, ran⟩
  have alone : Along CreateWorld.step Alone { api := Api.empty } latencyRequests := by
    decide +kernel
  exact ⟨final, ran, (promised_iff_alone rfl ran).mpr alone⟩

def latencyOverlap : List CreateAction :=
  [.start 1 latencyParams, .start 2 latencyParams, .pick 1, .pick 2, .lock 1, .lock 2, .insert 1,
    .commit 1, .insert 2]

theorem latency_not_promised : Exists fun final =>
    exec CreateWorld.step { api := Api.empty } latencyOverlap = some final ∧
      ¬ Promised { api := Api.empty } final := by
  have possible : (exec CreateWorld.step { api := Api.empty } latencyOverlap).isSome = true := by
    decide +kernel
  rcases Option.isSome_iff_exists.mp possible with ⟨final, ran⟩
  refine ⟨final, ran, fun promised => ?_⟩
  rcases promised.commits with ⟨rest, later, went, committed⟩
  have whole : exec CreateWorld.step { api := Api.empty } (latencyOverlap ++ rest) = some later := by
    rw [exec_append, ran]
    exact went
  have alone := alone_of_commits (orderly_empty rfl) (recorded_empty rfl) whole committed
  revert alone
  decide +kernel

end Catalog
end Tropek
