import Mathlib.Logic.Function.Basic
import Tropek.Library.KeyedTable
import Tropek.Library.TransitionSystem

namespace Tropek
namespace Library

/-!
# Caches beside a store

A cache keeps what was once built from a store.  It is coherent when each entry is
still what would be built now.  Readers look their keys up, build the missing ones
from the store and write them back; writers change the store and delete entries.

One after the other this keeps a cache coherent as long as each writer deletes every
entry that it makes stale.  When reads and a commit interleave it does not: a reader
may build an entry before the commit and write it after the delete.  The second half
of this file says that this is the only way in which a deleted entry comes back stale.
-/

abbrev Cache (Key Value : Type) :=
  Key -> Option Value

namespace Cache

variable {Key Value : Type} [DecidableEq Key]

/-- Write entries one after the other. -/
def setMany (cache : Cache Key Value) (entries : List (Key × Value)) : Cache Key Value :=
  entries.foldl (fun cache entry => Function.update cache entry.1 (some entry.2)) cache

def deleteMany (cache : Cache Key Value) (keys : List Key) : Cache Key Value :=
  fun key => if key ∈ keys then none else cache key

/-- The keys that the cache has no entry for. -/
def missing (cache : Cache Key Value) (keys : List Key) : List Key :=
  keys.filter fun key => (cache key).isNone

variable {key : Key} {entries : List (Key × Value)} {cache : Cache Key Value}
  {render : Key -> Option Value}

theorem setMany_of_notMem (cache : Cache Key Value) (absent : key ∉ entries.map Prod.fst) :
    cache.setMany entries key = cache key := by
  induction entries generalizing cache with
  | nil => rfl
  | cons entry rest ih =>
      rw [List.map_cons, List.mem_cons, not_or] at absent
      have later := ih (Function.update cache entry.1 (some entry.2)) absent.2
      rw [Function.update_of_ne absent.1] at later
      exact later

/-- A written key has one of the entries that were written for it. -/
theorem setMany_of_mem (cache : Cache Key Value) (member : key ∈ entries.map Prod.fst) :
    Exists fun value => (key, value) ∈ entries ∧ cache.setMany entries key = some value := by
  induction entries generalizing cache with
  | nil => exact absurd member List.not_mem_nil
  | cons entry rest ih =>
      by_cases later : key ∈ rest.map Prod.fst
      · rcases ih (Function.update cache entry.1 (some entry.2)) later with
          ⟨value, inRest, found⟩
        exact ⟨value, List.mem_cons_of_mem _ inRest, found⟩
      · have same : key = entry.1 := (List.mem_cons.mp member).resolve_right later
        refine ⟨entry.2, same ▸ List.mem_cons_self, ?_⟩
        have kept := setMany_of_notMem (Function.update cache entry.1 (some entry.2)) later
        rw [same, Function.update_self] at kept
        rw [same]
        exact kept

theorem setMany_eq_some {value : Value} (found : cache.setMany entries key = some value) :
    (key, value) ∈ entries ∨ cache key = some value := by
  by_cases written : key ∈ entries.map Prod.fst
  · rcases setMany_of_mem cache written with ⟨other, member, same⟩
    rw [found] at same
    exact Or.inl (Option.some.inj same ▸ member)
  · rw [setMany_of_notMem cache written] at found
    exact Or.inr found

theorem deleteMany_eq_some {keys : List Key} {value : Value} :
    cache.deleteMany keys key = some value ↔ key ∉ keys ∧ cache key = some value := by
  unfold deleteMany
  by_cases deleted : key ∈ keys
  · rw [if_pos deleted]
    exact ⟨fun impossible => absurd impossible.symm (Option.some_ne_none value),
      fun kept => absurd deleted kept.1⟩
  · rw [if_neg deleted]
    exact ⟨fun found => ⟨deleted, found⟩, fun kept => kept.2⟩

/-- Every entry is what is built for its key. -/
def Coherent (render : Key -> Option Value) (cache : Cache Key Value) : Prop :=
  forall key value, cache key = some value -> render key = some value

theorem Coherent.setMany (coherent : Coherent render cache)
    (built : forall entry, entry ∈ entries -> render entry.1 = some entry.2) :
    Coherent render (cache.setMany entries) := by
  intro key value found
  rcases setMany_eq_some found with written | older
  · exact built _ written
  · exact coherent key value older

/-- A change of the store is harmless when the entries that it makes stale are deleted. -/
theorem Coherent.deleteMany {changed : Key -> Option Value} (coherent : Coherent render cache)
    {stale : List Key}
    (keeps : forall key value, key ∉ stale -> render key = some value -> changed key = some value) :
    Coherent changed (cache.deleteMany stale) := by
  intro key value found
  rcases deleteMany_eq_some.mp found with ⟨kept, older⟩
  exact keeps key value kept (coherent key value older)

omit [DecidableEq Key] in
/-- What a coherent cache has for some keys, and what is built for those that it misses,
is what is built for all of them. -/
theorem Coherent.read_perm {render : Key -> Option Value} {cache : Cache Key Value}
    (coherent : Coherent render cache) (keys : List Key) :
    (keys.filterMap cache ++ (cache.missing keys).filterMap render).Perm
      (keys.filterMap render) := by
  induction keys with
  | nil => exact List.Perm.refl _
  | cons key rest ih =>
      cases cached : cache key with
      | some value =>
          have hit : cache.missing (key :: rest) = cache.missing rest :=
            List.filter_cons_of_neg (by rw [cached]; exact Bool.false_ne_true)
          rw [hit, List.filterMap_cons_some cached,
            List.filterMap_cons_some (coherent key value cached), List.cons_append]
          exact ih.cons value
      | none =>
          have miss : cache.missing (key :: rest) = key :: cache.missing rest :=
            List.filter_cons_of_pos (by rw [cached]; rfl)
          rw [miss, List.filterMap_cons_none cached]
          cases built : render key with
          | none =>
              rw [List.filterMap_cons_none built, List.filterMap_cons_none built]
              exact ih
          | some value =>
              rw [List.filterMap_cons_some built, List.filterMap_cons_some built]
              exact List.perm_middle.trans (ih.cons value)

end Cache

namespace CacheRace

open Cache

variable {Store Request Key Value : Type} [DecidableEq Key]

/-- What a reader does for a request, as functions of the store that it reads.
`usesCache`: whether the request uses the cache; `inventory`: the keys that the request
is about; `build`: the entries that are built for keys, unless an exception is raised.
-/
structure Design (Store Request Key Value : Type) where
  usesCache : Request -> Bool
  inventory : Store -> Request -> List Key
  build : Store -> Request -> List Key -> Option (List (Key × Value))

/-- Where a reader is, between its reads of the store and of the cache.  `started`: the
keys have not been listed yet; `listed`: the keys are listed, the lookup in the cache
comes next; `reading`: the lookup is done, the missing keys are read from the store
next; `writing`: the entries are built, from the store before or after the commit. -/
inductive ReaderPhase (Key Value : Type) where
  | started
  | listed (keys : List Key)
  | reading (missing : List Key)
  | writing (entries : List (Key × Value)) (afterCommit : Bool)
  | finished
deriving DecidableEq

structure Reader (Request Key Value : Type) where
  id : Nat
  request : Request
  phase : ReaderPhase Key Value

def Reader.setPhase (phase : ReaderPhase Key Value) (reader : Reader Request Key Value) :
    Reader Request Key Value :=
  { reader with phase }

omit [DecidableEq Key] in
theorem Reader.setPhase_id (phase : ReaderPhase Key Value) (reader : Reader Request Key Value) :
    (reader.setPhase phase).id = reader.id :=
  rfl

/-- One writer and any number of readers.  The deletes that the writer has not sent
yet are pending, one list of keys for each command. -/
structure Race (Store Request Key Value : Type) where
  store : Store
  cache : Cache Key Value
  committed : Bool := false
  pending : List (List Key)
  deleted : List Key := []
  readers : KeyedTable (fun reader : Reader Request Key Value => reader.id) := .empty

/-- The steps of the readers and of the writer, in any interleaving.  `advance`: the
next step of a reader; `delete`: the next delete command of the writer. -/
inductive Action (Request : Type) where
  | start (readerId : Nat) (request : Request)
  | advance (readerId : Nat)
  | commit
  | delete

/-- What a step of a reader does: the entries that it writes, and its next phase. -/
def advancePhase (design : Design Store Request Key Value)
    (race : Race Store Request Key Value) (request : Request) :
    ReaderPhase Key Value -> Option (List (Key × Value) × ReaderPhase Key Value)
  | .started => some ([], .listed (design.inventory race.store request))
  | .listed keys =>
      some ([], .reading (if design.usesCache request then race.cache.missing keys else keys))
  | .reading missing =>
      if missing = [] then some ([], .finished)
      else
        match design.build race.store request missing with
        | none => some ([], .finished)
        | some entries => some ([], .writing entries race.committed)
  | .writing entries _ => some (if design.usesCache request then entries else [], .finished)
  | .finished => none

/-- One step of a reader or of the writer.  The commit replaces the store at once, and
only after it the deletes are sent, one command at a time. -/
def step (design : Design Store Request Key Value) (committing : Store)
    (race : Race Store Request Key Value) :
    Action Request -> Option (Race Store Request Key Value)
  | .start readerId request =>
      let reader : Reader Request Key Value := { id := readerId, request, phase := .started }
      if fresh : race.readers.find reader.id = none then
        some { race with readers := race.readers.insert reader fresh }
      else none
  | .advance readerId => do
      let reader <- race.readers.find readerId
      let (entries, phase) <- advancePhase design race reader.request reader.phase
      some { race with
        cache := race.cache.setMany entries
        readers := race.readers.update readerId (Reader.setPhase phase) (Reader.setPhase_id phase) }
  | .commit =>
      if race.committed then none else some { race with store := committing, committed := true }
  | .delete =>
      if race.committed then
        match race.pending with
        | [] => none
        | keys :: rest =>
            some { race with
              cache := race.cache.deleteMany keys
              pending := rest
              deleted := race.deleted ++ keys }
      else none

/-- The world before anything has started: whatever the cache holds, nobody reads it,
and the writer is about to commit. -/
def start (store : Store) (cache : Cache Key Value) (deletes : List (List Key)) :
    Race Store Request Key Value :=
  { store, cache, pending := deletes }

/-- The store before or after the commit. -/
def version (before after : Store) (committed : Bool) : Store :=
  if committed then after else before

/-- Whenever they list and read, readers build what `render` describes for the keys
that they have listed. -/
def BuildsRendered (design : Design Store Request Key Value)
    (render : Store -> Key -> Option Value) (before after : Store) : Prop :=
  forall listed read request missing entries,
    (forall key, key ∈ missing -> key ∈ design.inventory (version before after listed) request) ->
      design.build (version before after read) request missing = some entries ->
        forall entry, entry ∈ entries ->
          render (version before after read) entry.1 = some entry.2

/-- No deleted entry has come back stale: under a key of a delete that has been sent,
the cache has nothing, or what is built from the store as it is now. -/
def Fresh (render : Store -> Key -> Option Value) (race : Race Store Request Key Value) : Prop :=
  forall key value, key ∈ race.deleted -> race.cache key = some value ->
    render race.store key = some value

/-- A reader that writes an entry after its delete has read the store after the commit,
unless the commit has not changed that entry. -/
def WritesCurrent (design : Design Store Request Key Value) (render : Store -> Key -> Option Value)
    (before after : Store) (race : Race Store Request Key Value) : Action Request -> Prop
  | .advance readerId =>
      forall reader entries, race.readers.find readerId = some reader ->
        reader.phase = .writing entries false -> design.usesCache reader.request = true ->
          forall key, key ∈ entries.map Prod.fst -> key ∈ race.deleted ->
            render before key = render after key
  | _ => True

instance decidableWritesCurrent [DecidableEq Value] (design : Design Store Request Key Value)
    (render : Store -> Key -> Option Value) (before after : Store)
    (race : Race Store Request Key Value) :
    forall action, Decidable (WritesCurrent design render before after race action)
  | .advance readerId =>
      match found : race.readers.find readerId with
      | none => .isTrue fun reader entries other =>
          absurd (found.symm.trans other) (Option.some_ne_none reader).symm
      | some reader =>
          match phase : reader.phase with
          | .writing entries false =>
              decidable_of_iff
                (design.usesCache reader.request = true ->
                  forall key, key ∈ entries.map Prod.fst -> key ∈ race.deleted ->
                    render before key = render after key)
                ⟨fun current other built otherFound writing uses => by
                    cases Option.some.inj (found.symm.trans otherFound)
                    cases phase.symm.trans writing
                    exact current uses,
                  fun current => current reader entries found phase⟩
          | .writing entries true => .isTrue fun other built otherFound writing => by
              cases Option.some.inj (found.symm.trans otherFound)
              cases phase.symm.trans writing
          | .started | .listed _ | .reading _ | .finished =>
              .isTrue fun other built otherFound writing => by
                cases Option.some.inj (found.symm.trans otherFound)
                cases phase.symm.trans writing
  | .start _ _ => .isTrue trivial
  | .commit => .isTrue trivial
  | .delete => .isTrue trivial

section Invariant

variable (design : Design Store Request Key Value) (render : Store -> Key -> Option Value)
  (before after : Store)

/-- What a reader knows in a phase: the keys it has listed are in the inventory of the
store before or after the commit, and the entries it is about to write are built from
the store that it names. -/
def PhaseSound (request : Request) : ReaderPhase Key Value -> Prop
  | .listed keys | .reading keys =>
      Exists fun listed =>
        forall key, key ∈ keys -> key ∈ design.inventory (version before after listed) request
  | .writing entries afterCommit =>
      forall entry, entry ∈ entries ->
        render (version before after afterCommit) entry.1 = some entry.2
  | _ => True

/-- The invariant of the race: the store is the old or the new one, nothing is deleted
before the commit, the deletes are those of the writer in their order, and every reader
knows what its phase says. -/
structure Sound (deletes : List (List Key)) (race : Race Store Request Key Value) : Prop where
  store : race.store = version before after race.committed
  untouched : race.committed = false -> race.deleted = []
  deletes : race.deleted ++ race.pending.flatten = deletes.flatten
  readers : forall reader, reader ∈ race.readers.rows ->
    PhaseSound design render before after reader.request reader.phase

omit [DecidableEq Key] in
theorem start_sound (cache : Cache Key Value) (deletes : List (List Key)) :
    Sound design render before after deletes (start before cache deletes) where
  store := rfl
  untouched := fun _ => rfl
  deletes := List.nil_append _
  readers := fun _ member => absurd member List.not_mem_nil

end Invariant

section Steps

variable {design : Design Store Request Key Value} {render : Store -> Key -> Option Value}
  {before after : Store} {race next : Race Store Request Key Value} {deletes : List (List Key)}

theorem step_advance {readerId : Nat}
    (stepped : step design after race (.advance readerId) = some next) :
    Exists fun reader => Exists fun entries => Exists fun phase =>
      race.readers.find readerId = some reader ∧
        advancePhase design race reader.request reader.phase = some (entries, phase) ∧
        next = { race with
          cache := race.cache.setMany entries
          readers := race.readers.update readerId (Reader.setPhase phase)
            (Reader.setPhase_id phase) } := by
  rcases Option.bind_eq_some_iff.mp stepped with ⟨reader, found, stepped⟩
  rcases Option.bind_eq_some_iff.mp stepped with ⟨⟨entries, phase⟩, advanced, same⟩
  exact ⟨reader, entries, phase, found, advanced, (Option.some.inj same).symm⟩

omit [DecidableEq Key] in
/-- Only the last step of a reader writes, and it writes what it has built. -/
theorem advancePhase_writes {request : Request} {phase later : ReaderPhase Key Value}
    {entries : List (Key × Value)}
    (advanced : advancePhase design race request phase = some (entries, later)) :
    entries = [] ∨ (design.usesCache request = true ∧
      Exists fun afterCommit => phase = .writing entries afterCommit) := by
  cases phase with
  | started =>
      cases advanced
      exact Or.inl rfl
  | listed keys =>
      cases advanced
      exact Or.inl rfl
  | reading missing =>
      unfold advancePhase at advanced
      dsimp only at advanced
      split at advanced
      · cases advanced
        exact Or.inl rfl
      · cases built : design.build race.store request missing with
        | none =>
            rw [built] at advanced
            cases advanced
            exact Or.inl rfl
        | some others =>
            rw [built] at advanced
            cases advanced
            exact Or.inl rfl
  | writing built afterCommit =>
      unfold advancePhase at advanced
      cases uses : design.usesCache request with
      | false =>
          rw [uses] at advanced
          cases advanced
          exact Or.inl rfl
      | true =>
          rw [uses] at advanced
          cases advanced
          exact Or.inr ⟨rfl, afterCommit, rfl⟩
  | finished => cases advanced

omit [DecidableEq Key] in
theorem advancePhase_writing {request : Request} {built entries : List (Key × Value)}
    {afterCommit : Bool} {later : ReaderPhase Key Value} (uses : design.usesCache request = true)
    (advanced : advancePhase design race request (.writing built afterCommit) =
      some (entries, later)) : entries = built := by
  unfold advancePhase at advanced
  dsimp only at advanced
  rw [if_pos uses] at advanced
  exact (congrArg Prod.fst (Option.some.inj advanced)).symm

omit [DecidableEq Key] in
/-- Nothing is deleted before the commit. -/
theorem Sound.store_of_deleted (sound : Sound design render before after deletes race) {key : Key}
    (deleted : key ∈ race.deleted) : race.store = after := by
  have committed : race.committed = true := by
    by_contra uncommitted
    rw [sound.untouched (Bool.eq_false_iff.mpr uncommitted)] at deleted
    exact List.not_mem_nil deleted
  rw [sound.store, committed]
  rfl

omit [DecidableEq Key] in
theorem advancePhase_sound (renders : BuildsRendered design render before after)
    (store : race.store = version before after race.committed) {request : Request}
    {phase later : ReaderPhase Key Value} {entries : List (Key × Value)}
    (sound : PhaseSound design render before after request phase)
    (advanced : advancePhase design race request phase = some (entries, later)) :
    PhaseSound design render before after request later := by
  cases phase with
  | started =>
      cases advanced
      refine ⟨race.committed, fun key member => ?_⟩
      rw [<- store]
      exact member
  | listed keys =>
      cases advanced
      rcases sound with ⟨listed, inside⟩
      refine ⟨listed, fun key member => ?_⟩
      by_cases uses : design.usesCache request = true
      · rw [if_pos uses] at member
        exact inside key (List.mem_of_mem_filter member)
      · rw [if_neg uses] at member
        exact inside key member
  | reading missing =>
      unfold advancePhase at advanced
      dsimp only at advanced
      split at advanced
      · cases advanced
        exact trivial
      · cases built : design.build race.store request missing with
        | none =>
            rw [built] at advanced
            cases advanced
            exact trivial
        | some others =>
            rw [built] at advanced
            cases advanced
            rcases sound with ⟨listed, inside⟩
            rw [store] at built
            exact renders listed race.committed request missing others inside built
  | writing built afterCommit =>
      cases advanced
      exact trivial
  | finished => cases advanced

theorem Sound.step (renders : BuildsRendered design render before after) {action : Action Request}
    (sound : Sound design render before after deletes race)
    (stepped : step design after race action = some next) :
    Sound design render before after deletes next := by
  cases action with
  | start readerId request =>
      unfold CacheRace.step at stepped
      dsimp only at stepped
      split at stepped
      · rename_i unused
        cases stepped
        refine ⟨sound.store, sound.untouched, sound.deletes, fun reader member => ?_⟩
        rcases (KeyedTable.mem_insert _ _ unused _).mp member with older | same
        · exact sound.readers reader older
        · rw [same]
          exact trivial
      · cases stepped
  | advance readerId =>
      rcases step_advance stepped with ⟨reader, entries, phase, found, advanced, same⟩
      rw [same]
      refine ⟨sound.store, sound.untouched, sound.deletes, fun other member => ?_⟩
      rcases (KeyedTable.mem_update _ _ _ (Reader.setPhase_id phase) _).mp member with ⟨older, _⟩ | ⟨old, stored, changed⟩
      · exact sound.readers other older
      · cases Option.some.inj (found.symm.trans stored)
        rw [<- changed]
        exact advancePhase_sound renders sound.store
          (sound.readers reader (KeyedTable.find_mem found)) advanced
  | commit =>
      unfold CacheRace.step at stepped
      dsimp only at stepped
      split at stepped
      · cases stepped
      · rename_i fresh
        cases stepped
        have uncommitted : race.committed = false := Bool.eq_false_iff.mpr fresh
        exact ⟨rfl, fun _ => sound.untouched uncommitted, sound.deletes, sound.readers⟩
  | delete =>
      unfold CacheRace.step at stepped
      dsimp only at stepped
      split at stepped
      · rename_i committed
        cases waiting : race.pending with
        | nil =>
            rw [waiting] at stepped
            cases stepped
        | cons keys rest =>
            rw [waiting] at stepped
            cases stepped
            refine ⟨sound.store, fun impossible => ?_, ?_, sound.readers⟩
            · rw [committed] at impossible
              cases impossible
            · rw [<- sound.deletes, waiting, List.flatten_cons, List.append_assoc]
      · cases stepped

/-- A step keeps deleted entries fresh exactly if it does not write one that was built
before the commit and that the commit has changed. -/
theorem step_fresh_iff {action : Action Request}
    (sound : Sound design render before after deletes race) (fresh : Fresh render race)
    (stepped : CacheRace.step design after race action = some next) :
    Fresh render next ↔ WritesCurrent design render before after race action := by
  cases action with
  | start readerId request =>
      unfold CacheRace.step at stepped
      dsimp only at stepped
      split at stepped
      · cases stepped
        exact ⟨fun _ => trivial, fun _ => fresh⟩
      · cases stepped
  | advance readerId =>
      rcases step_advance stepped with ⟨reader, entries, phase, found, advanced, same⟩
      have phaseSound := sound.readers reader (KeyedTable.find_mem found)
      rw [same]
      constructor
      · intro later other built otherFound writing uses key written deleted
        cases Option.some.inj (found.symm.trans otherFound)
        rw [writing] at advanced phaseSound
        have isBuilt := advancePhase_writing uses advanced
        rcases setMany_of_mem race.cache written with ⟨value, member, cached⟩
        have current := later key value deleted (isBuilt ▸ cached)
        have old : render before key = some value := phaseSound (key, value) member
        rw [old, <- current, sound.store_of_deleted deleted]
      · intro current key value deleted cached
        rcases advancePhase_writes advanced with nothing | ⟨uses, afterCommit, writing⟩
        · rw [nothing] at cached
          exact fresh key value deleted cached
        · rcases setMany_eq_some cached with written | older
          · rw [writing] at advanced phaseSound
            have isBuilt := advancePhase_writing uses advanced
            rw [isBuilt] at written
            have built := phaseSound (key, value) written
            change render race.store key = some value
            rw [sound.store_of_deleted deleted]
            cases afterCommit with
            | true => exact built
            | false =>
                rw [<- current reader entries found (isBuilt ▸ writing) uses key
                  (List.mem_map_of_mem (isBuilt ▸ written)) deleted]
                exact built
          · exact fresh key value deleted older
  | commit =>
      unfold CacheRace.step at stepped
      dsimp only at stepped
      split at stepped
      · cases stepped
      · rename_i uncommitted
        cases stepped
        refine ⟨fun _ => trivial, fun _ key value deleted => ?_⟩
        dsimp only at deleted
        rw [sound.untouched (Bool.eq_false_iff.mpr uncommitted)] at deleted
        exact absurd deleted List.not_mem_nil
  | delete =>
      unfold CacheRace.step at stepped
      dsimp only at stepped
      split at stepped
      · cases waiting : race.pending with
        | nil =>
            rw [waiting] at stepped
            cases stepped
        | cons keys rest =>
            rw [waiting] at stepped
            cases stepped
            refine ⟨fun _ => trivial, fun _ key value deleted cached => ?_⟩
            rcases deleteMany_eq_some.mp cached with ⟨spared, older⟩
            have before := (List.mem_append.mp deleted).resolve_right spared
            exact fresh key value before older
      · cases stepped

end Steps

section Runs

variable {design : Design Store Request Key Value} {render : Store -> Key -> Option Value}
  {before after : Store} {cache : Cache Key Value} {deletes : List (List Key)}
  {actions : List (Action Request)} {final : Race Store Request Key Value}

section

variable (renders : BuildsRendered design render before after)
  (ran : TransitionSystem.exec (step design after) (start before cache deletes) actions = some final)

include renders ran

/-- In the states of a run no deleted entry is stale exactly if every reader that
writes one has read the store after the commit, or has built what is built now. -/
theorem always_fresh_iff :
    TransitionSystem.Always (step design after) (Fresh render) (start before cache deletes) actions ↔
      TransitionSystem.Along (step design after) (WritesCurrent design render before after)
        (start before cache deletes) actions := by
  let first : Race Store Request Key Value := start before cache deletes
  have nothing : Fresh render first := fun _ _ deleted => absurd deleted List.not_mem_nil
  exact TransitionSystem.always_iff_along_of_invariant
    (fun _ _ _ sound stepped => Sound.step renders sound stepped)
    (fun _ _ _ sound fresh stepped => step_fresh_iff sound fresh stepped)
    (start_sound design render before after cache deletes) nothing ran

/-- When the writer has sent all its deletes, a fresh state has no stale entry for any
of their keys. -/
theorem fresh_of_finished
    (current : TransitionSystem.Along (step design after) (WritesCurrent design render before
      after) (start before cache deletes) actions)
    (finished : final.pending = []) {key : Key} {value : Value} (touched : key ∈ deletes.flatten)
    (cached : final.cache key = some value) : render final.store key = some value := by
  have sound : Sound design render before after deletes final :=
    TransitionSystem.exec_preserves (fun _ _ _ sound stepped => Sound.step renders sound stepped)
      (start_sound design render before after cache deletes) ran
  have deleted : key ∈ final.deleted := by
    have all := sound.deletes
    rw [finished, List.flatten_nil, List.append_nil] at all
    rw [all]
    exact touched
  have fresh := (always_fresh_iff renders ran).mpr current actions [] final
    (List.append_nil _).symm ran
  exact fresh key value deleted cached

end

end Runs

end CacheRace

end Library
end Tropek
