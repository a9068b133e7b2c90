import Mathlib.Data.List.Induction
import Mathlib.Order.Basic

namespace Tropek
namespace Library

/-!
# Tracks

A track is one quantity over time, known from observations in order of their
time: an observation gives the value that holds from then on, or says that
there is none.  A recorder turns the observations into spans, closing the open
span when the value changes or ends and leaving it alone when the value is
repeated.

The spans of a recorder show at every instant the value that the observations
give it, and they follow each other without overlap.
-/

namespace Tracks

variable {Value : Type}

structure Observation (Value : Type) where
  time : Int
  value : Option Value

/-- A value from `start` on, until `stop` if there is one. -/
structure Span (Value : Type) where
  value : Value
  start : Int
  stop : Option Int

/-- The instant lies in the span, which is closed on the left and open on the
right. -/
def Span.Covers (span : Span Value) (time : Int) : Prop :=
  span.start ≤ time ∧ forall stop, span.stop = some stop -> time < stop

/-- Some span of the list has the value at the instant. -/
def Shows (spans : List (Span Value)) (time : Int) (value : Value) : Prop :=
  Exists fun span => span ∈ spans ∧ span.value = value ∧ span.Covers time

/-- One span ends before or when the other one begins. -/
def Span.Precedes (first second : Span Value) : Prop :=
  Exists fun stop => first.stop = some stop ∧ stop ≤ second.start

/-- The value after a list of observations. -/
def after (current : Option Value) (observations : List (Observation Value)) : Option Value :=
  observations.foldl (fun _ observation => observation.value) current

/-- The value in effect at an instant. -/
def valueAt (observations : List (Observation Value)) (time : Int) : Option Value :=
  after none (observations.filter (·.time ≤ time))

/-- The value and the time of the latest observation that says something: a
value, or the end of one. -/
def notice (seen : Option Value × Option Int) (observation : Observation Value) :
    Option Value × Option Int :=
  match observation.value, seen.1 with
  | none, none => seen
  | value, _ => (value, some observation.time)

/-- The time of the latest observation that says something. -/
def lastSeen (observations : List (Observation Value)) : Option Int :=
  (observations.foldl notice (none, none)).2

/-- Observations in order of their time. -/
def Chronological (observations : List (Observation Value)) : Prop :=
  observations.Pairwise fun first second => first.time ≤ second.time

theorem valueAt_append (observations : List (Observation Value)) (last : Observation Value)
    (instant : Int) :
    valueAt (observations ++ [last]) instant =
      if last.time ≤ instant then last.value else valueAt observations instant := by
  unfold valueAt after
  rw [List.filter_append, List.foldl_append]
  by_cases late : last.time ≤ instant
  · simp only [late, List.filter_cons, decide_true, if_true, List.filter_nil, List.foldl_cons,
      List.foldl_nil]
  · simp only [late, List.filter_cons, decide_false, Bool.false_eq_true, if_false, List.filter_nil,
      List.foldl_nil]

theorem after_append (current : Option Value) (observations : List (Observation Value))
    (last : Observation Value) : after current (observations ++ [last]) = last.value := by
  unfold after
  rw [List.foldl_append]
  rfl

theorem notice_fst (seen : Option Value × Option Int) (observation : Observation Value) :
    (notice seen observation).1 = observation.value := by
  rcases seen with ⟨held, time⟩
  rcases observation with ⟨now, value⟩
  cases value with
  | none => cases held <;> rfl
  | some value => rfl

theorem lastSeen_append (observations : List (Observation Value)) (last : Observation Value) :
    lastSeen (observations ++ [last]) =
      if last.value = none ∧ after none observations = none then lastSeen observations
      else some last.time := by
  have held : (observations.foldl notice (none, none)).1 = after none observations := by
    rcases List.eq_nil_or_concat observations with empty | ⟨rest, final, split⟩
    · rw [empty]
      rfl
    · rw [split, List.concat_eq_append, List.foldl_append, after_append]
      exact notice_fst _ final
  unfold lastSeen
  rw [List.foldl_append, <- held]
  rcases last with ⟨now, value⟩
  generalize observations.foldl notice (none, none) = seen
  rcases seen with ⟨current, time⟩
  cases value with
  | none => cases current <;> simp [notice]
  | some value => simp [notice]

theorem shows_append (first second : List (Span Value)) (time : Int) (value : Value) :
    Shows (first ++ second) time value ↔ Shows first time value ∨ Shows second time value := by
  unfold Shows
  simp only [List.mem_append, or_and_right, exists_or]

theorem shows_singleton (span : Span Value) (time : Int) (value : Value) :
    Shows [span] time value ↔ span.value = value ∧ span.Covers time := by
  unfold Shows
  simp only [List.mem_singleton, exists_eq_left]

theorem covers_open (value : Value) (start time : Int) :
    (Span.mk value start none).Covers time ↔ start ≤ time := by
  unfold Span.Covers
  simp

theorem covers_closed (value : Value) (start stop time : Int) :
    (Span.mk value start (some stop)).Covers time ↔ start ≤ time ∧ time < stop := by
  unfold Span.Covers
  simp

/-- Spans of which one precedes the other have no instant in common. -/
theorem Span.Precedes.disjoint {first second : Span Value} (precedes : first.Precedes second)
    {time : Int} (inFirst : first.Covers time) : ¬ second.Covers time := by
  rcases precedes with ⟨stop, ends, early⟩
  have before := inFirst.2 stop ends
  rintro ⟨inSecond, _⟩
  omega

/-- The end of a span, where an open one ends at the limit. -/
def Span.finish (limit : Int) (span : Span Value) : Int :=
  span.stop.getD limit

/-- Keep the later of two times, the first one if they are equal. -/
def later (latest : Option Int) (time : Int) : Option Int :=
  match latest with
  | none => some time
  | some known => if known < time then some time else some known

/-- The latest of times in order is the last of them. -/
theorem foldl_later {times : List Int} (ordered : times.Pairwise (· ≤ ·)) :
    times.foldl later none = times.getLast? := by
  induction times using List.reverseRecOn with
  | nil => rfl
  | append_singleton rest last ih =>
      rcases List.pairwise_append.mp ordered with ⟨before, _, below⟩
      rw [List.foldl_append, ih before, List.getLast?_concat]
      cases found : rest.getLast? with
      | none => rfl
      | some known =>
          have notLater := below known (List.mem_of_getLast? found) last List.mem_cons_self
          simp only [List.foldl_cons, List.foldl_nil, later]
          split
          · rfl
          · congr
            omega

structure Recorder (Value : Type) where
  finished : List (Span Value) := []
  current : Option (Value × Int) := none

namespace Recorder

variable {recorder : Recorder Value}

/-- The spans so far, with the open one last. -/
def spans (recorder : Recorder Value) : List (Span Value) :=
  recorder.finished ++ recorder.current.toList.map fun held => ⟨held.1, held.2, none⟩

/-- What the recorder knows by a time: the finished spans have ended, the open
one has begun, and each span precedes those after it. -/
structure UpTo (recorder : Recorder Value) (now : Int) : Prop where
  closed : forall span, span ∈ recorder.finished ->
    Exists fun stop => span.stop = some stop ∧ span.start ≤ stop ∧ stop ≤ now
  began : forall held, recorder.current = some held -> held.2 ≤ now
  ordered : recorder.spans.Pairwise Span.Precedes

variable {now time : Int} {span : Span Value}

theorem UpTo.later (upTo : recorder.UpTo now) (notEarlier : now ≤ time) :
    recorder.UpTo time where
  closed := fun span member => by
    rcases upTo.closed span member with ⟨stop, ends, positive, early⟩
    exact ⟨stop, ends, positive, Int.le_trans early notEarlier⟩
  began := fun held isCurrent => Int.le_trans (upTo.began held isCurrent) notEarlier
  ordered := upTo.ordered

theorem upTo_empty (now : Int) : ({} : Recorder Value).UpTo now where
  closed := fun _ impossible => absurd impossible List.not_mem_nil
  began := fun _ impossible => nomatch impossible
  ordered := List.Pairwise.nil

section

variable (upTo : recorder.UpTo now)

include upTo

/-- The finished spans show nothing from then on. -/
theorem UpTo.finished_past (late : now ≤ time) (value : Value) :
    ¬ Shows recorder.finished time value := by
  rintro ⟨span, member, _, covered⟩
  rcases upTo.closed span member with ⟨stop, ends, _, early⟩
  have inside := covered.2 stop ends
  omega

theorem UpTo.precedes (member : span ∈ recorder.finished) {next : Span Value}
    (late : now ≤ next.start) : span.Precedes next := by
  rcases upTo.closed span member with ⟨stop, ends, _, early⟩
  exact ⟨stop, ends, Int.le_trans early late⟩

/-- A finished span precedes the open one, also after that one is closed. -/
theorem UpTo.precedes_current {since : Int} {held : Value}
    (isCurrent : recorder.current = some (held, since)) (member : span ∈ recorder.finished)
    (stop : Option Int) : span.Precedes ⟨held, since, stop⟩ := by
  have ordered := upTo.ordered
  unfold spans at ordered
  rw [isCurrent] at ordered
  exact (List.pairwise_append.mp ordered).2.2 span member ⟨held, since, none⟩ List.mem_cons_self

/-- An open span shows its value from its start on. -/
theorem shows_current {instant : Int} {held : Value × Int}
    (isCurrent : recorder.current = some held) (late : now ≤ instant) (value : Value) :
    Shows recorder.spans instant value ↔ held.1 = value := by
  unfold spans
  rw [shows_append, isCurrent]
  simp only [Option.toList_some, List.map_cons, List.map_nil, shows_singleton, covers_open]
  constructor
  · rintro (shown | ⟨same, _⟩)
    · exact absurd shown (upTo.finished_past late value)
    · exact same
  · exact fun same => Or.inr ⟨same, Int.le_trans (upTo.began held isCurrent) late⟩

end

/-- Close the open span, if there is one. -/
def close (recorder : Recorder Value) (time : Int) : Recorder Value where
  finished := recorder.finished ++
    recorder.current.toList.map fun held => ⟨held.1, held.2, some time⟩
  current := none

theorem close_upTo (upTo : recorder.UpTo now) (notEarlier : now ≤ time) :
    (recorder.close time).UpTo time := by
  have later := upTo.later notEarlier
  cases isCurrent : recorder.current with
  | none =>
      have same : recorder.close time = recorder := by
        cases recorder
        unfold close
        simp_all
      rw [same]
      exact later
  | some held =>
      rcases held with ⟨value, since⟩
      have began := later.began _ isCurrent
      have finished : (recorder.close time).finished =
          recorder.finished ++ [⟨value, since, some time⟩] := by
        unfold close
        rw [isCurrent]
        rfl
      refine ⟨?_, (fun _ impossible => nomatch impossible), ?_⟩
      · rw [finished]
        intro span member
        rcases List.mem_append.mp member with old | new
        · exact later.closed span old
        · rw [List.mem_singleton.mp new]
          exact ⟨time, rfl, began, Int.le_refl time⟩
      · unfold spans
        rw [finished]
        simp only [close, Option.toList_none, List.map_nil, List.append_nil]
        refine List.pairwise_append.mpr ⟨?_, List.pairwise_singleton _ _, ?_⟩
        · exact (List.pairwise_append.mp upTo.ordered).1
        · intro span member next isNew
          rw [List.mem_singleton.mp isNew]
          exact upTo.precedes_current isCurrent member (some time)

/-- Closing takes away what the recorder showed from then on, and nothing else. -/
theorem shows_close (upTo : recorder.UpTo now) (notEarlier : now ≤ time) (instant : Int)
    (value : Value) :
    Shows (recorder.close time).spans instant value ↔
      instant < time ∧ Shows recorder.spans instant value := by
  have past : time ≤ instant -> ¬ Shows recorder.finished instant value :=
    fun late => upTo.finished_past (Int.le_trans notEarlier late) value
  unfold spans close
  rw [shows_append, shows_append, shows_append]
  cases recorder.current with
  | none =>
      have nothing : ¬ Shows ([] : List (Span Value)) instant value := by
        rintro ⟨_, impossible, _⟩
        exact List.not_mem_nil impossible
      simp only [Option.toList_none, List.map_nil, nothing, or_false]
      constructor
      · intro shown
        exact ⟨Int.not_le.mp fun late => past late shown, shown⟩
      · exact And.right
  | some held =>
      have nothing : ¬ Shows ([] : List (Span Value)) instant value := by
        rintro ⟨_, impossible, _⟩
        exact List.not_mem_nil impossible
      simp only [Option.toList_some, Option.toList_none, List.map_cons, List.map_nil,
        shows_singleton, covers_open, covers_closed, nothing, or_false]
      constructor
      · rintro (shown | ⟨same, began, early⟩)
        · exact ⟨Int.not_le.mp fun late => past late shown, Or.inl shown⟩
        · exact ⟨early, Or.inr ⟨same, began⟩⟩
      · rintro ⟨early, shown | ⟨same, began⟩⟩
        · exact Or.inl shown
        · exact Or.inr ⟨same, began, early⟩

/-- Begin a span when none is open. -/
def start (recorder : Recorder Value) (value : Value) (time : Int) : Recorder Value :=
  { recorder with current := some (value, time) }

theorem start_upTo (upTo : recorder.UpTo time) (value : Value) :
    (recorder.start value time).UpTo time where
  closed := upTo.closed
  began := fun held isCurrent => by
    cases isCurrent
    exact Int.le_refl time
  ordered := by
    refine List.pairwise_append.mpr ⟨?_, List.pairwise_singleton _ _, ?_⟩
    · exact (List.pairwise_append.mp upTo.ordered).1
    · intro span member next isNew
      rw [List.mem_singleton.mp isNew]
      exact upTo.precedes member (Int.le_refl time)

theorem shows_start (vacant : recorder.current = none) (value : Value) (time instant : Int)
    (shown : Value) :
    Shows (recorder.start value time).spans instant shown ↔
      Shows recorder.spans instant shown ∨ value = shown ∧ time ≤ instant := by
  unfold spans start
  rw [vacant, shows_append]
  simp only [Option.toList_some, Option.toList_none, List.map_cons, List.map_nil, List.append_nil,
    shows_singleton, covers_open]

theorem UpTo.length {stop : Int} (upTo : recorder.UpTo now) (member : span ∈ recorder.spans)
    (ends : span.stop = some stop) : span.start ≤ stop := by
  unfold spans at member
  rcases List.mem_append.mp member with old | isOpen
  · rcases upTo.closed span old with ⟨known, same, positive, _⟩
    rw [ends] at same
    rw [Option.some.inj same]
    exact positive
  · rcases List.mem_map.mp isOpen with ⟨held, _, same⟩
    rw [<- same] at ends
    cases ends

/-- The ends of recorded spans are in order. -/
theorem UpTo.finish_ordered {limit : Int} (upTo : recorder.UpTo now) (early : now ≤ limit) :
    (recorder.spans.map (Span.finish limit)).Pairwise (· ≤ ·) := by
  have lengths : forall span, span ∈ recorder.spans -> span.start ≤ span.finish limit := by
    intro span member
    unfold spans at member
    rcases List.mem_append.mp member with old | isOpen
    · rcases upTo.closed span old with ⟨stop, ends, positive, _⟩
      unfold Span.finish
      rw [ends]
      exact positive
    · rcases List.mem_map.mp isOpen with ⟨held, isCurrent, same⟩
      rw [<- same]
      exact Int.le_trans (upTo.began held (Option.mem_toList.mp isCurrent)) early
  rw [List.pairwise_map]
  refine (List.Pairwise.and_mem.mp upTo.ordered).imp fun {first second} here => ?_
  rcases here with ⟨_, isSecond, stop, ends, notLater⟩
  have finishes : first.finish limit = stop := by
    unfold Span.finish
    rw [ends]
    rfl
  rw [finishes]
  exact Int.le_trans notLater (lengths second isSecond)

variable [DecidableEq Value]

/-- A repeated value leaves the open span alone. -/
def observe (recorder : Recorder Value) (observation : Observation Value) : Recorder Value :=
  match observation.value with
  | none => recorder.close observation.time
  | some value =>
      match recorder.current with
      | none => recorder.start value observation.time
      | some held =>
          if held.1 = value then recorder
          else (recorder.close observation.time).start value observation.time

section

variable (upTo : recorder.UpTo now) (observation : Observation Value)
  (notEarlier : now ≤ observation.time)

include upTo observation notEarlier

theorem observe_upTo : (recorder.observe observation).UpTo observation.time := by
  unfold observe
  cases observation.value with
  | none => exact close_upTo upTo notEarlier
  | some value =>
      cases isCurrent : recorder.current with
      | none => exact start_upTo (upTo.later notEarlier) value
      | some held =>
          dsimp only
          split
          · exact upTo.later notEarlier
          · exact start_upTo (close_upTo upTo notEarlier) value

/-- An observation decides what is shown from its time on, and changes nothing
before. -/
theorem shows_observe (instant : Int) (value : Value) :
    Shows (recorder.observe observation).spans instant value ↔
      if observation.time ≤ instant then observation.value = some value
      else Shows recorder.spans instant value := by
  unfold observe
  cases observation.value with
  | none =>
      dsimp only
      rw [shows_close upTo notEarlier]
      split
      · rename_i late
        simp only [reduceCtorEq, iff_false, not_and]
        exact fun early => absurd late (Int.not_le.mpr early)
      · rename_i early
        exact and_iff_right (Int.not_le.mp early)
  | some new =>
      dsimp only
      cases isCurrent : recorder.current with
      | none =>
          dsimp only
          rw [shows_start isCurrent]
          have vacant : observation.time ≤ instant -> ¬ Shows recorder.spans instant value := by
            intro late
            unfold spans
            rw [isCurrent]
            change ¬ Shows (recorder.finished ++ []) instant value
            rw [List.append_nil]
            exact upTo.finished_past (Int.le_trans notEarlier late) value
          split
          · rename_i late
            simp only [vacant late, late, and_true, false_or, Option.some.injEq]
          · rename_i early
            simp only [early, and_false, or_false]
      | some held =>
          dsimp only
          by_cases same : held.1 = new
          · rw [if_pos same]
            split
            · rename_i late
              rw [shows_current upTo isCurrent (Int.le_trans notEarlier late), same,
                Option.some.injEq]
            · rfl
          · rw [if_neg same, shows_start rfl, shows_close upTo notEarlier]
            split
            · rename_i late
              simp only [Int.not_lt.mpr late, late, false_and, and_true, false_or,
                Option.some.injEq]
            · rename_i early
              simp only [Int.not_le.mp early, early, and_false, or_false, true_and]

end

theorem observe_current (observation : Observation Value) :
    (recorder.observe observation).current.map Prod.fst = observation.value := by
  unfold observe
  cases observation.value with
  | none => rfl
  | some value =>
      cases isCurrent : recorder.current with
      | none => rfl
      | some held =>
          dsimp only
          split
          · rename_i same
            rw [isCurrent, <- same]
            rfl
          · rfl

end Recorder

variable [DecidableEq Value]

def record (observations : List (Observation Value)) : Recorder Value :=
  observations.foldl Recorder.observe {}

theorem record_append (observations : List (Observation Value)) (last : Observation Value) :
    record (observations ++ [last]) = (record observations).observe last := by
  unfold record
  rw [List.foldl_append]
  rfl

variable {observations : List (Observation Value)}

section

variable (chronological : Chronological observations)

include chronological

/-- Everything recorded lies before every time that is not before the
observations. -/
theorem record_upTo {now : Int}
    (early : forall observation, observation ∈ observations -> observation.time ≤ now) :
    (record observations).UpTo now := by
  induction observations using List.reverseRecOn generalizing now with
  | nil => exact Recorder.upTo_empty now
  | append_singleton rest last ih =>
      rcases List.pairwise_append.mp chronological with ⟨before, _, ordered⟩
      have upTo := ih before
        fun observation member => ordered observation member last List.mem_cons_self
      rw [record_append]
      exact (Recorder.observe_upTo upTo last (Int.le_refl _)).later
        (early last (List.mem_append_right _ List.mem_cons_self))

theorem exists_upTo : Exists fun now => (record observations).UpTo now := by
  rcases List.eq_nil_or_concat observations with empty | ⟨rest, last, split⟩
  · rw [empty]
    exact ⟨0, Recorder.upTo_empty 0⟩
  · rw [List.concat_eq_append] at split
    subst split
    rcases List.pairwise_append.mp chronological with ⟨_, _, ordered⟩
    refine ⟨last.time, record_upTo chronological fun observation member => ?_⟩
    rcases List.mem_append.mp member with old | new
    · exact ordered observation old last List.mem_cons_self
    · exact Int.le_of_eq (congrArg Observation.time (List.mem_singleton.mp new))

theorem record_ordered : (record observations).spans.Pairwise Span.Precedes := by
  rcases exists_upTo chronological with ⟨_, upTo⟩
  exact upTo.ordered

theorem record_length {span : Span Value} (member : span ∈ (record observations).spans) {stop : Int}
    (ends : span.stop = some stop) : span.start ≤ stop := by
  rcases exists_upTo chronological with ⟨_, upTo⟩
  exact upTo.length member ends

/-- The spans are in order of their starts. -/
theorem record_starts :
    (record observations).spans.Pairwise fun first second => first.start ≤ second.start := by
  refine (List.Pairwise.and_mem.mp (record_ordered chronological)).imp fun {first second} here => ?_
  rcases here with ⟨isFirst, _, stop, ends, notLater⟩
  exact Int.le_trans (record_length chronological isFirst ends) notLater

/-- The spans show what the observations say: at an instant some span has a value
exactly when that value is in effect then. -/
theorem shows_record (instant : Int) (value : Value) :
    Shows (record observations).spans instant value ↔
      valueAt observations instant = some value := by
  induction observations using List.reverseRecOn with
  | nil =>
      constructor
      · rintro ⟨_, impossible, _⟩
        exact absurd impossible List.not_mem_nil
      · exact fun impossible => nomatch impossible
  | append_singleton rest last ih =>
      rcases List.pairwise_append.mp chronological with ⟨before, _, ordered⟩
      have upTo := record_upTo before
        fun observation member => ordered observation member last List.mem_cons_self
      rw [record_append, valueAt_append, Recorder.shows_observe upTo last (Int.le_refl _)]
      split
      · rfl
      · exact ih before

end

theorem record_current (observations : List (Observation Value)) :
    (record observations).current.map Prod.fst = after none observations := by
  rcases List.eq_nil_or_concat observations with empty | ⟨rest, last, split⟩
  · rw [empty]
    rfl
  · rw [split, List.concat_eq_append, record_append, after_append, Recorder.observe_current]

/-- A track without a value at its end was last seen when its last span ended. -/
theorem lastSeen_of_ended (ended : after none observations = none) :
    lastSeen observations = (record observations).finished.getLast?.bind (·.stop) := by
  induction observations using List.reverseRecOn with
  | nil => rfl
  | append_singleton rest last ih =>
      rw [after_append] at ended
      rw [lastSeen_append, record_append]
      have held := record_current rest
      unfold Recorder.observe
      rw [ended]
      dsimp only [Recorder.close]
      cases isCurrent : (record rest).current with
      | none =>
          rw [isCurrent] at held
          rw [if_pos ⟨rfl, held.symm⟩, ih held.symm, Option.toList_none,
            List.map_nil, List.append_nil]
      | some current =>
          rw [isCurrent] at held
          have here : after none rest ≠ none := by
            rw [<- held]
            exact Option.some_ne_none _
          rw [if_neg fun both => here both.2, Option.toList_some, List.map_singleton,
            List.getLast?_append]
          rfl

/-- A track has no span exactly when no observation gives a value. -/
theorem record_spans_eq_nil (observations : List (Observation Value)) :
    (record observations).spans = [] ↔
      forall observation, observation ∈ observations -> observation.value = none := by
  induction observations using List.reverseRecOn with
  | nil => exact ⟨fun _ _ impossible => absurd impossible List.not_mem_nil, fun _ => rfl⟩
  | append_singleton rest last ih =>
      have split : (forall observation, observation ∈ rest ++ [last] -> observation.value = none) ↔
          (record rest).spans = [] ∧ last.value = none := by
        rw [ih]
        simp only [List.mem_append, List.mem_singleton, or_imp, forall_and, forall_eq]
      rw [split, record_append]
      unfold Recorder.observe
      cases last.value with
      | none => simp [Recorder.close, Recorder.spans]
      | some value =>
          cases isCurrent : (record rest).current with
          | none => simp [Recorder.start, Recorder.spans]
          | some held =>
              dsimp only
              split
              · simp [Recorder.spans, isCurrent]
              · simp [Recorder.start, Recorder.spans]

/-- The latest end of a track: the limit while a value is in effect, and the time
at which the track was last seen after that. -/
theorem latest_finish (chronological : Chronological observations) {limit : Int}
    (early : forall observation, observation ∈ observations -> observation.time ≤ limit) :
    ((record observations).spans.map (Span.finish limit)).foldl later none =
      if (after none observations).isSome then some limit else lastSeen observations := by
  have upTo := record_upTo chronological early
  rw [foldl_later (upTo.finish_ordered (Int.le_refl limit)), List.getLast?_map]
  have held := record_current observations
  unfold Recorder.spans
  cases isCurrent : (record observations).current with
  | none =>
      rw [isCurrent] at held
      have ended : after none observations = none := held.symm
      rw [ended, lastSeen_of_ended ended, Option.toList_none, List.map_nil, List.append_nil]
      cases found : (record observations).finished.getLast? with
      | none => rfl
      | some span =>
          rcases upTo.closed span (List.mem_of_getLast? found) with ⟨stop, ends, _⟩
          simp [Span.finish, ends]
  | some current =>
      rw [isCurrent] at held
      rw [<- held, Option.toList_some, List.map_singleton, List.getLast?_concat]
      rfl

end Tracks
end Library
end Tropek
