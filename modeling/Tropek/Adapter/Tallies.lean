import Mathlib.Data.List.Dedup
import Tropek.Adapter.Indicators
import Tropek.Adapter.Submissions

namespace Tropek
namespace Adapter

open Library Engine Store Registry

/-!
# Tallies of a job

The counters of a job and its results while its queries run.  A query of a countable job
owes one result and one count until it has written them.  What is counted and what is still
owed add up to the total, and so do the results, as long as the job is not cancelled.
-/

variable {methods : List AggregationMethod} {query : String × SpecDict} {kind : ResultCall -> Bool}
  {calls : List ResultCall} {tasks : List QueryTask}

theorem keys_byMethod {α : Type} (sliName : String) (one : methods.dedup.length = 1)
    (valueOf : AggregationMethod -> α) :
    Exists fun method => method ∈ methods ∧
      (byMethod sliName methods valueOf).keys = [methodKey sliName method] := by
  rcases List.length_eq_one_iff.mp one with ⟨method, distinct⟩
  have only : forall other, other ∈ methods ↔ other = method := by
    intro other
    rw [<- List.mem_dedup, distinct, List.mem_singleton]
  refine ⟨method, (only method).mpr rfl, ?_⟩
  have members : forall name, name ∈ (byMethod sliName methods valueOf).keys ↔
      name ∈ [methodKey sliName method] := by
    intro name
    rw [mem_byMethod]
    simp [only, eq_comm]
  exact List.perm_singleton.mp
    ((List.perm_ext_iff_of_nodup (AList.keys_nodup _) (List.nodup_singleton _)).mpr members)

inductive Reports (query : String × SpecDict) : List ResultCall -> Prop where
  | calls {name : String} {result : StoredResult} {success : Bool} {rest : List ResultCall}
      (possible : name ∈ possibleNames query)
      (closing : rest.all ResultCall.isMetadata = true) :
      Reports query (.setResult name result :: .count success :: rest)

theorem reports_failure (query : String × SpecDict) (message queryExecuted : String) :
    Reports query (writeResult query.1 none false message queryExecuted) :=
  .calls List.mem_cons_self rfl

theorem reports_answered {values : Dict (Option ℚ)} {name : String} (one : values.keys = [name])
    (possible : name ∈ possibleNames query) (errors : Dict String)
    (metadata : Option QueryMetadata) :
    Reports query (recordCalls query.1 query.2 (.answered values errors metadata)) := by
  have closing : (metadata.toList.map (ResultCall.setMetadata query.1)).all
      ResultCall.isMetadata = true := by
    cases metadata <;> rfl
  rcases List.map_eq_singleton_iff.mp one with ⟨entry, entries, isName⟩
  subst isName
  have calls : recordCalls query.1 query.2 (.answered values errors metadata) =
      writeResult entry.1 entry.2 (errors.lookup entry.1).isNone
        ((errors.lookup entry.1).getD "") query.2.queryExecuted ++
        metadata.toList.map (ResultCall.setMetadata query.1) := by
    unfold recordCalls
    dsimp only
    rw [entries, List.flatMap_singleton]
  rw [calls]
  exact .calls possible closing

theorem reports_byMethod (asked : query.2.asked = some methods) (one : methods.dedup.length = 1)
    (valueOf : AggregationMethod -> Option ℚ) (errors : Dict String)
    (metadata : Option QueryMetadata) :
    Reports query (recordCalls query.1 query.2
      (.answered (byMethod query.1 methods valueOf) errors metadata)) := by
  rcases keys_byMethod query.1 one valueOf with ⟨method, isAsked, keys⟩
  refine reports_answered keys (List.mem_cons_of_mem _ ?_) errors metadata
  rw [asked]
  exact List.mem_map_of_mem isAsked

theorem reports_single (value : Option ℚ) (errors : Dict String) :
    Reports query (recordCalls query.1 query.2 (.answered (single query.1 value) errors none)) :=
  reports_answered rfl List.mem_cons_self errors none

/-- Whatever the client answers, a query whose spec names at most one method has one result
to write. -/
theorem reports_execute
    (countable : forall methods, methods ∈ query.2.asked -> methods.dedup.length = 1)
    (client : PrometheusClient) (vars : Dict String) (start finish : Instant) :
    Reports query (recordCalls query.1 query.2
      (execute client query.1 query.2 vars start finish)) := by
  unfold execute
  by_cases aggregated : query.2.modeName = "aggregated"
  · rw [if_pos aggregated]
    unfold executeAggregated
    cases read : aggregatedSpec query.2 with
    | error message => exact reports_failure query _ _
    | ok parts =>
        rcases parts with ⟨template, interval, methods⟩
        have asked : query.2.asked = some methods := by
          unfold SpecDict.asked
          rw [if_pos aggregated, read]
        have one := countable methods asked
        dsimp only
        split
        · exact reports_byMethod asked one _ _ _
        · split
          · exact reports_byMethod asked one _ _ _
          · rename_i sent _
            cases client.fetchRange sent with
            | raised message => exact reports_failure query _ _
            | fetched stats metadata => exact reports_byMethod asked one _ _ _
  · rw [if_neg aggregated]
    unfold executeRaw
    split
    · exact reports_failure query _ _
    · split
      · exact reports_single _ _
      · rename_i sent _
        cases client.instantQuery sent with
        | value value => exact reports_single _ _
        | queryError message => exact reports_single _ _
        | raised message => exact reports_failure query _ _

def ResultCall.isResult : ResultCall -> Bool
  | .setResult _ _ => true
  | .count _ => false
  | .setMetadata _ _ => false

def ResultCall.isCount : ResultCall -> Bool
  | .setResult _ _ => false
  | .count _ => true
  | .setMetadata _ _ => false

def QueryTask.owes (kind : ResultCall -> Bool) : QueryTask -> Bool
  | .waiting _ _ => true
  | .executing _ _ => true
  | .writing calls => calls.any kind

def owed (kind : ResultCall -> Bool) (tasks : List QueryTask) : Nat :=
  tasks.countP (QueryTask.owes kind)

inductive TaskOf (query : String × SpecDict) : QueryTask -> Prop where
  | waiting : TaskOf query (.waiting query.1 query.2)
  | executing : TaskOf query (.executing query.1 query.2)
  | reporting {calls : List ResultCall} (reports : Reports query calls) :
      TaskOf query (.writing calls)
  | counting {success : Bool} {rest : List ResultCall}
      (closing : rest.all ResultCall.isMetadata = true) :
      TaskOf query (.writing (.count success :: rest))
  | closing {rest : List ResultCall} (closing : rest.all ResultCall.isMetadata = true) :
      TaskOf query (.writing rest)

theorem owesNone_of_closing
    (other : forall sliName metadata, kind (.setMetadata sliName metadata) = false)
    (closing : calls.all ResultCall.isMetadata = true) : calls.any kind = false := by
  rw [List.any_eq_false]
  intro call member
  have isMetadata := List.all_eq_true.mp closing call member
  cases call with
  | setResult indicator result => cases isMetadata
  | count success => cases isMetadata
  | setMetadata sliName metadata =>
      rw [other]
      exact Bool.false_ne_true

theorem closing_noResult (closing : calls.all ResultCall.isMetadata = true) :
    calls.any ResultCall.isResult = false :=
  owesNone_of_closing (fun _ _ => rfl) closing

theorem closing_noCount (closing : calls.all ResultCall.isMetadata = true) :
    calls.any ResultCall.isCount = false :=
  owesNone_of_closing (fun _ _ => rfl) closing

theorem owed_set (kind : ResultCall -> Bool) {index : Nat} {task : QueryTask}
    (taskAt : tasks[index]? = some task) (next : QueryTask) :
    owed kind (tasks.set index next) + (if task.owes kind then 1 else 0) =
      owed kind tasks + (if next.owes kind then 1 else 0) := by
  rcases List.getElem?_eq_some_iff.mp taskAt with ⟨inside, same⟩
  have counted := List.boole_getElem_le_countP (p := QueryTask.owes kind) inside
  have changed := List.countP_set (p := QueryTask.owes kind) (a := next) inside
  rw [same] at counted changed
  unfold owed
  omega

theorem owed_startTasks (kind : ResultCall -> Bool) (queries : List (String × SpecDict))
    (unsupported : forall sliName spec, (unsupportedCalls sliName spec).any kind = true) :
    owed kind (queries.map startTask) = queries.length := by
  unfold owed
  rw [List.countP_map, List.countP_eq_length]
  intro query _
  change (startTask query).owes kind = true
  unfold startTask
  split
  · rfl
  · exact unsupported query.1 query.2

theorem owed_done (done : tasks.all QueryTask.isDone = true) : owed kind tasks = 0 := by
  unfold owed
  rw [List.countP_eq_zero]
  intro task member
  have isDone := List.all_eq_true.mp done task member
  cases task with
  | waiting sliName spec => cases isDone
  | executing sliName spec => cases isDone
  | writing calls =>
      cases calls with
      | nil => exact Bool.false_ne_true
      | cons call rest => cases isDone

theorem Reports.owes (reports : Reports query calls) :
    (QueryTask.writing calls).owes ResultCall.isResult = true ∧
      (QueryTask.writing calls).owes ResultCall.isCount = true := by
  cases reports with
  | calls possible closing => exact ⟨rfl, rfl⟩

/-- The hash has what `get_status` reads, with this total, and no time to live. -/
structure JobHash.Shows (total : Nat) (hash : JobHash) : Prop where
  status : hash.status.isSome
  createdAt : hash.createdAt.isSome
  total : hash.totalQueries = some total
  completed : hash.completedCount.isSome
  failed : hash.failedCount.isSome
  lasting : hash.expires = false

def ResultCall.onHash : ResultCall -> JobHash -> JobHash
  | .setResult _ _, hash => hash
  | .count success, hash => hash.countResult success
  | .setMetadata _ _, hash => hash

def ResultCall.onResults : ResultCall -> Dict StoredResult -> Dict StoredResult
  | .setResult indicator result, results => results.insert indicator result
  | .count _, results => results
  | .setMetadata _ _, results => results

section Hash

variable {total : Nat} {hash : JobHash}

theorem JobHash.Shows.setStatus (shows : hash.Shows total) (status : JobStatus) :
    (hash.setStatus status).Shows total :=
  ⟨rfl, shows.createdAt, shows.total, shows.completed, shows.failed, shows.lasting⟩

theorem JobHash.Shows.countResult (shows : hash.Shows total) (success : Bool) :
    (hash.countResult success).Shows total := by
  cases success with
  | true =>
      exact ⟨shows.status, shows.createdAt, shows.total, rfl, shows.failed, shows.lasting⟩
  | false =>
      exact ⟨shows.status, shows.createdAt, shows.total, shows.completed, rfl, shows.lasting⟩

theorem JobHash.counted_countResult (hash : JobHash) (success : Bool) :
    (hash.countResult success).counted = hash.counted + 1 := by
  cases success with
  | true =>
      change hash.completedCount.getD 0 + 1 + hash.failedCount.getD 0 = _
      unfold JobHash.counted
      omega
  | false => rfl

theorem onHash_status (call : ResultCall) (hash : JobHash) :
    (call.onHash hash).status = hash.status := by
  cases call with
  | setResult indicator result => rfl
  | count success => exact JobHash.countResult_status success hash
  | setMetadata sliName metadata => rfl

theorem getStatus_of_shows {jobs : Jobs} {jobId : Nat} (found : jobs.find jobId = some hash)
    (shows : hash.Shows total) :
    Exists fun status => hash.status = some status ∧ getStatus jobs jobId = .found status := by
  rcases Option.isSome_iff_exists.mp shows.status with ⟨status, isStatus⟩
  rcases Option.isSome_iff_exists.mp shows.createdAt with ⟨createdAt, isCreated⟩
  rcases Option.isSome_iff_exists.mp shows.completed with ⟨completed, isCompleted⟩
  rcases Option.isSome_iff_exists.mp shows.failed with ⟨failed, isFailed⟩
  refine ⟨status, isStatus, ?_⟩
  unfold getStatus
  rw [found]
  dsimp only
  rw [isStatus, isCreated, shows.total, isCompleted, isFailed]

end Hash

structure Fresh (queries : List (String × SpecDict)) (hash : JobHash)
    (results : Dict StoredResult) : Prop where
  shows : hash.Shows queries.length
  unfinished : hash.status ≠ some .completed
  uncounted : hash.counted = 0
  noResults : results = ∅
  countable : Countable queries

/-- What a job that is being queried has counted and stored beside what its queries
still owe.  `free`: a name is free until its query reports. -/
structure Tally (queries : List (String × SpecDict)) (tasks : List QueryTask) (hash : JobHash)
    (results : Dict StoredResult) : Prop where
  shows : hash.Shows queries.length
  unfinished : hash.status ≠ some .completed
  countable : Countable queries
  sameLength : tasks.length = queries.length
  tasksOf : forall {index : Nat} {query : String × SpecDict} {task : QueryTask},
    queries[index]? = some query -> tasks[index]? = some task -> TaskOf query task
  bounded : hash.counted + owed ResultCall.isCount tasks ≤ queries.length
  counted : hash.status ≠ some .cancelled ->
    hash.counted + owed ResultCall.isCount tasks = queries.length
  reported : hash.status ≠ some .cancelled ->
    results.keys.length + owed ResultCall.isResult tasks = queries.length
  free : forall {index : Nat} {query : String × SpecDict} {task : QueryTask},
    queries[index]? = some query -> tasks[index]? = some task ->
      task.owes ResultCall.isResult = true -> forall name, name ∈ possibleNames query ->
        name ∉ results

structure Full (hash : JobHash) (results : Dict StoredResult) : Prop where
  shows : hash.Shows hash.counted
  reported : results.keys.length = hash.counted

/-- What the hash of a job promises to its readers: never more counted than there are
queries, and as many results as counted queries once it is completed. -/
structure Sound (hash : JobHash) (results : Dict StoredResult) : Prop where
  bounded : hash.counted ≤ hash.totalQueries.getD 0
  complete : hash.status = some .completed ->
    hash.totalQueries = some hash.counted ∧ results.keys.length = hash.counted

section Facts

variable {queries : List (String × SpecDict)} {tasks : List QueryTask} {hash : JobHash}
  {results : Dict StoredResult}

theorem Fresh.sound (fresh : Fresh queries hash results) : Sound hash results := by
  refine ⟨?_, fun completed => absurd completed fresh.unfinished⟩
  rw [fresh.uncounted]
  exact Nat.zero_le _

theorem Tally.sound (tally : Tally queries tasks hash results) : Sound hash results := by
  refine ⟨?_, fun completed => absurd completed tally.unfinished⟩
  have bounded := tally.bounded
  rw [tally.shows.total, Option.getD_some]
  omega

theorem Full.sound (full : Full hash results) : Sound hash results := by
  refine ⟨?_, fun _ => ⟨full.shows.total, full.reported⟩⟩
  rw [full.shows.total]
  exact Nat.le_refl _

theorem Fresh.setStatus (fresh : Fresh queries hash results) {status : JobStatus}
    (unfinished : status ≠ .completed) : Fresh queries (hash.setStatus status) results :=
  ⟨fresh.shows.setStatus status, fun same => unfinished (Option.some.inj same), fresh.uncounted,
    fresh.noResults, fresh.countable⟩

theorem Tally.cancel (tally : Tally queries tasks hash results) :
    Tally queries tasks (hash.setStatus .cancelled) results where
  shows := tally.shows.setStatus .cancelled
  unfinished := fun same => by cases same
  countable := tally.countable
  sameLength := tally.sameLength
  tasksOf := tally.tasksOf
  bounded := tally.bounded
  counted := fun live => absurd rfl live
  reported := fun live => absurd rfl live
  free := tally.free

theorem Full.setStatus (full : Full hash results) (status : JobStatus) :
    Full (hash.setStatus status) results :=
  ⟨full.shows.setStatus status, full.reported⟩

theorem Sound.cancel (sound : Sound hash results) : Sound (hash.setStatus .cancelled) results :=
  ⟨sound.bounded, fun same => by cases same⟩

theorem Fresh.start (fresh : Fresh queries hash results) :
    Tally queries (queries.map startTask) hash results where
  shows := fresh.shows
  unfinished := fresh.unfinished
  countable := fresh.countable
  sameLength := List.length_map _
  tasksOf := by
    intro index query task queryAt taskAt
    rw [List.getElem?_map, queryAt] at taskAt
    cases taskAt
    unfold startTask
    split
    · exact .waiting
    · exact .reporting (reports_failure query _ _)
  bounded := by
    rw [owed_startTasks _ _ fun _ _ => rfl, fresh.uncounted]
    omega
  counted := by
    intro _
    rw [owed_startTasks _ _ fun _ _ => rfl, fresh.uncounted]
    omega
  reported := by
    intro _
    rw [owed_startTasks _ _ fun _ _ => rfl, fresh.noResults]
    exact Nat.zero_add _
  free := by
    intro index query task _ _ _ name _
    rw [fresh.noResults]
    exact AList.notMem_empty name

theorem Tally.full (tally : Tally queries tasks hash results)
    (done : tasks.all QueryTask.isDone = true) (live : hash.status ≠ some .cancelled) :
    Full hash results := by
  have counted := tally.counted live
  have reported := tally.reported live
  rw [owed_done done, Nat.add_zero] at counted reported
  refine ⟨?_, reported.trans counted.symm⟩
  rw [counted]
  exact tally.shows

/-- What the next call of a query does to the numbers of its job: what it owed before is
what has been written since and what it owes after. -/
structure TaskStep (query : String × SpecDict) (task next : QueryTask) (hash changed : JobHash)
    (results stored : Dict StoredResult) : Prop where
  shows : forall {total}, hash.Shows total -> changed.Shows total
  status : changed.status = hash.status
  taskOf : TaskOf query next
  counts : changed.counted + (if next.owes ResultCall.isCount then 1 else 0) ≤
    hash.counted + (if task.owes ResultCall.isCount then 1 else 0)
  countsAll : hash.status ≠ some .cancelled ->
    changed.counted + (if next.owes ResultCall.isCount then 1 else 0) =
      hash.counted + (if task.owes ResultCall.isCount then 1 else 0)
  reportsAll : hash.status ≠ some .cancelled ->
    stored.keys.length + (if next.owes ResultCall.isResult then 1 else 0) =
      results.keys.length + (if task.owes ResultCall.isResult then 1 else 0)
  owesBefore : next.owes ResultCall.isResult = true -> task.owes ResultCall.isResult = true
  names : forall name, name ∈ stored -> name ∈ results ∨
    (name ∈ possibleNames query ∧ next.owes ResultCall.isResult = false)

theorem Countable.disjoint (countable : Countable queries) {index other : Nat}
    {query otherQuery : String × SpecDict} (queryAt : queries[index]? = some query)
    (otherAt : queries[other]? = some otherQuery) (different : index ≠ other) (name : String)
    (possible : name ∈ possibleNames query) : name ∉ possibleNames otherQuery := by
  rcases List.getElem?_eq_some_iff.mp queryAt with ⟨inside, isQuery⟩
  rcases List.getElem?_eq_some_iff.mp otherAt with ⟨otherInside, isOther⟩
  subst isQuery isOther
  have pairs := List.pairwise_iff_getElem.mp countable.apart
  rcases Nat.lt_or_gt_of_ne different with before | after
  · exact pairs index other inside otherInside before name possible
  · intro otherPossible
    exact pairs other index otherInside inside after name otherPossible possible

theorem Tally.set (tally : Tally queries tasks hash results) {index : Nat}
    {query : String × SpecDict} {task next : QueryTask} {changed : JobHash}
    {stored : Dict StoredResult} (queryAt : queries[index]? = some query)
    (taskAt : tasks[index]? = some task)
    (moved : TaskStep query task next hash changed results stored) :
    Tally queries (tasks.set index next) changed stored := by
  have counts := owed_set ResultCall.isCount taskAt next
  have results := owed_set ResultCall.isResult taskAt next
  have inside := (List.getElem?_eq_some_iff.mp taskAt).1
  refine ⟨moved.shows tally.shows, moved.status ▸ tally.unfinished, tally.countable, ?_, ?_, ?_, ?_,
    ?_, ?_⟩
  · rw [List.length_set]
    exact tally.sameLength
  · intro other otherQuery otherTask otherAt isTask
    by_cases same : index = other
    · subst same
      rw [List.getElem?_set_self inside] at isTask
      cases isTask
      cases queryAt.symm.trans otherAt
      exact moved.taskOf
    · rw [List.getElem?_set_ne same] at isTask
      exact tally.tasksOf otherAt isTask
  · have step := moved.counts
    have before := tally.bounded
    omega
  · intro live
    rw [moved.status] at live
    have step := moved.countsAll live
    have before := tally.counted live
    omega
  · intro live
    rw [moved.status] at live
    have step := moved.reportsAll live
    have before := tally.reported live
    omega
  · intro other otherQuery otherTask otherAt isTask owes name possible isStored
    by_cases same : index = other
    · subst same
      rw [List.getElem?_set_self inside] at isTask
      cases isTask
      cases queryAt.symm.trans otherAt
      rcases moved.names name isStored with before | ⟨_, reported⟩
      · exact tally.free queryAt taskAt (moved.owesBefore owes) name possible before
      · rw [reported] at owes
        cases owes
    · rw [List.getElem?_set_ne same] at isTask
      rcases moved.names name isStored with before | ⟨reported, _⟩
      · exact tally.free otherAt isTask owes name possible before
      · exact tally.countable.disjoint queryAt otherAt same name reported possible

section Query

variable {query : String × SpecDict} {task next : QueryTask}

theorem TaskStep.quiet (taskOf : TaskOf query next)
    (counts : next.owes ResultCall.isCount = task.owes ResultCall.isCount)
    (reports : next.owes ResultCall.isResult = task.owes ResultCall.isResult) :
    TaskStep query task next hash hash results results where
  shows := id
  status := rfl
  taskOf := taskOf
  counts := by rw [counts]
  countsAll := fun _ => by rw [counts]
  reportsAll := fun _ => by rw [reports]
  owesBefore := fun owes => reports ▸ owes
  names := fun _ => Or.inl

theorem TaskStep.drop (settled : hash.status = some .cancelled ∨
      (task.owes ResultCall.isResult = false ∧ task.owes ResultCall.isCount = false)) :
    TaskStep query task (.writing []) hash hash results results where
  shows := id
  status := rfl
  taskOf := .closing rfl
  counts := Nat.add_le_add_left (Nat.zero_le _) _
  countsAll := by
    intro live
    rcases settled with cancelled | ⟨_, counted⟩
    · exact absurd cancelled live
    · rw [counted]
      rfl
  reportsAll := by
    intro live
    rcases settled with cancelled | ⟨reported, _⟩
    · exact absurd cancelled live
    · rw [reported]
      rfl
  owesBefore := fun owes => by cases owes
  names := fun _ => Or.inl

theorem TaskStep.report {name : String} {result : StoredResult} {success : Bool}
    {rest : List ResultCall} (possible : name ∈ possibleNames query)
    (closing : rest.all ResultCall.isMetadata = true) (free : name ∉ results) :
    TaskStep query (.writing (.setResult name result :: .count success :: rest))
      (.writing (.count success :: rest)) hash hash results (results.insert name result) where
  shows := id
  status := rfl
  taskOf := .counting closing
  counts := Nat.le_refl _
  countsAll := fun _ => rfl
  reportsAll := by
    intro _
    have noMore : rest.any ResultCall.isResult = false := closing_noResult closing
    have noResult : (QueryTask.writing (.count success :: rest)).owes ResultCall.isResult = false :=
      noMore
    have owesResult : (QueryTask.writing (.setResult name result :: .count success :: rest)).owes
        ResultCall.isResult = true := rfl
    rw [noResult, owesResult, AList.keys_insert, List.erase_of_not_mem free, List.length_cons]
    rfl
  owesBefore := fun _ => rfl
  names := by
    intro other isStored
    have noMore : rest.any ResultCall.isResult = false := closing_noResult closing
    rcases (AList.mem_insert _).mp isStored with same | before
    · exact Or.inr ⟨same ▸ possible, noMore⟩
    · exact Or.inl before

theorem TaskStep.count {success : Bool} {rest : List ResultCall}
    (closing : rest.all ResultCall.isMetadata = true) :
    TaskStep query (.writing (.count success :: rest)) (.writing rest) hash
      (hash.countResult success) results results where
  shows := fun shows => shows.countResult success
  status := JobHash.countResult_status success hash
  taskOf := .closing closing
  counts := by
    have noCount : (QueryTask.writing rest).owes ResultCall.isCount = false := closing_noCount closing
    rw [noCount, JobHash.counted_countResult]
    exact Nat.le_refl _
  countsAll := by
    intro _
    have noCount : (QueryTask.writing rest).owes ResultCall.isCount = false := closing_noCount closing
    rw [noCount, JobHash.counted_countResult]
    rfl
  reportsAll := fun _ => rfl
  owesBefore := id
  names := fun _ => Or.inl

theorem TaskStep.close {sliName : String} {metadata : QueryMetadata} {rest : List ResultCall}
    (closing : rest.all ResultCall.isMetadata = true) :
    TaskStep query (.writing (.setMetadata sliName metadata :: rest)) (.writing rest) hash hash
      results results :=
  .quiet (.closing closing) rfl rfl

theorem TaskOf.advance {status : JobStatus} {client : PrometheusClient} {vars : Dict String}
    {start finish : Instant} {call : Option ResultCall} (taskOf : TaskOf query task)
    (single : forall methods, methods ∈ query.2.asked -> methods.dedup.length = 1)
    (free : task.owes ResultCall.isResult = true -> forall name, name ∈ possibleNames query ->
      name ∉ results) (isStatus : hash.status = some status)
    (advanced : task.advance (.found status) (task.outcome client vars start finish) =
      some (next, call)) :
    TaskStep query task next hash (call.elim hash fun call => call.onHash hash) results
      (call.elim results fun call => call.onResults results) := by
  cases taskOf with
  | waiting =>
      by_cases cancelled : status = .cancelled
      · subst cancelled
        cases advanced
        exact .drop (Or.inl isStatus)
      · have executes : (some (.executing query.1 query.2, none) :
            Option (QueryTask × Option ResultCall)) = some (next, call) := by
          rw [<- advanced]
          cases status with
          | cancelled => exact absurd rfl cancelled
          | queued | running | completed | timedOut => rfl
        cases executes
        exact .quiet .executing rfl rfl
  | executing =>
      cases advanced
      have reports := reports_execute single client vars start finish
      exact .quiet (.reporting reports) reports.owes.2 reports.owes.1
  | reporting reports =>
      cases reports with
      | calls possible closing =>
          cases advanced
          exact .report possible closing (free rfl _ possible)
  | counting closing =>
      cases advanced
      exact .count closing
  | @closing rest closing =>
      cases rest with
      | nil => cases advanced
      | cons first others =>
          cases advanced
          cases first with
          | setResult indicator result => cases closing
          | count success => cases closing
          | setMetadata sliName metadata => exact .close closing

end Query

section Run

variable {index : Nat} {task next : QueryTask}

theorem Tally.queryAt (tally : Tally queries tasks hash results)
    (taskAt : tasks[index]? = some task) :
    Exists fun query => queries[index]? = some query ∧ query ∈ queries ∧ TaskOf query task := by
  have inside := (List.getElem?_eq_some_iff.mp taskAt).1
  rw [tally.sameLength] at inside
  have queryAt := List.getElem?_eq_getElem inside
  exact ⟨queries[index], queryAt, List.getElem_mem inside, tally.tasksOf queryAt taskAt⟩

theorem Tally.advance (tally : Tally queries tasks hash results)
    (taskAt : tasks[index]? = some task) {status : JobStatus} (isStatus : hash.status = some status)
    {client : PrometheusClient} {vars : Dict String} {start finish : Instant}
    {call : Option ResultCall}
    (advanced : task.advance (.found status) (task.outcome client vars start finish) =
      some (next, call)) :
    Tally queries (tasks.set index next) (call.elim hash fun call => call.onHash hash)
      (call.elim results fun call => call.onResults results) := by
  rcases tally.queryAt taskAt with ⟨query, queryAt, member, taskOf⟩
  exact tally.set queryAt taskAt
    (taskOf.advance (tally.countable.single query member) (tally.free queryAt taskAt) isStatus advanced)

theorem Tally.write {call : ResultCall} {rest : List ResultCall}
    (tally : Tally queries tasks hash results)
    (taskAt : tasks[index]? = some (.writing (call :: rest))) :
    Tally queries (tasks.set index (.writing rest)) (call.onHash hash) (call.onResults results) := by
  rcases Option.isSome_iff_exists.mp tally.shows.status with ⟨status, isStatus⟩
  have advanced : (QueryTask.writing (call :: rest)).advance (.found status)
      ((QueryTask.writing (call :: rest)).outcome disconnected ∅ 0 0) =
        some (.writing rest, some call) := rfl
  exact tally.advance taskAt isStatus advanced

theorem Tally.drop (tally : Tally queries tasks hash results) (taskAt : tasks[index]? = some task)
    (settled : hash.status = some .cancelled ∨
      (task.owes ResultCall.isResult = false ∧ task.owes ResultCall.isCount = false)) :
    Tally queries (tasks.set index (.writing [])) hash results := by
  rcases tally.queryAt taskAt with ⟨query, queryAt, _, _⟩
  exact tally.set queryAt taskAt (.drop settled)

end Run

end Facts

end Adapter
end Tropek
