import Mathlib.Data.List.Nodup
import Tropek.Engine.Evaluator
import Tropek.Library.CheckedStatements
import Tropek.Library.KeyedTable

namespace Tropek
namespace Assets

open Library Engine KeyedTable

/-!
# Asset types and the assets that refer to them

An asset refers to its type by the name of the type, which a request may change.  The
database holds the reference as a foreign key and at most one default by a partial unique
index, and it checks both when a statement is finished.  A request is one transaction of
such statements; the middleware commits it when the response is a success.

A request is what its route hands to the handler: `name` comes from the path, and the
body has passed its schema.
-/

variable {json : Type}

/-! ## Rows -/

/-- `SafeStr`, and what a text column can hold. -/
structure SafeStr where
  text : String
  safe : Char.ofNat 0 ∉ text.toList
deriving DecidableEq

structure AssetType where
  id : Nat
  name : SafeStr
  isDefault : Bool := false
deriving DecidableEq

structure Asset (json : Type) where
  id : Nat
  name : SafeStr
  displayName : Option SafeStr := none
  typeName : SafeStr
  tags : Dict String := ∅
  vars : Dict String := ∅
  heatmapConfig : Option json := none
  color : Option SafeStr := none

structure Tables (json : Type) where
  types : List AssetType
  assets : List (Asset json)

namespace Tables

/-- The primary keys, the unique names, the unique index over the defaults and the foreign
key of `type_name`. -/
structure Consistent (tables : Tables json) : Prop where
  typeIds : (tables.types.map (·.id)).Nodup
  typeNames : (tables.types.map (·.name)).Nodup
  defaults : ((tables.types.filter (·.isDefault)).map (·.isDefault)).Nodup
  assetIds : (tables.assets.map (·.id)).Nodup
  assetNames : (tables.assets.map (·.name)).Nodup
  typed : forall asset, asset ∈ tables.assets -> asset.typeName ∈ tables.types.map (·.name)

instance : DecidablePred (@Consistent json) := fun tables =>
  decidable_of_iff
    ((tables.types.map (·.id)).Nodup ∧ (tables.types.map (·.name)).Nodup ∧
      ((tables.types.filter (·.isDefault)).map (·.isDefault)).Nodup ∧
      (tables.assets.map (·.id)).Nodup ∧ (tables.assets.map (·.name)).Nodup ∧
      forall asset, asset ∈ tables.assets -> asset.typeName ∈ tables.types.map (·.name))
    ⟨fun checks => ⟨checks.1, checks.2.1, checks.2.2.1, checks.2.2.2.1, checks.2.2.2.2.1,
        checks.2.2.2.2.2⟩,
      fun holds => ⟨holds.typeIds, holds.typeNames, holds.defaults, holds.assetIds,
        holds.assetNames, holds.typed⟩⟩

/-- `UPDATE asset_types SET ... WHERE ...`. -/
def updateTypes (condition : AssetType -> Bool) (change : AssetType -> AssetType)
    (tables : Tables json) : Tables json :=
  { tables with types := tables.types.map fun row => if condition row then change row else row }

/-- `UPDATE assets SET ... WHERE ...`. -/
def updateAssets (condition : Asset json -> Bool) (change : Asset json -> Asset json)
    (tables : Tables json) : Tables json :=
  { tables with assets := tables.assets.map fun row => if condition row then change row else row }

def clearDefault : Tables json -> Tables json :=
  updateTypes (fun _ => true) fun row => { row with isDefault := false }

def setMark (name : SafeStr) : Tables json -> Tables json :=
  updateTypes (fun row => row.name = name) fun row => { row with isDefault := true }

def renameType (oldName newName : SafeStr) : Tables json -> Tables json :=
  updateTypes (fun row => row.name = oldName) fun row => { row with name := newName }

def moveAssets (oldName newName : SafeStr) : Tables json -> Tables json :=
  updateAssets (fun asset => asset.typeName = oldName) fun asset => { asset with typeName := newName }

def typeNamed (name : SafeStr) (tables : Tables json) : Option AssetType :=
  tables.types.find? fun row => row.name = name

def assetNamed (name : SafeStr) (tables : Tables json) : Option (Asset json) :=
  tables.assets.find? fun row => row.name = name

end Tables

abbrev Database (json : Type) : Type :=
  Checked (@Tables.Consistent json)

/-! ## Handlers -/

/-- How a request on assets and their types fails.  `integrity`: `IntegrityError`;
`driver`: any other error of the database driver. -/
inductive Failure where
  | notFound (entity name : String)
  | conflict (entity name reason : String)
  | integrity
  | driver
deriving DecidableEq

abbrev Handler (json α : Type) : Type :=
  Program (Database json) Failure α

def raise {α : Type} (failure : Failure) : Handler json α :=
  .ofExcept (.error failure)

def textParameter (name : String) : Handler json SafeStr :=
  .ofExcept (if safe : Char.ofNat 0 ∉ name.toList then .ok ⟨name, safe⟩ else .error .driver)

def execute (change : Tables json -> Tables json) : Handler json Unit :=
  Checked.statement .integrity change

namespace AssetTypeRepository

def getByName (name : SafeStr) : Handler json (Option AssetType) :=
  Checked.query (Tables.typeNamed name)

def create (id : Nat) (name : SafeStr) (isDefault : Bool) : Handler json AssetType := do
  let row : AssetType := { id, name, isDefault }
  execute fun tables => { tables with types := tables.types ++ [row] }
  return row

/-- `session.refresh`: read the row again by its primary key. -/
def refresh (row : AssetType) : Handler json (Option AssetType) :=
  Checked.query fun tables => tables.types.find? fun other => other.id = row.id

/-- `set_default`: unset the old default and set the new one. -/
def setDefault (name : SafeStr) : Handler json (Option AssetType) := do
  let found <- getByName name
  match found with
  | none => return none
  | some row => do
      execute Tables.clearDefault
      execute (Tables.setMark name)
      refresh row

/-- `delete`: refused while an asset has the type. -/
def delete (name : SafeStr) : Handler json Bool := do
  let existing <- getByName name
  if existing.isNone then return false
  let inUse <- Checked.query fun tables : Tables json =>
    tables.assets.any fun asset => asset.typeName = name
  if inUse then raise (.conflict "asset type" name.text "in use by one or more assets")
  execute fun tables => { tables with types := tables.types.filter fun row => row.name ≠ name }
  return true

/-- `rename`: first the type, then the assets that refer to it. -/
def rename (oldName newName : SafeStr) : Handler json (Option AssetType) := do
  let existing <- getByName oldName
  if existing.isNone then return none
  let conflict <- getByName newName
  if conflict.isSome then raise (.conflict "asset type" newName.text "already exists")
  execute (Tables.renameType oldName newName)
  execute (Tables.moveAssets oldName newName)
  getByName newName

end AssetTypeRepository

/-- `Asset`, as `POST /assets` takes it. -/
structure AssetCreate (json : Type) where
  name : SafeStr
  displayName : Option SafeStr := none
  typeName : SafeStr
  tags : Dict String := ∅
  vars : Dict String := ∅
  color : Option SafeStr := none
  heatmapConfig : Option json := none

structure AssetUpdate (json : Type) where
  displayName : Option SafeStr := none
  typeName : Option SafeStr := none
  tags : Option (Dict String) := none
  vars : Option (Dict String) := none
  heatmapConfig : Option json := none
  color : Option SafeStr := none

def AssetUpdate.isEmpty (body : AssetUpdate json) : Bool :=
  body.displayName.isNone && body.typeName.isNone && body.tags.isNone && body.vars.isNone &&
    body.heatmapConfig.isNone && body.color.isNone

def AssetUpdate.apply (body : AssetUpdate json) (row : Asset json) : Asset json :=
  { row with
    displayName := body.displayName.or row.displayName
    typeName := body.typeName.getD row.typeName
    tags := body.tags.getD row.tags
    vars := body.vars.getD row.vars
    heatmapConfig := body.heatmapConfig.or row.heatmapConfig
    color := body.color.or row.color }

namespace AssetRepository

def create (id : Nat) (params : AssetCreate json) : Handler json (Asset json) := do
  let asset : Asset json := {
    id
    name := params.name
    displayName := params.displayName
    typeName := params.typeName
    tags := params.tags
    vars := params.vars
    heatmapConfig := params.heatmapConfig
    color := params.color }
  execute fun tables => { tables with assets := tables.assets ++ [asset] }
  return asset

def update (name : SafeStr) (body : AssetUpdate json) : Handler json (Asset json) := do
  if body.isEmpty = false then
    execute (Tables.updateAssets (fun asset => asset.name = name) body.apply)
  let asset <- Checked.query (Tables.assetNamed name)
  match asset with
  | none => raise (.notFound "asset" name.text)
  | some row => return row

end AssetRepository

/-! ## Requests -/

structure AssetTypeCreate where
  name : SafeStr
  isDefault : Bool := false

structure AssetTypeUpdate where
  name : Option SafeStr := none
  isDefault : Option Bool := none

inductive Request (json : Type) where
  | createAssetType (id : Nat) (body : AssetTypeCreate)
  | setDefaultAssetType (name : String)
  | deleteAssetType (name : String)
  | updateAssetType (name : String) (body : AssetTypeUpdate)
  | createAsset (id : Nat) (body : AssetCreate json)
  | updateAsset (name : String) (body : AssetUpdate json)

inductive Reply (json : Type) where
  | assetType (row : AssetType)
  | asset (row : Asset json)
  | noContent

section UpdateAssetType

open AssetTypeRepository

variable (path : String) (name : SafeStr)

/-- `if body.is_default is True`. -/
def markIfAsked (isDefault : Option Bool) : Handler json (Option AssetType) := do
  if isDefault = some true then
    let found <- setDefault name
    if found.isNone then raise (.notFound "asset type" path)
    return found
  else return none

/-- `if body.name is not None`. -/
def renameIfAsked (newName : Option SafeStr) (marked : Option AssetType) :
    Handler json (Option AssetType) :=
  match newName with
  | none => return marked
  | some newName => do
      let effectiveName := (marked.map (·.name)).getD name
      let found <- rename effectiveName newName
      if found.isNone then raise (.notFound "asset type" path)
      return found

/-- `update_asset_type`: set as default, then rename. -/
def updateAssetType (body : AssetTypeUpdate) : Handler json AssetType := do
  let name <- textParameter path
  let marked <- markIfAsked path name body.isDefault
  let result <- renameIfAsked path name body.name marked
  match result with
  | some row => return row
  | none => do
      let existing <- getByName name
      match existing with
      | none => raise (.notFound "asset type" path)
      | some row => return row

end UpdateAssetType

def Request.handler : Request json -> Handler json (Reply json)
  | .createAssetType id body => do
      let row <- AssetTypeRepository.create id body.name body.isDefault
      return .assetType row
  | .setDefaultAssetType path => do
      let name <- textParameter path
      let found <- AssetTypeRepository.setDefault name
      match found with
      | none => raise (.notFound "asset type" path)
      | some row => return .assetType row
  | .deleteAssetType path => do
      let name <- textParameter path
      let found <- AssetTypeRepository.delete name
      if found = false then raise (.notFound "asset type" path)
      return .noContent
  | .updateAssetType path body => do
      let row <- Assets.updateAssetType path body
      return .assetType row
  | .createAsset id body => do
      let row <- AssetRepository.create id body
      return .asset row
  | .updateAsset path body => do
      let name <- textParameter path
      let row <- AssetRepository.update name body
      return .asset row

def Request.status : Request json -> Nat
  | .createAssetType _ _ => 201
  | .createAsset _ _ => 201
  | .deleteAssetType _ => 204
  | _ => 200

/-- What the exception handlers answer.  An error of the driver goes through them. -/
def Failure.status : Failure -> Option Nat
  | .notFound _ _ => some 404
  | .conflict _ _ _ => some 409
  | .integrity => some 409
  | .driver => none

/-- `SessionMiddleware`: commit before a response with a 2xx status, and roll back before
any other or when the exception arrives here. -/
def commits (success : Nat) (outcome : Except Failure (Reply json)) : Bool :=
  let status := match outcome with
    | .ok _ => some success
    | .error failure => failure.status
  status.any fun code => 200 ≤ code && code < 300

def serve (database : Database json) (request : Request json) :
    Except Failure (Reply json) × Database json :=
  Checked.transaction (commits request.status) request.handler database

def serveAll (database : Database json) (requests : List (Request json)) : Database json :=
  requests.foldl (fun database request => (serve database request).2) database

/-! ## What the constraints say -/

namespace Tables

variable {tables : Tables json} {types : List AssetType} {oldName newName : SafeStr}

theorem Consistent.oneDefault (holds : tables.Consistent) {first second : AssetType}
    (isFirst : first ∈ tables.types) (isSecond : second ∈ tables.types)
    (firstMarked : first.isDefault = true) (secondMarked : second.isDefault = true) :
    first = second := by
  have marked : (tables.types.filter (·.isDefault)).map (·.isDefault) =
      List.replicate (tables.types.filter (·.isDefault)).length true := by
    refine List.eq_replicate_iff.mpr ⟨List.length_map _, ?_⟩
    intro flag member
    rcases List.mem_map.mp member with ⟨row, inside, rfl⟩
    exact (List.mem_filter.mp inside).2
  have few := holds.defaults
  rw [marked, List.nodup_replicate] at few
  have firstInside := List.mem_filter.mpr ⟨isFirst, firstMarked⟩
  have secondInside := List.mem_filter.mpr ⟨isSecond, secondMarked⟩
  match defaults : tables.types.filter (·.isDefault) with
  | [] =>
      rw [defaults] at firstInside
      exact absurd firstInside List.not_mem_nil
  | [only] =>
      rw [defaults, List.mem_singleton] at firstInside secondInside
      exact firstInside.trans secondInside.symm
  | _ :: _ :: _ =>
      rw [defaults] at few
      simp only [List.length_cons] at few
      omega

theorem typeNamed_eq_some (holds : tables.Consistent) (name : SafeStr) (row : AssetType) :
    tables.typeNamed name = some row ↔ row ∈ tables.types ∧ row.name = name :=
  find_eq_some (⟨tables.types, holds.typeNames⟩ : KeyedTable AssetType.name) name row

theorem typeNamed_eq_none {name : SafeStr} :
    tables.typeNamed name = none ↔ name ∉ tables.types.map (·.name) := by
  unfold typeNamed
  simp only [List.find?_eq_none, decide_eq_true_eq, List.mem_map, not_exists, not_and]

theorem defaults_nodup (distinct : types.Nodup)
    (one : forall first second, first ∈ types -> second ∈ types -> first.isDefault = true ->
      second.isDefault = true -> first = second) :
    ((types.filter (·.isDefault)).map (·.isDefault)).Nodup := by
  refine List.Nodup.map_on ?_ (distinct.filter _)
  intro first isFirst second isSecond _
  rcases List.mem_filter.mp isFirst with ⟨firstListed, firstMarked⟩
  rcases List.mem_filter.mp isSecond with ⟨secondListed, secondMarked⟩
  exact one first second firstListed secondListed firstMarked secondMarked

/-- A change of the types leaves the constraints in force when it keeps the identifiers, the
names stay distinct, one type at most is marked and every used name is still there. -/
theorem Consistent.changeTypes (holds : tables.Consistent)
    (ids : types.map (·.id) = tables.types.map (·.id)) (names : (types.map (·.name)).Nodup)
    (one : forall first second, first ∈ types -> second ∈ types -> first.isDefault = true ->
      second.isDefault = true -> first = second)
    (typed : forall asset, asset ∈ tables.assets -> asset.typeName ∈ types.map (·.name)) :
    ({ tables with types } : Tables json).Consistent where
  typeIds := by
    rw [ids]
    exact holds.typeIds
  typeNames := names
  defaults := defaults_nodup names.of_map one
  assetIds := holds.assetIds
  assetNames := holds.assetNames
  typed := typed

/-! ### Setting the default -/

def markDefault (name : SafeStr) (tables : Tables json) : Tables json :=
  { tables with types := tables.types.map fun row => { row with isDefault := row.name = name } }

theorem clear_then_mark (name : SafeStr) (tables : Tables json) :
    setMark name (clearDefault tables) = markDefault name tables := by
  unfold setMark clearDefault updateTypes markDefault
  simp only [if_true, List.map_map]
  congr 1
  apply List.map_congr_left
  intro row _
  by_cases same : row.name = name <;> simp [same]

section

variable (holds : tables.Consistent)

include holds

theorem Consistent.moveMark (mark : AssetType -> Bool)
    (one : forall first second, first ∈ tables.types -> second ∈ tables.types ->
      mark first = true -> mark second = true -> first = second) :
    ({ tables with types := tables.types.map fun row => { row with isDefault := mark row } } :
      Tables json).Consistent := by
  have names : (tables.types.map fun row => { row with isDefault := mark row }).map
      AssetType.name = tables.types.map AssetType.name := by
    simp
  refine holds.changeTypes ?_ ?_ ?_ ?_
  · simp
  · rw [names]
    exact holds.typeNames
  · intro first second isFirst isSecond firstMarked secondMarked
    rcases List.mem_map.mp isFirst with ⟨row, listed, rfl⟩
    rcases List.mem_map.mp isSecond with ⟨other, alsoListed, rfl⟩
    rw [one row other listed alsoListed firstMarked secondMarked]
  · rw [names]
    exact holds.typed

theorem clearDefault_consistent : (clearDefault tables).Consistent := by
  refine holds.moveMark (fun _ => false) ?_
  intro _ _ _ _ impossible
  cases impossible

theorem markDefault_consistent (name : SafeStr) : (markDefault name tables).Consistent := by
  refine holds.moveMark (fun row => row.name = name) ?_
  intro first second isFirst isSecond firstNamed secondNamed
  refine List.inj_on_of_nodup_map holds.typeNames isFirst isSecond ?_
  exact (of_decide_eq_true firstNamed).trans (of_decide_eq_true secondNamed).symm

theorem refreshed_markDefault {name : SafeStr} {row : AssetType}
    (found : tables.typeNamed name = some row) :
    (markDefault name tables).types.find? (fun other => other.id = row.id) =
      some { row with isDefault := true } := by
  rcases (typeNamed_eq_some holds name row).mp found with ⟨listed, named⟩
  refine (find_eq_some (⟨(markDefault name tables).types,
    (markDefault_consistent holds name).typeIds⟩ : KeyedTable AssetType.id) row.id _).mpr ⟨?_, rfl⟩
  refine List.mem_map.mpr ⟨row, listed, ?_⟩
  rw [decide_eq_true named]

end

theorem typeNamed_markDefault (name wanted : SafeStr) (tables : Tables json) :
    (markDefault name tables).typeNamed wanted =
      (tables.typeNamed wanted).map fun row => { row with isDefault := row.name = name } := by
  unfold typeNamed markDefault
  rw [List.find?_map]
  rfl

/-! ### Renaming -/

theorem renameType_names (oldName newName : SafeStr) (tables : Tables json) :
    (renameType oldName newName tables).types.map AssetType.name =
      (tables.types.map AssetType.name).map fun name => if name = oldName then newName else name := by
  unfold renameType updateTypes
  rw [List.map_map, List.map_map]
  apply List.map_congr_left
  intro row _
  by_cases same : row.name = oldName <;> simp [same]

theorem renameType_consistent (holds : tables.Consistent) (free : tables.typeNamed newName = none)
    (unused : forall asset, asset ∈ tables.assets -> asset.typeName ≠ oldName) :
    (renameType oldName newName tables).Consistent := by
  refine holds.changeTypes ?_ ?_ ?_ ?_
  · rw [List.map_map]
    apply List.map_congr_left
    intro row _
    by_cases same : row.name = oldName <;> simp [same]
  · change ((renameType oldName newName tables).types.map AssetType.name).Nodup
    rw [renameType_names]
    refine List.Nodup.map_on ?_ holds.typeNames
    intro first isFirst second isSecond same
    have absent := typeNamed_eq_none.mp free
    by_cases firstOld : first = oldName <;> by_cases secondOld : second = oldName
    · rw [firstOld, secondOld]
    · rw [if_pos firstOld, if_neg secondOld] at same
      exact absurd (same ▸ isSecond) absent
    · rw [if_neg firstOld, if_pos secondOld] at same
      exact absurd (same ▸ isFirst) absent
    · rwa [if_neg firstOld, if_neg secondOld] at same
  · intro first second isFirst isSecond firstMarked secondMarked
    rcases List.mem_map.mp isFirst with ⟨row, listed, rfl⟩
    rcases List.mem_map.mp isSecond with ⟨other, alsoListed, rfl⟩
    have same : row = other := by
      refine holds.oneDefault listed alsoListed ?_ ?_
      · revert firstMarked
        split <;> exact id
      · revert secondMarked
        split <;> exact id
    rw [same]
  · intro asset member
    change asset.typeName ∈ (renameType oldName newName tables).types.map AssetType.name
    rw [renameType_names]
    exact List.mem_map.mpr ⟨asset.typeName, holds.typed asset member, if_neg (unused asset member)⟩

theorem typeNamed_renameType (holds : tables.Consistent)
    (renamed : (renameType oldName newName tables).Consistent) {row : AssetType}
    (found : tables.typeNamed oldName = some row) :
    (renameType oldName newName tables).typeNamed newName = some { row with name := newName } := by
  rcases (typeNamed_eq_some holds oldName row).mp found with ⟨listed, named⟩
  refine (typeNamed_eq_some renamed newName _).mpr ⟨?_, rfl⟩
  exact List.mem_map.mpr ⟨row, listed, if_pos (decide_eq_true named)⟩

theorem renameType_refused (different : newName ≠ oldName) {asset : Asset json}
    (member : asset ∈ tables.assets) (used : asset.typeName = oldName) :
    ¬ (renameType oldName newName tables).Consistent := by
  intro holds
  have stillThere := holds.typed asset member
  rw [renameType_names] at stillThere
  rcases List.mem_map.mp stillThere with ⟨name, _, same⟩
  by_cases old : name = oldName
  · rw [if_pos old, used] at same
    exact different same
  · rw [if_neg old, used] at same
    exact old same

theorem moveAssets_unused (newName : SafeStr)
    (unused : forall asset, asset ∈ tables.assets -> asset.typeName ≠ oldName) :
    moveAssets oldName newName tables = tables := by
  have same : tables.assets.map (fun asset => if decide (asset.typeName = oldName) then
      { asset with typeName := newName } else asset) = tables.assets := by
    refine (List.map_congr_left ?_).trans (List.map_id _)
    intro asset member
    rw [if_neg (by simpa using unused asset member)]
    rfl
  unfold moveAssets updateAssets
  rw [same]

end Tables

/-! ## What the statements of a handler come to -/

def Returns {α : Type} (program : Handler json α) (database : Database json) (value : α)
    (tables : Tables json) : Prop :=
  Exists fun valid => program.run database = (.ok value, ⟨tables, valid⟩)

theorem query_returns {α : Type} (read : Tables json -> α) {left tables : Tables json}
    (valid : left.Consistent) (same : left = tables) :
    Returns (Checked.query read) ⟨left, valid⟩ (read tables) tables := by
  subst same
  exact ⟨valid, rfl⟩

theorem run_execute_bind {β : Type} {change : Tables json -> Tables json}
    (next : Unit -> Handler json β) {database : Database json}
    (accepted : (change database.val).Consistent) :
    Program.run (execute change >>= next) database =
      Program.run (next ()) ⟨change database.val, accepted⟩ :=
  Checked.run_statement_bind Failure.integrity next accepted

theorem run_textParameter_bind {β : Type} (name : SafeStr) (next : SafeStr -> Handler json β)
    (database : Database json) :
    Program.run (textParameter name.text >>= next) database = Program.run (next name) database := by
  unfold textParameter
  rw [dif_pos name.safe, Program.run_bind, Program.run_ofExcept]

open Tables

namespace AssetTypeRepository

theorem setDefault_returns (database : Database json) {name : SafeStr} {row : AssetType}
    (found : database.val.typeNamed name = some row) :
    Returns (setDefault name) database (some { row with isDefault := true })
      (markDefault name database.val) := by
  have cleared := clearDefault_consistent database.property
  have marked : (setMark name (clearDefault database.val)).Consistent := by
    rw [clear_then_mark]
    exact markDefault_consistent database.property name
  have last := query_returns (fun tables => tables.types.find? fun other => other.id = row.id) marked
    (clear_then_mark name database.val)
  rw [refreshed_markDefault database.property found] at last
  refine last.imp fun valid ran => ?_
  unfold setDefault getByName
  rw [Checked.run_query_bind, found]
  dsimp only
  rw [run_execute_bind _ cleared, run_execute_bind _ marked]
  exact ran

section

variable {oldName newName : SafeStr} {row : AssetType} (database : Database json)
  (found : database.val.typeNamed oldName = some row) (free : database.val.typeNamed newName = none)

include database found free

theorem rename_returns
    (unused : forall asset, asset ∈ database.val.assets -> asset.typeName ≠ oldName) :
    Returns (rename oldName newName) database (some { row with name := newName })
      (renameType oldName newName database.val) := by
  have renamed := renameType_consistent database.property free unused
  have kept : moveAssets oldName newName (renameType oldName newName database.val) = _ :=
    moveAssets_unused newName unused
  have moved : (moveAssets oldName newName (renameType oldName newName database.val)).Consistent := by
    rw [kept]
    exact renamed
  have last := query_returns (Tables.typeNamed newName) moved kept
  rw [typeNamed_renameType database.property renamed found] at last
  refine last.imp fun valid ran => ?_
  unfold rename getByName
  rw [Checked.run_query_bind, found]
  simp only [Option.isNone_some, Bool.false_eq_true, if_false]
  rw [Checked.run_query_bind, free]
  simp only [Option.isSome_none, Bool.false_eq_true, if_false]
  rw [run_execute_bind _ renamed, run_execute_bind _ moved]
  exact ran

theorem rename_refused {asset : Asset json} (member : asset ∈ database.val.assets)
    (used : asset.typeName = oldName) :
    (rename oldName newName).run database = (.error .integrity, database) := by
  have different : newName ≠ oldName := by
    intro same
    rw [same, found] at free
    cases free
  unfold rename getByName
  rw [Checked.run_query_bind, found]
  simp only [Option.isNone_some, Bool.false_eq_true, if_false]
  rw [Checked.run_query_bind, free]
  simp only [Option.isSome_none, Bool.false_eq_true, if_false]
  exact Checked.run_statement_bind_refused _ _ (renameType_refused different member used)

end

end AssetTypeRepository

section UpdateAssetType

variable (database : Database json) (name : SafeStr) (isDefault : Option Bool)

def markAsked (tables : Tables json) : Tables json :=
  if isDefault = some true then markDefault name tables else tables

theorem markIfAsked_returns {row : AssetType} (found : database.val.typeNamed name = some row) :
    Exists fun marked => (marked.map AssetType.name).getD name = name ∧
      Returns (markIfAsked name.text name isDefault) database marked
        (markAsked name isDefault database.val) := by
  unfold markIfAsked markAsked
  by_cases asked : isDefault = some true
  · rw [if_pos asked, if_pos asked]
    have named := ((typeNamed_eq_some database.property name row).mp found).2
    refine ⟨some { row with isDefault := true }, named, ?_⟩
    rcases AssetTypeRepository.setDefault_returns database found with ⟨valid, ran⟩
    refine ⟨valid, ?_⟩
    rw [Program.run_bind, ran]
    rfl
  · rw [if_neg asked, if_neg asked]
    exact ⟨none, rfl, database.property, rfl⟩

theorem markAsked_typeNamed {tables : Tables json} {wanted : SafeStr} :
    ((markAsked name isDefault tables).typeNamed wanted).isSome = (tables.typeNamed wanted).isSome := by
  unfold markAsked
  split
  · rw [typeNamed_markDefault, Option.isSome_map]
  · rfl

theorem markAsked_assets (tables : Tables json) :
    (markAsked name isDefault tables).assets = tables.assets := by
  unfold markAsked
  split <;> rfl

theorem updateAssetType_run (newName : SafeStr) {row : AssetType}
    (found : database.val.typeNamed name = some row) :
    Exists fun valid => (updateAssetType name.text ⟨some newName, isDefault⟩).run database =
      match (AssetTypeRepository.rename name newName).run
        ⟨markAsked name isDefault database.val, valid⟩ with
      | (.ok (some renamed), left) => (.ok renamed, left)
      | (.ok none, left) => (.error (.notFound "asset type" name.text), left)
      | (.error failure, left) => (.error failure, left) := by
  rcases markIfAsked_returns database name isDefault found with ⟨marked, keepsName, valid, ran⟩
  refine ⟨valid, ?_⟩
  unfold updateAssetType
  rw [run_textParameter_bind, Program.run_bind, ran]
  dsimp only
  unfold renameIfAsked
  dsimp only
  rw [keepsName, Program.run_bind, Program.run_bind]
  cases (AssetTypeRepository.rename name newName).run _ with
  | mk outcome left =>
      cases outcome with
      | error failure => rfl
      | ok found => cases found <;> rfl

end UpdateAssetType

/-! ## Asset types over all requests -/

/-- What a rename is to do: the type has its new name and the assets of the old name refer to
it, every other row is as it was, and the mark is where it is asked for. -/
structure Moved (name newName : SafeStr) (isDefault : Option Bool) (before after : Tables json) :
    Prop where
  types : after.types = before.types.map fun row =>
    { row with
      name := if row.name = name then newName else row.name
      isDefault := if isDefault = some true then row.name = name else row.isDefault }
  assets : after.assets = before.assets.map fun asset =>
    { asset with typeName := if asset.typeName = name then newName else asset.typeName }

/-- The request is answered with the renamed type, and moves what it is to move. -/
def Renames (database : Database json) (name newName : SafeStr) (isDefault : Option Bool) : Prop :=
  let served := serve database (.updateAssetType name.text ⟨some newName, isDefault⟩)
  (Exists fun row => served.1 = .ok (.assetType row) ∧ row.name = newName) ∧
    Moved name newName isDefault database.val served.2.val

theorem renameType_moved (name newName : SafeStr) (isDefault : Option Bool) {tables : Tables json}
    (unused : forall asset, asset ∈ tables.assets -> asset.typeName ≠ name) :
    Moved name newName isDefault tables (renameType name newName (markAsked name isDefault tables)) where
  types := by
    unfold markAsked markDefault renameType updateTypes
    by_cases asked : isDefault = some true
    · simp only [if_pos asked, List.map_map]
      apply List.map_congr_left
      intro row _
      by_cases same : row.name = name <;> simp [same]
    · simp only [if_neg asked]
      apply List.map_congr_left
      intro row _
      by_cases same : row.name = name <;> simp [same]
  assets := by
    change (markAsked name isDefault tables).assets = _
    rw [markAsked_assets]
    refine ((List.map_congr_left ?_).trans (List.map_id _)).symm
    intro asset member
    rw [if_neg (unused asset member)]
    rfl

theorem serve_failed (database : Database json) (request : Request json)
    (failed : (serve database request).1.isOk = false) : (serve database request).2 = database := by
  apply Checked.transaction_rolledBack
  change (request.handler.run database).1.isOk = false at failed
  cases outcome : (request.handler.run database).1 with
  | ok reply =>
      rw [outcome] at failed
      cases failed
  | error failure => cases failure <;> rfl

theorem renames_iff (database : Database json) {name newName : SafeStr} (isDefault : Option Bool)
    {row : AssetType} (found : database.val.typeNamed name = some row)
    (free : database.val.typeNamed newName = none) :
    Renames database name newName isDefault ↔
      forall asset, asset ∈ database.val.assets -> asset.typeName ≠ name := by
  rcases updateAssetType_run database name isDefault newName found with ⟨valid, ran⟩
  have stillThere : ((markAsked name isDefault database.val).typeNamed name).isSome = true := by
    rw [markAsked_typeNamed, found]
    rfl
  rcases Option.isSome_iff_exists.mp stillThere with ⟨marked, markedFound⟩
  have stillFree : (markAsked name isDefault database.val).typeNamed newName = none := by
    rw [<- Option.isNone_iff_eq_none, <- Option.not_isSome, markAsked_typeNamed, free]
    rfl
  have sameAssets := markAsked_assets name isDefault database.val
  constructor
  · rintro ⟨⟨answered, isAnswer, _⟩, _⟩ asset member used
    rw [AssetTypeRepository.rename_refused ⟨markAsked name isDefault database.val, valid⟩ markedFound
      stillFree (sameAssets ▸ member) used] at ran
    change ((updateAssetType name.text _ >>= _).run database).1 = _ at isAnswer
    rw [Program.run_bind, ran] at isAnswer
    cases isAnswer
  · intro unused
    rcases AssetTypeRepository.rename_returns ⟨markAsked name isDefault database.val, valid⟩
      markedFound stillFree (fun asset member => unused asset (sameAssets ▸ member)) with
      ⟨renamed, renameRan⟩
    rw [renameRan] at ran
    have served : serve database (.updateAssetType name.text ⟨some newName, isDefault⟩) =
        (.ok (.assetType { marked with name := newName }),
          ⟨renameType name newName (markAsked name isDefault database.val), renamed⟩) := by
      refine Checked.transaction_committed ?_ rfl
      change Program.run (updateAssetType name.text _ >>= _) database = _
      rw [Program.run_bind, ran]
      rfl
    unfold Renames
    rw [served]
    exact ⟨⟨_, rfl, rfl⟩, renameType_moved name newName isDefault unused⟩

/-- In every state that requests lead to, one type at most is the default and every asset has
an existing type, a request that fails has changed nothing, and a type is renamed as
asked exactly when no asset refers to it. -/
theorem assetTypes_stayConsistent_iff (start : Database json) (requests : List (Request json)) :
    (forall first second, first ∈ (serveAll start requests).val.types ->
        second ∈ (serveAll start requests).val.types -> first.isDefault = true ->
        second.isDefault = true -> first = second) ∧
      (forall asset, asset ∈ (serveAll start requests).val.assets ->
        Exists fun row => row ∈ (serveAll start requests).val.types ∧ row.name = asset.typeName) ∧
      (forall request, (serve (serveAll start requests) request).1.isOk = false ->
        (serve (serveAll start requests) request).2 = serveAll start requests) ∧
      forall row newName isDefault, row ∈ (serveAll start requests).val.types ->
        newName ∉ (serveAll start requests).val.types.map AssetType.name ->
        (Renames (serveAll start requests) row.name newName isDefault ↔
          forall asset, asset ∈ (serveAll start requests).val.assets -> asset.typeName ≠ row.name) := by
  have holds := (serveAll start requests).property
  refine ⟨?_, ?_, ?_, ?_⟩
  · intro first second
    exact holds.oneDefault
  · intro asset member
    exact List.mem_map.mp (holds.typed asset member)
  · intro request
    exact serve_failed _ request
  · intro row newName isDefault listed free
    have found := (typeNamed_eq_some holds row.name row).mpr ⟨listed, rfl⟩
    exact renames_iff _ isDefault found (typeNamed_eq_none.mpr free)

/-! ### A type in use -/

def seededTypes : Tables Unit where
  types := [
    { id := 1, name := ⟨"vm", by decide⟩, isDefault := true },
    { id := 2, name := ⟨"service", by decide⟩ },
    { id := 3, name := ⟨"database", by decide⟩ },
    { id := 4, name := ⟨"container", by decide⟩ },
    { id := 5, name := ⟨"endpoint", by decide⟩ },
    { id := 6, name := ⟨"load-test", by decide⟩ }]
  assets := []

def seeded : Database Unit :=
  ⟨seededTypes, by decide +kernel⟩

def firstMachine : AssetCreate Unit :=
  { name := ⟨"web-01", by decide⟩, typeName := ⟨"vm", by decide⟩ }

/-- After the first asset of the default type, that type cannot get another name. -/
theorem usedType_notRenamed :
    (Exists fun row => row ∈ (serveAll seeded [.createAsset 7 firstMachine]).val.types ∧
        row.name = firstMachine.typeName) ∧
      ⟨"host", by decide⟩ ∉
        (serveAll seeded [.createAsset 7 firstMachine]).val.types.map AssetType.name ∧
      ¬ Renames (serveAll seeded [.createAsset 7 firstMachine]) firstMachine.typeName
        ⟨"host", by decide⟩ none := by
  refine ⟨⟨{ id := 1, name := firstMachine.typeName, isDefault := true }, ?_, rfl⟩, ?_, ?_⟩
  · decide +kernel
  · decide +kernel
  · rintro ⟨⟨row, answered, _⟩, _⟩
    have failed : (serve (serveAll seeded [.createAsset 7 firstMachine])
        (.updateAssetType firstMachine.typeName.text ⟨some ⟨"host", by decide⟩, none⟩)).1.isOk =
          false := by
      decide +kernel
    rw [answered] at failed
    cases failed

end Assets
end Tropek
