import Trimtab.Store
import Trimtab.PyNumbers

set_option autoImplicit false

/-!
# The store on values of any type

The methods of the store as the server calls them, with whatever a request holds: a value is bound
to a statement, takes the affinity of its column, and meets the column's constraint. Timestamps
are left out.
-/
namespace Trimtab.SqlStore
open PyText Effects

/-- A value that a statement holds. A `NaN` is bound as a null. -/
inductive SqlValue where
  | null
  | int (n : Int)
  | real (x : PyFloat)
  | text (s : String)
  deriving DecidableEq

/-- An exception of Python, or one of the classes of `sqlite3`. -/
inductive Fault where
  | python (e : PyErr)
  | database (name msg : String)
  deriving DecidableEq

/-- What Python and SQLite bring. -/
structure Platform where
  /-- `urlparse` of the request's target: the path, and each name of the query with its first
  value. -/
  urlparse : String → Except PyErr (String × List (String × String))
  loads : List UInt8 → Except PyErr Json
  sorted : List Json → Except PyErr (List Json)
  /-- The text of the error that a lone surrogate is to UTF-8. -/
  encodeError : String → Option String
  realText : PyFloat → String
  integerAffinity : SqlValue → SqlValue
  /-- Whether `dataclasses.asdict` comes to the bottom of a version's fields within the recursion
  limit. -/
  copies : Json → Bool
  /-- The room for so many bytes of a body. -/
  allocate : Nat → Except PyErr Unit

structure VersionRow where
  replicaGroup : String
  parentId : Option Int
  fields : Json
  createdBy : String
  reason : String
  deriving DecidableEq

structure OverrideRow where
  versionId : Int
  canaryId : Int
  deriving DecidableEq

structure CanaryRow where
  replicaGroup : String
  candidateVersionId : Int
  baselineVersionId : Option Int
  scope : Json
  gates : Json
  windowS : PyFloat
  status : String
  decision : String := ""
  deriving DecidableEq

structure StatusRow where
  replicaGroup : String
  appliedVersionId : SqlValue
  state : String
  detail : String
  deriving DecidableEq

/-- A table whose primary key is a text. Such a key may be null, and a null conflicts with no row. -/
structure Keyed (ρ : Type) where
  rows : Dict String ρ
  unnamed : List ρ
  deriving DecidableEq

/-- `insert ... on conflict(key) do update` -/
def Keyed.upsert {ρ : Type} (t : Keyed ρ) (key : Option String) (row : ρ) : Keyed ρ :=
  match key with
  | some k => { t with rows := t.rows.insert k row }
  | none => { t with unnamed := t.unnamed ++ [row] }

structure Tables where
  configVersion : SerialTable VersionRow
  desiredState : Dict String Int
  replicaOverride : Keyed OverrideRow
  canaryTable : SerialTable CanaryRow
  replicaStatus : Keyed StatusRow
  deriving DecidableEq

abbrev TablesM := EStateM Fault Tables

section Statements

variable (P : Platform)

/-! ### Binding, affinity and constraints -/

def bind : Json → Except Fault SqlValue
  | .null => .ok .null
  | .bool b => .ok (.int (if b then 1 else 0))
  | .int n =>
    if fits n then .ok (.int n)
    else .error (.python (.overflowError "Python int too large to convert to SQLite INTEGER"))
  | .float .nan => .ok .null
  | .float x => .ok (.real x)
  | .str s =>
    match P.encodeError s with
    | none => .ok (.text s)
    | some msg => .error (.python (.valueError msg))
  | v => .error (.database "ProgrammingError"
      ("Error binding parameter: type " ++ pyRepr v.typeName ++ " is not supported"))

def SqlValue.asText : SqlValue → Option String
  | .null => none
  | .int n => some (toString n)
  | .real x => some (P.realText x)
  | .text s => some s

def notNull {α : Type} (column : String) : Option α → Except Fault α
  | some x => .ok x
  | none => .error (.database "IntegrityError" ("NOT NULL constraint failed: " ++ column))

def param (v : Json) : TablesM SqlValue := ofExcept (bind P v)

def textColumn (column : String) (v : SqlValue) : TablesM String :=
  ofExcept (notNull column (v.asText P))

/-- A value in a column of reals, where it has been a float. -/
def SqlValue.asReal : SqlValue → Option PyFloat
  | .real x => some x
  | _ => none

def intOrNull : Option Int → Json
  | some n => .int n
  | none => .null

def iterate : Json → Except Fault (List Json)
  | .list xs => .ok xs
  | .dict kvs => .ok (kvs.map fun p => .str p.1)
  | .str s => .ok (s.toList.map fun c => .str (String.singleton c))
  | v => .error (.python (.typeError (pyRepr v.typeName ++ " object is not iterable")))

def python {α : Type} : Except PyErr α → Except Fault α
  | .ok a => .ok a
  | .error e => .error (.python e)

/-! ### The methods -/

structure ConfigVersion extends VersionRow where
  id : Int

def version (versionId : Int) : TablesM ConfigVersion := do
  let _ ← param P (.int versionId)
  match (← get).configVersion.get? versionId with
  | none => throw (.python (.keyError ("no config_version " ++ toString versionId)))
  | some row => return ⟨row, versionId⟩

def desired (group : Json) : TablesM (Option ConfigVersion) := do
  let group ← param P group
  match (group.asText P).bind (← get).desiredState.get? with
  | none => return none
  | some versionId => return some (← version P versionId)

def desiredFor (replicaId group : Json) : TablesM (Option ConfigVersion) := do
  let replicaId ← param P replicaId
  match (replicaId.asText P).bind (← get).replicaOverride.rows.get? with
  | none => desired P group
  | some o => return some (← version P o.versionId)

def propose (group fields createdBy reason : Json) : TablesM ConfigVersion := do
  let parent ← desired P group
  let group ← param P group
  let _ ← param P (intOrNull (parent.map (·.id)))
  let createdBy ← param P createdBy
  let reason ← param P reason
  let row : VersionRow := ⟨← textColumn P "config_version.replica_group" group, parent.map (·.id),
    fields.sortKeys, ← textColumn P "config_version.created_by" createdBy,
    ← textColumn P "config_version.reason" reason⟩
  let newId := (← get).configVersion.nextId
  modify fun s => { s with configVersion := s.configVersion.insert row }
  version P newId

def promote (group : Json) (versionId : Int) : TablesM Unit := do
  let v ← version P versionId
  if Json.str v.replicaGroup ≠ group then
    throw (.python (.valueError ("version " ++ toString versionId ++ " belongs to group " ++
      pyRepr v.replicaGroup ++ ", not " ++ group.repr)))
  let _ ← param P group
  modify fun s => { s with desiredState := s.desiredState.insert v.replicaGroup versionId }

def rollback (group : Json) (toVersionId : Int) : TablesM Unit := promote P group toVersionId

def setOverride (versionId canaryId : Int) (replicaId : Json) : TablesM Unit := do
  let replicaId ← param P replicaId
  let _ ← param P (.int versionId)
  let _ ← param P (.int canaryId)
  modify fun s => { s with
    replicaOverride := s.replicaOverride.upsert (replicaId.asText P) ⟨versionId, canaryId⟩ }

def setOverrides (replicaIds : Json) (versionId canaryId : Int) : TablesM Unit := do
  (← ofExcept (iterate replicaIds)).forM (setOverride P versionId canaryId)

def clearOverrides (canaryId : Int) : TablesM Unit := do
  let _ ← param P (.int canaryId)
  modify fun s => { s with
    replicaOverride :=
      ⟨s.replicaOverride.rows.filter fun _ o => o.canaryId ≠ canaryId,
        s.replicaOverride.unnamed.filter fun o => o.canaryId ≠ canaryId⟩ }

def openCanary (group : Json) (candidateId : Int) (scope gates : Json) (windowS : PyFloat) :
    TablesM Int := do
  let base ← desired P group
  let scope ← ofExcept (python (P.sorted (← ofExcept (iterate scope))))
  let group ← param P group
  let _ ← param P (.int candidateId)
  let _ ← param P (intOrNull (base.map (·.id)))
  let windowS ← param P (.float windowS)
  let row : CanaryRow := {
    replicaGroup := ← textColumn P "canary.replica_group" group
    candidateVersionId := candidateId
    baselineVersionId := base.map (·.id)
    scope := .list scope
    gates := gates
    windowS := ← ofExcept (notNull "canary.window_s" windowS.asReal)
    status := "observing" }
  let newId := (← get).canaryTable.nextId
  modify fun s => { s with canaryTable := s.canaryTable.insert row }
  return newId

def canary (canaryId : Int) : TablesM CanaryRow := do
  let _ ← param P (.int canaryId)
  match (← get).canaryTable.get? canaryId with
  | none => throw (.python (.keyError ("no canary " ++ toString canaryId)))
  | some row => return row

/-- The constraints are those of the row, if there is one. -/
def closeCanary (canaryId : Int) (status decision : Json) : TablesM Unit := do
  let status ← param P status
  let decision ← param P decision
  let _ ← param P (.int canaryId)
  if ((← get).canaryTable.get? canaryId).isSome then
    let status ← textColumn P "canary.status" status
    let decision ← textColumn P "canary.decision" decision
    modify fun s => { s with
      canaryTable := s.canaryTable.modify canaryId fun row => { row with status, decision } }

def versions (group : Json) : TablesM (List ConfigVersion) := do
  let group ← param P group
  let rows := (← get).configVersion.rows.filter fun r => some r.2.replicaGroup = group.asText P
  rows.mapM fun r => version P r.1

def recordStatus (replicaId group appliedVersionId state detail : Json) : TablesM Unit := do
  let replicaId ← param P replicaId
  let group ← param P group
  let appliedVersionId ← param P appliedVersionId
  let state ← param P state
  let detail ← param P detail
  let row : StatusRow := ⟨← textColumn P "replica_status.replica_group" group,
    P.integerAffinity appliedVersionId, ← textColumn P "replica_status.state" state,
    ← textColumn P "replica_status.detail" detail⟩
  modify fun s => { s with replicaStatus := s.replicaStatus.upsert (replicaId.asText P) row }

/-- The rows of the group, those without a replica first. -/
def status (group : Json) : TablesM (List (Option String × StatusRow)) := do
  let group ← param P group
  let ofGroup (row : StatusRow) : Bool := some row.replicaGroup = group.asText P
  let s := (← get).replicaStatus
  return (s.unnamed.filter ofGroup).map (none, ·) ++
    ((s.rows.entries.filter fun r => ofGroup r.2).insertionSort fun a b => a.1 ≤ b.1).map
      fun r => (some r.1, r.2)

end Statements

end Trimtab.SqlStore
