import Trimtab.ControlPlane

set_option autoImplicit false

/-!
# The Kubernetes operator

One object, the API server that holds its status, and the store. The custom resource
definition lets through only specs of the types below. Every call of the operator to the
store or to the API server may fail, before it takes effect or after.
-/
namespace Trimtab
open PyText Effects Runs

structure CanarySpec where
  scope : Option (List String) := none
  gates : Option (List Gate) := none
  windowS : Option Rat := none
  deriving DecidableEq

structure Spec where
  group : String
  reason : Option String := none
  fields : Fields
  canary : Option CanarySpec := none
  deriving DecidableEq

/-- `spec.get("canary")` as a condition: a canary without a key is no canary. -/
def Spec.canary? (spec : Spec) : Option CanarySpec :=
  spec.canary.filter fun c => c.scope.isSome || c.gates.isSome || c.windowS.isSome

/-- What the text that `spec_hash` digests is made of. -/
abbrev SpecKey := Fields × Option CanarySpec

def Spec.key (spec : Spec) : SpecKey :=
  (spec.fields.stored, spec.canary.map fun c => { c with gates := c.gates.map (·.map Fields.stored) })

structure ReplicaView where
  replica : String
  appliedVersionId : Option Int
  state : String
  detail : String
  deriving DecidableEq

/-- The keys that the operator writes. A key that is absent is `none`. -/
structure ConfigStatus where
  appliedHash : Option String := none
  versionId : Option Int := none
  phase : Option String := none
  canaryId : Option Int := none
  canaryDecision : Option String := none
  desiredVersionId : Option Int := none
  replicas : Option (List ReplicaView) := none
  error : Option String := none
  deriving DecidableEq

structure InferenceConfig where
  ns : String
  name : String
  spec : Spec
  status : ConfigStatus := {}
  deriving DecidableEq

inductive Raised where
  | py (e : PyErr)
  | httpError (text : String)
  deriving DecidableEq

/-- `except (ValueError, KeyError, urllib.error.HTTPError)` -/
def Raised.caught : Raised → Bool
  | .py (.valueError _) | .py (.keyError _) | .httpError _ => true
  | _ => false

/-- `str(e)` -/
def Raised.text : Raised → String
  | .py (.keyError msg) => pyRepr msg
  | .py (.valueError msg) | .py (.typeError msg) | .py (.overflowError msg)
  | .py (.runtimeError msg) | .py (.attributeError msg) | .py (.osError msg)
  | .py (.zeroDivisionError msg) | .py (.memoryError msg) => msg
  | .httpError text => text

/-- A failure of a call: the call took no effect, or its answer was lost. -/
inductive Fault where
  | before (e : Raised)
  | after (e : Raised)

/-- The store, the object as the API server holds it, and how the next calls fare. -/
structure Cluster where
  store : Store
  obj : InferenceConfig
  faults : List (Option Fault)

abbrev OperatorM := EStateM Raised Cluster

structure Operator where
  /-- `hexdigest()[:16]` of the key's text -/
  digest : SpecKey → String
  replicas : List String := []

namespace Operator

variable (op : Operator)

def onStore {α : Type} (x : StoreM α) : OperatorM α := fun s =>
  match x.run s.store with
  | .ok a t => .ok a { s with store := t }
  | .error e t => .error (.py e) { s with store := t }

def calling {α : Type} (x : OperatorM α) : OperatorM α := fun s =>
  let rest := { s with faults := s.faults.tail }
  match s.faults.head?.join with
  | none => x.run rest
  | some (.before e) => .error e rest
  | some (.after e) =>
    match x.run rest with
    | .ok _ t => .error e t
    | .error e' t => .error e' t

def specHash (spec : Spec) : String := op.digest spec.key

/-- `self.replicas or sorted({s["replica_id"] for s in self.store.status(group)})` -/
def replicasOf (group : String) : OperatorM (List String) := do
  if op.replicas.isEmpty then
    let rows ← calling (onStore (Store.status group))
    return (rows.map (·.1)).dedup.insertionSort (· ≤ ·)
  else return op.replicas

def required {α : Type} (key : String) : Option α → OperatorM α
  | some a => return a
  | none => throw (.py (.keyError key))

def startCanary (c : Canary) (candidateVersionId : Int) (scope : List String) (gates : List Gate)
    (windowS : Rat) : OperatorM Int := do
  onStore (ofExcept (c.checkScope scope))
  let cid ← calling (onStore (Store.openCanary c.group candidateVersionId scope gates windowS))
  calling (onStore (Store.setOverrides scope candidateVersionId cid))
  return cid

def release (spec : Spec) (v : ConfigVersion) (status : ConfigStatus) : OperatorM ConfigStatus := do
  match spec.canary? with
  | some c =>
    let replicas ← op.replicasOf spec.group
    let scope ← required "scope" c.scope
    let gates ← required "gates" c.gates
    let cid ← startCanary ⟨spec.group, replicas⟩ v.id scope gates (c.windowS.getD 300)
    return { status with phase := some "canary", canaryId := some cid }
  | none =>
    calling (onStore (Store.promote spec.group v.id))
    return { status with phase := some "promoted" }

def Asks (obj : InferenceConfig) : Prop :=
  obj.status.appliedHash ≠ some (op.specHash obj.spec) ∧ obj.spec.fields ≠ ∅

instance (obj : InferenceConfig) : Decidable (op.Asks obj) := instDecidableAnd

def advance (obj : InferenceConfig) : OperatorM ConfigStatus := do
  if op.Asks obj then
    let v ← calling (onStore (Store.propose obj.spec.group obj.spec.fields
      ("k8s/" ++ obj.ns ++ "/" ++ obj.name) (obj.spec.reason.getD "")))
    op.release obj.spec v
      { obj.status with appliedHash := some (op.specHash obj.spec), versionId := some v.id }
  else return obj.status

def awaits (status : ConfigStatus) : Option Int :=
  if status.phase = some "canary" then status.canaryId.filter (· ≠ 0) else none

def noted (status : ConfigStatus) (row : CanaryRow) : ConfigStatus :=
  if row.status ≠ "observing" then
    { status with phase := some row.status, canaryDecision := some row.decision }
  else status

def poll (status : ConfigStatus) : OperatorM ConfigStatus := do
  match awaits status with
  | some cid => return noted status (← calling (onStore (Store.canary cid)))
  | none => return status

def view (group : String) (status : ConfigStatus) : OperatorM ConfigStatus := do
  let d ← calling (onStore (Store.desired group))
  let rows ← calling (onStore (Store.status group))
  return { status with
    desiredVersionId := d.map (·.id)
    replicas := some (rows.map fun r => ⟨r.1, r.2.appliedVersionId, r.2.state, r.2.detail⟩) }

/-- A JSON merge patch of the status by all the keys of `new`. `desiredVersionId` is always
among them, and null removes it. -/
def merge (live new : ConfigStatus) : ConfigStatus where
  appliedHash := new.appliedHash.or live.appliedHash
  versionId := new.versionId.or live.versionId
  phase := new.phase.or live.phase
  canaryId := new.canaryId.or live.canaryId
  canaryDecision := new.canaryDecision.or live.canaryDecision
  desiredVersionId := new.desiredVersionId
  replicas := new.replicas.or live.replicas
  error := new.error.or live.error

def patchStatus (patch : ConfigStatus → ConfigStatus) : OperatorM Unit :=
  calling (modify fun s => { s with obj := { s.obj with status := patch s.obj.status } })

/-- `new_status != status`: a null `desiredVersionId` is a key that no stored status has. -/
def Differs (new status : ConfigStatus) : Prop := new ≠ status ∨ new.desiredVersionId = none

instance (new status : ConfigStatus) : Decidable (Differs new status) := instDecidableOr

def report (obj : InferenceConfig) (new : ConfigStatus) : OperatorM ConfigStatus := do
  if Differs new obj.status then patchStatus fun live => merge live new
  return new

/-- All of `reconcile_one` but its end. -/
def prepare (obj : InferenceConfig) : OperatorM ConfigStatus := do
  let status ← op.advance obj
  let status ← poll status
  view obj.spec.group status

def reconcileOne (obj : InferenceConfig) : OperatorM ConfigStatus := do
  report obj (← op.prepare obj)

def failed (e : Raised) (live : ConfigStatus) : ConfigStatus :=
  { live with phase := some "error", error := some e.text }

def tick : OperatorM ConfigStatus := fun s =>
  match (op.reconcileOne s.obj).run s with
  | .ok status t => .ok status t
  | .error e t =>
    if e.caught then
      (do patchStatus (failed e); return failed e {}).run t
    else .error e t

end Operator

/-! ## The object over time -/

inductive OperatorEvent where
  | tick (faults : List (Option Fault))
  | other (w : PlaneOp)
  | edit (spec : Spec)

namespace Operator

variable (op : Operator)

def step (s : Cluster) : OperatorEvent → Cluster
  | .tick faults => final op.tick { s with faults := faults }
  | .other w => { s with store := w.apply s.store }
  | .edit spec => { s with obj := { s.obj with spec := spec } }

end Operator
end Trimtab
