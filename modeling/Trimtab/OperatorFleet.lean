import Trimtab.MergePatch
import Trimtab.Operator
import Trimtab.SqlStore
import Trimtab.Checks

set_option autoImplicit false

/-!
# The operator over all its objects

A spec has the types of the custom resource definition. A status is any object that the API server
holds, with keys that the operator never wrote among them, and a patch of it is a JSON merge patch.
-/
namespace Trimtab.Fleet
open PyText Effects Checks

structure ConfigObject where
  spec : Spec
  status : Dict String Json

/-- The store, the objects by namespace and name, and the patches that were sent. -/
structure FleetState where
  store : Store
  objects : Dict (String × String) ConfigObject
  patches : List ((String × String) × Dict String Json)

abbrev FleetM := EStateM SqlStore.Fault FleetState

structure FleetOperator where
  /-- `hexdigest()[:16]` of the text of a spec's key -/
  digest : SpecKey → String
  replicas : List String := []
  ns : Option String := none
  platform : SqlStore.Platform

def onStore {α : Type} (x : StoreM α) : FleetM α := fun s =>
  match x.run s.store with
  | .ok a t => .ok a { s with store := t }
  | .error e t => .error (.python e) { s with store := t }

def required {α : Type} (key : String) : Option α → StoreM α
  | some a => return a
  | none => throw (.keyError key)

/-- `K8s.patch_status`. Nobody deletes an object meanwhile. -/
def patchStatus (key : String × String) (patch : Dict String Json) : FleetM Unit :=
  modify fun s => { s with
    objects := match s.objects.get? key with
      | some obj => s.objects.insert key { obj with status := obj.status.mergePatch patch }
      | none => s.objects
    patches := s.patches ++ [(key, patch)] }

/-- The canary that the status waits for, under whatever id it has there. -/
def awaits (status : Dict String Json) : Option Json :=
  if status.get? "phase" = some (.str "canary") then (status.get? "canaryId").filter Json.truthy
  else none

def noted (status : Dict String Json) (row : CanaryRow) : Dict String Json :=
  if row.status ≠ "observing" then
    (status.insert "phase" (.str row.status)).insert "canaryDecision" (.str row.decision)
  else status

def replicaView (r : String × StatusRow) : Json := .dict [
  ("replica", .str r.1), ("appliedVersionId", SqlStore.intOrNull r.2.appliedVersionId),
  ("state", .str r.2.state), ("detail", .str r.2.detail)]

def view (group : String) (status : Dict String Json) : FleetM (Dict String Json) := do
  let d ← onStore (Store.desired group)
  let rows ← onStore (Store.status group)
  return (status.insert "desiredVersionId" (SqlStore.intOrNull (d.map (·.id)))).insert "replicas"
    (.list (rows.map replicaView))

namespace FleetOperator

variable (op : FleetOperator)

def specHash (spec : Spec) : String := op.digest spec.key

def replicasOf (group : String) : StoreM (List String) := do
  if op.replicas.isEmpty then
    let rows ← Store.status group
    return (rows.map (·.1)).dedup.insertionSort (· ≤ ·)
  else return op.replicas

def release (spec : Spec) (v : ConfigVersion) (status : Dict String Json) :
    StoreM (Dict String Json) := do
  match spec.canary? with
  | some c =>
    let replicas ← op.replicasOf spec.group
    let scope ← required "scope" c.scope
    let gates ← required "gates" c.gates
    let cid ← Canary.start ⟨spec.group, replicas⟩ v.id scope gates (c.windowS.getD 300)
    return (status.insert "phase" (.str "canary")).insert "canaryId" (.int cid)
  | none =>
    Store.promote spec.group v.id
    return status.insert "phase" (.str "promoted")

def Asks (obj : ConfigObject) : Prop :=
  obj.status.get? "appliedHash" ≠ some (.str (op.specHash obj.spec)) ∧ obj.spec.fields ≠ ∅

instance (obj : ConfigObject) : Decidable (op.Asks obj) := instDecidableAnd

def advance (key : String × String) (obj : ConfigObject) : StoreM (Dict String Json) := do
  if op.Asks obj then
    let v ← Store.propose obj.spec.group obj.spec.fields ("k8s/" ++ key.1 ++ "/" ++ key.2)
      (obj.spec.reason.getD "")
    op.release obj.spec v ((obj.status.insert "appliedHash"
      (.str (op.specHash obj.spec))).insert "versionId" (.int v.id))
  else return obj.status

/-- What the database makes of the value in `where id=?`. -/
def rowId (id : Json) : Except SqlStore.Fault (Option Int) := do
  match op.platform.integerAffinity (← SqlStore.bind op.platform id) with
  | .int n => return some n
  | _ => return none

def canary (id : Json) : FleetM CanaryRow := do
  let n ← ofExcept (op.rowId id)
  match n.bind (← get).store.canaryTable.get? with
  | some row => return row
  | none => throw (.python (.keyError ("no canary " ++ id.pyStr)))

def poll (status : Dict String Json) : FleetM (Dict String Json) := do
  match awaits status with
  | some id => return noted status (← op.canary id)
  | none => return status

def reconcileOne (key : String × String) (obj : ConfigObject) : FleetM (Dict String Json) := do
  let status ← onStore (op.advance key obj)
  let status ← op.poll status
  let status ← view obj.spec.group status
  if !status.eqv Json.same obj.status then patchStatus key status
  return status

/-- `except (ValueError, KeyError, urllib.error.HTTPError) as e`, and `str(e)`. -/
def errorText? : SqlStore.Fault → Option String
  | .python (.valueError msg) => some msg
  | .python (.keyError msg) => some (pyRepr msg)
  | _ => none

def failed (text : String) : Dict String Json :=
  .ofList [("phase", .str "error"), ("error", .str text)]

def tickOne (key : String × String) (obj : ConfigObject) : FleetM (Dict String Json) :=
  rescue (op.reconcileOne key obj) fun e =>
    match errorText? e with
    | some text => do
      patchStatus key (failed text)
      return failed text
    | none => throw e

def listed (key : String × String) : Bool := op.ns.all fun ns => ns = "" || ns = key.1

def listConfigs (s : FleetState) : List ((String × String) × ConfigObject) :=
  s.objects.entries.filter fun p => op.listed p.1

def tick : FleetM (Dict String (Dict String Json)) := do
  (op.listConfigs (← get)).foldlM
    (fun out p => return out.insert p.1.2 (← op.tickOne p.1 p.2)) ∅

/-- `run`, after `n` ticks. -/
def ticks (s : FleetState) : Nat → FleetState
  | 0 => s
  | n + 1 => final op.tick (ticks s n)

def Quiet (s : FleetState) : Prop :=
  ∀ p ∈ op.listConfigs s, ∃ new t, (op.reconcileOne p.1 p.2).run s = .ok new t ∧ t.store = s.store

/-- From `s` on no store row changes and `reconcile_one` raises for no object. -/
def Undisturbed (s : FleetState) : Prop := ∀ n, op.Quiet (op.ticks s n)

/-- No tick after the first sends a patch. -/
def Rests (s : FleetState) : Prop :=
  ∀ n, (op.ticks s (n + 1)).patches = (op.ticks s 1).patches

end FleetOperator

end Trimtab.Fleet
