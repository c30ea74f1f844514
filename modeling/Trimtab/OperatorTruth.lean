import Trimtab.CanaryInterleaving
import Trimtab.OperatorOnce

set_option autoImplicit false

/-! What the status of the object says of its version and of its canary. -/
namespace Trimtab.Operator
open Effects Runs StoreHistory

/-! ## Rows of other parties -/

def phaseOf (row : CanaryRow) : String := if row.status = "observing" then "canary" else row.status

/-- The phase tells how version `v` was released, and how its canary stands if it has one. -/
def Tells (s : Store) (spec : Spec) (status : ConfigStatus) (v : ConfigVersion) : Prop :=
  match spec.canary? with
  | none => status.phase = some "promoted"
  | some _ => ∃ cid row, status.canaryId = some cid ∧ s.canaryTable.get? cid = some row ∧
      row.candidateVersionId = v.id ∧ status.phase = some (phaseOf row)

/-- The status names a version of the spec's group with exactly the spec's fields. -/
def Truthful (s : Store) (spec : Spec) (status : ConfigStatus) : Prop :=
  ∃ v, status.versionId = some v.id ∧ s.find v.id = some v ∧ v.replicaGroup = spec.group ∧
    v.fields = spec.fields.stored ∧ Tells s spec status v

/-- The phase is that of the version's release, and may be behind on its canary. -/
inductive PhaseOf (s : Store) (spec : Spec) (status : ConfigStatus) (v : ConfigVersion) : Prop where
  | promoted (direct : spec.canary? = none) (phase : status.phase = some "promoted")
  | canary (cid : Int) (row : CanaryRow) (watched : spec.canary?.isSome) (positive : 1 ≤ cid)
      (named : status.canaryId = some cid) (found : s.canaryTable.get? cid = some row)
      (candidate : row.candidateVersionId = v.id)
      (phase : status.phase = some "canary" ∨
        row.status ≠ "observing" ∧ status.phase = some row.status)

/-- What the ticks have done to the status: the group of the spec that was applied last, and
whether an error was written over the status since. -/
structure Ledger where
  group : String
  marred : Bool

def Names (s : Store) (g : Ledger) (spec : Spec) (status : ConfigStatus) : Prop :=
  ∃ v, status.versionId = some v.id ∧ s.find v.id = some v ∧ v.replicaGroup = g.group ∧
    v.fields = spec.fields.stored ∧ (g.marred = false → PhaseOf s spec status v)

variable {g : Ledger}

variable {op : Operator} {K : Spec → Prop}

def Accounts (op : Operator) (K : Spec → Prop) (s : Store) (g : Ledger) (status : ConfigStatus) :
    Prop :=
  ∀ spec, K spec → status.appliedHash = some (op.specHash spec) → Names s g spec status

/-- Every spec whose hash the status shows is accounted for. -/
structure Told (op : Operator) (K : Spec → Prop) (p : Cluster × Ledger) : Prop where
  known : K p.1.obj.spec
  accounts : Accounts op K p.1.store p.2 p.1.obj.status

/-- What a tick returns for a spec with fields is the truth about the store it leaves. -/
def Reports (op : Operator) (s : Cluster) : OperatorEvent → Prop
  | .tick faults => ∀ status, value? (op.reconcileOne s.obj) { s with faults := faults } = some status →
      s.obj.spec.fields ≠ ∅ →
        Truthful (op.step s (.tick faults)).store s.obj.spec status
  | _ => True

end Trimtab.Operator
