import Mathlib.Algebra.BigOperators.Group.List.Basic
import Mathlib.Algebra.Field.Rat
import Mathlib.Data.List.Dedup
import Trimtab.CanaryDecision
import Trimtab.CanaryHandover

set_option autoImplicit false

/-! A canary that nobody interferes with decides by its gates, over the means of its samples. -/
namespace Trimtab.CanaryGates
open Canary CanaryDecision Effects GateChecks PyText

/-! ## Means -/

def meanOf (samples : List Metrics) (metric : String) : Option Rat :=
  let values := samples.filterMap (·.get? metric)
  if values = [] then none else some (values.sum / values.length)

/-- What the replicas answer, one after the other, from the `calls`-th call on. -/
def answers (source : Nat → String → Metrics) (calls : Nat) (replicas : List String) : List Metrics :=
  (replicas.zipIdx calls).map fun p => source p.2 p.1

/-- The samples of one side, whose turn comes after `ahead` calls of each of the `rounds`. -/
def samplesOf (source : Nat → String → Metrics) (width ahead rounds : Nat)
    (replicas : List String) : List Metrics :=
  (List.range rounds).flatMap fun i => answers source (i * width + ahead) replicas

/-- A canary that is started and then observed, with no writer but reconcilers that report their
status in between. -/
structure Trial where
  canary : Canary
  candidate : ConfigVersion
  scope : List String
  gates : List Gate
  windowS : Rat
  /-- The store that `start` finds, the one it leaves, and the one `observe` finds. -/
  before : Store
  begun : Store
  found : Store
  id : Int
  source : Nat → String → Metrics
  sleep : Rat → Except PyErr Unit
  rounds : Nat
  known : before.find candidate.id = some candidate
  own : candidate.replicaGroup = canary.group
  started : (canary.start candidate.id scope gates windowS).run before = .ok id begun
  undisturbed : begun.Reports found
  slept : sleep (windowS / max rounds 1) = .ok ()

namespace Trial

variable (T : Trial) (E : Coding)

def scopeSide : List String := (T.scope.insertionSort (· ≤ ·)).dedup

def baseSide : List String := T.canary.all.filter fun r => !T.scopeSide.contains r

def width : Nat := T.scopeSide.length + T.baseSide.length

def canarySamples : List Metrics := samplesOf T.source T.width 0 T.rounds T.scopeSide

def baselineSamples : List Metrics :=
  samplesOf T.source T.width T.scopeSide.length T.rounds T.baseSide

def observe : EStateM.Result PyErr Store (String × List String) :=
  (T.canary.observeBy E.close (fun n r => .ok (T.source n r)) T.sleep T.id T.rounds).run T.found

def AllMet : Prop := ∀ g ∈ T.gates, Met g (meanOf T.canarySamples) (meanOf T.baselineSamples)

/-- The row that `start` opens, over a baseline that the group may have had. -/
def row (base : Option Int) : CanaryRow :=
  ⟨T.canary.group, T.candidate.id, base, T.scope.insertionSort (· ≤ ·), T.gates, T.windowS,
    "observing", ""⟩

structure Concluded (decision : String) (findings : List String) (t : Store) : Prop where
  either : decision = PASS ∨ decision = FAIL
  findings : List.Forall₂ Finding T.gates findings
  released : Released t T.id
  closed : ∃ row, t.canaryTable.get? T.id = some row ∧ row.status = decision
  promoted : decision = PASS →
    (Store.desired T.canary.group).run t = .ok (some T.candidate) t
  kept : decision = FAIL → t.desiredState = T.before.desiredState ∧
    value? (Store.desired T.canary.group) t = value? (Store.desired T.canary.group) T.before

/-- The same gates, and on each side the same samples, in another order. -/
structure Reordered (T' : Trial) : Prop where
  gates : T'.gates.Perm T.gates
  canary : T'.canarySamples.Perm T.canarySamples
  baseline : T'.baselineSamples.Perm T.baselineSamples

/-- The replicas, the rounds and the gates in another order, of a source that answers by the
round and the replica. -/
structure Rearranged (T' : Trial) (answer : Nat → String → Metrics) (ρ : Nat → Nat) : Prop where
  all : T'.canary.all.Perm T.canary.all
  scope : T'.scope.Perm T.scope
  gates : T'.gates.Perm T.gates
  rounds : ((List.range T'.rounds).map ρ).Perm (List.range T.rounds)
  source : ∀ n r, T.source n r = answer (n / T.width) r
  source' : ∀ n r, T'.source n r = answer (ρ (n / T'.width)) r

/-- `observe` returns, it promotes exactly when every gate is met, and its decision depends on no
order. -/
structure Decides : Prop where
  returns : ∃ decision findings t, T.observe E = .ok (decision, findings) t ∧
    T.Concluded decision findings t
  promotes : (∃ findings t, T.observe E = .ok (PASS, findings) t) ↔ T.AllMet
  unordered : ∀ T' : Trial, (T.Reordered T' ∨ ∃ answer ρ, T.Rearranged T' answer ρ) →
    ∀ decision findings t, T.observe E = .ok (decision, findings) t →
      ∃ findings' t', T'.observe E = .ok (decision, findings') t'

variable {T E}

def fleet : Store :=
  final (do
    Store.promote "g" (← Store.propose "g" (.ofList [("max_running_requests", .int 32)]) "t" "").id
    let _ ← Store.propose "g" (.ofList [("max_running_requests", .int 16)]) "t" "candidate")
    Store.empty

def within (metric : String) (bound : Json) : Gate := .ofList [("metric", .str metric), ("max_abs", bound)]

end Trial
end Trimtab.CanaryGates
