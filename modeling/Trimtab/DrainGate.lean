import Trimtab.Runs
import Mathlib.Order.Lattice
import Mathlib.Algebra.Order.Group.Int

set_option autoImplicit false

/-!
# A gate whose cap is lowered by draining

Visitors enter one at a time through an open gate, up to its cap, and leave at any time.
A new target is set while the gate is shut. No one is thrown out: the cap follows the
occupancy down, each time the gate opens, until it has reached the target.
-/

structure DrainGate where
  occupancy : Nat
  cap : Int
  target : Int
  isOpen : Bool

namespace DrainGate

inductive Event where
  | retarget (t : Int)
  | opens
  | enter
  | leave
  | shut

def retarget (g : DrainGate) (t : Int) : DrainGate :=
  if g.isOpen then g else { g with cap := max t g.occupancy, target := t }

def opens (g : DrainGate) : DrainGate :=
  if g.isOpen then g else { g with cap := max g.target g.occupancy, isOpen := true }

def enter (g : DrainGate) : DrainGate :=
  if g.isOpen ∧ (g.occupancy : Int) < g.cap then { g with occupancy := g.occupancy + 1 } else g

def leave (g : DrainGate) : DrainGate := { g with occupancy := g.occupancy - 1 }

def shut (g : DrainGate) : DrainGate := { g with isOpen := false }

def step (g : DrainGate) : Event → DrainGate
  | .retarget t => g.retarget t
  | .opens => g.opens
  | .enter => g.enter
  | .leave => g.leave
  | .shut => g.shut

theorem leave_occupancy_le (g : DrainGate) : (g.leave.occupancy : Int) ≤ g.occupancy := by
  change ((g.occupancy - 1 : Nat) : Int) ≤ g.occupancy
  omega

structure Safe (g : DrainGate) : Prop where
  occupancy_le : (g.occupancy : Int) ≤ g.cap
  target_le : g.target ≤ g.cap

theorem safe_step {g : DrainGate} (h : Safe g) (e : Event) : Safe (step g e) := by
  have ho := h.occupancy_le
  have ht := h.target_le
  cases e with
  | retarget t =>
    change Safe (g.retarget t)
    unfold retarget
    split_ifs
    · exact h
    · exact ⟨le_max_right _ _, le_max_left _ _⟩
  | opens =>
    change Safe g.opens
    unfold opens
    split_ifs
    · exact h
    · exact ⟨le_max_right _ _, le_max_left _ _⟩
  | enter =>
    change Safe g.enter
    unfold enter
    split_ifs with hc
    · exact ⟨by push_cast; omega, ht⟩
    · exact h
  | leave => exact ⟨(leave_occupancy_le g).trans ho, ht⟩
  | shut => exact ⟨ho, ht⟩

theorem cap_step_le {bound : Int} {g : DrainGate} (h : Safe g) (hcap : g.cap ≤ bound) {e : Event}
    (hb : ∀ t, e = .retarget t → t ≤ bound) : (step g e).cap ≤ bound := by
  have ho := h.occupancy_le
  have ht := h.target_le
  cases e with
  | retarget t =>
    have hbt := hb t rfl
    change (g.retarget t).cap ≤ bound
    unfold retarget
    split_ifs
    · exact hcap
    · exact max_le hbt (ho.trans hcap)
  | opens =>
    change g.opens.cap ≤ bound
    unfold opens
    split_ifs
    · exact hcap
    · exact max_le (ht.trans hcap) (ho.trans hcap)
  | enter =>
    change g.enter.cap ≤ bound
    unfold enter
    split_ifs <;> exact hcap
  | leave => exact hcap
  | shut => exact hcap

/-! ## Between two targets -/

structure Bounded (bound : Int) (g : DrainGate) : Prop where
  occupancy_le : (g.occupancy : Int) ≤ bound
  target_le : g.target ≤ bound
  cap_le : g.isOpen = true → g.cap ≤ bound

theorem bounded_of_shut {g : DrainGate} (h : g.isOpen = false) :
    Bounded (max g.target g.occupancy) g :=
  ⟨le_max_right _ _, le_max_left _ _, fun ho => by rw [h] at ho; cases ho⟩

theorem bounded_step {bound : Int} {g : DrainGate} {e : Event} (h : Bounded bound g)
    (he : ∀ t, e ≠ .retarget t) : Bounded bound (step g e) := by
  have ho := h.occupancy_le
  have ht := h.target_le
  cases e with
  | retarget t => exact absurd rfl (he t)
  | opens =>
    change Bounded bound g.opens
    unfold opens
    split_ifs
    · exact h
    · exact ⟨ho, ht, fun _ => max_le ht ho⟩
  | enter =>
    change Bounded bound g.enter
    unfold enter
    split_ifs with hc
    · have hcap := h.cap_le hc.1
      exact ⟨by push_cast; omega, ht, h.cap_le⟩
    · exact h
  | leave => exact ⟨(leave_occupancy_le g).trans ho, ht, h.cap_le⟩
  | shut => exact ⟨ho, ht, fun h => by cases h⟩

/-- The target is reached: it is the cap, and the gate keeps to it. -/
structure Held (t : Int) (g : DrainGate) : Prop where
  target_eq : g.target = t
  cap_eq : g.cap = t
  occupancy_le : (g.occupancy : Int) ≤ t

theorem held_of_opens {g : DrainGate} (hs : g.isOpen = false)
    (ho : (g.occupancy : Int) ≤ g.target) : Held g.target g.opens := by
  unfold opens
  rw [hs]
  exact ⟨rfl, max_eq_left ho, ho⟩

theorem held_step {t : Int} {g : DrainGate} {e : Event} (h : Held t g)
    (he : ∀ t, e ≠ .retarget t) : Held t (step g e) := by
  have ht := h.target_eq
  have hc := h.cap_eq
  have ho := h.occupancy_le
  cases e with
  | retarget t => exact absurd rfl (he t)
  | opens =>
    change Held t g.opens
    unfold opens
    split_ifs
    · exact h
    · exact ⟨ht, by rw [ht]; exact max_eq_left ho, ho⟩
  | enter =>
    change Held t g.enter
    unfold enter
    split_ifs with hlt
    · exact ⟨ht, hc, by push_cast; omega⟩
    · exact h
  | leave => exact ⟨ht, hc, (leave_occupancy_le g).trans ho⟩
  | shut => exact ⟨ht, hc, ho⟩

theorem target_step {g : DrainGate} {e : Event} (he : ∀ t, e ≠ .retarget t) :
    (step g e).target = g.target := by
  cases e with
  | retarget t => exact absurd rfl (he t)
  | opens =>
    change g.opens.target = g.target
    unfold opens
    split_ifs <;> rfl
  | enter =>
    change g.enter.target = g.target
    unfold enter
    split_ifs <;> rfl
  | leave => rfl
  | shut => rfl

section Run

variable {g : DrainGate} {es : List Event} (h : ∀ e ∈ es, ∀ t, e ≠ .retarget t)

include h

theorem bounded_run {bound : Int} (hb : Bounded bound g) : Bounded bound (Runs.run step g es) :=
  Runs.run_invariant_along (fun _ _ hb he => bounded_step hb he) (Runs.along_of_mem h) hb

theorem held_run {t : Int} (ht : Held t g) : Held t (Runs.run step g es) :=
  Runs.run_invariant_along (fun _ _ ht he => held_step ht he) (Runs.along_of_mem h) ht

theorem target_run : (Runs.run step g es).target = g.target :=
  Runs.run_invariant_along (I := fun g' : DrainGate => g'.target = g.target)
    (fun _ _ ht he => (target_step he).trans ht) (Runs.along_of_mem h) rfl

end Run

end DrainGate
