import Trimtab.Runs

set_option autoImplicit false

/-!
# Loops that remember what they put in force

Such a loop compares its target with the version it remembers, and does nothing when they
are the same. That is sound as long as the world still is as the remembered version wants
it; `stale` says that it may not be.
-/

structure MemoLoop (ω ν : Type) where
  world : ω
  memo : Option ν
  stale : Bool

namespace MemoLoop

variable {ω ν : Type} (InForce : ω → ν → Prop)

def Truthful (l : MemoLoop ω ν) : Prop :=
  l.stale = false → ∀ v, l.memo = some v → InForce l.world v

/-- A step puts a version in force and remembers it, or leaves the memory as it is and owns
up when what it remembers may be gone. -/
inductive Move (l : MemoLoop ω ν) : MemoLoop ω ν → Prop where
  | reaches (world : ω) (v : ν) (holds : InForce world v) : Move l ⟨world, some v, false⟩
  | keeps (world : ω) (stale : Bool)
      (holds : stale = false → l.stale = false ∧
        ∀ v, l.memo = some v → InForce l.world v → InForce world v) :
      Move l ⟨world, l.memo, stale⟩

variable {InForce}

theorem truthful_move {l l' : MemoLoop ω ν} (h : Move InForce l l') (hl : Truthful InForce l) :
    Truthful InForce l' := by
  cases h with
  | reaches world v holds =>
    intro _ w hw
    cases hw
    exact holds
  | keeps world stale holds =>
    intro hs v hv
    obtain ⟨hs, hkeep⟩ := holds hs
    exact hkeep v hv (hl hs v hv)

theorem truthful_fresh (world : ω) (stale : Bool) :
    Truthful InForce (⟨world, none, stale⟩ : MemoLoop ω ν) := fun _ _ h => by cases h

end MemoLoop
