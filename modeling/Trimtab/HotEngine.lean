import Trimtab.Manifest
import Trimtab.Effects

set_option autoImplicit false

/-!
# Engines behind an adapter

What `set_hot` may be relied on for: it answers every request the manifest admits, puts the
keys it accepts in force, in its own spelling, and leaves every other knob alone.
-/
namespace Trimtab
open Effects

structure ApplyResult where
  ok : Bool
  applied : Dict String Json := ∅
  rejected : Dict String String := ∅

structure HotEngine (m : Manifest) (σ ι : Type) where
  /-- The hot knobs as the engine reads them back. -/
  live : σ → String → Option Json
  /-- Whether the engine takes a key of a request to it. -/
  accepts : σ → Fields → String → Json → Bool
  stored : String → Json → Json
  setHot : Fields → EStateM PyErr σ ApplyResult
  /-- The engine's own steps, while it serves. -/
  own : ι → σ → σ
  answers : ∀ changes s, m.Admits changes →
    ∃ r, (setHot changes).run s = .ok r (final (setHot changes) s) ∧
      (r.ok = true → ∀ k v, changes.get? k = some v → accepts s changes k v = true)
  live_after : ∀ changes s, m.Admits changes → ∀ k,
    live (final (setHot changes) s) k = match changes.get? k with
      | some v => if accepts s changes k v then some (stored k v) else live s k
      | none => live s k
  live_own : ∀ i s, live (own i s) = live s

namespace HotEngine

variable {m : Manifest} {σ ι : Type} (E : HotEngine m σ ι)

/-- The fields that a hot change alone can put in force have their values. -/
def InForce (s : σ) (fields : Fields) : Prop :=
  ∀ k v, fields.get? k = some v → m.coldOrWarm k = false → E.live s k = some (E.stored k v)

/-- The engine would accept from `changes` another value for one of the `fields`. -/
def overwrites (s : σ) (changes fields : Fields) : Bool :=
  fields.entries.any fun p => !m.coldOrWarm p.1 && (changes.get? p.1).any fun v =>
    E.accepts s changes p.1 v && E.stored p.1 v ≠ E.stored p.1 p.2

theorem inForce_of_not_overwrites {s : σ} {changes fields : Fields} (ha : m.Admits changes)
    (hn : E.overwrites s changes fields = false) (h : E.InForce s fields) :
    E.InForce (final (E.setHot changes) s) fields := by
  intro k v hv hcw
  rw [E.live_after changes s ha]
  cases hc : changes.get? k with
  | none => exact h k v hv hcw
  | some w =>
    dsimp only
    split_ifs with hacc
    · have hk := List.any_eq_false.mp hn (k, v) (Dict.get?_eq_some_iff.mp hv)
      simp only [hcw, hc, hacc, Option.any_some, Bool.not_false, Bool.true_and, decide_eq_true_eq,
        not_not] at hk
      rw [hk]
    · exact h k v hv hcw

/-- The engine would accept from `changes` no new value for a knob that `fields` does not name. -/
def spares (s : σ) (changes fields : Fields) : Bool :=
  changes.entries.all fun p => fields.contains p.1 || !E.accepts s changes p.1 p.2 ||
    E.live s p.1 = some (E.stored p.1 p.2)

/-- The two engines agree on the knobs that `fields` cannot set. -/
def AgreeOff (fields : Fields) (s t : σ) : Prop :=
  ∀ k, fields.get? k = none ∨ m.coldOrWarm k = true → E.live t k = E.live s k

theorem agreeOff_of_spares {s : σ} {changes fields : Fields} (ha : m.Admits changes)
    (hs : E.spares s changes fields = true) : E.AgreeOff fields s (final (E.setHot changes) s) := by
  intro k hk
  rw [E.live_after changes s ha]
  cases hc : changes.get? k with
  | none => rfl
  | some v =>
    dsimp only
    split_ifs with hacc
    · rcases hk with hk | hcw
      · have hp := List.all_eq_true.mp hs (k, v) (Dict.get?_eq_some_iff.mp hc)
        simp only [Dict.contains, hk, hacc, Option.isSome_none, Bool.not_true, Bool.or_false,
          Bool.false_or, decide_eq_true_eq] at hp
        exact hp.symm
      · have hr := ha k v hc
        rcases reject_of_coldOrWarm hcw v with h | h <;> rw [h] at hr <;> cases hr
    · rfl

/-- A request accepted as a whole puts its fields in force. -/
theorem live_of_ok {s : σ} {changes : Fields} (ha : m.Admits changes) {r : ApplyResult}
    (hr : (E.setHot changes).run s = .ok r (final (E.setHot changes) s)) (hok : r.ok = true)
    {k : String} {v : Json} (hk : changes.get? k = some v) :
    E.live (final (E.setHot changes) s) k = some (E.stored k v) := by
  obtain ⟨r', hr', hall⟩ := E.answers changes s ha
  rw [hr] at hr'
  cases hr'
  rw [E.live_after changes s ha, hk]
  simp only [hall hok k v hk, if_true]

end HotEngine
end Trimtab
