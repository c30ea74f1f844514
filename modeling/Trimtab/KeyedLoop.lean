import Mathlib.Data.List.Basic
import Trimtab.Effects

set_option autoImplicit false

/-!
# Loops over keyed items

A loop handles one item after the other, each under a key of its own, and keeps a slot of its
state for each key.
-/
namespace KeyedLoop
open Effects

variable {ε σ κ ν β : Type}

/-- From the states that meet `I`, which it keeps, the round of an item raises when the item is
`bad`, and otherwise settles the slot of its key and no other. -/
structure Rounds (I : σ → Prop) (slot : σ → κ → β) (bad : κ → ν → β → Prop)
    (settled : κ → ν → β → β → Prop) (round : κ → ν → EStateM ε σ PUnit)
    (items : List (κ × ν)) : Prop where
  raises : ∀ p ∈ items, ∀ s, I s → bad p.1 p.2 (slot s p.1) →
    ∃ e t, (round p.1 p.2).run s = .error e t
  returns : ∀ p ∈ items, ∀ s, I s → ¬bad p.1 p.2 (slot s p.1) →
    ∃ t, (round p.1 p.2).run s = .ok () t ∧ I t ∧ settled p.1 p.2 (slot s p.1) (slot t p.1) ∧
      ∀ k, k ≠ p.1 → slot t k = slot s k

variable {I : σ → Prop} {slot : σ → κ → β} {bad : κ → ν → β → Prop}
  {settled : κ → ν → β → β → Prop} {round : κ → ν → EStateM ε σ PUnit} {items : List (κ × ν)}

theorem Rounds.tail {p : κ × ν} (h : Rounds I slot bad settled round (p :: items)) :
    Rounds I slot bad settled round items where
  raises q hq := h.raises q (List.mem_cons_of_mem p hq)
  returns q hq := h.returns q (List.mem_cons_of_mem p hq)

theorem forM_cons_run (p : κ × ν) (items : List (κ × ν)) (s : σ) :
    ((p :: items).forM fun p => round p.1 p.2).run s =
      (round p.1 p.2 >>= fun _ => items.forM fun p => round p.1 p.2).run s := rfl

/-- A loop without a bad item settles the slots of its keys, and no others. -/
theorem forM_returns (h : Rounds I slot bad settled round items)
    (hnodup : (items.map Prod.fst).Nodup) {s : σ} (hs : I s)
    (hgood : ∀ p ∈ items, ¬bad p.1 p.2 (slot s p.1)) :
    ∃ t, (items.forM fun p => round p.1 p.2).run s = .ok () t ∧ I t ∧
      (∀ p ∈ items, settled p.1 p.2 (slot s p.1) (slot t p.1)) ∧
      ∀ k, k ∉ items.map Prod.fst → slot t k = slot s k := by
  induction items generalizing s with
  | nil => exact ⟨s, rfl, hs, nofun, fun _ _ => rfl⟩
  | cons p items ih =>
    rw [List.map_cons, List.nodup_cons] at hnodup
    obtain ⟨t, hrun, ht, hsettled, hrest⟩ :=
      h.returns p List.mem_cons_self s hs (hgood p List.mem_cons_self)
    have hother : ∀ q ∈ items, slot t q.1 = slot s q.1 := fun q hq =>
      hrest q.1 fun hsame => hnodup.1 (List.mem_map.mpr ⟨q, hq, hsame⟩)
    obtain ⟨u, hrun', hu, hall, hleft⟩ := ih h.tail hnodup.2 ht fun q hq => by
      rw [hother q hq]
      exact hgood q (List.mem_cons_of_mem p hq)
    refine ⟨u, ?_, hu, fun q hq => ?_, fun k hk => ?_⟩
    · rw [forM_cons_run, EStateM.run_bind, hrun]
      exact hrun'
    · rcases List.mem_cons.mp hq with rfl | hq
      · rw [hleft q.1 hnodup.1]
        exact hsettled
      · rw [← hother q hq]
        exact hall q hq
    · rw [List.map_cons, List.mem_cons, not_or] at hk
      rw [hleft k hk.2, hrest k hk.1]

/-- A loop with a bad item raises. -/
theorem forM_raises (h : Rounds I slot bad settled round items)
    (hnodup : (items.map Prod.fst).Nodup) {s : σ} (hs : I s)
    (hbad : ∃ p ∈ items, bad p.1 p.2 (slot s p.1)) :
    ∃ e t, (items.forM fun p => round p.1 p.2).run s = .error e t := by
  induction items generalizing s with
  | nil =>
    obtain ⟨p, hp, -⟩ := hbad
    cases hp
  | cons p items ih =>
    rw [List.map_cons, List.nodup_cons] at hnodup
    rw [forM_cons_run, EStateM.run_bind]
    by_cases hfirst : bad p.1 p.2 (slot s p.1)
    · obtain ⟨e, t, hrun⟩ := h.raises p List.mem_cons_self s hs hfirst
      exact ⟨e, t, by rw [hrun]⟩
    · obtain ⟨t, hrun, ht, -, hrest⟩ := h.returns p List.mem_cons_self s hs hfirst
      obtain ⟨q, hq, hqbad⟩ := hbad
      have hmem : q ∈ items := (List.mem_cons.mp hq).resolve_left fun he => hfirst (he ▸ hqbad)
      have hsame : slot t q.1 = slot s q.1 :=
        hrest q.1 fun hkey => hnodup.1 (List.mem_map.mpr ⟨q, hmem, hkey⟩)
      rw [hrun]
      exact ih h.tail hnodup.2 ht ⟨q, hmem, hsame ▸ hqbad⟩

end KeyedLoop
