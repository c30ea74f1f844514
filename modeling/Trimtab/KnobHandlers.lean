import Trimtab.SglangExact
import Trimtab.VllmExact

set_option autoImplicit false

/-! The two handlers of hot knobs side by side. -/
namespace Trimtab.KnobHandlers
open Effects

/-- Both handlers return, are exact for each key and do not heed the order of the keys, exactly
on the requests without an infinity or `NaN` where `int` is called and without a conservativeness
that `float` refuses or that is `NaN`. -/
theorem handlers_total_iff (R : SglangScheduler.Stock) (request : Fields)
    (hnone : ∀ p ∈ request.entries, SglangScheduler.isReinit p.1 = false)
    (s : VllmScheduler.Sched) (t : SglangScheduler.Sched) :
    (VllmExact.Total request s ↔ VllmExact.AllFinite request) ∧
      (SglangExact.Total R request t ↔ SglangExact.AllSound request) :=
  ⟨VllmExact.total_iff request s, SglangExact.total_iff hnone⟩

def bootEngine : VllmScheduler.Sched := ⟨0, 32, 2048, 0, none, none, none⟩

def mixed : Fields :=
  ⟨[("log_level", .str "debug"), ("max_num_seqs", .int 64), ("max_queued_requests", .null),
    ("schedule_conservativeness", .int 2), ("max_running_requests", .float (.fin (33 / 2)))],
    by decide⟩

theorem mixed_total : VllmExact.Total mixed bootEngine ∧
    SglangExact.Total SglangScheduler.allowlisted mixed SglangScheduler.booted := by
  obtain ⟨hvllm, hsglang⟩ := handlers_total_iff SglangScheduler.allowlisted mixed (by decide)
    bootEngine SglangScheduler.booted
  refine ⟨hvllm.mpr fun k hk x hx => ?_, hsglang.mpr fun k hk v hv => ?_⟩
  · have hmem := Dict.get?_eq_some_iff.mp hx
    simp only [mixed, List.mem_cons, Prod.mk.injEq, List.not_mem_nil, or_false, reduceCtorEq,
      and_false, false_or] at hmem
    rw [hmem.1] at hk
    exact absurd hk (by decide)
  · have hmem := Dict.get?_eq_some_iff.mp hv
    simp only [mixed, List.mem_cons, Prod.mk.injEq, List.not_mem_nil, or_false] at hmem
    rcases hmem with ⟨rfl, rfl⟩ | ⟨rfl, rfl⟩ | ⟨rfl, rfl⟩ | ⟨rfl, rfl⟩ | ⟨rfl, rfl⟩
    · exact ⟨fun hint => absurd hint (by decide), fun hname => absurd hname (by decide)⟩
    · exact absurd hk (by decide)
    · exact ⟨fun _ => nofun, fun hname => absurd hname (by decide)⟩
    · refine ⟨fun hint => absurd hint (by decide), fun _ => ⟨nofun, fun n hn _ => ?_⟩⟩
      cases hn
      exact ⟨.fin 2, by decide +kernel⟩
    · refine ⟨fun _ x hx => ?_, fun hname => absurd hname (by decide)⟩
      cases hx
      exact ⟨_, rfl⟩

def overflowing : Fields :=
  ⟨[("long_prefill_token_threshold", .int 512), ("max_num_seqs", .float (.inf false))], by decide⟩

/-- The call raises and leaves the threshold written. -/
theorem overflowing_half_applied :
    (VllmScheduler.handled overflowing bootEngine).sched.longPrefillTokenThreshold = 512 ∧
      ¬((∀ (request : Fields) (s : VllmScheduler.Sched), VllmExact.Total request s) ∧
        ∀ (R : SglangScheduler.Stock) (request : Fields) (s : SglangScheduler.Sched),
          (∀ p ∈ request.entries, SglangScheduler.isReinit p.1 = false) →
            SglangExact.Total R request s) := by
  refine ⟨by decide +kernel, fun hall => ?_⟩
  obtain ⟨reply, h, hrun, -⟩ := hall.1 overflowing bootEngine
  have hvalue : value? (VllmScheduler.trimtabSetKnobs overflowing)
    (VllmScheduler.begin bootEngine) = none := by decide +kernel
  rw [value?, hrun] at hvalue
  cases hvalue

end Trimtab.KnobHandlers
