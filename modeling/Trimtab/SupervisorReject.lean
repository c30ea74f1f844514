import Trimtab.SupervisorRefusal

set_option autoImplicit false

/-!
# Versions that the manifest rejects

The supervisor validates the hot fields of a version after it has reshaped the engine for the
cold ones.
-/
namespace Trimtab.SupervisorReject
open Effects Supervisor SupervisorRefusal

variable {σ ι : Type}

/-- The manifest rejects one of the fields, and not for being cold or warm. -/
def Rejected (m : Manifest) (d : ConfigVersion) : Prop :=
  ∃ k v text, d.fields.get? k = some v ∧ m.reject k v = some text ∧ m.coldOrWarm k = false

/-- The tick fails, and leaves the process with its cold configuration and its hot knobs, and the
supervisor's record of the former. -/
def Untouched (S : Supervisor σ ι) (s : Supervising σ) (meets : Meets σ) : Prop :=
  value? (S.tick meets) s = some FAILED ∧ (final (S.tick meets) s).proc = s.proc ∧
    (final (S.tick meets) s).coldApplied = s.coldApplied

/-- The hot part of a tick towards a rejected version does nothing. -/
theorem hotApplied_rejected {S : Supervisor σ ι} {s u : Supervising σ} {p : Process σ}
    {d : ConfigVersion} {result : String} (hd : Rejected S.manifest d)
    (h : HotApplied S s p d result u) :
    result = FAILED ∧ u.proc = s.proc ∧ u.coldApplied = s.coldApplied := by
  have hdirty : (S.manifest.validate (S.split d.fields).1).2.entries.isEmpty = false := by
    obtain ⟨k, v, text, hv, hreject, hcw⟩ := hd
    have hrejected := (rejected_get? S.manifest (S.split d.fields).1 k text).mpr
      ⟨v, S.split_hot.mpr ⟨hv, hcw⟩, hreject⟩
    rw [Bool.eq_false_iff, ne_eq, List.isEmpty_iff]
    intro hnil
    rw [Dict.get?_eq_some_iff, hnil] at hrejected
    cases hrejected
  cases h with
  | rejected store reports unsent short => exact ⟨rfl, rfl, rfl⟩
  | refused store reports changes sent short => simp [request, hdirty] at sent
  | done store reports engine' taken sent holds => simp [takesHot, hdirty] at taken

theorem untouched_of_settled {S : Supervisor σ ι} {s : Supervising σ} {d : ConfigVersion}
    (htarget : S.target s.store = some d) (hd : Rejected S.manifest d) (hnew : ¬Exits s d)
    (hsettled : needsReshape s (S.split d.fields).2 = false) (meets : Meets σ) :
    Untouched S s meets := by
  have ht := S.tick_ticked s meets
  unfold Untouched
  generalize value? (S.tick meets) s = result at ht ⊢
  generalize final (S.tick meets) s = t at ht ⊢
  cases ht with
  | unread target => rw [target] at htarget; cases htarget
  | noop store reports up exit => exact absurd (exit d htarget) hnew
  | revived store reports target dead pid engine => rw [target] at htarget; cases htarget
  | stuck target dead proc down => rw [target] at htarget; cases htarget
  | raised d' target new t reshaped =>
    rw [htarget] at target
    cases target
    cases (S.reshaped_settled reshaped hsettled).1
  | converged d' target new u reshaped p served result t applied =>
    rw [htarget] at target
    cases target
    obtain ⟨-, rfl⟩ := S.reshaped_settled reshaped hsettled
    obtain ⟨rfl, hproc⟩ := hotApplied_rejected hd applied
    exact ⟨rfl, hproc⟩

/-- A cold part that has something to do does it, or raises. -/
theorem cold_of_reshaped {S : Supervisor σ ι} {s t : Supervising σ} {cold : Fields}
    {meets : Meets σ} (h : Reshaped S s cold meets (some ()) t)
    (hneeds : needsReshape s cold = true) : t.coldApplied = some cold := by
  cases h with
  | same asis => rw [hneeds] at asis; cases asis
  | warmed store reports p served needs able accepted => rfl
  | relaunched store reports pid engine seconds needs booted cool => rfl

theorem settled_of_untouched {S : Supervisor σ ι} {s : Supervising σ} {meets : Meets σ}
    {d : ConfigVersion} (halive : s.alive = true) (htarget : S.target s.store = some d)
    (hd : Rejected S.manifest d) (h : Untouched S s meets) :
    ¬Exits s d ∧ needsReshape s (S.split d.fields).2 = false := by
  obtain ⟨hfailed, -, hcold⟩ := h
  have ht := S.tick_ticked s meets
  generalize final (S.tick meets) s = t at ht hcold
  have hHF : FAILED ≠ HEALTHY := by decide
  generalize value? (S.tick meets) s = verdict at ht hfailed
  cases ht with
  | unread target => cases hfailed
  | noop store reports up exit => exact absurd (Option.some.inj hfailed).symm hHF
  | revived store reports target dead pid engine => rw [target] at htarget; cases htarget
  | stuck target dead proc down => cases hfailed
  | raised d' target new t reshaped => cases hfailed
  | converged d' target new u reshaped p served result t applied =>
    rw [htarget] at target
    cases target
    refine ⟨new, Bool.eq_false_iff.mpr fun hneeds => ?_⟩
    -- the record of the cold fields has become that of the rejected version
    rw [(hotApplied_rejected hd applied).2.2, cold_of_reshaped reshaped hneeds] at hcold
    rw [needsReshape, halive, Supervising.cold, ← hcold, Option.getD_some, same_refl] at hneeds
    cases hneeds

/-- A rejected version leaves a live engine untouched exactly when it is not the one applied last
and asks for no cold change. -/
theorem rejected_untouched_iff (S : Supervisor σ ι) (s : Supervising σ) (meets : Meets σ)
    (d : ConfigVersion) (halive : s.alive = true) (htarget : S.target s.store = some d)
    (hd : Rejected S.manifest d) :
    Untouched S s meets ↔
      some d.id ≠ s.appliedVersionId ∧ (S.split d.fields).2.eqv Json.same s.cold = true := by
  have hsettled : ¬Exits s d ∧ needsReshape s (S.split d.fields).2 = false ↔
      some d.id ≠ s.appliedVersionId ∧ (S.split d.fields).2.eqv Json.same s.cold = true := by
    simp only [Exits, needsReshape, halive, and_true, Bool.not_true, Bool.false_or,
      Bool.not_eq_false', ne_eq]
  rw [← hsettled]
  exact ⟨settled_of_untouched halive htarget hd,
    fun h => untouched_of_settled htarget hd h.1 h.2 meets⟩

def plain (fields : List (String × Json)) : Supervising VllmScheduler.Sched :=
  { store := promoted fields, proc := some (.serving ⟨1, ∅, bootEngine⟩), coldApplied := some ∅ }

theorem rejected_eight : Rejected vllmManifest (firstVersion [("max_num_seqs", .str "eight")]) :=
  ⟨"max_num_seqs", .str "eight", "must be an integer", by decide +kernel, by decide +kernel,
    by decide +kernel⟩

/-- A typo alone does not restart the engine. -/
theorem typo_untouched :
    Untouched vllmSupervisor (plain [("max_num_seqs", .str "eight")]) busy ↔
      some 1 ≠ (none : Option Int) ∧ (vllmSupervisor.split
        (Dict.ofList [("max_num_seqs", .str "eight")])).2.eqv Json.same ∅ = true :=
  rejected_untouched_iff vllmSupervisor (plain [("max_num_seqs", .str "eight")]) busy
    (firstVersion [("max_num_seqs", .str "eight")]) rfl (by decide +kernel) rejected_eight

/-- A typo beside a new context length costs a relaunch. -/
theorem typo_relaunches :
    ¬∀ (s : Supervising VllmScheduler.Sched) (meets : Meets VllmScheduler.Sched)
      (d : ConfigVersion), s.alive = true → vllmSupervisor.target s.store = some d →
        Rejected vllmManifest d → Untouched vllmSupervisor s meets := by
  intro h
  have huntouched := h
    (plain [("max_model_len", .int 4096), ("max_num_seqs", .str "eight")]) busy
    (firstVersion [("max_model_len", .int 4096), ("max_num_seqs", .str "eight")]) rfl
    (by decide +kernel)
    ⟨"max_num_seqs", .str "eight", "must be an integer", by decide +kernel, by decide +kernel,
      by decide +kernel⟩
  have hpid : (final (vllmSupervisor.tick busy)
      (plain [("max_model_len", .int 4096), ("max_num_seqs", .str "eight")])).serving?.map (·.pid) =
      some 2 := by decide +kernel
  rw [Supervising.serving?, huntouched.2.1] at hpid
  exact absurd hpid (by decide +kernel)

end Trimtab.SupervisorReject
