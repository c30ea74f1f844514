import Trimtab.SupervisorTruth

set_option autoImplicit false

/-!
# The record of the cold fields

`cold_applied` is set to the whole of the desired cold fields, although a warm reinit is sent
the changed ones only.
-/
namespace Trimtab.SupervisorRecord
open Effects Runs Supervisor SupervisorRefusal SupervisorTruth

variable {σ ι : Type}

/-- In every state of the run a live engine runs with the fields that `cold_applied` has. -/
def AlwaysRecorded (S : Supervisor σ ι) (s : Supervising σ) (es : List (Event σ ι)) : Prop :=
  ∀ before after, es = before ++ after → Recorded (run (step S) s before)

theorem recorded_started {s : Supervising σ} (hs : Started s) : Recorded s :=
  recorded_of_down (hs.1 ▸ down_none)

theorem fieldOf_engineName {k : String} (h : k ≠ "max_total_tokens") :
    fieldOf (engineName k) = some k := by
  unfold engineName fieldOf
  by_cases hk : k = "max_total_num_tokens"
  · rw [if_pos hk, if_pos rfl, hk]
  · rw [if_neg hk, if_neg h, if_neg hk]

/-- A reinit does not send a field that is null and new, so the engine runs without it. -/
theorem not_configured_of_newNull {s : Supervising σ} {config cold : Fields}
    (hplain : cold.get? "max_total_tokens" = none) (hkeys : s.cold.keys.all cold.contains = true)
    (hnull : newNull s cold = true) (hc : ConfiguredAs config s.cold) :
    ¬ConfiguredAs (config.update (engineNames (changed s cold))) cold := by
  intro hafter
  obtain ⟨⟨k, v⟩, hmem, hv⟩ := List.any_eq_true.mp hnull
  simp only [Bool.and_eq_true, decide_eq_true_eq, Bool.not_eq_true'] at hv
  obtain ⟨rfl, hnew⟩ := hv
  have hget := Dict.get?_eq_some_iff.mpr hmem
  have hold : s.cold.get? k = none := by
    rwa [Dict.contains, Option.isSome_eq_false_iff, Option.isNone_iff_eq_none] at hnew
  have hne : k ≠ "max_total_tokens" := by
    rintro rfl
    rw [hplain] at hget
    cases hget
  have hunsent : (changed s cold).get? k = none := by
    rw [changed, Dict.get?_filter, hget, hold]
    rfl
  have hplain' : (changed s cold).get? "max_total_tokens" = none := by
    rw [changed, Dict.get?_filter, hplain]
    rfl
  have hplain'' : s.cold.get? "max_total_tokens" = none := by
    rw [Dict.get?_eq_none_iff]
    intro hin
    have hcontains := List.all_eq_true.mp hkeys _ hin
    rw [Dict.contains, hplain] at hcontains
    cases hcontains
  have hname := hafter (engineName k)
  have hbase := hc (engineName k)
  rw [engineNames_get? hplain'', fieldOf_engineName hne, Option.bind_some, hold] at hbase
  rw [Dict.get?_update, engineNames_get? hplain', engineNames_get? hplain, fieldOf_engineName hne,
    Option.bind_some, Option.bind_some, hunsent, hget, Option.none_or, hbase] at hname
  cases hname

/-- The hot part of a tick changes nothing of the cold configuration. -/
theorem config_hotApplied {S : Supervisor σ ι} {s t : Supervising σ} {p : Process σ}
    {d : ConfigVersion} {result : String} (hp : s.proc = some (.serving p))
    (h : HotApplied S s p d result t) : t.coldApplied = s.coldApplied ∧
      ∃ q, t.proc = some (.serving q) ∧ q.pid = p.pid ∧ q.config = p.config := by
  cases h with
  | rejected store reports unsent short => exact ⟨rfl, p, hp, rfl, rfl⟩
  | refused store reports changes sent short => exact ⟨rfl, _, rfl, rfl, rfl⟩
  | done store reports engine' taken sent holds => exact ⟨rfl, _, rfl, rfl, rfl⟩

/-- A tick after which the record still matches has accepted no reinit with such a field. -/
theorem noNewNull_of_recorded {S : Supervisor σ ι}
    (hm : S.manifest.coldOrWarm "max_total_tokens" = false) (s : Supervising σ) (e : Event σ ι)
    (hs : Recorded s) (h : Recorded (step S s e)) : NoNewNull S s e := by
  cases e with
  | plane op => trivial
  | own i => trivial
  | crash => trivial
  | tick meets =>
    intro d htarget hnew hneeds hable hok
    have ht := S.tick_ticked s meets
    change Recorded (final (S.tick meets) s) at h
    generalize final (S.tick meets) s = t at ht h
    generalize value? (S.tick meets) s = result at ht
    cases ht with
    | unread target => rw [target] at htarget; cases htarget
    | noop store reports up exit => exact absurd (exit d htarget) hnew
    | revived store reports target dead pid engine => rw [target] at htarget; cases htarget
    | stuck target dead proc down => rw [target] at htarget; cases htarget
    | raised d' target new t reshaped =>
      rw [htarget] at target
      cases target
      cases reshaped with
      | raised store reports proc down needs failed cool => rw [cool hable] at hok; cases hok
    | converged d' target new u reshaped p served result t applied =>
      rw [htarget] at target
      cases target
      cases reshaped with
      | same asis => rw [hneeds] at asis; cases asis
      | relaunched store reports pid engine seconds needs booted cool =>
        rw [cool hable] at hok
        cases hok
      | warmed store reports q up needs able accepted =>
        obtain ⟨hcold, q', hq', -, hconfig⟩ := config_hotApplied served applied
        have hc := h q' hq'
        rw [hconfig, Supervising.cold, hcold, Option.getD_some] at hc
        cases served
        have hkeys : s.cold.keys.all (S.split d.fields).2.contains = true := by
          simp only [warmable, Bool.and_eq_true] at able
          exact able.1.2
        cases hnull : newNull s (S.split d.fields).2 with
        | false => rfl
        | true =>
          exact absurd hc
            (not_configured_of_newNull (cold_plain hm d.fields) hkeys hnull (hs q up))

/-- Along every run whose accepted reinits go with fields of distinct names, none of them null
and new, the record matches the process. Where the manifest leaves the engine's own name of the
token pool alone, these are all such runs. -/
theorem record_matches (S : Supervisor σ ι) (s : Supervising σ) (hs : Started s)
    (es : List (Event σ ι)) :
    (Along (step S) (Overlaid S) s es → AlwaysRecorded S s es) ∧
      (S.manifest.coldOrWarm "max_total_tokens" = false →
        (AlwaysRecorded S s es ↔ Along (step S) (Overlaid S) s es)) := by
  constructor
  · rintro h before after rfl
    exact run_invariant_along recorded_overlaid (along_append.mp h).1 (recorded_started hs)
  · intro hm
    have hiff : AlwaysRecorded S s es ↔ Along (step S) (NoNewNull S) s es :=
      always_iff_along (fun _ h => h) (recorded_step hm)
        (fun s e hi h => noNewNull_of_recorded hm s e hi h) (recorded_started hs)
    exact hiff.trans (along_congr fun s e => (overlaid_iff hm s e).symm)

instance (S : Supervisor σ ι) (s : Supervising σ) : (e : Event σ ι) → Decidable (Overlaid S s e)
  | .tick meets => decidable_of_iff
      (∀ d ∈ S.target s.store, ¬Exits s d → needsReshape s (S.split d.fields).2 = true →
        S.warmable s (S.split d.fields).2 = true → meets.warm.ok = true →
        ambiguous (S.split d.fields).2 = false ∧ newNull s (S.split d.fields).2 = false) Iff.rfl
  | .plane _ => isTrue trivial
  | .own _ => isTrue trivial
  | .crash => isTrue trivial

def reshaping : List VllmEvent :=
  [propose [("max_model_len", .int 4096)], promote 1, .tick willing,
    propose [("max_model_len", .int 4096), ("gpu_memory_utilization", .float (.fin (4 / 5)))],
    promote 2, .tick willing, .crash, rollback 1, .tick willing]

theorem reshaping_recorded : AlwaysRecorded vllmSupervisor unstarted reshaping :=
  (record_matches vllmSupervisor unstarted ⟨rfl, rfl, rfl⟩ reshaping).1 (by decide +kernel)

/-- The reinit of the second version leaves its null context length out. -/
def nullAdded : List VllmEvent :=
  [propose [("max_num_seqs", .int 16)], promote 1, .tick willing,
    propose [("gpu_memory_utilization", .float (.fin (4 / 5))), ("max_model_len", .null)],
    promote 2, .tick willing]

theorem null_unrecorded :
    ¬∀ (s : Supervising VllmScheduler.Sched) (es : List VllmEvent), Started s →
      AlwaysRecorded vllmSupervisor s es := by
  intro h
  have hlast := h unstarted nullAdded ⟨rfl, rfl, rfl⟩ nullAdded [] (List.append_nil _).symm
  have halive : (run (step vllmSupervisor) unstarted nullAdded).alive = true := by decide +kernel
  obtain ⟨p, hp⟩ := serving_of_alive halive
  have hproc : (run (step vllmSupervisor) unstarted nullAdded).serving?.map
      (·.config.get? "max_model_len") = some none := by decide +kernel
  rw [Supervising.serving?, hp] at hproc
  have hconfig : p.config.get? "max_model_len" = none := Option.some.inj hproc
  have hrecord := hlast p hp "max_model_len"
  rw [hconfig] at hrecord
  exact absurd hrecord (by decide +kernel)

end Trimtab.SupervisorRecord
