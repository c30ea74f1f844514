import Mathlib.Algebra.Order.Field.Basic
import Mathlib.Tactic.Linarith
import Trimtab.Effects
import Trimtab.Metrics
import Trimtab.Runs

set_option autoImplicit false

/-!
# Scrapes of one replica

Each `sample` turns the difference to the scrape remembered from the last one into rates and
quantiles. The engine may restart in between, and then counts from zero again.
-/
namespace Trimtab.Prometheus
open Effects Runs

def SGLANG_MAP : Dict String String := .ofList [
  ("ttft_s", "sglang:time_to_first_token_seconds"),
  ("e2e_s", "sglang:e2e_request_latency_seconds"),
  ("gen_tokens", "sglang:generation_tokens_total"),
  ("running", "sglang:num_running_reqs"),
  ("queued", "sglang:num_queue_reqs")]

structure Histogram where
  buckets : Buckets
  count : Rat
  sum : Rat

/-- What `parse` gathers under one name: a value, buckets with their count and sum, or both. -/
structure Family where
  value : Option Rat
  histogram : Option Histogram

abbrev Scrape := Dict String Family

abbrev Sample := Dict String Le

def Sample.put (out : Sample) (key : String) : Option Le → Sample
  | none => out
  | some v => out.insert key v

theorem get?_put (out : Sample) (key j : String) (v : Option Le) :
    (out.put key v).get? j = if j = key then v.or (out.get? j) else out.get? j := by
  cases v with
  | none => simp [Sample.put]
  | some v => simp [Sample.put, Dict.get?_insert]

/-- `cur[k] - prev.get(k, 0.0)` for every bound of `cur` -/
def increments (prev cur : Buckets) : Buckets :=
  cur.filterMap fun le cum => some (cum - (prev.get? le).getD 0)

def family? (map : Dict String String) (key : String) (s : Scrape) : Option Family :=
  (map.get? key).bind s.get?

def Family.getValue (f : Family) : Except PyErr Rat :=
  match f.value with
  | some v => .ok v
  | none => .error (.keyError "value")

def Family.getHistogram (f : Family) : Except PyErr Histogram :=
  match f.histogram with
  | some h => .ok h
  | none => .error (.keyError "buckets")

def gauges (map : Dict String String) (cur : Scrape) : Sample :=
  ["running", "queued"].foldl (fun out k =>
    out.put k (((family? map k cur).bind Family.value).map WithTop.some)) ∅

def throughput (map : Dict String String) (cur p : Scrape) (dt : Rat) (out : Sample) :
    Except PyErr Sample := do
  match family? map "gen_tokens" cur, family? map "gen_tokens" p with
  | some c, some p =>
    let after ← c.getValue
    let before ← p.getValue
    let rate ← divide (after - before) dt
    return out.put "throughput" (some (rate : Le))
  | _, _ => return out

abbrev quantiles : List (Rat × String) := [(1 / 2, "p50"), (19 / 20, "p95"), (99 / 100, "p99")]

def quantileKey (nm label : String) : String := nm ++ "_" ++ label ++ "_ms"

def thousandfold (v : Le) : Le := v.map (· * 1000)

def latencies (map : Dict String String) (cur p : Scrape) (key label : String) (out : Sample) :
    Except PyErr Sample := do
  match family? map key cur, family? map key p with
  | some c, some p =>
    match c.histogram with
    | none => return out
    | some after =>
      let before ← p.getHistogram
      let delta := increments before.buckets after.buckets
      let out ← quantiles.foldlM (fun out q => do
        let v ← quantile q.1 delta
        return out.put (quantileKey q.2 label) (v.map thousandfold)) out
      let n := after.count - before.count
      return out.put (label ++ "_requests") (if 0 < n then some (n : Le) else none)
  | _, _ => return out

structure PrometheusMetrics where
  map : Dict String String
  prev : Dict String (Rat × Scrape)

def PrometheusMetrics.read (self : PrometheusMetrics) (replicaId : String) (now : Rat)
    (cur : Scrape) : Except PyErr Sample := do
  let out := gauges self.map cur
  match self.prev.get? replicaId with
  | none => return out
  | some (pt, p) =>
    let dt := if now - pt < 1 / 1000000 then 1 / 1000000 else now - pt
    let out ← throughput self.map cur p dt out
    let out ← latencies self.map cur p "ttft_s" "ttft" out
    latencies self.map cur p "e2e_s" "e2e" out

/-- `sample(replica_id)`, where the clock shows `now` and the engine's page parses to `cur`. -/
def PrometheusMetrics.sample (replicaId : String) (now : Rat) (cur : Scrape) :
    EStateM PyErr PrometheusMetrics Sample := do
  let self ← get
  let out ← ofExcept (self.read replicaId now cur)
  set { self with prev := self.prev.insert replicaId (now, cur) }
  return out

/-! ## What a sample reports -/

def counter? (map : Dict String String) (s : Scrape) : Option Rat :=
  (family? map "gen_tokens" s).bind Family.value

def histogram? (map : Dict String String) (key : String) (s : Scrape) : Option Histogram :=
  (family? map key s).bind Family.histogram

def series : List (String × String) := [("ttft_s", "ttft"), ("e2e_s", "e2e")]

structure Exposes (map : Dict String String) (s : Scrape) : Prop where
  counter : ∀ f, family? map "gen_tokens" s = some f → f.value.isSome
  histograms : ∀ k ∈ series, ∀ f, family? map k.1 s = some f → f.histogram.isSome

def rate? (map : Dict String String) (cur p : Scrape) (dt : Rat) : Option Le := do
  let after ← counter? map cur
  let before ← counter? map p
  return (((after - before) / dt : Rat) : Le)

def window? (map : Dict String String) (key : String) (cur p : Scrape) : Option Buckets := do
  let after ← histogram? map key cur
  let before ← histogram? map key p
  return increments before.buckets after.buckets

def estimate (q : Rat) (delta : Buckets) : Option Le := (quantile q delta).toOption.join

theorem quantile_eq (q : Rat) (delta : Buckets) : quantile q delta = .ok (estimate q delta) := by
  unfold estimate
  by_cases h : 0 < total delta
  · obtain ⟨v, hv⟩ := quantile_some q h
    rw [hv]
    rfl
  · rw [quantile_none (Rat.not_lt.mp h)]
    rfl

theorem estimate_isSome_iff {q : Rat} {delta : Buckets} :
    (estimate q delta).isSome ↔ 0 < total delta := by
  unfold estimate
  by_cases h : 0 < total delta
  · obtain ⟨v, hv⟩ := quantile_some q h
    simp [hv, h, Except.toOption]
  · simp [quantile_none (Rat.not_lt.mp h), h, Except.toOption]

def quantileOf (q : Rat) (window : Option Buckets) : Option Le :=
  window.bind fun delta => (estimate q delta).map thousandfold

theorem throughput_eq {map : Dict String String} {cur p : Scrape} {dt : Rat} (out : Sample)
    (hcur : Exposes map cur) (hp : Exposes map p) (hdt : 0 < dt) :
    throughput map cur p dt out = .ok (out.put "throughput" (rate? map cur p dt)) := by
  have hcount := hcur.counter
  have hbefore := hp.counter
  unfold throughput rate? counter?
  cases hc : family? map "gen_tokens" cur with
  | none => rfl
  | some c =>
    cases hpf : family? map "gen_tokens" p with
    | none => cases hv : c.value <;> simp [hv, Sample.put] <;> rfl
    | some f =>
      obtain ⟨after, hafter⟩ := Option.isSome_iff_exists.mp (hcount c hc)
      obtain ⟨before, hold⟩ := Option.isSome_iff_exists.mp (hbefore f hpf)
      simp only [Family.getValue, hafter, hold, divide, if_neg (ne_of_gt hdt), Option.bind_some]
      rfl

def withLatencies (out : Sample) (label : String) (window : Option Buckets)
    (requests : Option Le) : Sample :=
  (quantiles.foldl (fun out q => out.put (quantileKey q.2 label) (quantileOf q.1 window)) out).put
    (label ++ "_requests") requests

theorem latencies_eq {map : Dict String String} {cur p : Scrape} (key label : String)
    (out : Sample) (hk : (key, label) ∈ series) (hcur : Exposes map cur) (hp : Exposes map p) :
    ∃ requests, latencies map cur p key label out =
      .ok (withLatencies out label (window? map key cur p) requests) := by
  have hcount := hcur.histograms _ hk
  have hbefore := hp.histograms _ hk
  unfold latencies window? histogram?
  cases hc : family? map key cur with
  | none => exact ⟨none, rfl⟩
  | some c =>
    obtain ⟨after, hafter⟩ := Option.isSome_iff_exists.mp (hcount c hc)
    cases hpf : family? map key p with
    | none =>
      refine ⟨none, ?_⟩
      simp only [hafter, Option.bind_some]
      rfl
    | some f =>
      obtain ⟨before, hold⟩ := Option.isSome_iff_exists.mp (hbefore f hpf)
      let n := after.count - before.count
      refine ⟨if 0 < n then some (n : Le) else none, ?_⟩
      simp only [Family.getHistogram, hafter, hold, Option.bind_some, List.foldlM_cons,
        List.foldlM_nil, quantile_eq]
      rfl

structure Reports (map : Dict String String) (cur p : Scrape) (out : Sample) : Prop where
  throughput : ∃ dt, 0 < dt ∧ out.get? "throughput" = rate? map cur p dt
  quantiles : ∀ k ∈ series, ∀ q ∈ quantiles,
    out.get? (quantileKey q.2 k.2) = quantileOf q.1 (window? map k.1 cur p)

theorem gauges_get? (map : Dict String String) (cur : Scrape) {key : String}
    (h : key ≠ "running") (h' : key ≠ "queued") : (gauges map cur).get? key = none := by
  simp [gauges, get?_put, h, h']

theorem gauges_quantileKey (map : Dict String String) (cur : Scrape) :
    ∀ k ∈ series, ∀ q ∈ quantiles, (gauges map cur).get? (quantileKey q.2 k.2) = none := by
  simp [series, quantiles, quantileKey, gauges_get?]

/-- Without a remembered scrape there are only gauges. -/
theorem read_first {self : PrometheusMetrics} {replicaId : String} (now : Rat) (cur : Scrape)
    (h : self.prev.get? replicaId = none) :
    self.read replicaId now cur = .ok (gauges self.map cur) := by
  rw [PrometheusMetrics.read, h]
  rfl

theorem read_reports {self : PrometheusMetrics} {replicaId : String} {pt : Rat} {p : Scrape}
    (now : Rat) {cur : Scrape} (h : self.prev.get? replicaId = some (pt, p))
    (hcur : Exposes self.map cur) (hp : Exposes self.map p) :
    ∃ out, self.read replicaId now cur = .ok out ∧ Reports self.map cur p out := by
  obtain ⟨dt, hdt, heq⟩ : ∃ dt, 0 < dt ∧
      dt = if now - pt < 1 / 1000000 then 1 / 1000000 else now - pt := by
    refine ⟨_, ?_, rfl⟩
    split_ifs with hlt
    · decide +kernel
    · exact lt_of_lt_of_le (by decide +kernel) (not_lt.mp hlt)
  obtain ⟨n, hn⟩ := latencies_eq "ttft_s" "ttft"
    ((gauges self.map cur).put "throughput" (rate? self.map cur p dt)) (by decide) hcur hp
  obtain ⟨m, hm⟩ := latencies_eq "e2e_s" "e2e"
    (withLatencies _ "ttft" (window? self.map "ttft_s" cur p) n) (by decide) hcur hp
  refine ⟨withLatencies (withLatencies ((gauges self.map cur).put "throughput"
    (rate? self.map cur p dt)) "ttft" (window? self.map "ttft_s" cur p) n) "e2e"
    (window? self.map "e2e_s" cur p) m, ?_, ⟨dt, hdt, ?_⟩, ?_⟩
  · rw [PrometheusMetrics.read, h]
    simp only [← heq, throughput_eq _ hcur hp hdt]
    change (latencies self.map cur p "ttft_s" "ttft" _ >>= fun out =>
      latencies self.map cur p "e2e_s" "e2e" out) = _
    rw [hn]
    exact hm
  · simp [withLatencies, quantiles, quantileKey, get?_put, gauges_get?]
  · simp [series, withLatencies, quantiles, quantileKey, get?_put, gauges_get?]

/-! ## Restarts -/

theorem get?_increments (before after : Buckets) (le : Le) :
    (increments before after).get? le =
      (after.get? le).map fun cum => cum - (before.get? le).getD 0 := by
  rw [increments, Dict.get?_filterMap]
  cases after.get? le <;> rfl

theorem increments_eq_some {before after : Buckets} {le : Le} {d : Rat} :
    (increments before after).get? le = some d ↔
      ∃ cum, after.get? le = some cum ∧ cum - (before.get? le).getD 0 = d := by
  rw [get?_increments, Option.map_eq_some_iff]

theorem get?_increments_of {before after : Buckets} {le : Le} {cum : Rat}
    (h : after.get? le = some cum) :
    (increments before after).get? le = some (cum - (before.get? le).getD 0) :=
  increments_eq_some.mpr ⟨cum, h, rfl⟩

theorem keys_increments (before after : Buckets) (le : Le) :
    le ∈ (increments before after).keys ↔ le ∈ after.keys := by
  rw [← Dict.get?_isSome_iff, ← Dict.get?_isSome_iff, get?_increments, Option.isSome_map]

/-- In no interval between two bounds, and below no bound, are there fewer observations than
before. -/
def KeepsUp (before after : Buckets) : Prop :=
  ∀ le cum, after.get? le = some cum → (before.get? le).getD 0 ≤ cum ∧
    ∀ le' cum', after.get? le' = some cum' → le ≤ le' →
      (before.get? le').getD 0 - (before.get? le).getD 0 ≤ cum' - cum

def Overtakes (before after : Buckets) : Prop :=
  ∃ le cum, after.get? le = some cum ∧ (∀ le' ∈ after.keys, le' ≤ le) ∧
    (before.get? le).getD 0 < cum

theorem cumulative_increments_iff {before after : Buckets} :
    Cumulative (increments before after) ↔ KeepsUp before after := by
  constructor
  · intro h le cum hle
    have hd : (increments before after).get? le = _ := get?_increments_of hle
    refine ⟨sub_nonneg.mp (h.nonneg le _ hd), fun le' cum' hle' hlt => ?_⟩
    have hmono := h.monotone le le' _ _ hd (get?_increments_of hle') hlt
    linarith
  · intro h
    constructor
    · intro le d hd
      obtain ⟨cum, hle, rfl⟩ := increments_eq_some.mp hd
      exact sub_nonneg.mpr (h le cum hle).1
    · intro le le' d d' hd hd' hlt
      obtain ⟨cum, hle, rfl⟩ := increments_eq_some.mp hd
      obtain ⟨cum', hle', rfl⟩ := increments_eq_some.mp hd'
      have := (h le cum hle).2 le' cum' hle' hlt
      linarith

theorem total_increments_pos_iff {before after : Buckets} :
    0 < total (increments before after) ↔ Overtakes before after := by
  rw [total_pos_iff]
  constructor
  · rintro ⟨le, d, hd, hmax, hpos⟩
    obtain ⟨cum, hle, rfl⟩ := increments_eq_some.mp hd
    exact ⟨le, cum, hle, fun le' h => hmax le' ((keys_increments before after le').mpr h),
      sub_pos.mp hpos⟩
  · rintro ⟨le, cum, hle, hmax, hlt⟩
    exact ⟨le, _, get?_increments_of hle,
      fun le' h => hmax le' ((keys_increments before after le').mp h), sub_pos.mpr hlt⟩

/-- The engine, the sampler that scrapes it, and whether the engine has restarted since the
scrape that the sampler remembers. -/
structure Monitored where
  metrics : PrometheusMetrics
  engine : Scrape
  restarted : Bool

inductive Event where
  | grow (after : Scrape)
  | restart (after : Scrape)
  | sample (now : Rat)

def step (replicaId : String) (s : Monitored) : Event → Monitored
  | .grow after => { s with engine := after }
  | .restart after => { s with engine := after, restarted := true }
  | .sample now =>
    let call := PrometheusMetrics.sample replicaId now s.engine
    { s with
      metrics := final call s.metrics
      restarted := s.restarted && (value? call s.metrics).isNone }

/-- Every bucket fills on its own: the increments are those of a cumulative histogram. -/
structure Filled (before after : Buckets) : Prop where
  bounds : ∀ le, le ∈ before.keys ↔ le ∈ after.keys
  increments : Cumulative (increments before after)

structure Grows (map : Dict String String) (before after : Scrape) : Prop where
  counter : ∀ x, counter? map before = some x → ∃ y, counter? map after = some y ∧ x ≤ y
  histograms : ∀ k ∈ series, ∀ h, histogram? map k.1 before = some h →
    ∃ h', histogram? map k.1 after = some h' ∧ Filled h.buckets h'.buckets

structure Zero (map : Dict String String) (s : Scrape) : Prop where
  counter : ∀ x, counter? map s = some x → x = 0
  histograms : ∀ k ∈ series, ∀ h, histogram? map k.1 s = some h →
    ∀ le cum, h.buckets.get? le = some cum → cum = 0

def Lawful (s : Monitored) : Event → Prop
  | .grow after => Exposes s.metrics.map after ∧ Grows s.metrics.map s.engine after
  | .restart after => Exposes s.metrics.map after ∧ Zero s.metrics.map after
  | .sample _ => True

/-- The throughput of a sample is not negative, and each of its quantiles is one of a
cumulative histogram: the increments since the remembered scrape. -/
structure Usable (metrics : PrometheusMetrics) (replicaId : String) (engine : Scrape)
    (out : Sample) : Prop where
  throughput : ∀ x, out.get? "throughput" = some x → 0 ≤ x
  quantiles : ∀ k ∈ series, ∀ q ∈ quantiles, ∀ v, out.get? (quantileKey q.2 k.2) = some v →
    ∃ pt p delta, metrics.prev.get? replicaId = some (pt, p) ∧
      window? metrics.map k.1 engine p = some delta ∧
      v ∈ (estimate q.1 delta).map thousandfold ∧ Cumulative delta

def Sound (replicaId : String) (s : Monitored) : Event → Prop
  | .sample now => ∀ out, value? (PrometheusMetrics.sample replicaId now s.engine) s.metrics = some out →
    Usable s.metrics replicaId s.engine out
  | _ => True

/-- The token counter has reached the remembered one, and so has every bucket of a histogram
that has more observations in all than the remembered one. -/
structure CaughtUp (map : Dict String String) (p cur : Scrape) : Prop where
  counter : ∀ x y, counter? map p = some x → counter? map cur = some y → x ≤ y
  histograms : ∀ k ∈ series, ∀ h h', histogram? map k.1 p = some h →
    histogram? map k.1 cur = some h' → Overtakes h.buckets h'.buckets →
    KeepsUp h.buckets h'.buckets

/-- A restart since the remembered scrape does not show in the counts any more. -/
def Recovered (replicaId : String) (s : Monitored) : Event → Prop
  | .sample _ => s.restarted = true → ∀ pt p, s.metrics.prev.get? replicaId = some (pt, p) →
    CaughtUp s.metrics.map p s.engine
  | _ => True

/-! ## Growth -/

theorem Filled.refl (b : Buckets) : Filled b b := by
  refine ⟨fun _ => Iff.rfl, cumulative_increments_iff.mpr fun le cum h => ?_⟩
  rw [h, Option.getD_some]
  refine ⟨le_refl cum, fun le' cum' h' _ => ?_⟩
  rw [h', Option.getD_some]

theorem Filled.trans {a b c : Buckets} (hab : Filled a b) (hbc : Filled b c) : Filled a c := by
  refine ⟨fun le => (hab.bounds le).trans (hbc.bounds le),
    cumulative_increments_iff.mpr fun le cum h => ?_⟩
  have hkab := cumulative_increments_iff.mp hab.increments
  have hkbc := cumulative_increments_iff.mp hbc.increments
  have hmid : ∀ le cum, c.get? le = some cum → ∃ x, b.get? le = some x := fun le cum h =>
    Option.isSome_iff_exists.mp (Dict.get?_isSome_iff.mpr ((hbc.bounds le).mpr
      (Dict.get?_isSome_iff.mp (by rw [h]; rfl))))
  obtain ⟨x, hx⟩ := hmid le cum h
  have hle := (hkbc le cum h).1
  rw [hx, Option.getD_some] at hle
  refine ⟨(hkab le x hx).1.trans hle, fun le' cum' h' hlt => ?_⟩
  obtain ⟨x', hx'⟩ := hmid le' cum' h'
  have hab' := (hkab le x hx).2 le' x' hx' hlt
  have hbc' := (hkbc le cum h).2 le' cum' h' hlt
  rw [hx, hx', Option.getD_some, Option.getD_some] at hbc'
  exact hab'.trans hbc'

theorem Grows.refl (map : Dict String String) (s : Scrape) : Grows map s s :=
  ⟨fun x h => ⟨x, h, le_refl x⟩, fun _ _ h hh => ⟨h, hh, Filled.refl _⟩⟩

theorem Grows.trans {map : Dict String String} {a b c : Scrape} (hab : Grows map a b)
    (hbc : Grows map b c) : Grows map a c := by
  constructor
  · intro x hx
    obtain ⟨y, hy, hxy⟩ := hab.counter x hx
    obtain ⟨z, hz, hyz⟩ := hbc.counter y hy
    exact ⟨z, hz, hxy.trans hyz⟩
  · intro k hk h hh
    obtain ⟨h', hh', hf⟩ := hab.histograms k hk h hh
    obtain ⟨h'', hh'', hf'⟩ := hbc.histograms k hk h' hh'
    exact ⟨h'', hh'', hf.trans hf'⟩

/-! ## Exactly when the samples are usable -/

theorem caughtUp_of_grows {map : Dict String String} {p cur : Scrape} (h : Grows map p cur) :
    CaughtUp map p cur := by
  constructor
  · intro x y hx hy
    obtain ⟨z, hz, hle⟩ := h.counter x hx
    rw [hy, Option.some.injEq] at hz
    exact hz ▸ hle
  · intro k hk b b' hb hb' _
    obtain ⟨c, hc, hf⟩ := h.histograms k hk b hb
    rw [hb', Option.some.injEq] at hc
    subst c
    exact cumulative_increments_iff.mp hf.increments

theorem sample_run (replicaId : String) (now : Rat) (cur : Scrape) (self : PrometheusMetrics) :
    (PrometheusMetrics.sample replicaId now cur).run self =
      match self.read replicaId now cur with
      | .ok out => .ok out { self with prev := self.prev.insert replicaId (now, cur) }
      | .error e => .error e self := by
  unfold PrometheusMetrics.sample
  simp only [EStateM.run_bind, EStateM.run_get, ofExcept_run]
  cases self.read replicaId now cur <;> rfl

theorem rate?_nonneg_iff {map : Dict String String} {cur p : Scrape} {dt : Rat} (hdt : 0 < dt) :
    (∀ x, rate? map cur p dt = some x → 0 ≤ x) ↔
      ∀ x y, counter? map p = some x → counter? map cur = some y → x ≤ y := by
  have hsign : ∀ x y : Rat, (0 : Le) ≤ (((y - x) / dt : Rat) : Le) ↔ x ≤ y := by
    intro x y
    rw [← WithTop.coe_zero, WithTop.coe_le_coe, le_div_iff₀ hdt, zero_mul, sub_nonneg]
  constructor
  · intro h x y hx hy
    refine (hsign x y).mp (h _ ?_)
    simp [rate?, hx, hy]
  · intro h v hv
    unfold rate? at hv
    cases hy : counter? map cur with
    | none => simp [hy] at hv
    | some y =>
      cases hx : counter? map p with
      | none => simp [hx, hy] at hv
      | some x =>
        simp only [hx, hy, Option.bind_eq_bind, Option.bind_some, Option.pure_def,
          Option.some.injEq] at hv
        exact hv ▸ (hsign x y).mpr (h x y hx hy)

theorem usable_iff {metrics : PrometheusMetrics} {replicaId : String} {engine p : Scrape}
    {pt : Rat} {out : Sample} (hprev : metrics.prev.get? replicaId = some (pt, p))
    (hout : Reports metrics.map engine p out) :
    Usable metrics replicaId engine out ↔ CaughtUp metrics.map p engine := by
  obtain ⟨dt, hdt, hrate⟩ := hout.throughput
  constructor
  · intro h
    refine ⟨(rate?_nonneg_iff hdt).mp (hrate ▸ h.throughput), fun k hk b b' hb hb' hover => ?_⟩
    have hq : ((1 / 2 : Rat), "p50") ∈ quantiles := List.mem_cons_self
    have hwindow : window? metrics.map k.1 engine p = some (increments b.buckets b'.buckets) := by
      simp [window?, hb, hb']
    obtain ⟨v, hv⟩ := Option.isSome_iff_exists.mp
      (estimate_isSome_iff.mpr (total_increments_pos_iff.mpr hover))
    have hreport := hout.quantiles k hk _ hq
    rw [hwindow, quantileOf, Option.bind_some, hv, Option.map_some] at hreport
    obtain ⟨pt', p', delta, hp', hdelta, -, hcum⟩ := h.quantiles k hk _ hq _ hreport
    rw [hprev, Option.some.injEq, Prod.mk.injEq] at hp'
    obtain ⟨rfl, rfl⟩ := hp'
    rw [hwindow, Option.some.injEq] at hdelta
    exact cumulative_increments_iff.mp (hdelta ▸ hcum)
  · intro h
    refine ⟨hrate ▸ (rate?_nonneg_iff hdt).mpr h.counter, fun k hk q hq v hv => ?_⟩
    rw [hout.quantiles k hk q hq] at hv
    obtain ⟨delta, hdelta, hest⟩ := Option.bind_eq_some_iff.mp hv
    refine ⟨pt, p, delta, hprev, hdelta, hest, ?_⟩
    obtain ⟨b', hb', hrest⟩ := Option.bind_eq_some_iff.mp hdelta
    obtain ⟨b, hb, hinc⟩ := Option.bind_eq_some_iff.mp hrest
    obtain rfl := Option.some.inj hinc
    have hpos : 0 < total (increments b.buckets b'.buckets) := by
      obtain ⟨w, hw, -⟩ := Option.map_eq_some_iff.mp hest
      exact estimate_isSome_iff.mp (Option.isSome_of_eq_some hw)
    exact cumulative_increments_iff.mpr
      (h.histograms k hk b b' hb hb' (total_increments_pos_iff.mp hpos))

/-- What the sampler remembers grew into what the engine shows, but for a restart. -/
structure Remembers (replicaId : String) (s : Monitored) : Prop where
  exposes : Exposes s.metrics.map s.engine
  remembered : ∀ pt p, s.metrics.prev.get? replicaId = some (pt, p) →
    Exposes s.metrics.map p ∧ (s.restarted = false → Grows s.metrics.map p s.engine)

theorem read_ok {replicaId : String} {s : Monitored} (h : Remembers replicaId s) (now : Rat) :
    ∃ out, s.metrics.read replicaId now s.engine = .ok out := by
  cases hprev : s.metrics.prev.get? replicaId with
  | none => exact ⟨_, read_first now s.engine hprev⟩
  | some remembered =>
    obtain ⟨out, hout, -⟩ := read_reports now hprev h.exposes (h.remembered _ _ hprev).1
    exact ⟨out, hout⟩

theorem step_sample {replicaId : String} {s : Monitored} (h : Remembers replicaId s) (now : Rat) :
    step replicaId s (.sample now) =
      ⟨{ s.metrics with prev := s.metrics.prev.insert replicaId (now, s.engine) }, s.engine, false⟩ := by
  obtain ⟨out, hout⟩ := read_ok h now
  have hrun := sample_run replicaId now s.engine s.metrics
  rw [hout] at hrun
  have hv : value? (PrometheusMetrics.sample replicaId now s.engine) s.metrics = some out := by
    rw [value?, hrun]
  simp only [step, hv, final_of_ok hrun, Option.isNone_some, Bool.and_false]

theorem remembers_step {replicaId : String} (s : Monitored) (e : Event)
    (h : Remembers replicaId s) (hlawful : Lawful s e) : Remembers replicaId (step replicaId s e) := by
  cases e with
  | grow after =>
    refine ⟨hlawful.1, fun pt p hp => ?_⟩
    obtain ⟨hexp, hgrows⟩ := h.remembered pt p hp
    exact ⟨hexp, fun hr => (hgrows hr).trans hlawful.2⟩
  | restart after =>
    refine ⟨hlawful.1, fun pt p hp => ⟨(h.remembered pt p hp).1, fun hr => ?_⟩⟩
    exact absurd hr (by simp [step])
  | sample now =>
    rw [step_sample h]
    refine ⟨h.exposes, fun pt p hp => ?_⟩
    rw [Dict.get?_insert_self, Option.some.injEq, Prod.mk.injEq] at hp
    exact ⟨hp.2 ▸ h.exposes, fun _ => hp.2 ▸ Grows.refl _ _⟩

theorem sound_iff {replicaId : String} (s : Monitored) (e : Event) (h : Remembers replicaId s) :
    Sound replicaId s e ↔ Recovered replicaId s e := by
  cases e with
  | grow after => exact Iff.rfl
  | restart after => exact Iff.rfl
  | sample now =>
    obtain ⟨out, hout⟩ := read_ok h now
    have hrun := sample_run replicaId now s.engine s.metrics
    rw [hout] at hrun
    have hv : value? (PrometheusMetrics.sample replicaId now s.engine) s.metrics = some out := by
      rw [value?, hrun]
    cases hprev : s.metrics.prev.get? replicaId with
    | none =>
      rw [read_first now s.engine hprev, Except.ok.injEq] at hout
      subst hout
      refine ⟨fun _ _ pt p hp => absurd (hprev.symm.trans hp) (by simp), fun _ out ho => ?_⟩
      rw [hv, Option.some.injEq] at ho
      subst ho
      constructor
      · intro x hx
        rw [gauges_get? _ _ (by decide) (by decide)] at hx
        cases hx
      · intro k hk q hq v hval
        rw [gauges_quantileKey _ _ k hk q hq] at hval
        cases hval
    | some remembered =>
      obtain ⟨pt, p⟩ := remembered
      obtain ⟨hexp, hgrows⟩ := h.remembered pt p hprev
      obtain ⟨out', hout', hreports⟩ := read_reports now hprev h.exposes hexp
      have hsame : out = out' := Except.ok.inj (hout.symm.trans hout')
      subst hsame
      have hiff := usable_iff hprev hreports
      constructor
      · intro hs _ pt' p' hp'
        rw [hprev, Option.some.injEq, Prod.mk.injEq] at hp'
        exact hp'.2 ▸ hiff.mp (hs out hv)
      · intro hr out' ho
        rw [hv, Option.some.injEq] at ho
        subst ho
        refine hiff.mpr ?_
        cases hrestarted : s.restarted with
        | true => exact hr hrestarted pt p hprev
        | false => exact caughtUp_of_grows (hgrows hrestarted)

/-- Along any run of growth, restarts and samples. -/
theorem survives_restart_iff {replicaId : String} {s : Monitored} {es : List Event}
    (hexposes : Exposes s.metrics.map s.engine) (hprev : s.metrics.prev.get? replicaId = none)
    (hes : Along (step replicaId) Lawful s es) :
    Along (step replicaId) (Sound replicaId) s es ↔
      Along (step replicaId) (Recovered replicaId) s es :=
  along_congr_along remembers_step (fun s e h _ => sound_iff s e h) hes
    ⟨hexposes, fun pt p hp => absurd (hprev.symm.trans hp) (by simp)⟩

/-! ## A relaunched engine -/

def tokens (n : Rat) : Scrape :=
  .ofList [("sglang:generation_tokens_total", ⟨some n, none⟩)]

theorem counter?_tokens (n : Rat) : counter? SGLANG_MAP (tokens n) = some n := rfl

theorem histogram?_tokens (n : Rat) : ∀ k ∈ series, family? SGLANG_MAP k.1 (tokens n) = none :=
  List.forall_mem_cons.mpr ⟨rfl, List.forall_mem_singleton.mpr rfl⟩

theorem exposes_tokens (n : Rat) : Exposes SGLANG_MAP (tokens n) := by
  refine ⟨fun f hf => ?_, fun k hk f hf => ?_⟩
  · cases hf
    rfl
  · rw [histogram?_tokens n k hk] at hf
    cases hf

theorem grows_tokens {m n : Rat} (h : m ≤ n) : Grows SGLANG_MAP (tokens m) (tokens n) := by
  refine ⟨fun x hx => ?_, fun k hk b hb => ?_⟩
  · rw [counter?_tokens, Option.some.injEq] at hx
    exact ⟨n, counter?_tokens n, hx ▸ h⟩
  · rw [histogram?, histogram?_tokens m k hk] at hb
    cases hb

theorem zero_tokens : Zero SGLANG_MAP (tokens 0) := by
  refine ⟨fun x hx => ?_, fun k hk b hb => ?_⟩
  · rw [counter?_tokens, Option.some.injEq] at hx
    exact hx.symm
  · rw [histogram?, histogram?_tokens 0 k hk] at hb
    cases hb

def serving : Monitored := ⟨⟨SGLANG_MAP, ∅⟩, tokens 3000, false⟩

/-- It is sampled, restarted, and sampled again after 1000 tokens and ten seconds. -/
def relaunch : List Event := [.sample 0, .restart (tokens 0), .grow (tokens 1000), .sample 10]

theorem relaunch_lawful : Along (step "r0") Lawful serving relaunch :=
  ⟨trivial, ⟨exposes_tokens 0, zero_tokens⟩, ⟨exposes_tokens 1000, grows_tokens (by decide +kernel)⟩,
    trivial, trivial⟩

theorem relaunch_judged : Along (step "r0") (Sound "r0") serving relaunch ↔
    Along (step "r0") (Recovered "r0") serving relaunch :=
  survives_restart_iff (exposes_tokens 3000) rfl relaunch_lawful

/-- The second sample reports a throughput of -200 tokens a second. -/
theorem relaunch_negative :
    Exposes serving.metrics.map serving.engine ∧ serving.metrics.prev.get? "r0" = none ∧
      Along (step "r0") Lawful serving relaunch ∧
      ¬ Along (step "r0") (Sound "r0") serving relaunch := by
  refine ⟨exposes_tokens 3000, rfl, relaunch_lawful, fun h => ?_⟩
  let before := run (step "r0") serving (relaunch.take 3)
  have hlast : Sound "r0" before (.sample 10) := h.2.2.2.1
  have hrun : ((value? (PrometheusMetrics.sample "r0" 10 before.engine) before.metrics).bind
      fun out => out.get? "throughput") = some ((-200 : Rat) : Le) := by decide +kernel
  obtain ⟨out, hout, hrate⟩ := Option.bind_eq_some_iff.mp hrun
  have hsign : (0 : Le) ≤ ((-200 : Rat) : Le) := (hlast out hout).throughput _ hrate
  exact absurd hsign (by decide +kernel)

end Trimtab.Prometheus
