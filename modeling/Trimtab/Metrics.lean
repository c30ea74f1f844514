import Mathlib.Algebra.Order.Ring.Rat
import Mathlib.Data.Rat.Floor
import Mathlib.Order.WithBot
import Mathlib.Tactic.Linarith
import Trimtab.Dict
import Trimtab.PyValues

set_option autoImplicit false

/-!
# Gate inputs from an engine's metrics

Counts, bounds and clock readings are exact rationals: the rounding of float arithmetic is
left out. The largest bound may be `+Inf`.
-/
namespace Trimtab.Prometheus

abbrev Le := WithTop Rat

abbrev Buckets := Dict Le Rat

def divide (a b : Rat) : Except PyErr Rat :=
  if b = 0 then .error (.zeroDivisionError "float division by zero") else .ok (a / b)

/-- The loop of `quantile`. `+Inf` is the last of the sorted bounds, so nothing is carried past it. -/
def scan (rank : Rat) : Rat → Rat → List (Le × Rat) → Except PyErr (Option Le)
  | _, _, [] => return none
  | prevLe, _, (⊤, cum) :: _ => return if rank ≤ cum then some (prevLe : Le) else none
  | prevLe, prevCum, ((le : Rat), cum) :: rest =>
    if rank ≤ cum then
      if cum = prevCum then
        return some (le : Le)
      else do
        let within ← divide ((le - prevLe) * (rank - prevCum)) (cum - prevCum)
        return some ((prevLe + within : Rat) : Le)
    else scan rank le cum rest

theorem scan_top (rank prevLe prevCum cum : Rat) (rest : List (Le × Rat)) :
    scan rank prevLe prevCum ((⊤, cum) :: rest) =
      .ok (if rank ≤ cum then some (prevLe : Le) else none) := rfl

theorem scan_coe (rank prevLe prevCum le cum : Rat) (rest : List (Le × Rat)) :
    scan rank prevLe prevCum (((le : Le), cum) :: rest) =
      if rank ≤ cum then
        if cum = prevCum then .ok (some (le : Le))
        else do
          let within ← divide ((le - prevLe) * (rank - prevCum)) (cum - prevCum)
          return some ((prevLe + within : Rat) : Le)
      else scan rank le cum rest := rfl

/-- `buckets_delta[les[-1]] if les else 0` -/
def total (b : Buckets) : Rat := (b.sortKeys.entries.getLast?.map Prod.snd).getD 0

def quantile (q : Rat) (bucketsDelta : Buckets) : Except PyErr (Option Le) := do
  let les := bucketsDelta.sortKeys.entries
  if total bucketsDelta ≤ 0 then
    return none
  let found ← scan (q * total bucketsDelta) 0 0 les
  return found.or (les.getLast?.map Prod.fst)

/-- The division is guarded by a comparison of its two operands. -/
theorem scan_ok (rank prevLe prevCum : Rat) (rows : List (Le × Rat)) :
    ∃ found, scan rank prevLe prevCum rows = .ok found := by
  induction rows generalizing prevLe prevCum with
  | nil => exact ⟨none, rfl⟩
  | cons row rest ih =>
    obtain ⟨le, cum⟩ := row
    cases le using WithTop.recTopCoe with
    | top => exact ⟨_, scan_top rank prevLe prevCum cum rest⟩
    | coe le =>
      rw [scan_coe]
      split
      · split
        · exact ⟨_, rfl⟩
        · rename_i hne
          rw [divide, if_neg (sub_ne_zero.mpr hne)]
          exact ⟨_, rfl⟩
      · exact ih le cum

theorem quantile_none {q : Rat} {b : Buckets} (h : total b ≤ 0) : quantile q b = .ok none := by
  simp only [quantile, if_pos h]
  rfl

theorem quantile_of_scan {q : Rat} {b : Buckets} {found : Option Le} (h : 0 < total b)
    (hscan : scan (q * total b) 0 0 b.sortKeys.entries = .ok found) :
    quantile q b = .ok (found.or (b.sortKeys.entries.getLast?.map Prod.fst)) := by
  simp only [quantile, if_neg (Rat.not_le.mpr h), hscan]
  rfl

theorem quantile_some (q : Rat) {b : Buckets} (h : 0 < total b) :
    ∃ v, quantile q b = .ok (some v) := by
  obtain ⟨found, hfound⟩ := scan_ok (q * total b) 0 0 b.sortKeys.entries
  rw [quantile_of_scan h hfound]
  cases found with
  | some v => exact ⟨v, rfl⟩
  | none =>
    cases hlast : b.sortKeys.entries.getLast? with
    | some last => exact ⟨last.1, rfl⟩
    | none => simp [total, hlast] at h

theorem total_eq {b : Buckets} {le : Le} {cum : Rat} (h : b.get? le = some cum)
    (hmax : ∀ le' ∈ b.keys, le' ≤ le) : total b = cum := by
  have hmem : (le, cum) ∈ b.sortKeys.entries :=
    Dict.mem_sortKeys.mpr (Dict.get?_eq_some_iff.mp h)
  have hsorted := b.pairwise_sortKeys
  rcases List.eq_nil_or_concat' b.sortKeys.entries with hnil | ⟨init, last, hrows⟩
  · rw [hnil] at hmem
    cases hmem
  · have hlast : last ∈ b.entries := Dict.mem_sortKeys.mp (by rw [hrows]; simp)
    rw [hrows] at hmem hsorted
    rw [total, hrows, List.getLast?_concat]
    rcases List.mem_append.mp hmem with hinit | hend
    · have hlt := (List.pairwise_append.mp hsorted).2.2 _ hinit last (by simp)
      exact absurd (hmax last.1 (List.mem_map_of_mem hlast)) (not_le_of_gt hlt)
    · rw [← List.mem_singleton.mp hend]
      rfl

theorem total_pos_iff {b : Buckets} : 0 < total b ↔
    ∃ le cum, b.get? le = some cum ∧ (∀ le' ∈ b.keys, le' ≤ le) ∧ 0 < cum := by
  constructor
  · intro h
    rcases List.eq_nil_or_concat' b.sortKeys.entries with hnil | ⟨init, last, hrows⟩
    · simp [total, hnil] at h
    · have hlast : last ∈ b.entries := Dict.mem_sortKeys.mp (by rw [hrows]; simp)
      have hmax : ∀ le' ∈ b.keys, le' ≤ last.1 := by
        intro le' hk
        obtain ⟨row, hrow, rfl⟩ := List.mem_map.mp hk
        have hsorted := b.pairwise_sortKeys
        have hmem := Dict.mem_sortKeys.mpr hrow
        rw [hrows] at hsorted hmem
        rcases List.mem_append.mp hmem with hinit | hend
        · exact ((List.pairwise_append.mp hsorted).2.2 _ hinit last (by simp)).le
        · rw [List.mem_singleton.mp hend]
      have hget := Dict.get?_eq_some_iff.mpr hlast
      exact ⟨last.1, last.2, hget, hmax, total_eq hget hmax ▸ h⟩
  · rintro ⟨le, cum, hget, hmax, hpos⟩
    rwa [total_eq hget hmax]

/-! ## Prometheus' `histogram_quantile` -/

def finite? : Le → Option Rat
  | ⊤ => none
  | (le : Rat) => some le

def largestFinite (b : Buckets) : Rat := ((b.sortKeys.keys.filterMap finite?).getLast?).getD 0

/-- Prometheus' definition: find the first bucket whose cumulative count reaches the rank, and
interpolate inside it from the bound before, or from 0 when it is the first. -/
def histogramQuantile (q : Rat) (b : Buckets) : Rat :=
  let rows := b.sortKeys.entries
  let rank := q * (b.get? ⊤).getD 0
  match rows.find? fun row => rank ≤ row.2 with
  | some ((le : Rat), cum) =>
    let before := ((rows.takeWhile fun row => row.2 < rank).getLast?).getD ((0 : Rat), 0)
    let prevLe := (finite? before.1).getD 0
    prevLe + (le - prevLe) * ((rank - before.2) / (cum - before.2))
  | _ => largestFinite b

structure Cumulative (b : Buckets) : Prop where
  nonneg : ∀ le cum, b.get? le = some cum → 0 ≤ cum
  monotone : ∀ le le' cum cum', b.get? le = some cum → b.get? le' = some cum' → le ≤ le' → cum ≤ cum'

structure Classic (b : Buckets) : Prop extends Cumulative b where
  finite : ∃ le : Rat, (le : Le) ∈ b.keys
  positive : ∀ le : Rat, (le : Le) ∈ b.keys → 0 < le
  infinite : ⊤ ∈ b.keys
  filled : ∀ cum, b.get? ⊤ = some cum → 0 < cum

/-- The bound and the count that the loop carries past `below`. -/
def carried (prevLe prevCum : Rat) (below : List (Le × Rat)) : Rat × Rat :=
  below.foldl (fun prev row => ((finite? row.1).getD prev.1, row.2)) (prevLe, prevCum)

/-- The loop goes past the buckets below the rank. -/
theorem scan_below {rank : Rat} {below rest : List (Le × Rat)} (prevLe prevCum : Rat)
    (hfin : ∀ row ∈ below, row.1 ≠ ⊤) (hlt : ∀ row ∈ below, row.2 < rank) :
    scan rank prevLe prevCum (below ++ rest) =
      scan rank (carried prevLe prevCum below).1 (carried prevLe prevCum below).2 rest := by
  induction below generalizing prevLe prevCum with
  | nil => rfl
  | cons row below ih =>
    obtain ⟨le, cum⟩ := row
    have hcum : cum < rank := hlt (le, cum) List.mem_cons_self
    cases le using WithTop.recTopCoe with
    | top => exact absurd rfl (hfin (⊤, cum) List.mem_cons_self)
    | coe le =>
      rw [List.cons_append, scan_coe, if_neg (Rat.not_le.mpr hcum)]
      exact ih le cum (fun row hr => hfin row (List.mem_cons_of_mem _ hr))
        (fun row hr => hlt row (List.mem_cons_of_mem _ hr))

theorem carried_concat (prevLe prevCum : Rat) (below : List (Le × Rat)) (row : Le × Rat) :
    carried prevLe prevCum (below ++ [row]) =
      ((finite? row.1).getD (carried prevLe prevCum below).1, row.2) := List.foldl_concat _ _ _ _

theorem finite?_coe (le : Rat) : finite? (le : Le) = some le := rfl

structure Reached (b : Buckets) (rank : Rat) (below : List (Le × Rat)) (le : Le) (cum : Rat)
    (after : List (Le × Rat)) : Prop where
  rows : b.sortKeys.entries = below ++ (le, cum) :: after
  below_lt : ∀ row ∈ below, row.2 < rank
  reaches : rank ≤ cum

namespace Reached

variable {b : Buckets} {rank cum : Rat} {below after : List (Le × Rat)} {le : Le}

theorem sorted (h : Reached b rank below le cum after) :
    (below ++ (le, cum) :: after).Pairwise fun p q => p.1 < q.1 :=
  h.rows ▸ b.pairwise_sortKeys

theorem below_finite (h : Reached b rank below le cum after) : ∀ row ∈ below, row.1 ≠ ⊤ := by
  intro row hr
  have hlt : row.1 < le :=
    (List.pairwise_append.mp h.sorted).2.2 row hr (le, cum) List.mem_cons_self
  exact ne_top_of_lt hlt

theorem find? (h : Reached b rank below le cum after) :
    b.sortKeys.entries.find? (fun row => rank ≤ row.2) = some (le, cum) := by
  rw [List.find?_eq_some_iff_append]
  refine ⟨by simpa using h.reaches, below, after, h.rows, fun row hr => ?_⟩
  simpa using h.below_lt row hr

theorem takeWhile (h : Reached b rank below le cum after) :
    (b.sortKeys.entries.takeWhile fun row => row.2 < rank) = below := by
  rw [h.rows, List.takeWhile_append_of_pos (by simpa using h.below_lt),
    List.takeWhile_cons_of_neg (by simpa using h.reaches), List.append_nil]

theorem carried_lt (h : Reached b rank below le cum after) (hrank : 0 < rank) :
    (carried 0 0 below).2 < rank := by
  rcases List.eq_nil_or_concat' below with rfl | ⟨init, row, rfl⟩
  · exact hrank
  · rw [carried_concat]
    exact h.below_lt row (by simp)

/-- A bucket with a finite bound: the loop interpolates inside it. -/
theorem scan_finite {le : Rat} (h : Reached b rank below (le : Le) cum after) (hrank : 0 < rank) :
    scan rank 0 0 b.sortKeys.entries =
      .ok (some (((carried 0 0 below).1 + (le - (carried 0 0 below).1) *
        ((rank - (carried 0 0 below).2) / (cum - (carried 0 0 below).2)) : Rat) : Le)) := by
  have hcum : (carried 0 0 below).2 < cum :=
    lt_of_lt_of_le (h.carried_lt hrank) h.reaches
  rw [h.rows, scan_below 0 0 h.below_finite h.below_lt, scan_coe, if_pos h.reaches,
    if_neg (ne_of_gt hcum), divide, if_neg (sub_ne_zero.mpr (ne_of_gt hcum)), mul_div_assoc]
  rfl

/-- The `+Inf` bucket: the loop answers with the bound before. -/
theorem scan_infinite (h : Reached b rank below ⊤ cum after) :
    scan rank 0 0 b.sortKeys.entries = .ok (some ((carried 0 0 below).1 : Le)) := by
  rw [h.rows, scan_below 0 0 h.below_finite h.below_lt, scan_top, if_pos h.reaches]

/-- The bound carried into the first bucket that reaches the rank is the one before it. -/
theorem carried_eq (h : Reached b rank below le cum after) :
    carried 0 0 below = ((finite? (below.getLast?.getD ((0 : Rat), 0)).1).getD 0,
      (below.getLast?.getD ((0 : Rat), 0)).2) := by
  have hfin := h.below_finite
  rcases List.eq_nil_or_concat' below with rfl | ⟨init, ⟨last, count⟩, rfl⟩
  · rfl
  · have hlast : last ≠ ⊤ := hfin (last, count) (by simp)
    obtain ⟨x, rfl⟩ := WithTop.ne_top_iff_exists.mp hlast
    rw [carried_concat, List.getLast?_concat]
    rfl

/-- Where `+Inf` is the first bucket that reaches the rank, every finite bound lies below. -/
theorem largestFinite_eq (h : Reached b rank below ⊤ cum after) :
    largestFinite b = (carried 0 0 below).1 := by
  have hafter : after = [] := by
    rw [List.eq_nil_iff_forall_not_mem]
    intro row hr
    have hlt := List.rel_of_pairwise_cons (List.pairwise_append.mp h.sorted).2.1 hr
    exact not_top_lt hlt
  have hfin := h.below_finite
  rw [largestFinite, Dict.keys, h.rows, hafter, h.carried_eq]
  rcases List.eq_nil_or_concat' below with rfl | ⟨init, ⟨last, count⟩, rfl⟩
  · rfl
  · obtain ⟨x, rfl⟩ := WithTop.ne_top_iff_exists.mp (hfin (last, count) (by simp))
    simp only [List.map_append, List.map_cons, List.map_nil, List.filterMap_append,
      List.filterMap_cons, List.filterMap_nil, finite?_coe, List.getLast?_concat]
    simp [finite?]

end Reached

/-- A rank that some bucket reaches has a first one. -/
theorem exists_reached {b : Buckets} {rank : Rat} {row : Le × Rat}
    (hrow : row ∈ b.sortKeys.entries) (hreach : rank ≤ row.2) :
    ∃ below le cum after, Reached b rank below le cum after := by
  cases hfind : b.sortKeys.entries.find? fun row => decide (rank ≤ row.2) with
  | none =>
    have hnot := List.find?_eq_none.mp hfind row hrow
    simp [hreach] at hnot
  | some first =>
    obtain ⟨hp, below, after, hrows, hbelow⟩ := List.find?_eq_some_iff_append.mp hfind
    exact ⟨below, first.1, first.2, after, hrows,
      fun r hr => by simpa using hbelow r hr, by simpa using hp⟩

/-- The loop of `quantile` computes Prometheus' quantile: below the first bucket that reaches
the rank no count does, so the count carried there is smaller and the division is one. -/
theorem scan_eq_histogramQuantile {b : Buckets} {q total : Rat} (h : b.get? ⊤ = some total)
    (hrank : 0 < q * total) (hle : q * total ≤ total) :
    scan (q * total) 0 0 b.sortKeys.entries = .ok (some (histogramQuantile q b : Le)) := by
  have hmem : (⊤, total) ∈ b.sortKeys.entries :=
    Dict.mem_sortKeys.mpr (Dict.get?_eq_some_iff.mp h)
  obtain ⟨below, le, cum, after, hr⟩ := exists_reached hmem hle
  simp only [histogramQuantile, h, Option.getD_some]
  cases le using WithTop.recTopCoe with
  | top =>
    rw [hr.scan_infinite, hr.find?, hr.largestFinite_eq]
  | coe le =>
    rw [hr.scan_finite hrank, hr.find?]
    simp only [hr.takeWhile, hr.carried_eq]

theorem quantile_eq_histogram_quantile {q : Rat} {b : Buckets} (hq : 0 < q) (hq1 : q ≤ 1)
    (hb : Classic b) : quantile q b = .ok (some (histogramQuantile q b : Le)) := by
  obtain ⟨total, htotal⟩ := Option.isSome_iff_exists.mp (Dict.get?_isSome_iff.mpr hb.infinite)
  have hpos : 0 < total := hb.filled total htotal
  have hrank : 0 < q * total := mul_pos hq hpos
  have hle : q * total ≤ total := by
    have := mul_le_mul_of_nonneg_right hq1 hpos.le
    rwa [one_mul] at this
  have hlast : Prometheus.total b = total := total_eq htotal fun _ _ => le_top
  have hscan := scan_eq_histogramQuantile htotal hrank hle
  rw [quantile_of_scan (hlast ▸ hpos) (hlast.symm ▸ hscan)]
  rfl

def testWindow : Buckets :=
  ⟨[((1 / 10 : Rat), 0), ((1 / 2 : Rat), 100), ((1 : Rat), 100), (⊤, 100)], by decide +kernel⟩

theorem classic_testWindow : Classic testWindow where
  finite := ⟨1 / 2, by decide +kernel⟩
  positive := fun le hle => by
    simp only [Dict.keys, testWindow, List.map_cons, List.map_nil, List.mem_cons, WithTop.coe_inj,
      WithTop.coe_ne_top, List.not_mem_nil, or_false] at hle
    rcases hle with rfl | rfl | rfl <;> decide +kernel
  infinite := by decide +kernel
  nonneg := Dict.forall_get?_iff.mpr (by decide +kernel)
  monotone := fun le le' cum cum' h h' hle => by
    have hall : ∀ p ∈ testWindow.entries, ∀ r ∈ testWindow.entries, p.1 ≤ r.1 → p.2 ≤ r.2 := by
      decide +kernel
    exact hall _ (Dict.get?_eq_some_iff.mp h) _ (Dict.get?_eq_some_iff.mp h') hle
  filled := fun cum h => by
    have hall : ∀ p ∈ testWindow.entries, p.1 = ⊤ → 0 < p.2 := by decide +kernel
    exact hall _ (Dict.get?_eq_some_iff.mp h) rfl

theorem testWindow_p50 :
    quantile (1 / 2) testWindow = .ok (some (histogramQuantile (1 / 2) testWindow : Le)) ∧
      histogramQuantile (1 / 2) testWindow = 3 / 10 :=
  ⟨quantile_eq_histogram_quantile (by decide +kernel) (by decide +kernel) classic_testWindow,
    by decide +kernel⟩

end Trimtab.Prometheus
