import Mathlib.Data.List.Induction
import Trimtab.ExpositionBounds

set_option autoImplicit false

/-!
# What `parse` gathers from a page

Line by line it adds to the entry of the line's own family as long as each line is read as what
it says. The names decide the rest: what stands in `out` already, and the suffix.
-/
namespace Trimtab.Exposition
open MetricsText PyText

/-! ## Sums line by line -/

theorem total?_concat (xs : List PyFloat) (x : PyFloat) :
    total? (xs ++ [x]) = some (add ((total? xs).getD zero) x) := by
  cases xs with
  | nil => rfl
  | cons y ys =>
    rw [List.cons_append]
    change some ((y :: ys ++ [x]).foldl add zero) = _
    rw [List.foldl_append]
    rfl

theorem sumOf_concat (p : Series → Bool) (ss : List Series) (s : Series) :
    sumOf p (ss ++ [s]) =
      if p s then some (add ((sumOf p ss).getD zero) s.value.num) else sumOf p ss := by
  unfold sumOf
  rw [List.filter_append, List.map_append]
  cases hp : p s with
  | true => rw [List.filter_cons_of_pos hp, List.filter_nil, if_pos rfl]; exact total?_concat _ _
  | false =>
    rw [List.filter_cons_of_neg (by rw [hp]; exact Bool.false_ne_true), List.filter_nil,
      List.map_nil, List.append_nil, if_neg Bool.false_ne_true]

namespace Series

def branch (s : Series) : Branch :=
  match s.role with
  | .bucket _ => .bucket s.family.1
  | .count => .count s.family.1
  | .sum => .sum s.family.1
  | _ => .value

end Series

def value? (out : MetricsText.Page) (n : String) : Option PyFloat := (out.get? n).bind Entry.value

def histogram? (out : MetricsText.Page) (n : String) : Option Histogram :=
  (out.get? n).bind Entry.histogram

/-- The cumulative count of every bound, the count and the sum, each added over the label sets. -/
structure AddsUp (ss : List Series) (n : String) (h : Histogram) : Prop where
  buckets : ∀ le, h.buckets.get? le = sumOf (fun s => s.ofFamily n && s.role.isBucketOf le) ss
  count : h.count = (sumOf (fun s => s.ofFamily n && s.role.isCount) ss).getD zero
  sum : h.sum = (sumOf (fun s => s.ofFamily n && s.role.isSum) ss).getD zero

/-- `out` is the sum of the lines: every name with the series of that name, every histogram with
its own lines, and nothing else. -/
structure Sums (ss : List Series) (out : MetricsText.Page) : Prop where
  names : ∀ n, out.contains n = true ↔ n ∈ ss.map Series.entry
  values : ∀ n, value? out n = sumOf (fun s => s.plain && s.name = n) ss
  histograms : ∀ n, (histogram? out n).isSome ↔ ∃ s ∈ ss, s.ofFamily n = true ∧ s.role.isBucket = true
  adds : ∀ n h, histogram? out n = some h → AddsUp ss n h

theorem role_of_plain {s : Series} (h : s.plain = true) : (∀ le, s.role.isBucketOf le = false) ∧
    s.role.isCount = false ∧ s.role.isSum = false := by
  unfold Series.plain at h
  cases hr : s.role with
  | bucket le => rw [hr] at h; cases h
  | count => rw [hr] at h; cases h
  | sum => rw [hr] at h; cases h
  | _ => exact ⟨fun _ => rfl, rfl, rfl⟩

/-- A line that is of no histogram, or of another, leaves the sums of one alone. -/
theorem AddsUp.concat {ss : List Series} {n : String} {h : Histogram} (hadds : AddsUp ss n h)
    {s : Series} (hs : s.ofFamily n = false ∨ s.plain = true) : AddsUp (ss ++ [s]) n h := by
  have hno : (∀ le, (s.ofFamily n && s.role.isBucketOf le) = false) ∧
      (s.ofFamily n && s.role.isCount) = false ∧ (s.ofFamily n && s.role.isSum) = false := by
    rcases hs with hfamily | hplain
    · simp [hfamily]
    · obtain ⟨hbucket, hcount, hsum⟩ := role_of_plain hplain
      simp [hbucket, hcount, hsum]
  constructor
  · intro le
    rw [sumOf_concat, hno.1 le, if_neg Bool.false_ne_true]
    exact hadds.buckets le
  · rw [sumOf_concat, hno.2.1, if_neg Bool.false_ne_true]
    exact hadds.count
  · rw [sumOf_concat, hno.2.2, if_neg Bool.false_ne_true]
    exact hadds.sum

theorem ofFamily_self (s : Series) : s.ofFamily s.family.1 = true := decide_eq_true rfl

theorem AddsUp.bucket {ss : List Series} {s : Series} {h : Histogram} {le : Number}
    (hadds : AddsUp ss s.family.1 h) (hrole : s.role = .bucket le) :
    AddsUp (ss ++ [s]) s.family.1 ⟨h.buckets.insert le.num
      (add ((h.buckets.get? le.num).getD zero) s.value.num), h.count, h.sum⟩ := by
  have hcount : s.role.isCount = false := by rw [hrole]; rfl
  have hsum : s.role.isSum = false := by rw [hrole]; rfl
  constructor
  · intro x
    have hx : s.role.isBucketOf x = decide (le.num = x) := by rw [hrole]; rfl
    rw [Dict.get?_insert, sumOf_concat, ofFamily_self, Bool.true_and, hx]
    by_cases he : le.num = x
    · subst he
      rw [if_pos rfl, decide_eq_true rfl, if_pos rfl, hadds.buckets]
    · rw [if_neg (Ne.symm he), decide_eq_false he, if_neg Bool.false_ne_true]
      exact hadds.buckets x
  · rw [sumOf_concat, hcount, Bool.and_false, if_neg Bool.false_ne_true]
    exact hadds.count
  · rw [sumOf_concat, hsum, Bool.and_false, if_neg Bool.false_ne_true]
    exact hadds.sum

theorem AddsUp.addCount {ss : List Series} {s : Series} {h : Histogram}
    (hadds : AddsUp ss s.family.1 h) (hrole : s.role = .count) :
    AddsUp (ss ++ [s]) s.family.1 { h with count := add h.count s.value.num } := by
  have hbucket : ∀ x, s.role.isBucketOf x = false := fun x => by rw [hrole]; rfl
  have hcount : s.role.isCount = true := by rw [hrole]; rfl
  have hsum : s.role.isSum = false := by rw [hrole]; rfl
  constructor
  · intro x
    rw [sumOf_concat, hbucket, Bool.and_false, if_neg Bool.false_ne_true]
    exact hadds.buckets x
  · rw [sumOf_concat, ofFamily_self, hcount, Bool.and_self, if_pos rfl, Option.getD_some,
      ← hadds.count]
  · rw [sumOf_concat, hsum, Bool.and_false, if_neg Bool.false_ne_true]
    exact hadds.sum

theorem AddsUp.addSum {ss : List Series} {s : Series} {h : Histogram}
    (hadds : AddsUp ss s.family.1 h) (hrole : s.role = .sum) :
    AddsUp (ss ++ [s]) s.family.1 { h with sum := add h.sum s.value.num } := by
  have hbucket : ∀ x, s.role.isBucketOf x = false := fun x => by rw [hrole]; rfl
  have hcount : s.role.isCount = false := by rw [hrole]; rfl
  have hsum : s.role.isSum = true := by rw [hrole]; rfl
  constructor
  · intro x
    rw [sumOf_concat, hbucket, Bool.and_false, if_neg Bool.false_ne_true]
    exact hadds.buckets x
  · rw [sumOf_concat, hcount, Bool.and_false, if_neg Bool.false_ne_true]
    exact hadds.count
  · rw [sumOf_concat, ofFamily_self, hsum, Bool.and_self, if_pos rfl, Option.getD_some,
      ← hadds.sum]

theorem contains_insert (out : MetricsText.Page) (k n : String) (e : Entry) :
    (out.insert k e).contains n = true ↔ out.contains n = true ∨ n = k := by
  unfold Dict.contains
  rw [Dict.get?_insert]
  by_cases hn : n = k <;> simp [hn]

/-- A line that stands for itself, added to the value of its name. -/
theorem Sums.addValue {ss : List Series} {out : MetricsText.Page} (hsums : Sums ss out)
    {s : Series} (hs : s.plain = true) : Sums (ss ++ [s]) (addValue out s.name s.value.num) := by
  have hentry : s.entry = s.name := by rw [Series.entry, if_pos hs]
  have hhist : ((out.get? s.name).getD ⟨some zero, none⟩).histogram = histogram? out s.name := by
    unfold histogram?
    cases out.get? s.name <;> rfl
  have hold : (((out.get? s.name).getD ⟨some zero, none⟩).value.getD zero) =
      (value? out s.name).getD zero := by
    unfold value?
    cases out.get? s.name <;> rfl
  have hkeep : ∀ n, histogram? (MetricsText.addValue out s.name s.value.num) n = histogram? out n := by
    intro n
    unfold MetricsText.addValue
    rw [histogram?, Dict.get?_insert]
    split_ifs with hn
    · subst hn
      exact hhist
    · rfl
  constructor
  · intro n
    unfold MetricsText.addValue
    rw [contains_insert, hsums.names, List.map_append, List.mem_append, List.map_singleton,
      List.mem_singleton, hentry]
  · intro n
    rw [sumOf_concat, hs, Bool.true_and, ← hsums.values n]
    unfold MetricsText.addValue value?
    rw [Dict.get?_insert]
    by_cases hn : n = s.name
    · subst hn
      rw [if_pos rfl, decide_eq_true rfl, if_pos rfl, Option.bind_some, hold]
      rfl
    · rw [if_neg hn, decide_eq_false (Ne.symm hn), if_neg Bool.false_ne_true]
  · intro n
    have hother : s.role.isBucket = false := by
      unfold Series.plain at hs
      cases hr : s.role with
      | bucket le => rw [hr] at hs; cases hs
      | _ => rfl
    rw [hkeep, hsums.histograms]
    simp only [List.mem_append, List.mem_singleton, or_and_right, exists_or, exists_eq_left, hother,
      Bool.false_eq_true, and_false, or_false]
  · intro n h hh
    rw [hkeep] at hh
    exact (hsums.adds n h hh).concat (.inr hs)

/-! ## The branch a name takes -/

structure FreeName (seen : String → Prop) (name : String) : Prop where
  bucket : ∀ base, name ≠ base ++ "_bucket"
  count : ∀ base, seen base → name ≠ base ++ "_count"
  sum : ∀ base, seen base → name ≠ base ++ "_sum"

structure Fits (ss : List Series) (s : Series) : Prop where
  kinds : ∀ t ∈ ss, t.entry = s.entry → t.plain = s.plain
  bucketed : ∀ t ∈ ss, t.plain = false →
    ∃ u ∈ ss, u.ofFamily t.family.1 = true ∧ u.role.isBucket = true
  opened : s.role = .count ∨ s.role = .sum →
    ∃ u ∈ ss, u.ofFamily s.family.1 = true ∧ u.role.isBucket = true

def Line.groups (line : Line) : List LineMatch := (line.series?.map Series.groups).toList

theorem name_mem_names (s : Series) : s.name ∈ s.role.kind.names s.family.1 := by
  unfold Series.name
  cases s.role <;> simp [Role.suffix, Role.kind, Kind.names]

theorem entry_mem_names (s : Series) : s.entry ∈ s.role.kind.names s.family.1 := by
  unfold Series.entry
  split_ifs with hs
  · exact name_mem_names s
  · cases s.role <;> simp [Role.kind, Kind.names]

theorem series?_eq_some {line : Line} {s : Series} : line.series? = some s ↔ line = .series s := by
  cases line with
  | series t => exact ⟨fun h => congrArg Line.series (Option.some.inj h), fun h => by cases h; rfl⟩
  | _ => exact ⟨fun h => (by cases h), fun h => (by cases h)⟩

theorem mem_series {page : Page} {s : Series} : s ∈ series page ↔ .series s ∈ page := by
  simp [series, List.mem_filterMap, series?_eq_some]

theorem role_of_histogram {s : Series} (h : s.plain = false) :
    s.role.isBucket = true ∨ s.role = .count ∨ s.role = .sum := by
  unfold Series.plain at h
  cases hr : s.role with
  | bucket le => exact .inl rfl
  | count => exact .inr (.inl rfl)
  | sum => exact .inr (.inr rfl)
  | _ => rw [hr] at h; cases h

theorem series_append (before after : Page) : series (before ++ after) = series before ++ series after :=
  List.filterMap_append

/-- In a well-formed page a line goes with the lines before it. -/
theorem WellFormed.fits {before after : Page} {s : Series}
    (h : WellFormed (before ++ .series s :: after)) : Fits (series before) s := by
  have hseries : ∀ t ∈ series before, t ∈ series (before ++ .series s :: after) := by
    intro t ht
    rw [series_append]
    exact List.mem_append_left _ ht
  have hs : s ∈ series (before ++ .series s :: after) := by
    rw [series_append]
    exact List.mem_append_right _ List.mem_cons_self
  have hbucket : ∀ t ∈ series before, t.plain = false →
      ∃ u ∈ series before, u.ofFamily t.family.1 = true ∧ u.role.isBucket = true := by
    intro t ht hplain
    rcases role_of_histogram hplain with hrole | hrole
    · exact ⟨t, ht, ofFamily_self t, hrole⟩
    · obtain ⟨b, a, rfl⟩ := List.append_of_mem (mem_series.mp ht)
      obtain ⟨u, hu, hfam, le, hle⟩ := h.bucketsFirst b t (a ++ .series s :: after) (by simp) hrole
      refine ⟨u, ?_, decide_eq_true hfam, by rw [hle]; rfl⟩
      rw [series_append]
      exact List.mem_append_left _ hu
  refine ⟨fun t ht hentry => ?_, hbucket, fun hrole => ?_⟩
  · by_cases hfam : t.family.1 = s.family.1
    · have hkind := h.kinds t (hseries t ht) s hs hfam
      unfold Series.plain
      rw [hkind]
    · exact absurd (hentry ▸ entry_mem_names s)
        (h.apart t (hseries t ht) s hs hfam (entry_mem_names t))
  · obtain ⟨u, hu, hfam, le, hle⟩ := h.bucketsFirst before s after rfl hrole
    exact ⟨u, hu, decide_eq_true hfam, by rw [hle]; rfl⟩

/-- What a page must keep to: comments that hide no line, label values and layout that the
expression can cut, bounds that the search finds, and names without a suffix it would act on. -/
structure Legible (page : Page) : Prop where
  comments : ∀ lead text, .comment lead text ∈ page →
    ∀ raw ∈ splitLines (lead.text ++ '#' :: text ++ ['\n']), readLine raw = none
  compact : ∀ s ∈ series page, s.Compact
  plain : ∀ s ∈ series page, ∀ l ∈ s.labelList, l.Plain
  bounds : ∀ s ∈ series page, ∀ le, s.role = .bucket le → Takes le.text.toList s.labelList
  names : ∀ before s after, page = before ++ .series s :: after → s.plain = true →
    FreeName (· ∈ entries before) s.name

theorem readings_blank (pad : Pad) : readings ((Line.blank pad).text ++ ['\n']) = [] := by
  have hbreak : ∀ c ∈ pad.text, isLineBreak c = false := by
    intro c hc
    rcases mem_pad hc with rfl | rfl <;> rfl
  have hhead : LINE pad.text = none := by
    refine LINE_of_head ?_
    cases pad with
    | nil => rfl
    | cons b pad => cases b <;> rfl
  have hread : readLine pad.text = none := by
    unfold readLine
    split_ifs
    · rfl
    · exact hhead
  change (splitLines (pad.text ++ ['\n'])).filterMap readLine = []
  rw [splitLines_line hbreak, List.filterMap_cons_none hread]
  rfl

theorem Legible.lines {page : Page} (hwf : WellFormed page) (h : Legible page) :
    ∀ line ∈ page, readings (line.text ++ ['\n']) = line.groups := by
  intro line hline
  cases line with
  | comment lead text =>
    exact List.filterMap_eq_nil_iff.mpr (h.comments lead text hline)
  | blank pad => exact readings_blank pad
  | series s =>
    have hs : s ∈ series page := mem_series.mpr hline
    exact (Series.readings_text_iff (hwf.lines s hs)).mpr ⟨h.compact s hs, h.plain s hs⟩

end Trimtab.Exposition
