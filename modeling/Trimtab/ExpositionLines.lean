import Trimtab.Exposition

set_option autoImplicit false

/-!
# One line of a page as `parse` reads it

A line is read as what it says when it is laid out without blanks before its name and its
labels, and no label value has a character that the expression or `splitlines` stops at.
-/
namespace Trimtab.Exposition
open MetricsText PyText

/-! ## Characters -/

theorem graphic_char {c : Char} (h : 33 ≤ c.toNat) (h' : c.toNat ≤ 126) :
    isSpace c = false ∧ isLineBreak c = false := by
  constructor
  · simp [isSpace]
    omega
  · simp [isLineBreak]
    omega

theorem isDigit_range {c : Char} (h : c.isDigit = true) : 48 ≤ c.toNat ∧ c.toNat ≤ 57 := by
  simp only [Char.isDigit, Bool.and_eq_true, decide_eq_true_eq, ge_iff_le,
    UInt32.le_iff_toNat_le] at h
  exact h

theorem nameChar_range {c : Char} (h : nameChar c = true) : 48 ≤ c.toNat ∧ c.toNat ≤ 122 := by
  simp only [nameChar, nameStart, Bool.or_eq_true, decide_eq_true_eq] at h
  rcases h with ((halpha | rfl) | rfl) | hdigit
  · change (decide (c.val ≥ 65 ∧ c.val ≤ 90) ||
      decide (c.val ≥ 97) && decide (c.val ≤ 122)) = true at halpha
    simp only [Bool.or_eq_true, Bool.and_eq_true, decide_eq_true_eq, ge_iff_le,
      UInt32.le_iff_toNat_le] at halpha
    change (65 ≤ c.toNat ∧ c.toNat ≤ 90) ∨ (97 ≤ c.toNat ∧ c.toNat ≤ 122) at halpha
    omega
  · decide
  · decide
  · have := isDigit_range hdigit
    omega

theorem valueChar_range {c : Char} (h : valueChar c = true) : 43 ≤ c.toNat ∧ c.toNat ≤ 110 := by
  simp only [valueChar, Bool.or_eq_true, List.contains_iff_mem] at h
  rcases h with hdigit | hmem
  · have := isDigit_range hdigit
    omega
  · have hall : ("-+.eEnaNIif".toList.all fun d => 43 ≤ d.toNat ∧ d.toNat ≤ 110) = true := by
      decide
    exact of_decide_eq_true (List.all_eq_true.mp hall c hmem)

theorem intToString_range {n : Int} {c : Char} (h : c ∈ (toString n).toList) :
    45 ≤ c.toNat ∧ c.toNat ≤ 57 := by
  have hdigits : ∀ m : Nat, c ∈ (toString m).toList → 45 ≤ c.toNat ∧ c.toNat ≤ 57 := fun m hm => by
    rw [Nat.toString_eq_repr, Nat.repr_eq_ofList_toDigits, String.toList_ofList] at hm
    have := isDigit_range (Nat.isDigit_of_mem_toDigits (by decide) (by decide) hm)
    omega
  cases n with
  | ofNat n => exact hdigits n h
  | negSucc n =>
    have hneg : toString (Int.negSucc n) = "-" ++ toString (n + 1) := rfl
    rw [hneg, String.toList_append, List.mem_append] at h
    rcases h with h | h
    · rw [List.mem_singleton.mp h]
      decide
    · exact hdigits (n + 1) h

theorem mem_pad {p : Pad} {c : Char} (h : c ∈ p.text) : c = ' ' ∨ c = '\t' := by
  obtain ⟨b, -, rfl⟩ := List.mem_map.mp h
  cases b
  · exact .inl rfl
  · exact .inr rfl

theorem isSpace_of_mem_pad {p : Pad} {c : Char} (h : c ∈ p.text) : isSpace c = true := by
  rcases mem_pad h with rfl | rfl <;> rfl

theorem pad_head {p : Pad} (h : p ≠ []) (rest : List Char) :
    (p.text ++ rest).head? = some ' ' ∨ (p.text ++ rest).head? = some '\t' := by
  cases p with
  | nil => exact absurd rfl h
  | cons b p =>
    cases b
    · exact .inl rfl
    · exact .inr rfl

theorem pad_eq_nil {p : Pad} : p.text = [] ↔ p = [] := List.map_eq_nil_iff

/-- A character that ends a line for Python, or the braces for the expression. -/
def stops (c : Char) : Bool := isLineBreak c || c = '\x7d'

theorem stops_eq_false {c : Char} (h : 33 ≤ c.toNat) (h' : c.toNat ≤ 124) : stops c = false := by
  have hne : c ≠ '\x7d' := by
    rintro rfl
    exact absurd h' (by decide)
  rw [stops, (graphic_char h (by omega)).2, Bool.false_or, decide_eq_false hne]

theorem stops_blank {p : Pad} {c : Char} (h : c ∈ p.text) : stops c = false := by
  rcases mem_pad h with rfl | rfl <;> rfl

theorem stops_nameChar {c : Char} (h : nameChar c = true) : stops c = false :=
  stops_eq_false (by have := nameChar_range h; omega) (by have := nameChar_range h; omega)

theorem stops_valueChar {c : Char} (h : valueChar c = true) : stops c = false :=
  stops_eq_false (by have := valueChar_range h; omega) (by have := valueChar_range h; omega)

/-- Escaping hides line feeds only. -/
theorem mem_escape {value : List Char} {c : Char} (h : stops c = true) :
    c ∈ escape value ↔ c ∈ value ∧ c ≠ '\n' := by
  have hne : ∀ d : Char, stops d = false → c ≠ d := by
    rintro d hd rfl
    rw [h] at hd
    cases hd
  have hone : ∀ d : Char, c ∈ escapeChar d ↔ c = d ∧ c ≠ '\n' := by
    intro d
    unfold escapeChar
    split_ifs with hslash hquote hline
    · subst hslash
      simp [hne '\\' rfl]
    · subst hquote
      simp [hne '\\' rfl, hne '"' rfl]
    · subst hline
      simp [hne '\\' rfl, hne 'n' rfl]
    · rw [List.mem_singleton]
      exact ⟨fun he => ⟨he, he ▸ hline⟩, And.left⟩
  simp only [escape, List.mem_flatMap, hone]
  constructor
  · rintro ⟨d, hd, rfl, hn⟩
    exact ⟨hd, hn⟩
  · rintro ⟨hc, hn⟩
    exact ⟨c, hc, rfl, hn⟩

theorem nameChar_of_isMetricName {cs : List Char} (h : isMetricName cs = true) :
    ∀ c ∈ cs, nameChar c = true := by
  rw [isMetricName, Bool.and_eq_true, List.all_eq_true] at h
  exact h.2

theorem nameChar_label (name : LabelName) : ∀ c ∈ name.1, nameChar c = true := by
  have h := name.2
  rw [isLabelName, Bool.and_eq_true] at h
  exact nameChar_of_isMetricName h.1

theorem mem_label {l : Label} {c : Char} (h : stops c = true) :
    c ∈ l.text ↔ c ∈ l.value ∧ c ≠ '\n' := by
  have hpad : ∀ p : Pad, c ∉ p.text := fun p hc => by
    rw [stops_blank hc] at h
    cases h
  have hname : c ∉ l.name.1 := fun hc => by
    rw [stops_nameChar (nameChar_label l.name c hc)] at h
    cases h
  have hquote : c ≠ '"' := by
    rintro rfl
    cases h
  have heq : c ≠ '=' := by
    rintro rfl
    cases h
  simp [Label.text, Label.front, hpad, hname, hquote, heq, mem_escape h]

theorem mem_labelsText {comma : Bool} {trail : Pad} {ls : List Label} {c : Char}
    (h : stops c = true) :
    c ∈ labelsText comma trail ls ↔ ∃ l ∈ ls, c ∈ l.value ∧ c ≠ '\n' := by
  have hpad : c ∉ trail.text := fun hc => by
    rw [stops_blank hc] at h
    cases h
  have hcomma : c ≠ ',' := by
    rintro rfl
    cases h
  induction ls with
  | nil => simp [labelsText, hpad]
  | cons l ls ih =>
    have hsep : c ∉ (if ls.isEmpty && !comma then [] else [',']) := by
      split_ifs <;> simp [hcomma]
    simp only [labelsText, List.mem_append, hsep, or_false, mem_label h, List.exists_mem_cons_iff]
    exact or_congr_right ih

/-! ## A line cut out and matched -/

def matched (name : List Char) (p : List Char × List Char) : Option LineMatch :=
  let value := (p.2.dropWhile isSpace).takeWhile valueChar
  if p.2.head?.any isSpace && !value.isEmpty then
    some ⟨String.ofList name, p.1, String.ofList value⟩
  else none

theorem LINE_append {name rest : List Char} (hname : isMetricName name = true)
    (hrest : rest.head?.any nameChar = false) :
    LINE (name ++ rest) = matched name (labelGroup rest) := by
  have hchars := nameChar_of_isMetricName hname
  rw [isMetricName, Bool.and_eq_true] at hname
  have hhead : (name ++ rest).head?.any nameStart = true := by
    cases name with
    | nil => cases hname.1
    | cons c name => exact hname.1
  simp only [LINE, takeWhile_stop hchars hrest, dropWhile_stop hchars hrest, hhead, Bool.true_and]
  rfl

theorem labelGroup_braces {inner : List Char} (h : '\x7d' ∉ inner) (after : List Char) :
    labelGroup ('\x7b' :: inner ++ '\x7d' :: after) = ('\x7b' :: inner ++ ['\x7d'], after) := by
  simp only [labelGroup, List.cons_append, cut_of_notMem h]

theorem labelGroup_plain {rest : List Char} (h : rest.head? ≠ some '\x7b') :
    labelGroup rest = ([], rest) := by
  cases rest with
  | nil => rfl
  | cons c rest =>
    have hc : c ≠ '\x7b' := fun he => h (congrArg some he)
    unfold labelGroup
    split
    · rename_i he
      exact absurd (List.cons.inj he).1 hc
    · rfl

/-- The name starts the line, and a label set stands at the name and apart from the number. -/
structure Series.Compact (s : Series) : Prop where
  lead : s.lead = []
  labels : s.labels.isSome → s.beforeLabels = [] ∧ s.gap ≠ []

/-- No value has a closing brace, or ends a line for Python. -/
def Label.Plain (l : Label) : Prop := ∀ c ∈ l.value, stops c = true → c = '\n'

instance (l : Label) : Decidable l.Plain :=
  List.decidableBAll (fun c => stops c = true → c = '\n') l.value

namespace Series

def behind (s : Series) : List Char := s.stampText ++ s.trail.text

def afterLabels (s : Series) : List Char := s.gap.text ++ (s.value.text.toList ++ s.behind)

def afterName (s : Series) : List Char :=
  (if s.labels.isSome then s.beforeLabels.text else []) ++ (s.labelText ++ s.afterLabels)

theorem text_eq (s : Series) : s.text = s.lead.text ++ (s.name.toList ++ s.afterName) := by
  simp only [text, afterName, afterLabels, behind, List.append_assoc]

def groups (s : Series) : LineMatch := ⟨s.name, s.labelText, s.value.text⟩

theorem isMetricName_name (s : Series) : isMetricName s.name.toList = true := by
  have hf := s.family.2
  have hs : s.role.suffix.toList.all nameChar = true := by
    cases s.role with
    | bucket le => exact (by decide : "_bucket".toList.all nameChar = true)
    | _ => decide
  rw [isMetricName, Bool.and_eq_true] at hf ⊢
  rw [name, String.toList_append, List.all_append, hf.2, hs, List.head?_append]
  refine ⟨?_, rfl⟩
  cases hcs : s.family.1.toList with
  | nil => rw [hcs] at hf; cases hf.1
  | cons c cs => rw [hcs] at hf; exact hf.1

end Series

theorem Number.text_ne_nil (x : Number) : x.text.toList ≠ [] := by
  intro h
  have hempty : x.text = "" := String.toList_eq_nil_iff.mp h
  have hreads := x.reads
  rw [hempty] at hreads
  cases hreads

theorem matched_number {name labels gap behind : List Char} (x : Number) (hgap : gap ≠ [])
    (hspace : ∀ c ∈ gap, isSpace c = true) (hbehind : behind.head?.any valueChar = false) :
    matched name (labels, gap ++ (x.text.toList ++ behind)) =
      some ⟨String.ofList name, labels, x.text⟩ := by
  have hmade : ∀ c ∈ x.text.toList, valueChar c = true := List.all_eq_true.mp x.made
  have hfirst : (x.text.toList ++ behind).head?.any isSpace = false := by
    cases hx : x.text.toList with
    | nil => exact absurd hx x.text_ne_nil
    | cons c cs =>
      have hr := valueChar_range (hmade c (hx ▸ List.mem_cons_self))
      exact (graphic_char (by omega) (by omega)).1
  have hhead : (gap ++ (x.text.toList ++ behind)).head?.any isSpace = true := by
    cases gap with
    | nil => exact absurd rfl hgap
    | cons c cs => exact hspace c List.mem_cons_self
  have hne : x.text.toList.isEmpty = false := by
    rw [List.isEmpty_eq_false_iff]
    exact x.text_ne_nil
  simp only [matched, dropWhile_stop hspace hfirst, takeWhile_stop hmade hbehind, hhead, hne,
    Bool.not_false, Bool.and_self, if_true, String.ofList_toList]

namespace Series

variable {s : Series}

theorem behind_head (h : s.WellFormed) : s.behind.head?.any valueChar = false := by
  have hpad : ∀ (p : Pad) (rest : List Char), p ≠ [] → (p.text ++ rest).head?.any valueChar = false := by
    intro p rest hp
    rcases pad_head hp rest with hc | hc <;> rw [hc] <;> rfl
  unfold behind stampText
  cases hstamp : s.stamp with
  | none =>
    rw [Option.map_none, Option.getD_none, List.nil_append]
    by_cases htrail : s.trail = []
    · rw [htrail]
      rfl
    · have := hpad s.trail [] htrail
      rwa [List.append_nil] at this
  | some p =>
    simp only [Option.map_some, Option.getD_some, List.append_assoc]
    exact hpad p.1 _ (h.stamp p hstamp)

theorem afterLabels_head (h : s.gap ≠ []) : s.afterLabels.head?.any nameChar = false ∧
    s.afterLabels.head? ≠ some '\x7b' := by
  unfold afterLabels
  rcases pad_head h (s.value.text.toList ++ s.behind) with hc | hc <;> rw [hc] <;>
    exact ⟨rfl, by decide⟩

/-- Laid out as the expression wants it, a line matches with its own groups. -/
theorem LINE_text (h : s.WellFormed) (hc : s.Compact) (hp : ∀ l ∈ s.labelList, '\x7d' ∉ l.value) :
    LINE s.text = some s.groups := by
  have hspace : ∀ c ∈ s.gap.text, isSpace c = true := fun c hc => isSpace_of_mem_pad hc
  have hgroups : some s.groups = some ⟨String.ofList s.name.toList, s.labelText, s.value.text⟩ := by
    rw [groups, String.ofList_toList]
  rw [text_eq, hc.lead, hgroups]
  change LINE (s.name.toList ++ s.afterName) = _
  cases hlabels : s.labels with
  | none =>
    have hgap := h.gap hlabels
    have hhead := afterLabels_head hgap
    have hafter : s.afterName = s.afterLabels := by
      simp [afterName, labelText, hlabels]
    have htext : s.labelText = [] := by
      simp [labelText, hlabels]
    rw [hafter, LINE_append s.isMetricName_name hhead.1, labelGroup_plain hhead.2, htext]
    exact matched_number s.value (fun he => hgap (pad_eq_nil.mp he)) hspace (behind_head h)
  | some ls =>
    obtain ⟨hbefore, hgap⟩ := hc.labels (hlabels ▸ rfl)
    have htext : s.labelText = '\x7b' :: ls.inner ++ ['\x7d'] := by
      rw [labelText, hlabels]
      rfl
    have hafter : s.afterName = '\x7b' :: ls.inner ++ '\x7d' :: s.afterLabels := by
      simp [afterName, hbefore, hlabels, htext, Pad.text]
    have hinner : '\x7d' ∉ ls.inner := by
      rw [LabelSet.inner, mem_labelsText rfl]
      rintro ⟨l, hl, hmem, -⟩
      exact hp l (by rw [labelList, hlabels]; exact hl) hmem
    rw [hafter, LINE_append s.isMetricName_name rfl, labelGroup_braces hinner, htext]
    exact matched_number s.value (fun he => hgap (pad_eq_nil.mp he)) hspace (behind_head h)

end Series

theorem LINE_of_head {raw : List Char} (h : raw.head?.any nameStart = false) : LINE raw = none := by
  simp [LINE, h]

theorem matched_inv {name : List Char} {p : List Char × List Char} {m : LineMatch}
    (h : matched name p = some m) : m.labels = p.1 ∧ p.2.head?.any isSpace = true := by
  simp only [matched] at h
  split_ifs at h with hc
  rw [Bool.and_eq_true] at hc
  exact ⟨congrArg LineMatch.labels (Option.some.inj h).symm, hc.1⟩

theorem LINE_of_readLine {raw : List Char} {m : LineMatch} (h : readLine raw = some m) :
    LINE raw = some m := by
  unfold readLine at h
  split_ifs at h
  exact h

theorem readLine_of_LINE {raw : List Char} {m : LineMatch} (h : LINE raw = some m) :
    readLine raw = some m := by
  have hhead : raw.head?.any nameStart = true := by
    by_contra hne
    rw [LINE_of_head (Bool.eq_false_iff.mpr hne)] at h
    cases h
  have hskip : ¬(raw.isEmpty || raw.head? = some '#') = true := by
    cases raw with
    | nil => cases hhead
    | cons c raw =>
      rw [List.isEmpty_cons, Bool.false_or, decide_eq_true_eq, List.head?_cons, Option.some.injEq]
      rintro rfl
      cases hhead
  rw [readLine, if_neg hskip, h]

/-- The label group is a part of the line. -/
theorem labels_subset {raw : List Char} {m : LineMatch} (h : LINE raw = some m) :
    m.labels ⊆ raw := by
  have hgroup : ∀ cs : List Char, (labelGroup cs).1 ⊆ cs := by
    intro cs
    unfold labelGroup
    split
    · rename_i cs
      split
      · rename_i inside after hcut
        rw [(cut_eq_some.mp hcut).1]
        intro c hc
        simp only [List.cons_append, List.mem_cons, List.mem_append, List.not_mem_nil,
          or_false] at hc ⊢
        tauto
      · exact List.nil_subset _
    · exact List.nil_subset _
  simp only [LINE] at h
  split_ifs at h
  rw [← Option.some.inj h]
  exact fun c hc => List.dropWhile_subset _ (hgroup _ hc)

theorem labelGroup_inner {inner after : List Char}
    (h : (labelGroup ('\x7b' :: inner ++ '\x7d' :: after)).1 = '\x7b' :: inner ++ ['\x7d']) :
    '\x7d' ∉ inner := by
  intro hmem
  -- the group ends at the first closing brace
  obtain ⟨before, rest, rfl, hbefore⟩ := List.eq_append_cons_of_mem hmem
  have hsplit : '\x7b' :: (before ++ '\x7d' :: rest) ++ '\x7d' :: after =
      '\x7b' :: before ++ '\x7d' :: (rest ++ '\x7d' :: after) := by simp
  rw [hsplit, labelGroup_braces hbefore] at h
  simp at h

namespace Series

variable {s : Series}

theorem afterLabels_of_gap (h : s.gap = []) : s.afterLabels.head?.any isSpace = false := by
  have hmade := List.all_eq_true.mp s.value.made
  rw [afterLabels, h]
  cases hx : s.value.text.toList with
  | nil => exact absurd hx s.value.text_ne_nil
  | cons c cs =>
    have hr := valueChar_range (hmade c (hx ▸ List.mem_cons_self))
    exact (graphic_char (by omega) (by omega)).1

theorem compact_of_LINE (hl : LINE s.text = some s.groups) :
    s.Compact ∧ ∀ l ∈ s.labelList, '\x7d' ∉ l.value := by
  have hlead : s.lead = [] := by
    by_contra hne
    have hhead : s.text.head?.any nameStart = false := by
      rw [text_eq]
      rcases pad_head hne (s.name.toList ++ s.afterName) with hc | hc <;> rw [hc] <;> rfl
    rw [LINE_of_head hhead] at hl
    cases hl
  have htext : s.text = s.name.toList ++ s.afterName := by
    rw [text_eq, hlead]
    rfl
  rw [htext] at hl
  cases hlabels : s.labels with
  | none =>
    refine ⟨⟨hlead, fun h => ?_⟩, fun l hmem => ?_⟩
    · rw [hlabels] at h
      cases h
    · rw [labelList, hlabels] at hmem
      cases hmem
  | some ls =>
    have hset : s.labelText = '\x7b' :: ls.inner ++ ['\x7d'] := by
      rw [labelText, hlabels]
      rfl
    have hbefore : s.beforeLabels = [] := by
      by_contra hne
      have hafter : s.afterName = s.beforeLabels.text ++ (s.labelText ++ s.afterLabels) := by
        simp [afterName, hlabels]
      have hhead : s.afterName.head?.any nameChar = false ∧ s.afterName.head? ≠ some '\x7b' := by
        rw [hafter]
        rcases pad_head hne (s.labelText ++ s.afterLabels) with hc | hc <;> rw [hc] <;>
          exact ⟨rfl, by decide⟩
      rw [LINE_append s.isMetricName_name hhead.1, labelGroup_plain hhead.2] at hl
      have hnil : s.labelText = [] := (matched_inv hl).1
      rw [hset] at hnil
      cases hnil
    have hafter : s.afterName = '\x7b' :: ls.inner ++ '\x7d' :: s.afterLabels := by
      simp [afterName, hbefore, hlabels, hset, Pad.text]
    rw [hafter, LINE_append s.isMetricName_name rfl] at hl
    have hinner : '\x7d' ∉ ls.inner := labelGroup_inner ((matched_inv hl).1.symm.trans hset)
    rw [labelGroup_braces hinner] at hl
    refine ⟨⟨hlead, fun _ => ⟨hbefore, fun hgap => ?_⟩⟩, fun l hmem hbrace => hinner ?_⟩
    · have hspace := (matched_inv hl).2
      rw [afterLabels_of_gap hgap] at hspace
      cases hspace
    · rw [LabelSet.inner, mem_labelsText rfl]
      rw [labelList, hlabels] at hmem
      exact ⟨l, hmem, hbrace, by decide⟩

theorem mem_labelText {c : Char} (hc : isLineBreak c = true) :
    c ∈ s.labelText ↔ ∃ l ∈ s.labelList, c ∈ l.value ∧ c ≠ '\n' := by
  have hbrace : ∀ d : Char, isLineBreak d = false → c ≠ d := by
    rintro d hd rfl
    rw [hd] at hc
    cases hc
  unfold labelText labelList
  cases s.labels with
  | none => simp
  | some ls =>
    simp only [Option.map_some, Option.getD_some, LabelSet.text, List.mem_append, List.mem_cons,
      hbrace '\x7b' rfl, hbrace '\x7d' rfl, List.not_mem_nil, false_or, or_false]
    exact mem_labelsText (by rw [stops, hc, Bool.true_or])

/-- Only label values can end a line for Python. -/
theorem mem_text {c : Char} (hc : isLineBreak c = true) :
    c ∈ s.text ↔ ∃ l ∈ s.labelList, c ∈ l.value ∧ c ≠ '\n' := by
  have hstop : stops c = true := by rw [stops, hc, Bool.true_or]
  have hpad : ∀ p : Pad, c ∉ p.text := fun p hm => by
    rw [stops_blank hm] at hstop
    cases hstop
  have hname : c ∉ s.name.toList := fun hm => by
    rw [stops_nameChar (nameChar_of_isMetricName s.isMetricName_name c hm)] at hstop
    cases hstop
  have hvalue : c ∉ s.value.text.toList := fun hm => by
    rw [stops_valueChar (List.all_eq_true.mp s.value.made c hm)] at hstop
    cases hstop
  have hint : ∀ n : Int, c ∉ (toString n).toList := fun n hm => by
    have hr := intToString_range hm
    rw [(graphic_char (by omega) (by omega)).2] at hc
    cases hc
  have hstamp : c ∉ s.stampText := by
    unfold stampText
    cases s.stamp with
    | none => exact List.not_mem_nil
    | some p =>
      rw [Option.map_some, Option.getD_some, List.mem_append, not_or]
      exact ⟨hpad p.1, hint p.2⟩
  have hbefore : c ∉ (if s.labels.isSome then s.beforeLabels.text else []) := by
    split_ifs
    · exact hpad _
    · exact List.not_mem_nil
  simp only [text, List.mem_append, hpad, hname, hvalue, hstamp, hbefore, mem_labelText hc,
    or_false, false_or]

/-- A line is cut out and matched as what it says exactly when it is compact and its label
values are plain. -/
theorem readings_text_iff (h : s.WellFormed) : readings (s.text ++ ['\n']) = [s.groups] ↔
    s.Compact ∧ ∀ l ∈ s.labelList, l.Plain := by
  have hwhole : (∀ l ∈ s.labelList, ∀ c ∈ l.value, isLineBreak c = true → c = '\n') →
      splitLines (s.text ++ ['\n']) = [s.text] := by
    refine fun hbreaks => splitLines_line fun c hc => Bool.eq_false_iff.mpr fun hbreak => ?_
    obtain ⟨l, hl, hmem, hne⟩ := (mem_text hbreak).mp hc
    exact hne (hbreaks l hl c hmem hbreak)
  constructor
  · intro hread
    have hmem : s.groups ∈ readings (s.text ++ ['\n']) := hread ▸ List.mem_singleton_self _
    obtain ⟨piece, hpiece, hmatch⟩ := List.mem_filterMap.mp hmem
    have hbreaks : ∀ l ∈ s.labelList, ∀ c ∈ l.value, isLineBreak c = true → c = '\n' := by
      intro l hl c hc hbreak
      by_contra hne
      have hlabels : c ∈ s.labelText := (mem_labelText hbreak).mpr ⟨l, hl, hc, hne⟩
      have hin : c ∈ piece := labels_subset (LINE_of_readLine hmatch) hlabels
      rw [splitLines_no_break hpiece c hin] at hbreak
      cases hbreak
    have hline : LINE s.text = some s.groups := by
      rw [hwhole hbreaks, List.mem_singleton] at hpiece
      exact LINE_of_readLine (hpiece ▸ hmatch)
    obtain ⟨hcompact, hbraces⟩ := compact_of_LINE hline
    refine ⟨hcompact, fun l hl c hc hstop => ?_⟩
    rw [stops, Bool.or_eq_true, decide_eq_true_eq] at hstop
    rcases hstop with hbreak | rfl
    · exact hbreaks l hl c hc hbreak
    · exact absurd hc (hbraces l hl)
  · rintro ⟨hcompact, hplain⟩
    have hbreaks : ∀ l ∈ s.labelList, ∀ c ∈ l.value, isLineBreak c = true → c = '\n' :=
      fun l hl c hc hbreak => hplain l hl c hc (by rw [stops, hbreak, Bool.true_or])
    have hbraces : ∀ l ∈ s.labelList, '\x7d' ∉ l.value :=
      fun l hl hc => absurd (hplain l hl _ hc rfl) (by decide)
    have hline := LINE_text h hcompact hbraces
    rw [readings, hwhole hbreaks, List.filterMap_cons_some (readLine_of_LINE hline)]
    rfl

end Series

end Trimtab.Exposition
