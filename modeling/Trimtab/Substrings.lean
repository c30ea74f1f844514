import Mathlib.Data.List.Infix
import Mathlib.Data.List.DropRight

set_option autoImplicit false

/-!
# Counting and replacing a piece of a text

`str.count` and `str.replace` take the occurrences that do not overlap, from the left.
-/
namespace Substrings

variable {α : Type} [DecidableEq α]

/-- Occurrences of `needle`, where the next `skip` characters belong to the last one found. -/
def countFrom (needle : List α) : Nat → List α → Nat
  | _, [] => 0
  | skip + 1, _ :: cs => countFrom needle skip cs
  | 0, c :: cs =>
    if needle <+: c :: cs then countFrom needle (needle.length - 1) cs + 1
    else countFrom needle 0 cs

/-- `text.count(needle)` for a `needle` that is not empty. -/
def count (needle text : List α) : Nat := countFrom needle 0 text

/-- `text.replace(needle, piece, 1)` -/
def replaceFirst (needle piece : List α) : List α → List α
  | [] => []
  | c :: cs =>
    if needle <+: c :: cs then piece ++ (c :: cs).drop needle.length
    else c :: replaceFirst needle piece cs

def replaceFrom (needle piece : List α) : Nat → List α → List α
  | _, [] => []
  | skip + 1, _ :: cs => replaceFrom needle piece skip cs
  | 0, c :: cs =>
    if needle <+: c :: cs then piece ++ replaceFrom needle piece (needle.length - 1) cs
    else c :: replaceFrom needle piece 0 cs

/-- `text.replace(needle, piece)` -/
def replaceAll (needle piece text : List α) : List α := replaceFrom needle piece 0 text

theorem replaceFirst_split (needle : List α) {text : List α} (h : needle <:+: text)
    (hne : needle ≠ []) : ∃ front back, text = front ++ needle ++ back ∧
      ∀ piece, replaceFirst needle piece text = front ++ piece ++ back := by
  induction text with
  | nil => exact absurd (List.infix_nil.mp h) hne
  | cons c cs ih =>
    by_cases hhere : needle <+: c :: cs
    · obtain ⟨back, hback⟩ := hhere
      refine ⟨[], back, by rw [List.nil_append, hback], fun piece => ?_⟩
      rw [replaceFirst, if_pos ⟨back, hback⟩, ← hback, List.drop_left, List.nil_append]
    · have hlater : needle <:+: cs := (List.infix_cons_iff.mp h).resolve_left hhere
      obtain ⟨front, back, hsplit, hreplace⟩ := ih hlater
      refine ⟨c :: front, back, by rw [hsplit]; rfl, fun piece => ?_⟩
      rw [replaceFirst, if_neg hhere, hreplace]
      rfl

theorem replaceFirst_absent {needle text : List α} (h : ¬needle <:+: text) (piece : List α) :
    replaceFirst needle piece text = text := by
  induction text with
  | nil => rfl
  | cons c cs ih =>
    rw [List.infix_cons_iff, not_or] at h
    rw [replaceFirst, if_neg h.1, ih h.2]

theorem infix_of_countFrom {needle : List α} {skip : Nat} {text : List α}
    (h : countFrom needle skip text ≠ 0) : needle <:+: text := by
  induction text generalizing skip with
  | nil =>
    rw [countFrom] at h
    exact absurd rfl h
  | cons c cs ih =>
    cases skip with
    | succ skip => exact List.infix_cons (ih h)
    | zero =>
      by_cases hhere : needle <+: c :: cs
      · exact hhere.isInfix
      · rw [countFrom, if_neg hhere] at h
        exact List.infix_cons (ih h)

theorem infix_of_count {needle text : List α} (h : count needle text ≠ 0) : needle <:+: text :=
  infix_of_countFrom h

theorem replaceFrom_length {needle piece : List α} (hsame : piece.length = needle.length)
    (hne : needle ≠ []) (skip : Nat) (text : List α) (hskip : skip ≤ text.length) :
    (replaceFrom needle piece skip text).length + skip = text.length := by
  have hpos : 0 < needle.length := List.length_pos_iff.mpr hne
  induction text generalizing skip with
  | nil =>
    rw [replaceFrom]
    exact Nat.le_zero.mp hskip ▸ rfl
  | cons c cs ih =>
    cases skip with
    | succ skip =>
      have := ih skip (Nat.le_of_succ_le_succ hskip)
      rw [replaceFrom, List.length_cons]
      omega
    | zero =>
      rw [replaceFrom]
      split_ifs with hhere
      · have hlen := hhere.length_le
        rw [List.length_cons] at hlen
        have := ih (needle.length - 1) (by omega)
        rw [List.length_append, List.length_cons]
        omega
      · have := ih 0 (Nat.zero_le _)
        rw [List.length_cons, List.length_cons]
        omega

theorem replaceAll_length {needle piece : List α} (hsame : piece.length = needle.length)
    (hne : needle ≠ []) (text : List α) : (replaceAll needle piece text).length = text.length :=
  replaceFrom_length hsame hne 0 text (Nat.zero_le _)

/-- A replacement that differs leaves a trace of the first occurrence. -/
theorem replaceAll_ne {needle piece text : List α} (hsame : piece.length = needle.length)
    (hdiff : piece ≠ needle) (h : needle <:+: text) : replaceAll needle piece text ≠ text := by
  have hne : needle ≠ [] := fun hnil => hdiff (by
    rw [hnil, List.length_nil, List.length_eq_zero_iff] at hsame
    rw [hsame, hnil])
  induction text with
  | nil => exact absurd (List.infix_nil.mp h) hne
  | cons c cs ih =>
    rw [replaceAll, replaceFrom]
    split_ifs with hhere
    · obtain ⟨back, hback⟩ := hhere
      rw [← hback]
      exact fun heq => hdiff (List.append_inj_left heq hsame)
    · have hlater : needle <:+: cs := (List.infix_cons_iff.mp h).resolve_left hhere
      exact fun heq => ih hlater (List.cons.inj heq).2

theorem replaceFrom_eq_nil {needle piece : List α} (hpiece : piece ≠ []) {text : List α}
    (h : replaceFrom needle piece 0 text = []) : text = [] := by
  cases text with
  | nil => rfl
  | cons c cs =>
    rw [replaceFrom] at h
    split_ifs at h with hhere
    · exact absurd (List.append_eq_nil_iff.mp h).1 hpiece

/-- The last character stays where text and piece end with the same one. -/
theorem replaceFrom_getLast {needle piece : List α} {last : α} (hpiece : piece.getLast? = some last)
    (skip : Nat) {text : List α} (htext : ∀ c ∈ text.getLast?, c = last) :
    ∀ c ∈ (replaceFrom needle piece skip text).getLast?, c = last := by
  induction text generalizing skip with
  | nil =>
    intro c hc
    cases skip <;> cases hc
  | cons d ds ih =>
    have hds : ∀ c ∈ ds.getLast?, c = last := by
      intro c hc
      refine htext c ?_
      cases ds with
      | nil => cases hc
      | cons e es => rwa [List.getLast?_cons_cons]
    cases skip with
    | succ skip => exact ih skip hds
    | zero =>
      rw [replaceFrom]
      split_ifs with hhere
      · intro c hc
        rw [List.getLast?_append, hpiece] at hc
        cases hrest : (replaceFrom needle piece (needle.length - 1) ds).getLast? with
        | none =>
          rw [hrest] at hc
          exact (Option.some.inj hc).symm
        | some e =>
          rw [hrest] at hc
          exact Option.some.inj hc ▸ ih _ hds e hrest
      · intro c hc
        cases hrest : replaceFrom needle piece 0 ds with
        | nil =>
          have hne : piece ≠ [] := fun hnil => by
            rw [hnil] at hpiece
            cases hpiece
          rw [replaceFrom_eq_nil hne hrest] at htext
          rw [hrest] at hc
          exact htext c hc
        | cons e es =>
          rw [hrest, List.getLast?_cons_cons, ← hrest] at hc
          exact ih 0 hds c hc

section Line

variable {w : List α} {sep : α}

omit [DecidableEq α] in
/-- A piece that ends at its only separator cannot reach over one. -/
theorem prefix_within (hsep : sep ∉ w) (x y : List α) :
    w ++ [sep] <+: x ++ sep :: y ↔ w ++ [sep] <+: x ++ [sep] := by
  have hcut : x ++ [sep] <+: x ++ sep :: y := ⟨y, by rw [List.append_assoc]; rfl⟩
  constructor
  · intro h
    by_cases hlen : w.length ≤ x.length
    · refine List.prefix_of_prefix_length_le h hcut ?_
      rw [List.length_append, List.length_append]
      exact Nat.add_le_add_right hlen 1
    · have hw : w <+: x ++ sep :: y := (List.prefix_append w [sep]).trans h
      have hx : x ++ [sep] <+: w := by
        refine List.prefix_of_prefix_length_le hcut hw ?_
        rw [List.length_append, List.length_singleton]
        omega
      exact absurd (hx.subset (List.mem_append_right x (List.mem_singleton_self sep))) hsep
  · exact fun h => h.trans hcut

theorem countFrom_append (hsep : sep ∉ w) (skip : Nat) (x y : List α) (hskip : skip ≤ x.length + 1) :
    countFrom (w ++ [sep]) skip (x ++ sep :: y) =
      countFrom (w ++ [sep]) skip (x ++ [sep]) + countFrom (w ++ [sep]) 0 y := by
  induction x generalizing skip with
  | nil =>
    cases skip with
    | succ skip =>
      have hzero : skip = 0 := by
        rw [List.length_nil] at hskip
        omega
      rw [hzero, List.nil_append, List.nil_append, countFrom, countFrom, countFrom, Nat.zero_add]
    | zero =>
      have hiff := prefix_within hsep [] y
      rw [List.nil_append, List.nil_append] at hiff ⊢
      rw [countFrom, countFrom]
      by_cases hhere : w ++ [sep] <+: [sep]
      · have hlen := hhere.length_le
        rw [List.length_append, List.length_singleton] at hlen
        have hw : (w ++ [sep]).length - 1 = 0 := by
          rw [List.length_append, List.length_singleton]
          omega
        rw [if_pos (hiff.mpr hhere), if_pos hhere, hw, countFrom]
        omega
      · rw [if_neg (mt hiff.mp hhere), if_neg hhere, countFrom, Nat.zero_add]
  | cons c x ih =>
    rw [List.length_cons] at hskip
    cases skip with
    | succ skip =>
      rw [List.cons_append, List.cons_append, countFrom, countFrom]
      exact ih skip (by omega)
    | zero =>
      have hiff := prefix_within hsep (c :: x) y
      rw [List.cons_append, List.cons_append] at hiff ⊢
      rw [countFrom, countFrom]
      by_cases hhere : w ++ [sep] <+: c :: (x ++ [sep])
      · have hfit : (w ++ [sep]).length - 1 ≤ x.length + 1 := by
          have hlen := hhere.length_le
          simp only [List.length_append, List.length_cons, List.length_nil] at hlen ⊢
          omega
        rw [if_pos (hiff.mpr hhere), if_pos hhere, ih _ hfit]
        omega
      · rw [if_neg (mt hiff.mp hhere), if_neg hhere]
        exact ih 0 (Nat.zero_le _)

/-- Such pieces are counted line by line. -/
theorem count_append (hsep : sep ∉ w) (x y : List α) :
    count (w ++ [sep]) (x ++ sep :: y) = count (w ++ [sep]) (x ++ [sep]) + count (w ++ [sep]) y :=
  countFrom_append hsep 0 x y (Nat.zero_le _)

/-- Lines put in after a line change the count by what they hold. -/
theorem count_insert (hsep : sep ∉ w) (before more back : List α) :
    count (w ++ [sep]) (before ++ [sep] ++ (more ++ [sep]) ++ back) =
      count (w ++ [sep]) (before ++ [sep] ++ back) + count (w ++ [sep]) (more ++ [sep]) := by
  rw [List.append_assoc, List.append_assoc, List.append_assoc, List.append_assoc,
    List.singleton_append, List.singleton_append, count_append hsep,
    count_append hsep more, count_append hsep before back]
  omega

/-- Lines put in after a replaced line do not change the count of what they do not hold. -/
theorem count_replaceFirst (hsep : sep ∉ w) {old more : List α} (hold : old.getLast? = some sep)
    (hmore : more.getLast? = some sep) (hnone : count (w ++ [sep]) more = 0) (text : List α) :
    count (w ++ [sep]) (replaceFirst old (old ++ more) text) = count (w ++ [sep]) text := by
  by_cases h : old <:+: text
  · have hne : old ≠ [] := fun hnil => by
      rw [hnil] at hold
      cases hold
    obtain ⟨front, back, htext, hreplace⟩ := replaceFirst_split old h hne
    obtain ⟨oldLine, rfl⟩ := List.getLast?_eq_some_iff.mp hold
    obtain ⟨moreLines, rfl⟩ := List.getLast?_eq_some_iff.mp hmore
    have hinsert := count_insert hsep (front ++ oldLine) moreLines back
    rw [hnone, Nat.add_zero] at hinsert
    rw [hreplace, htext]
    simpa only [List.append_assoc] using hinsert
  · rw [replaceFirst_absent h]

end Line

end Substrings
