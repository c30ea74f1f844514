import Mathlib.Data.List.TakeWhile
import Trimtab.PyNumbers

set_option autoImplicit false

/-! Lines of a text, and what stands before and after a mark in it, as `str` cuts them. -/
namespace PyText

/-- Where `str.splitlines` ends a line. -/
def isLineBreak (c : Char) : Bool :=
  let n := c.toNat
  decide (10 ≤ n ∧ n ≤ 13) || decide (28 ≤ n ∧ n ≤ 30) || [0x85, 0x2028, 0x2029].contains n

def onto (c : Char) : List (List Char) → List (List Char)
  | [] => [[c]]
  | l :: ls => (c :: l) :: ls

/-- `text.splitlines()`, where a carriage return with a line feed is one break. -/
def splitLines : List Char → List (List Char)
  | [] => []
  | c :: cs =>
    if isLineBreak c then
      if c = '\r' ∧ cs.head? = some '\n' then splitLines cs else [] :: splitLines cs
    else onto c (splitLines cs)

/-- A text constant, character by character. -/
theorem toList_literal {s : String} {l : List Char} (h : s = String.ofList l) : s.toList = l := by
  rw [h, String.toList_ofList]

theorem splitLines_of_not {c : Char} (h : isLineBreak c = false) (cs : List Char) :
    splitLines (c :: cs) = onto c (splitLines cs) := by
  rw [splitLines, h, if_neg Bool.false_ne_true]

theorem splitLines_ne_nil {cs : List Char} (h : cs ≠ []) : splitLines cs ≠ [] := by
  induction cs with
  | nil => exact absurd rfl h
  | cons c cs ih =>
    rw [splitLines]
    split_ifs with hbreak hcr
    · refine ih fun hnil => ?_
      rw [hnil] at hcr
      exact absurd hcr.2 (by decide)
    · exact List.cons_ne_nil _ _
    · cases splitLines cs <;> exact List.cons_ne_nil _ _

theorem onto_append {c : Char} {ls : List (List Char)} (h : ls ≠ []) (rest : List (List Char)) :
    onto c (ls ++ rest) = onto c ls ++ rest := by
  cases ls with
  | nil => exact absurd rfl h
  | cons l ls => rfl

/-- A line feed ends a line whatever stands around it. -/
theorem splitLines_append (l rest : List Char) :
    splitLines (l ++ '\n' :: rest) = splitLines (l ++ ['\n']) ++ splitLines rest := by
  induction l with
  | nil => rfl
  | cons c l ih =>
    have hhead : (l ++ '\n' :: rest).head? = (l ++ ['\n']).head? := by cases l <;> rfl
    rw [List.cons_append, List.cons_append, splitLines, splitLines, hhead, ih]
    split_ifs
    · rfl
    · rfl
    · exact onto_append (splitLines_ne_nil (by simp)) _

theorem splitLines_flatMap {α : Type} (text : α → List Char) (xs : List α) :
    splitLines (xs.flatMap fun x => text x ++ ['\n']) =
      xs.flatMap fun x => splitLines (text x ++ ['\n']) := by
  induction xs with
  | nil => rfl
  | cons x xs ih =>
    rw [List.flatMap_cons, List.flatMap_cons, ← ih, List.append_assoc, List.singleton_append,
      splitLines_append]

/-- A line without breaks of its own is cut out whole. -/
theorem splitLines_line {l : List Char} (h : ∀ c ∈ l, isLineBreak c = false) :
    splitLines (l ++ ['\n']) = [l] := by
  induction l with
  | nil => rfl
  | cons c l ih =>
    rw [List.cons_append, splitLines_of_not (h c List.mem_cons_self),
      ih fun d hd => h d (List.mem_cons_of_mem c hd)]
    rfl

theorem splitLines_no_break {cs piece : List Char} (h : piece ∈ splitLines cs) :
    ∀ c ∈ piece, isLineBreak c = false := by
  induction cs generalizing piece with
  | nil => cases h
  | cons d cs ih =>
    rw [splitLines] at h
    split_ifs at h with hbreak hcr
    · exact ih h
    · rcases List.mem_cons.mp h with rfl | h
      · exact fun c hc => absurd hc List.not_mem_nil
      · exact ih h
    · have hd : isLineBreak d = false := Bool.eq_false_iff.mpr hbreak
      cases hls : splitLines cs with
      | nil =>
        rw [hls, onto, List.mem_singleton] at h
        subst h
        exact fun c hc => List.mem_singleton.mp hc ▸ hd
      | cons l ls =>
        rw [hls] at h ih
        rcases List.mem_cons.mp h with rfl | h
        · intro c hc
          rcases List.mem_cons.mp hc with rfl | hc
          · exact hd
          · exact ih List.mem_cons_self c hc
        · exact ih (List.mem_cons_of_mem l h)

theorem takeWhile_stop {p : Char → Bool} {xs rest : List Char} (hx : ∀ c ∈ xs, p c = true)
    (hrest : rest.head?.any p = false) : (xs ++ rest).takeWhile p = xs := by
  rw [List.takeWhile_append_of_pos hx]
  cases rest with
  | nil => rw [List.takeWhile_nil, List.append_nil]
  | cons c rest =>
    have hc : ¬p c = true := Bool.eq_false_iff.mp hrest
    rw [List.takeWhile_cons_of_neg hc, List.append_nil]

theorem dropWhile_stop {p : Char → Bool} {xs rest : List Char} (hx : ∀ c ∈ xs, p c = true)
    (hrest : rest.head?.any p = false) : (xs ++ rest).dropWhile p = rest := by
  rw [List.dropWhile_append_of_pos hx]
  cases rest with
  | nil => rfl
  | cons c rest =>
    have hc : ¬p c = true := Bool.eq_false_iff.mp hrest
    exact List.dropWhile_cons_of_neg hc

/-- `text.strip(chars)`, where `p` tells the characters. -/
def trimBy (p : Char → Bool) (cs : List Char) : List Char :=
  ((cs.dropWhile p).reverse.dropWhile p).reverse

def Trimmed (p : Char → Bool) (cs : List Char) : Prop :=
  cs.head?.any p = false ∧ cs.getLast?.any p = false

instance {p : Char → Bool} {cs : List Char} : Decidable (Trimmed p cs) :=
  inferInstanceAs (Decidable (_ ∧ _))

theorem dropWhile_reverse {p : Char → Bool} {cs post : List Char} (hpost : ∀ c ∈ post, p c = true)
    (hlast : cs.getLast?.any p = false) : ((cs ++ post).reverse.dropWhile p).reverse = cs := by
  have hrev : ∀ c ∈ post.reverse, p c = true := fun c hc => hpost c (List.mem_reverse.mp hc)
  rw [List.reverse_append, dropWhile_stop hrev (by rwa [List.head?_reverse]), List.reverse_reverse]

theorem dropWhile_pad {p : Char → Bool} {pre cs : List Char} (hpre : ∀ c ∈ pre, p c = true)
    (h : Trimmed p cs) (hne : cs ≠ []) (post : List Char) :
    (pre ++ (cs ++ post)).dropWhile p = cs ++ post := by
  refine dropWhile_stop hpre ?_
  rw [List.head?_append_of_ne_nil _ hne]
  exact h.1

/-- What is put around a text is stripped off again. -/
theorem trimBy_pad {p : Char → Bool} {pre cs post : List Char} (hpre : ∀ c ∈ pre, p c = true)
    (hpost : ∀ c ∈ post, p c = true) (h : Trimmed p cs) : trimBy p (pre ++ (cs ++ post)) = cs := by
  by_cases hne : cs = []
  · have hall : ∀ c ∈ pre ++ post, p c = true := fun c hc =>
      (List.mem_append.mp hc).elim (hpre c) (hpost c)
    rw [trimBy, hne, List.nil_append, List.dropWhile_eq_nil_iff.mpr hall]
    rfl
  · rw [trimBy, dropWhile_pad hpre h hne, dropWhile_reverse hpost h.2]

theorem trimBy_lead {p : Char → Bool} {pre cs : List Char} (hpre : ∀ c ∈ pre, p c = true)
    (h : Trimmed p cs) : trimBy p (pre ++ cs) = cs := by
  have hpad := trimBy_pad hpre (List.forall_mem_nil _) h
  rwa [List.append_nil] at hpad

theorem trimBy_self {p : Char → Bool} {cs : List Char} (h : Trimmed p cs) : trimBy p cs = cs :=
  trimBy_lead (List.forall_mem_nil _) h

theorem cut_of_notMem {sep : Char} {xs : List Char} (h : sep ∉ xs) (rest : List Char) :
    cut sep (xs ++ sep :: rest) = (xs, some rest) := by
  have hx : ∀ c ∈ xs, decide (c ≠ sep) = true := by
    intro c hc
    exact decide_eq_true fun he => h (he ▸ hc)
  have hrest : (sep :: rest).head?.any (fun c => decide (c ≠ sep)) = false := by simp
  rw [cut, takeWhile_stop hx hrest, dropWhile_stop hx hrest]
  rfl

theorem cut_eq_some {sep : Char} {cs xs rest : List Char} :
    cut sep cs = (xs, some rest) ↔ cs = xs ++ sep :: rest ∧ sep ∉ xs := by
  constructor
  · intro h
    rw [cut, Prod.mk.injEq] at h
    obtain ⟨rfl, hrest⟩ := h
    cases hdrop : cs.dropWhile (· ≠ sep) with
    | nil =>
      rw [hdrop] at hrest
      cases hrest
    | cons d ds =>
      rw [hdrop, List.tail?_cons, Option.some.injEq] at hrest
      have hd : d = sep := by
        have hne := List.head_dropWhile_not (fun c => decide (c ≠ sep)) (l := cs)
          (by rw [hdrop]; exact List.cons_ne_nil d ds)
        simp only [hdrop, List.head_cons, decide_eq_false_iff_not, not_not] at hne
        exact hne
      have hall : ∀ c ∈ cs.takeWhile (· ≠ sep), c ≠ sep := fun c hc => by
        simpa using List.mem_takeWhile_imp hc
      refine ⟨?_, fun hmem => hall sep hmem rfl⟩
      subst d
      rw [← hrest, ← hdrop, List.takeWhile_append_dropWhile]
  · rintro ⟨rfl, h⟩
    exact cut_of_notMem h rest

/-- What stands before `suffix` at the end of the text: `text[:-n]` where `text.endswith(suffix)`. -/
def removeSuffix? (suffix text : String) : Option String :=
  if suffix.toList.isSuffixOf text.toList then
    some (String.ofList (text.toList.take (text.toList.length - suffix.toList.length)))
  else none

end PyText
