import Trimtab.ManifestText

set_option autoImplicit false

/-!
# How a manifest is written

Scalars at the margin, then a list of knobs at indent 2 whose keys stand at indent 4 and whose
validator's keys stand at indent 6. Blanks and comments may stand at the end of any line and on
lines of their own.
-/
namespace Trimtab.ManifestFormat
open PyText ManifestText

structure Key where
  chars : List Char
  no_colon : ':' ∉ chars
  no_hash : '#' ∉ chars
  no_break : ∀ c ∈ chars, isLineBreak c = false
  trimmed : Trimmed isSpace chars
  not_item : ¬"- ".toList <+: chars
  not_validator : chars ≠ "validator".toList
  not_knobs : chars ≠ "knobs".toList

theorem no_break_of_all {chars : List Char} (h : (chars.all fun c => !isLineBreak c) = true) :
    ∀ c ∈ chars, isLineBreak c = false := by
  simpa only [List.all_eq_true, Bool.not_eq_true'] using h

def Key.ofChars? (chars : List Char) : Option Key :=
  if h : ':' ∉ chars ∧ '#' ∉ chars ∧ (chars.all fun c => !isLineBreak c) = true ∧
      Trimmed isSpace chars ∧ ¬"- ".toList <+: chars ∧ chars ≠ "validator".toList ∧
      chars ≠ "knobs".toList then
    some ⟨chars, h.1, h.2.1, no_break_of_all h.2.2.1, h.2.2.2.1, h.2.2.2.2.1, h.2.2.2.2.2.1,
      h.2.2.2.2.2.2⟩
  else none

structure Scalar where
  chars : List Char
  no_hash : '#' ∉ chars
  no_quote : '"' ∉ chars
  no_break : ∀ c ∈ chars, isLineBreak c = false
  trimmed : Trimmed isSpace chars

def Scalar.ofChars? (chars : List Char) : Option Scalar :=
  if h : '#' ∉ chars ∧ '"' ∉ chars ∧ (chars.all fun c => !isLineBreak c) = true ∧
      Trimmed isSpace chars then
    some ⟨chars, h.1, h.2.1, no_break_of_all h.2.2.1, h.2.2.2⟩
  else none

structure Entry where
  key : Key
  value : Scalar
  quoted : Bool

def Entry.ofTexts? (key value : String) (quoted : Bool) : Option Entry := do
  return ⟨← Key.ofChars? key.toList, ← Scalar.ofChars? value.toList, quoted⟩

def Entry.shown (e : Entry) : List Char :=
  if e.quoted then ' ' :: '"' :: (e.value.chars ++ ['"'])
  else if e.value.chars = [] then []
  else ' ' :: e.value.chars

def Entry.text (e : Entry) : List Char := e.key.chars ++ ':' :: e.shown

def Entry.pair (e : Entry) : String × String :=
  (String.ofList e.key.chars, String.ofList e.value.chars)

inductive Content where
  | top (e : Entry)
  | knobs
  | item (e : Entry)
  | field (e : Entry)
  | validator
  | check (e : Entry)

def Content.indent : Content → Nat
  | .top _ | .knobs => 0
  | .item _ => 2
  | .field _ | .validator => 4
  | .check _ => 6

def Content.body : Content → List Char
  | .top e | .field e | .check e => e.text
  | .item e => '-' :: ' ' :: e.text
  | .knobs => "knobs:".toList
  | .validator => "validator:".toList

def Content.text (c : Content) : List Char := List.replicate c.indent ' ' ++ c.body

/-- A line of the text, which may have nothing but blanks and a comment. -/
structure Line where
  content : Option Content
  blanks : List Char
  comment : Option (List Char)
  blank : ∀ c ∈ blanks, isSpace c = true ∧ isLineBreak c = false
  one_line : ∀ c ∈ comment.getD [], isLineBreak c = false

def Line.remark (l : Line) : List Char := (l.comment.map ('#' :: ·)).getD []

def Line.text (l : Line) : List Char := (l.content.map Content.text).getD [] ++ l.blanks ++ l.remark

structure Validator where
  checks : List Entry
  after : List Entry

structure KnobDoc where
  first : Entry
  fields : List Entry
  validator : Option Validator

structure Doc where
  top : List Entry
  knobs : List KnobDoc

def Validator.contents (v : Validator) : List Content :=
  .validator :: (v.checks.map .check ++ v.after.map .field)

def KnobDoc.contents (k : KnobDoc) : List Content :=
  .item k.first :: (k.fields.map .field ++ (k.validator.map Validator.contents).getD [])

def Doc.contents (d : Doc) : List Content :=
  d.top.map .top ++ .knobs :: d.knobs.flatMap KnobDoc.contents

/-- A text of the document: its lines in order, others between them. -/
structure Layout (d : Doc) where
  lines : List Line
  contents : lines.filterMap Line.content = d.contents

def Layout.render {d : Doc} (layout : Layout d) : List Char :=
  layout.lines.flatMap fun l => l.text ++ ['\n']

/-! ### What a document says -/

def Entry.scalar (e : Entry) : String × Field := (e.pair.1, .scalar e.pair.2)

def Validator.pairs (v : Validator) : List (String × Field) :=
  ("validator", .mapping (Dict.ofList (v.checks.map Entry.pair))) :: v.after.map Entry.scalar

def KnobDoc.raw (k : KnobDoc) : RawKnob :=
  Dict.ofList (k.first.scalar :: (k.fields.map Entry.scalar ++
    (k.validator.map Validator.pairs).getD []))

def Doc.topMap (d : Doc) : Dict String String := Dict.ofList (d.top.map Entry.pair)

/-! ### Texts -/

theorem partition_text (e : Entry) : partition e.text = e.pair := by
  have hquotes : Trimmed (fun c => decide (c = '"')) e.value.chars := by
    have hany {o : Option Char} (ho : ∀ c ∈ o, c ∈ e.value.chars) :
        o.any (fun c => decide (c = '"')) = false := by
      cases o with
      | none => rfl
      | some c => exact decide_eq_false fun hc => e.value.no_quote (hc ▸ ho c rfl)
    exact ⟨hany fun c hc => List.mem_of_mem_head? hc, hany fun c hc => List.mem_of_getLast? hc⟩
  have hvalue : stripQuotes (strip e.shown) = e.value.chars := by
    change trimBy (fun c => decide (c = '"')) (trimBy isSpace e.shown) = _
    have hspace : ∀ c ∈ [' '], isSpace c = true := fun c hc => List.mem_singleton.mp hc ▸ rfl
    have hquote : ∀ c ∈ ['"'], decide (c = '"') = true := fun c hc =>
      decide_eq_true (List.mem_singleton.mp hc)
    unfold Entry.shown
    split_ifs with hq hv
    · have htrim : Trimmed isSpace ('"' :: (e.value.chars ++ ['"'])) := by
        refine ⟨rfl, ?_⟩
        rw [← List.cons_append, List.getLast?_append]
        rfl
      rw [← List.singleton_append, trimBy_lead hspace htrim]
      exact trimBy_pad hquote hquote hquotes
    · rw [hv]
      rfl
    · rw [← List.singleton_append, trimBy_lead hspace e.value.trimmed]
      exact trimBy_self hquotes
  have hkey : strip e.key.chars = e.key.chars := trimBy_self e.key.trimmed
  unfold partition
  rw [Entry.text, cut_of_notMem e.key.no_colon]
  simp only [Option.getD_some, hkey, hvalue]
  rfl

theorem text_trimmed (e : Entry) : Trimmed isSpace e.text := by
  constructor
  · unfold Entry.text
    cases hkey : e.key.chars with
    | nil => rfl
    | cons c cs =>
      have hhead := e.key.trimmed.1
      rw [hkey] at hhead
      exact hhead
  · unfold Entry.text Entry.shown
    split_ifs with hq hv
    · rw [← List.cons_append, ← List.cons_append, ← List.cons_append, ← List.append_assoc,
        List.getLast?_append]
      rfl
    · rw [List.getLast?_append]
      rfl
    · have hlast := e.value.trimmed.2
      rw [List.append_cons, List.append_cons, List.getLast?_append_of_ne_nil _ hv]
      exact hlast

theorem text_ne_nil (e : Entry) : e.text ≠ [] := by
  rw [Entry.text]
  exact List.append_ne_nil_of_right_ne_nil _ (List.cons_ne_nil _ _)

/-- A character that stands in an entry is a mark of the format, or stands in key or value. -/
theorem mem_text {e : Entry} {c : Char} (h : c ∈ e.text) :
    c ∈ e.key.chars ∨ c ∈ e.value.chars ∨ c ∈ [':', ' ', '"'] := by
  unfold Entry.text Entry.shown at h
  simp only [List.mem_append, List.mem_cons] at h
  rcases h with h | rfl | h
  · exact .inl h
  · exact .inr (.inr (by decide))
  · split_ifs at h with hq hv
    · simp only [List.mem_append, List.mem_cons, List.not_mem_nil, or_false] at h ⊢
      tauto
    · exact absurd h List.not_mem_nil
    · simp only [List.mem_cons] at h ⊢
      tauto

theorem mem_content {c : Content} {x : Char} (h : x ∈ c.text) :
    x ≠ '#' ∧ isLineBreak x = false := by
  have hplain {cs : List Char} (hx : x ∈ cs)
      (hall : cs.all (fun c => decide (c ≠ '#') && !isLineBreak c) = true) :
      x ≠ '#' ∧ isLineBreak x = false := by
    have hc := List.all_eq_true.mp hall x hx
    rwa [Bool.and_eq_true, decide_eq_true_eq, Bool.not_eq_true'] at hc
  have hentry {e : Entry} (hx : x ∈ e.text) : x ≠ '#' ∧ isLineBreak x = false := by
    rcases mem_text hx with hx | hx | hx
    · exact ⟨fun hc => e.key.no_hash (hc ▸ hx), e.key.no_break x hx⟩
    · exact ⟨fun hc => e.value.no_hash (hc ▸ hx), e.value.no_break x hx⟩
    · exact hplain hx (by decide)
  rcases List.mem_append.mp h with h | h
  · rw [List.eq_of_mem_replicate h]
    decide
  · cases c with
    | top e => exact hentry h
    | field e => exact hentry h
    | check e => exact hentry h
    | item e =>
      rcases List.mem_cons.mp h with rfl | h
      · decide
      · rcases List.mem_cons.mp h with rfl | h
        · decide
        · exact hentry h
    | knobs => exact hplain h (by decide)
    | validator => exact hplain h (by decide)

theorem body_trimmed (c : Content) : Trimmed isSpace c.body := by
  cases c with
  | top e => exact text_trimmed e
  | field e => exact text_trimmed e
  | check e => exact text_trimmed e
  | item e =>
    have hbody : (Content.item e).body = ['-', ' '] ++ e.text := rfl
    rw [hbody]
    refine ⟨rfl, ?_⟩
    rw [List.getLast?_append_of_ne_nil _ (text_ne_nil e)]
    exact (text_trimmed e).2
  | knobs => exact ⟨by decide, by decide⟩
  | validator => exact ⟨by decide, by decide⟩

theorem body_ne_nil (c : Content) : c.body ≠ [] := by
  cases c with
  | top e => exact text_ne_nil e
  | field e => exact text_ne_nil e
  | check e => exact text_ne_nil e
  | item e => exact List.cons_ne_nil _ _
  | knobs => decide
  | validator => decide

theorem line_no_break (l : Line) : ∀ c ∈ l.text, isLineBreak c = false := by
  intro c hc
  rcases List.mem_append.mp hc with hc | hc
  · rcases List.mem_append.mp hc with hc | hc
    · cases hcontent : l.content with
      | none =>
        rw [hcontent] at hc
        exact absurd hc List.not_mem_nil
      | some content =>
        rw [hcontent] at hc
        exact (mem_content hc).2
    · exact (l.blank c hc).2
  · unfold Line.remark at hc
    have hline := l.one_line
    cases hcomment : l.comment with
    | none =>
      rw [hcomment] at hc
      exact absurd hc List.not_mem_nil
    | some comment =>
      rw [hcomment] at hc hline
      rcases List.mem_cons.mp hc with rfl | hc
      · decide
      · exact hline c hc

theorem splitLines_render {d : Doc} (layout : Layout d) :
    splitLines layout.render = layout.lines.map Line.text := by
  rw [Layout.render, splitLines_flatMap]
  induction layout.lines with
  | nil => rfl
  | cons l ls ih =>
    rw [List.flatMap_cons, splitLines_line (line_no_break l), ih]
    rfl

/-- What a line is without its comment and the blanks before it. -/
theorem bare_line (l : Line) :
    rstrip (cut '#' l.text).1 = (l.content.map Content.text).getD [] := by
  have hfirst : (cut '#' l.text).1 = (l.content.map Content.text).getD [] ++ l.blanks := by
    have hno : ∀ c ∈ (l.content.map Content.text).getD [] ++ l.blanks, decide (c ≠ '#') = true := by
      intro c hc
      refine decide_eq_true ?_
      rcases List.mem_append.mp hc with hc | hc
      · cases hcontent : l.content with
        | none =>
          rw [hcontent] at hc
          exact absurd hc List.not_mem_nil
        | some content =>
          rw [hcontent] at hc
          exact (mem_content hc).1
      · rintro rfl
        exact absurd (l.blank '#' hc).1 (by decide)
    refine takeWhile_stop hno ?_
    unfold Line.remark
    cases l.comment with
    | none => rfl
    | some comment => rfl
  rw [hfirst]
  refine dropWhile_reverse (fun c hc => (l.blank c hc).1) ?_
  cases l.content with
  | none => rfl
  | some content =>
    have hlast := (body_trimmed content).2
    change (content.text.getLast?).any isSpace = false
    rwa [Content.text, List.getLast?_append_of_ne_nil _ (body_ne_nil content)]

end Trimtab.ManifestFormat
