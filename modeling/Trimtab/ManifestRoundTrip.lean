import Trimtab.ManifestFormat

set_option autoImplicit false

/-!
# The parser inverts the format

One lemma for each kind of line, then the fields of a knob, a knob, the list. What is carried
through is the knob read so far and whether its validator is open.
-/
namespace Trimtab.ManifestFormat
open PyText ManifestText

theorem blanks_isSpace (n : Nat) : ∀ c ∈ List.replicate n ' ', isSpace c = true :=
  fun _ hc => List.eq_of_mem_replicate hc ▸ rfl

theorem strip_text (c : Content) : strip c.text = c.body :=
  trimBy_lead (blanks_isSpace c.indent) (body_trimmed c)

theorem indent_text (c : Content) :
    c.text.length - (c.text.dropWhile isSpace).length = c.indent := by
  have hdrop := dropWhile_pad (blanks_isSpace c.indent) (body_trimmed c) (body_ne_nil c) []
  rw [List.append_nil] at hdrop
  have hlength : c.text.length = c.indent + c.body.length := by
    rw [Content.text, List.length_append, List.length_replicate]
  rw [hlength, Content.text, hdrop, Nat.add_sub_cancel]

/-- A line with a content is read, any other is passed over. -/
theorem step_line (s : Locals) (l : Line) :
    s.step l.text = match l.content with
      | none => .ok s
      | some c => s.read c.text := by
  unfold Locals.step
  rw [bare_line]
  cases l.content with
  | none => rfl
  | some c =>
    have hne : strip c.text ≠ [] := by
      rw [strip_text]
      exact body_ne_nil c
    exact if_neg hne

theorem text_ne_mark {e : Entry} {mark : List Char} (hmark : ':' ∉ mark) (hkey : e.key.chars ≠ mark) :
    e.text ≠ mark ++ [':'] := by
  intro h
  have hcut := congrArg (cut ':') h
  rw [Entry.text, cut_of_notMem e.key.no_colon, cut_of_notMem hmark] at hcut
  exact hkey (congrArg Prod.fst hcut)

theorem text_ne_validator (e : Entry) : e.text ≠ "validator:".toList :=
  text_ne_mark (by decide) e.key.not_validator

theorem text_ne_knobs (e : Entry) : e.text ≠ "knobs:".toList :=
  text_ne_mark (by decide) e.key.not_knobs

theorem text_not_item (e : Entry) : "- ".toList.isPrefixOf e.text = false := by
  have hdash : "- ".toList = ['-', ' '] := toList_literal rfl
  have hkey := e.key.not_item
  rw [Bool.eq_false_iff, ne_eq, List.isPrefixOf_iff_prefix]
  rw [hdash] at hkey ⊢
  unfold Entry.text
  intro h
  cases hchars : e.key.chars with
  | nil =>
    rw [hchars] at h
    exact absurd (List.cons_prefix_cons.mp h).1 (by decide)
  | cons c cs =>
    rw [hchars] at h hkey
    obtain ⟨hc, h⟩ := List.cons_prefix_cons.mp h
    cases cs with
    | nil => exact absurd (List.cons_prefix_cons.mp h).1 (by decide)
    | cons d ds =>
      have hd := (List.cons_prefix_cons.mp h).1
      exact hkey (hc ▸ hd ▸ ⟨ds, rfl⟩)

section Lines

variable (s : Locals) (e : Entry)

theorem read_top : s.read (Content.top e).text =
    .ok { s with top := s.top.insert e.pair.1 e.pair.2, inValidator := false } := by
  have hbody : (Content.top e).body = e.text := rfl
  unfold Locals.read
  simp only [indent_text, strip_text, Content.indent, if_true, hbody, if_neg (text_ne_knobs e),
    partition_text]

theorem read_knobs : s.read Content.knobs.text = .ok { s with inValidator := false } := by
  have hbody : Content.knobs.body = "knobs:".toList := rfl
  unfold Locals.read
  simp only [indent_text, strip_text, Content.indent, if_true, hbody]

theorem read_item : s.read (Content.item e).text =
    .ok { s with
      knobs := s.knobs ++ s.cur.toList
      cur := some ((∅ : RawKnob).insert e.pair.1 (.scalar e.pair.2))
      inValidator := false } := by
  have hbody : (Content.item e).body = '-' :: ' ' :: e.text := rfl
  have hitem : "- ".toList.isPrefixOf ('-' :: ' ' :: e.text) = true :=
    List.isPrefixOf_iff_prefix.mpr ⟨e.text, rfl⟩
  have hdrop : ('-' :: ' ' :: e.text).drop 2 = e.text := rfl
  have hindent : (Content.item e).indent = 2 := rfl
  unfold Locals.read
  simp only [indent_text, strip_text, hindent, hbody, hitem, hdrop, partition_text]
  rfl

theorem read_validator {cur : RawKnob} (hcur : s.cur = some cur) :
    s.read Content.validator.text =
      .ok { s with cur := some (cur.insert "validator" (.mapping ∅)), inValidator := true } := by
  have hbody : Content.validator.body = "validator:".toList := rfl
  have hitem : "- ".toList.isPrefixOf "validator:".toList = false := by decide
  have hindent : Content.validator.indent = 4 := rfl
  unfold Locals.read
  simp only [indent_text, strip_text, hindent, hbody, hitem, hcur]
  rfl

/-- Below the margin an entry is assigned. -/
theorem read_entry {c : Content} (hbody : c.body = e.text) (hindent : c.indent ≠ 0) :
    s.read c.text = s.assign c.indent e.pair.1 e.pair.2 := by
  unfold Locals.read
  simp only [indent_text, strip_text, if_neg hindent, hbody, text_not_item e, Bool.false_eq_true,
    if_false, if_neg (text_ne_validator e), partition_text]

theorem read_field {cur : RawKnob} (hcur : s.cur = some cur) :
    s.read (Content.field e).text =
      .ok { s with cur := some (cur.insert e.pair.1 (.scalar e.pair.2)), inValidator := false } := by
  have hindent : (Content.field e).indent = 4 := rfl
  have hopen : (s.inValidator && decide (6 ≤ 4)) = false := Bool.and_false _
  rw [read_entry s e (c := .field e) rfl (Nat.succ_ne_zero 3), hindent, Locals.assign, hcur]
  simp only [hopen, Bool.false_eq_true, if_false]

theorem read_check {cur : RawKnob} {checks : Dict String String} (hopen : s.inValidator = true)
    (hcur : s.cur = some (cur.insert "validator" (.mapping checks))) :
    s.read (Content.check e).text =
      .ok { s with
        cur := some (cur.insert "validator" (.mapping (checks.insert e.pair.1 e.pair.2))) } := by
  have hindent : (Content.check e).indent = 6 := rfl
  rw [read_entry s e (c := .check e) rfl (Nat.succ_ne_zero 5), hindent, Locals.assign, hcur, hopen]
  simp only [Dict.get?_insert_self, Dict.insert_insert]
  rfl

end Lines

/-! ### Runs -/

def run (s : Locals) (cs : List Content) : Except PyErr Locals :=
  cs.foldlM (fun s c => s.read c.text) s

theorem run_append (s : Locals) (cs ds : List Content) :
    run s (cs ++ ds) = run s cs >>= fun t => run t ds := List.foldlM_append

theorem run_cons_ok {s t : Locals} {c : Content} (h : s.read c.text = .ok t) (cs : List Content) :
    run s (c :: cs) = run t cs := by
  rw [run, List.foldlM_cons, h]
  rfl

/-- The lines of a layout are read as the contents of its document. -/
theorem foldlM_step (s : Locals) (ls : List Line) :
    (ls.map Line.text).foldlM Locals.step s = run s (ls.filterMap Line.content) := by
  induction ls generalizing s with
  | nil => rfl
  | cons l ls ih =>
    rw [List.map_cons, List.foldlM_cons, step_line, List.filterMap_cons]
    cases l.content with
    | none => exact ih s
    | some c =>
      rw [run, List.foldlM_cons]
      exact bind_congr fun t => ih t

theorem run_top (es : List Entry) (top : Dict String String) :
    run ⟨top, [], none, false⟩ (es.map .top) =
      .ok ⟨(es.map Entry.pair).foldl (fun d p => d.insert p.1 p.2) top, [], none, false⟩ := by
  induction es generalizing top with
  | nil => rfl
  | cons e es ih =>
    rw [List.map_cons, run_cons_ok (read_top _ e)]
    exact ih _

/-- Keys at indent 4 go to the knob, and close the validator. -/
theorem run_fields (es : List Entry) (top : Dict String String) (knobs : List RawKnob)
    (cur : RawKnob) (b : Bool) : ∃ b', run ⟨top, knobs, some cur, b⟩ (es.map .field) =
      .ok ⟨top, knobs, some ((es.map Entry.scalar).foldl (fun d p => d.insert p.1 p.2) cur), b'⟩ := by
  induction es generalizing cur b with
  | nil => exact ⟨b, rfl⟩
  | cons e es ih =>
    rw [List.map_cons, run_cons_ok (read_field _ e rfl)]
    exact ih _ _

/-- Keys at indent 6 go to the open validator. -/
theorem run_checks (es : List Entry) (top : Dict String String) (knobs : List RawKnob)
    (cur : RawKnob) (checks : Dict String String) :
    run ⟨top, knobs, some (cur.insert "validator" (.mapping checks)), true⟩ (es.map .check) =
      .ok ⟨top, knobs, some (cur.insert "validator"
        (.mapping ((es.map Entry.pair).foldl (fun d p => d.insert p.1 p.2) checks))), true⟩ := by
  induction es generalizing checks with
  | nil => rfl
  | cons e es ih =>
    rw [List.map_cons, run_cons_ok (read_check _ e rfl rfl)]
    exact ih _

theorem run_validator (v : Validator) (top : Dict String String) (knobs : List RawKnob)
    (cur : RawKnob) (b : Bool) : ∃ b', run ⟨top, knobs, some cur, b⟩ v.contents =
      .ok ⟨top, knobs, some (v.pairs.foldl (fun d p => d.insert p.1 p.2) cur), b'⟩ := by
  rw [Validator.contents, run_cons_ok (read_validator _ rfl), run_append, run_checks]
  exact run_fields v.after top knobs _ true

/-- A knob is put behind the ones before it, whatever was open. -/
theorem run_knob (k : KnobDoc) (s : Locals) : ∃ b, run s k.contents =
    .ok ⟨s.top, s.knobs ++ s.cur.toList, some k.raw, b⟩ := by
  rw [KnobDoc.contents, run_cons_ok (read_item s k.first), run_append]
  obtain ⟨b, hfields⟩ := run_fields k.fields s.top (s.knobs ++ s.cur.toList)
    ((∅ : RawKnob).insert k.first.pair.1 (.scalar k.first.pair.2)) false
  rw [hfields, KnobDoc.raw, Dict.ofList, List.foldl_cons, List.foldl_append]
  cases k.validator with
  | none => exact ⟨b, rfl⟩
  | some v => exact run_validator v _ _ _ b

theorem run_knobs (ks : List KnobDoc) (s : Locals) :
    ∃ t, run s (ks.flatMap KnobDoc.contents) = .ok t ∧ t.top = s.top ∧
      t.knobs ++ t.cur.toList = s.knobs ++ s.cur.toList ++ ks.map KnobDoc.raw := by
  induction ks generalizing s with
  | nil => exact ⟨s, rfl, rfl, (List.append_nil _).symm⟩
  | cons k ks ih =>
    obtain ⟨b, hknob⟩ := run_knob k s
    obtain ⟨t, hrun, htop, hknobs⟩ := ih ⟨s.top, s.knobs ++ s.cur.toList, some k.raw, b⟩
    refine ⟨t, ?_, htop, ?_⟩
    · rw [List.flatMap_cons, run_append, hknob]
      exact hrun
    · rw [hknobs, List.map_cons, List.append_assoc (s.knobs ++ s.cur.toList)]
      rfl

/-- Every text of a document is read as what the document says. -/
theorem parseYaml_render (d : Doc) (layout : Layout d) :
    parseYaml layout.render = .ok (d.topMap, d.knobs.map KnobDoc.raw) := by
  obtain ⟨t, hrun, htop, hknobs⟩ := run_knobs d.knobs ⟨d.topMap, [], none, false⟩
  have hall : run Locals.start d.contents = .ok t := by
    rw [Doc.contents, run_append, Locals.start, run_top]
    exact (run_cons_ok (read_knobs _) _).trans hrun
  unfold parseYaml
  rw [splitLines_render, foldlM_step, layout.contents, hall]
  exact congrArg Except.ok (Prod.ext htop hknobs)

/-! ### The head of a shipped manifest -/

instance : Inhabited Entry :=
  ⟨⟨⟨[], nofun, nofun, nofun, ⟨rfl, rfl⟩, by decide, by decide, by decide⟩,
    ⟨[], nofun, nofun, nofun, ⟨rfl, rfl⟩⟩, false⟩⟩

def entry (key value : String) (quoted : Bool) : Entry := (Entry.ofTexts? key value quoted).getD default

def maxNumSeqs : KnobDoc where
  first := entry "field" "max_num_seqs" false
  fields := [entry "klass" "hot" false,
    entry "verified_at" "vllm/v1/core/sched/scheduler.py 792" true]
  validator := some {
    checks := [entry "type" "int" false, entry "min" "1" false, entry "max_source" "boot_value" false]
    after := [entry "note" "applied to scheduler.max_num_running_reqs" false] }

def vllmHead : Doc where
  top := [entry "engine" "vllm" false, entry "engine_commit" "c0adee9" true]
  knobs := [maxNumSeqs,
    ⟨entry "field" "tensor_parallel_size" false, [entry "klass" "cold" false], none⟩]

def plain (c : Content) : Line := ⟨some c, [], none, nofun, nofun⟩

def blank : Line := ⟨none, [], none, nofun, nofun⟩

def vllmHeadLayout : Layout vllmHead where
  lines :=
    ⟨none, [], some " trimtab knob manifest for vLLM main".toList, nofun,
        no_break_of_all (by decide +kernel)⟩ ::
      blank :: vllmHead.top.map (fun e => plain (.top e)) ++ [blank, plain .knobs] ++
      maxNumSeqs.contents.map plain ++ [blank] ++
      (vllmHead.knobs.drop 1).flatMap fun k => k.contents.map plain
  contents := rfl

theorem parseYaml_render_vllmHead : parseYaml "# trimtab knob manifest for vLLM main

engine: vllm
engine_commit: \"c0adee9\"

knobs:
  - field: max_num_seqs
    klass: hot
    verified_at: \"vllm/v1/core/sched/scheduler.py 792\"
    validator:
      type: int
      min: 1
      max_source: boot_value
    note: applied to scheduler.max_num_running_reqs

  - field: tensor_parallel_size
    klass: cold
".toList = .ok (Dict.ofList [("engine", "vllm"), ("engine_commit", "c0adee9")], [
      Dict.ofList [("field", .scalar "max_num_seqs"), ("klass", .scalar "hot"),
        ("verified_at", .scalar "vllm/v1/core/sched/scheduler.py 792"),
        ("validator", .mapping (Dict.ofList
          [("type", "int"), ("min", "1"), ("max_source", "boot_value")])),
        ("note", .scalar "applied to scheduler.max_num_running_reqs")],
      Dict.ofList [("field", .scalar "tensor_parallel_size"), ("klass", .scalar "cold")]]) := by
  have hread := parseYaml_render vllmHead vllmHeadLayout
  refine (congrArg parseYaml ?_).trans (hread.trans (congrArg Except.ok ?_))
  · decide +kernel
  · decide +kernel

end Trimtab.ManifestFormat
