import Mathlib.Data.List.Nodup
import Trimtab.Runs
import Trimtab.SglangReinit

set_option autoImplicit false

/-!
# The memory saver across warm reinits

An allocation through the saver's `region` carries a tag, and a pause unmaps every allocation under
its tag. Every reinit allocates under tags of a new generation, whose number is kept twice.
-/
namespace Trimtab.SglangGenerations
open PyText Effects Runs SglangReinit

inductive Entry where
  | region (asked tag : String)
  | pause (tag : String)
  deriving DecidableEq

/-- `gen` is the scheduler's `_trimtab_gen`. `wrapped` and `classGen` are what a reinit sets on the
saver's class. `log` has what the real `region` and `pause` were called with. -/
structure Saver where
  gen : Option Nat := none
  wrapped : Bool := false
  classGen : Option Nat := none
  log : List Entry := []
  deriving DecidableEq

/-- `("kv_cache", "cuda_graph")` -/
def movable : List String := ["kv_cache", "cuda_graph"]

def suffix (gen : Nat) : String := if gen = 0 then "" else ".g" ++ toString gen

def pauseTags (gen : Nat) : List String := ["kv_cache" ++ suffix gen, "cuda_graph" ++ suffix gen]

namespace Saver

/-- The tag that `_region`, or the stock `region`, hands on. -/
def tagFor (s : Saver) (tag : String) : String :=
  if s.wrapped then
    let g := s.classGen.getD 0
    if g ≠ 0 ∧ movable.contains tag then tag ++ ".g" ++ toString g else tag
  else tag

def region (tag : String) (s : Saver) : Saver :=
  { s with log := s.log ++ [.region tag (s.tagFor tag)] }

/-- The block under `if saver_on`. -/
def retire (s : Saver) : Saver :=
  let gen := s.gen.getD 0
  { gen := some (gen + 1)
    wrapped := true
    classGen := some (gen + 1)
    log := s.log ++ (pauseTags gen).map .pause }

/-- The tags that the next accepted call pauses. -/
def nextPauses (s : Saver) : List String := pauseTags (s.gen.getD 0)

end Saver

structure Gpu where
  engine : Engine
  saver : Saver

abbrev GpuM := EStateM PyErr Gpu

structure Work where
  flush : List String := []
  collect : List String := []
  first : List String := []
  again : List String := []
  finish : List String := []

def onEngine {α : Type} (x : EStateM PyErr Engine α) : GpuM α :=
  zoom Gpu.engine (fun e s => { s with engine := e }) x

def onSaver (f : Saver → Saver) : GpuM Unit := modify fun s => { s with saver := f s.saver }

def allocate (tags : List String) (s : Saver) : Saver := tags.foldl (fun s tag => s.region tag) s

def attemptWith (tags : List String) (attempt : Attempt) (values : Fields) : GpuM Unit := do
  onSaver (allocate tags)
  onEngine (rebuild attempt values)

def resize (w : Work) (first again : Attempt) (fields : Fields) : GpuM Reply := do
  onSaver (allocate w.flush)
  let old := previous (← get).engine
  onEngine (release fields)
  onSaver Saver.retire
  onSaver (allocate w.collect)
  let fields ← rescue (do attemptWith w.first first fields; return fields) fun err => do
    attemptWith w.again again (back old fields)
    return failure err old
  onSaver (allocate w.finish)
  onEngine (finish fields)

def trimtabReinit (w : Work) (first again : Attempt) (fields : Fields) : GpuM Reply := do
  let e := (← get).engine
  if notAllowed fields ≠ [] then
    return refusal ("not warm-reinitable: " ++ reprList (notAllowed fields))
  else if !e.memorySaver then
    onEngine (refuse "warm reinit needs the server launched with --enable-memory-saver")
  else if !e.idle then onEngine (refuse "scheduler busy, drain before a warm reinit")
  else resize w first again fields

/-! ## The saver, step by step -/

inductive Step where
  | allocate (tag : String)
  | retire
  deriving DecidableEq

def Saver.step (s : Saver) : Step → Saver
  | .allocate tag => s.region tag
  | .retire => s.retire

def resizeSteps (e : Engine) (w : Work) (first again : Attempt) (fields : Fields) : List Step :=
  w.flush.map .allocate ++ match fraction fields with
    | .error _ => []
    | .ok x => .retire :: (w.collect ++ w.first).map .allocate ++
      match (rebuild first fields).run (released x e) with
      | .ok _ _ => w.finish.map .allocate
      | .error _ t => w.again.map .allocate ++
        match (rebuild again (back (previous e) fields)).run t with
        | .ok _ _ => w.finish.map .allocate
        | .error _ _ => []

def reinitSteps (e : Engine) (w : Work) (first again : Attempt) (fields : Fields) : List Step :=
  if notAllowed fields ≠ [] ∨ e.memorySaver = false ∨ e.idle = false then []
  else resizeSteps e w first again fields

theorem run_allocate (tags : List String) (s : Saver) :
    run Saver.step s (tags.map .allocate) = allocate tags s := by
  induction tags generalizing s with
  | nil => rfl
  | cons tag tags ih => exact ih (s.region tag)

theorem run_retire (collect first : List String) (rest : List Step) (s : Saver) :
    run Saver.step s (.retire :: (collect ++ first).map .allocate ++ rest) =
      run Saver.step (allocate collect s.retire) (first.map .allocate ++ rest) := by
  rw [List.cons_append, run_cons, List.map_append, List.append_assoc, run_append, run_allocate]
  rfl

theorem final_onSaver_bind {β : Type} (f : Saver → Saver) (k : Unit → GpuM β) (s : Gpu) :
    final (onSaver f >>= k) s = final (k ()) { s with saver := f s.saver } := rfl

theorem final_onEngine_bind {α β : Type} (x : EStateM PyErr Engine α) (k : α → GpuM β) (s : Gpu) :
    final (onEngine x >>= k) s = match x.run s.engine with
      | .ok a e => final (k a) { s with engine := e }
      | .error _ e => { s with engine := e } := by
  rw [final_bind]
  unfold onEngine
  rw [zoom_run]
  cases x.run s.engine <;> rfl

theorem attemptWith_run (tags : List String) (attempt : Attempt) (values : Fields) (s : Gpu) :
    (attemptWith tags attempt values).run s =
      match (rebuild attempt values).run s.engine with
      | .ok a e => .ok a ⟨e, allocate tags s.saver⟩
      | .error err e => .error err ⟨e, allocate tags s.saver⟩ := by
  change (onEngine (rebuild attempt values)).run ⟨s.engine, allocate tags s.saver⟩ = _
  unfold onEngine
  rw [zoom_run]
  cases (rebuild attempt values).run s.engine <;> rfl

theorem finish_saver (tags : List String) (fields : Fields) (s : Gpu) :
    (final (do onSaver (allocate tags); onEngine (finish fields)) s).saver =
      allocate tags s.saver := by
  rw [final_onSaver_bind]
  unfold final onEngine
  rw [zoom_run]
  cases (finish fields).run s.engine <;> rfl

/-- The two attempts and what follows them. -/
theorem attempts_steps (w : Work) (first again : Attempt) (fields old : Fields) (s : Gpu) :
    (final (do
      let fields ← rescue (do attemptWith w.first first fields; return fields) fun err => do
        attemptWith w.again again (back old fields)
        return failure err old
      onSaver (allocate w.finish)
      onEngine (finish fields)) s).saver =
      run Saver.step s.saver (w.first.map .allocate ++
        match (rebuild first fields).run s.engine with
        | .ok _ _ => w.finish.map .allocate
        | .error _ t => w.again.map .allocate ++
          match (rebuild again (back old fields)).run t with
          | .ok _ _ => w.finish.map .allocate
          | .error _ _ => []) := by
  have hfirst := attemptWith_run w.first first fields s
  rw [run_append, run_allocate, final_bind]
  cases hrun : (rebuild first fields).run s.engine with
  | ok a e =>
    rw [hrun] at hfirst
    rw [rescue_of_ok (a := fields) (t := ⟨e, allocate w.first s.saver⟩)
      (by rw [EStateM.run_bind, hfirst]; rfl)]
    simp only
    rw [finish_saver, run_allocate]
  | error err e =>
    rw [hrun] at hfirst
    rw [rescue_of_error (e := err) (t := ⟨e, allocate w.first s.saver⟩)
      (by rw [EStateM.run_bind, hfirst])]
    have hagain := attemptWith_run w.again again (back old fields)
      ⟨e, allocate w.first s.saver⟩
    rw [EStateM.run_bind, hagain]
    simp only
    rw [run_append, run_allocate]
    cases (rebuild again (back old fields)).run e with
    | ok a e' =>
      rw [run_allocate]
      exact finish_saver ..
    | error err' e' => rfl

theorem resize_steps (w : Work) (first again : Attempt) (fields : Fields) (s : Gpu) :
    (final (resize w first again fields) s).saver =
      run Saver.step s.saver (resizeSteps s.engine w first again fields) := by
  unfold resizeSteps
  rw [run_append, run_allocate, resize, final_onSaver_bind]
  change (final (onEngine (release fields) >>= _) ⟨s.engine, allocate w.flush s.saver⟩).saver = _
  rw [final_onEngine_bind]
  cases hx : fraction fields with
  | error err => rw [release_raises hx]; rfl
  | ok x =>
    rw [release_ok hx]
    simp only
    rw [run_retire, final_onSaver_bind, final_onSaver_bind]
    exact attempts_steps ..

theorem refuse_saver (text : String) (s : Gpu) :
    (final (onEngine (refuse text)) s).saver = s.saver := rfl

/-- A call does to the saver what its steps do. -/
theorem reinit_steps (w : Work) (first again : Attempt) (fields : Fields) (s : Gpu) :
    (final (trimtabReinit w first again fields) s).saver =
      run Saver.step s.saver (reinitSteps s.engine w first again fields) := by
  have hget : final (trimtabReinit w first again fields) s = final
      (if notAllowed fields ≠ [] then
        return refusal ("not warm-reinitable: " ++ reprList (notAllowed fields))
      else if !s.engine.memorySaver then
        onEngine (refuse "warm reinit needs the server launched with --enable-memory-saver")
      else if !s.engine.idle then onEngine (refuse "scheduler busy, drain before a warm reinit")
      else resize w first again fields) s := rfl
  rw [hget]
  unfold reinitSteps
  by_cases hbad : notAllowed fields ≠ []
  · rw [if_pos hbad, if_pos (.inl hbad)]
    rfl
  rw [if_neg hbad]
  cases hsaver : s.engine.memorySaver with
  | false =>
    rw [if_pos (by decide), if_pos (.inr (.inl rfl))]
    exact refuse_saver ..
  | true =>
    rw [if_neg (by decide)]
    cases hidle : s.engine.idle with
    | false =>
      rw [if_pos (by decide), if_pos (.inr (.inr rfl))]
      exact refuse_saver ..
    | true =>
      rw [if_neg (by decide), if_neg (by simp [hbad])]
      exact resize_steps ..

/-! ## Runs of calls -/

inductive Event where
  | allocate (tag : String)
  | reinit (w : Work) (first again : Attempt) (fields : Fields)
  | other (e : Engine)

def step (s : Gpu) : Event → Gpu
  | .allocate tag => { s with saver := s.saver.region tag }
  | .reinit w first again fields => final (trimtabReinit w first again fields) s
  | .other e => { s with engine := { e with generation := s.engine.generation } }

def stepsOf (s : Gpu) : Event → List Step
  | .allocate tag => [.allocate tag]
  | .reinit w first again fields => reinitSteps s.engine w first again fields
  | .other _ => []

/-- The allocations and pauses of a run, in their order. -/
def stepsAlong : Gpu → List Event → List Step
  | _, [] => []
  | s, e :: es => stepsOf s e ++ stepsAlong (step s e) es

theorem step_saver (s : Gpu) (e : Event) :
    (step s e).saver = run Saver.step s.saver (stepsOf s e) := by
  cases e with
  | allocate tag => rfl
  | reinit w first again fields => exact reinit_steps w first again fields s
  | other e => rfl

theorem run_saver (s : Gpu) (es : List Event) :
    (run step s es).saver = run Saver.step s.saver (stepsAlong s es) := by
  induction es generalizing s with
  | nil => rfl
  | cons e es ih => rw [run_cons, ih, stepsAlong, run_append, step_saver]

/-! ## Tags -/

def Generated (tag : String) : Prop := ∃ base ∈ movable, ∃ n, 1 ≤ n ∧ tag = base ++ suffix n

theorem toString_injective {m n : Nat} (h : toString m = toString n) : m = n := by
  have hdigits := congrArg String.toList h
  change (Nat.repr m).toList = (Nat.repr n).toList at hdigits
  rw [Nat.toList_repr, Nat.toList_repr] at hdigits
  rw [← Nat.ofDigitChars_ten_toDigits (n := m), hdigits, Nat.ofDigitChars_ten_toDigits]

theorem suffix_injective {m n : Nat} (h : suffix m = suffix n) : m = n := by
  have hlong : ∀ k : Nat, ".g" ++ toString k ≠ "" := fun k hk => by
    have := congrArg String.length hk
    simp at this
  unfold suffix at h
  split_ifs at h with hm hn hn
  · rw [hm, hn]
  · exact absurd h.symm (hlong n)
  · exact absurd h (hlong m)
  · exact toString_injective ((String.append_right_inj ".g").mp h)

theorem tag_injective {base base' : String} (hb : base ∈ movable) (hb' : base' ∈ movable)
    {m n : Nat} (h : base ++ suffix m = base' ++ suffix n) : base = base' ∧ m = n := by
  have hbase : base = base' := by
    have hhead := congrArg (fun t => t.toList.head?) h
    simp only [movable, List.mem_cons, List.not_mem_nil, or_false] at hb hb'
    rcases hb with rfl | rfl <;> rcases hb' with rfl | rfl <;> simp at hhead ⊢
  subst hbase
  exact ⟨rfl, suffix_injective ((String.append_right_inj base).mp h)⟩

theorem not_generated_of_movable {tag : String} (h : tag ∈ movable) : ¬Generated tag := by
  rintro ⟨base, hb, n, hn, htag⟩
  have hzero : tag ++ suffix 0 = base ++ suffix n := by
    rw [← htag]
    exact String.append_empty
  exact absurd (tag_injective h hb hzero).2 (Nat.ne_of_lt hn)

theorem mem_pauseTags {n : Nat} {tag : String} :
    tag ∈ pauseTags n ↔ ∃ base ∈ movable, tag = base ++ suffix n := by
  simp [pauseTags, movable]

theorem nodup_pauseTags (n : Nat) : (pauseTags n).Nodup := by
  refine List.nodup_cons.mpr ⟨fun h => ?_, List.nodup_singleton _⟩
  have hbase := (tag_injective (by decide) (by decide) (List.mem_singleton.mp h)).1
  exact absurd hbase (by decide)

/-- Generation after generation pauses tags of its own. -/
theorem pauseTags_disjoint {m n : Nat} (h : m ≠ n) : (pauseTags m).Disjoint (pauseTags n) := by
  intro tag hm hn
  obtain ⟨base, hb, rfl⟩ := mem_pauseTags.mp hm
  obtain ⟨base', hb', htag⟩ := mem_pauseTags.mp hn
  exact h (tag_injective hb hb' htag).2

theorem generated_or_movable {n : Nat} {tag : String} (h : tag ∈ pauseTags n) :
    tag ∈ movable ∨ Generated tag := by
  obtain ⟨base, hb, rfl⟩ := mem_pauseTags.mp h
  by_cases hn : n = 0
  · subst hn
    left
    rwa [show base ++ suffix 0 = base from String.append_empty]
  · exact .inr ⟨base, hb, n, Nat.one_le_iff_ne_zero.mpr hn, rfl⟩

/-! ## What holds at every moment -/

def pauses (log : List Entry) : List String := log.filterMap fun
  | .pause tag => some tag
  | .region _ _ => none

/-- No tag is paused twice, none before the last allocation under it, and none that is not of the
caches or the graphs. The allocations of these that are not paused are those to be paused next. -/
structure Safe (s : Saver) : Prop where
  once : (pauses s.log).Nodup
  last : ∀ before after asked tag, s.log = before ++ .region asked tag :: after →
    tag ∉ pauses before
  next : ∀ asked tag, Entry.region asked tag ∈ s.log → asked ∈ movable → tag ∉ pauses s.log →
    tag = asked ++ suffix (s.gen.getD 0) ∧ tag ∈ s.nextPauses
  others : ∀ asked tag, Entry.region asked tag ∈ s.log → asked ∉ movable → tag ∉ pauses s.log

/-- Both numbers are the count of the pauses, and a tag of the caches or the graphs is of a
generation up to that. -/
structure Counted (s : Saver) : Prop where
  wrapped : s.wrapped = false → s.gen.getD 0 = 0
  same : s.classGen.getD 0 = s.gen.getD 0
  paused : pauses s.log = (List.range (s.gen.getD 0)).flatMap pauseTags
  tags : ∀ asked tag, Entry.region asked tag ∈ s.log →
    if asked ∈ movable then ∃ m ≤ s.gen.getD 0, tag = asked ++ suffix m
    else tag = asked ∧ ¬Generated asked
  last : ∀ before after asked tag, s.log = before ++ .region asked tag :: after →
    tag ∉ pauses before

variable {s : Saver}

theorem pauses_append (xs ys : List Entry) : pauses (xs ++ ys) = pauses xs ++ pauses ys :=
  List.filterMap_append

theorem pauses_map_pause (tags : List String) : pauses (tags.map .pause) = tags := by
  unfold pauses
  rw [List.filterMap_map]
  exact List.filterMap_some

theorem mem_paused_iff (h : Counted s) {tag : String} :
    tag ∈ pauses s.log ↔ ∃ m < s.gen.getD 0, tag ∈ pauseTags m := by
  rw [h.paused, List.mem_flatMap]
  simp only [List.mem_range]

theorem tagFor_eq (h : Counted s) (asked : String) :
    s.tagFor asked = if asked ∈ movable then asked ++ suffix (s.gen.getD 0) else asked := by
  unfold Saver.tagFor suffix
  cases hwrapped : s.wrapped with
  | false =>
    rw [h.wrapped hwrapped, if_pos rfl, String.append_empty, ite_self]
    rfl
  | true =>
    simp only [if_true, h.same, List.contains_iff_mem]
    by_cases hgen : s.gen.getD 0 = 0
    · simp only [hgen, ne_eq, not_true_eq_false, false_and, if_false, if_true, String.append_empty,
        ite_self]
    · simp only [hgen, ne_eq, not_false_eq_true, true_and, if_false, String.append_assoc]

/-- The tag of an allocation is of the generation in force. -/
theorem tagFor_fresh (h : Counted s) {asked : String} (hasked : ¬Generated asked) :
    (if asked ∈ movable then ∃ m ≤ s.gen.getD 0, s.tagFor asked = asked ++ suffix m
      else s.tagFor asked = asked ∧ ¬Generated asked) ∧ s.tagFor asked ∉ pauses s.log := by
  rw [tagFor_eq h, mem_paused_iff h]
  by_cases hm : asked ∈ movable
  · simp only [if_pos hm]
    refine ⟨⟨_, Nat.le_refl _, rfl⟩, ?_⟩
    rintro ⟨m, hlt, htag⟩
    obtain ⟨base, hb, heq⟩ := mem_pauseTags.mp htag
    exact absurd (tag_injective hm hb heq).2 (Nat.ne_of_gt hlt)
  · simp only [if_neg hm]
    refine ⟨⟨trivial, hasked⟩, ?_⟩
    rintro ⟨m, -, htag⟩
    rcases generated_or_movable htag with hmov | hgen
    · exact hm hmov
    · exact hasked hgen

theorem safe_of_counted (h : Counted s) : Safe s where
  once := by
    rw [h.paused, List.nodup_flatMap]
    refine ⟨fun m _ => nodup_pauseTags m, ?_⟩
    exact List.nodup_range.imp fun hne => pauseTags_disjoint hne
  last := h.last
  next asked tag hregion hm hpaused := by
    have htags := h.tags asked tag hregion
    rw [if_pos hm] at htags
    obtain ⟨m, hle, rfl⟩ := htags
    have hlast : m = s.gen.getD 0 := by
      by_contra hne
      refine hpaused ((mem_paused_iff h).mpr ⟨m, Nat.lt_of_le_of_ne hle hne, ?_⟩)
      exact mem_pauseTags.mpr ⟨asked, hm, rfl⟩
    rw [hlast]
    exact ⟨rfl, mem_pauseTags.mpr ⟨asked, hm, rfl⟩⟩
  others asked tag hregion hm hpaused := by
    have htags := h.tags asked tag hregion
    rw [if_neg hm] at htags
    obtain ⟨rfl, hasked⟩ := htags
    obtain ⟨m, -, htag⟩ := (mem_paused_iff h).mp hpaused
    rcases generated_or_movable htag with hmov | hgen
    · exact hm hmov
    · exact hasked hgen

/-- An entry of a longer log is in the part before or in the part added. -/
theorem split_append {log added before after : List Entry} {x : Entry}
    (h : log ++ added = before ++ x :: after) : (∃ rest, log = before ++ x :: rest) ∨
      ∃ between, before = log ++ between ∧ added = between ++ x :: after := by
  rcases List.append_eq_append_iff.mp h with ⟨between, hbefore, hadded⟩ | ⟨rest, hlog, hx⟩
  · exact .inr ⟨between, hbefore, hadded⟩
  · cases rest with
    | nil => exact .inr ⟨[], by rw [hlog]; simp, hx.symm⟩
    | cons y rest =>
      rw [List.cons_append] at hx
      exact .inl ⟨rest, by rw [hlog, (List.cons.inj hx).1]⟩

theorem counted_region (h : Counted s) {asked : String} (hasked : ¬Generated asked) :
    Counted (s.region asked) where
  wrapped := h.wrapped
  same := h.same
  paused := by
    change pauses (s.log ++ [_]) = _
    rw [pauses_append, h.paused]
    exact List.append_nil _
  tags asked' tag hregion := by
    rcases List.mem_append.mp hregion with hold | hnew
    · exact h.tags asked' tag hold
    · cases List.mem_singleton.mp hnew
      exact (tagFor_fresh h hasked).1
  last before after asked' tag hlog := by
    rcases split_append hlog with ⟨rest, hold⟩ | ⟨between, hbefore, hnew⟩
    · exact h.last before rest asked' tag hold
    · cases between with
      | nil =>
        rw [List.nil_append] at hnew
        cases hnew
        rw [hbefore, List.append_nil]
        exact (tagFor_fresh h hasked).2
      | cons y between =>
        rw [List.cons_append] at hnew
        have hnil := (List.cons.inj hnew).2
        cases between <;> cases hnil

theorem not_region_mem_pause {tags : List String} {asked tag : String} :
    Entry.region asked tag ∉ tags.map Entry.pause := by
  rw [List.mem_map]
  rintro ⟨t, -, h⟩
  cases h

theorem counted_retire (h : Counted s) : Counted s.retire where
  wrapped hw := by cases hw
  same := rfl
  paused := by
    change pauses (s.log ++ _) = (List.range (s.gen.getD 0 + 1)).flatMap pauseTags
    rw [pauses_append, pauses_map_pause, h.paused, List.range_succ, List.flatMap_append,
      List.flatMap_singleton]
  tags asked tag hregion := by
    rcases List.mem_append.mp hregion with hold | hnew
    · have htags := h.tags asked tag hold
      split at htags
      · obtain ⟨m, hle, htag⟩ := htags
        rename_i hm
        rw [if_pos hm]
        exact ⟨m, Nat.le_succ_of_le hle, htag⟩
      · rename_i hm
        rw [if_neg hm]
        exact htags
    · exact absurd hnew not_region_mem_pause
  last before after asked tag hlog := by
    rcases split_append hlog with ⟨rest, hold⟩ | ⟨between, -, hnew⟩
    · exact h.last before rest asked tag hold
    · have hmem : Entry.region asked tag ∈ (pauseTags (s.gen.getD 0)).map Entry.pause := by
        rw [hnew]
        exact List.mem_append_right _ List.mem_cons_self
      exact absurd hmem not_region_mem_pause

theorem counted_empty : Counted {} where
  wrapped _ := rfl
  same := rfl
  paused := rfl
  tags _ _ h := by cases h
  last before after asked tag h := by cases before <;> cases h

theorem counted_run {s : Saver} (h : Counted s) {steps : List Step}
    (hasked : ∀ tag, Step.allocate tag ∈ steps → ¬Generated tag) :
    Counted (run Saver.step s steps) := by
  induction steps generalizing s with
  | nil => exact h
  | cons st steps ih =>
    have htail : ∀ tag, Step.allocate tag ∈ steps → ¬Generated tag :=
      fun tag ht => hasked tag (List.mem_cons_of_mem st ht)
    cases st with
    | allocate tag => exact ih (counted_region h (hasked tag List.mem_cons_self)) htail
    | retire => exact ih (counted_retire h) htail

/-- At every moment of every run of calls, as long as nobody asks for an allocation under a tag of
the wrapper's own. -/
theorem generations_never_collide (e : Engine) (es : List Event)
    (hasked : ∀ tag, Step.allocate tag ∈ stepsAlong ⟨e, {}⟩ es → ¬Generated tag)
    (moment : List Step) (hmoment : moment <+: stepsAlong ⟨e, {}⟩ es) :
    Safe (run Saver.step {} moment) :=
  safe_of_counted (counted_run counted_empty fun tag ht => hasked tag (hmoment.subset ht))

def started : List Event := [.allocate "weights", .allocate "kv_cache", .allocate "cuda_graph"]

def reinitOnce : Event :=
  .reinit { first := ["kv_cache", "cuda_graph"] } (capable booted) (capable booted) ∅

theorem weights_not_generated : ¬Generated "weights" := by
  rintro ⟨base, hb, n, -, htag⟩
  have hhead := congrArg (fun t => t.toList.head?) htag
  simp only [movable, List.mem_cons, List.not_mem_nil, or_false] at hb
  rcases hb with rfl | rfl <;> simp at hhead

theorem reinit_twice_safe : Safe (run Saver.step {}
    (stepsAlong ⟨booted, {}⟩ (started ++ [reinitOnce, reinitOnce]))) := by
  refine generations_never_collide booted _ (fun tag htag => ?_) _ List.prefix_rfl
  have htags : (stepsAlong ⟨booted, {}⟩ (started ++ [reinitOnce, reinitOnce])).all (fun st =>
      st = .retire ∨ st ∈ ("weights" :: movable).map Step.allocate) = true := by decide +kernel
  have hmem := of_decide_eq_true (List.all_eq_true.mp htags _ htag)
  rcases hmem with h | h
  · cases h
  · obtain ⟨tag', htag', heq⟩ := List.mem_map.mp h
    cases heq
    rcases List.mem_cons.mp htag' with rfl | hm
    · exact weights_not_generated
    · exact not_generated_of_movable hm

/-- An allocation under a tag of the wrapper's own is paused with the caches. -/
theorem borrowed_tag_paused : ¬Safe (run Saver.step {} (stepsAlong ⟨booted, {}⟩
    [.allocate "kv_cache.g1", reinitOnce, reinitOnce])) := by
  intro h
  have hlog : (run Saver.step {} (stepsAlong ⟨booted, {}⟩
      [.allocate "kv_cache.g1", reinitOnce, reinitOnce])).log.head? =
        some (.region "kv_cache.g1" "kv_cache.g1") ∧
      "kv_cache.g1" ∈ pauses (run Saver.step {} (stepsAlong ⟨booted, {}⟩
        [.allocate "kv_cache.g1", reinitOnce, reinitOnce])).log := by decide +kernel
  exact h.others "kv_cache.g1" "kv_cache.g1" (List.mem_of_head? hlog.1) (by decide) hlog.2

end Trimtab.SglangGenerations
