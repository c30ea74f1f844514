import Trimtab.VllmPatch

set_option autoImplicit false

/-!
# What the vLLM script does to a tree

The files are edited one after the other. As no edit reaches another one's file, each finds the
text that stood there before the run.
-/
namespace Trimtab.VllmPatch
open Effects PyText Substrings InstalledTree

variable {parses : Text → Bool} {files : Files}

structure Edit where
  path : String
  anchor : Text
  body : Text

def edits (texts : Texts) (r : String) : List Edit :=
  [⟨r ++ "/v1/engine/core.py", CORE_ANCHOR, CORE_BODY texts.coreBody ++ CORE_ANCHOR⟩,
    ⟨r ++ "/entrypoints/serve/__init__.py", INIT_ANCHOR, INIT_BODY⟩,
    ⟨r ++ "/v1/core/sched/scheduler.py", SCHED_ANCHOR, SCHED_BODY⟩,
    ⟨r ++ "/v1/worker/gpu_worker.py", WORKER_ANCHOR, WORKER_BODY texts.workerBody⟩]

namespace Edit

def run (parses : Text → Bool) (checkOnly : Bool) (e : Edit) : Script Unit := do
  let _ ← edit parses e.path e.anchor e.body checkOnly

def output (e : Edit) (src : Text) : Text := replaceFirst e.anchor e.body src

def Patched (files : Files) (e : Edit) : Prop :=
  ∃ src, reading files e.path = some src ∧ AlreadyPatched src

def Anchored (files : Files) (e : Edit) : Prop :=
  ∃ src, reading files e.path = some src ∧ ¬AlreadyPatched src ∧ count e.anchor src = 1

def Editable (parses : Text → Bool) (files : Files) (e : Edit) : Prop :=
  ∃ src, reading files e.path = some src ∧ ¬AlreadyPatched src ∧ count e.anchor src = 1 ∧
    parses (e.output src) = true

def Drifted (files : Files) (e : Edit) : Prop :=
  ∃ src, reading files e.path = some src ∧ ¬AlreadyPatched src ∧ count e.anchor src ≠ 1

def Passes (parses : Text → Bool) (files : Files) (e : Edit) : Prop :=
  e.Patched files ∨ e.Editable parses files

def write (files : Files) (e : Edit) : Files :=
  match reading files e.path with
  | none => files
  | some src => if AlreadyPatched src then files else replaced files e.path (e.output src)

variable {e d : Edit} {src : Text}

theorem run_of_edit {checkOnly : Bool} {files after : Files} (answer : String)
    (h : (edit parses e.path e.anchor e.body checkOnly).run files = .ok answer after) :
    (e.run parses checkOnly).run files = .ok () after := by
  unfold run
  rw [EStateM.run_bind, h]
  rfl

theorem error_of_edit {checkOnly : Bool} {files after : Files} {halt : Halt}
    (h : (edit parses e.path e.anchor e.body checkOnly).run files = .error halt after) :
    (e.run parses checkOnly).run files = .error halt after := by
  unfold run
  rw [EStateM.run_bind, h]

theorem run_missing (checkOnly : Bool) (h : reading files e.path = none) :
    (e.run parses checkOnly).run files = .error (.fileNotFound e.path) files := by
  refine error_of_edit ?_
  unfold edit
  rw [EStateM.run_bind, readText_of_none h]

theorem run_patched (checkOnly : Bool) (h : e.Patched files) :
    (e.run parses checkOnly).run files = .ok () files := by
  obtain ⟨src, hread, hpatched⟩ := h
  refine run_of_edit "already patched" ?_
  unfold edit
  rw [EStateM.run_bind, readText_of_some hread]
  simp only [if_pos hpatched]
  rfl

theorem run_drifted (parses : Text → Bool) (checkOnly : Bool) (h : e.Drifted files) :
    ∃ m, (e.run parses checkOnly).run files = .error (.anchorMismatch m) files := by
  obtain ⟨src, hread, hpatched, hcount⟩ := h
  refine ⟨s!"anchor matched {count e.anchor src} times in {e.path}, refusing to edit",
    error_of_edit ?_⟩
  unfold edit
  rw [EStateM.run_bind, readText_of_some hread]
  simp only [if_neg hpatched, if_pos hcount]
  rfl

theorem run_check (h : e.Anchored files) : (e.run parses true).run files = .ok () files := by
  obtain ⟨src, hread, hpatched, hcount⟩ := h
  refine run_of_edit "anchor ok" ?_
  unfold edit
  rw [EStateM.run_bind, readText_of_some hread]
  simp only [if_neg hpatched, hcount, ne_eq, not_true_eq_false, if_false, if_true]
  rfl

theorem write_of_some (hread : reading files e.path = some src) (hpatched : ¬AlreadyPatched src) :
    e.write files = replaced files e.path (e.output src) := by
  rw [write, hread]
  exact if_neg hpatched

theorem write_of_patched (h : e.Patched files) : e.write files = files := by
  obtain ⟨src, hread, hpatched⟩ := h
  rw [write, hread]
  exact if_pos hpatched

theorem run_editable (h : e.Editable parses files) :
    (e.run parses false).run files = .ok () (e.write files) := by
  obtain ⟨src, hread, hpatched, hcount, hparses⟩ := h
  rw [write_of_some hread hpatched]
  refine run_of_edit "patched" ?_
  have hout : parses (replaceFirst e.anchor e.body src) = true := hparses
  unfold edit
  rw [EStateM.run_bind, readText_of_some hread]
  simp only [if_neg hpatched, hcount, hout, ne_eq, not_true_eq_false, if_false, if_true,
    Bool.false_eq_true]
  rw [EStateM.run_bind, run_copyfile hread]
  rfl

theorem run_unparsable (hread : reading files e.path = some src) (hpatched : ¬AlreadyPatched src)
    (hcount : count e.anchor src = 1) (hparses : ¬parses (e.output src) = true) :
    (e.run parses false).run files = .error .syntaxError files := by
  refine error_of_edit ?_
  have hout : ¬parses (replaceFirst e.anchor e.body src) = true := hparses
  unfold edit
  rw [EStateM.run_bind, readText_of_some hread]
  simp only [if_neg hpatched, hcount, hout, ne_eq, not_true_eq_false, if_false, Bool.false_eq_true]
  rfl

theorem run_passes (h : e.Passes parses files) :
    (e.run parses false).run files = .ok () (e.write files) := by
  rcases h with h | h
  · rw [write_of_patched h]
    exact run_patched false h
  · exact run_editable h

theorem Passes.not_drifted (h : e.Passes parses files) : ¬e.Drifted files := by
  rintro ⟨src, hread, hpatched, hcount⟩
  rcases h with ⟨src', hread', h⟩ | ⟨src', hread', -, h, -⟩
  all_goals
    rw [hread] at hread'
    cases hread'
  · exact hpatched h
  · exact hcount h

theorem run_check_stops (h : ¬(e.Patched files ∨ e.Anchored files)) :
    ∃ halt, (e.run parses true).run files = .error halt files ∧ exitStatus (.error halt files) = 1 := by
  cases hread : reading files e.path with
  | none => exact ⟨_, run_missing true hread, rfl⟩
  | some src =>
    have hpatched : ¬AlreadyPatched src := fun hp => h (.inl ⟨src, hread, hp⟩)
    have hcount : count e.anchor src ≠ 1 := fun hc => h (.inr ⟨src, hread, hpatched, hc⟩)
    obtain ⟨m, hrun⟩ := run_drifted parses true ⟨src, hread, hpatched, hcount⟩
    exact ⟨_, hrun, rfl⟩

/-- An edit that does not go through stops the script with the files as they were. -/
theorem run_stops (h : ¬e.Passes parses files) : ∃ halt,
    (e.run parses false).run files = .error halt files ∧ exitStatus (.error halt files) = 1 ∧
      ((∃ m, halt = .anchorMismatch m) ↔ e.Drifted files) := by
  cases hread : reading files e.path with
  | none =>
    refine ⟨_, run_missing false hread, rfl, iff_of_false ?_ ?_⟩
    · rintro ⟨m, hm⟩
      cases hm
    · rintro ⟨src, hread', -⟩
      rw [hread] at hread'
      cases hread'
  | some src =>
    have hpatched : ¬AlreadyPatched src := fun hp => h (.inl ⟨src, hread, hp⟩)
    by_cases hcount : count e.anchor src = 1
    · have hparses : ¬parses (e.output src) = true :=
        fun hp => h (.inr ⟨src, hread, hpatched, hcount, hp⟩)
      refine ⟨_, run_unparsable hread hpatched hcount hparses, rfl, iff_of_false ?_ ?_⟩
      · rintro ⟨m, hm⟩
        cases hm
      · rintro ⟨src', hread', -, hcount'⟩
        rw [hread] at hread'
        exact hcount' (Option.some.inj hread' ▸ hcount)
    · have hdrifted : e.Drifted files := ⟨src, hread, hpatched, hcount⟩
      obtain ⟨m, hrun⟩ := run_drifted parses false hdrifted
      exact ⟨_, hrun, rfl, iff_of_true ⟨m, rfl⟩ hdrifted⟩

theorem write_other {p : String} (h : p ≠ e.path) (hbackup : p ≠ backup e.path) :
    e.write files p = files p := by
  unfold write
  cases reading files e.path with
  | none => rfl
  | some src =>
    simp only
    split_ifs with hpatched
    · rfl
    · exact replaced_other _ h hbackup

theorem reading_write {p : String} (h : Apart p e.path) :
    reading (e.write files) p = reading files p := by
  rw [reading, reading, write_other h.1 h.2.1]

theorem write_self_congr {files files' : Files} (h : files' e.path = files e.path) :
    e.write files' e.path = e.write files e.path := by
  have hread : reading files' e.path = reading files e.path := by rw [reading, reading, h]
  rw [write, write, hread]
  cases reading files e.path with
  | none => exact h
  | some src =>
    simp only
    split_ifs
    · exact h
    · rw [replaced_same, replaced_same]

variable (h : Apart e.path d.path)
include h

theorem drifted_write : e.Drifted (d.write files) ↔ e.Drifted files := by
  rw [Drifted, Drifted, reading_write h]

theorem passes_write : e.Passes parses (d.write files) ↔ e.Passes parses files := by
  rw [Passes, Passes, Patched, Patched, Editable, Editable, reading_write h]

end Edit

/-! ### One edit after the other -/

def Separate (es : List Edit) : Prop := es.Pairwise fun e d => Apart e.path d.path

def runs (parses : Text → Bool) (checkOnly : Bool) (es : List Edit) : Script Unit :=
  es.forM (Edit.run parses checkOnly)

def writes (files : Files) (es : List Edit) : Files := es.foldl Edit.write files

/-- The first edit that does not go through is of a drifted file. -/
def StopsAt (parses : Text → Bool) (files : Files) (es pre : List Edit) : Prop :=
  ∃ e post, es = pre ++ e :: post ∧ (∀ d ∈ pre, d.Passes parses files) ∧ e.Drifted files

variable {e : Edit} {es pre : List Edit}

theorem runs_nil (checkOnly : Bool) : runs parses checkOnly [] = pure () := rfl

theorem runs_cons (checkOnly : Bool) (e : Edit) (es : List Edit) :
    runs parses checkOnly (e :: es) = (do
      e.run parses checkOnly
      runs parses checkOnly es) := rfl

theorem runs_cons_ok {checkOnly : Bool} {files after : Files}
    (h : (e.run parses checkOnly).run files = .ok () after) :
    (runs parses checkOnly (e :: es)).run files = (runs parses checkOnly es).run after := by
  rw [runs_cons, EStateM.run_bind, h]

theorem runs_cons_error {checkOnly : Bool} {files after : Files} {halt : Halt}
    (h : (e.run parses checkOnly).run files = .error halt after) :
    (runs parses checkOnly (e :: es)).run files = .error halt after := by
  rw [runs_cons, EStateM.run_bind, h]

theorem passes_of_cons (hsep : Separate (e :: es)) {d : Edit} (hd : d ∈ es) :
    d.Passes parses (e.write files) ↔ d.Passes parses files :=
  Edit.passes_write ((List.pairwise_cons.mp hsep).1 d hd).symm

theorem drifted_of_cons (hsep : Separate (e :: es)) {d : Edit} (hd : d ∈ es) :
    d.Drifted (e.write files) ↔ d.Drifted files :=
  Edit.drifted_write ((List.pairwise_cons.mp hsep).1 d hd).symm

theorem not_stopsAt_nil : ¬StopsAt parses files [] pre := by
  rintro ⟨e, post, h, -⟩
  exact List.cons_ne_nil _ _ (List.append_eq_nil_iff.mp h.symm).2

theorem stopsAt_cons (hsep : Separate (e :: es)) (h : e.Passes parses files) :
    StopsAt parses files (e :: es) pre ↔
      ∃ rest, pre = e :: rest ∧ StopsAt parses (e.write files) es rest := by
  constructor
  · rintro ⟨d, post, hsplit, hpre, hdrifted⟩
    cases pre with
    | nil =>
      rw [List.nil_append] at hsplit
      cases hsplit
      exact absurd hdrifted h.not_drifted
    | cons e' rest =>
      cases hsplit
      refine ⟨rest, rfl, d, post, rfl, fun d' hd' => ?_, ?_⟩
      · exact (passes_of_cons hsep (List.mem_append_left _ hd')).mpr
          (hpre d' (List.mem_cons_of_mem _ hd'))
      · exact (drifted_of_cons hsep (List.mem_append_right _ List.mem_cons_self)).mpr hdrifted
  · rintro ⟨rest, rfl, d, post, rfl, hrest, hdrifted⟩
    refine ⟨d, post, rfl, fun d' hd' => ?_, ?_⟩
    · rcases List.mem_cons.mp hd' with rfl | hd'
      · exact h
      · exact (passes_of_cons hsep (List.mem_append_left _ hd')).mp (hrest d' hd')
    · exact (drifted_of_cons hsep (List.mem_append_right _ List.mem_cons_self)).mp hdrifted

theorem stopsAt_of_not_passes (h : ¬e.Passes parses files) :
    StopsAt parses files (e :: es) pre ↔ pre = [] ∧ e.Drifted files := by
  constructor
  · rintro ⟨d, post, hsplit, hpre, hdrifted⟩
    cases pre with
    | nil =>
      cases hsplit
      exact ⟨rfl, hdrifted⟩
    | cons e' rest =>
      cases hsplit
      exact absurd (hpre e List.mem_cons_self) h
  · rintro ⟨rfl, hdrifted⟩
    exact ⟨e, es, rfl, fun d hd => absurd hd List.not_mem_nil, hdrifted⟩

/-- A mismatch is reported where a drifted file stops the run, with the edits before it made. -/
theorem runs_mismatch_iff (hsep : Separate es) (files after : Files) :
    (∃ m, (runs parses false es).run files = .error (.anchorMismatch m) after) ↔
      ∃ pre, StopsAt parses files es pre ∧ after = writes files pre := by
  induction es generalizing files with
  | nil =>
    refine iff_of_false ?_ ?_
    · rintro ⟨m, h⟩
      cases h
    · rintro ⟨pre, h, -⟩
      exact not_stopsAt_nil h
  | cons e es ih =>
    by_cases hpass : e.Passes parses files
    · rw [runs_cons_ok (Edit.run_passes hpass), ih (List.pairwise_cons.mp hsep).2]
      constructor
      · rintro ⟨pre, hstop, rfl⟩
        exact ⟨e :: pre, (stopsAt_cons hsep hpass).mpr ⟨pre, rfl, hstop⟩, rfl⟩
      · rintro ⟨pre, hstop, rfl⟩
        obtain ⟨rest, rfl, hrest⟩ := (stopsAt_cons hsep hpass).mp hstop
        exact ⟨rest, hrest, rfl⟩
    · obtain ⟨halt, hrun, -, hhalt⟩ := Edit.run_stops hpass
      rw [runs_cons_error hrun]
      simp only [stopsAt_of_not_passes hpass]
      constructor
      · rintro ⟨m, h⟩
        cases h
        exact ⟨[], ⟨rfl, hhalt.mp ⟨m, rfl⟩⟩, rfl⟩
      · rintro ⟨pre, ⟨rfl, hdrifted⟩, rfl⟩
        obtain ⟨m, rfl⟩ := hhalt.mpr hdrifted
        exact ⟨m, rfl⟩

theorem runs_ok_iff (hsep : Separate es) (files after : Files) :
    (runs parses false es).run files = .ok () after ↔
      (∀ e ∈ es, e.Passes parses files) ∧ after = writes files es := by
  induction es generalizing files with
  | nil =>
    constructor
    · intro h
      cases h
      exact ⟨fun e he => absurd he List.not_mem_nil, rfl⟩
    · rintro ⟨-, rfl⟩
      rfl
  | cons e es ih =>
    rw [List.forall_mem_cons]
    by_cases hpass : e.Passes parses files
    · rw [runs_cons_ok (Edit.run_passes hpass), ih (List.pairwise_cons.mp hsep).2,
        and_iff_right hpass]
      refine and_congr_left' (forall₂_congr fun d hd => passes_of_cons hsep hd)
    · obtain ⟨halt, hrun, -, -⟩ := Edit.run_stops hpass
      rw [runs_cons_error hrun]
      refine iff_of_false (fun h => ?_) fun h => hpass h.1.1
      cases h

theorem runs_error_exit (hsep : Separate es) {halt : Halt} {files after : Files}
    (hrun : (runs parses false es).run files = .error halt after) :
    exitStatus (.error halt after) = 1 := by
  induction es generalizing files with
  | nil => cases hrun
  | cons e es ih =>
    by_cases hpass : e.Passes parses files
    · rw [runs_cons_ok (Edit.run_passes hpass)] at hrun
      exact ih (List.pairwise_cons.mp hsep).2 hrun
    · obtain ⟨halt', hstop, hexit, -⟩ := Edit.run_stops hpass
      rw [runs_cons_error hstop] at hrun
      cases hrun
      exact hexit

theorem writes_other {p : String} (h : ∀ e ∈ es, Apart p e.path) (files : Files) :
    writes files es p = files p := by
  induction es generalizing files with
  | nil => rfl
  | cons e es ih =>
    have he := h e List.mem_cons_self
    change writes (e.write files) es p = _
    rw [ih (fun d hd => h d (List.mem_cons_of_mem e hd)), Edit.write_other he.1 he.2.1]

/-- Every edit's file holds what that edit alone makes of it. -/
theorem writes_mem (hsep : Separate es) (files : Files) {d : Edit} (hd : d ∈ es) :
    writes files es d.path = d.write files d.path := by
  induction es generalizing files with
  | nil => exact absurd hd List.not_mem_nil
  | cons e es ih =>
    obtain ⟨hhead, htail⟩ := List.pairwise_cons.mp hsep
    change writes (e.write files) es d.path = _
    rcases List.mem_cons.mp hd with rfl | hd
    · exact writes_other hhead _
    · have hapart := (hhead d hd).symm
      rw [ih htail _ hd]
      exact Edit.write_self_congr (Edit.write_other hapart.1 hapart.2.1)

theorem writes_patched (h : ∀ e ∈ es, e.Patched files) : writes files es = files := by
  induction es with
  | nil => rfl
  | cons e es ih =>
    change writes (e.write files) es = files
    rw [Edit.write_of_patched (h e List.mem_cons_self)]
    exact ih fun d hd => h d (List.mem_cons_of_mem e hd)

theorem runs_check_final (es : List Edit) (files : Files) :
    final (runs parses true es) files = files := by
  induction es with
  | nil => rfl
  | cons e es ih =>
    by_cases hok : e.Patched files ∨ e.Anchored files
    · have hrun : (e.run parses true).run files = .ok () files := by
        rcases hok with h | h
        · exact Edit.run_patched true h
        · exact Edit.run_check h
      exact (final_of_run_eq (runs_cons_ok hrun)).trans ih
    · obtain ⟨halt, hrun, -⟩ := Edit.run_check_stops hok
      exact final_of_error (runs_cons_error hrun)

theorem runs_check_exit (es : List Edit) (files : Files) :
    exitStatus ((runs parses true es).run files) = 0 ↔
      ∀ e ∈ es, e.Patched files ∨ e.Anchored files := by
  induction es with
  | nil => exact iff_of_true rfl fun e he => absurd he List.not_mem_nil
  | cons e es ih =>
    rw [List.forall_mem_cons]
    by_cases hok : e.Patched files ∨ e.Anchored files
    · have hrun : (e.run parses true).run files = .ok () files := by
        rcases hok with h | h
        · exact Edit.run_patched true h
        · exact Edit.run_check h
      rw [runs_cons_ok hrun, ih, and_iff_right hok]
    · obtain ⟨halt, hrun, hexit⟩ := Edit.run_check_stops hok
      rw [runs_cons_error hrun, hexit]
      exact iff_of_false Nat.one_ne_zero fun h => hok h.1

/-! ### The four files -/

section Tree

variable {texts : Texts} {r : String}

theorem path_ne (r : String) {a b : String} (h : a ≠ b) : r ++ a ≠ r ++ b := by
  rw [ne_eq, ← String.toList_inj, String.toList_append, String.toList_append,
    List.append_cancel_left_eq, String.toList_inj]
  exact h

theorem path_apart (r : String) {a b : String} (hne : a ≠ b) (hab : a ≠ b ++ origSuffix)
    (hba : b ≠ a ++ origSuffix) : Apart (r ++ a) (r ++ b) := by
  refine ⟨path_ne r hne, ?_, ?_⟩
  · rw [backup, String.append_assoc]
    exact path_ne r hab
  · rw [backup, String.append_assoc]
    exact path_ne r hba

theorem edits_separate : Separate (edits texts r) := by
  unfold Separate edits
  simp only [List.pairwise_cons, List.mem_cons, List.not_mem_nil, or_false, forall_eq_or_imp,
    forall_eq, IsEmpty.forall_iff, implies_true, and_true, List.Pairwise.nil]
  refine ⟨⟨?_, ?_, ?_⟩, ⟨?_, ?_⟩, ?_⟩
  all_goals exact path_apart r (by decide) (by decide) (by decide)

theorem path_not_backup (r : String) {a : String} (h : a.toList.getLast? = some 'y') :
    ¬IsBackup (r ++ a) := by
  refine not_isBackup fun c hc => ?_
  rw [String.toList_append, List.getLast?_append, h] at hc
  exact (Option.some.inj hc).symm

theorem edits_not_backup {e : Edit} (he : e ∈ edits texts r) : ¬IsBackup e.path := by
  simp only [edits, List.mem_cons, List.not_mem_nil, or_false] at he
  rcases he with rfl | rfl | rfl | rfl
  all_goals exact path_not_backup r (by decide)

theorem main_eq (parses : Text → Bool) (texts : Texts) (r : String) (checkOnly : Bool) :
    main parses texts r checkOnly = (do
      runs parses checkOnly (edits texts r)
      if checkOnly then return else writeRouter parses texts r) := by
  simp only [main, edits, runs_cons, runs_nil, Edit.run, bind_assoc, pure_bind]

theorem run_main_ok {checkOnly : Bool} {files after : Files}
    (h : (runs parses checkOnly (edits texts r)).run files = .ok () after) :
    (main parses texts r checkOnly).run files =
      (if checkOnly then pure () else writeRouter parses texts r : Script Unit).run after := by
  rw [main_eq, EStateM.run_bind, h]

theorem run_main_error {checkOnly : Bool} {files after : Files} {halt : Halt}
    (h : (runs parses checkOnly (edits texts r)).run files = .error halt after) :
    (main parses texts r checkOnly).run files = .error halt after := by
  rw [main_eq, EStateM.run_bind, h]

/-! ### Bodies that show in the text -/

/-- An edited file is told from an unedited one. -/
structure Marks (e : Edit) : Prop where
  anchor_ne_nil : e.anchor ≠ []
  no_return : '\r' ∉ e.body
  mark : ∃ mark, mark <:+: e.body ∧ ∀ src, mark <:+: src → AlreadyPatched src

theorem Marks.changed {e : Edit} (hmarks : Marks e) (h : e.Editable parses files) :
    e.write files e.path ≠ files e.path := by
  obtain ⟨src, hread, hpatched, hcount, -⟩ := h
  obtain ⟨mark, hbody, hmark⟩ := hmarks.mark
  rw [Edit.write_of_some hread hpatched, replaced_same]
  exact written_ne hread (hcount ▸ Nat.one_ne_zero) hmarks.anchor_ne_nil hmarks.no_return hbody
    fun hsrc => hpatched (hmark src hsrc)

/-- The script's own texts have no carriage return, and each new text has its mark. -/
structure TextsFit : Prop where
  core_anchor : '\r' ∉ CORE_ANCHOR
  core_methods : '\r' ∉ CORE_METHODS
  core_marker : MARKER <:+: CORE_METHODS
  init_body : '\r' ∉ INIT_BODY
  init_mark : "attach_trimtab_router".toList <:+: INIT_BODY
  sched_body : '\r' ∉ SCHED_BODY
  sched_mark : "_trimtab_pending_max_num_seqs".toList <:+: SCHED_BODY

set_option maxRecDepth 20000 in
theorem textsFit : TextsFit where
  core_anchor := by
    unfold CORE_ANCHOR
    rw [toList_literal rfl]
    decide +kernel
  core_methods := by
    unfold CORE_METHODS
    rw [toList_literal rfl]
    decide +kernel
  core_marker := by
    unfold MARKER CORE_METHODS
    rw [toList_literal rfl, toList_literal rfl]
    decide +kernel
  init_body := by
    unfold INIT_BODY INIT_ANCHOR INIT_LINES
    rw [toList_literal rfl, toList_literal rfl]
    decide +kernel
  init_mark := by
    unfold INIT_BODY INIT_ANCHOR INIT_LINES
    rw [toList_literal rfl, toList_literal rfl, toList_literal rfl]
    decide +kernel
  sched_body := by
    unfold SCHED_BODY SCHED_ANCHOR SCHED_LINES
    rw [toList_literal rfl, toList_literal rfl]
    decide +kernel
  sched_mark := by
    unfold SCHED_BODY SCHED_ANCHOR SCHED_LINES
    rw [toList_literal rfl, toList_literal rfl, toList_literal rfl]
    decide +kernel

theorem core_marks (texts : Texts) (path : String) :
    Marks ⟨path, CORE_ANCHOR, CORE_BODY texts.coreBody ++ CORE_ANCHOR⟩ where
  anchor_ne_nil := by
    unfold CORE_ANCHOR
    rw [toList_literal rfl]
    exact List.cons_ne_nil _ _
  no_return := by
    simp only [CORE_BODY, List.mem_append, not_or]
    exact ⟨⟨universalNewlines_no_return _, textsFit.core_methods⟩, textsFit.core_anchor⟩
  mark := ⟨MARKER, (textsFit.core_marker.trans (List.suffix_append _ _).isInfix).trans
    (List.prefix_append _ _).isInfix, fun _ h => .inl h⟩

theorem serve_marks (path : String) : Marks ⟨path, INIT_ANCHOR, INIT_BODY⟩ where
  anchor_ne_nil := by
    unfold INIT_ANCHOR
    rw [toList_literal rfl]
    exact List.cons_ne_nil _ _
  no_return := textsFit.init_body
  mark := ⟨_, textsFit.init_mark, fun _ h => .inr (.inl h)⟩

theorem sched_marks (path : String) : Marks ⟨path, SCHED_ANCHOR, SCHED_BODY⟩ where
  anchor_ne_nil := by
    unfold SCHED_ANCHOR
    rw [toList_literal rfl]
    exact List.cons_ne_nil _ _
  no_return := textsFit.sched_body
  mark := ⟨_, textsFit.sched_mark, fun _ h => .inr (.inr (.inl h))⟩

/-- The last file is never followed by one that can stop the run. -/
theorem marks_of_before {e d : Edit} {pre post : List Edit}
    (hsplit : edits texts r = pre ++ e :: post) (hd : d ∈ pre) : Marks d := by
  have hmem : d ∈ (edits texts r).dropLast := by
    rw [hsplit, List.dropLast_append_of_ne_nil (List.cons_ne_nil e post)]
    exact List.mem_append_left _ hd
  simp only [edits, List.dropLast_cons_cons, List.dropLast_singleton, List.mem_cons,
    List.not_mem_nil, or_false] at hmem
  rcases hmem with rfl | rfl | rfl
  · exact core_marks texts _
  · exact serve_marks _
  · exact sched_marks _

/-! ### The whole script -/

/-- A run that reports a mismatch has left every file as it was. -/
def AllOrNothing (parses : Text → Bool) (texts : Texts) (r : String) (files : Files) : Prop :=
  ∀ m after, (main parses texts r false).run files = .error (.anchorMismatch m) after →
    Unchanged files after

def routed (texts : Texts) (r : String) (files : Files) : Files :=
  let init := r ++ "/entrypoints/serve/dev/trimtab/__init__.py"
  Function.update (Function.update files init (some ((files init).getD [])))
    (r ++ "/entrypoints/serve/dev/trimtab/api_router.py") (some texts.ROUTER_FILE)

theorem run_writeRouter (parses : Text → Bool) (texts : Texts) (r : String) (files : Files) :
    (writeRouter parses texts r).run files =
      if parses texts.ROUTER_FILE then .ok () (routed texts r files)
      else .error .syntaxError (routed texts r files) := by
  unfold writeRouter
  rw [EStateM.run_bind]
  split_ifs with hparses
  · rfl
  · rfl

theorem routed_edits {e : Edit} (he : e ∈ edits texts r) (files : Files) :
    routed texts r files e.path = files e.path := by
  have hne {a b : String} (h : a ≠ b) : r ++ a ≠ r ++ b := path_ne r h
  simp only [edits, List.mem_cons, List.not_mem_nil, or_false] at he
  rcases he with rfl | rfl | rfl | rfl
  all_goals
    exact (Function.update_of_ne (hne (by decide)) _ _).trans
      (Function.update_of_ne (hne (by decide)) _ _)

theorem main_mismatch_iff (files after : Files) :
    (∃ m, (main parses texts r false).run files = .error (.anchorMismatch m) after) ↔
      ∃ pre, StopsAt parses files (edits texts r) pre ∧ after = writes files pre := by
  rw [← runs_mismatch_iff edits_separate]
  cases hrun : (runs parses false (edits texts r)).run files with
  | error halt t => rw [run_main_error hrun]
  | ok u t =>
    rw [run_main_ok hrun, if_neg Bool.false_ne_true, run_writeRouter]
    refine iff_of_false ?_ ?_
    · rintro ⟨m, h⟩
      split_ifs at h
      cases h
    · rintro ⟨m, h⟩
      cases h

/-- It has not exactly where a file was edited before a drifted one was looked at. -/
theorem allOrNothing_iff : AllOrNothing parses texts r files ↔
    ∀ pre, StopsAt parses files (edits texts r) pre → ∀ d ∈ pre, d.Patched files := by
  constructor
  · intro hall pre hstop d hd
    obtain ⟨m, hrun⟩ := (main_mismatch_iff files _).mpr ⟨pre, hstop, rfl⟩
    obtain ⟨e, post, hsplit, hpass, -⟩ := hstop
    have hmem : d ∈ edits texts r := hsplit ▸ List.mem_append_left _ hd
    have hsep : Separate pre := by
      have hall : Separate (edits texts r) := edits_separate
      rw [hsplit] at hall
      exact (List.pairwise_append.mp hall).1
    have hsame := hall m _ hrun d.path (edits_not_backup hmem)
    rw [writes_mem hsep files hd] at hsame
    exact (hpass d hd).resolve_right fun hedit => (marks_of_before hsplit hd).changed hedit hsame
  · intro hpatched m after hrun
    obtain ⟨pre, hstop, rfl⟩ := (main_mismatch_iff files after).mp ⟨m, hrun⟩
    rw [writes_patched (hpatched pre hstop)]
    exact Unchanged.refl files

/-! ### `--check` -/

theorem check_writes_nothing (parses : Text → Bool) (texts : Texts) (r : String) (files : Files) :
    final (main parses texts r true) files = files := by
  have hfinal : final (runs parses true (edits texts r)) files = files := runs_check_final _ _
  cases hrun : (runs parses true (edits texts r)).run files with
  | ok u t =>
    rw [final_of_ok hrun] at hfinal
    rw [hfinal] at hrun
    exact final_of_ok (run_main_ok hrun)
  | error halt t =>
    rw [final_of_error hrun] at hfinal
    rw [hfinal] at hrun
    exact final_of_error (run_main_error hrun)

def Patches (texts : Texts) (r : String) (before after : Files) : Prop :=
  ∀ e ∈ edits texts r, ∃ src, reading before e.path = some src ∧ after e.path = some (e.output src)

/-- A run without `--check` ends with status 0 and every file patched. -/
def Succeeds (parses : Text → Bool) (texts : Texts) (r : String) (files : Files) : Prop :=
  exitStatus ((main parses texts r false).run files) = 0 ∧
    Patches texts r files (final (main parses texts r false) files)

def Unpatched (texts : Texts) (r : String) (files : Files) : Prop :=
  ∀ e ∈ edits texts r, ∃ src, reading files e.path = some src ∧ ¬AlreadyPatched src

theorem check_exits_zero_iff (h : Unpatched texts r files) :
    exitStatus ((main parses texts r true).run files) = 0 ↔
      ∀ e ∈ edits texts r, e.Anchored files := by
  have hexit : exitStatus ((runs parses true (edits texts r)).run files) = 0 ↔ _ :=
    runs_check_exit _ _
  have hanchored : (∀ e ∈ edits texts r, e.Patched files ∨ e.Anchored files) ↔
      ∀ e ∈ edits texts r, e.Anchored files := by
    refine forall₂_congr fun e he => or_iff_right ?_
    rintro ⟨src, hread, hpatched⟩
    obtain ⟨src', hread', hnot⟩ := h e he
    rw [hread] at hread'
    exact hnot (Option.some.inj hread' ▸ hpatched)
  rw [← hanchored, ← hexit]
  cases hrun : (runs parses true (edits texts r)).run files with
  | ok u t =>
    rw [run_main_ok hrun]
    rfl
  | error halt t => rw [run_main_error hrun]

theorem succeeds_iff (hrouter : parses texts.ROUTER_FILE = true) (h : Unpatched texts r files) :
    Succeeds parses texts r files ↔ ∀ e ∈ edits texts r, e.Editable parses files := by
  have hedit : (∀ e ∈ edits texts r, e.Passes parses files) ↔
      ∀ e ∈ edits texts r, e.Editable parses files := by
    refine forall₂_congr fun e he => or_iff_right ?_
    rintro ⟨src, hread, hpatched⟩
    obtain ⟨src', hread', hnot⟩ := h e he
    rw [hread] at hread'
    exact hnot (Option.some.inj hread' ▸ hpatched)
  rw [← hedit]
  unfold Succeeds
  constructor
  · rintro ⟨hexit, hpatches⟩
    cases hrun : (runs parses false (edits texts r)).run files with
    | ok u t => exact ((runs_ok_iff edits_separate files t).mp hrun).1
    | error halt t =>
      rw [run_main_error hrun, runs_error_exit edits_separate hrun] at hexit
      exact absurd hexit Nat.one_ne_zero
  · intro hpass
    have hrun : (main parses texts r false).run files =
        .ok () (routed texts r (writes files (edits texts r))) := by
      rw [run_main_ok ((runs_ok_iff edits_separate files _).mpr ⟨hpass, rfl⟩),
        if_neg Bool.false_ne_true, run_writeRouter, if_pos hrouter]
    refine ⟨by rw [hrun]; rfl, ?_⟩
    rw [final_of_ok hrun]
    intro e he
    obtain ⟨src, hread, hpatched⟩ := h e he
    refine ⟨src, hread, ?_⟩
    rw [routed_edits he, writes_mem edits_separate files he, Edit.write_of_some hread hpatched,
      replaced_same]

/-- A run with `--check` writes nothing, and ends with status 0 exactly where one without succeeds. -/
def CheckPredicts (parses : Text → Bool) (texts : Texts) (r : String) (files : Files) : Prop :=
  final (main parses texts r true) files = files ∧
    (exitStatus ((main parses texts r true).run files) = 0 ↔ Succeeds parses texts r files)

/-- The check parses nothing. -/
theorem checkPredicts_iff (hrouter : parses texts.ROUTER_FILE = true) (h : Unpatched texts r files) :
    CheckPredicts parses texts r files ↔ ((∀ e ∈ edits texts r, e.Anchored files) →
      ∀ e ∈ edits texts r, e.Editable parses files) := by
  have hnothing := check_writes_nothing parses texts r files
  rw [CheckPredicts, and_iff_right hnothing, check_exits_zero_iff h, succeeds_iff hrouter h]
  refine ⟨Iff.mp, fun himp => ⟨himp, fun hedit e he => ?_⟩⟩
  obtain ⟨src, hread, hpatched, hcount, -⟩ := hedit e he
  exact ⟨src, hread, hpatched, hcount⟩

end Tree

end Trimtab.VllmPatch
