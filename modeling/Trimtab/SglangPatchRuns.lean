import Trimtab.SglangPatch

set_option autoImplicit false

/-! What the SGLang script does to a tree, told from the texts that stand in it. -/
namespace Trimtab.SglangPatch
open Effects PyText Substrings InstalledTree

variable {parses : Text → Bool} {reinitBody : Text} {root : String} {files : Files} {src : Text}

/-- `io_struct.py` has its anchor once and not the new line. -/
def IoEditable (root : String) (files : Files) : Prop :=
  ∃ src, reading files (ioPath (findTarget root)) = some src ∧
    ¬IO_BODY <:+: src ∧ count IO_ANCHOR src = 1

def AnchorsMatch (src : Text) : Prop :=
  count READBACK_ANCHOR src = 1 ∧ count ANCHOR src = 1 ∧ count REINIT_ANCHOR src = 1

/-- `scheduler.py` has no marker, and some anchor not once. -/
def SchedulerDrifted (root : String) (files : Files) : Prop :=
  ∃ src, reading files (findTarget root) = some src ∧ ¬MARKER <:+: src ∧ ¬AnchorsMatch src

/-! ### Texts -/

theorem io_anchor_ne_nil : IO_ANCHOR ≠ [] := by
  unfold IO_ANCHOR
  rw [toList_literal rfl]
  exact List.cons_ne_nil _ _

/-- How the script's own texts end, and what they do not hold. -/
structure TextsFit : Prop where
  io_body : '\r' ∉ IO_BODY
  anchor : ANCHOR.getLast? = some '\n'
  inject : INJECT_BODY.getLast? = some '\n'
  readback_anchor : READBACK_ANCHOR.getLast? = some '\n'
  readback_lines : READBACK_LINES.getLast? = some '\n'
  reinit_line : ∃ w, REINIT_ANCHOR = w ++ ['\n'] ∧ '\n' ∉ w
  inject_free : count REINIT_ANCHOR INJECT_BODY = 0
  readback_free : count REINIT_ANCHOR READBACK_LINES = 0

theorem textsFit : TextsFit where
  io_body := by
    unfold IO_BODY
    rw [toList_literal rfl]
    decide +kernel
  anchor := by
    unfold ANCHOR
    rw [toList_literal rfl]
    decide +kernel
  inject := by
    unfold INJECT_BODY
    rw [toList_literal rfl]
    decide +kernel
  readback_anchor := by
    unfold READBACK_ANCHOR
    rw [toList_literal rfl]
    decide +kernel
  readback_lines := by
    unfold READBACK_LINES
    rw [toList_literal rfl]
    decide +kernel
  reinit_line := by
    unfold REINIT_ANCHOR
    rw [toList_literal rfl]
    exact ⟨_, (List.dropLast_append_getLast (by decide)).symm, by decide +kernel⟩
  inject_free := by
    unfold REINIT_ANCHOR INJECT_BODY
    rw [toList_literal rfl, toList_literal rfl]
    decide +kernel
  readback_free := by
    unfold REINIT_ANCHOR READBACK_LINES
    rw [toList_literal rfl, toList_literal rfl]
    decide +kernel

/-- The reinit anchor is found in the new text where it was in the old one. -/
theorem count_injected (src : Text) : count REINIT_ANCHOR (injected src) = count REINIT_ANCHOR src := by
  obtain ⟨w, hw, hsep⟩ := textsFit.reinit_line
  have hinject := textsFit.inject_free
  have hreadback := textsFit.readback_free
  unfold injected READBACK_BODY
  rw [hw] at hinject hreadback ⊢
  rw [count_replaceFirst hsep textsFit.readback_anchor textsFit.readback_lines hreadback,
    count_replaceFirst hsep textsFit.anchor textsFit.inject hinject]

/-! ### Paths -/

theorem ioPath_toList (path : String) : (ioPath path).toList =
    replaceAll "scheduler.py".toList "io_struct.py".toList path.toList := String.toList_ofList

theorem ioPath_length (path : String) : (ioPath path).length = path.length := by
  rw [← String.length_toList, ← String.length_toList, ioPath_toList]
  exact replaceAll_length (by decide) (by decide) _

theorem ioPath_ne : ioPath (findTarget root) ≠ findTarget root := by
  intro h
  have hinfix : "scheduler.py".toList <:+: (findTarget root).toList :=
    ⟨root.toList ++ "/srt/managers/".toList, [], by
      rw [findTarget, String.toList_append, List.append_nil, List.append_assoc]
      rfl⟩
  have hdiff : "io_struct.py".toList ≠ "scheduler.py".toList := by decide
  refine replaceAll_ne (by decide) hdiff hinfix ?_
  rw [← ioPath_toList, h]

theorem target_getLast : ∀ c ∈ (findTarget root).toList.getLast?, c = 'y' := by
  intro c hc
  rw [findTarget, String.toList_append, List.getLast?_append] at hc
  have hlast : "/srt/managers/scheduler.py".toList.getLast? = some 'y' := by decide
  rw [hlast] at hc
  exact (Option.some.inj hc).symm

theorem ioPath_getLast : ∀ c ∈ (ioPath (findTarget root)).toList.getLast?, c = 'y' := by
  rw [ioPath_toList]
  exact replaceFrom_getLast (by decide) 0 target_getLast

theorem ioPath_apart : Apart (ioPath (findTarget root)) (findTarget root) := by
  have hlen := ioPath_length (findTarget root)
  refine ⟨ioPath_ne, ?_, ?_⟩
  · intro h
    have := congrArg String.length h
    rw [backup, String.length_append] at this
    have : origSuffix.length = 13 := by decide
    omega
  · intro h
    have := congrArg String.length h
    rw [backup, String.length_append] at this
    have : origSuffix.length = 13 := by decide
    omega

/-! ### `io_struct.py` -/

section Io

variable {target : String}

theorem run_io_patched {checkOnly : Bool} (h : reading files (ioPath target) = some src)
    (hpatched : IO_BODY <:+: src) :
    (patchIoStruct target checkOnly).run files = .ok "already patched" files := by
  unfold patchIoStruct
  rw [EStateM.run_bind, readText_of_some h]
  simp only [if_pos hpatched]
  rfl

theorem run_io_missing {checkOnly : Bool} (h : reading files (ioPath target) = none) :
    (patchIoStruct target checkOnly).run files = .error (.fileNotFound (ioPath target)) files := by
  unfold patchIoStruct
  rw [EStateM.run_bind, readText_of_none h]

theorem run_io_drifted (checkOnly : Bool) (h : reading files (ioPath target) = some src)
    (hpatched : ¬IO_BODY <:+: src) (hcount : count IO_ANCHOR src ≠ 1) :
    ∃ m, (patchIoStruct target checkOnly).run files = .error (.anchorMismatch m) files := by
  unfold patchIoStruct
  rw [EStateM.run_bind, readText_of_some h]
  simp only [if_neg hpatched, if_pos hcount]
  exact ⟨_, rfl⟩

theorem run_io_check (h : reading files (ioPath target) = some src) (hpatched : ¬IO_BODY <:+: src)
    (hcount : count IO_ANCHOR src = 1) :
    (patchIoStruct target true).run files = .ok "anchor ok" files := by
  unfold patchIoStruct
  rw [EStateM.run_bind, readText_of_some h]
  simp only [if_neg hpatched, hcount, ne_eq, not_true_eq_false, if_false, if_true]
  rfl

theorem run_io_editable (h : reading files (ioPath target) = some src)
    (hpatched : ¬IO_BODY <:+: src) (hcount : count IO_ANCHOR src = 1) :
    (patchIoStruct target false).run files =
      .ok "patched" (replaced files (ioPath target) (replaceFirst IO_ANCHOR IO_BODY src)) := by
  unfold patchIoStruct
  rw [EStateM.run_bind, readText_of_some h]
  simp only [if_neg hpatched, hcount, ne_eq, not_true_eq_false, if_false, Bool.false_eq_true]
  rw [EStateM.run_bind, run_copyfile h]
  rfl

end Io

/-! ### `scheduler.py` -/

section Scheduler

variable {target : String}

theorem run_scheduler_patched {checkOnly : Bool} (hmarker : MARKER <:+: src) :
    (patchScheduler parses reinitBody target src checkOnly).run files = .ok () files := by
  rw [patchScheduler, if_pos hmarker]
  rfl

theorem run_scheduler_check (hmarker : ¬MARKER <:+: src) :
    (patchScheduler parses reinitBody target src true).run files =
      .error (.status (if count ANCHOR src = 1 then 0 else 2)) files := by
  rw [patchScheduler, if_neg hmarker, if_pos rfl]
  rfl

/-- A drifted `scheduler.py` may leave a backup, nothing else. -/
theorem run_scheduler_drifted (parses : Text → Bool) (reinitBody : Text)
    (h : reading files target = some src) (hmarker : ¬MARKER <:+: src) (hdrift : ¬AnchorsMatch src) :
    ∃ m after, (patchScheduler parses reinitBody target src false).run files =
      .error (.anchorMismatch m) after ∧ Unchanged files after := by
  rw [patchScheduler, if_neg hmarker, if_neg Bool.false_ne_true]
  by_cases hreadback : count READBACK_ANCHOR src ≠ 1
  · rw [if_pos hreadback]
    exact ⟨_, files, rfl, Unchanged.refl files⟩
  · rw [if_neg hreadback]
    by_cases hanchor : count ANCHOR src ≠ 1
    · rw [if_pos hanchor]
      exact ⟨_, files, rfl, Unchanged.refl files⟩
    · have hreinit : count REINIT_ANCHOR (injected src) ≠ 1 := by
        rw [count_injected]
        exact fun hreinit => hdrift ⟨not_not.mp hreadback, not_not.mp hanchor, hreinit⟩
      rw [if_neg hanchor, EStateM.run_bind, run_copyfile h]
      simp only [if_pos hreinit]
      exact ⟨_, _, rfl, unchanged_backup files target _⟩

theorem run_scheduler_matched (h : reading files target = some src) (hmarker : ¬MARKER <:+: src)
    (hmatch : AnchorsMatch src) :
    (patchScheduler parses reinitBody target src false).run files =
      if parses (patchedText reinitBody src) then
        .ok () (replaced files target (patchedText reinitBody src))
      else .error (.exit "patched file failed to parse, original left untouched")
        (Function.update files (backup target) (files target)) := by
  have hreinit : count REINIT_ANCHOR (injected src) = 1 := by rw [count_injected, hmatch.2.2]
  rw [patchScheduler, if_neg hmarker, if_neg Bool.false_ne_true, hmatch.1, hmatch.2.1,
    if_neg (not_not.mpr rfl), if_neg (not_not.mpr rfl), EStateM.run_bind, run_copyfile h, hreinit]
  simp only [ne_eq, not_true_eq_false, if_false]
  split_ifs with hparses
  · rfl
  · rfl

theorem scheduler_mismatch {m : String} {after : Files} (h : reading files target = some src)
    (hrun : (patchScheduler parses reinitBody target src false).run files =
      .error (.anchorMismatch m) after) :
    Unchanged files after ∧ ¬MARKER <:+: src ∧ ¬AnchorsMatch src := by
  by_cases hmarker : MARKER <:+: src
  · rw [run_scheduler_patched hmarker] at hrun
    cases hrun
  · by_cases hmatch : AnchorsMatch src
    · rw [run_scheduler_matched h hmarker hmatch] at hrun
      split_ifs at hrun
      cases hrun
    · obtain ⟨m', after', hafter, hsame⟩ := run_scheduler_drifted parses reinitBody h hmarker hmatch
      rw [hafter] at hrun
      cases hrun
      exact ⟨hsame, hmarker, hmatch⟩

end Scheduler

/-! ### The whole script -/

theorem run_main_missing {checkOnly : Bool} (h : reading files (findTarget root) = none) :
    (main parses reinitBody root checkOnly).run files =
      .error (.fileNotFound (findTarget root)) files := by
  unfold main
  rw [EStateM.run_bind, readText_of_none h]

theorem run_main_error {checkOnly : Bool} {e : Halt} {after : Files}
    (h : reading files (findTarget root) = some src)
    (hio : (patchIoStruct (findTarget root) checkOnly).run files = .error e after) :
    (main parses reinitBody root checkOnly).run files = .error e after := by
  unfold main
  rw [EStateM.run_bind, readText_of_some h]
  simp only
  rw [EStateM.run_bind, hio]

theorem run_main_ok (parses : Text → Bool) (reinitBody : Text) {checkOnly : Bool}
    {answer : String} {after : Files}
    (h : reading files (findTarget root) = some src)
    (hio : (patchIoStruct (findTarget root) checkOnly).run files = .ok answer after) :
    (main parses reinitBody root checkOnly).run files =
      (patchScheduler parses reinitBody (findTarget root) src checkOnly).run after := by
  unfold main
  rw [EStateM.run_bind, readText_of_some h]
  simp only
  rw [EStateM.run_bind, hio]

/-- The new `io_struct.py` is not the old one: it has the new line. -/
theorem io_written {io : Text} (h : reading files (ioPath (findTarget root)) = some io)
    (hpatched : ¬IO_BODY <:+: io) (hcount : count IO_ANCHOR io = 1) :
    some (replaceFirst IO_ANCHOR IO_BODY io) ≠ files (ioPath (findTarget root)) :=
  written_ne h (hcount ▸ Nat.one_ne_zero) io_anchor_ne_nil textsFit.io_body (List.infix_refl _)
    hpatched

def AllOrNothing (parses : Text → Bool) (reinitBody : Text) (root : String) (files : Files) : Prop :=
  ∀ m after, (main parses reinitBody root false).run files = .error (.anchorMismatch m) after →
    Unchanged files after

/-- It has not exactly where `io_struct.py` was edited before `scheduler.py` was looked at. -/
theorem allOrNothing_iff :
    AllOrNothing parses reinitBody root files ↔
      ¬(IoEditable root files ∧ SchedulerDrifted root files) := by
  unfold AllOrNothing
  cases hsrc : reading files (findTarget root) with
  | none =>
    refine iff_of_true (fun m after hrun => ?_) ?_
    · rw [run_main_missing hsrc] at hrun
      cases hrun
    · rintro ⟨-, src, hread, -⟩
      rw [hsrc] at hread
      cases hread
  | some src =>
    have hdrifted : SchedulerDrifted root files ↔ ¬MARKER <:+: src ∧ ¬AnchorsMatch src := by
      unfold SchedulerDrifted
      simp only [hsrc, Option.some.injEq, exists_eq_left']
    have hbackup : ¬IsBackup (ioPath (findTarget root)) := not_isBackup ioPath_getLast
    by_cases hedit : IoEditable root files
    · obtain ⟨io, hio, hpatched, hcount⟩ := id hedit
      have hsrc' : reading (replaced files (ioPath (findTarget root))
          (replaceFirst IO_ANCHOR IO_BODY io)) (findTarget root) = some src := by
        rw [reading_replaced _ ioPath_apart.1.symm ioPath_apart.2.2, hsrc]
      rw [run_main_ok parses reinitBody hsrc (run_io_editable hio hpatched hcount), hdrifted, and_iff_right hedit]
      constructor
      · rintro hall ⟨hmarker, hmatch⟩
        obtain ⟨m, after, hafter, hsame⟩ := run_scheduler_drifted parses reinitBody hsrc' hmarker hmatch
        have hio' := (hsame _ hbackup).symm.trans (hall m after hafter _ hbackup)
        rw [replaced_same] at hio'
        exact io_written hio hpatched hcount hio'
      · exact fun hmatch m after hafter => absurd (scheduler_mismatch hsrc' hafter).2 hmatch
    · refine iff_of_true (fun m after hafter => ?_) fun h => hedit h.1
      cases hio : reading files (ioPath (findTarget root)) with
      | none =>
        rw [run_main_error hsrc (run_io_missing hio)] at hafter
        cases hafter
      | some io =>
        by_cases hpatched : IO_BODY <:+: io
        · rw [run_main_ok parses reinitBody hsrc (run_io_patched hio hpatched)] at hafter
          exact (scheduler_mismatch hsrc hafter).1
        · obtain ⟨m', hrun⟩ := run_io_drifted false hio hpatched
            fun hcount => hedit ⟨io, hio, hpatched, hcount⟩
          rw [run_main_error hsrc hrun] at hafter
          cases hafter
          exact Unchanged.refl files

/-! ### `--check` -/

theorem check_writes_nothing (parses : Text → Bool) (reinitBody : Text) (root : String)
    (files : Files) : final (main parses reinitBody root true) files = files := by
  cases hsrc : reading files (findTarget root) with
  | none => exact final_of_error (run_main_missing hsrc)
  | some src =>
    have hscheduler : final (patchScheduler parses reinitBody (findTarget root) src true) files =
        files := by
      by_cases hmarker : MARKER <:+: src
      · exact final_of_ok (run_scheduler_patched hmarker)
      · exact final_of_error (run_scheduler_check hmarker)
    have hmain {answer : String}
        (hio : (patchIoStruct (findTarget root) true).run files = .ok answer files) :
        final (main parses reinitBody root true) files = files :=
      (final_of_run_eq (run_main_ok parses reinitBody hsrc hio)).trans hscheduler
    cases hio : reading files (ioPath (findTarget root)) with
    | none => exact final_of_error (run_main_error hsrc (run_io_missing hio))
    | some io =>
      by_cases hpatched : IO_BODY <:+: io
      · exact hmain (run_io_patched hio hpatched)
      · by_cases hcount : count IO_ANCHOR io = 1
        · exact hmain (run_io_check hio hpatched hcount)
        · obtain ⟨m, hrun⟩ := run_io_drifted true hio hpatched hcount
          exact final_of_error (run_main_error hsrc hrun)

def Patches (reinitBody : Text) (root : String) (before after : Files) : Prop :=
  (∃ io, reading before (ioPath (findTarget root)) = some io ∧
    after (ioPath (findTarget root)) = some (replaceFirst IO_ANCHOR IO_BODY io)) ∧
  ∃ src, reading before (findTarget root) = some src ∧
    after (findTarget root) = some (patchedText reinitBody src)

/-- A run without `--check` ends with status 0 and both files patched. -/
def Succeeds (parses : Text → Bool) (reinitBody : Text) (root : String) (files : Files) : Prop :=
  exitStatus ((main parses reinitBody root false).run files) = 0 ∧
    Patches reinitBody root files (final (main parses reinitBody root false) files)

def Unpatched (root : String) (files : Files) : Prop :=
  (∃ io, reading files (ioPath (findTarget root)) = some io ∧ ¬IO_BODY <:+: io) ∧
    ∃ src, reading files (findTarget root) = some src ∧ ¬MARKER <:+: src

/-- A run with `--check` writes nothing, and ends with status 0 exactly where one without succeeds. -/
def CheckPredicts (parses : Text → Bool) (reinitBody : Text) (root : String) (files : Files) : Prop :=
  final (main parses reinitBody root true) files = files ∧
    (exitStatus ((main parses reinitBody root true).run files) = 0 ↔
      Succeeds parses reinitBody root files)

section Unpatched

variable {io : Text}

theorem check_exits_zero_iff (hio : reading files (ioPath (findTarget root)) = some io)
    (hsrc : reading files (findTarget root) = some src) (hpatched : ¬IO_BODY <:+: io)
    (hmarker : ¬MARKER <:+: src) :
    exitStatus ((main parses reinitBody root true).run files) = 0 ↔
      count IO_ANCHOR io = 1 ∧ count ANCHOR src = 1 := by
  by_cases hcount : count IO_ANCHOR io = 1
  · rw [run_main_ok parses reinitBody hsrc (run_io_check hio hpatched hcount), run_scheduler_check hmarker, exitStatus,
      and_iff_right hcount]
    split_ifs with hanchor
    · exact iff_of_true rfl hanchor
    · exact iff_of_false (by decide) hanchor
  · obtain ⟨m, hrun⟩ := run_io_drifted true hio hpatched hcount
    rw [run_main_error hsrc hrun]
    exact iff_of_false Nat.one_ne_zero fun h => hcount h.1

theorem succeeds_iff (hio : reading files (ioPath (findTarget root)) = some io)
    (hsrc : reading files (findTarget root) = some src) (hpatched : ¬IO_BODY <:+: io)
    (hmarker : ¬MARKER <:+: src) :
    Succeeds parses reinitBody root files ↔ count IO_ANCHOR io = 1 ∧ AnchorsMatch src ∧
      parses (patchedText reinitBody src) = true := by
  unfold Succeeds
  by_cases hcount : count IO_ANCHOR io = 1
  · have hapart : Apart (ioPath (findTarget root)) (findTarget root) := ioPath_apart
    have hsrc' : reading (replaced files (ioPath (findTarget root))
        (replaceFirst IO_ANCHOR IO_BODY io)) (findTarget root) = some src := by
      rw [reading_replaced _ hapart.1.symm hapart.2.2, hsrc]
    have hrun := run_main_ok parses reinitBody hsrc
      (run_io_editable hio hpatched hcount)
    rw [and_iff_right hcount]
    by_cases hmatch : AnchorsMatch src
    · rw [run_scheduler_matched hsrc' hmarker hmatch] at hrun
      rw [and_iff_right hmatch]
      by_cases hparses : parses (patchedText reinitBody src) = true
      · rw [if_pos hparses] at hrun
        refine iff_of_true ⟨by rw [hrun]; rfl, ?_⟩ hparses
        rw [final_of_ok hrun]
        refine ⟨⟨io, hio, ?_⟩, src, hsrc, replaced_same _ _ _⟩
        rw [replaced_other _ hapart.1 hapart.2.1, replaced_same]
      · rw [if_neg hparses] at hrun
        refine iff_of_false (fun h => ?_) hparses
        rw [hrun] at h
        exact Nat.one_ne_zero h.1
    · obtain ⟨m, after, hafter, -⟩ := run_scheduler_drifted parses reinitBody hsrc' hmarker hmatch
      rw [hrun, hafter]
      exact iff_of_false (fun h => Nat.one_ne_zero h.1) fun h => hmatch h.1
  · obtain ⟨m, hrun⟩ := run_io_drifted false hio hpatched hcount
    rw [run_main_error hsrc hrun]
    exact iff_of_false (fun h => Nat.one_ne_zero h.1) fun h => hcount h.1

end Unpatched

/-- The check looks at two anchors only. -/
theorem checkPredicts_iff (h : Unpatched root files) :
    CheckPredicts parses reinitBody root files ↔
      ∀ src, reading files (findTarget root) = some src → IoEditable root files →
        count ANCHOR src = 1 → AnchorsMatch src ∧ parses (patchedText reinitBody src) = true := by
  obtain ⟨⟨io, hio, hpatched⟩, src, hsrc, hmarker⟩ := h
  have hedit : IoEditable root files ↔ count IO_ANCHOR io = 1 := by
    unfold IoEditable
    simp only [hio, Option.some.injEq, exists_eq_left', hpatched, not_false_eq_true, true_and]
  have hnothing := check_writes_nothing parses reinitBody root files
  rw [CheckPredicts, and_iff_right hnothing, check_exits_zero_iff hio hsrc hpatched hmarker,
    succeeds_iff hio hsrc hpatched hmarker, hedit]
  simp only [hsrc, Option.some.injEq, forall_eq']
  constructor
  · intro h hcount hanchor
    exact (h.mp ⟨hcount, hanchor⟩).2
  · intro h
    exact ⟨fun hc => ⟨hc.1, h hc.1 hc.2⟩, fun hc => ⟨hc.1, hc.2.1.2.1⟩⟩

end Trimtab.SglangPatch
