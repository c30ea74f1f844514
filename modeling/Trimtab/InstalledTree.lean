import Trimtab.Effects
import Trimtab.PyLines
import Trimtab.Substrings

set_option autoImplicit false

/-!
# Scripts that edit an installed package

A script reads and writes the files of a tree, and stops at an exit or an exception with what it
has written so far. Files can be created and written to; their contents are characters.
-/
namespace Trimtab.InstalledTree
open Effects PyText Substrings

abbrev Text := List Char

abbrev Files := String → Option Text

inductive Halt where
  /-- `sys.exit(message)` where an anchor was not found exactly once -/
  | anchorMismatch (message : String)
  /-- `sys.exit(message)`, any other -/
  | exit (message : String)
  /-- `sys.exit(code)` -/
  | status (code : Nat)
  | fileNotFound (path : String)
  | syntaxError
  deriving DecidableEq

abbrev Script := EStateM Halt Files

def exitStatus : EStateM.Result Halt Files Unit → Nat
  | .ok _ _ => 0
  | .error (.status code) _ => code
  | .error _ _ => 1

def universalNewlines : Text → Text
  | [] => []
  | c :: cs =>
    if c = '\r' then
      if cs.head? = some '\n' then universalNewlines cs else '\n' :: universalNewlines cs
    else c :: universalNewlines cs

def reading (files : Files) (path : String) : Option Text := (files path).map universalNewlines

def found {α : Type} (path : String) : Option α → Script α
  | some a => pure a
  | none => throw (.fileNotFound path)

def readText (path : String) : Script Text := do found path (reading (← get) path)

def writeText (path : String) (text : Text) : Script Unit :=
  modify fun files => Function.update files path (some text)

/-- `shutil.copyfile(path, target)` -/
def copyfile (path target : String) : Script Unit := do
  let content ← found path ((← get) path)
  modify fun files => Function.update files target (some content)

/-- `open(path, "a").close()` -/
def touch (path : String) : Script Unit :=
  modify fun files => Function.update files path (some ((files path).getD []))

def origSuffix : String := ".trimtab-orig"

def backup (path : String) : String := path ++ origSuffix

def IsBackup (path : String) : Prop := ∃ base, path = backup base

/-- Every file is as it was, the backups of originals aside. -/
def Unchanged (before after : Files) : Prop := ∀ path, ¬IsBackup path → after path = before path

def replaced (files : Files) (path : String) (text : Text) : Files :=
  Function.update (Function.update files (backup path) (files path)) path (some text)

theorem universalNewlines_eq_self {text : Text} (h : '\r' ∉ text) : universalNewlines text = text := by
  induction text with
  | nil => rfl
  | cons c cs ih =>
    rw [List.mem_cons, not_or] at h
    rw [universalNewlines, if_neg (Ne.symm h.1), ih h.2]

theorem universalNewlines_no_return (text : Text) : '\r' ∉ universalNewlines text := by
  induction text with
  | nil => exact List.not_mem_nil
  | cons c cs ih =>
    rw [universalNewlines]
    split_ifs with hc
    · exact ih
    · exact List.not_mem_cons_of_ne_of_not_mem (by decide) ih
    · exact List.not_mem_cons_of_ne_of_not_mem (Ne.symm hc) ih

theorem reading_no_return {files : Files} {path : String} {src : Text}
    (h : reading files path = some src) : '\r' ∉ src := by
  obtain ⟨content, -, rfl⟩ := Option.map_eq_some_iff.mp h
  exact universalNewlines_no_return content

/-- A text without returns that stands in a file is what is read from it. -/
theorem reading_of_content {files : Files} {path : String} {text : Text}
    (h : files path = some text) (hreturn : '\r' ∉ text) : reading files path = some text := by
  rw [reading, h, Option.map_some, universalNewlines_eq_self hreturn]

theorem readText_of_some {files : Files} {path : String} {src : Text}
    (h : reading files path = some src) : (readText path).run files = .ok src files := by
  change found path (reading files path) files = _
  rw [h]
  rfl

theorem readText_of_none {files : Files} {path : String} (h : reading files path = none) :
    (readText path).run files = .error (.fileNotFound path) files := by
  change found path (reading files path) files = _
  rw [h]
  rfl

theorem run_copyfile {files : Files} {path : String} {src : Text}
    (h : reading files path = some src) (target : String) :
    (copyfile path target).run files = .ok () (Function.update files target (files path)) := by
  obtain ⟨content, hcontent, -⟩ := Option.map_eq_some_iff.mp h
  have hfound : (found path (files path)).run files = .ok content files := by
    rw [hcontent]
    rfl
  change ((found path (files path)) >>= fun content =>
    modify fun files => Function.update files target (some content)).run files = _
  rw [EStateM.run_bind, hfound, hcontent]
  rfl

theorem Unchanged.refl (files : Files) : Unchanged files files := fun _ _ => rfl

theorem Unchanged.trans {a b c : Files} (h : Unchanged a b) (h' : Unchanged b c) : Unchanged a c :=
  fun path hpath => (h' path hpath).trans (h path hpath)

/-- A backup is not a change. -/
theorem unchanged_backup (files : Files) (path : String) (content : Option Text) :
    Unchanged files (Function.update files (backup path) content) := by
  intro p hp
  exact Function.update_of_ne (fun he => hp ⟨path, he⟩) _ _

theorem not_isBackup {path : String} (h : ∀ c ∈ path.toList.getLast?, c = 'y') : ¬IsBackup path := by
  rintro ⟨base, rfl⟩
  have hlast : (backup base).toList.getLast? = some 'g' := by
    rw [backup, String.toList_append, List.getLast?_append]
    rfl
  exact absurd (h 'g' hlast) (by decide)

def Apart (p q : String) : Prop := p ≠ q ∧ p ≠ backup q ∧ q ≠ backup p

theorem Apart.symm {p q : String} (h : Apart p q) : Apart q p := ⟨h.1.symm, h.2.2, h.2.1⟩

theorem replaced_same (files : Files) (path : String) (text : Text) :
    replaced files path text path = some text := Function.update_self _ _ _

theorem replaced_other {files : Files} {path p : String} (text : Text) (h : p ≠ path)
    (hbackup : p ≠ backup path) : replaced files path text p = files p := by
  rw [replaced, Function.update_of_ne h, Function.update_of_ne hbackup]

theorem reading_replaced {files : Files} {path p : String} (text : Text) (h : p ≠ path)
    (hbackup : p ≠ backup path) : reading (replaced files path text) p = reading files p := by
  rw [reading, reading, replaced_other text h hbackup]

/-- What is written is new where it brings a mark that was not read. -/
theorem written_ne {files : Files} {path : String} {src anchor body mark : Text}
    (h : reading files path = some src) (hcount : count anchor src ≠ 0) (hne : anchor ≠ [])
    (hreturn : '\r' ∉ body) (hmark : mark <:+: body) (hnot : ¬mark <:+: src) :
    some (replaceFirst anchor body src) ≠ files path := by
  obtain ⟨front, back, hsplit, hreplace⟩ := replaceFirst_split anchor (infix_of_count hcount) hne
  have hsrc := reading_no_return h
  have hnew : '\r' ∉ front ++ body ++ back := by
    rw [hsplit] at hsrc
    simp only [List.mem_append, not_or] at hsrc ⊢
    exact ⟨⟨hsrc.1.1, hreturn⟩, hsrc.2⟩
  intro heq
  rw [hreplace] at heq
  have hread := reading_of_content heq.symm hnew
  rw [h] at hread
  rw [Option.some.inj hread] at hnot
  exact hnot (hmark.trans ⟨front, back, rfl⟩)

end Trimtab.InstalledTree
