import Mathlib.Data.List.Basic
import Mathlib.Data.Option.Basic
import Mathlib.Tactic.SplitIfs

set_option autoImplicit false

/-!
# Tables with a serial key

A table whose row ids come from a counter: an insert takes the next number and no
number is given out twice. Rows stand in insertion order, which is the order of ids.
-/

structure SerialTable (α : Type) where
  rows : List (Int × α)
  seq : Int
  ascending : rows.Pairwise (·.1 < ·.1)
  issued : ∀ r ∈ rows, 1 ≤ r.1 ∧ r.1 ≤ seq
  seq_nonneg : 0 ≤ seq

namespace SerialTable

variable {α : Type}

instance [DecidableEq α] : DecidableEq (SerialTable α) := fun a b =>
  decidable_of_iff (a.rows = b.rows ∧ a.seq = b.seq) <| by
    cases a; cases b; simp

def empty : SerialTable α := ⟨[], 0, .nil, by simp, Int.le_refl 0⟩

instance : EmptyCollection (SerialTable α) := ⟨empty⟩

def get? (t : SerialTable α) (id : Int) : Option α := t.rows.lookup id

def nextId (t : SerialTable α) : Int := t.seq + 1

def insert (t : SerialTable α) (a : α) : SerialTable α where
  rows := t.rows ++ [(t.nextId, a)]
  seq := t.nextId
  ascending := by
    refine List.pairwise_append.mpr ⟨t.ascending, List.pairwise_singleton _ _, ?_⟩
    intro r hr s hs
    have hb := (t.issued r hr).2
    rw [List.mem_singleton.mp hs]
    change r.1 < t.seq + 1
    omega
  issued := by
    intro r hr
    have hn := t.seq_nonneg
    rcases List.mem_append.mp hr with hr | hr
    · have hb := t.issued r hr
      exact ⟨hb.1, by unfold nextId; omega⟩
    · rw [List.mem_singleton.mp hr]
      change 1 ≤ t.seq + 1 ∧ t.seq + 1 ≤ t.seq + 1
      omega
  seq_nonneg := by
    have hn := t.seq_nonneg
    unfold nextId
    omega

def modify (t : SerialTable α) (id : Int) (f : α → α) : SerialTable α where
  rows := t.rows.map fun r => if r.1 = id then (r.1, f r.2) else r
  seq := t.seq
  ascending := by
    refine List.pairwise_map.mpr (t.ascending.imp ?_)
    intro r s hrs
    split_ifs <;> exact hrs
  issued := by
    intro r hr
    obtain ⟨s, hs, rfl⟩ := List.mem_map.mp hr
    split_ifs <;> exact t.issued s hs
  seq_nonneg := t.seq_nonneg

theorem lookup_eq_some_iff {rows : List (Int × α)} (h : rows.Pairwise (·.1 < ·.1)) {id : Int}
    {a : α} : rows.lookup id = some a ↔ (id, a) ∈ rows := by
  induction rows with
  | nil => simp
  | cons r rows ih =>
    obtain ⟨j, b⟩ := r
    rw [List.pairwise_cons] at h
    by_cases hj : id = j
    · subst j
      have hn : ∀ x, (id, x) ∉ rows := fun x hx => Int.lt_irrefl id (h.1 (id, x) hx)
      simp [hn, eq_comm]
    · simp [List.lookup_cons, beq_false_of_ne hj, ih h.2, hj]

theorem get?_eq_some_iff {t : SerialTable α} {id : Int} {a : α} :
    t.get? id = some a ↔ (id, a) ∈ t.rows := lookup_eq_some_iff t.ascending

@[simp] theorem rows_empty : (∅ : SerialTable α).rows = [] := rfl

@[simp] theorem get?_empty (id : Int) : (∅ : SerialTable α).get? id = none := rfl

@[simp] theorem rows_insert (t : SerialTable α) (a : α) :
    (t.insert a).rows = t.rows ++ [(t.nextId, a)] := rfl

theorem issued_of_get? {t : SerialTable α} {id : Int} {a : α} (h : t.get? id = some a) :
    1 ≤ id ∧ id < t.nextId := by
  have hb := t.issued _ (get?_eq_some_iff.mp h)
  unfold nextId
  constructor <;> omega

theorem get?_nextId (t : SerialTable α) : t.get? t.nextId = none := by
  rw [Option.eq_none_iff_forall_ne_some]
  intro a h
  exact Int.lt_irrefl _ (issued_of_get? h).2

theorem get?_insert (t : SerialTable α) (a : α) (id : Int) :
    (t.insert a).get? id = if id = t.nextId then some a else t.get? id := by
  apply Option.ext
  intro b
  rw [get?_eq_some_iff, rows_insert, List.mem_append, List.mem_singleton, Prod.mk.injEq]
  by_cases h : id = t.nextId
  · subst h
    have hn : (t.nextId, b) ∉ t.rows := by
      rw [← get?_eq_some_iff, get?_nextId]
      simp
    simp [hn, eq_comm]
  · simp [h, get?_eq_some_iff]

@[simp] theorem get?_insert_self (t : SerialTable α) (a : α) :
    (t.insert a).get? t.nextId = some a := by simp [get?_insert]

/-- A row once inserted is found under its id for ever. -/
theorem get?_insert_of_some {t : SerialTable α} {id : Int} {b : α} (h : t.get? id = some b)
    (a : α) : (t.insert a).get? id = some b := by
  rw [get?_insert, if_neg (Int.ne_of_lt (issued_of_get? h).2), h]

theorem lookup_map_row (rows : List (Int × α)) (id j : Int) (f : α → α) :
    (rows.map fun r => if r.1 = id then (r.1, f r.2) else r).lookup j =
      if j = id then (rows.lookup j).map f else rows.lookup j := by
  induction rows with
  | nil => simp
  | cons r rows ih =>
    obtain ⟨i, a⟩ := r
    have hr : (if i = id then (i, f a) else (i, a)) = (i, if i = id then f a else a) := by
      split_ifs <;> rfl
    rw [List.map_cons, hr, List.lookup_cons, List.lookup_cons, ih]
    by_cases hj : j = i
    · subst j
      by_cases hi : i = id <;> simp [hi]
    · simp [beq_false_of_ne hj]

theorem get?_modify (t : SerialTable α) (id j : Int) (f : α → α) :
    (t.modify id f).get? j = if j = id then (t.get? j).map f else t.get? j :=
  lookup_map_row t.rows id j f

@[simp] theorem get?_modify_self (t : SerialTable α) (id : Int) (f : α → α) :
    (t.modify id f).get? id = (t.get? id).map f := by simp [get?_modify]

theorem get?_modify_of_ne (t : SerialTable α) {id j : Int} (f : α → α) (h : j ≠ id) :
    (t.modify id f).get? j = t.get? j := by simp [get?_modify, h]

theorem ext_rows {t u : SerialTable α} (hrows : t.rows = u.rows) (hseq : t.seq = u.seq) : t = u := by
  cases t
  cases u
  cases hrows
  cases hseq
  rfl

theorem modify_of_get?_eq_none {t : SerialTable α} {id : Int} (h : t.get? id = none) (f : α → α) :
    t.modify id f = t := by
  refine ext_rows ?_ rfl
  have hrows : ∀ r ∈ t.rows, (if r.1 = id then (r.1, f r.2) else r) = r := by
    intro r hr
    refine if_neg fun hid => ?_
    rw [← hid, get?_eq_some_iff.mpr hr] at h
    cases h
  exact (List.map_congr_left hrows).trans (List.map_id t.rows)

section Map

/-! The same ids, and the images of the rows. -/

variable {β : Type}

def map (f : α → β) (t : SerialTable α) : SerialTable β where
  rows := t.rows.map fun r => (r.1, f r.2)
  seq := t.seq
  ascending := List.pairwise_map.mpr t.ascending
  issued := by
    intro r hr
    obtain ⟨s, hs, rfl⟩ := List.mem_map.mp hr
    exact t.issued s hs
  seq_nonneg := t.seq_nonneg

theorem lookup_map_snd (f : α → β) (rows : List (Int × α)) (id : Int) :
    (rows.map fun r => (r.1, f r.2)).lookup id = (rows.lookup id).map f := by
  induction rows with
  | nil => rfl
  | cons r rows ih =>
    rw [List.map_cons, List.lookup_cons, List.lookup_cons, ih]
    cases id == r.1 <;> rfl

@[simp] theorem get?_map (f : α → β) (t : SerialTable α) (id : Int) :
    (t.map f).get? id = (t.get? id).map f := lookup_map_snd f t.rows id

theorem map_insert (f : α → β) (t : SerialTable α) (a : α) :
    (t.insert a).map f = (t.map f).insert (f a) :=
  ext_rows (by simp [map, insert, nextId]) rfl

theorem map_modify {f : α → β} {g : α → α} {h : β → β} (hfg : ∀ a, f (g a) = h (f a))
    (t : SerialTable α) (id : Int) : (t.modify id g).map f = (t.map f).modify id h := by
  refine ext_rows ?_ rfl
  simp only [map, modify, List.map_map]
  refine List.map_congr_left fun r _ => ?_
  simp only [Function.comp]
  split_ifs
  · rw [hfg]
  · rfl

end Map

end SerialTable
