import Mathlib.Data.List.Nodup
import Mathlib.Data.List.Perm.Subperm
import Mathlib.Data.List.Sort
import Mathlib.Data.Option.Basic

set_option autoImplicit false

/-!
# Insertion-ordered dictionaries

A list of key-value pairs with distinct keys: a Python `dict`, and equally an SQL
table with a primary key. Iteration follows the order of insertion, writing to a
present key keeps its place.
-/

structure Dict (κ ν : Type) where
  entries : List (κ × ν)
  nodup : (entries.map Prod.fst).Nodup

namespace Dict

variable {κ ν : Type}

instance [DecidableEq κ] [DecidableEq ν] : DecidableEq (Dict κ ν) := fun a b =>
  decidable_of_iff (a.entries = b.entries) <| by
    cases a; cases b; simp

def empty : Dict κ ν := ⟨[], List.nodup_nil⟩

instance : EmptyCollection (Dict κ ν) := ⟨empty⟩

instance : Inhabited (Dict κ ν) := ⟨empty⟩

def keys (d : Dict κ ν) : List κ := d.entries.map Prod.fst

/-- The pairs that satisfy `p`, in order: a comprehension with a condition, and
what a `delete ... where` leaves when `p` is the negated condition. -/
def filter (d : Dict κ ν) (p : κ → ν → Bool) : Dict κ ν :=
  ⟨d.entries.filter fun e => p e.1 e.2, (d.nodup.sublist (List.filter_sublist.map Prod.fst))⟩

theorem filterMap_keys_sublist {μ : Type} (f : κ → ν → Option μ) (ps : List (κ × ν)) :
    ((ps.filterMap fun e => (f e.1 e.2).map (Prod.mk e.1)).map Prod.fst).Sublist
      (ps.map Prod.fst) := by
  induction ps with
  | nil => exact .slnil
  | cons p ps ih =>
    cases h : f p.1 p.2 with
    | none => simpa [h] using ih.cons p.1
    | some w => simpa [h] using ih.cons_cons p.1

def filterMap {μ : Type} (d : Dict κ ν) (f : κ → ν → Option μ) : Dict κ μ :=
  ⟨d.entries.filterMap fun e => (f e.1 e.2).map (Prod.mk e.1),
    d.nodup.sublist (filterMap_keys_sublist f d.entries)⟩

/-- The pairs in the order of the keys, as `json.dumps(d, sort_keys=True)` writes them. -/
def sortKeys [LE κ] [DecidableLE κ] (d : Dict κ ν) : Dict κ ν :=
  ⟨d.entries.insertionSort fun p q => p.1 ≤ q.1,
    ((List.perm_insertionSort _ d.entries).map Prod.fst).nodup_iff.mpr d.nodup⟩

@[simp] theorem entries_empty : (∅ : Dict κ ν).entries = [] := rfl

theorem mem_filter {d : Dict κ ν} {p : κ → ν → Bool} {e : κ × ν} :
    e ∈ (d.filter p).entries ↔ e ∈ d.entries ∧ p e.1 e.2 = true := by
  simp [filter]

theorem mem_sortKeys [LE κ] [DecidableLE κ] {d : Dict κ ν} {e : κ × ν} :
    e ∈ d.sortKeys.entries ↔ e ∈ d.entries := (List.perm_insertionSort _ d.entries).mem_iff

theorem pairwise_sortKeys [LinearOrder κ] (d : Dict κ ν) :
    d.sortKeys.entries.Pairwise fun p q => p.1 < q.1 := by
  have hle : d.sortKeys.entries.Pairwise fun p q => p.1 ≤ q.1 := by
    have : Std.Total (α := κ × ν) fun p q => p.1 ≤ q.1 := ⟨fun p q => le_total p.1 q.1⟩
    have : IsTrans (κ × ν) fun p q => p.1 ≤ q.1 := ⟨fun _ _ _ => le_trans⟩
    exact List.pairwise_insertionSort _ d.entries
  have hne : d.sortKeys.entries.Pairwise fun p q => p.1 ≠ q.1 :=
    List.pairwise_map.mp d.sortKeys.nodup
  exact hle.imp₂ (fun p q h hn => lt_of_le_of_ne h hn) hne

theorem filter_filter (d : Dict κ ν) (p q : κ → ν → Bool) :
    (d.filter p).filter q = d.filter fun k v => p k v && q k v := by
  simp only [filter, List.filter_filter, Bool.and_comm]

variable [DecidableEq κ]

def erase (d : Dict κ ν) (k : κ) : Dict κ ν := d.filter fun j _ => j ≠ k

def get? (d : Dict κ ν) (k : κ) : Option ν := d.entries.lookup k

def contains (d : Dict κ ν) (k : κ) : Bool := (d.get? k).isSome

/-- The pairs after `d[k] = v`: in place when `k` is present, else at the end. -/
def insertEntry (k : κ) (v : ν) : List (κ × ν) → List (κ × ν)
  | [] => [(k, v)]
  | p :: ps => if p.1 = k then (k, v) :: ps else p :: insertEntry k v ps

theorem mem_insertEntry_keys {k j : κ} {v : ν} {ps : List (κ × ν)}
    (h : j ∈ (insertEntry k v ps).map Prod.fst) : j = k ∨ j ∈ ps.map Prod.fst := by
  induction ps with
  | nil => simpa [insertEntry] using h
  | cons p ps ih =>
    unfold insertEntry at h
    split at h
    · rename_i hp
      simp only [List.map_cons, List.mem_cons] at h ⊢
      tauto
    · simp only [List.map_cons, List.mem_cons] at h ⊢
      rcases h with h | h
      · exact .inr (.inl h)
      · exact (ih h).imp_right .inr

theorem nodup_insertEntry (k : κ) (v : ν) {ps : List (κ × ν)}
    (h : (ps.map Prod.fst).Nodup) : ((insertEntry k v ps).map Prod.fst).Nodup := by
  induction ps with
  | nil => simp [insertEntry]
  | cons p ps ih =>
    rw [List.map_cons, List.nodup_cons] at h
    unfold insertEntry
    split
    · rename_i hp
      rw [List.map_cons, List.nodup_cons]
      exact ⟨hp ▸ h.1, h.2⟩
    · rename_i hp
      rw [List.map_cons, List.nodup_cons]
      refine ⟨fun hm => ?_, ih h.2⟩
      rcases mem_insertEntry_keys hm with he | hm
      · exact hp he
      · exact h.1 hm

def insert (d : Dict κ ν) (k : κ) (v : ν) : Dict κ ν :=
  ⟨insertEntry k v d.entries, nodup_insertEntry k v d.nodup⟩

/-- Writes the pairs in order, so a repeated key keeps its first place and its last value. -/
def ofList (ps : List (κ × ν)) : Dict κ ν := ps.foldl (fun d p => d.insert p.1 p.2) ∅

/-- `{**d, **e}`: the pairs of `e` written over `d`. -/
def update (d e : Dict κ ν) : Dict κ ν := e.entries.foldl (fun d p => d.insert p.1 p.2) d

theorem insertEntry_new {k : κ} (v : ν) {ps : List (κ × ν)} (h : k ∉ ps.map Prod.fst) :
    insertEntry k v ps = ps ++ [(k, v)] := by
  induction ps with
  | nil => rfl
  | cons p ps ih =>
    rw [List.map_cons, List.mem_cons, not_or] at h
    rw [insertEntry, if_neg (Ne.symm h.1), ih h.2, List.cons_append]

theorem entries_foldl_insert (ps : List (κ × ν)) (d : Dict κ ν)
    (h : ((d.entries ++ ps).map Prod.fst).Nodup) :
    (ps.foldl (fun d p => d.insert p.1 p.2) d).entries = d.entries ++ ps := by
  induction ps generalizing d with
  | nil => rw [List.foldl_nil, List.append_nil]
  | cons p ps ih =>
    have hnew : p.1 ∉ d.entries.map Prod.fst := by
      rw [List.map_append, List.map_cons, List.nodup_append] at h
      exact fun hm => h.2.2 p.1 hm p.1 List.mem_cons_self rfl
    have hp : (d.insert p.1 p.2).entries = d.entries ++ [p] := insertEntry_new p.2 hnew
    rw [List.foldl_cons, ih _ (by rwa [hp, List.append_assoc]), hp, List.append_assoc]
    rfl

/-- Reading back the pairs of a dict. -/
theorem ofList_entries (d : Dict κ ν) : ofList d.entries = d := by
  obtain ⟨ps, hps⟩ := d
  have h := entries_foldl_insert ps ∅ hps
  unfold ofList
  cases hd : ps.foldl (fun (d : Dict κ ν) p => d.insert p.1 p.2) ∅ with
  | mk qs hqs =>
    rw [hd] at h
    cases h
    rfl

@[simp] theorem get?_empty (k : κ) : (∅ : Dict κ ν).get? k = none := rfl

theorem lookup_eq_some_iff {ps : List (κ × ν)} (h : (ps.map Prod.fst).Nodup) {k : κ} {v : ν} :
    ps.lookup k = some v ↔ (k, v) ∈ ps := by
  induction ps with
  | nil => simp
  | cons p ps ih =>
    obtain ⟨j, w⟩ := p
    rw [List.map_cons, List.nodup_cons] at h
    by_cases hj : k = j
    · subst j
      have hn : ∀ x, (k, x) ∉ ps := fun x hx => h.1 (List.mem_map.mpr ⟨_, hx, rfl⟩)
      simp [hn, eq_comm]
    · simp [List.lookup_cons, beq_false_of_ne hj, ih h.2, hj]

theorem get?_eq_some_iff {d : Dict κ ν} {k : κ} {v : ν} :
    d.get? k = some v ↔ (k, v) ∈ d.entries := lookup_eq_some_iff d.nodup

theorem forall_get?_iff {d : Dict κ ν} {P : κ → ν → Prop} :
    (∀ k v, d.get? k = some v → P k v) ↔ ∀ p ∈ d.entries, P p.1 p.2 :=
  ⟨fun h p hp => h p.1 p.2 (get?_eq_some_iff.mpr hp),
    fun h k v hk => h (k, v) (get?_eq_some_iff.mp hk)⟩

theorem get?_isSome_iff {d : Dict κ ν} {k : κ} : (d.get? k).isSome ↔ k ∈ d.keys := by
  rw [Option.isSome_iff_exists]
  constructor
  · rintro ⟨v, hv⟩
    exact List.mem_map.mpr ⟨(k, v), get?_eq_some_iff.mp hv, rfl⟩
  · intro h
    obtain ⟨⟨j, v⟩, hp, rfl⟩ := List.mem_map.mp h
    exact ⟨v, get?_eq_some_iff.mpr hp⟩

theorem get?_eq_none_iff {d : Dict κ ν} {k : κ} : d.get? k = none ↔ k ∉ d.keys := by
  rw [← get?_isSome_iff]
  simp

theorem get?_perm {d e : Dict κ ν} (h : d.entries.Perm e.entries) (k : κ) : d.get? k = e.get? k := by
  apply Option.ext
  intro v
  rw [get?_eq_some_iff, get?_eq_some_iff, h.mem_iff]

theorem lookup_insertEntry (k j : κ) (v : ν) (ps : List (κ × ν)) :
    (insertEntry k v ps).lookup j = if j = k then some v else ps.lookup j := by
  induction ps with
  | nil => by_cases hj : j = k <;> simp [insertEntry, List.lookup_cons, hj, beq_false_of_ne]
  | cons p ps ih =>
    obtain ⟨i, w⟩ := p
    by_cases hi : i = k
    · subst i
      by_cases hj : j = k <;> simp [insertEntry, List.lookup_cons, hj, beq_false_of_ne]
    · simp only [insertEntry, hi, if_false, List.lookup_cons, ih]
      by_cases hj : j = k
      · subst j
        simp [beq_false_of_ne (Ne.symm hi)]
      · simp [hj]

theorem get?_insert (d : Dict κ ν) (k j : κ) (v : ν) :
    (d.insert k v).get? j = if j = k then some v else d.get? j :=
  lookup_insertEntry k j v d.entries

@[simp] theorem get?_insert_self (d : Dict κ ν) (k : κ) (v : ν) :
    (d.insert k v).get? k = some v := by simp [get?_insert]

theorem get?_insert_of_ne (d : Dict κ ν) {k j : κ} (v : ν) (h : j ≠ k) :
    (d.insert k v).get? j = d.get? j := by simp [get?_insert, h]

theorem insert_ne_nil (d : Dict κ ν) (k : κ) (v : ν) : (d.insert k v).entries ≠ [] := by
  intro h
  have hget := get?_insert_self d k v
  rw [get?_eq_some_iff, h] at hget
  cases hget

theorem ofList_ne_nil {ps : List (κ × ν)} (h : ps ≠ []) : (ofList ps).entries ≠ [] := by
  obtain rfl | ⟨ps, p, rfl⟩ := List.eq_nil_or_concat ps
  · exact absurd rfl h
  · rw [List.concat_eq_append, ofList, List.foldl_append]
    exact insert_ne_nil _ _ _

theorem insert_of_get? {d : Dict κ ν} {k : κ} {v : ν} (h : d.get? k = some v) :
    d.insert k v = d := by
  have hentries (ps : List (κ × ν)) (hps : ps.lookup k = some v) : insertEntry k v ps = ps := by
    induction ps with
    | nil => cases hps
    | cons p ps ih =>
      rw [List.lookup_cons] at hps
      unfold insertEntry
      by_cases hp : k = p.1
      · rw [hp, beq_self_eq_true, Option.some.injEq] at hps
        rw [if_pos hp.symm, hp, ← hps]
      · rw [beq_false_of_ne hp] at hps
        rw [if_neg (Ne.symm hp), ih hps]
  unfold insert
  congr 1
  exact hentries d.entries h

theorem insert_eq_self_iff {d : Dict κ ν} {k : κ} {v : ν} : d.insert k v = d ↔ d.get? k = some v :=
  ⟨fun h => h ▸ get?_insert_self d k v, insert_of_get?⟩

theorem insert_insert (d : Dict κ ν) (k : κ) (v w : ν) : (d.insert k v).insert k w = d.insert k w := by
  have hentries (ps : List (κ × ν)) :
      insertEntry k w (insertEntry k v ps) = insertEntry k w ps := by
    induction ps with
    | nil =>
      rw [insertEntry, insertEntry, insertEntry]
      exact if_pos rfl
    | cons p ps ih =>
      by_cases hp : p.1 = k
      · rw [insertEntry, if_pos hp, insertEntry, if_pos rfl, insertEntry, if_pos hp]
      · rw [insertEntry, if_neg hp, insertEntry, if_neg hp, ih, insertEntry, if_neg hp]
  unfold insert
  congr 1
  exact hentries d.entries

theorem get?_filter (d : Dict κ ν) (p : κ → ν → Bool) (k : κ) :
    (d.filter p).get? k = (d.get? k).filter (p k) := by
  apply Option.ext
  intro v
  rw [get?_eq_some_iff, Option.filter_eq_some_iff, get?_eq_some_iff]
  simp [filter]

theorem get?_filter_key (d : Dict κ ν) (p : κ → Bool) (k : κ) :
    (d.filter fun j _ => p j).get? k = if p k then d.get? k else none := by
  rw [get?_filter]
  cases d.get? k <;> cases p k <;> rfl

theorem get?_erase (d : Dict κ ν) (key k : κ) :
    (d.erase key).get? k = if k = key then none else d.get? k := by
  rw [erase, get?_filter_key d fun j => decide (j ≠ key)]
  by_cases hk : k = key <;> simp [hk]

theorem filter_eq_self {d : Dict κ ν} {p : κ → ν → Bool}
    (h : ∀ k v, d.get? k = some v → p k v = true) : d.filter p = d := by
  obtain ⟨entries, nodup⟩ := d
  simp only [filter, mk.injEq, List.filter_eq_self]
  exact fun e he => h e.1 e.2 (get?_eq_some_iff.mpr he)

theorem filter_insertEntry {p : κ × ν → Bool} {k : κ} {v : ν} {ps : List (κ × ν)}
    (hv : p (k, v) = false) (hold : ∀ w, (k, w) ∈ ps → p (k, w) = false) :
    (insertEntry k v ps).filter p = ps.filter p := by
  induction ps with
  | nil => simp [insertEntry, hv]
  | cons e ps ih =>
    have htail := ih fun w hw => hold w (List.mem_cons_of_mem e hw)
    unfold insertEntry
    split
    · rename_i he
      have hp : p e = false := by
        obtain ⟨j, w⟩ := e
        cases he
        exact hold w List.mem_cons_self
      rw [List.filter_cons_of_neg (by simp [hv]), List.filter_cons_of_neg (by simp [hp])]
    · rw [List.filter_cons, List.filter_cons, htail]

/-- A write of a row that `p` does not select, over one that it does not select. -/
theorem filter_insert_of_not {d : Dict κ ν} {p : κ × ν → Bool} {k : κ} {v : ν}
    (hv : p (k, v) = false) (hold : ∀ w, d.get? k = some w → p (k, w) = false) :
    (d.insert k v).entries.filter p = d.entries.filter p :=
  filter_insertEntry hv fun w hw => hold w (get?_eq_some_iff.mpr hw)

theorem get?_filterMap {μ : Type} (d : Dict κ ν) (f : κ → ν → Option μ) (k : κ) :
    (d.filterMap f).get? k = (d.get? k).bind (f k) := by
  apply Option.ext
  intro w
  simp only [get?_eq_some_iff, Option.bind_eq_some_iff, filterMap, List.mem_filterMap,
    Option.map_eq_some_iff, Prod.mk.injEq, Prod.exists]
  constructor
  · rintro ⟨j, v, hv, x, hx, rfl, rfl⟩
    exact ⟨v, hv, hx⟩
  · rintro ⟨v, hv, hw⟩
    exact ⟨k, v, hv, w, hw, rfl, rfl⟩

def mapValues {μ : Type} (f : ν → μ) (d : Dict κ ν) : Dict κ μ :=
  ⟨d.entries.map fun e => (e.1, f e.2), by
    rw [List.map_map]
    exact d.nodup⟩

theorem eq_empty {d : Dict κ ν} (h : ∀ k, d.get? k = none) : d = ∅ := by
  obtain ⟨entries, nodup⟩ := d
  cases entries with
  | nil => rfl
  | cons p ps =>
    have hp := h p.1
    rw [get?, List.lookup_cons, beq_self_eq_true] at hp
    cases hp

theorem get?_foldl_insert (ps : List (κ × ν)) (h : (ps.map Prod.fst).Nodup) (d : Dict κ ν) (k : κ) :
    (ps.foldl (fun d p => d.insert p.1 p.2) d).get? k = (ps.lookup k).or (d.get? k) := by
  induction ps generalizing d with
  | nil => simp
  | cons p ps ih =>
    obtain ⟨j, v⟩ := p
    rw [List.map_cons, List.nodup_cons] at h
    rw [List.foldl_cons, ih h.2, get?_insert, List.lookup_cons]
    by_cases hj : k = j
    · subst j
      have hn : ps.lookup k = none := by
        rw [Option.eq_none_iff_forall_ne_some]
        intro x hx
        exact h.1 (List.mem_map.mpr ⟨_, (lookup_eq_some_iff h.2).mp hx, rfl⟩)
      simp [hn]
    · simp [hj, beq_false_of_ne hj]

theorem get?_foldl_insert_const (ks : List κ) (v : ν) (d : Dict κ ν) (k : κ) :
    (ks.foldl (fun d j => d.insert j v) d).get? k = if k ∈ ks then some v else d.get? k := by
  induction ks generalizing d with
  | nil => simp
  | cons j ks ih =>
    rw [List.foldl_cons, ih, get?_insert]
    by_cases hm : k ∈ ks
    · simp [hm]
    · by_cases hj : k = j <;> simp [hm, hj]

def writes {α : Type} (k : κ) (ps : List (κ × α)) : List α :=
  ps.filterMap fun p => if p.1 = k then some p.2 else none

theorem get?_update (d e : Dict κ ν) (k : κ) :
    (d.update e).get? k = (e.get? k).or (d.get? k) :=
  get?_foldl_insert e.entries e.nodup d k

/-- `{f(k): v for k, v in d.items()}` -/
def rename (f : κ → κ) (d : Dict κ ν) : Dict κ ν := ofList (d.entries.map fun p => (f p.1, p.2))

/-- When `g` takes the new names back to the old ones, no two keys meet. -/
theorem get?_rename {f : κ → κ} {g : κ → Option κ} {d : Dict κ ν}
    (h : ∀ k ∈ d.keys, ∀ j, f k = j ↔ g j = some k) (j : κ) :
    (d.rename f).get? j = (g j).bind d.get? := by
  have hinj : ∀ k ∈ d.keys, ∀ k' ∈ d.keys, f k = f k' → k = k' := by
    intro k hk k' hk' he
    have hg := (h k hk (f k')).mp he
    rw [(h k' hk' (f k')).mp rfl] at hg
    exact (Option.some.inj hg).symm
  have hnodup : ((d.entries.map fun p => (f p.1, p.2)).map Prod.fst).Nodup := by
    rw [List.map_map, show Prod.fst ∘ (fun p : κ × ν => (f p.1, p.2)) = f ∘ Prod.fst from rfl,
      ← List.map_map]
    exact d.nodup.map_on hinj
  apply Option.ext
  intro v
  rw [rename, ofList, get?_foldl_insert _ hnodup, get?_empty, Option.or_none,
    lookup_eq_some_iff hnodup, Option.bind_eq_some_iff, List.mem_map]
  constructor
  · rintro ⟨⟨k, w⟩, hp, he⟩
    cases he
    exact ⟨k, (h k (List.mem_map_of_mem hp) _).mp rfl, get?_eq_some_iff.mpr hp⟩
  · rintro ⟨k, hk, hv⟩
    have hp := get?_eq_some_iff.mp hv
    refine ⟨(k, v), hp, ?_⟩
    rw [(h k (List.mem_map_of_mem hp) j).mpr hk]

/-- Python's `d == e` when `eqv` compares the values: the same keys, equal values. -/
def eqv (r : ν → ν → Bool) (d e : Dict κ ν) : Bool :=
  d.entries.length == e.entries.length &&
    d.entries.all fun p => match e.get? p.1 with
      | some w => r p.2 w
      | none => false

theorem keys_subset_of_eqv {r : ν → ν → Bool} {d e : Dict κ ν} (h : d.eqv r e = true) :
    d.keys ⊆ e.keys := by
  intro k hk
  obtain ⟨⟨j, v⟩, hp, rfl⟩ := List.mem_map.mp hk
  simp only [eqv, Bool.and_eq_true, List.all_eq_true] at h
  have hv := h.2 _ hp
  rw [← get?_isSome_iff]
  cases he : e.get? j with
  | none => simp [he] at hv
  | some w => rfl

/-- The length test and the one-sided search decide the symmetric statement: a
sublist of distinct keys as long as the whole is all of it. -/
theorem eqv_iff {r : ν → ν → Bool} {d e : Dict κ ν} :
    d.eqv r e = true ↔ ∀ k, Option.Rel (fun a b => r a b = true) (d.get? k) (e.get? k) := by
  constructor
  · intro h k
    have hsub := keys_subset_of_eqv h
    simp only [eqv, Bool.and_eq_true, List.all_eq_true, beq_iff_eq] at h
    have hperm : d.keys.Perm e.keys :=
      (List.subperm_of_subset d.nodup hsub).perm_of_length_le (by simp [keys, h.1])
    cases hd : d.get? k with
    | none =>
      have he : e.get? k = none := by
        rw [get?_eq_none_iff] at hd ⊢
        exact fun hk => hd (hperm.mem_iff.mpr hk)
      rw [he]
      exact .none
    | some v =>
      have hv := h.2 _ (get?_eq_some_iff.mp hd)
      cases he : e.get? k with
      | none => simp [he] at hv
      | some w =>
        simp only [he] at hv
        exact .some hv
  · intro h
    have hkeys : ∀ k, k ∈ d.keys ↔ k ∈ e.keys := by
      intro k
      have hk := h k
      rw [← get?_isSome_iff, ← get?_isSome_iff]
      generalize d.get? k = a, e.get? k = b at hk
      cases hk <;> rfl
    have hperm : d.keys.Perm e.keys := (List.perm_ext_iff_of_nodup d.nodup e.nodup).mpr hkeys
    simp only [eqv, Bool.and_eq_true, List.all_eq_true, beq_iff_eq]
    refine ⟨by simpa [keys] using hperm.length_eq, ?_⟩
    rintro ⟨k, v⟩ hp
    have hk := h k
    rw [get?_eq_some_iff.mpr hp] at hk
    cases he : e.get? k with
    | none => rw [he] at hk; cases hk
    | some w =>
      rw [he] at hk
      cases hk with
      | some hr => exact hr

section MapValues

variable {μ : Type} (f : ν → μ)

@[simp] theorem get?_mapValues (d : Dict κ ν) (k : κ) : (d.mapValues f).get? k = (d.get? k).map f := by
  have hentries (ps : List (κ × ν)) :
      (ps.map fun e => (e.1, f e.2)).lookup k = (ps.lookup k).map f := by
    induction ps with
    | nil => rfl
    | cons p ps ih =>
      rw [List.map_cons, List.lookup_cons, List.lookup_cons, ih]
      cases k == p.1 <;> rfl
  exact hentries d.entries

theorem mapValues_insert (d : Dict κ ν) (k : κ) (v : ν) :
    (d.insert k v).mapValues f = (d.mapValues f).insert k (f v) := by
  have hentries (ps : List (κ × ν)) : (insertEntry k v ps).map (fun e => (e.1, f e.2)) =
      insertEntry k (f v) (ps.map fun e => (e.1, f e.2)) := by
    induction ps with
    | nil => rfl
    | cons p ps ih =>
      rw [List.map_cons, insertEntry, insertEntry]
      split
      · rfl
      · rw [List.map_cons, ih]
  unfold mapValues insert
  congr 1
  exact hentries d.entries

omit [DecidableEq κ] in
theorem mapValues_filter (d : Dict κ ν) {p : κ → ν → Bool} {q : κ → μ → Bool}
    (h : ∀ k v, p k v = q k (f v)) : (d.filter p).mapValues f = (d.mapValues f).filter q := by
  unfold mapValues filter
  congr 1
  rw [List.filter_map]
  exact congrArg (List.map _) (List.filter_congr fun e _ => h e.1 e.2)

end MapValues

end Dict
