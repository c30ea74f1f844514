import Trimtab.Dict
import Trimtab.PyValues

set_option autoImplicit false

/-!
# JSON merge patches

A member of the patch replaces the target's, a null removes it, and two objects merge. A list
replaces a list, its nulls included.
-/
namespace Json

mutual

def mergePatch (target : Json) : Json → Json
  | .dict members => .dict (mergeMembers (match target with
      | .dict kvs => kvs
      | _ => []) members)
  | v => v

def mergeMembers (target : List (String × Json)) : List (String × Json) → List (String × Json)
  | [] => target
  | (k, v) :: ms =>
    mergeMembers (if v = .null then target.filter fun p => p.1 ≠ k
      else Dict.insertEntry k (mergePatch ((target.lookup k).getD .null) v) target) ms

end

def isDict : Json → Bool
  | .dict _ => true
  | _ => false

theorem mergePatch_of_not_dict {v : Json} (h : v.isDict = false) (target : Json) :
    mergePatch target v = v := by
  cases v with
  | dict kvs => cases h
  | _ =>
    rw [mergePatch]
    exact fun _ h => Json.noConfusion h

theorem isDict_mergePatch (target v : Json) : (mergePatch target v).isDict = v.isDict := by
  cases v with
  | dict kvs => cases target <;> rfl
  | _ => rw [mergePatch_of_not_dict rfl]

end Json

namespace Dict

def patchMember (d : Dict String Json) (p : String × Json) : Dict String Json :=
  if p.2 = .null then d.erase p.1
  else d.insert p.1 (Json.mergePatch ((d.get? p.1).getD .null) p.2)

def mergePatch (live patch : Dict String Json) : Dict String Json :=
  patch.entries.foldl patchMember live

def patched (old : Option Json) (v : Json) : Option Json :=
  if v = .null then none else some (Json.mergePatch (old.getD .null) v)

theorem get?_patchMember_self (d : Dict String Json) (k : String) (v : Json) :
    (patchMember d (k, v)).get? k = patched (d.get? k) v := by
  unfold patchMember patched
  split
  · rw [get?_erase, if_pos rfl]
  · rw [get?_insert_self]

theorem get?_patchMember_of_ne {j k : String} (h : k ≠ j) (d : Dict String Json) (v : Json) :
    (patchMember d (j, v)).get? k = d.get? k := by
  unfold patchMember
  split
  · rw [get?_erase, if_neg h]
  · rw [get?_insert_of_ne d _ h]

/-- Each member of the patch acts on its own key alone. -/
theorem get?_mergePatch (live patch : Dict String Json) (k : String) :
    (live.mergePatch patch).get? k = match patch.get? k with
      | none => live.get? k
      | some v => patched (live.get? k) v := by
  have hfold (ps : List (String × Json)) (hps : (ps.map Prod.fst).Nodup) (d : Dict String Json) :
      (ps.foldl patchMember d).get? k = match ps.lookup k with
        | none => d.get? k
        | some v => patched (d.get? k) v := by
    induction ps generalizing d with
    | nil => rfl
    | cons p ps ih =>
      obtain ⟨j, v⟩ := p
      rw [List.map_cons, List.nodup_cons] at hps
      rw [List.foldl_cons, ih hps.2, List.lookup_cons]
      by_cases hk : k = j
      · subst hk
        have hnone : ps.lookup k = none := by
          rw [List.lookup_eq_none_iff]
          intro p hp
          exact bne_iff_ne.mpr fun h => hps.1 (List.mem_map.mpr ⟨p, hp, h.symm⟩)
        rw [hnone, beq_self_eq_true]
        exact get?_patchMember_self d k v
      · rw [beq_false_of_ne hk, get?_patchMember_of_ne hk]
  exact hfold patch.entries patch.nodup live

theorem get?_mergePatch_of_none {live patch : Dict String Json} {k : String}
    (h : patch.get? k = none) : (live.mergePatch patch).get? k = live.get? k := by
  rw [get?_mergePatch, h]

theorem get?_mergePatch_of_null {live patch : Dict String Json} {k : String}
    (h : patch.get? k = some .null) : (live.mergePatch patch).get? k = none := by
  rw [get?_mergePatch, h]
  exact if_pos rfl

/-- A value that is neither null nor an object is stored as it is. -/
theorem get?_mergePatch_of_scalar {live patch : Dict String Json} {k : String} {v : Json}
    (h : patch.get? k = some v) (hnull : v ≠ .null) (hdict : v.isDict = false) :
    (live.mergePatch patch).get? k = some v := by
  rw [get?_mergePatch, h]
  simp only [patched, if_neg hnull, Json.mergePatch_of_not_dict hdict]

/-- An object stays an object. -/
theorem get?_mergePatch_of_dict {live patch : Dict String Json} {k : String} {v : Json}
    (h : patch.get? k = some v) (hdict : v.isDict = true) :
    ∃ w, (live.mergePatch patch).get? k = some w ∧ w.isDict = true := by
  have hnull : v ≠ .null := fun hv => by
    rw [hv] at hdict
    cases hdict
  refine ⟨_, ?_, (Json.isDict_mergePatch ((live.get? k).getD .null) v).trans hdict⟩
  rw [get?_mergePatch, h]
  exact if_neg hnull

end Dict
