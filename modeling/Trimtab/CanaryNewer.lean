import Trimtab.CanaryInterleaving

set_option autoImplicit false

/-!
# A canary and the decisions made while it is open

A canary's row records the version the group had when the canary was opened; the group's
pointer stands in another row, and other clients move it.
-/
namespace Trimtab.CanaryNewer
open Canary CanaryInterleaving Effects Runs StoreHistory

/-- A step of a call on canary `id` leaves alone a desired version that is not the baseline
the canary recorded. -/
def KeepsNewer (id : Int) (s : Plane) (e : Event) : Prop :=
  ∀ row, s.store.canaryTable.get? id = some row →
    s.store.desiredState.get? row.replicaGroup ≠ row.baselineVersionId →
    ∀ client call, e = .act client → s.calls[client]? = some call → call.on = some id →
      (step s e).store.desiredState.get? row.replicaGroup =
        s.store.desiredState.get? row.replicaGroup

/-- The promotion of canary `id`, where it is not refused, finds its group on the baseline, or
on the candidate already. -/
def FindsBaseline (id : Int) (s : Plane) (e : Event) : Prop :=
  ∀ row, s.store.canaryTable.get? id = some row →
    ∀ client c candidate findings, e = .act client →
      s.calls[client]? = some (.promoting c id candidate findings) →
      (∃ v, s.store.find candidate = some v ∧ v.replicaGroup = c.group) →
      c.group = row.replicaGroup →
        s.store.desiredState.get? row.replicaGroup = row.baselineVersionId ∨
          s.store.desiredState.get? row.replicaGroup = some candidate

/-! ## What a promotion does to the pointer -/

theorem promoting_next (s : Store) (c : Canary) (id candidate : Int) (findings : List String) :
    (Call.next s (.promoting c id candidate findings)).1 = final (Store.promote c.group candidate) s := by
  rw [Call.next, final]
  cases (Store.promote c.group candidate).run s <;> rfl

theorem pointer_promoted {s : Store} {group : String} {id : Int} {v : ConfigVersion}
    (hv : s.find id = some v) (hg : v.replicaGroup = group) (g : String) :
    (final (Store.promote group id) s).desiredState.get? g =
      if g = group then some id else s.desiredState.get? g := by
  have hr := Store.promote_run s group id
  simp only [hv, hg, if_true] at hr
  rw [final_of_ok hr, Dict.get?_insert]

theorem pointer_refused {s : Store} {group : String} {id : Int}
    (hv : ¬∃ v, s.find id = some v ∧ v.replicaGroup = group) :
    final (Store.promote group id) s = s := by
  have hr := Store.promote_run s group id
  cases hf : s.find id with
  | none =>
    simp only [hf] at hr
    exact final_of_error hr
  | some v =>
    have hg : v.replicaGroup ≠ group := fun hg => hv ⟨v, hf, hg⟩
    simp only [hf, hg, if_false] at hr
    exact final_of_error hr

/-- No other step of a call moves a pointer. -/
theorem next_desired (s : Store) (call : Call)
    (h : ∀ c id candidate findings, call ≠ .promoting c id candidate findings) :
    (call.next s).1.desiredState = s.desiredState := by
  cases next_moves s call with
  | reads state before after => rw [state]
  | enters canaryId before after canaries desired => exact desired
  | closes canaryId status decision before state after => rw [state]; rfl
  | works canaryId before on after canaries =>
    cases call with
    | promoting c id candidate findings => exact absurd rfl (h c id candidate findings)
    | clearing c id candidate passed findings =>
      rw [Call.next, Store.clearOverrides_run]
      cases Store.binds s.canaryTable id <;> rfl
    | closing id status decision =>
      change (final (Store.closeCanary id status decision) s).desiredState = s.desiredState
      rw [Store.closeCanary_final]
    | _ => cases before

theorem keepsNewer_iff (id : Int) (s : Plane) (e : Event) :
    KeepsNewer id s e ↔ FindsBaseline id s e := by
  constructor
  · intro h row hrow client c candidate findings he hcall ⟨v, hv, hg⟩ hgroup
    by_cases hbase : s.store.desiredState.get? row.replicaGroup = row.baselineVersionId
    · exact .inl hbase
    · have hkept := h row hrow hbase client _ he hcall rfl
      rw [he, step_act hcall, promoting_next, pointer_promoted hv hg, if_pos hgroup.symm] at hkept
      exact .inr hkept.symm
  · intro h row hrow hnewer client call he hcall hon
    rw [he, step_act hcall]
    by_cases hp : ∃ c id' candidate findings, call = .promoting c id' candidate findings
    · obtain ⟨c, id', candidate, findings, rfl⟩ := hp
      cases hon
      rw [promoting_next]
      by_cases hv : ∃ v, s.store.find candidate = some v ∧ v.replicaGroup = c.group
      · obtain ⟨v, hf, hg⟩ := hv
        rw [pointer_promoted hf hg]
        split_ifs with hgroup
        · have hfinds := h row hrow client c candidate findings he hcall ⟨v, hf, hg⟩ hgroup.symm
          exact (hfinds.resolve_left hnewer).symm
        · rfl
      · rw [pointer_refused hv]
    · rw [next_desired s.store call fun c id' v f hc => hp ⟨c, id', v, f, hc⟩]

/-! ## When nobody else moves the pointer -/

def Expected (row : CanaryRow) (version : Option Int) : Prop :=
  version = row.baselineVersionId ∨ version = some row.candidateVersionId

/-- While canary `id` is on record, nobody else points its group at a version other than its
baseline and its candidate. -/
def Yields (id : Int) (s : Plane) : Event → Prop
  | .other (.promote group version) | .other (.rollback group version) =>
    ∀ row, s.store.canaryTable.get? id = some row → group = row.replicaGroup →
      Expected row (some version)
  | .act client => ∀ c other version findings,
      s.calls[client]? = some (.promoting c other version findings) → other ≠ id →
      ∀ row, s.store.canaryTable.get? id = some row → c.group = row.replicaGroup →
        Expected row (some version)
  | _ => True

def heads : Call → Option (Int × Int)
  | .clearing _ id candidate _ _ | .promoting _ id candidate _ => some (id, candidate)
  | _ => none

structure Window (id : Int) (s : Plane) : Prop where
  pointer : ∀ row, s.store.canaryTable.get? id = some row →
    Expected row (s.store.desiredState.get? row.replicaGroup)
  headed : ∀ (client : Nat) (call : Call) (candidate : Int), s.calls[client]? = some call →
    heads call = some (id, candidate) →
    ∃ row, s.store.canaryTable.get? id = some row ∧ row.candidateVersionId = candidate

structure SameCanary (row row' : CanaryRow) : Prop where
  group : row'.replicaGroup = row.replicaGroup
  candidate : row'.candidateVersionId = row.candidateVersionId
  baseline : row'.baselineVersionId = row.baselineVersionId

theorem expected_same {row row' : CanaryRow} (h : SameCanary row row') {version : Option Int} :
    Expected row' version ↔ Expected row version := by
  rw [Expected, Expected, h.baseline, h.candidate]

/-- The rows after a step of a call are those before it, but for their status. -/
theorem next_rows (s : Store) (call : Call) (id : Int) :
    Option.Rel SameCanary (s.canaryTable.get? id) ((call.next s).1.canaryTable.get? id) := by
  have hsame : ∀ row : Option CanaryRow, Option.Rel SameCanary row row := by
    intro row
    cases row with
    | none => exact .none
    | some row => exact .some ⟨rfl, rfl, rfl⟩
  cases next_moves s call with
  | reads state before after =>
    rw [state]
    exact hsame _
  | enters canaryId before after canaries desired =>
    rw [canaries]
    exact hsame _
  | works canaryId before on after canaries =>
    rw [canaries]
    exact hsame _
  | closes canaryId status decision before state after =>
    rw [state, closed, SerialTable.get?_modify]
    split_ifs
    · cases s.canaryTable.get? id with
      | none => exact .none
      | some row => exact .some ⟨rfl, rfl, rfl⟩
    · exact hsame _

theorem read_heads (s : Store) (c : Canary) (canaryId : Int) (cm bm : Metrics) {id candidate : Int}
    (h : heads (Call.read s c canaryId cm bm).2 = some (id, candidate)) :
    ∃ row, s.canaryTable.get? id = some row ∧ row.candidateVersionId = candidate := by
  unfold Call.read at h
  rw [Store.canary_run] at h
  cases hrow : s.canaryTable.get? canaryId with
  | none =>
    rw [hrow] at h
    cases h
  | some row =>
    rw [hrow] at h
    cases he : evaluate row.gates cm bm with
    | error e =>
      simp only [he] at h
      cases h
    | ok verdict =>
      simp only [he] at h
      cases h
      exact ⟨row, hrow, rfl⟩

theorem next_heads {s : Store} {call : Call} {id candidate : Int}
    (h : heads (call.next s).2 = some (id, candidate)) :
    heads call = some (id, candidate) ∨
      ∃ row, s.canaryTable.get? id = some row ∧ row.candidateVersionId = candidate := by
  cases call with
  | checking c metrics sleep canaryId samples =>
    simp only [Call.next, Store.canary_run] at h
    cases hrow : s.canaryTable.get? canaryId with
    | none =>
      rw [hrow] at h
      cases h
    | some row =>
      simp only [hrow] at h
      split_ifs at h <;> cases h
  | sampling c canaryId sides =>
    cases sides with
    | error e => cases h
    | ok sides => exact .inr (read_heads s c canaryId sides.1 sides.2 h)
  | deciding c canaryId cm bm => exact .inr (read_heads s c canaryId cm bm h)
  | clearing c canaryId v passed findings =>
    rw [Call.next, Store.clearOverrides_run] at h
    cases hb : Store.binds s.canaryTable canaryId with
    | false =>
      rw [hb] at h
      cases h
    | true =>
      rw [hb] at h
      cases passed with
      | false => cases h
      | true => exact .inl h
  | promoting c canaryId v findings =>
    rw [Call.next] at h
    cases hp : (Store.promote c.group v).run s <;> rw [hp] at h <;> cases h
  | aborting canaryId reason =>
    rw [Call.next, Store.clearOverrides_run] at h
    cases hb : Store.binds s.canaryTable canaryId <;> rw [hb] at h <;> cases h
  | _ => cases h

theorem inFlight_of_heads {call : Call} {id candidate : Int}
    (h : heads call = some (id, candidate)) : call.inFlight = some id := by
  cases call <;> cases h <;> rfl

section Step

variable {id : Int} {s : Plane}

theorem window_kept {t : Plane}
    (hrows : Option.Rel SameCanary (s.store.canaryTable.get? id) (t.store.canaryTable.get? id))
    (hpointer : ∀ row, s.store.canaryTable.get? id = some row →
      Expected row (t.store.desiredState.get? row.replicaGroup))
    (hheads : ∀ (client : Nat) (call : Call) (candidate : Int), t.calls[client]? = some call →
      heads call = some (id, candidate) →
      ∃ row, s.store.canaryTable.get? id = some row ∧ row.candidateVersionId = candidate) :
    Window id t := by
  constructor
  · intro row' hrow'
    rw [hrow'] at hrows
    cases hrow : s.store.canaryTable.get? id with
    | none =>
      rw [hrow] at hrows
      cases hrows
    | some row =>
      rw [hrow] at hrows
      cases hrows with
      | some hsame =>
        rw [expected_same hsame, hsame.group]
        exact hpointer row hrow
  · intro client call candidate hcall hhead
    obtain ⟨row, hrow, hcand⟩ := hheads client call candidate hcall hhead
    rw [hrow] at hrows
    generalize t.store.canaryTable.get? id = after at hrows
    cases hrows with
    | some hsame => exact ⟨_, rfl, hsame.candidate.trans hcand⟩

theorem window_promoted (hs : Window id s) {group : String} {version : Int}
    (hy : ∀ row, s.store.canaryTable.get? id = some row → group = row.replicaGroup →
      Expected row (some version)) :
    ∀ row, s.store.canaryTable.get? id = some row → Expected row
      ((final (Store.promote group version) s.store).desiredState.get? row.replicaGroup) := by
  intro row hrow
  by_cases hv : ∃ v, s.store.find version = some v ∧ v.replicaGroup = group
  · obtain ⟨v, hf, hg⟩ := hv
    rw [pointer_promoted hf hg]
    split_ifs with hgroup
    · exact hy row hrow hgroup.symm
    · exact hs.pointer row hrow
  · rw [pointer_refused hv]
    exact hs.pointer row hrow

/-- A pointer moved to where the canary of its group may meet it. -/
theorem window_moved (hs : Window id s) {group : String} {version : Int}
    (hy : ∀ row, s.store.canaryTable.get? id = some row → group = row.replicaGroup →
      Expected row (some version)) :
    Window id { s with store := final (Store.promote group version) s.store } := by
  have hk := CanaryOverrides.promote_keeps s.store group version
  refine ⟨fun row hrow => window_promoted hs hy row (hk.2 ▸ hrow), ?_⟩
  intro client call candidate hcall hhead
  obtain ⟨row, hrow, hcand⟩ := hs.headed client call candidate hcall hhead
  exact ⟨row, hk.2.symm ▸ hrow, hcand⟩

theorem window_act (hs : Window id s) {client : Nat} (hy : Yields id s (.act client)) :
    Window id (step s (.act client)) := by
  cases hc : s.calls[client]? with
  | none => rwa [step_act_none hc]
  | some call =>
    rw [step_act hc]
    refine window_kept (next_rows s.store call id) ?_ ?_
    · by_cases hp : ∃ c id' v findings, call = .promoting c id' v findings
      · obtain ⟨c, id', v, findings, rfl⟩ := hp
        change ∀ row, _ → Expected row ((Call.next s.store _).1.desiredState.get? _)
        rw [promoting_next]
        refine window_promoted hs fun row hrow hgroup => ?_
        by_cases hid : id' = id
        · -- its own promotion is of the candidate on its row
          subst hid
          obtain ⟨row', hrow', hcand⟩ := hs.headed client _ v hc rfl
          rw [hrow] at hrow'
          cases hrow'
          exact .inr (by rw [hcand])
        · exact hy c id' v findings hc hid row hrow hgroup
      · have hd := next_desired s.store call fun c id' v f h => hp ⟨c, id', v, f, h⟩
        intro row hrow
        change Expected row ((call.next s.store).1.desiredState.get? row.replicaGroup)
        rw [hd]
        exact hs.pointer row hrow
    · intro j other candidate hother hhead
      rw [List.getElem?_set] at hother
      split_ifs at hother
      · cases hother
        rcases next_heads hhead with hold | hread
        · exact hs.headed client call candidate hc hold
        · exact hread
      · exact hs.headed j other candidate hother hhead

theorem window_issue (hs : Window id s) (request : Request) :
    Window id (step s (.issue request)) := by
  refine ⟨hs.pointer, fun client call candidate hcall hhead => ?_⟩
  rcases getElem?_append_begin hcall with hold | hnone
  · exact hs.headed client call candidate hold hhead
  · rw [inFlight_of_heads hhead] at hnone
    cases hnone

/-- A canary that is opened records what its group's pointer is on. -/
theorem window_opened (hs : Window id s) {group : String} {candidateId : Int}
    {scope : List String} {gates : List Gate} {windowS : Rat} {base : Option ConfigVersion}
    (hb : (Store.desired group).run s.store = .ok base s.store) :
    Window id { s with store := { s.store with
      canaryTable := s.store.canaryTable.insert
        ⟨group, candidateId, base.map (·.id), scope, gates, windowS, "observing", ""⟩ } } := by
  constructor
  · intro row hrow
    change (s.store.canaryTable.insert _).get? id = some row at hrow
    rw [SerialTable.get?_insert] at hrow
    split_ifs at hrow with hid
    · cases hrow
      left
      change s.store.desiredState.get? group = base.map (·.id)
      exact Store.pointer_of_desired hb
    · exact hs.pointer row hrow
  · intro client call candidate hcall hhead
    obtain ⟨row, hrow, hcand⟩ := hs.headed client call candidate hcall hhead
    exact ⟨row, SerialTable.get?_insert_of_some hrow _, hcand⟩

theorem window_other (hs : Window id s) {op : StoreOp} (hy : Yields id s (.other op)) :
    Window id (step s (.other op)) := by
  cases op with
  | propose group fields createdBy reason =>
    have hr := Store.propose_run s.store group fields createdBy reason
    rw [step_other rfl, StoreHistory.apply, StoreOp.exec, final_discard]
    rcases Store.desired_reads s.store group with ⟨parent, hp⟩ | ⟨e, he⟩
    · rw [hp] at hr
      rw [final_of_ok hr]
      exact ⟨hs.pointer, hs.headed⟩
    · rw [he] at hr
      rw [final_of_error hr]
      exact hs
  | promote group version =>
    rw [step_other rfl]
    exact window_moved hs hy
  | rollback group version =>
    rw [step_other rfl]
    exact window_moved hs hy
  | openCanary group candidateId scope gates windowS =>
    rw [step_other rfl, StoreHistory.apply, StoreOp.exec, final_discard]
    rcases Store.openCanary_final s.store group candidateId scope gates windowS with
      h | ⟨base, hb, h⟩ <;> rw [h]
    · exact hs
    · exact window_opened hs hb
  | closeCanary canaryId status decision => exact hs
  | setOverrides replicaIds versionId canaryId =>
    rw [step_other rfl, StoreHistory.apply, StoreOp.exec]
    rcases Store.setOverrides_final s.store replicaIds versionId canaryId with h | h <;> rw [h] <;>
      exact ⟨hs.pointer, hs.headed⟩
  | clearOverrides canaryId =>
    rw [step_other rfl, StoreHistory.apply, StoreOp.exec]
    rcases Store.clearOverrides_final s.store canaryId with h | h <;> rw [h] <;>
      exact ⟨hs.pointer, hs.headed⟩
  | recordStatus replicaId group applied state detail => exact ⟨hs.pointer, hs.headed⟩

theorem window_step (hs : Window id s) {e : Event} (hy : Yields id s e) : Window id (step s e) := by
  cases e with
  | issue request => exact window_issue hs request
  | act client => exact window_act hs hy
  | other op => exact window_other hs hy

theorem findsBaseline_of_window (hs : Window id s) (e : Event) : FindsBaseline id s e := by
  intro row hrow client c candidate findings _ hcall _ _
  obtain ⟨row', hrow', hcand⟩ := hs.headed client _ candidate hcall rfl
  rw [hrow] at hrow'
  cases hrow'
  rw [← hcand]
  exact hs.pointer row hrow

end Step

theorem window_initial (id : Int) : Window id initial where
  pointer _ h := by cases h
  headed _ _ _ h := by cases h

/-- A canary keeps every newer decision when nobody else moves the pointer of its group away,
and exactly when its promotions find their baseline. -/
theorem newer_kept_iff (id : Int) (es : List Event) :
    (Along step (Yields id) initial es → Along step (KeepsNewer id) initial es) ∧
      (Along step (KeepsNewer id) initial es ↔ Along step (FindsBaseline id) initial es) := by
  refine ⟨fun hy => ?_, along_congr (keepsNewer_iff id)⟩
  exact along_of_invariant (I := Window id) (fun _ _ hs hy => window_step hs hy)
    (fun s e hs _ => (keepsNewer_iff id s e).mpr (findsBaseline_of_window hs e)) hy
    (window_initial id)

def promotedMeanwhile : List Event :=
  opening ++ [.other (.propose "g" (Dict.ofList [("max_num_seqs", .int 12)]) "t" ""),
    .other (.promote "g" 3), .issue (.decide pair 1 ∅ ∅), .act 0, .act 0]

theorem newer_overwritten :
    ¬∀ (id : Int) (es : List Event), Along step (KeepsNewer id) initial es := by
  intro h
  have hkept := along_iff.mp (h 1 (promotedMeanwhile ++ [.act 0])) promotedMeanwhile (.act 0) [] rfl
  have hrow : (run step initial promotedMeanwhile).store.canaryTable.get? 1 =
      some ⟨"g", 2, some 1, ["r0"], [], 60, "observing", ""⟩ := by decide +kernel
  have hcall : (run step initial promotedMeanwhile).calls[0]? =
      some (.promoting pair 1 2 []) := by rfl
  have hbefore : (run step initial promotedMeanwhile).store.desiredState.get? "g" = some 3 := by
    decide +kernel
  have hafter : (run step initial (promotedMeanwhile ++ [.act 0])).store.desiredState.get? "g" =
      some 2 := by decide +kernel
  have hsame : (run step initial (promotedMeanwhile ++ [.act 0])).store.desiredState.get? "g" =
      (run step initial promotedMeanwhile).store.desiredState.get? "g" := by
    rw [run_concat]
    exact hkept _ hrow (by rw [hbefore]; decide) 0 _ rfl hcall rfl
  rw [hafter, hbefore] at hsame
  exact absurd hsame (by decide)

end Trimtab.CanaryNewer
