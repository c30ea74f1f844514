import Trimtab.OperatorCalls

set_option autoImplicit false

/-! How many versions and canaries the operator makes of one spec. -/
namespace Trimtab.Operator
open Effects Runs StoreHistory

variable {α β : Type}

/-! ## A pass in which no call fails -/

def Clean (n : Nat) (faults : List (Option Fault)) : Prop := ∀ i < n, faults[i]?.join = none

theorem clean_drop {n m : Nat} {faults : List (Option Fault)} (h : Clean (n + m) faults) :
    Clean m (faults.drop n) := by
  intro i hi
  rw [List.getElem?_drop]
  exact h (n + i) (by omega)

theorem clean_mono {n m : Nat} {faults : List (Option Fault)} (h : Clean n faults) (hm : m ≤ n) :
    Clean m faults := fun i hi => h i (by omega)

def Succeeds (n : Nat) (x : OperatorM α) (s : Cluster) (a : α) (store : Store) : Prop :=
  x.run s = .ok a { s with store := store, faults := s.faults.drop n }

theorem succeeds_pure (a : α) (s : Cluster) : Succeeds 0 (pure a) s a s.store := rfl

theorem succeeds_bind {n m : Nat} {x : OperatorM α} {f : α → OperatorM β} {s : Cluster} {a : α}
    {b : β} {store store' : Store} (hx : Succeeds n x s a store)
    (hf : Succeeds m (f a) { s with store := store, faults := s.faults.drop n } b store') :
    Succeeds (n + m) (x >>= f) s b store' := by
  unfold Succeeds at *
  rw [EStateM.run_bind, hx, ← List.drop_drop]
  exact hf

theorem succeeds_map {n : Nat} {x : OperatorM α} {s : Cluster} {a : α} {store : Store}
    (h : Succeeds n x s a store) (g : α → β) : Succeeds n (do return g (← x)) s (g a) store := by
  unfold Succeeds at *
  rw [EStateM.run_bind, h]
  rfl

theorem succeeds_call {x : StoreM α} {s : Cluster} {a : α} {store : Store} (h : Clean 1 s.faults)
    (hx : x.run s.store = .ok a store) : Succeeds 1 (calling (onStore x)) s a store := by
  have hhead : s.faults.head?.join = none := by
    have h0 := h 0 (by decide)
    rwa [← List.head?_eq_getElem?] at h0
  unfold Succeeds
  rw [calling_clean hhead, onStore_run, hx, List.drop_one]

def Readable (group : String) (s : Store) : Prop := ∃ d, (Store.desired group).run s = .ok d s

theorem readable_kept {group : String} {s t : Store} (h : Readable group s) (hext : Extends s t)
    (hp : t.desiredState = s.desiredState) : Readable group t := by
  obtain ⟨d, hd⟩ := h
  cases d with
  | none =>
    refine ⟨none, ?_⟩
    rw [Store.desired_run, hp, Store.pointer_of_desired hd]
    rfl
  | some v =>
    obtain ⟨hpointer, hfound⟩ := Store.desired_eq_some_iff.mp hd
    exact ⟨some v, Store.desired_eq_some_iff.mpr ⟨hp ▸ hpointer, find_of_extends hext hfound⟩⟩

variable (op : Operator)

def fleet (group : String) (s : Store) : List String :=
  if op.replicas.isEmpty then
    (((s.replicaStatus.entries.filter fun r => r.2.replicaGroup = group).insertionSort
      fun a b => a.1 ≤ b.1).map (·.1)).dedup.insertionSort (· ≤ ·)
  else op.replicas

def Startable (spec : Spec) (s : Store) : Prop :=
  ∀ c, spec.canary? = some c → ∃ scope, c.scope = some scope ∧ c.gates.isSome ∧
    (Canary.mk spec.group (op.fleet spec.group s)).checkScope scope = .ok ()

def releaseCount (spec : Spec) : Nat :=
  match spec.canary? with
  | none => 1
  | some _ => (if op.replicas.isEmpty then 1 else 0) + 3

/-- The calls of a pass up to the patch of the status: the proposal comes before the release,
and two reads come after it. -/
def callCount (spec : Spec) : Nat := 1 + (op.releaseCount spec + 2)

theorem succeeds_replicasOf (group : String) {s : Cluster}
    (h : Clean (if op.replicas.isEmpty then 1 else 0) s.faults) :
    Succeeds (if op.replicas.isEmpty then 1 else 0) (op.replicasOf group) s
      (op.fleet group s.store) s.store := by
  unfold replicasOf fleet
  split_ifs with he
  · rw [if_pos he] at h
    exact succeeds_map (succeeds_call h (Store.status_run s.store group)) _
  · exact succeeds_pure _ _

theorem succeeds_startCanary {c : Canary} {candidateId : Int} {scope : List String}
    (gates : List Gate) (windowS : Rat) {s : Cluster} (h : Clean 2 s.faults)
    (hc : c.checkScope scope = .ok ()) (hr : Readable c.group s.store)
    (hid : Store.binds s.store.configVersion candidateId = true) :
    ∃ cid t, Succeeds 2 (startCanary c candidateId scope gates windowS) s cid t ∧
      t.desiredState = s.store.desiredState ∧ Extends s.store t := by
  obtain ⟨base, hb⟩ := hr
  have hopen := Store.openCanary_run s.store c.group candidateId scope gates windowS
  rw [hb] at hopen
  simp only [hid, if_true] at hopen
  have hcheck : Succeeds 0 (onStore (ofExcept (c.checkScope scope))) s () s.store := by
    rw [hc]
    rfl
  let opened : Store := { s.store with
    canaryTable := s.store.canaryTable.insert
      ⟨c.group, candidateId, base.map (·.id), scope.insertionSort (· ≤ ·), gates, windowS,
        "observing", ""⟩ }
  have hset := Store.setOverrides_run opened scope candidateId s.store.canaryTable.nextId
  rw [if_pos (.inr ⟨hid, Store.binds_row (SerialTable.get?_insert_self _ _)⟩)] at hset
  refine ⟨_, _, succeeds_bind (n := 0) (m := 2) hcheck (succeeds_bind (n := 1) (m := 1)
    (succeeds_call (clean_mono h (by omega)) hopen)
    (succeeds_map (succeeds_call (clean_drop (n := 1) (m := 1) h) hset) _)), ?_, [], ?_⟩
  · rfl
  · exact List.append_nil _

theorem succeeds_poll_none {status : ConfigStatus} (hw : awaits status = none) (s : Cluster) :
    Succeeds 0 (poll status) s status s.store := by
  unfold poll
  rw [hw]
  exact succeeds_pure status s

theorem succeeds_poll {status : ConfigStatus} {cid : Int} {row : CanaryRow} {s : Cluster}
    (hw : awaits status = some cid) (hrow : s.store.canaryTable.get? cid = some row)
    (h : Clean 1 s.faults) : Succeeds 1 (poll status) s (noted status row) s.store := by
  have hread : (Store.canary cid).run s.store = .ok row s.store := by rw [Store.canary_run, hrow]
  unfold poll
  rw [hw]
  exact succeeds_map (succeeds_call h hread) _

/-- A version that was just proposed is released, and the group can still be read. -/
theorem succeeds_release {spec : Spec} {v : ConfigVersion} (base : ConfigStatus) {s : Cluster}
    (h : Clean (op.releaseCount spec) s.faults) (hv : s.store.find v.id = some v)
    (hg : v.replicaGroup = spec.group) (hr : Readable spec.group s.store)
    (hstart : op.Startable spec s.store) :
    ∃ status t, Succeeds (op.releaseCount spec) (do poll (← op.release spec v base)) s status t ∧
      Readable spec.group t := by
  cases hcanary : spec.canary? with
  | none =>
    have hcount : op.releaseCount spec = 1 := by rw [releaseCount, hcanary]
    have hpointed : Store.find { s.store with
        desiredState := s.store.desiredState.insert spec.group v.id } v.id = some v := hv
    have hrelease : Succeeds 1 (op.release spec v base) s { base with phase := some "promoted" }
        { s.store with desiredState := s.store.desiredState.insert spec.group v.id } := by
      unfold release
      rw [hcanary]
      exact succeeds_map (succeeds_call (hcount ▸ h) (Store.promote_found hv hg)) _
    rw [hcount]
    have hawaits : awaits { base with phase := some "promoted" } = none := by simp [awaits]
    refine ⟨_, _, succeeds_bind (n := 1) (m := 0) hrelease (succeeds_poll_none hawaits _), some v, ?_⟩
    rw [Store.desired_run, Dict.get?_insert_self]
    simp only [hpointed]
  | some c =>
    let k := if op.replicas.isEmpty then 1 else 0
    have hcount : op.releaseCount spec = k + 3 := by rw [releaseCount, hcanary]
    rw [hcount] at h ⊢
    obtain ⟨scope, hscope, hgates, hc⟩ := hstart c hcanary
    obtain ⟨gates, hgates⟩ := Option.isSome_iff_exists.mp hgates
    have hreplicas := op.succeeds_replicasOf spec.group (s := s)
      (clean_mono h (Nat.le_add_right k 3))
    let s₁ : Cluster := { s with faults := s.faults.drop k }
    have h₁ : Clean 3 s₁.faults := clean_drop h
    obtain ⟨cid, t, ht, hd, hext⟩ := succeeds_startCanary gates (c.windowS.getD 300)
      (s := s₁) (clean_mono h₁ (by omega)) hc hr
      (Store.binds_row (Store.find_eq_some_iff.mp hv).1)
    obtain ⟨-, hpos, row, hrow, -, -⟩ := startCanary_ok ht
    have hrequired : ∀ {key : String} {β : Type} {b? : Option β} {b : β}, b? = some b →
        Succeeds 0 (required key b?) s₁ b s₁.store := by
      rintro key β b? b rfl
      rfl
    have hrelease : Succeeds (k + 2) (op.release spec v base) s
        { base with phase := some "canary", canaryId := some cid } t := by
      unfold release
      rw [hcanary]
      refine succeeds_bind (n := k) (m := 2) hreplicas ?_
      refine succeeds_bind (n := 0) (m := 2) (hrequired hscope) ?_
      refine succeeds_bind (n := 0) (m := 2) (hrequired hgates) ?_
      exact succeeds_map ht _
    have hawaits : awaits { base with phase := some "canary", canaryId := some cid } = some cid := by
      have hne : cid ≠ 0 := by omega
      simp [awaits, hne]
    exact ⟨_, t, succeeds_bind (n := k + 2) (m := 1) hrelease
      (succeeds_poll hawaits hrow (clean_drop (n := k + 2) (m := 1) h)), readable_kept hr hext hd⟩

theorem succeeds_view {group : String} (status : ConfigStatus) {s : Cluster}
    (hr : Readable group s.store) (h : Clean 2 s.faults) :
    ∃ new, Succeeds 2 (view group status) s new s.store := by
  obtain ⟨d, hd⟩ := hr
  have hrows := succeeds_call (s := { s with faults := s.faults.drop 1 })
    (clean_drop (n := 1) (m := 1) h) (Store.status_run s.store group)
  exact ⟨_, succeeds_bind (n := 1) (m := 1) (succeeds_call (clean_mono h (by omega)) hd)
    (succeeds_map hrows _)⟩

theorem succeeds_propose {group : String} (fields : Fields) (createdBy reason : String)
    {s : Cluster} (hr : Readable group s.store) (h : Clean 1 s.faults) :
    ∃ v t, Succeeds 1 (calling (onStore (Store.propose group fields createdBy reason))) s v t ∧
      t.find v.id = some v ∧ v.replicaGroup = group ∧ Readable group t ∧
      t.replicaStatus = s.store.replicaStatus := by
  obtain ⟨parent, hp⟩ := id hr
  have hrun := Store.propose_run s.store group fields createdBy reason
  rw [hp] at hrun
  have hcall := succeeds_call h hrun
  obtain ⟨hv, hg, -⟩ := propose_ok hcall
  exact ⟨_, _, hcall, hv, hg, readable_kept hr (by simp [Extends]) rfl, rfl⟩

/-- With no failure before the patch of the status, everything up to it is done. -/
theorem succeeds_prepare {obj : InferenceConfig} {s : Cluster} (hasks : op.Asks obj)
    (h : Clean (op.callCount obj.spec) s.faults) (hr : Readable obj.spec.group s.store)
    (hstart : op.Startable obj.spec s.store) :
    ∃ new t, Succeeds (op.callCount obj.spec) (op.prepare obj) s new t := by
  obtain ⟨v, t₁, hpropose, hv, hg, hr₁, hstatus⟩ := succeeds_propose
    obj.spec.fields ("k8s/" ++ obj.ns ++ "/" ++ obj.name) (obj.spec.reason.getD "") hr
    (clean_mono h (by unfold callCount; omega))
  have h₁ : Clean (op.releaseCount obj.spec + 2) (s.faults.drop 1) := clean_drop h
  have hstart₁ : op.Startable obj.spec t₁ := by
    unfold Startable fleet
    rw [hstatus]
    exact hstart
  obtain ⟨status, t₂, hrelease, hr₂⟩ := op.succeeds_release (op.proposed obj v)
    (s := { s with store := t₁, faults := s.faults.drop 1 })
    (clean_mono h₁ (Nat.le_add_right _ 2)) hv hg hr₁ hstart₁
  obtain ⟨new, hview⟩ := succeeds_view status
    (s := { s with store := t₂, faults := (s.faults.drop 1).drop (op.releaseCount obj.spec) })
    hr₂ (clean_drop h₁)
  refine ⟨new, t₂, ?_⟩
  have hadvance : op.prepare obj = calling (onStore (Store.propose obj.spec.group obj.spec.fields
        ("k8s/" ++ obj.ns ++ "/" ++ obj.name) (obj.spec.reason.getD ""))) >>= fun v =>
      (op.release obj.spec v (op.proposed obj v) >>= poll) >>= view obj.spec.group := by
    unfold prepare advance
    rw [if_pos hasks]
    simp only [bind_assoc]
    rfl
  rw [hadvance]
  exact succeeds_bind hpropose (succeeds_bind hrelease hview)

/-! ## The hash in the status -/

theorem noted_appliedHash (status : ConfigStatus) (row : CanaryRow) :
    (noted status row).appliedHash = status.appliedHash := by
  unfold noted
  split_ifs <;> rfl

theorem poll_appliedHash {status new : ConfigStatus} {s t : Cluster}
    (h : (poll status).run s = .ok new t) : new.appliedHash = status.appliedHash := by
  have hp := (poll_ok h).2
  split at hp
  · rw [hp]
  · obtain ⟨row, -, rfl⟩ := hp
    exact noted_appliedHash status row

theorem prepare_appliedHash {obj : InferenceConfig} {s t : Cluster} {new : ConfigStatus}
    (h : (op.prepare obj).run s = .ok new t) : new.appliedHash =
      if op.Asks obj then some (op.specHash obj.spec) else obj.status.appliedHash := by
  unfold prepare at h
  obtain ⟨status, s₁, hadvance, h⟩ := bind_ok h
  obtain ⟨polled, s₂, hpoll, hview⟩ := bind_ok h
  obtain ⟨-, d, replicas, rfl⟩ := view_ok hview
  change polled.appliedHash = _
  rw [poll_appliedHash hpoll]
  have hcases := op.advance_ok hadvance
  generalize s₁.store = store at hcases
  cases hcases with
  | same idle => rw [if_neg idle]
  | released v status t asks found group fields release =>
    rw [if_pos asks]
    cases release <;> rfl

def Applied (obj : InferenceConfig) : Prop :=
  obj.status.appliedHash = some (op.specHash obj.spec)

instance (obj : InferenceConfig) : Decidable (op.Applied obj) :=
  inferInstanceAs (Decidable (_ = _))

theorem not_asks_of_applied {obj : InferenceConfig} (h : op.Applied obj) : ¬op.Asks obj :=
  fun hasks => hasks.1 h

theorem tick_applied {s : Cluster} (h : op.Applied s.obj) : op.Applied (final op.tick s).obj := by
  obtain ⟨-, status, hobj, base, hbase, hstatus⟩ := op.tick_wrote s
  have hhash : base.appliedHash = some (op.specHash s.obj.spec) := by
    rcases hbase with rfl | ⟨new, hnew, rfl⟩
    · exact h
    · have hnew := op.prepare_appliedHash (value?_eq_some_iff.mp hnew)
      rw [if_neg (op.not_asks_of_applied h)] at hnew
      change new.appliedHash.or s.obj.status.appliedHash = _
      rw [hnew, h]
      rfl
  unfold Applied
  rw [hobj]
  rcases hstatus with rfl | ⟨-, e, rfl⟩ <;> exact hhash

/-! ## One tick -/

/-- The proposal takes no effect: its call fails, or the group's pointer cannot be read. -/
def Unproposed (s : Cluster) (faults : List (Option Fault)) : Prop :=
  (∃ e, faults.head?.join = some (.before e)) ∨ ¬Readable s.obj.spec.group s.store

/-- Nothing fails after the proposal, up to the patch of the status, and that takes effect. -/
def Completes (s : Cluster) (faults : List (Option Fault)) : Prop :=
  op.Startable s.obj.spec s.store ∧ Clean (op.callCount s.obj.spec) faults ∧
    ∀ e, faults[op.callCount s.obj.spec]?.join ≠ some (.before e)

def Lands (s : Cluster) : OperatorEvent → Prop
  | .tick faults => op.Asks s.obj → Unproposed s faults ∨ op.Completes s faults
  | _ => True

theorem patched_of_reached (patch : ConfigStatus → ConfigStatus) {s : Cluster}
    (h : ∀ e, s.faults.head?.join ≠ some (.before e)) :
    (final (patchStatus patch) s).obj = { s.obj with status := patch s.obj.status } := by
  unfold final patchStatus
  rw [calling_run]
  cases hf : s.faults.head?.join with
  | none => rfl
  | some fault =>
    cases fault with
    | before e => exact absurd hf (h e)
    | after e => rfl

theorem completes_applied {s : Cluster} (hasks : op.Asks s.obj) (hr : Readable s.obj.spec.group s.store)
    (hc : op.Completes s s.faults) : op.Applied (final op.tick s).obj := by
  obtain ⟨hstart, hclean, hpatch⟩ := hc
  obtain ⟨new, t, hprepare⟩ := op.succeeds_prepare hasks hclean hr hstart
  have hhash := op.prepare_appliedHash hprepare
  rw [if_pos hasks] at hhash
  have hdiffers : Differs new s.obj.status := by
    refine .inl fun hsame => hasks.1 ?_
    rw [← hsame, hhash]
  let u : Cluster := { s with store := t, faults := s.faults.drop (op.callCount s.obj.spec) }
  have hreached : ∀ e, u.faults.head?.join ≠ some (.before e) := by
    intro e
    rw [List.head?_eq_getElem?, List.getElem?_drop]
    exact hpatch e
  have hreconcile : final (op.reconcileOne s.obj) s = final (patchStatus fun live => merge live new) u := by
    unfold reconcileOne
    rw [final_bind, hprepare]
    change final (report s.obj new) u = _
    unfold report
    rw [if_pos hdiffers, final_bind]
    unfold final
    cases (patchStatus fun live => merge live new).run u <;> rfl
  have hobj := patched_of_reached (fun live => merge live new) hreached
  rw [← hreconcile] at hobj
  have happlied : (merge s.obj.status new).appliedHash = some (op.specHash s.obj.spec) := by
    change new.appliedHash.or _ = _
    rw [hhash]
    rfl
  unfold Applied
  rcases (op.final_tick s).2 with h | ⟨-, e, h⟩
  · rw [h, hobj]
    exact happlied
  · rw [h, hobj]
    exact happlied

/-- A proposal without effect ends the pass, and nothing is added. -/
theorem unproposed_adds {s : Cluster} (hasks : op.Asks s.obj) (h : Unproposed s s.faults) :
    (final op.tick s).store = s.store := by
  rw [(op.tick_wrote s).1]
  have hcall : ∃ e, (calling (onStore (Store.propose s.obj.spec.group
      s.obj.spec.fields ("k8s/" ++ s.obj.ns ++ "/" ++ s.obj.name)
      (s.obj.spec.reason.getD "")))).run s = .error e { s with faults := s.faults.tail } := by
    rw [calling_run]
    rcases h with ⟨e, he⟩ | hread
    · rw [he]
      exact ⟨e, rfl⟩
    · have hpropose : ∃ e, (Store.propose s.obj.spec.group s.obj.spec.fields
          ("k8s/" ++ s.obj.ns ++ "/" ++ s.obj.name) (s.obj.spec.reason.getD "")).run s.store =
          .error e s.store := by
        rw [Store.propose_run]
        rcases Store.desired_reads s.store s.obj.spec.group with ⟨d, hd⟩ | ⟨e, he⟩
        · exact absurd ⟨d, hd⟩ hread
        · rw [he]
          exact ⟨e, rfl⟩
      obtain ⟨e, he⟩ := hpropose
      cases s.faults.head?.join with
      | none =>
        simp only [onStore_run, he]
        exact ⟨_, rfl⟩
      | some fault =>
        cases fault with
        | before e => exact ⟨_, rfl⟩
        | after e' =>
          simp only [onStore_run, he]
          exact ⟨_, rfl⟩
  obtain ⟨e, hcall⟩ := hcall
  have hprepare : (op.prepare s.obj).run s = .error e { s with faults := s.faults.tail } := by
    unfold prepare advance
    rw [if_pos hasks, EStateM.run_bind, EStateM.run_bind, hcall]
  rw [final_of_error hprepare]

theorem tick_grows (s : Cluster) : Grows 1 1 s.store (final op.tick s).store := by
  rw [(op.tick_wrote s).1]
  exact (op.adds_prepare s.obj s).2

theorem tick_idle {s : Cluster} (h : ¬op.Asks s.obj) : Grows 0 0 s.store (final op.tick s).store := by
  rw [(op.tick_wrote s).1]
  exact (op.adds_prepare_of_not_asks h s).2

/-! ## Every tick -/

def versionCount (s : Store) : Nat := s.configVersion.rows.length

def canaryCount (s : Store) : Nat := s.canaryTable.rows.length

/-- How many rows the ticks of a run add, by the count of one table. -/
def written (count : Store → Nat) (s : Cluster) : List OperatorEvent → Nat
  | [] => 0
  | .tick faults :: es =>
    (count (op.step s (.tick faults)).store - count s.store) +
      written count (op.step s (.tick faults)) es
  | e :: es => written count (op.step s e) es

def Unedited : OperatorEvent → Prop
  | .edit _ => False
  | _ => True

structure Counts (count : Store → Nat) : Prop where
  none_added : ∀ s t, Grows 0 0 s t → count t ≤ count s
  one_added : ∀ s t, Grows 1 1 s t → count t ≤ count s + 1

theorem counts_versions : Counts versionCount := ⟨fun _ _ h => h.versions, fun _ _ h => h.versions⟩

theorem counts_canaries : Counts canaryCount := ⟨fun _ _ h => h.canaries, fun _ _ h => h.canaries⟩

variable {op} {count : Store → Nat}

/-- Once a spec is applied nothing more is made of it. -/
theorem written_applied (hc : Counts count) {s : Cluster} {es : List OperatorEvent}
    (h : op.Applied s.obj) (hsame : ∀ e ∈ es, Unedited e) : op.written count s es = 0 := by
  induction es generalizing s with
  | nil => rfl
  | cons e es ih =>
    have htail : ∀ e ∈ es, Unedited e := fun e he => hsame e (List.mem_cons_of_mem _ he)
    cases e with
    | tick faults =>
      let u : Cluster := { s with faults := faults }
      have hnone := hc.none_added _ _ (op.tick_idle (s := u) (op.not_asks_of_applied h))
      have hrest : op.written count (final op.tick u) es = 0 :=
        ih (op.tick_applied (s := u) h) htail
      change count (final op.tick u).store - count u.store + op.written count (final op.tick u) es = 0
      omega
    | other w => exact ih h htail
    | edit spec => exact absurd (hsame _ List.mem_cons_self) (by simp [Unedited])

theorem written_le_one (hc : Counts count) {s : Cluster} {es : List OperatorEvent}
    (hsame : ∀ e ∈ es, Unedited e) (hl : Along op.step op.Lands s es) :
    op.written count s es ≤ 1 := by
  induction es generalizing s with
  | nil => exact Nat.zero_le 1
  | cons e es ih =>
    have htail : ∀ e ∈ es, Unedited e := fun e he => hsame e (List.mem_cons_of_mem _ he)
    have hrest := ih htail hl.2
    cases e with
    | tick faults =>
      let u : Cluster := { s with faults := faults }
      change count (final op.tick u).store - count u.store + op.written count (final op.tick u) es ≤ 1
      change op.written count (final op.tick u) es ≤ 1 at hrest
      by_cases hasks : op.Asks u.obj
      · by_cases hun : Unproposed u u.faults
        · rw [op.unproposed_adds hasks hun]
          omega
        · -- the proposal goes through, so the pass completes and the spec is applied
          have hr : Readable u.obj.spec.group u.store := by
            by_contra hr
            exact hun (.inr hr)
          have happlied := op.completes_applied hasks hr ((hl.1 hasks).resolve_left hun)
          have hone := hc.one_added _ _ (op.tick_grows u)
          rw [written_applied hc happlied htail]
          omega
      · have hnone := hc.none_added _ _ (op.tick_idle hasks)
        omega
    | other w => exact hrest
    | edit spec => exact absurd (hsame _ List.mem_cons_self) (by simp [Unedited])

/-- A spec makes at most one version and one canary, when the ticks that propose it complete. -/
theorem one_spec_one_version (op : Operator) (s : Cluster) (es : List OperatorEvent)
    (hsame : ∀ e ∈ es, Unedited e) (hl : Along op.step op.Lands s es) :
    op.written versionCount s es ≤ 1 ∧ op.written canaryCount s es ≤ 1 :=
  ⟨written_le_one counts_versions hsame hl, written_le_one counts_canaries hsame hl⟩

def pairOperator : Operator := ⟨fun _ => "5f1d", ["r0", "r1"]⟩

def capSpec (canary : Option CanarySpec) : Spec :=
  ⟨"g", none, Dict.ofList [("max_running_requests", .int 64)], canary⟩

def asking (spec : Spec) : Cluster := ⟨Store.empty, ⟨"default", "cap", spec, {}⟩, []⟩

def trialSpec : Spec := capSpec (some ⟨some ["r0"], some [], some 10⟩)

theorem one_spec_two_ticks :
    pairOperator.written versionCount (asking trialSpec) [.tick [], .tick []] ≤ 1 ∧
      pairOperator.written canaryCount (asking trialSpec) [.tick [], .tick []] ≤ 1 := by
  refine one_spec_one_version pairOperator _ _ ?_ ⟨fun _ => .inr ?_, fun hasks => ?_, trivial⟩
  · intro e he
    simp only [List.mem_cons, List.not_mem_nil, or_false, or_self] at he
    rw [he]
    trivial
  · refine ⟨fun c hc => ?_, fun i hi => rfl, fun e he => by cases he⟩
    obtain rfl : c = ⟨some ["r0"], some [], some 10⟩ := (Option.some.inj hc).symm
    exact ⟨["r0"], rfl, rfl, by decide +kernel⟩
  · have happlied : pairOperator.Applied
        (pairOperator.step (asking trialSpec) (.tick [])).obj := by decide +kernel
    exact absurd hasks (pairOperator.not_asks_of_applied happlied)

/-- A canary over a replica that the fleet does not have: each tick proposes the spec again. -/
theorem proposed_again : ¬∀ (op : Operator) (s : Cluster) (es : List OperatorEvent),
    (∀ e ∈ es, Unedited e) →
      op.written versionCount s es ≤ 1 ∧ op.written canaryCount s es ≤ 1 := by
  intro h
  have hone := (h pairOperator (asking (capSpec (some ⟨some ["r9"], some [], some 10⟩)))
    [.tick [], .tick []] (by simp [Unedited])).1
  revert hone
  decide +kernel

end Trimtab.Operator
