/-
  Acknowledgements that stay, and events that every recipient has acknowledged.

  * `AppliedStays`: once a recipient has applied an event, it has applied it as long as the event
    is stored.  Only `markFailed` can take that back: its guard tests for `FAILED` alone.
  * `appliedStays_iff`: so it holds of a run iff nothing reports the failure of an event to a
    recipient that has applied it.
  * `Unfinished`: every stored event has a recipient that has not applied it.
  * `LimitsLeaveOpen`: the limits of the targets of a new event take all recipients of an event,
    or leave one that has not applied it.
  * `unfinished_iff`: completion is tested on acknowledgements alone, so a run leaves no completed
    event in the store iff all its creations are such.
-/
import GatewayRealtime.Outcome

namespace GatewayRealtime

namespace EventStore

variable {P : Type} {s : EventStore P} {cfg : StoreConfig} {now : ℤ} {u : ℕ} {e : String}

/-! ## Acknowledgements stay -/

/-- No failure is reported of an event that the recipient has applied. -/
def NoFailureOfApplied (w : StoreWorld P) (op : ℤ × StoreOp P) : Prop :=
  match op.2 with
  | .markFailed u e _ => ∀ r ∈ w.store.events.get? e, r.userStatus.get? u ≠ some .APPLIED
  | _ => True

/-- A failure of such an event does not undo an acknowledgement. -/
theorem AppliedBy.markFailed (h : AppliedBy u e s) {v : ℕ} {e' : String}
    (hok : ∀ r ∈ s.events.get? e', r.userStatus.get? v ≠ some .APPLIED) (error : String) :
    AppliedBy u e (s.markFailed v e' error now) := by
  intro r' hr'
  have hnew : e ∉ (StoreOp.markFailed v e' error : StoreOp P).issues := List.not_mem_nil
  obtain ⟨r, hr, -, hstep⟩ := apply_recipientStep {} now s hnew hr'
  have hx := h r hr
  have hu := hstep u
  generalize hy : r'.recipientState u = y at hu ⊢
  cases hu with
  | same => exact hx
  | failed error _ => exact absurd hx (hok r hr)

/-- **One operation** keeps an acknowledgement, unless it reports a failure of it. -/
theorem AppliedBy.step {w w' : StoreWorld P} {op : ℤ × StoreOp P} (hw : WorldInv w)
    (hissued : e ∈ w.issued) (h : AppliedBy u e w.store) (hok : NoFailureOfApplied w op)
    (hst : storeStep cfg w op = some w') : AppliedBy u e w'.store := by
  obtain ⟨⟨-, hen⟩, rfl⟩ := by simpa [storeStep] using hst
  obtain ⟨now, op⟩ := op
  cases op with
  | create e' targetIds eventName payload qos options =>
    have hnew : e' ∉ w.issued := by simpa [StoreOp.enabled] using hen
    have hne : e ≠ e' := by
      rintro rfl
      exact hnew hissued
    exact h.create hw.store hne (hw.fresh hnew) targetIds eventName payload qos options
  | markFailed v e' error => exact h.markFailed hok error
  | _ => exact h.of_quiet rfl

/-- A failure of an applied event is recorded. -/
theorem not_appliedBy_markFailed {r : EventRecord P} (hr : s.events.get? e = some r)
    (happlied : r.userStatus.get? u = some .APPLIED) (error : String) :
    ¬ AppliedBy u e (s.markFailed u e error now) := by
  have hstatus : r.getUserStatus u ≠ .FAILED := by
    rw [EventRecord.getUserStatus, happlied]
    decide
  intro h
  have hr' : (s.markFailed u e error now).events.get? e = some
      (((r.setUserStatus u .FAILED).incrementDeliveryAttempt u now).addDeliveryError u error) := by
    simp [EventStore.markFailed, hr, hstatus]
  have hafter := h _ hr'
  rw [EventRecord.addDeliveryError_recipientState,
    EventRecord.incrementDeliveryAttempt_recipientState, if_pos rfl,
    EventRecord.setUserStatus_recipientState, if_pos rfl] at hafter
  cases hafter

/-- `APPLIED` is absorbing along a run: what a recipient has applied in some state, it has applied
    in every later one, as long as the event is stored, and it does not await it again. -/
def AppliedStays (cfg : StoreConfig) (w₀ : StoreWorld P) (ops : List (ℤ × StoreOp P)) : Prop :=
  ∀ pre mid post w₁ w₂, ops = pre ++ mid ++ post → Run (storeStep cfg) anyStep w₀ pre w₁ →
    Run (storeStep cfg) anyStep w₁ mid w₂ → ∀ u e r, w₁.store.events.get? e = some r →
      r.userStatus.get? u = some .APPLIED →
        AppliedBy u e w₂.store ∧ ∀ now, ¬ w₂.store.Awaits u e now

/-- **When `APPLIED` is absorbing**: exactly in the runs that report no failure of an event to a
    recipient that has applied it. -/
theorem appliedStays_iff {t : ℤ} {ops : List (ℤ × StoreOp P)} {w : StoreWorld P}
    (hrun : Run (storeStep cfg) anyStep (StoreWorld.init P t) ops w) :
    AppliedStays cfg (StoreWorld.init P t) ops ↔
      Run (storeStep cfg) NoFailureOfApplied (StoreWorld.init P t) ops w := by
  constructor
  · intro hstays
    refine hrun.iff_forall_step.2 fun pre op post w₁ hops hpre => ?_
    obtain ⟨now, op⟩ := op
    cases op with
    | markFailed v e error =>
      intro r hr happlied
      have hst : storeStep cfg w₁ (now, .markFailed v e error) =
          some ⟨w₁.store.markFailed v e error now, now, [] ++ w₁.issued⟩ := by
        obtain ⟨w₁', w₂, hpre', -, hst, -⟩ := (hops ▸ hrun).cut
        obtain rfl : w₁ = w₁' := hpre.det hpre'
        obtain ⟨hen, -⟩ := by simpa [storeStep] using hst
        exact if_pos (by simpa [StoreOp.enabled] using hen)
      have hafter := (hstays pre [(now, .markFailed v e error)] post w₁ _ (by simpa using hops)
        hpre (.single trivial hst) v e r hr happlied).1
      exact not_appliedBy_markFailed hr happlied error hafter
    | _ => trivial
  · rintro hok pre mid post w₁ w₂ rfl hpre hmid u e r hr happlied
    obtain ⟨w₃, hok, -⟩ := hok.split
    obtain ⟨w₁', hpre', hokmid⟩ := hok.split
    obtain rfl : w₁ = w₁' := hpre.det hpre'
    obtain rfl : w₃ = w₂ := hokmid.det hmid
    have hw := worldInv_run hpre
    have hstart : AppliedBy u e w₁.store := by
      intro r' hr'
      obtain rfl : r = r' := Option.some.inj (hr.symm.trans hr')
      exact happlied
    have hinv := hokmid.inv (I := fun w => WorldInv w ∧ e ∈ w.issued ∧ AppliedBy u e w.store)
      ⟨hw, hw.issued e r hr, hstart⟩ ?_
    · exact ⟨hinv.2.2, hinv.2.2.not_awaits⟩
    · rintro w op w' ⟨hw, hissued, happlied⟩ hok hst
      have hissued' : e ∈ w'.issued := by
        obtain ⟨-, rfl⟩ := by simpa [storeStep] using hst
        exact List.mem_append_right _ hissued
      exact ⟨hw.step hst, hissued', happlied.step hw hissued hok hst⟩

instance (w : StoreWorld P) (op : ℤ × StoreOp P) : Decidable (NoFailureOfApplied w op) :=
  match op with
  | (_, .markFailed u e _) =>
    inferInstanceAs (Decidable
      (∀ r ∈ w.store.events.get? e, r.userStatus.get? u ≠ some .APPLIED))
  | (_, .create ..) => isTrue trivial
  | (_, .markDelivered ..) => isTrue trivial
  | (_, .markApplied ..) => isTrue trivial
  | (_, .expiryTimer ..) => isTrue trivial
  | (_, .cleanup) => isTrue trivial

/-- User 1 acknowledges an event, and the delivery to user 2 fails. -/
def appliedAndFailed : List (ℤ × StoreOp JsObj) :=
  [(10, .create "e" [1, 2] "sync-alarm" [] .qos2 {}), (11, .markApplied 1 "e"),
    (12, .markFailed 2 "e" "timeout")]

theorem appliedStays_iff_appliedAndFailed :
    ∃ w, exec (guarded (storeStep {}) NoFailureOfApplied) (StoreWorld.init JsObj 0)
        appliedAndFailed = some w ∧
      AppliedStays {} (StoreWorld.init JsObj 0) appliedAndFailed := by
  have hexec : (exec (guarded (storeStep {}) NoFailureOfApplied) (StoreWorld.init JsObj 0)
      appliedAndFailed).isSome = true := by decide
  obtain ⟨w, hw⟩ := Option.isSome_iff_exists.1 hexec
  have hrun := run_of_exec_guarded hw
  exact ⟨w, hw, (appliedStays_iff (hrun.mono fun _ _ _ => trivial)).2 hrun⟩

/-- The delivery to user 1 fails after its acknowledgement. -/
def failedAfterApplied : List (ℤ × StoreOp JsObj) :=
  [(10, .create "e" [1, 2] "sync-alarm" [] .qos2 {}), (11, .markApplied 1 "e"),
    (12, .markFailed 1 "e" "timeout")]

/-- The event is failed, and pending again. -/
theorem failedAfterApplied_undone :
    ¬ ∀ (cfg : StoreConfig) (t : ℤ) (ops : List (ℤ × StoreOp JsObj)) (w : StoreWorld JsObj),
      Run (storeStep cfg) anyStep (StoreWorld.init JsObj t) ops w →
        AppliedStays cfg (StoreWorld.init JsObj t) ops := by
  intro h
  have hbefore : (exec (storeStep {}) (StoreWorld.init JsObj 0) (failedAfterApplied.take 2)).map
      (fun w₁ => ((w₁.store.events.get? "e").bind fun r => r.userStatus.get? 1,
        ((exec (storeStep {}) w₁ (failedAfterApplied.drop 2)).bind fun w₂ =>
          w₂.store.events.get? "e").bind fun r => r.userStatus.get? 1)) =
      some (some .APPLIED, some .FAILED) := by decide
  obtain ⟨w₁, hw₁, hread⟩ := Option.map_eq_some_iff.1 hbefore
  obtain ⟨happlied, hfailed⟩ := Prod.mk.inj hread
  obtain ⟨r₁, hr₁, happlied⟩ := Option.bind_eq_some_iff.1 happlied
  obtain ⟨r₂, hr₂, hfailed⟩ := Option.bind_eq_some_iff.1 hfailed
  obtain ⟨w₂, hw₂, hr₂⟩ := Option.bind_eq_some_iff.1 hr₂
  have hpre := run_of_exec hw₁
  have hmid := run_of_exec hw₂
  have hstays := (h {} 0 _ w₂ (hpre.append hmid) (failedAfterApplied.take 2)
    (failedAfterApplied.drop 2) [] w₁ w₂ (by simp) hpre hmid 1 "e" r₁ hr₁ happlied).1 r₂ hr₂
  have hstatus : r₂.userStatus.get? 1 = some .APPLIED := hstays
  rw [hfailed] at hstatus
  cases hstatus

/-! ## Completed events -/

/-- Every stored event has a recipient that has not applied it. -/
def Unfinished (s : EventStore P) : Prop :=
  ∀ e r, s.events.get? e = some r → ∃ u st, r.userStatus.get? u = some st ∧ st ≠ .APPLIED

theorem isAllApplied_eq_false {r : EventRecord P} : r.isAllApplied = false ↔
    ∃ u st, r.userStatus.get? u = some st ∧ st ≠ .APPLIED := by
  rw [Bool.eq_false_iff, ne_eq, EventRecord.isAllApplied_iff]
  simp only [not_forall, exists_prop]

/-- A recipient that has not applied the event stays one, whatever happens to it except its
    acknowledgement. -/
theorem RecipientStep.open_stays {op : StoreOp P} {x y : RecipientState}
    (h : RecipientStep cfg now u e op x y) (hop : op.issues = []) (hack : op ≠ .markApplied u e)
    (hx : ∃ st, x.status = some st ∧ st ≠ .APPLIED) :
    ∃ st, y.status = some st ∧ st ≠ .APPLIED := by
  cases h with
  | same => exact hx
  | evicted => cases hop
  | delivered => exact ⟨_, rfl, by decide⟩
  | failed => exact ⟨_, rfl, by decide⟩
  | applied => exact absurd rfl hack
  | stale => exact ⟨_, rfl, by decide⟩

/-- An acknowledgement removes the event that it completes. -/
theorem Unfinished.markApplied (h : Unfinished s) (v : ℕ) (e' : String) :
    Unfinished (s.markApplied v e') := by
  unfold EventStore.markApplied
  split
  · exact h
  · rename_i event hevent
    intro e r hr
    split_ifs at hr with hall
    · rw [removeEvent_events] at hr
      split_ifs at hr with he
      rw [updateEvent_events, if_neg he] at hr
      exact h e r hr
    · rw [updateEvent_events] at hr
      split_ifs at hr with he
      · rw [hevent, Option.map_some, Option.some.injEq] at hr
        subst hr
        exact isAllApplied_eq_false.1 (Bool.eq_false_iff.2 hall)
      · exact h e r hr

/-- An operation that creates nothing leaves no completed event. -/
theorem Unfinished.apply (h : Unfinished s) {op : StoreOp P} (hop : op.issues = []) :
    Unfinished (op.apply cfg now s) := by
  by_cases hack : ∃ v e, op = .markApplied v e
  · obtain ⟨v, e, rfl⟩ := hack
    exact h.markApplied v e
  · intro e r' hr'
    obtain ⟨r, hr, -, hstep⟩ := apply_recipientStep cfg now s (by simp [hop]) hr'
    obtain ⟨u, st, hst, hne⟩ := h e r hr
    obtain ⟨st', hst', hne'⟩ := (hstep u).open_stays hop (fun hu => hack ⟨u, e, hu⟩) ⟨st, hst, hne⟩
    exact ⟨u, st', hst', hne'⟩

/-! ### The limit per user -/

/-- The limits of some users take all the recipients of an event, or leave one that has not
    applied it. -/
def LimitsSpareOpen (cfg : StoreConfig) (now : ℤ) (vs : List ℕ) (s : EventStore P) : Prop :=
  ∀ x ∈ s.events.entries, (∀ u ∈ x.2.userStatus.keys, (u, x.1) ∈ limitDrops cfg now vs s) ∨
    ∃ u ∈ x.2.userStatus.keys, x.2.getUserStatus u ≠ .APPLIED ∧
      (u, x.1) ∉ limitDrops cfg now vs s

/-- A recipient that the limits leave has the status that it had. -/
theorem status_foldl_enforce {vs : List ℕ} {r r' : EventRecord P} (hr : s.events.get? e = some r)
    (hr' : (vs.foldl (enforcePerUserLimit cfg now) s).events.get? e = some r') (u : ℕ) :
    r'.userStatus.get? u =
      if (u, e) ∈ limitDrops cfg now vs s then none else r.userStatus.get? u := by
  obtain ⟨r₀, hr₀, -, hkept⟩ := kept_foldl (e := e) (kept_enforcePerUserLimit cfg now) vs s r' hr'
  obtain rfl : r₀ = r := Option.some.inj (hr₀.symm.trans hr)
  have hrec := recipient_limitDrops cfg now u e vs s
  simp only [Recipient, hr, hr', Option.some.injEq, exists_and_left, exists_eq_left'] at hrec
  have hstatus : r'.userStatus.get? u = r₀.userStatus.get? u ∨ r'.userStatus.get? u = none := by
    rcases hkept u with hsame | hdropped
    · exact Or.inl (congrArg RecipientState.status hsame)
    · exact Or.inr (congrArg RecipientState.status hdropped)
  split_ifs with hdrop
  · by_contra hsome
    obtain ⟨st, hst⟩ := Option.ne_none_iff_exists'.1 hsome
    exact (hrec.1 ⟨st, hst⟩).2 hdrop
  · rcases hstatus with hsame | hnone
    · exact hsame
    · by_contra hsome
      rw [hnone] at hsome hrec
      obtain ⟨st, hst⟩ := Option.ne_none_iff_exists'.1 (Ne.symm hsome)
      obtain ⟨st', hst'⟩ := hrec.2 ⟨⟨st, hst⟩, hdrop⟩
      cases hst'

/-- The record of an event goes iff the limits take all its recipients. -/
theorem foldl_enforce_eq_none_iff {vs : List ℕ} {r : EventRecord P}
    (hr : s.events.get? e = some r) (hrec : ∃ u, Recipient s u e) :
    (vs.foldl (enforcePerUserLimit cfg now) s).events.get? e = none ↔
      ∀ u ∈ r.userStatus.keys, (u, e) ∈ limitDrops cfg now vs s := by
  constructor
  · intro hgone u hu
    by_contra hdrop
    obtain ⟨r', -, hr', -⟩ := (recipient_limitDrops cfg now u e vs s).2
      ⟨(recipient_iff_of_get? hr u).2 hu, hdrop⟩
    rw [hgone] at hr'
    cases hr'
  · intro hall
    cases hr' : (vs.foldl (enforcePerUserLimit cfg now) s).events.get? e with
    | none => rfl
    | some r' =>
      obtain ⟨u, hu⟩ := exists_recipient_limit cfg now vs hrec hr'
      rw [recipient_limitDrops] at hu
      exact absurd (hall u ((recipient_iff_of_get? hr u).1 hu.1)) hu.2

/-- The limits leave no completed event iff they spare one recipient that is still to apply it
    of each event that they leave. -/
theorem unfinished_foldl_enforce (h : Unfinished s) (vs : List ℕ) :
    Unfinished (vs.foldl (enforcePerUserLimit cfg now) s) ↔ LimitsSpareOpen cfg now vs s := by
  have hrec : ∀ {e r}, s.events.get? e = some r → ∃ u, Recipient s u e := by
    intro e r hr
    obtain ⟨u, st, hst, -⟩ := h e r hr
    exact ⟨u, r, st, hr, hst⟩
  constructor
  · rintro hafter ⟨e, r⟩ hentry
    have hr := (s.events.mem_entries e r).1 hentry
    cases hr' : (vs.foldl (enforcePerUserLimit cfg now) s).events.get? e with
    | none => exact Or.inl ((foldl_enforce_eq_none_iff hr (hrec hr)).1 hr')
    | some r' =>
      obtain ⟨u, st, hst, hne⟩ := hafter e r' hr'
      rw [status_foldl_enforce hr hr'] at hst
      split_ifs at hst with hdrop
      refine Or.inr ⟨u, (OMap.mem_keys _ _).2 ⟨st, hst⟩, ?_, hdrop⟩
      rw [EventRecord.getUserStatus, hst]
      exact hne
  · intro hspares e r' hr'
    obtain ⟨r, hr, -⟩ := (noGrow_foldl (noGrow_enforcePerUserLimit cfg now) vs s).events e r' hr'
    rcases hspares (e, r) ((s.events.mem_entries e r).2 hr) with hall | ⟨u, hu, hne, hdrop⟩
    · rw [(foldl_enforce_eq_none_iff hr (hrec hr)).2 hall] at hr'
      cases hr'
    · obtain ⟨st, hst⟩ := (OMap.mem_keys _ _).1 hu
      refine ⟨u, st, by rw [status_foldl_enforce hr hr', if_neg hdrop, hst], ?_⟩
      rwa [EventRecord.getUserStatus, hst] at hne

/-! ### Creation -/

/-- A new event has targets. -/
def Targeted (_ : StoreWorld P) (op : ℤ × StoreOp P) : Prop :=
  match op.2 with
  | .create _ targetIds .. => targetIds ≠ []
  | _ => True

/-- The limits that a creation enforces leave no completed event. -/
def LimitsLeaveOpen (cfg : StoreConfig) (w : StoreWorld P) (op : ℤ × StoreOp P) : Prop :=
  match op.2 with
  | .create e targetIds eventName payload qos options =>
    LimitsSpareOpen cfg op.1 targetIds
      (inserted cfg e targetIds eventName payload qos options op.1 w.store)
  | _ => True

/-- A new event is one that its targets are still to apply. -/
theorem Unfinished.inserted (h : Unfinished s) (cfg : StoreConfig) (e : String)
    {targetIds : List ℕ} (htargets : targetIds ≠ []) (eventName : String) (payload : P) (qos : QoS)
    (options : CreateOptions) (now : ℤ) :
    Unfinished (EventStore.inserted cfg e targetIds eventName payload qos options now s) := by
  intro e' r hr
  simp only [EventStore.inserted, insertEvent, OMap.get?_set] at hr
  split_ifs at hr with he
  · obtain ⟨u, hu⟩ := List.exists_mem_of_ne_nil _ htargets
    rw [← Option.some.inj hr]
    exact ⟨u, .STORED, by rw [foldl_addTarget_status, if_pos hu], by decide⟩
  · rw [makeRoom_get? hr] at hr
    exact h e' r hr

theorem unfinished_create (h : Unfinished s) (cfg : StoreConfig) (e : String)
    {targetIds : List ℕ} (htargets : targetIds ≠ []) (eventName : String) (payload : P) (qos : QoS)
    (options : CreateOptions) (now : ℤ) :
    Unfinished (s.create cfg e targetIds eventName payload qos options now) ↔
      LimitsSpareOpen cfg now targetIds
        (EventStore.inserted cfg e targetIds eventName payload qos options now s) := by
  rw [← unfinished_foldl_enforce (h.inserted cfg e htargets eventName payload qos options now),
    Unfinished, create_events, createCore_eq]
  rfl

/-- A creation without targets stores an event that nobody will ever apply. -/
theorem not_unfinished_create (cfg : StoreConfig) (e : String) (eventName : String) (payload : P)
    (qos : QoS) (options : CreateOptions) (now : ℤ) :
    ¬ Unfinished (s.create cfg e [] eventName payload qos options now) := by
  intro h
  obtain ⟨u, st, hst, -⟩ := h e (newRecord e eventName payload qos options now) (by
    rw [create_events]
    simp [createCore, insertEvent, newRecord])
  cases hst

/-- **When completed events do not linger.**  In a run whose events all have targets, every
    stored event has a recipient that has not applied it, throughout, exactly when no creation
    drops by its limits the last such recipient of an event that others have applied. -/
theorem unfinished_iff {t : ℤ} {ops : List (ℤ × StoreOp P)} {w : StoreWorld P}
    (hrun : Run (storeStep cfg) Targeted (StoreWorld.init P t) ops w) :
    (∀ w', Visited (storeStep cfg) (StoreWorld.init P t) ops w' → Unfinished w'.store) ↔
      Run (storeStep cfg) (LimitsLeaveOpen cfg) (StoreWorld.init P t) ops w := by
  have hany : Run (storeStep cfg) anyStep (StoreWorld.init P t) ops w :=
    hrun.mono fun _ _ _ => trivial
  have hiff : (∀ w', Visited (storeStep cfg) (StoreWorld.init P t) ops w' → Unfinished w'.store) ↔
      Run (storeStep cfg) (fun w op => Targeted w op ∧ LimitsLeaveOpen cfg w op)
        (StoreWorld.init P t) ops w :=
    hany.safe_iff (I := fun w => Unfinished w.store) ?_ (fun _ h => h) ?_ ?_
  · rw [hiff]
    exact ⟨fun h => h.mono fun _ _ => And.right, fun h => hrun.and h⟩
  · intro e r hr
    cases hr
  · rintro w ⟨now, op⟩ w' h ⟨htargets, hopen⟩ hst
    obtain ⟨-, rfl⟩ := by simpa [storeStep] using hst
    by_cases hop : op.issues = []
    · exact h.apply hop
    · cases op with
      | create e targetIds eventName payload qos options =>
        exact (unfinished_create h cfg e htargets eventName payload qos options now).2 hopen
      | _ => exact absurd rfl hop
  · rintro w ⟨now, op⟩ w' h hbad hst hafter
    obtain ⟨-, rfl⟩ := by simpa [storeStep] using hst
    cases op with
    | create e targetIds eventName payload qos options =>
      by_cases htargets : targetIds = []
      · subst htargets
        exact not_unfinished_create cfg e eventName payload qos options now hafter
      · exact hbad ⟨htargets,
          (unfinished_create h cfg e htargets eventName payload qos options now).1 hafter⟩
    | _ => exact hbad ⟨trivial, trivial⟩

instance (w : StoreWorld P) (op : ℤ × StoreOp P) : Decidable (Targeted w op) :=
  match op with
  | (_, .create _ targetIds ..) => inferInstanceAs (Decidable (targetIds ≠ []))
  | (_, .markDelivered ..) => isTrue trivial
  | (_, .markFailed ..) => isTrue trivial
  | (_, .markApplied ..) => isTrue trivial
  | (_, .expiryTimer ..) => isTrue trivial
  | (_, .cleanup) => isTrue trivial

instance (cfg : StoreConfig) (now : ℤ) (vs : List ℕ) (s : EventStore P) :
    Decidable (LimitsSpareOpen cfg now vs s) :=
  inferInstanceAs (Decidable (∀ x ∈ s.events.entries,
    (∀ u ∈ x.2.userStatus.keys, (u, x.1) ∈ limitDrops cfg now vs s) ∨
      ∃ u ∈ x.2.userStatus.keys, x.2.getUserStatus u ≠ .APPLIED ∧
        (u, x.1) ∉ limitDrops cfg now vs s))

instance (cfg : StoreConfig) (w : StoreWorld P) (op : ℤ × StoreOp P) :
    Decidable (LimitsLeaveOpen cfg w op) :=
  match op with
  | (now, .create e targetIds eventName payload qos options) =>
    inferInstanceAs (Decidable (LimitsSpareOpen cfg now targetIds
      (inserted cfg e targetIds eventName payload qos options now w.store)))
  | (_, .markDelivered ..) => isTrue trivial
  | (_, .markFailed ..) => isTrue trivial
  | (_, .markApplied ..) => isTrue trivial
  | (_, .expiryTimer ..) => isTrue trivial
  | (_, .cleanup) => isTrue trivial

/-- With room for one event per user, a second event takes the first from both its recipients. -/
def droppedForBoth : List (ℤ × StoreOp JsObj) :=
  [(10, .create "e" [1, 2] "sync-alarm" [] .qos2 {}),
    (11, .create "f" [1, 2] "sync-alarm" [] .qos2 {})]

theorem unfinished_iff_droppedForBoth :
    ∃ w, exec (guarded (storeStep { MAX_EVENTS_PER_USER := 1 }) fun w op =>
        Targeted w op ∧ LimitsLeaveOpen { MAX_EVENTS_PER_USER := 1 } w op)
          (StoreWorld.init JsObj 0) droppedForBoth = some w ∧
      ∀ w', Visited (storeStep { MAX_EVENTS_PER_USER := 1 }) (StoreWorld.init JsObj 0)
        droppedForBoth w' → Unfinished w'.store := by
  have hexec : (exec (guarded (storeStep { MAX_EVENTS_PER_USER := 1 }) fun w op =>
      Targeted w op ∧ LimitsLeaveOpen { MAX_EVENTS_PER_USER := 1 } w op)
        (StoreWorld.init JsObj 0) droppedForBoth).isSome = true := by decide
  obtain ⟨w, hw⟩ := Option.isSome_iff_exists.1 hexec
  have hrun := run_of_exec_guarded hw
  exact ⟨w, hw, (unfinished_iff (hrun.mono fun _ _ => And.left)).2 (hrun.mono fun _ _ => And.right)⟩

/-- User 2 acknowledges the first event before the second one takes it from user 1. -/
def droppedWhenAcked : List (ℤ × StoreOp JsObj) :=
  [(10, .create "e" [1, 2] "sync-alarm" [] .qos2 {}), (11, .markApplied 2 "e"),
    (12, .create "f" [1] "sync-alarm" [] .qos2 {})]

/-- The first event stays, although its only recipient has applied it. -/
theorem droppedWhenAcked_lingers :
    ¬ ∀ (cfg : StoreConfig) (t : ℤ) (ops : List (ℤ × StoreOp JsObj)) (w : StoreWorld JsObj),
      0 < cfg.MAX_EVENTS_PER_USER →
        Run (storeStep cfg) Targeted (StoreWorld.init JsObj t) ops w → Unfinished w.store := by
  intro h
  have hexec : (exec (guarded (storeStep { MAX_EVENTS_PER_USER := 1 }) Targeted)
      (StoreWorld.init JsObj 0) droppedWhenAcked).map (fun w =>
        (w.store.events.get? "e").map EventRecord.isAllApplied) = some (some true) := by decide
  obtain ⟨w, hw, hread⟩ := Option.map_eq_some_iff.1 hexec
  obtain ⟨r, hr, happlied⟩ := Option.map_eq_some_iff.1 hread
  have hopen := isAllApplied_eq_false.2
    (h _ 0 droppedWhenAcked w (by decide) (run_of_exec_guarded hw) "e" r hr)
  rw [happlied] at hopen
  cases hopen

end EventStore

end GatewayRealtime
