/-
  The timer of an event that expires.

  * `Untold`: the sender of a stored event has not been told of its end.
  * `OfRecord`: the record of an event, as long as it is stored, has the header with which it was
    created.
  * `Settled`: after the callback of its timer, an event is gone for good, pending for nobody, and
    its sender was told exactly once, if it was still stored.
  * `settled_iff`: the callback settles the event, unless it finds it stored and runs at the very
    instant at which the event expires: `isExpired` asks for a later one, and there is no second
    timer.
-/
import GatewayRealtime.Outcome

namespace GatewayRealtime

namespace EventStore

variable {P : Type} {cfg : StoreConfig} {w w' : StoreWorld P} {e : String}

/-! ## What is known of a stored event -/

/-- The senders of stored events have been told nothing. -/
def Untold (w : StoreWorld P) : Prop :=
  ∀ e r, w.store.events.get? e = some r → tellsSender r = true → w.store.told e = 0

theorem Untold.step {op : ℤ × StoreOp P} (hw : WorldInv w) (hissued : ToldIssued w)
    (h : Untold w) (hst : storeStep cfg w op = some w') : Untold w' := by
  obtain ⟨⟨-, hen⟩, rfl⟩ := by simpa [storeStep] using hst
  obtain ⟨now, op⟩ := op
  have hnew : ∀ e' ∈ op.issues, e' ∉ w.issued := StoreOp.fresh_of_enabled hen
  intro e r' hr' htells
  by_cases hop : e ∈ op.issues
  · cases op with
    | create e' targetIds eventName payload qos options =>
      obtain rfl : e = e' := by simpa [StoreOp.issues] using hop
      have hnone := hw.fresh (hnew e hop)
      have hcreated : tellsSender (newRecord e eventName payload qos options now) = true := by
        rcases (create_growsBy cfg w.store e targetIds eventName payload qos options now).events e
          r' hr' with ⟨r, hr, -⟩ | ⟨-, hheader⟩
        · rw [hnone] at hr
          cases hr
        · rwa [← tellsSender_of_header hheader]
      have houtcomes := outcomes_create hw.store cfg hnone targetIds eventName payload qos options
        now (fun r hr => by rw [hnone] at hr; cases hr) fun _ => hcreated
      rw [outcomes_of_none hnone, hissued e (hnew e hop), if_pos rfl] at houtcomes
      have hafter : (w.store.create cfg e targetIds eventName payload qos options now).outcomes e =
          (w.store.create cfg e targetIds eventName payload qos options now).told e + 1 :=
        outcomes_of_some hr'
      exact Nat.succ.inj (hafter.symm.trans houtcomes)
    | _ => simp [StoreOp.issues] at hop
  · obtain ⟨r, hr, hheader, -⟩ := apply_recipientStep cfg now w.store hop hr'
    rw [tellsSender_of_header hheader] at htells
    have hall : Tells e w.store := by
      intro r₀ hr₀
      obtain rfl : r = r₀ := Option.some.inj (hr.symm.trans hr₀)
      exact htells
    have hbefore := h e r hr htells
    rcases apply_outcomes hw.store cfg now hop (fun e' he' => hw.fresh (hnew e' he')) hall with
      hsame | ⟨_, _, _, _, _, hgone, _⟩
    · rw [outcomes_of_some hr', outcomes_of_some hr, hbefore] at hsame
      exact Nat.succ.inj hsame
    · rw [hgone] at hr'
      cases hr'

/-- What every run of the store knows of its stored events. -/
theorem untold_run {t : ℤ} {ops : List (ℤ × StoreOp P)}
    (hrun : Run (storeStep cfg) anyStep (StoreWorld.init P t) ops w) : WorldInv w ∧ Untold w := by
  have hinv := hrun.inv (I := fun w => (WorldInv w ∧ ToldIssued w) ∧ Untold w)
    ⟨⟨.init t, fun _ _ => rfl⟩, fun _ _ hr => by cases hr⟩ fun _ _ _ h _ hst =>
      ⟨⟨h.1.1.step hst, h.1.2.step h.1.1 hst⟩, h.2.step h.1.1 h.1.2 hst⟩
  exact ⟨hinv.1.1, hinv.2⟩

/-- The event was created with the header of `h`, and keeps it while it is stored. -/
def OfRecord (h : EventRecord P) (w : StoreWorld P) : Prop :=
  h.eventId ∈ w.issued ∧
    ∀ r, w.store.events.get? h.eventId = some r → r.header = h.header

theorem OfRecord.step {h : EventRecord P} {op : ℤ × StoreOp P} (ho : OfRecord h w)
    (hst : storeStep cfg w op = some w') : OfRecord h w' := by
  obtain ⟨hop, hissued⟩ := issued_step ho.1 hst
  refine ⟨hissued, fun r' hr' => ?_⟩
  obtain ⟨-, rfl⟩ := by simpa [storeStep] using hst
  obtain ⟨r, hr, hheader, -⟩ := apply_recipientStep cfg op.1 w.store hop hr'
  exact hheader.trans (ho.2 r hr)

theorem ofRecord_create (hw : WorldInv w) {now : ℤ} {targetIds : List ℕ} {eventName : String}
    {payload : P} {qos : QoS} {options : CreateOptions}
    (hst : storeStep cfg w (now, .create e targetIds eventName payload qos options) = some w') :
    OfRecord (newRecord e eventName payload qos options now) w' := by
  obtain ⟨⟨-, hen⟩, rfl⟩ := by simpa [storeStep] using hst
  have hnew : e ∉ w.issued := by simpa [StoreOp.enabled] using hen
  refine ⟨List.mem_append_left _ (List.mem_singleton_self e), fun r hr => ?_⟩
  rcases (create_growsBy cfg w.store e targetIds eventName payload qos options now).events e r hr
    with ⟨r₀, hr₀, -⟩ | ⟨-, hheader⟩
  · rw [hw.fresh hnew] at hr₀
    cases hr₀
  · exact hheader

/-! ## The callback -/

/-- After the callback of its timer, an event is gone for good and pending for nobody; its sender,
    if it wants to know, was told exactly once, if the event was still stored. -/
def Settled (cfg : StoreConfig) (e : String) (w₁ w₂ : StoreWorld P) : Prop :=
  ∀ post w, Run (storeStep cfg) anyStep w₂ post w →
    w.store.events.get? e = none ∧ (∀ u now, ¬ w.store.Awaits u e now) ∧
      ∀ r, w₁.store.events.get? e = some r → tellsSender r = true → w.store.told e = 1

/-- When a record that was created with a TTL is expired. -/
theorem isExpired_newRecord {eventName : String} {payload : P} {qos : QoS}
    {options : CreateOptions} {created ttl : ℤ} (httl : options.ttl = some ttl) (h0 : 0 < ttl)
    (now : ℤ) : (newRecord e eventName payload qos options created).isExpired now = true ↔
      created + ttl ≠ 0 ∧ created + ttl < now := by
  have hne : ttl ≠ 0 := by omega
  simp [newRecord, EventRecord.isExpired, httl, truthy, hne]

theorem expiryTimer_get? (s : EventStore P) (e : String) (now : ℤ) :
    (s.expiryTimer e now).events.get? e =
      (s.events.get? e).filter fun r => !r.isExpired now := by
  unfold expiryTimer
  dsimp only
  cases hr : s.events.get? e with
  | none => exact hr
  | some r =>
    by_cases hexp : r.isExpired now = true
    · simp [hexp, removeEvent_events, Option.filter]
    · simp [hexp, hr, Option.filter]

/-- The callback that removes an event tells its sender. -/
theorem told_expiryTimer {s : EventStore P} (hs : StoreInv s) {r : EventRecord P} {now : ℤ}
    (hr : s.events.get? e = some r) (hexp : r.isExpired now = true)
    (htells : tellsSender r = true) : (s.expiryTimer e now).told e = s.told e + 1 := by
  have hid := hs.keyed e r hr
  unfold expiryTimer
  simp only [hr, hexp, if_true, told_removeEvent]
  simp [told, htells, hid]

/-- **When the timer settles an event**: exactly if the event is gone already, or its callback
    runs later than `createdAt + ttl`. -/
theorem settled_iff {start created now ttl : ℤ} {pre mid : List (ℤ × StoreOp P)}
    {w₁ w₂ : StoreWorld P} {targetIds : List ℕ} {eventName : String} {payload : P} {qos : QoS}
    {options : CreateOptions}
    (hrun : Run (storeStep cfg) anyStep (StoreWorld.init P start)
      (pre ++ (created, .create e targetIds eventName payload qos options) :: mid) w₁)
    (httl : options.ttl = some ttl) (h0 : 0 < ttl)
    (htimer : storeStep cfg w₁ (now, .expiryTimer e) = some w₂) :
    Settled cfg e w₁ w₂ ↔
      w₁.store.events.get? e = none ∨ created + ttl ≠ 0 ∧ created + ttl < now := by
  obtain ⟨hw₁, huntold⟩ := untold_run hrun
  obtain ⟨w₃, w₄, hpre, -, hcreate, hmid⟩ := hrun.cut
  obtain ⟨hissued, hheader⟩ := hmid.inv (ofRecord_create (worldInv_run hpre) hcreate)
    fun _ _ _ h _ hst => h.step hst
  have hw₂ := hw₁.step htimer
  obtain ⟨-, hissued₂⟩ := issued_step hissued htimer
  have hstore : w₂.store = w₁.store.expiryTimer e now := by
    obtain ⟨-, rfl⟩ := by simpa [storeStep] using htimer
    rfl
  have hexpired : ∀ r, w₁.store.events.get? e = some r →
      (r.isExpired now = true ↔ created + ttl ≠ 0 ∧ created + ttl < now) := by
    intro r hr
    rw [← r.header_isExpired, hheader r hr, EventRecord.header_isExpired,
      isExpired_newRecord httl h0]
  constructor
  · intro hsettled
    have hgone := (hsettled [] w₂ .nil).1
    rw [hstore, expiryTimer_get?] at hgone
    cases hr : w₁.store.events.get? e with
    | none => exact Or.inl rfl
    | some r =>
      rw [hr, Option.filter_some] at hgone
      right
      rw [← hexpired r hr]
      by_contra hexp
      simp [hexp] at hgone
  · intro hcond post w hpost
    have hgone₂ : w₂.store.events.get? e = none := by
      rw [hstore, expiryTimer_get?]
      cases hr : w₁.store.events.get? e with
      | none => rfl
      | some r =>
        rcases hcond with hnone | hlate
        · rw [hr] at hnone
          cases hnone
        · simp [(hexpired r hr).2 hlate]
    obtain ⟨hgone, htold⟩ : w.store.events.get? e = none ∧
        w.store.told e = w₂.store.told e := gone_run hpost hw₂ hissued₂ hgone₂
    refine ⟨hgone, ?_, fun r hr htells => ?_⟩
    · rintro u clock ⟨-, r, hr, -⟩
      rw [hgone] at hr
      cases hr
    · rcases hcond with hnone | hlate
      · rw [hr] at hnone
        cases hnone
      · rw [htold, hstore, told_expiryTimer hw₁.store hr ((hexpired r hr).2 hlate) htells,
          huntold e r hr htells]

/-- One event that expires five milliseconds after it was created. -/
def expiring : List (ℤ × StoreOp JsObj) :=
  [(10, .create "e" [1] "sync-alarm" [] .qos2
    { ttl := some 5, senderId := some 9, notifySender := some true })]

theorem settled_iff_late :
    ∃ w₁ w₂, exec (storeStep {}) (StoreWorld.init JsObj 0) expiring = some w₁ ∧
      storeStep {} w₁ (16, .expiryTimer "e") = some w₂ ∧ w₁.store.events.has "e" = true ∧
      Settled {} "e" w₁ w₂ := by
  have hexec : (exec (storeStep {}) (StoreWorld.init JsObj 0) expiring).map (fun w₁ =>
      (w₁.store.events.has "e", (storeStep {} w₁ (16, .expiryTimer "e")).isSome)) =
        some (true, true) := by decide
  obtain ⟨w₁, hw₁, hread⟩ := Option.map_eq_some_iff.1 hexec
  obtain ⟨hstored, hfires⟩ := Prod.mk.inj hread
  obtain ⟨w₂, hw₂⟩ := Option.isSome_iff_exists.1 hfires
  have hrun : Run (storeStep {}) anyStep (StoreWorld.init JsObj 0) ([] ++ expiring) w₁ :=
    run_of_exec hw₁
  exact ⟨w₁, w₂, hw₁, hw₂, hstored, (settled_iff hrun rfl (by decide) hw₂).2
    (Or.inr (by decide))⟩

/-- Fired at the very instant of expiry, the timer leaves the event in the store. -/
theorem expiring_onTime :
    ¬ ∀ (cfg : StoreConfig) (start created now ttl : ℤ) (pre mid : List (ℤ × StoreOp JsObj))
      (w₁ w₂ : StoreWorld JsObj) (e : String) (targetIds : List ℕ) (eventName : String)
      (payload : JsObj) (qos : QoS) (options : CreateOptions),
      Run (storeStep cfg) anyStep (StoreWorld.init JsObj start)
        (pre ++ (created, .create e targetIds eventName payload qos options) :: mid) w₁ →
      options.ttl = some ttl → 0 < ttl → storeStep cfg w₁ (now, .expiryTimer e) = some w₂ →
        Settled cfg e w₁ w₂ := by
  intro h
  have hexec : (exec (storeStep {}) (StoreWorld.init JsObj 0) expiring).map (fun w₁ =>
      (storeStep {} w₁ (15, .expiryTimer "e")).map fun w₂ => w₂.store.events.has "e") =
        some (some true) := by decide
  obtain ⟨w₁, hw₁, hread⟩ := Option.map_eq_some_iff.1 hexec
  obtain ⟨w₂, hw₂, hstored⟩ := Option.map_eq_some_iff.1 hread
  have hrun : Run (storeStep {}) anyStep (StoreWorld.init JsObj 0) ([] ++ expiring) w₁ :=
    run_of_exec hw₁
  have hgone := (h {} 0 10 15 5 [] [] w₁ w₂ "e" _ _ _ _ _ hrun rfl (by decide) hw₂ [] w₂ .nil).1
  rw [OMap.has, hgone] at hstored
  cases hstored

end EventStore

end GatewayRealtime
