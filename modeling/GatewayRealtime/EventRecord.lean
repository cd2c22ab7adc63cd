/-
  A stored event (`schema/event.record.ts`).

  The payload is a parameter: nothing here looks into it.  The expiry timer of a record lives in
  the store (`EventStore.timers`), keyed by the event.
-/
import GatewayRealtime.Types

namespace GatewayRealtime

/-- `EventRecord`: one event with the delivery state of each of its recipients. -/
structure EventRecord (P : Type) where
  eventId : String
  eventName : String
  payload : P
  qos : QoS
  createdAt : ℤ
  ttl : Option ℤ := none
  expiresAt : Option ℤ := none
  senderId : Option ℕ := none
  notifySender : Bool := false
  senderEventName : Option String := none
  userStatus : OMap ℕ TypeEventStatus := .empty
  userSequence : OMap ℕ ℤ := .empty
  deliveryAttempts : OMap ℕ ℕ := .empty
  lastDeliveryAttempt : OMap ℕ ℤ := .empty
  deliveryErrors : OMap ℕ (List String) := .empty
deriving DecidableEq

/-- A numeric property is truthy: it is there and not zero. -/
def truthy : Option ℤ → Bool
  | some n => n ≠ 0
  | none => false

namespace EventRecord

variable {P : Type} (r : EventRecord P)

/-- `isExpired`, with the clock at `now`. -/
def isExpired (now : ℤ) : Bool :=
  match r.expiresAt with
  | some e => e ≠ 0 && decide (e < now)
  | none => false

/-- `getUserStatus`. -/
def getUserStatus (userId : ℕ) : TypeEventStatus := (r.userStatus.get? userId).getD .STORED

/-- `setUserStatus`. -/
def setUserStatus (userId : ℕ) (status : TypeEventStatus) : EventRecord P :=
  { r with userStatus := r.userStatus.set userId status }

/-- `setUserSequence`. -/
def setUserSequence (userId : ℕ) (seq : ℤ) : EventRecord P :=
  { r with userSequence := r.userSequence.set userId seq }

/-- `getDeliveryAttempts`. -/
def getDeliveryAttempts (userId : ℕ) : ℕ := (r.deliveryAttempts.get? userId).getD 0

/-- `incrementDeliveryAttempt`. -/
def incrementDeliveryAttempt (userId : ℕ) (now : ℤ) : EventRecord P :=
  { r with
    deliveryAttempts := r.deliveryAttempts.set userId (r.getDeliveryAttempts userId + 1)
    lastDeliveryAttempt := r.lastDeliveryAttempt.set userId now }

/-- `getLastDeliveryAttempt`. -/
def getLastDeliveryAttempt (userId : ℕ) : Option ℤ := r.lastDeliveryAttempt.get? userId

/-- `addDeliveryError`. -/
def addDeliveryError (userId : ℕ) (error : String) : EventRecord P :=
  { r with
    deliveryErrors :=
      r.deliveryErrors.set userId (((r.deliveryErrors.get? userId).getD []) ++ [error]) }

/-- `isAllApplied`. -/
def isAllApplied : Bool := r.userStatus.values.all (· = .APPLIED)

/-- The recipient is dropped from the record. -/
def dropUser (userId : ℕ) : EventRecord P :=
  { r with
    userStatus := r.userStatus.delete userId
    userSequence := r.userSequence.delete userId }

/-- `shouldRetry`.  `jitter` is the value of `0.5 + Math.random()`. -/
def shouldRetry (userId : ℕ) (now : ℤ) (maxAttempts : ℕ) (deliveredTimeout : ℤ)
    (backoffBase jitter : ℚ) : Bool :=
  match r.getUserStatus userId with
  | .APPLIED => false
  | .STORED => true
  | .DELIVERED =>
    match r.getLastDeliveryAttempt userId with
    | some last => last = 0 || decide (deliveredTimeout < now - last)
    | none => true
  | .FAILED =>
    if maxAttempts ≤ r.getDeliveryAttempts userId then false
    else
      match r.getLastDeliveryAttempt userId with
      | some last => last = 0 ||
          decide (backoffBase * 2 ^ r.getDeliveryAttempts userId * jitter < (now - last : ℤ))
      | none => true

/-- A record is pending for a user: not applied by it and not expired. -/
def isPending (userId : ℕ) (now : ℤ) : Bool :=
  r.getUserStatus userId ≠ .APPLIED && !r.isExpired now

/-- The part of a record that is fixed when it is created: no recipient, no delivery. -/
def header : EventRecord P :=
  { r with
    userStatus := .empty
    userSequence := .empty
    deliveryAttempts := .empty
    lastDeliveryAttempt := .empty
    deliveryErrors := .empty }

/-! ## Basic facts -/

@[simp] theorem header_isExpired (now : ℤ) : r.header.isExpired now = r.isExpired now := rfl

/-- Once expired, always expired. -/
theorem isExpired_mono {now now' : ℤ} (h : now ≤ now') (he : r.isExpired now = true) :
    r.isExpired now' = true := by
  cases hx : r.expiresAt with
  | none => simp [isExpired, hx] at he
  | some e =>
    simp only [isExpired, hx, Bool.and_eq_true, decide_eq_true_eq] at he ⊢
    exact ⟨he.1, Int.lt_of_lt_of_le he.2 h⟩

@[simp] theorem setUserStatus_userStatus (userId : ℕ) (status : TypeEventStatus) :
    (r.setUserStatus userId status).userStatus = r.userStatus.set userId status := rfl

@[simp] theorem dropUser_userStatus (userId : ℕ) :
    (r.dropUser userId).userStatus = r.userStatus.delete userId := rfl

/-- All recipients have applied the event iff no recipient has another status. -/
theorem isAllApplied_iff :
    r.isAllApplied = true ↔ ∀ u st, r.userStatus.get? u = some st → st = .APPLIED := by
  simp only [isAllApplied, List.all_eq_true, OMap.mem_values, decide_eq_true_eq]
  constructor
  · exact fun h u st hu => h st ⟨u, hu⟩
  · rintro h st ⟨u, hu⟩
    exact h u st hu

end EventRecord

end GatewayRealtime
