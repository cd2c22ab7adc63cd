/-
  The event store (`services/event-store.service.ts`).

  * `EventStore P`: the two maps, the counters, the live expiry timers and the trace of
    `event.expired` emissions.
  * `create`, `markDelivered`, `markFailed`, `markApplied`, `expiryTimer` (the callback of a
    TTL timer) and `cleanup` (the periodic one), with the private methods they call.
  * `getPending`, `getPendingWithRetry`.
  * `StoreOp`, `storeStep`: one operation at one reading of the clock, guarded by what the
    environment promises: the clock does not run back, a new event id is new (`randomUUID`),
    and a timer fires once, not before it is due.

  An operation reads the clock once.  The methods that look an indexed id up in `events`
  without a test skip an id that has no record; `EventStoreInv` shows that there is none.
-/
import Mathlib.Algebra.Ring.Nat
import Mathlib.Data.List.Sort
import GatewayRealtime.EventRecord
import GatewayRealtime.Lib.Run

namespace GatewayRealtime

/-! ## State -/

/-- The configuration of the store, with the defaults of its constructor. -/
structure StoreConfig where
  MAX_EVENTS_PER_USER : ℕ := 1000
  MAX_EVENTS_TOTAL : ℕ := 100000
  DELIVERED_TIMEOUT : ℤ := 30000
  STALE_TIMEOUT : ℤ := 3600000
  MAX_ATTEMPT_PER_EVENT : ℕ := 5
  BASE_BACKOFF_EVENT : ℚ := 1000

/-- Why an event leaves the store. -/
inductive RemoveReason
  | applied | expired | force
deriving DecidableEq, Repr

/-- The data of an `event.expired` emission. -/
structure EventExpired where
  eventId : String
  eventName : String
  senderEventName : Option String
  reason : RemoveReason
  senderId : ℕ
deriving DecidableEq, Repr

/-- `stats`. -/
structure StoreStats where
  totalEventsCreated : ℕ := 0
  totalEventsDelivered : ℕ := 0
  totalEventsApplied : ℕ := 0
  totalEventsFailed : ℕ := 0
  totalEventsExpired : ℕ := 0
  currentPending : ℕ := 0
  maxPendingPerUser : ℕ := 0
  currentUsers : ℕ := 0
  lastCleanup : ℤ := 0
deriving DecidableEq, Repr

/-- `EventStoreService`. -/
structure EventStore (P : Type) where
  events : OMap String (EventRecord P) := .empty
  userEvents : OMap ℕ (OSet String) := .empty
  stats : StoreStats := {}
  /-- the TTL timers that are set, each with the instant it is due -/
  timers : OMap String ℤ := .empty
  /-- what was emitted as `event.expired`, oldest first -/
  emitted : List EventExpired := []
deriving DecidableEq

/-- The options of `create`. -/
structure CreateOptions where
  ttl : Option ℤ := none
  senderId : Option ℕ := none
  notifySender : Option Bool := none
  senderEventName : Option String := none
deriving DecidableEq

/-- `list.slice(0, end)`: a negative `end` counts from the end of the list. -/
def sliceTo {α : Type} (l : List α) (stop : ℤ) : List α :=
  if stop < 0 then l.take (l.length + stop).toNat else l.take stop.toNat

/-- The order in which events are sent: by `createdAt`. -/
def EventRecord.before {P : Type} (a b : EventRecord P) : Prop := a.createdAt ≤ b.createdAt

instance {P : Type} : DecidableRel (EventRecord.before (P := P)) :=
  fun a b => inferInstanceAs (Decidable (a.createdAt ≤ b.createdAt))

namespace EventStore

variable {P : Type} (s : EventStore P)

/-! ## Reading -/

/-- The ids in the index set of a user. -/
def indexed (userId : ℕ) : List String := ((s.userEvents.get? userId).map OSet.elems).getD []

/-- The events of a user that are pending: neither applied by it nor expired. -/
def pendingRecords (userId : ℕ) (now : ℤ) : List (EventRecord P) :=
  ((s.indexed userId).filterMap s.events.get?).filter (·.isPending userId now)

/-- `getPending`. -/
def getPending (userId : ℕ) (now : ℤ) : List (EventRecord P) :=
  (s.pendingRecords userId now).insertionSort EventRecord.before

/-- `getEvent`. -/
def getEvent (eventId : String) : Option (EventRecord P) := s.events.get? eventId

/-- `getAllUserIds`. -/
def getAllUserIds : List ℕ := s.userEvents.keys

/-- `statusOrder`; a status that it does not list compares as 0. -/
def statusOrder : TypeEventStatus → ℕ
  | .STORED => 1
  | .DELIVERED => 2
  | .FAILED => 3
  | .APPLIED => 0

/-- The order of `getPendingWithRetry`. -/
def retryBefore (userId : ℕ) (a b : EventRecord P) : Prop :=
  statusOrder (a.getUserStatus userId) < statusOrder (b.getUserStatus userId) ∨
    a.getUserStatus userId = b.getUserStatus userId ∧ a.createdAt ≤ b.createdAt

instance (userId : ℕ) : DecidableRel (retryBefore (P := P) userId) := fun a b =>
  inferInstanceAs (Decidable (statusOrder (a.getUserStatus userId) <
    statusOrder (b.getUserStatus userId) ∨
      a.getUserStatus userId = b.getUserStatus userId ∧ a.createdAt ≤ b.createdAt))

/-- `getPendingWithRetry`. `jitter` gives the random factor drawn for each event. -/
def getPendingWithRetry (cfg : StoreConfig) (userId : ℕ) (now : ℤ) (jitter : String → ℚ) :
    List (EventRecord P) :=
  (((s.indexed userId).filterMap s.events.get?).filter fun event =>
    !event.isExpired now && event.shouldRetry userId now cfg.MAX_ATTEMPT_PER_EVENT
      cfg.DELIVERED_TIMEOUT cfg.BASE_BACKOFF_EVENT (jitter event.eventId)).insertionSort
        (retryBefore userId)

/-! ## Removing -/

/-- The index without `eventId` for one user; an emptied set goes. -/
def unindex (eventId : String) (index : OMap ℕ (OSet String)) (userId : ℕ) :
    OMap ℕ (OSet String) :=
  match index.get? userId with
  | none => index
  | some userSet =>
    if (userSet.remove eventId).size = 0 then index.delete userId
    else index.set userId (userSet.remove eventId)

/-- The emission of a removal, if the sender asked for one. -/
def expiredNotice (event : EventRecord P) (reason : RemoveReason) : List EventExpired :=
  match event.senderId with
  | some senderId =>
    if reason ≠ .applied ∧ event.notifySender = true ∧ senderId ≠ 0 then
      [⟨event.eventId, event.eventName, event.senderEventName, reason, senderId⟩]
    else []
  | none => []

/-- `removeEvent`. -/
def removeEvent (eventId : String) (reason : RemoveReason) : EventStore P :=
  match s.events.get? eventId with
  | none => s
  | some event =>
    { s with
      timers := s.timers.delete eventId
      emitted := s.emitted ++ expiredNotice event reason
      userEvents := event.userStatus.keys.foldl (unindex eventId) s.userEvents
      events := s.events.delete eventId }

/-- The store with one record rewritten. -/
def updateEvent (eventId : String) (f : EventRecord P → EventRecord P) : EventStore P :=
  { s with events := s.events.modify eventId f }

/-! ## Limits -/

/-- One event dropped for one user; a record without recipients goes. -/
def dropForUser (userId : ℕ) (s : EventStore P) (eventId : String) : EventStore P :=
  let s := { s with userEvents := s.userEvents.modify userId (·.remove eventId) }
  let s := s.updateEvent eventId (·.dropUser userId)
  match s.events.get? eventId with
  | some event => if event.userStatus.size = 0 then s.removeEvent eventId .force else s
  | none => s

/-- `enforcePerUserLimit`. -/
def enforcePerUserLimit (cfg : StoreConfig) (now : ℤ) (s : EventStore P) (userId : ℕ) :
    EventStore P :=
  if (s.indexed userId).length ≤ cfg.MAX_EVENTS_PER_USER then s
  else
    let userEvents := (s.pendingRecords userId now).insertionSort EventRecord.before
    let toRemove := sliceTo userEvents (userEvents.length - cfg.MAX_EVENTS_PER_USER)
    (toRemove.map EventRecord.eventId).foldl (dropForUser userId) s

/-- The weight of a status in `forceCleanup`. -/
def weight : TypeEventStatus → ℕ
  | .FAILED => 4
  | .DELIVERED => 3
  | .STORED => 2
  | .APPLIED => 1

/-- The priority of an event: the sum of its weights. -/
def priority (event : EventRecord P) : ℕ := (event.userStatus.values.map weight).sum

/-- The order of `forceCleanup`: higher priority first, then older first. -/
def evictBefore (a b : EventRecord P) : Prop :=
  priority b < priority a ∨ priority a = priority b ∧ a.createdAt ≤ b.createdAt

instance : DecidableRel (evictBefore (P := P)) := fun a b =>
  inferInstanceAs (Decidable (priority b < priority a ∨
    priority a = priority b ∧ a.createdAt ≤ b.createdAt))

/-- `forceCleanup`. -/
def forceCleanup (cfg : StoreConfig) : EventStore P :=
  let eventsWithPriority := s.events.values.insertionSort evictBefore
  let toRemove := sliceTo eventsWithPriority (eventsWithPriority.length - cfg.MAX_EVENTS_TOTAL)
  (toRemove.map EventRecord.eventId).foldl (fun s eventId => s.removeEvent eventId .force) s

/-- `enforceMemoryLimits`. -/
def enforceMemoryLimits (cfg : StoreConfig) : EventStore P :=
  if cfg.MAX_EVENTS_TOTAL < s.events.size then s.forceCleanup cfg else s

/-- How many events are pending for a user. -/
def pendingCount (now : ℤ) (userId : ℕ) : ℕ := (s.pendingRecords userId now).length

/-- `updateStats`. -/
def updateStats (now : ℤ) : EventStore P :=
  let counts := s.userEvents.keys.map (s.pendingCount now)
  { s with
    stats := { s.stats with
      currentPending := counts.sum
      maxPendingPerUser := counts.foldl max 0
      currentUsers := s.userEvents.size } }

/-! ## Operations -/

/-- The id added to the index set of one user. -/
def addToIndex (eventId : String) (index : OMap ℕ (OSet String)) (userId : ℕ) :
    OMap ℕ (OSet String) :=
  index.set userId (((index.get? userId).getD .empty).add eventId)

/-- The record that `create` builds, before any recipient is added. -/
def newRecord (eventId eventName : String) (payload : P) (qos : QoS) (options : CreateOptions)
    (now : ℤ) : EventRecord P where
  eventId := eventId
  eventName := eventName
  payload := payload
  qos := qos
  createdAt := now
  ttl := options.ttl
  expiresAt := if truthy options.ttl then options.ttl.map (now + ·) else none
  senderId := options.senderId
  notifySender := options.notifySender.getD false
  senderEventName := options.senderEventName

/-- One recipient of a new record. -/
def addTarget (now : ℤ) (record : EventRecord P) (userId : ℕ) : EventRecord P :=
  (record.setUserStatus userId .STORED).setUserSequence userId now

/-- The two maps with a new event for `targetIds`. -/
def insertEvent (targetIds : List ℕ) (record : EventRecord P) (now : ℤ) : EventStore P :=
  { s with
    userEvents := targetIds.foldl (addToIndex record.eventId) s.userEvents
    events := s.events.set record.eventId (targetIds.foldl (addTarget now) record) }

/-- The TTL timer of a new event. -/
def startTimer (eventId : String) (ttl : Option ℤ) (now : ℤ) : EventStore P :=
  match ttl with
  | some t => if 0 < t then { s with timers := s.timers.set eventId (now + t) } else s
  | none => s

/-- Room for one more event. -/
def makeRoom (cfg : StoreConfig) : EventStore P :=
  if cfg.MAX_EVENTS_TOTAL ≤ s.events.size then s.forceCleanup cfg else s

/-- `create`, with the id that `generateEventId` returns. -/
def create (cfg : StoreConfig) (eventId : String) (targetIds : List ℕ) (eventName : String)
    (payload : P) (qos : QoS) (options : CreateOptions) (now : ℤ) : EventStore P :=
  let s := s.makeRoom cfg
  let s := s.insertEvent targetIds (newRecord eventId eventName payload qos options now) now
  let s := targetIds.foldl (enforcePerUserLimit cfg now) s
  let s := s.startTimer eventId options.ttl now
  let s := { s with
    stats := { s.stats with totalEventsCreated := s.stats.totalEventsCreated + 1 } }
  s.updateStats now

/-- The callback of the TTL timer of `eventId`. -/
def expiryTimer (eventId : String) (now : ℤ) : EventStore P :=
  let s := { s with timers := s.timers.delete eventId }
  match s.events.get? eventId with
  | some event => if event.isExpired now then s.removeEvent eventId .expired else s
  | none => s

/-- `markDelivered`. -/
def markDelivered (userId : ℕ) (eventId : String) (now : ℤ) : EventStore P :=
  match s.events.get? eventId with
  | none => s
  | some event =>
    if event.getUserStatus userId = .APPLIED then s
    else
      { s.updateEvent eventId fun r =>
          (r.setUserStatus userId .DELIVERED).incrementDeliveryAttempt userId now with
        stats := { s.stats with totalEventsDelivered := s.stats.totalEventsDelivered + 1 } }

/-- `markFailed`. -/
def markFailed (userId : ℕ) (eventId : String) (error : String) (now : ℤ) : EventStore P :=
  match s.events.get? eventId with
  | none => s
  | some event =>
    if event.getUserStatus userId = .FAILED then s
    else
      { s.updateEvent eventId fun r =>
          ((r.setUserStatus userId .FAILED).incrementDeliveryAttempt userId now).addDeliveryError
            userId error with
        stats := { s.stats with totalEventsFailed := s.stats.totalEventsFailed + 1 } }

/-- `markApplied`. -/
def markApplied (userId : ℕ) (eventId : String) : EventStore P :=
  match s.events.get? eventId with
  | none => s
  | some event =>
    let s := { s.updateEvent eventId (·.setUserStatus userId .APPLIED) with
      stats := { s.stats with totalEventsApplied := s.stats.totalEventsApplied + 1 } }
    if (event.setUserStatus userId .APPLIED).isAllApplied then s.removeEvent eventId .applied
    else s

/-! ## Periodic cleanup -/

/-- The ids of the expired events. -/
def expiredIds (now : ℤ) : List String :=
  (s.events.entries.filter fun e => e.2.isExpired now).map Prod.fst

/-- `cleanupExpiredEvents`. -/
def cleanupExpiredEvents (now : ℤ) : EventStore P :=
  let ids := s.expiredIds now
  let s := ids.foldl (fun s eventId => s.removeEvent eventId .expired) s
  { s with
    stats := { s.stats with totalEventsExpired := s.stats.totalEventsExpired + ids.length } }

/-- A delivery to `userId` that was last attempted too long ago. -/
def isStale (cfg : StoreConfig) (now : ℤ) (r : EventRecord P) (userId : ℕ)
    (status : TypeEventStatus) : Bool :=
  match status, r.getLastDeliveryAttempt userId with
  | .DELIVERED, some last => last ≠ 0 && decide (cfg.STALE_TIMEOUT < now - last)
  | _, _ => false

/-- The record with its stale deliveries marked as failed. -/
def failStale (cfg : StoreConfig) (now : ℤ) (r : EventRecord P) : EventRecord P :=
  { r with
    userStatus := r.userStatus.mapVal fun userId status =>
      if isStale cfg now r userId status then .FAILED else status }

/-- How many deliveries of a record are stale. -/
def staleCount (cfg : StoreConfig) (now : ℤ) (r : EventRecord P) : ℕ :=
  r.userStatus.entries.countP fun e => isStale cfg now r e.1 e.2

/-- `cleanupStaleDelivered`. -/
def cleanupStaleDelivered (cfg : StoreConfig) (now : ℤ) : EventStore P :=
  { s with
    events := s.events.mapVal fun _ r => failStale cfg now r
    stats := { s.stats with
      totalEventsFailed :=
        s.stats.totalEventsFailed + (s.events.values.map (staleCount cfg now)).sum } }

/-- The callback of the cleanup interval. -/
def cleanup (cfg : StoreConfig) (now : ℤ) : EventStore P :=
  let s := s.cleanupExpiredEvents now
  let s := s.cleanupStaleDelivered cfg now
  let s := s.enforceMemoryLimits cfg
  { s with stats := { s.stats with lastCleanup := now } }

end EventStore

/-! ## Runs of the store -/

/-- A call of the store, or one of its timers. -/
inductive StoreOp (P : Type)
  | create (eventId : String) (targetIds : List ℕ) (eventName : String) (payload : P) (qos : QoS)
      (options : CreateOptions)
  | markDelivered (userId : ℕ) (eventId : String)
  | markFailed (userId : ℕ) (eventId : String) (error : String)
  | markApplied (userId : ℕ) (eventId : String)
  | expiryTimer (eventId : String)
  | cleanup

/-- The effect of an operation when the clock reads `now`. -/
def StoreOp.apply {P : Type} (cfg : StoreConfig) (now : ℤ) (s : EventStore P) :
    StoreOp P → EventStore P
  | .create eventId targetIds eventName payload qos options =>
    s.create cfg eventId targetIds eventName payload qos options now
  | .markDelivered userId eventId => s.markDelivered userId eventId now
  | .markFailed userId eventId error => s.markFailed userId eventId error now
  | .markApplied userId eventId => s.markApplied userId eventId
  | .expiryTimer eventId => s.expiryTimer eventId now
  | .cleanup => s.cleanup cfg now

/-- The store, the last reading of the clock, and the event ids generated so far. -/
structure StoreWorld (P : Type) where
  store : EventStore P
  clock : ℤ
  issued : List String

/-- The store of a process that has just started. -/
def StoreWorld.init (P : Type) (now : ℤ) : StoreWorld P :=
  { store := { stats := { lastCleanup := now } }, clock := now, issued := [] }

/-- What the environment promises about an operation: a generated id is new, and a timer that
    fires is set and due. -/
def StoreOp.enabled {P : Type} (w : StoreWorld P) (now : ℤ) : StoreOp P → Bool
  | .create eventId .. => decide (eventId ∉ w.issued)
  | .expiryTimer eventId =>
    match w.store.timers.get? eventId with
    | some due => decide (due ≤ now)
    | none => false
  | _ => true

/-- The event id that an operation generates. -/
def StoreOp.issues {P : Type} : StoreOp P → List String
  | .create eventId .. => [eventId]
  | _ => []

/-- The operations that create nothing and report no failure: nothing calls `markFailed`. -/
def StoreOp.quiet {P : Type} : StoreOp P → Bool
  | .create .. | .markFailed .. => false
  | _ => true

theorem StoreOp.issues_of_quiet {P : Type} {op : StoreOp P} (h : op.quiet = true) :
    op.issues = [] := by
  cases op with
  | create => cases h
  | _ => rfl

/-- An operation generates ids that no event has had. -/
theorem StoreOp.fresh_of_enabled {P : Type} {w : StoreWorld P} {now : ℤ} {op : StoreOp P}
    (hen : op.enabled w now = true) : ∀ e ∈ op.issues, e ∉ w.issued := by
  cases op with
  | create eventId targetIds eventName payload qos options =>
    simpa [StoreOp.issues, StoreOp.enabled] using hen
  | _ => simp [StoreOp.issues]

/-- One operation at one reading of the clock. -/
def storeStep {P : Type} (cfg : StoreConfig) (w : StoreWorld P) (op : ℤ × StoreOp P) :
    Option (StoreWorld P) :=
  if w.clock ≤ op.1 ∧ op.2.enabled w op.1 = true then
    some ⟨op.2.apply cfg op.1 w.store, op.1, op.2.issues ++ w.issued⟩
  else none

end GatewayRealtime
