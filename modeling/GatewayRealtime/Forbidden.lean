/-
  Forbidden messages.

  * `Execution`: one message from its first stretch to its end, over arbitrary states of the
    gateway at each stretch and arbitrary answers, so in every interleaving.
  * `NoEffect`: a stretch of which nobody but the sender sees anything.
  * `forbidden_no_effect_iff`: for which handlers a forbidden message has no effect.
-/
import GatewayRealtime.Loop

namespace GatewayRealtime

/-! ## Executions -/

/-- The refusal of `getReceivers`. -/
def forbiddenEvent : Failure := .ws "FORBIDDEN_EVENT" "Akses event ditolak"

/-- The message passes `validateAccess`, `validateStructurePayload` and `validatePayload`. -/
structure Message.Valid (m : Message) (type : TypeEnduser) : Prop where
  access : ∀ t, m.handler.type = some t → type = t
  structurePayload : m.handler.validateStructurePayload m.payload = .ok ()
  payload : m.handler.validatePayload m.payload = true

/-- The sender's helper lets no event through for the message, out of the product's events. -/
def Message.Forbidden (m : Message) (principal : EndUser) (type : TypeEnduser)
    (verified : List Events) : Prop :=
  (getHelper type).filterEvents principal (m.handler.getEventMessage m.payload) verified = .ok []

/-- In this state, the session of the message has the given principal and type, and the cache of
    its handler holds the product's events, if it holds any. -/
structure Gateway.Serves (cfg : GatewayConfig) (g : Gateway) (m : Message) (principal : EndUser)
    (type : TypeEnduser) (verified : List Events) : Prop where
  session : ∃ s, g.conn.heap[m.session]? = some s ∧ s.principal = principal ∧ s.type = type
  cache : ∀ events, g.cachedEvents cfg m.handler.labelEvent = some events → events = verified

/-- The rest of the handling of a message, from a suspension to its end: the states in which its
    stretches run, what each of them leaves, and the result.  A query of the product's events
    returns `verified`. -/
inductive Execution (cfg : GatewayConfig) (m : Message) (principal : EndUser)
    (type : TypeEnduser) (verified : List Events) :
    Task → List (Gateway × Stretch) → Except Failure Unit → Prop
  | done (result : Except Failure Unit) :
    Execution cfg m principal type verified (.done result) [] result
  | resume {g t answer s stretches result} :
    g.Serves cfg m principal type verified →
    (∀ r, answer = .events r → r = .ok verified) →
    g.onAnswer cfg t answer = some s →
    Execution cfg m principal type verified s.2.1 stretches result →
    Execution cfg m principal type verified t ((g, s) :: stretches) result

/-- The handling of a message. -/
def Message.Executes (m : Message) (cfg : GatewayConfig) (principal : EndUser)
    (type : TypeEnduser) (verified : List Events) (stretches : List (Gateway × Stretch))
    (result : Except Failure Unit) : Prop :=
  ∃ g session rest, g.Serves cfg m principal type verified ∧
    g.conn.heap[m.session]? = some session ∧
    Execution cfg m principal type verified (g.execute cfg m session).2.1 rest result ∧
    stretches = (g, g.execute cfg m session) :: rest

/-- Nobody but the sender sees anything of a stretch: it changes neither the connections nor the
    store, starts nothing, and only replies to the sender. -/
structure Message.NoEffect (m : Message) (st : Gateway × Stretch) : Prop where
  conn : st.2.1.conn = st.1.conn
  store : st.2.1.store = st.1.store
  tasks : st.2.2.2 = []
  trace : ∃ replies, st.2.1.trace = st.1.trace ++ replies ∧
    ∀ e ∈ replies, ∃ frame, e = .reply m.client frame

/-- A forbidden message, whatever happens around it, has no effect and ends with the refusal. -/
def Message.ForbiddenNoEffect (m : Message) (cfg : GatewayConfig) (principal : EndUser)
    (type : TypeEnduser) : Prop :=
  ∀ verified stretches result, m.Executes cfg principal type verified stretches result →
    m.Forbidden principal type verified →
      (∀ st ∈ stretches, m.NoEffect st) ∧ result = .error forbiddenEvent

section
variable {cfg : GatewayConfig} {g : Gateway} {m : Message} {principal : EndUser}
  {type : TypeEnduser} {verified : List Events} {session : WsSession}

/-! ## Handlers that inherit `modifiedPayload` -/

theorem execute_valid (hm : m.Valid session.type) : g.execute cfg m session =
    match m.handler.plan session.principal m.payload with
    | .value modified => g.getReceivers cfg m modified
    | .throws f => g.finish m.client [] (.error f)
    | .call call notification => (g.log [.api call], .api m notification, []) := by
  have haccess : Gateway.validateAccess m.handler.type session = .ok () := by
    unfold Gateway.validateAccess
    split
    · rfl
    · next t ht => rw [if_pos (hm.access t ht)]
  cases hplan : m.handler.plan session.principal m.payload <;>
    simp only [Gateway.execute, haccess, Gateway.executeBase, hm.structurePayload, hm.payload,
      hplan, if_true]

/-- The refusal is an error frame at most. -/
theorem finish_forbidden_noEffect (g₀ : Gateway) (hconn : g.conn = g₀.conn)
    (hstore : g.store = g₀.store) (htrace : g.trace = g₀.trace) :
    m.NoEffect (g₀, g.finish m.client [] (.error forbiddenEvent)) := by
  have hfatal : Gateway.isFatalError forbiddenEvent.code = false := by decide
  simp only [Gateway.finish, Gateway.failMessage, hfatal, Bool.false_eq_true, if_false,
    Gateway.handleError]
  by_cases hopen : g.conn.isOpen m.client = true
  · simp only [hopen, if_true]
    exact ⟨hconn, hstore, rfl, _, by rw [Gateway.log, htrace],
      fun e he => ⟨_, List.mem_singleton.1 he⟩⟩
  · simp only [hopen, Bool.false_eq_true, if_false]
    exact ⟨hconn, hstore, rfl, [], by simp [htrace], fun e he => by simp at he⟩

/-- Once the events are known, a forbidden message is refused. -/
theorem afterEvents_forbidden (hs : g.Serves cfg m principal type verified)
    (hf : m.Forbidden principal type verified) (modified : JsObj) :
    g.afterEvents cfg m modified verified = g.finish m.client [] (.error forbiddenEvent) := by
  obtain ⟨s, hheap, rfl, rfl⟩ := hs.session
  simp only [Gateway.afterEvents, hheap]
  rw [show (getHelper s.type).filterEvents s.principal _ verified = .ok [] from hf]
  rfl

/-- The cache holds the events that were queried last. -/
theorem cachedEvents_loadEvents {label : String} {events events' : List Events} {since : ℤ}
    (h : (g.loadEvents label events since).cachedEvents cfg label = some events') :
    events' = events := by
  by_cases hexp : cfg.EVENT_CACHE_TTL < g.clock - since
  · simp [Gateway.cachedEvents, Gateway.loadEvents, hexp] at h
  · simpa [Gateway.cachedEvents, Gateway.loadEvents, hexp, eq_comm] using h

/-- What is left of a message that has ended. -/
theorem Execution.of_done {r result : Except Failure Unit} {stretches : List (Gateway × Stretch)}
    (h : Execution cfg m principal type verified (.done r) stretches result) :
    stretches = [] ∧ result = r := by
  cases h with
  | done => exact ⟨rfl, rfl⟩
  | resume _ _ hst _ => cases hst

/-- From `getReceivers` on, a forbidden message has no effect. -/
theorem getReceivers_forbidden {modified : JsObj} {rest : List (Gateway × Stretch)}
    {result : Except Failure Unit} (hbase : m.handler.getReceivers = .base)
    (hs : g.Serves cfg m principal type verified) (hf : m.Forbidden principal type verified)
    (hex : Execution cfg m principal type verified (g.getReceivers cfg m modified).2.1 rest
      result) :
    (∀ st ∈ (g, g.getReceivers cfg m modified) :: rest, m.NoEffect st) ∧
      result = .error forbiddenEvent := by
  cases hcache : g.cachedEvents cfg m.handler.labelEvent with
  | some events =>
    obtain rfl := hs.cache events hcache
    have hget : g.getReceivers cfg m modified =
        g.finish m.client [] (.error forbiddenEvent) := by
      simp only [Gateway.getReceivers, hbase, hcache, afterEvents_forbidden hs hf]
    rw [hget] at hex ⊢
    obtain ⟨rfl, rfl⟩ := hex.of_done
    exact ⟨by simpa using finish_forbidden_noEffect g rfl rfl rfl, rfl⟩
  | none =>
    have hget : g.getReceivers cfg m modified = (g, .events m modified g.clock, []) := by
      simp only [Gateway.getReceivers, hbase, hcache]
    rw [hget] at hex ⊢
    have hfirst : m.NoEffect (g, g, .events m modified g.clock, []) :=
      ⟨rfl, rfl, rfl, [], by simp, fun e he => by simp at he⟩
    cases hex with
    | @resume g' _ answer s stretches _ hs' hq hst hrest =>
      cases answer with
      | events r =>
        obtain rfl := hq r rfl
        simp only [Gateway.onAnswer, Option.some.injEq] at hst
        subst hst
        have hs'' : (g'.loadEvents m.handler.labelEvent verified g.clock).Serves cfg m principal
            type verified := by
          refine ⟨hs'.session, fun events h => ?_⟩
          exact cachedEvents_loadEvents h
        rw [afterEvents_forbidden hs'' hf] at hrest ⊢
        obtain ⟨rfl, rfl⟩ := hrest.of_done
        refine ⟨fun st hst => ?_, rfl⟩
        rcases List.mem_cons.1 hst with rfl | hst
        · exact hfirst
        · rw [List.mem_singleton] at hst
          subst hst
          exact finish_forbidden_noEffect g' rfl rfl rfl
      | _ => cases hst

/-- The handlers of the gateway that override `modifiedPayload` never return from it at once. -/
theorem plan_ne_value {h : WsEventJSON} (hh : h ∈ WS_EVENT_JSON_CLASSES)
    (hbase : h.modifiedPayload ≠ .base) (principal : EndUser) (payload : Option JsVal)
    (modified : JsObj) : h.plan principal payload ≠ .value modified := by
  have hcall : ∀ product (request : ProductInfo → PayloadPlan),
      (∀ p, request p ≠ .value modified) →
        serviceCall principal product request ≠ .value modified := by
    intro product request hreq
    unfold serviceCall
    split
    · exact hreq _
    · nofun
  simp only [WS_EVENT_JSON_CLASSES, List.mem_cons, List.not_mem_nil, or_false] at hh
  rcases hh with rfl | rfl | rfl | rfl | rfl | rfl | rfl | rfl | rfl | rfl | rfl | rfl
  case inr.inl =>
    refine hcall _ _ fun p => ?_
    split <;> nofun
  all_goals first
    | exact absurd rfl hbase
    | exact hcall _ _ fun p => nofun

/-- What `modifiedPayload` throws is not the refusal of `getReceivers`. -/
theorem plan_throws_ne {h : WsEventJSON} (hh : h ∈ WS_EVENT_JSON_CLASSES) {principal : EndUser}
    {payload : Option JsVal} {f : Failure} (hplan : h.plan principal payload = .throws f) :
    f ≠ forbiddenEvent := by
  have hthrow : ∀ product (request : ProductInfo → PayloadPlan),
      (∀ p f, request p = .throws f → ∃ message, f = .internal message) →
        serviceCall principal product request = .throws f → ∃ message, f = .internal message := by
    intro product request hreq h
    unfold serviceCall EndUser.getProduct at h
    split at h
    · exact hreq _ _ h
    · next f' hf' =>
      split at hf'
      · cases hf'
      · cases hf'
        exact ⟨_, (PayloadPlan.throws.inj h).symm⟩
  have hinternal : ∃ message, f = .internal message := by
    simp only [WS_EVENT_JSON_CLASSES, List.mem_cons, List.not_mem_nil, or_false] at hh
    rcases hh with rfl | rfl | rfl | rfl | rfl | rfl | rfl | rfl | rfl | rfl | rfl | rfl
    case inr.inl =>
      refine hthrow _ _ (fun p f' hf' => ?_) hplan
      split at hf' <;> cases hf'
      exact ⟨_, rfl⟩
    all_goals first
      | exact PayloadPlan.noConfusion hplan
      | exact hthrow _ _ (fun p f' hf' => PayloadPlan.noConfusion hf') hplan
  obtain ⟨message, rfl⟩ := hinternal
  nofun

/-- Nothing is let through out of an empty list of events. -/
theorem forbidden_nil (m : Message) (principal : EndUser) (type : TypeEnduser) :
    m.Forbidden principal type [] := by
  unfold Message.Forbidden
  cases getHelper type with
  | browser => cases principal <;> rfl
  | device => rfl
  | default => rfl

/-- **Which handlers check before they act.**  For a valid message of a handler with the
    inherited `getReceivers`, a refusal leaves no trace outside in any execution iff the handler
    inherits `modifiedPayload` too: those that override it call the service first. -/
theorem forbidden_no_effect_iff (cfg : GatewayConfig) {m : Message} (principal : EndUser)
    {type : TypeEnduser} (hh : m.handler ∈ WS_EVENT_JSON_CLASSES)
    (hreceivers : m.handler.getReceivers = .base) (hm : m.Valid type) :
    m.ForbiddenNoEffect cfg principal type ↔ m.handler.modifiedPayload = .base := by
  constructor
  · intro h
    by_contra hoverride
    -- a session of the sender, in a gateway whose product has no events
    let session : WsSession := ⟨0, principal, type, none, .ONLINE, none, none⟩
    let g : Gateway := { conn := { heap := List.replicate (m.session + 1) session } }
    have hheap : g.conn.heap[m.session]? = some session := by simp [g]
    have hserves : g.Serves cfg m principal type [] :=
      ⟨⟨session, hheap, rfl, rfl⟩, fun events he => by simp [Gateway.cachedEvents, g] at he⟩
    have hex : g.execute cfg m session = _ := execute_valid hm
    cases hplan : m.handler.plan principal m.payload with
    | value modified => exact plan_ne_value hh hoverride principal m.payload modified hplan
    | throws f =>
      -- the product is not the sender's: another error
      have hex' : g.execute cfg m session = g.finish m.client [] (.error f) := by
        rw [hex, hplan]
      have hrun : m.Executes cfg principal type [] [(g, g.execute cfg m session)] (.error f) :=
        ⟨g, session, [], hserves, hheap, by rw [hex']; exact .done _, rfl⟩
      have hres := (h _ _ _ hrun (forbidden_nil m principal type)).2
      exact plan_throws_ne hh hplan (Except.error.inj hres)
    | call call notification =>
      -- the service is called, and fails
      have hex' : g.execute cfg m session =
          (g.log [.api call], .api m notification, []) := by rw [hex, hplan]
      let down : Failure := .internal "no response"
      have hrest : Execution cfg m principal type [] (.api m notification)
          [(g, g.finish m.client [] (.error down))] (.error down) := by
        have hst : g.onAnswer cfg (.api m notification) (.api (.failed down)) =
          some (g.finish m.client [] (.error down)) := rfl
        exact .resume hserves (fun r hr => by cases hr) hst (.done _)
      have hrun : m.Executes cfg principal type []
          ((g, g.execute cfg m session) :: [(g, g.finish m.client [] (.error down))])
          (.error down) :=
        ⟨g, session, _, hserves, hheap, by rw [hex']; exact hrest, rfl⟩
      have heff := (h _ _ _ hrun (forbidden_nil m principal type)).1 _ List.mem_cons_self
      obtain ⟨replies, htrace, hreplies⟩ := heff.trace
      rw [hex'] at htrace
      obtain rfl : [Effect.api call] = replies := List.append_cancel_left htrace
      obtain ⟨frame, hframe⟩ := hreplies _ (List.mem_singleton_self _)
      cases hframe
  · rintro hinherit verified stretches result ⟨g, session, rest, hs, hheap, hex, rfl⟩ hf
    obtain ⟨s, hheap', rfl, rfl⟩ := hs.session
    obtain rfl : s = session := Option.some.inj (hheap'.symm.trans hheap)
    have hplan : m.handler.plan s.principal m.payload = .value (dataPayload m.payload) := by
      simp only [WsEventJSON.plan, hinherit]
    have heq : g.execute cfg m s = g.getReceivers cfg m (dataPayload m.payload) := by
      rw [execute_valid hm, hplan]
    rw [heq] at hex ⊢
    exact getReceivers_forbidden hreceivers hs hf hex

end

theorem forbidden_no_effect_iff_changeMode :
    (Message.mk 0 0 ChangeModeEvent (some (.obj [text "mode" "login"]))).ForbiddenNoEffect
        .defaults (.browser viewerUser) .browser ↔
      ChangeModeEvent.modifiedPayload = .base :=
  forbidden_no_effect_iff .defaults (.browser viewerUser) (by simp [WS_EVENT_JSON_CLASSES]) rfl
    ⟨fun t ht => by cases ht; rfl, by decide, by decide⟩

/-- A browser that may send nothing asks to destroy all bell sessions. -/
def destroyAll : Message := ⟨0, 0, DestroyAllSesiEvent, none⟩

/-- The tenant of that browser has a bell service. -/
def bellViewer : EndUser := .browser
  { viewerUser with products := [("bell", ⟨"https://bell.shop", "key"⟩)], role_product := "bell" }

/-- The gateway in which the request arrives. -/
def bellGateway : Gateway where
  conn := {
    clients := [{ session := some 0, listening := true }]
    heap := [⟨11, bellViewer, .browser, none, .ONLINE, some 0, none⟩]
    registry := { sessions := OMap.empty.set 11 0 } }

/-- The request is forbidden and refused, after the service of the tenant was told to delete
    everything. -/
theorem destroyAll_forbidden_deletes :
    destroyAll.Valid .browser ∧
    ∃ stretches s, destroyAll.Executes .defaults bellViewer .browser [⟨20, "destroy-all-sesi", 3⟩]
        ((bellGateway, s) :: stretches) (.error forbiddenEvent) ∧
      destroyAll.Forbidden bellViewer .browser [⟨20, "destroy-all-sesi", 3⟩] ∧
      s.1.trace = [.api ⟨"https://bell.shop/bell", .DELETE, none, "key"⟩] ∧
      ¬ destroyAll.ForbiddenNoEffect .defaults bellViewer .browser := by
  have hvalid : destroyAll.Valid .browser := ⟨fun t ht => by cases ht; rfl, rfl, rfl⟩
  let session : WsSession := ⟨11, bellViewer, .browser, none, .ONLINE, some 0, none⟩
  let verified : List Events := [⟨20, "destroy-all-sesi", 3⟩]
  let called := bellGateway.execute .defaults destroyAll session
  let answered := called.1.afterApi .defaults destroyAll none
    (.response (.obj [("isSuccess", .bool true)]) [])
  let refused := (answered.1.loadEvents "destroy-all-sesi" verified 0).afterEvents .defaults
    destroyAll [("isSuccess", .bool true)] verified
  have hserves : ∀ g : Gateway, g.conn = bellGateway.conn → g.caches = .empty →
      g.Serves .defaults destroyAll bellViewer .browser verified := by
    intro g hconn hcache
    refine ⟨⟨session, by rw [hconn]; rfl, rfl, rfl⟩, fun events he => ?_⟩
    simp [Gateway.cachedEvents, hcache] at he
  have hrest : Execution .defaults destroyAll bellViewer .browser verified called.2.1
      [(called.1, answered), (answered.1, refused)] (.error forbiddenEvent) := by
    have hanswer : called.1.onAnswer .defaults called.2.1
        (.api (.response (.obj [("isSuccess", .bool true)]) [])) =
          some answered := rfl
    have hevents : answered.1.onAnswer .defaults answered.2.1 (.events (.ok verified)) =
        some refused := rfl
    exact .resume (hserves _ rfl rfl) (fun r hr => by cases hr) hanswer
      (.resume (hserves _ rfl rfl) (fun r hr => by cases hr; rfl) hevents (.done _))
  have hrun : destroyAll.Executes .defaults bellViewer .browser verified
      ((bellGateway, called) :: [(called.1, answered), (answered.1, refused)])
      (.error forbiddenEvent) :=
    ⟨bellGateway, session, _, hserves _ rfl rfl, rfl, hrest, rfl⟩
  have hforbidden : destroyAll.Forbidden bellViewer .browser verified := rfl
  refine ⟨hvalid, _, called, hrun, hforbidden, rfl, fun h => ?_⟩
  obtain ⟨replies, htrace, hreplies⟩ := ((h _ _ _ hrun hforbidden).1 _ List.mem_cons_self).trace
  obtain ⟨frame, hframe⟩ := hreplies (.api ⟨"https://bell.shop/bell", .DELETE, none, "key"⟩) (by
    rw [show replies = [.api ⟨"https://bell.shop/bell", .DELETE, none, "key"⟩] from
      htrace.symm]
    exact List.mem_singleton_self _)
  cases hframe

end GatewayRealtime
