/-
  An account of the requests to the tenants' services (`events/json/`, `webhook/services/`).

  * `Requested.product`, `Requested.text`: a request goes to a product that the sender's principal
    has, and the texts that it is made of are there.
  * `ServiceRequest.Made`: in a stretch of the run, a client sent a message, and its handler made
    the request.
  * `ServiceRequest.Notified`: in a later one, the service answered this request with a success, and
    the notification was emitted.
  * `ServiceAccount`: every request and every notification of a run is entered, each with such a
    stretch of its own.
  * `account_step`: a step keeps the account.
  * `account_run`, `services_accounted`: there is such an account of every run.
-/
import GatewayRealtime.Cancellation
import GatewayRealtime.Outward

namespace GatewayRealtime

/-- A notification that is emitted. -/
structure Emission where
  event : String
  clientId : String
  data : Option JsVal

/-- The request in an effect. -/
def Effect.call? : Effect → Option ApiCall
  | .api call => some call
  | _ => none

/-- The notification in an effect. -/
def Effect.emission? : Effect → Option Emission
  | .emit event clientId data => some ⟨event, clientId, data⟩
  | _ => none

/-- The session is one of the tenant. -/
def Connections.TenantOf (k : Connections) (r : SessionRef) (clientId : String) : Prop :=
  ∃ principal, k.principal r = some principal ∧ principal.clientId = clientId

/-- The notifications of the handlers, and the events whose messages lead to them. -/
def notificationEvents : List (String × String) :=
  [("absensi.scan.login", "rfid-scan"), ("absensi.reservasi.cancel", "cancel-reservasi")]

/-- A request of a run, with the number of the computation that makes it and waits for the answer,
    and the notification that it asks for. -/
structure ServiceRequest where
  thread : ℕ
  message : Message
  call : ApiCall
  notification : Option String

section
variable (cfg : GatewayConfig) (t₀ : ℤ) (as : List (Act GatewayEvent GatewayAnswer))

/-- In a stretch of the run, a client sent a text, the listener of its socket made the message of
    it, and the handler made the request and waits for the answer. -/
def ServiceRequest.Made (x : ServiceRequest) : Prop :=
  ∃ pre c parsed p p', pre ++ [.event (.message c parsed)] <+: as ∧
    Run (gatewayProgram cfg).step anyStep (Gateway.start t₀) pre p ∧
    (gatewayProgram cfg).step p (.event (.message c parsed)) = some p' ∧
    p.shared.conn.Hears c parsed x.message ∧
    Requested p.shared.conn x.message x.call x.notification ∧
    p'.shared.outward = p.shared.outward ++ [.api x.call] ∧
    p'.threads = p.threads ++ [.api x.message x.notification] ∧ x.thread = p.threads.length

/-- In a stretch of the run, the service answered the request with a success, and the notification
    that it asks for was emitted, about the tenant of the session and with the data of the
    answer. -/
def ServiceRequest.Notified (x : ServiceRequest) (e : Emission) : Prop :=
  ∃ pre answer p p' result, pre ++ [.resume x.thread (.api answer)] <+: as ∧
    Run (gatewayProgram cfg).step anyStep (Gateway.start t₀) pre p ∧
    (gatewayProgram cfg).step p (.resume x.thread (.api answer)) = some p' ∧
    p.threads[x.thread]? = some (.api x.message x.notification) ∧
    WHResPipe answer = .ok result ∧ OMap.find "isSuccess" result = some (.bool true) ∧
    p.shared.conn.TenantOf x.message.session e.clientId ∧
    x.notification = some e.event ∧ e.data = OMap.find "data" result ∧
    p'.shared.outward = p.shared.outward ++ [.emit e.event e.clientId e.data]

/-- An account of the requests and of the notifications at the end of a run: each of them has a
    stretch of its own, and the notifications have requests of their own. -/
structure ServiceAccount (p : Pool Gateway Task) (requests : List ServiceRequest)
    (emitted : List (ServiceRequest × Emission)) : Prop where
  calls : p.shared.outward.filterMap Effect.call? = requests.map (·.call)
  made : ∀ x ∈ requests, x.Made cfg t₀ as
  requested : ∀ x ∈ requests, Requested p.shared.conn x.message x.call x.notification
  started : ∀ x ∈ requests, x.thread < p.threads.length
  numbered : (requests.map (·.thread)).Nodup
  emissions : p.shared.outward.filterMap Effect.emission? = emitted.map (·.2)
  notified : ∀ y ∈ emitted, y.1 ∈ requests ∧ y.1.Notified cfg t₀ as y.2
  /-- a notification is about the tenant of the session that the message came from -/
  about : ∀ y ∈ emitted, p.shared.conn.TenantOf y.1.message.session y.2.clientId
  once : (emitted.map (·.1.thread)).Nodup
  /-- everyone who waits for a service has made a request, which has led to no notification yet -/
  waiting : ∀ i m notification, p.threads[i]? = some (.api m notification) →
    (∃ x ∈ requests, x.thread = i ∧ x.message = m ∧ x.notification = notification) ∧
      ∀ y ∈ emitted, y.1.thread ≠ i

end

section
variable {cfg : GatewayConfig} {k k' : Connections} {m : Message} {call : ApiCall}
  {notification : Option String}

/-! ## Products -/

theorem serviceCall_call {user : EndUser} {productName : String}
    {request : ProductInfo → PayloadPlan}
    (h : serviceCall user productName request = .call call notification) :
    ∃ product, user.getProduct productName = .ok product ∧
      request product = .call call notification := by
  unfold serviceCall at h
  split at h
  · rename_i product hproduct
    exact ⟨product, hproduct, h⟩
  · cases h

/-- The request of a handler, and the notification that it asks for. -/
theorem plan_call {h : WsEventJSON} (hh : h ∈ WS_EVENT_JSON_CLASSES) {user : EndUser}
    {payload : Option JsVal} (hplan : h.plan user payload = .call call notification) :
    ∃ name product, h.productName = some name ∧ user.getProduct name = .ok product ∧
      (∃ path, call.url = product.domain ++ path) ∧ call.secret = product.secret ∧
      ∀ event, notification = some event →
        h.type = some .device ∧ (event, h.labelEvent) ∈ notificationEvents := by
  simp only [WS_EVENT_JSON_CLASSES, List.mem_cons, List.not_mem_nil, or_false] at hh
  rcases hh with rfl | rfl | rfl | rfl | rfl | rfl | rfl | rfl | rfl | rfl | rfl | rfl
  case inr.inl =>
    obtain ⟨product, hproduct, hcall⟩ := serviceCall_call hplan
    refine ⟨"absensi", product, rfl, hproduct, ?_⟩
    split at hcall
    · cases hcall
      exact ⟨⟨_, rfl⟩, rfl, fun event hevent => ⟨rfl, by cases hevent; decide⟩⟩
    · cases hcall
      exact ⟨⟨_, rfl⟩, rfl, by rintro event ⟨⟩⟩
    · cases hcall
      exact ⟨⟨_, rfl⟩, rfl, by rintro event ⟨⟩⟩
    · cases hcall
  case inr.inr.inl =>
    obtain ⟨product, hproduct, hcall⟩ := serviceCall_call hplan
    cases hcall
    refine ⟨"absensi", product, rfl, hproduct, ⟨_, String.append_assoc ..⟩, rfl, ?_⟩
    exact fun event hevent => ⟨rfl, by cases hevent; decide⟩
  case inr.inr.inr.inl =>
    obtain ⟨product, hproduct, hcall⟩ := serviceCall_call hplan
    cases hcall
    exact ⟨"absensi", product, rfl, hproduct, ⟨_, rfl⟩, rfl, by rintro event ⟨⟩⟩
  case inr.inr.inr.inr.inl | inr.inr.inr.inr.inr.inl =>
    obtain ⟨product, hproduct, hcall⟩ := serviceCall_call hplan
    cases hcall
    exact ⟨"bell", product, rfl, hproduct, ⟨_, rfl⟩, rfl, by rintro event ⟨⟩⟩
  case inr.inr.inr.inr.inr.inr.inl =>
    obtain ⟨product, hproduct, hcall⟩ := serviceCall_call hplan
    cases hcall
    exact ⟨"bell", product, rfl, hproduct, ⟨_, String.append_assoc ..⟩, rfl, by rintro event ⟨⟩⟩
  all_goals cases hplan

/-- A request goes to a product of the tenant that the message comes from. -/
theorem Requested.product (h : Requested k m call notification) :
    ∃ session name product, k.heap[m.session]? = some session ∧
      m.handler.productName = some name ∧ session.principal.getProduct name = .ok product ∧
      (∃ path, call.url = product.domain ++ path) ∧ call.secret = product.secret ∧
      ∀ event, notification = some event →
        session.type = .device ∧ (event, m.handler.labelEvent) ∈ notificationEvents := by
  obtain ⟨session, hs, hvalid, hplan⟩ := h.session
  obtain ⟨name, product, hname, hproduct, hurl, hsecret, hevent⟩ := plan_call h.listed hplan
  refine ⟨session, name, product, hs, hname, hproduct, hurl, hsecret, fun event he => ?_⟩
  obtain ⟨htype, hmem⟩ := hevent event he
  exact ⟨hvalid.access _ htype, hmem⟩

/-- The texts that a message needs are there, and none of them is empty. -/
theorem Requested.text (h : Requested k m call notification) {dto : Dto} {name : String}
    (hdto : m.handler.dto = some dto) (hname : stringProperty name ∈ dto.properties) :
    payloadText m.payload name ≠ "" := by
  obtain ⟨session, -, hvalid, -⟩ := h.session
  have hstructure := hvalid.structurePayload
  simp only [WsEventJSON.validateStructurePayload, hdto] at hstructure
  split at hstructure
  · cases hstructure
  · rename_i v hpayload
    split_ifs at hstructure
    split at hstructure
    · cases hstructure
    · rename_i hok
      obtain ⟨s, hs, hne⟩ := strField_of_valid hok hname
      simpa [payloadText, hpayload, hs] using hne
    · cases hstructure

/-- A session stays one of its tenant. -/
theorem Connections.TenantOf.extends {r : SessionRef} {clientId : String}
    (h : k.TenantOf r clientId) (hext : k.Extends k') : k'.TenantOf r clientId := by
  obtain ⟨principal, hprincipal, htenant⟩ := h
  exact ⟨principal, hext.principal hprincipal, htenant⟩

/-- A message stays one that makes the request: a session keeps its identity. -/
theorem Requested.extends (h : Requested k m call notification) (hext : k.Extends k') :
    Requested k' m call notification := by
  obtain ⟨session, hs, hvalid, hplan⟩ := h.session
  obtain ⟨session', hs', hid⟩ := hext _ _ hs
  obtain ⟨-, hprincipal, htype⟩ := WsSession.identity_eq hid
  exact ⟨h.listed, session', hs', htype ▸ hvalid, hprincipal ▸ hplan⟩

/-! ## Runs -/

variable {p p' : Pool Gateway Task} {act : Act GatewayEvent GatewayAnswer} {t₀ : ℤ}
  {as : List (Act GatewayEvent GatewayAnswer)} {requests : List ServiceRequest}
  {emitted : List (ServiceRequest × Emission)}

theorem ServiceRequest.Made.extend {x : ServiceRequest} (h : x.Made cfg t₀ as)
    (bs : List (Act GatewayEvent GatewayAnswer)) : x.Made cfg t₀ (as ++ bs) := by
  obtain ⟨pre, c, parsed, p, p', hpre, h⟩ := h
  exact ⟨pre, c, parsed, p, p', hpre.trans (List.prefix_append as bs), h⟩

theorem ServiceRequest.Notified.extend {x : ServiceRequest} {e : Emission}
    (h : x.Notified cfg t₀ as e) (bs : List (Act GatewayEvent GatewayAnswer)) :
    x.Notified cfg t₀ (as ++ bs) e := by
  obtain ⟨pre, answer, p, p', result, hpre, h⟩ := h
  exact ⟨pre, answer, p, p', result, hpre.trans (List.prefix_append as bs), h⟩

theorem account_start (cfg : GatewayConfig) (t₀ : ℤ) :
    ServiceAccount cfg t₀ [] (Gateway.start t₀) [] [] where
  calls := rfl
  made := List.forall_mem_nil _
  requested := List.forall_mem_nil _
  started := List.forall_mem_nil _
  numbered := List.nodup_nil
  emissions := rfl
  notified := List.forall_mem_nil _
  about := List.forall_mem_nil _
  once := List.nodup_nil
  waiting i m notification hi := by cases hi

/-- Nobody among those who are started waits for a service. -/
theorem waiting_append {l new : List Task} {i : ℕ} (hnew : ∀ t ∈ new, t.request = none)
    (h : (l ++ new)[i]? = some (.api m notification)) : l[i]? = some (.api m notification) := by
  rw [List.getElem?_append] at h
  split_ifs at h
  · exact h
  · cases hnew _ (List.mem_of_getElem? h)

/-- Nor does the computation that goes on. -/
theorem waiting_set {l : List Task} {t' : Task} {i j : ℕ} (ht' : t'.request = none)
    (h : (l.set j t')[i]? = some (.api m notification)) :
    i ≠ j ∧ l[i]? = some (.api m notification) := by
  rw [List.getElem?_set] at h
  split_ifs at h with hij
  · cases h
    cases ht'
  · exact ⟨Ne.symm hij, h⟩

/-- A step that neither makes a request nor emits a notification. -/
theorem ServiceAccount.quiet (h : ServiceAccount cfg t₀ as p requests emitted)
    (hext : p.shared.conn.Extends p'.shared.conn) (hsame : p'.shared.outward = p.shared.outward)
    (hlength : p.threads.length ≤ p'.threads.length)
    (hwaiting : ∀ (i : ℕ) (m : Message) (notification : Option String),
      p'.threads[i]? = some (.api m notification) → p.threads[i]? = some (.api m notification)) :
    ServiceAccount cfg t₀ (as ++ [act]) p' requests emitted where
  calls := by rw [hsame, h.calls]
  made x hx := (h.made x hx).extend [act]
  requested x hx := (h.requested x hx).extends hext
  started x hx := (h.started x hx).trans_le hlength
  numbered := h.numbered
  emissions := by rw [hsame, h.emissions]
  notified y hy := ⟨(h.notified y hy).1, (h.notified y hy).2.extend [act]⟩
  about y hy := (h.about y hy).extends hext
  once := h.once
  waiting i m notification hi := h.waiting i m notification (hwaiting i m notification hi)

/-- A request is entered with its message. -/
theorem ServiceAccount.request {x : ServiceRequest}
    (h : ServiceAccount cfg t₀ as p requests emitted)
    (hext : p.shared.conn.Extends p'.shared.conn)
    (hcalls : p'.shared.outward = p.shared.outward ++ [.api x.call])
    (hthreads : p'.threads = p.threads ++ [.api x.message x.notification])
    (hthread : x.thread = p.threads.length) (hmade : x.Made cfg t₀ (as ++ [act]))
    (hrequested : Requested p'.shared.conn x.message x.call x.notification) :
    ServiceAccount cfg t₀ (as ++ [act]) p' (requests ++ [x]) emitted where
  calls := by
    rw [hcalls, List.filterMap_append, h.calls, List.map_append]
    rfl
  made := List.forall_mem_append.2
    ⟨fun y hy => (h.made y hy).extend [act], List.forall_mem_singleton.2 hmade⟩
  requested := List.forall_mem_append.2
    ⟨fun y hy => (h.requested y hy).extends hext, List.forall_mem_singleton.2 hrequested⟩
  started := by
    rw [hthreads, List.length_append]
    refine List.forall_mem_append.2 ⟨fun y hy => ?_, List.forall_mem_singleton.2 ?_⟩
    · exact (h.started y hy).trans_le (Nat.le_add_right _ _)
    · rw [hthread]
      exact Nat.lt_succ_self _
  numbered := by
    rw [List.map_append, List.nodup_append]
    refine ⟨h.numbered, List.nodup_singleton _, fun i hi j hj => ?_⟩
    obtain ⟨y, hy, rfl⟩ := List.mem_map.1 hi
    obtain rfl := List.mem_singleton.1 hj
    exact (hthread ▸ h.started y hy).ne
  emissions := by
    rw [hcalls, List.filterMap_append, h.emissions]
    exact List.append_nil _
  notified y hy :=
    ⟨List.mem_append_left _ (h.notified y hy).1, (h.notified y hy).2.extend [act]⟩
  about y hy := (h.about y hy).extends hext
  once := h.once
  waiting i m notification hi := by
    rw [hthreads, List.getElem?_append, List.getElem?_singleton] at hi
    split_ifs at hi with hlt hlast
    · obtain ⟨⟨y, hy, hentry⟩, hnone⟩ := h.waiting i m notification hi
      exact ⟨⟨y, List.mem_append_left _ hy, hentry⟩, hnone⟩
    · cases hi
      have hi : x.thread = i := by omega
      refine ⟨⟨x, List.mem_append_right _ (List.mem_singleton_self x), hi, rfl, rfl⟩,
        fun y hy hsame => ?_⟩
      have hstarted := h.started y.1 (h.notified y hy).1
      omega

/-- A notification is entered in place of the computation that waited for the answer. -/
theorem ServiceAccount.emission {e : Emission} {i : ℕ} {m : Message} {notification : Option String}
    (h : ServiceAccount cfg t₀ as p requests emitted)
    (hext : p.shared.conn.Extends p'.shared.conn)
    (hemitted : p'.shared.outward = p.shared.outward ++ [.emit e.event e.clientId e.data])
    (habout : p.shared.conn.TenantOf m.session e.clientId)
    (hlength : p.threads.length ≤ p'.threads.length)
    (hi : p.threads[i]? = some (.api m notification))
    (hwaiting : ∀ (j : ℕ) (m : Message) (notification : Option String),
      p'.threads[j]? = some (.api m notification) →
        j ≠ i ∧ p.threads[j]? = some (.api m notification))
    (hnotified : ∀ x : ServiceRequest, x.thread = i → x.message = m →
      x.notification = notification → x.Notified cfg t₀ (as ++ [act]) e) :
    ∃ emitted', ServiceAccount cfg t₀ (as ++ [act]) p' requests emitted' := by
  obtain ⟨⟨x, hx, hthread, hmessage, hnotification⟩, hnone⟩ := h.waiting i m notification hi
  refine ⟨emitted ++ [(x, e)], ?_, fun y hy => (h.made y hy).extend [act],
    fun y hy => (h.requested y hy).extends hext, fun y hy => (h.started y hy).trans_le hlength,
    h.numbered, ?_, ?_, ?_, ?_, fun j m' notification' hj => ?_⟩
  · rw [hemitted, List.filterMap_append, h.calls]
    exact List.append_nil _
  · rw [hemitted, List.filterMap_append, h.emissions, List.map_append]
    rfl
  · refine List.forall_mem_append.2 ⟨fun y hy => ?_, List.forall_mem_singleton.2 ?_⟩
    · exact ⟨(h.notified y hy).1, (h.notified y hy).2.extend [act]⟩
    · exact ⟨hx, hnotified x hthread hmessage hnotification⟩
  · refine List.forall_mem_append.2
      ⟨fun y hy => (h.about y hy).extends hext, List.forall_mem_singleton.2 ?_⟩
    exact (hmessage ▸ habout).extends hext
  · rw [List.map_append, List.nodup_append]
    refine ⟨h.once, List.nodup_singleton _, fun j hj j' hj' => ?_⟩
    obtain ⟨y, hy, rfl⟩ := List.mem_map.1 hj
    obtain rfl := List.mem_singleton.1 hj'
    exact fun hsame => hnone y hy (hsame.trans hthread)
  · obtain ⟨hne, hj⟩ := hwaiting j m' notification' hj
    obtain ⟨hentry, hothers⟩ := h.waiting j m' notification' hj
    refine ⟨hentry, List.forall_mem_append.2 ⟨hothers, List.forall_mem_singleton.2 ?_⟩⟩
    rw [hthread]
    exact Ne.symm hne

/-- **A step keeps the account.**  A request is entered with its message, and a notification is
    entered in place of the computation that waited for the answer. -/
theorem account_step (hrun : Run (gatewayProgram cfg).step anyStep (Gateway.start t₀) as p)
    (hp : Consistent cfg t₀ p) (h : ServiceAccount cfg t₀ as p requests emitted)
    (hst : (gatewayProgram cfg).step p act = some p') :
    ∃ requests' emitted', ServiceAccount cfg t₀ (as ++ [act]) p' requests' emitted' := by
  have hstep := hst
  obtain ⟨e, g', new, rfl, he, rfl⟩ | ⟨i, answer, t, g', t', new, rfl, ht, hr, rfl⟩ :=
    Program.step_cases hst
  · obtain ⟨-, hext, -⟩ := hp.1.onEvent he
    rcases onEvent_calls he with
      ⟨hsame, hnew⟩ | ⟨c, parsed, m, call, notification, rfl, hhears, hrequested, hcalls, rfl⟩
    · refine ⟨_, _, h.quiet hext hsame ?_ fun i m notification hi => waiting_append hnew hi⟩
      rw [List.length_append]
      exact Nat.le_add_right _ _
    · refine ⟨_, _, h.request (x := ⟨p.threads.length, m, call, notification⟩) hext hcalls rfl rfl
        ?_ (hrequested.extends hext)⟩
      exact ⟨as, c, parsed, p, _, List.prefix_refl _, hrun, hstep, hhears, hrequested, hcalls,
        rfl, rfl⟩
  · obtain ⟨-, hext, -⟩ := hp.1.onAnswer (hp.2 t (List.mem_of_getElem? ht)) hr
    obtain ⟨htask, htasks, hemits⟩ := onAnswer_emits hr
    have hlength : p.threads.length ≤ (p.threads.set i t' ++ new).length := by
      rw [List.length_append, List.length_set]
      exact Nat.le_add_right _ _
    have hwaiting : ∀ (j : ℕ) (m : Message) (notification : Option String),
        (p.threads.set i t' ++ new)[j]? = some (.api m notification) →
          j ≠ i ∧ p.threads[j]? = some (.api m notification) :=
      fun j m notification hj => waiting_set htask (waiting_append htasks hj)
    rcases hemits with
      hsame | ⟨m, event, answer, principal, result, rfl, rfl, hok, hsuccess, hprincipal, hemitted⟩
    · exact ⟨_, _, h.quiet hext hsame hlength fun j m notification hj =>
        (hwaiting j m notification hj).2⟩
    · refine ⟨requests, h.emission (e := ⟨event, principal.clientId, OMap.find "data" result⟩) hext
        hemitted ⟨principal, hprincipal, rfl⟩ hlength ht hwaiting
        fun x hthread hmessage hnotification => ?_⟩
      subst hthread
      subst hmessage
      exact ⟨as, answer, p, _, result, List.prefix_refl _, hrun, hstep, hnotification ▸ ht, hok,
        hsuccess, ⟨principal, hprincipal, rfl⟩, hnotification, rfl, hemitted⟩

/-- There is an account of every run. -/
theorem account_run (hrun : Run (gatewayProgram cfg).step anyStep (Gateway.start t₀) as p) :
    ∃ requests emitted, ServiceAccount cfg t₀ as p requests emitted := by
  have hinv : Consistent cfg t₀ p ∧
      ∃ requests emitted, ServiceAccount cfg t₀ as p requests emitted := by
    induction hrun with
    | nil => exact ⟨consistent_start cfg t₀, [], [], account_start cfg t₀⟩
    | snoc hrun _ hst ih =>
      obtain ⟨hp, _, _, h⟩ := ih
      exact ⟨hp.step hst, account_step hrun hp h hst⟩
  exact hinv.2

/-- **The services of the tenants.**  In every run, every request to a service was made in a stretch
    in which a client sent a message that passes the checks of its handler; it goes, with the
    secret, to the product that the principal of the client's session has, and the texts that it
    needs are there.  Every notification was emitted in a stretch in which the service answered with
    a success; it is about the tenant of such a session, which is a device, and there is a request
    of its own for it, which was answered in that stretch and asked for it. -/
theorem services_accounted
    (hrun : Run (gatewayProgram cfg).step anyStep (Gateway.start t₀) as p) :
    ∃ requests emitted, ServiceAccount cfg t₀ as p requests emitted ∧ ∀ x ∈ requests,
      (∃ session name product, p.shared.conn.heap[x.message.session]? = some session ∧
        x.message.handler.productName = some name ∧
        session.principal.getProduct name = .ok product ∧
        (∃ path, x.call.url = product.domain ++ path) ∧ x.call.secret = product.secret ∧
        ∀ event, x.notification = some event →
          session.type = .device ∧ (event, x.message.handler.labelEvent) ∈ notificationEvents) ∧
      ∀ dto name, x.message.handler.dto = some dto → stringProperty name ∈ dto.properties →
        payloadText x.message.payload name ≠ "" := by
  obtain ⟨requests, emitted, h⟩ := account_run hrun
  exact ⟨requests, emitted, h, fun x hx => ⟨(h.requested x hx).product,
    fun dto name hdto hname => (h.requested x hx).text hdto hname⟩⟩

end

theorem services_accounted_cancels :
    (reach (cancels true)).shared.outward.length = 2 ∧
      ∃ requests emitted,
        ServiceAccount .defaults 0 (cancels true) (reach (cancels true)) requests emitted ∧
          ∀ x ∈ requests,
            (∃ session name product,
              (reach (cancels true)).shared.conn.heap[x.message.session]? = some session ∧
              x.message.handler.productName = some name ∧
              session.principal.getProduct name = .ok product ∧
              (∃ path, x.call.url = product.domain ++ path) ∧ x.call.secret = product.secret ∧
              ∀ event, x.notification = some event → session.type = .device ∧
                (event, x.message.handler.labelEvent) ∈ notificationEvents) ∧
            ∀ dto name, x.message.handler.dto = some dto →
              stringProperty name ∈ dto.properties → payloadText x.message.payload name ≠ "" :=
  ⟨by decide +kernel, services_accounted (run_reach rfl)⟩

end GatewayRealtime
