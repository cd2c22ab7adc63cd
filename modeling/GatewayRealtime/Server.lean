/-
  The gateway and its notifications on one event loop (`notification.controller.ts`,
  `api-auth.guard.ts`, `notification-listener.service.ts`).

  * `ApiAuthGuard.canActivate`: who may ask for notifications by a request.
  * `serverProgram`: the gateway, whose emitted events the listener hears at once, the controller,
    and what else uses the providers or writes the tables.
  * `serverGateway`, `serverNotifications`: the gateway and the notifications within the server.
  * `gatewayActs`, `serverGateway_run`: the acts of the gateway in a run of the server.

  The limits on the rate of requests are a guard before the one that is modelled.
-/
import GatewayRealtime.Auth
import GatewayRealtime.NotificationMail
import GatewayRealtime.Services

namespace GatewayRealtime

open ProviderFactory

/-- `request.client`: what a token of `JWT_SECRET` says.  `AuthService` signs none without the
    tenant and the role. -/
structure RequestClient where
  client_id : String
  role : String
deriving DecidableEq

/-- `ApiAuthGuard.canActivate`: the payload that becomes `request.client`.  `verify` throws a
    `JsonWebTokenError` if it is given no token. -/
def ApiAuthGuard.canActivate (verify : String → ℤ → Except JwtError RequestClient) (now : ℤ)
    (authorization : Option String) : Except Failure RequestClient :=
  match ProviderFactory.truthy authorization with
  | none => .error (.http "No token provided")
  | some authHeader =>
    let verified := match (authHeader.toList.splitOn ' ')[1]? with
      | some token => verify (String.ofList token) now
      | none => .error .JsonWebTokenError
    match verified with
    | .ok payload => .ok payload
    | .error .TokenExpiredError => .error (.http "TOKEN_EXPIRED")
    | .error .JsonWebTokenError => .error (.http "INVALID_TOKEN")
    | .error .other => .error (.http "UNAUTHENTICATED")

/-- The gateway, and the state of the notifications. -/
structure Server where
  gateway : Gateway
  notifier : Notifier

inductive ServerTask
  | gateway (t : Task)
  | notification (call : NotificationCall)

inductive ServerEvent
  | gateway (e : GatewayEvent)
  /-- `POST /notifications` -/
  | post (authorization : Option String) (dto : BaseNotificationDto)
  | provider (e : ProviderEvent)
  | write (tables : NotificationTables)

inductive ServerAnswer
  | gateway (a : GatewayAnswer)
  | notification (rejects : Option Failure)

/-- The notification that the listener makes of an effect. -/
def Effect.notification : Effect → Option Notification
  | .emit event clientId data => NotificationListener.listen event clientId data
  | _ => none

/-- The notifications that the listener makes of what the gateway does. -/
def heard (effects : List Effect) : List Notification := effects.filterMap Effect.notification

/-- The listener calls the service. -/
def sendNotification (n : Notification) : ServerTask := .notification (.findTemplate n)

section
variable (cfg : GatewayConfig) (verify : String → ℤ → Except JwtError RequestClient)
  (number : ℚ → String) (env : ProviderEnv) (db : Database)
  (cert : FirebaseCredential → Option Failure)

/-- What a stretch of the gateway starts: its own computations, and the notifications that are
    heard. -/
def Server.started (s : Server) (g : Gateway) (tasks : List Task) : List ServerTask :=
  tasks.map .gateway ++ (heard (g.trace.drop s.gateway.trace.length)).map sendNotification

/-- The notification that a request asks for, if the guard lets it pass. -/
def Server.accepts (s : Server) (authorization : Option String) (dto : BaseNotificationDto) :
    Option Notification :=
  match ApiAuthGuard.canActivate verify s.gateway.clock authorization with
  | .ok client => some ⟨dto, client.client_id⟩
  | .error _ => none

/-- The server on one event loop. -/
def serverProgram : Program Server ServerTask ServerEvent ServerAnswer where
  event s
    | .gateway e =>
      (s.gateway.onEvent cfg e).map fun r => ({ s with gateway := r.1 }, s.started r.1 r.2)
    | .post authorization dto =>
      some (s, (s.accepts verify authorization dto).toList.map sendNotification)
    | .provider e =>
      ((notificationProgram number env db cert).event s.notifier (.provider e)).map fun r =>
        ({ s with notifier := r.1 }, r.2.map .notification)
    | .write tables => some ({ s with notifier := { s.notifier with tables := tables } }, [])
  resume s
    | .gateway t, .gateway a =>
      (s.gateway.onAnswer cfg t a).map fun r =>
        ({ s with gateway := r.1 }, .gateway r.2.1, s.started r.1 r.2.2)
    | .notification call, .notification rejects =>
      (notificationRun number env db cert s.notifier rejects call).map fun r =>
        ({ s with notifier := r.1 }, .notification r.2.1, r.2.2.map .notification)
    | _, _ => none

/-- A server that has just started. -/
def Server.start (now : ℤ) (config : ProviderConfig) (tables : NotificationTables) :
    Pool Server ServerTask :=
  ⟨⟨(Gateway.start now).shared, (NotificationPool.init config tables).shared⟩, []⟩

end

/-! ## Its parts -/

/-- The gateway's part of a computation. -/
def ServerTask.task : ServerTask → Option Task
  | .gateway t => some t
  | .notification _ => none

/-- The notifications' part of a computation. -/
def ServerTask.call : ServerTask → Option NotificationCall
  | .gateway _ => none
  | .notification call => some call

section
variable {cfg : GatewayConfig} {verify : String → ℤ → Except JwtError RequestClient}
  {number : ℚ → String} {env : ProviderEnv} {db : Database}
  {cert : FirebaseCredential → Option Failure}

@[simp] theorem tasks_started (s : Server) (g : Gateway) (tasks : List Task) :
    (s.started g tasks).filterMap ServerTask.task = tasks := by
  have htasks : (tasks.map ServerTask.gateway).filterMap ServerTask.task = tasks := by
    rw [List.filterMap_map]
    exact List.filterMap_some
  have hcalls : ∀ ns : List Notification,
      (ns.map sendNotification).filterMap ServerTask.task = [] := fun ns => by
    rw [List.filterMap_map]
    exact List.filterMap_eq_nil_iff.2 fun _ _ => rfl
  rw [Server.started, List.filterMap_append, htasks, hcalls, List.append_nil]

@[simp] theorem calls_sendNotification (ns : List Notification) :
    (ns.map sendNotification).filterMap ServerTask.call = ns.map .findTemplate := by
  induction ns with
  | nil => rfl
  | cons n ns ih => rw [List.map_cons, List.filterMap_cons, ih]; rfl

@[simp] theorem calls_started (s : Server) (g : Gateway) (tasks : List Task) :
    (s.started g tasks).filterMap ServerTask.call =
      (heard (g.trace.drop s.gateway.trace.length)).map .findTemplate := by
  have htasks : (tasks.map ServerTask.gateway).filterMap ServerTask.call = [] := by
    rw [List.filterMap_map]
    exact List.filterMap_eq_nil_iff.2 fun _ _ => rfl
  rw [Server.started, List.filterMap_append, htasks, List.nil_append, calls_sendNotification]

@[simp] theorem tasks_notification (calls : List NotificationCall) :
    (calls.map ServerTask.notification).filterMap ServerTask.task = [] := by
  rw [List.filterMap_map]
  exact List.filterMap_eq_nil_iff.2 fun _ _ => rfl

@[simp] theorem calls_notification (calls : List NotificationCall) :
    (calls.map ServerTask.notification).filterMap ServerTask.call = calls := by
  rw [List.filterMap_map]
  exact List.filterMap_some

/-- What the gateway emits comes to the notifications as events. -/
theorem heard_events (s : Notifier) (effects : List Effect) :
    ∃ es, (notificationProgram number env db cert).events s es =
      some (s, (heard effects).map .findTemplate) := by
  refine ⟨effects.filterMap fun
    | .emit event clientId data => some (.emitted event clientId data)
    | _ => none, ?_⟩
  induction effects with
  | nil => rfl
  | cons e effects ih =>
    cases e with
    | emit event clientId data =>
      have hevent :
          (notificationProgram number env db cert).event s (.emitted event clientId data) =
            some (s, (NotificationListener.listen event clientId data).toList.map .findTemplate) :=
        rfl
      have hheard : heard (.emit event clientId data :: effects) =
          (NotificationListener.listen event clientId data).toList ++ heard effects := by
        cases h : NotificationListener.listen event clientId data <;>
          simp [heard, Effect.notification, h]
      rw [List.filterMap_cons, hheard, List.map_append]
      dsimp only
      rw [Program.events, hevent, Option.bind_some, ih]
      rfl
    | _ => exact ih

/-- The gateway within the server. -/
def serverGateway (cfg : GatewayConfig) (verify : String → ℤ → Except JwtError RequestClient)
    (number : ℚ → String) (env : ProviderEnv) (db : Database)
    (cert : FirebaseCredential → Option Failure) :
    Embedding (serverProgram cfg verify number env db cert) (gatewayProgram cfg) where
  shared := Server.gateway
  thread := ServerTask.task
  event s e s' new h := by
    cases e with
    | gateway e =>
      obtain ⟨⟨g, tasks⟩, hg, h⟩ := Option.map_eq_some_iff.1 h
      cases h
      refine ⟨[e], ?_⟩
      have hevent : (gatewayProgram cfg).event s.gateway e = some (g, tasks) := hg
      simp [Program.events, hevent]
    | post authorization dto =>
      cases h
      refine ⟨[], ?_⟩
      cases s.accepts verify authorization dto <;> rfl
    | provider e =>
      obtain ⟨r, -, h⟩ := Option.map_eq_some_iff.1 h
      cases h
      exact ⟨[], by rw [tasks_notification]; rfl⟩
    | write tables =>
      cases h
      exact ⟨[], rfl⟩
  resume s t a s' t' new h := by
    cases t with
    | gateway t =>
      cases a with
      | gateway a =>
        obtain ⟨⟨g, t₁, tasks⟩, hg, h⟩ := Option.map_eq_some_iff.1 h
        cases h
        exact Or.inr ⟨t, t₁, a, rfl, rfl, by rw [tasks_started]; exact hg⟩
      | notification rejects => cases h
    | notification call =>
      cases a with
      | gateway a => cases h
      | notification rejects =>
        obtain ⟨r, -, h⟩ := Option.map_eq_some_iff.1 h
        cases h
        exact Or.inl ⟨rfl, [], by rw [tasks_notification]; rfl⟩

/-- The notifications within the server. -/
def serverNotifications (cfg : GatewayConfig) (verify : String → ℤ → Except JwtError RequestClient)
    (number : ℚ → String) (env : ProviderEnv) (db : Database)
    (cert : FirebaseCredential → Option Failure) :
    Embedding (serverProgram cfg verify number env db cert)
      (notificationProgram number env db cert) where
  shared := Server.notifier
  thread := ServerTask.call
  event s e s' new h := by
    cases e with
    | gateway e =>
      obtain ⟨⟨g, tasks⟩, hg, h⟩ := Option.map_eq_some_iff.1 h
      cases h
      rw [calls_started]
      exact heard_events s.notifier _
    | post authorization dto =>
      cases h
      rw [calls_sendNotification]
      cases haccepts : s.accepts verify authorization dto with
      | none => exact ⟨[], rfl⟩
      | some n => exact ⟨[.requested n.clientId n.dto], rfl⟩
    | provider e =>
      obtain ⟨⟨notifier, calls⟩, hr, h⟩ := Option.map_eq_some_iff.1 h
      cases h
      refine ⟨[.provider e], ?_⟩
      rw [calls_notification]
      simp [Program.events, hr]
    | write tables =>
      cases h
      exact ⟨[.write tables], rfl⟩
  resume s t a s' t' new h := by
    cases t with
    | gateway t =>
      cases a with
      | gateway a =>
        obtain ⟨⟨g, t₁, tasks⟩, hg, h⟩ := Option.map_eq_some_iff.1 h
        cases h
        rw [calls_started]
        exact Or.inl ⟨rfl, heard_events s.notifier _⟩
      | notification rejects => cases h
    | notification call =>
      cases a with
      | gateway a => cases h
      | notification rejects =>
        obtain ⟨⟨notifier, call', calls⟩, hr, h⟩ := Option.map_eq_some_iff.1 h
        cases h
        exact Or.inr ⟨call, call', rejects, rfl, rfl, by rw [calls_notification]; exact hr⟩

/-! ## The acts of the gateway -/

/-- The act of the gateway that an act of the server is, if it is one: a computation of the gateway
    has a number among those of the gateway. -/
def Server.gatewayAct (p : Pool Server ServerTask) (a : Act ServerEvent ServerAnswer)
    (_ : Pool Server ServerTask) : List (Act GatewayEvent GatewayAnswer) :=
  match a with
  | .event (.gateway e) => [.event e]
  | .resume i (.gateway answer) =>
    [.resume ((p.threads.take i).filterMap ServerTask.task).length answer]
  | _ => []

variable (cfg verify number env db cert) in
/-- The acts of the gateway in a run of the server. -/
def Server.gatewayActs (p₀ : Pool Server ServerTask) (as : List (Act ServerEvent ServerAnswer)) :
    List (Act GatewayEvent GatewayAnswer) :=
  observed (serverProgram cfg verify number env db cert).step Server.gatewayAct p₀ as

variable {p₀ p p' : Pool Server ServerTask} {a : Act ServerEvent ServerAnswer}
  {as : List (Act ServerEvent ServerAnswer)}

/-- A step that leaves the gateway and its computations alone. -/
theorem serverGateway_quiet (hgateway : p'.shared.gateway = p.shared.gateway)
    (htasks : p'.threads.filterMap ServerTask.task = p.threads.filterMap ServerTask.task) :
    Run (gatewayProgram cfg).step anyStep ((serverGateway cfg verify number env db cert).pool p) []
      ((serverGateway cfg verify number env db cert).pool p') := by
  have hsame : (serverGateway cfg verify number env db cert).pool p' =
      (serverGateway cfg verify number env db cert).pool p := by
    simp [Embedding.pool, serverGateway, hgateway, htasks]
  rw [hsame]
  exact .nil

/-- A step of the server is that act of the gateway, or none. -/
theorem serverGateway_step
    (hst : (serverProgram cfg verify number env db cert).step p a = some p') :
    Run (gatewayProgram cfg).step anyStep ((serverGateway cfg verify number env db cert).pool p)
      (Server.gatewayAct p a p') ((serverGateway cfg verify number env db cert).pool p') := by
  obtain ⟨e, s, new, rfl, he, rfl⟩ | ⟨i, answer, t, s, t', new, rfl, ht, hr, rfl⟩ :=
    Program.step_cases hst
  · cases e with
    | gateway e =>
      obtain ⟨⟨g, tasks⟩, hg, he⟩ := Option.map_eq_some_iff.1 he
      cases he
      refine .single trivial ?_
      have hevent : (gatewayProgram cfg).event p.shared.gateway e = some (g, tasks) := hg
      simp [Program.step, Embedding.pool, serverGateway, hevent]
    | post authorization dto =>
      cases he
      have hnone : ((p.shared.accepts verify authorization dto).toList.map
          sendNotification).filterMap ServerTask.task = [] := by
        rw [List.filterMap_map]
        exact List.filterMap_eq_nil_iff.2 fun _ _ => rfl
      exact serverGateway_quiet rfl (by rw [List.filterMap_append, hnone, List.append_nil])
    | provider e =>
      obtain ⟨⟨notifier, calls⟩, -, he⟩ := Option.map_eq_some_iff.1 he
      cases he
      refine serverGateway_quiet rfl ?_
      rw [List.filterMap_append, tasks_notification, List.append_nil]
    | write tables =>
      cases he
      exact serverGateway_quiet rfl (by rw [List.append_nil])
  · cases t with
    | gateway t =>
      cases answer with
      | gateway answer =>
        obtain ⟨⟨g, t₁, tasks⟩, hg, hr⟩ := Option.map_eq_some_iff.1 hr
        cases hr
        have hbefore : ServerTask.task (.gateway t) = some t := rfl
        have hafter : ServerTask.task (.gateway t₁) = some t₁ := rfl
        obtain ⟨hthread, hset⟩ := filterMap_set_of_some ht hbefore hafter
        refine .single trivial ?_
        have hresume : (gatewayProgram cfg).resume p.shared.gateway t answer =
            some (g, t₁, tasks) := hg
        simp [Program.step, Embedding.pool, serverGateway, hthread, hresume, hset]
      | notification rejects => cases hr
    | notification call =>
      cases answer with
      | gateway answer => cases hr
      | notification rejects =>
        obtain ⟨⟨notifier, call', calls⟩, -, hr⟩ := Option.map_eq_some_iff.1 hr
        cases hr
        have hset : (p.threads.set i (.notification call')).filterMap ServerTask.task =
            p.threads.filterMap ServerTask.task := filterMap_set_of_eq ht rfl
        refine serverGateway_quiet rfl ?_
        rw [List.filterMap_append, tasks_notification, List.append_nil, hset]

/-- **A run of the server is one of the gateway**, which takes these acts. -/
theorem serverGateway_run (hrun : Run (serverProgram cfg verify number env db cert).step anyStep p₀
    as p) :
    Run (gatewayProgram cfg).step anyStep ((serverGateway cfg verify number env db cert).pool p₀)
      (Server.gatewayActs cfg verify number env db cert p₀ as)
      ((serverGateway cfg verify number env db cert).pool p) := by
  induction hrun with
  | nil => exact .nil
  | snoc hrun _ hst ih =>
    rw [Server.gatewayActs, hrun.observed_concat _ hst]
    exact ih.append (serverGateway_step hst)

end

end GatewayRealtime
