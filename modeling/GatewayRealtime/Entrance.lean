/-
  Who gets in (`websocket.gateway.ts`, `guards/websocket-auth.guard.ts`, `pipes/ws-query.pipe.ts`,
  `ratelimitters/guards/`).

  * `Handshake`: what `handleConnection` reads of the request.
  * `WsQueryPipe.transform`, `WebSocketAuthGuard.validateConnection`.
  * `Checking`: a check that waits for an answer, or is done.
  * `entranceProgram`: the gateway, with the limiter, which the calls of the API share, and with the
    tables against which a token is checked.

  The check of a token begins when the limiter lets its request pass.  Each answer that it waits for
  is a step of its own, and the gateway goes on when it is done.
-/
import GatewayRealtime.TokenCheck
import GatewayRealtime.RateLimit
import GatewayRealtime.Loop

namespace GatewayRealtime

/-! ## Requests -/

/-- `new URL(url, "http://localhost").searchParams`, as `get`; `none` when the constructor
    throws. -/
abbrev SearchParams := String → Option (String → Option String)

/-- The request of a connection: the headers `x-forwarded-for` and `host`, `remoteAddress` and
    `url`. -/
structure Handshake where
  forwarded : Option String
  host : Option String
  remoteAddress : Option String
  url : String
deriving DecidableEq

/-- What the limiter is asked. -/
def Handshake.call (h : Handshake) : Call :=
  ⟨.preConnect, .ws h.forwarded h.host h.remoteAddress h.url⟩

/-- What `transform` returns. -/
structure WsQuery where
  token : String
  type : String
  product : Option String
  clientId : Option String
deriving DecidableEq

/-- `WsQueryPipe.transform`. -/
def WsQueryPipe.transform (searchParams : SearchParams) (url : String) : Except Failure WsQuery :=
  match searchParams url with
  | none => .error (.internal "Invalid URL")
  | some get =>
    match (get "token").filter (· ≠ ""), (get "type").filter (· ≠ "") with
    | some token, some type => .ok ⟨token, type, get "product", get "clientId"⟩
    | _, _ => .error (.ws "INVALID_QUERY" "Missing token or type")

/-- The type of a name. -/
def TypeEnduser.ofName (name : String) : Option TypeEnduser :=
  [TypeEnduser.browser, .device, .self, .desktop, .server].find? fun type => type.name = name

/-- What `validateToken` throws for a name that is no type: an inherited property is found in
    `strategyMap`, and is no strategy. -/
def unsupportedType (name : String) : Failure :=
  if name ∈ inheritedNames then .internal "strategy.validate is not a function"
  else .ws "UNSUPPORTED_AUTH_TYPE" ("Auth type " ++ name ++ " is not supported")

/-- The check of a token: what the request says, and what is waited for. -/
structure Checking where
  query : WsQuery
  type : TypeEnduser
  check : TokenCheck
  issues : check.Issues type

/-- `WebSocketAuthGuard.validateConnection`, up to the first answer that it waits for. -/
def WebSocketAuthGuard.validateConnection (env : AuthEnv) (searchParams : SearchParams) (now : ℤ)
    (h : Handshake) : Except Failure Checking :=
  match WsQueryPipe.transform searchParams h.url with
  | .error f => .error f
  | .ok query =>
    match TypeEnduser.ofName query.type with
    | none => .error (unsupportedType query.type)
    | some type => .ok ⟨query, type, TokenCheck.begin env now query.token type query.clientId,
        TokenCheck.begin_issues⟩

namespace Checking

/-- The check after an answer. -/
def answer (env : AuthEnv) (db : Database) (ord : RowOrder) (now : ℤ) (k : Checking)
    (a : TokenAnswer) : Option Checking :=
  match ha : k.check.answer env db ord now k.type a with
  | none => none
  | some check => some ⟨k.query, k.type, check, k.issues.answer ha⟩

/-- What `validateConnection` ends with.  `validateToken` returns no result without `auth`. -/
def result (k : Checking) : Option (Except Failure Authenticated) :=
  match hcheck : k.check with
  | .done (.ok result) =>
    have hissues : TokenCheck.Issues k.type (.done (.ok result)) := hcheck ▸ k.issues
    some (.ok ⟨result.id_enduser, result.auth, k.query.product, k.type, hissues⟩)
  | .done (.error f) => some (.error f)
  | _ => none

end Checking

/-! ## The program -/

/-- The gateway, the counters of the limiter, the tables, and the requests of the sockets; and the
    checks of the tokens of those that the limiter has let pass. -/
structure Entrance where
  gateway : Gateway
  limits : RateLimitStore := .empty
  tables : Database
  handshakes : List Handshake := []
  checks : OMap ClientRef (Except Failure Checking) := .empty

inductive EntranceEvent
  /-- anything but a new socket -/
  | gateway (e : GatewayEvent)
  | handshake (h : Handshake)
  /-- a call of the API, as the limiter sees it -/
  | call (call : Call)
  | write (tables : Database)

inductive EntranceAnswer
  | gateway (a : GatewayAnswer)
  | limiter
  /-- an answer that the check of a token waits for -/
  | token (a : TokenAnswer)
  /-- the check of a token is done -/
  | checked

/-- The configuration of the gateway and of the limiter, and what the code outside makes of URLs
    and tokens. -/
structure EntranceConfig where
  gateway : GatewayConfig
  rateLimits : RateLimitConfig := {}
  tokenParam : TokenParam
  searchParams : SearchParams
  env : AuthEnv
  ord : RowOrder

section
variable (cfg : EntranceConfig)

/-- What the check of the token of a socket ends with. -/
def Entrance.checked (s : Entrance) (client : ClientRef) : Option (Except Failure Authenticated) :=
  (s.checks.get? client).bind fun
    | .error f => some (.error f)
    | .ok k => k.result

/-- `validate(request, 'preConnect')`. -/
def Entrance.limit (s : Entrance) (h : Handshake) : RateLimitStore × Except Failure Unit :=
  execute cfg.rateLimits cfg.tokenParam s.limits ⟨s.gateway.clock, h.call⟩

/-- Who gets in, on one event loop. -/
def entranceProgram : Program Entrance Task EntranceEvent EntranceAnswer where
  event s
    | .gateway .connect => none
    | .gateway e => (s.gateway.onEvent cfg.gateway e).map fun r => ({ s with gateway := r.1 }, r.2)
    | .handshake h =>
      (s.gateway.onEvent cfg.gateway .connect).map fun r =>
        ({ s with gateway := r.1, handshakes := s.handshakes ++ [h] }, r.2)
    | .call call =>
      some ({ s with limits := (execute cfg.rateLimits cfg.tokenParam s.limits
        ⟨s.gateway.clock, call⟩).1 }, [])
    | .write tables => some ({ s with tables := tables }, [])
  resume s
    | .rateLimit client, .limiter =>
      s.handshakes[client]?.bind fun h =>
        let limited := s.limit cfg h
        let checks := match limited.2 with
          | .ok () => s.checks.set client
              (WebSocketAuthGuard.validateConnection cfg.env cfg.searchParams s.gateway.clock h)
          | .error _ => s.checks
        (s.gateway.onAnswer cfg.gateway (.rateLimit client) (.rateLimit limited.2)).map fun r =>
          ({ s with gateway := r.1, limits := limited.1, checks := checks }, r.2)
    | .authenticate client, .token a =>
      (s.checks.get? client).bind fun
        | .error _ => none
        | .ok k => (k.answer cfg.env s.tables cfg.ord s.gateway.clock a).map fun k =>
            ({ s with checks := s.checks.set client (.ok k) }, .authenticate client, [])
    | .authenticate client, .checked =>
      (s.checked client).bind fun result =>
        (s.gateway.onAnswer cfg.gateway (.authenticate client) (.authenticated result)).map fun r =>
          ({ s with gateway := r.1 }, r.2)
    | .rateLimit _, _ | .authenticate _, _ => none
    | t, .gateway a =>
      (s.gateway.onAnswer cfg.gateway t a).map fun r => ({ s with gateway := r.1 }, r.2)
    | _, _ => none

/-- An entrance that has just been opened. -/
def Entrance.start (now : ℤ) (tables : Database) : Pool Entrance Task :=
  ⟨{ gateway := (Gateway.start now).shared, tables := tables }, []⟩

end

end GatewayRealtime
