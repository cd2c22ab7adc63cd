/-
  Notifications (`notification.service.ts`, `notification-listener.service.ts`,
  `chanels/mail.chanel.ts`, `chanels/whatsapp.chanel.ts`).

  * `listen`: the notification that the listener makes of an event.
  * `findTemplate`: the query of `NotificationService.send`.
  * `Mailing.mail`: the mail to a recipient.
  * `NotificationCall`: where a `send` of the service or of the mail channel stands.
  * `NotificationEdge`: what such a `send` can do, read off its code once (`notificationRun_edge`).
  * `notificationProgram`: all of them on one event loop, with what else uses the providers and
    whoever writes the tables.

  `WhatsappChannel.send` is empty.  `phone` of a recipient is left out, since nothing reads it.
-/
import GatewayRealtime.Lib.Embedding
import GatewayRealtime.PlainText
import GatewayRealtime.ProviderTenant

namespace GatewayRealtime

open ProviderFactory

/-! ## Notifications -/

inductive NotificationEvent
  | CREATE_RESERVASI | CANCEL_RESERVASI | LOGIN_ABSENSI
deriving DecidableEq, Repr

/-- The text of an event. -/
def NotificationEvent.text : NotificationEvent → String
  | CREATE_RESERVASI => "create-reservasi"
  | CANCEL_RESERVASI => "cancel-reservasi"
  | LOGIN_ABSENSI => "login-absensi"

inductive NotificationChannel
  | MAIL | WHATSAPP
deriving DecidableEq, Repr

/-- The text of a channel. -/
def NotificationChannel.text : NotificationChannel → String
  | MAIL => "mail"
  | WHATSAPP => "whatsapp"

/-- The properties of an object; `none` stands for `null` and `undefined`. -/
abbrev Properties := OMap String (Option JsVal)

/-- A value, unless it is `null`. -/
def notNull : JsVal → Option JsVal
  | .null => none
  | v => some v

/-- What spreading a value gives.  Neither a text nor an array passes the check of the DTO, and no
    other value but an object has properties. -/
def spreadProperties : JsVal → Properties
  | .obj fields => fields.foldl (fun o f => o.set f.1 (notNull f.2)) .empty
  | _ => .empty

structure StudentDto where
  nama : Option JsVal
  email : Option JsVal
  metadata : Option JsVal

structure BaseNotificationDto where
  event : NotificationEvent
  channels : List NotificationChannel
  recipients : List StudentDto
  context : Properties

/-- The arguments of `NotificationService.send`. -/
structure Notification where
  dto : BaseNotificationDto
  clientId : String

/-- The properties of an object that are named. -/
def pick (data : JsVal) (keys : List String) : Properties :=
  keys.foldl (fun o key => o.set key ((data.field key).bind notNull)) .empty

/-- The recipient that an object describes. -/
def recipient (data : JsVal) : StudentDto where
  nama := data.field "nama"
  email := data.field "email"
  metadata := data.field "metadata"

namespace NotificationListener

def handleRfidLogin (clientId : String) (data : JsVal) : Notification where
  dto :=
    { event := .LOGIN_ABSENSI
      channels := [.MAIL]
      recipients := [recipient data]
      context := pick data ["uid", "status", "keterangan"] }
  clientId := clientId

def handleReservasiCancel (clientId : String) (data : JsVal) : Notification where
  dto :=
    { event := .CANCEL_RESERVASI
      channels := [.MAIL]
      recipients := [recipient data]
      context := pick data ["keterangan", "waktu_mulai", "waktu_akhir"] }
  clientId := clientId

/-- What the listener makes of an event of the gateway.  Without data it throws, which the event
    emitter logs. -/
def listen (event clientId : String) (data : Option JsVal) : Option Notification :=
  match event, data.bind notNull with
  | "absensi.scan.login", some data => some (handleRfidLogin clientId data)
  | "absensi.reservasi.cancel", some data => some (handleReservasiCancel clientId data)
  | _, _ => none

end NotificationListener

/-! ## Templates -/

/-- A row of `notification_templates`. -/
structure NotificationTemplateEntity where
  id : ℕ
  client_id : String
  event_name : String

/-- A row of `template_contents`, with the columns that are not part of the text. -/
structure TemplateContentRow extends TemplateContentEntity where
  template_id : ℕ
  channel : String
  key_name : String

/-- The two tables. -/
structure NotificationTables where
  notification_templates : List NotificationTemplateEntity := []
  template_contents : List TemplateContentRow := []

/-- `findOne({ where: { client: { client_id }, event_name }, relations: ['contents'] })`: the
    contents of the template. -/
def NotificationTables.findTemplate (tables : NotificationTables) (clientId : String)
    (event : NotificationEvent) : Option (List TemplateContentRow) :=
  (tables.notification_templates.find? fun t =>
      decide (t.client_id = clientId) && decide (t.event_name = event.text)).map fun template =>
    tables.template_contents.filter (·.template_id = template.id)

/-! ## Mails -/

/-- What the transport of a provider is given. -/
structure Mail where
  provider : SmtpEmailProvider
  to_ : Option JsVal
  subject : String
  html : String
  text : String

/-- The arguments of `MailChannel.send`. -/
structure Mailing where
  context : Properties
  recipients : List StudentDto
  clientId : String
  contents : List TemplateContentRow

/-- `getProvider('email', clientId)`. -/
def Mailing.request (job : Mailing) : ProviderRequest := ⟨.email, job.clientId, none⟩

/-- The contents with a key. -/
def keyContents (key : String) (contents : List TemplateContentRow) : List TemplateContentEntity :=
  (contents.filter (·.key_name = key)).map TemplateContentRow.toTemplateContentEntity

section
-- `number` is `String` of the finite numbers
variable (number : ℚ → String)

/-- The values that a text is filled with: the name, and what the parser merges. -/
def Mailing.values (job : Mailing) (r : StudentDto) : List JsVal :=
  r.nama.toList ++
    (NotificationParser.allData job.context (r.metadata.map spreadProperties)).values.reduceOption

/-- `NotificationParser.parse` of the contents with a key, unless `String` throws at a value.  A
    name that is not there is written as `String.replace` writes it. -/
def Mailing.parse (job : Mailing) (key : String) (r : StudentDto) : Option String :=
  let contents := keyContents key job.contents
  let text (v : JsVal) := (v.toText number).getD ""
  if contents.isEmpty || (job.values r).all fun v => (v.toText number).isSome then
    some (NotificationParser.parse text contents job.context (r.nama.elim "undefined" text)
      (r.metadata.map spreadProperties))
  else none

/-- The mail to a recipient, unless its texts cannot be made: that is logged. -/
def Mailing.mail (job : Mailing) (mailer : SmtpEmailProvider) (r : StudentDto) : Option Mail :=
  match job.parse number "subject" r, job.parse number "body" r with
  | some subject, some parsedBody => some
    { provider := mailer
      to_ := r.email
      subject := subject
      html := parsedBody
      text := PlainText.plainText parsedBody }
  | _, _ => none

/-- The mails that a mailing hands over once it has its provider.  Without one it fails as a whole;
    with a provider that sends no mail each of its mails fails. -/
def Mailing.mails (job : Mailing) : Except Failure ProviderInstance → List Mail
  | .ok (.email mailer) => job.recipients.filterMap (job.mail number mailer)
  | _ => []

variable {number} in
/-- A mail is sent by the provider that the mailing has. -/
theorem Mailing.provider_mail {job : Mailing} {mailer : SmtpEmailProvider} {r : StudentDto}
    {mail : Mail} (h : job.mail number mailer r = some mail) : mail.provider = mailer := by
  unfold Mailing.mail at h
  split at h
  · cases h
    rfl
  · cases h

end

/-! ## On the event loop -/

/-- The providers, the tables, and all mails that were handed over to a transport, oldest first. -/
structure Notifier where
  providers : ProviderState
  tables : NotificationTables := {}
  outbox : List Mail := []

/-- Where a call stands: a `send` of the service, a `send` of the mail channel, or a call of
    `getProvider` on behalf of somebody else. -/
inductive NotificationCall
  /-- the query is under way -/
  | findTemplate (n : Notification)
  /-- it is answered -/
  | templateFound (n : Notification) (contents : Except Failure (Option (List TemplateContentRow)))
  /-- the channels have been called -/
  | served (n : Notification) (contents : Except Failure (Option (List TemplateContentRow)))
  /-- a mailing waits for its provider -/
  | mailing (job : Mailing) (call : ProviderCall)
  /-- it has handed over its mails -/
  | mailed (job : Mailing) (call : ProviderCall)
  | provider (call : ProviderCall)

/-- What happens outside the calls in progress. -/
inductive NotificationTrigger
  /-- the gateway emits an event -/
  | emitted (event clientId : String) (data : Option JsVal)
  /-- `notification.requested`, emitted by the controller -/
  | requested (clientId : String) (dto : BaseNotificationDto)
  | provider (e : ProviderEvent)
  /-- somebody writes the tables -/
  | write (tables : NotificationTables)

/-- The notification that a trigger stands for. -/
def NotificationTrigger.notification : NotificationTrigger → Option Notification
  | .emitted event clientId data => NotificationListener.listen event clientId data
  | .requested clientId dto => some ⟨dto, clientId⟩
  | _ => none

/-- `MailChannel.send` up to its first `await`. -/
def MailChannel.send (s : ProviderState) (job : Mailing) : ProviderState × NotificationCall :=
  ((getProvider s job.request).1, .mailing job (getProvider s job.request).2)

/-- The mailings of a notification whose template has these contents: one for each time that the
    channel is named, unless there is nothing for it. -/
def mailings (n : Notification) (contents : List TemplateContentRow) : List Mailing :=
  n.dto.channels.flatMap fun channelType =>
    let specificContents := contents.filter (·.channel = channelType.text)
    match channelType with
    | .WHATSAPP => []
    | .MAIL =>
      if specificContents.isEmpty then []
      else [⟨n.dto.context, n.dto.recipients, n.clientId, specificContents⟩]

/-- `dto.channels.forEach(…)`: the mailings are called one after the other. -/
def sendAllChannels (s : ProviderState) : List Mailing → ProviderState × List NotificationCall
  | [] => (s, [])
  | job :: jobs =>
    let sent := MailChannel.send s job
    let rest := sendAllChannels sent.1 jobs
    (rest.1, sent.2 :: rest.2)

/-- The mailings that the answer to the query leads to: none if the template is missing, and none
    if it has no contents. -/
def Notification.jobs (n : Notification) :
    Except Failure (Option (List TemplateContentRow)) → List Mailing
  | .ok (some contents) => mailings n contents
  | _ => []

section
variable (number : ℚ → String) (env : ProviderEnv) (db : Database)
  (cert : FirebaseCredential → Option Failure)

/-- A call goes on, if it can: the state, where it stands then, and the calls that it starts.
    `rejects` is for its query, when it has one. -/
def notificationRun (s : Notifier) (rejects : Option Failure) :
    NotificationCall → Option (Notifier × NotificationCall × List NotificationCall)
  | .findTemplate n =>
    match rejects with
    | some f => some (s, .templateFound n (.error f), [])
    | none => some (s, .templateFound n (.ok (s.tables.findTemplate n.clientId n.dto.event)), [])
  | .templateFound n contents =>
    let sent := sendAllChannels s.providers (n.jobs contents)
    some ({ s with providers := sent.1 }, .served n contents, sent.2)
  | .served .. => none
  | .mailing job (.done r result) =>
    some ({ s with outbox := s.outbox ++ job.mails number result },
      .mailed job (.done r result), [])
  | .mailing job call =>
    let ran := providerRun env db cert s.providers rejects call
    some ({ s with providers := ran.1 }, .mailing job ran.2, [])
  | .mailed .. => none
  | .provider call =>
    if call.running then
      let ran := providerRun env db cert s.providers rejects call
      some ({ s with providers := ran.1 }, .provider ran.2, [])
    else none

/-- Notifications on one event loop. -/
def notificationProgram :
    Program Notifier NotificationCall NotificationTrigger (Option Failure) where
  event s
    | .provider e =>
      ((providerProgram env db cert).event s.providers e).map fun r =>
        ({ s with providers := r.1 }, r.2.map .provider)
    | .write tables => some ({ s with tables := tables }, [])
    | trigger => some (s, trigger.notification.toList.map .findTemplate)
  resume s call rejects := notificationRun number env db cert s rejects call

end

/-! ## What a call can do -/

/-- The control flow of a call: from where it stands, the state after its next stretch, where it
    stands then, and the calls that it starts. -/
inductive NotificationEdge (number : ℚ → String) (env : ProviderEnv) (db : Database)
    (cert : FirebaseCredential → Option Failure) (s : Notifier) (rejects : Option Failure) :
    NotificationCall → Notifier → NotificationCall → List NotificationCall → Prop
  | answered {n contents} :
      (∀ c, contents = .ok c → s.tables.findTemplate n.clientId n.dto.event = c) →
      NotificationEdge number env db cert s rejects (.findTemplate n) s
        (.templateFound n contents) []
  | serve {n contents} : NotificationEdge number env db cert s rejects (.templateFound n contents)
      { s with providers := (sendAllChannels s.providers (n.jobs contents)).1 }
      (.served n contents) (sendAllChannels s.providers (n.jobs contents)).2
  | await {job : Mailing} {call : ProviderCall} : call.running = true →
      NotificationEdge number env db cert s rejects (.mailing job call)
        { s with providers := (providerRun env db cert s.providers rejects call).1 }
        (.mailing job (providerRun env db cert s.providers rejects call).2) []
  | deliver {job : Mailing} {r result} :
      NotificationEdge number env db cert s rejects (.mailing job (.done r result))
        { s with outbox := s.outbox ++ job.mails number result } (.mailed job (.done r result)) []
  | other {call : ProviderCall} : call.running = true →
      NotificationEdge number env db cert s rejects (.provider call)
        { s with providers := (providerRun env db cert s.providers rejects call).1 }
        (.provider (providerRun env db cert s.providers rejects call).2) []

section
variable {number : ℚ → String} {env : ProviderEnv} {db : Database}
  {cert : FirebaseCredential → Option Failure} {s s' : Notifier} {rejects : Option Failure}
  {call call' : NotificationCall} {new : List NotificationCall}

theorem notificationRun_edge
    (h : notificationRun number env db cert s rejects call = some (s', call', new)) :
    NotificationEdge number env db cert s rejects call s' call' new := by
  cases call with
  | findTemplate n =>
    cases rejects with
    | none =>
      cases h
      exact .answered fun c hc => Except.ok.inj hc
    | some f =>
      cases h
      exact .answered nofun
  | templateFound n contents =>
    cases h
    exact .serve
  | served n contents => cases h
  | mailing job call =>
    cases call with
    | done r result =>
      cases h
      exact .deliver
    | _ =>
      cases h
      exact .await rfl
  | mailed job call => cases h
  | provider call =>
    dsimp only [notificationRun] at h
    split_ifs at h with hrunning
    cases h
    exact .other hrunning

end

end GatewayRealtime
