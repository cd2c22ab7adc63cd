/-
  From a scan at a device to a mail (`rfid-scan.event.ts`, `cancel-reservasi.event.ts`,
  `notification-listener.service.ts`, `notification.service.ts`, `chanels/mail.chanel.ts`).

  * `posted`: the notifications that requests ask for, past the guard.
  * `told_step`, `told_run`: the notifications in progress or served are those that have been
    emitted and those that have been posted.
  * `server_conserved`: none of them is lost or served twice, and the mails are theirs.
  * `Cause`, `server_mails`: a mail is there because, in stretches of the run, a device of the
    tenant sent a message and the service of the tenant answered its request with a success, or
    because a request with a token of the tenant posted it.
-/
import GatewayRealtime.Server

namespace GatewayRealtime

open ProviderFactory

/-- The notification calls of a server. -/
def Server.calls (p : Pool Server ServerTask) : List NotificationCall :=
  p.threads.filterMap ServerTask.call

/-- The notification that a step asks for by a request. -/
def posted (verify : String → ℤ → Except JwtError RequestClient) (p : Pool Server ServerTask)
    (a : Act ServerEvent ServerAnswer) (_ : Pool Server ServerTask) : List Notification :=
  match a with
  | .event (.post authorization dto) => (p.shared.accepts verify authorization dto).toList
  | _ => []

/-- Why a notification is there, at the end of a run of the server. -/
inductive Cause (cfg : GatewayConfig) (verify : String → ℤ → Except JwtError RequestClient)
    (number : ℚ → String) (env : ProviderEnv) (db : Database)
    (cert : FirebaseCredential → Option Failure) (t₀ : ℤ) (config : ProviderConfig)
    (tables : NotificationTables) (as : List (Act ServerEvent ServerAnswer))
    (p : Pool Server ServerTask) (n : Notification) : Prop
  /-- in a stretch, a device of the tenant sent a message, and its handler made a request to the
      product that the device has; in another one, the service answered it with a success, and the
      event that was emitted then is heard as the notification -/
  | device {x : ServiceRequest} {e : Emission} {session name product} :
      x.Made cfg t₀ (Server.gatewayActs cfg verify number env db cert
        (Server.start t₀ config tables) as) →
      x.Notified cfg t₀ (Server.gatewayActs cfg verify number env db cert
        (Server.start t₀ config tables) as) e →
      p.shared.gateway.conn.heap[x.message.session]? = some session → session.type = .device →
      session.principal.clientId = n.clientId → x.message.handler.productName = some name →
      session.principal.getProduct name = .ok product →
      (∃ path, x.call.url = product.domain ++ path) → x.call.secret = product.secret →
      NotificationListener.listen e.event e.clientId e.data = some n →
      Cause cfg verify number env db cert t₀ config tables as p n
  /-- in a stretch, it was posted with a token of the tenant that was valid then -/
  | post {pre authorization client q} : pre ++ [.event (.post authorization n.dto)] <+: as →
      Run (serverProgram cfg verify number env db cert).step anyStep
        (Server.start t₀ config tables) pre q →
      ApiAuthGuard.canActivate verify q.shared.gateway.clock authorization = .ok client →
      client.client_id = n.clientId →
      Cause cfg verify number env db cert t₀ config tables as p n

section
variable {cfg : GatewayConfig} {verify : String → ℤ → Except JwtError RequestClient}
  {number : ℚ → String} {env : ProviderEnv} {db : Database}
  {cert : FirebaseCredential → Option Failure} {p p' : Pool Server ServerTask}
  {a : Act ServerEvent ServerAnswer} {t₀ : ℤ}

/-! ## What is told -/

theorem heard_append (effects effects' : List Effect) :
    heard (effects ++ effects') = heard effects ++ heard effects' := List.filterMap_append ..

theorem notifications_findTemplate (ns : List Notification) :
    (ns.map NotificationCall.findTemplate).filterMap NotificationCall.notification = ns := by
  rw [List.filterMap_map]
  exact List.filterMap_some

/-- A step of the server keeps the gateway consistent, and takes nothing back. -/
theorem server_gateway
    (hp : Consistent cfg t₀ ((serverGateway cfg verify number env db cert).pool p))
    (hst : (serverProgram cfg verify number env db cert).step p a = some p') :
    Consistent cfg t₀ ((serverGateway cfg verify number env db cert).pool p') ∧
      p.shared.gateway.trace <+: p'.shared.gateway.trace :=
  (serverGateway cfg verify number env db cert).inv
    (I := fun q => Consistent cfg t₀ q ∧ p.shared.gateway.trace <+: q.shared.trace)
    (fun _ _ _ ⟨hq, htrace⟩ hst => ⟨hq.step hst, htrace.trans (hq.step_trace hst)⟩) hst
    ⟨hp, List.prefix_refl _⟩

/-- A step adds the notifications that it tells. -/
theorem told_step (hst : (serverProgram cfg verify number env db cert).step p a = some p') :
    (Server.calls p').filterMap NotificationCall.notification =
      (Server.calls p).filterMap NotificationCall.notification ++
        (heard (p'.shared.gateway.trace.drop p.shared.gateway.trace.length) ++
          posted verify p a p') := by
  have hsame : ∀ g : Gateway, heard (g.trace.drop g.trace.length) = [] := fun g => by
    rw [List.drop_length]
    rfl
  unfold Server.calls
  obtain ⟨e, s, new, rfl, he, rfl⟩ | ⟨i, answer, t, s, t', new, rfl, ht, hr, rfl⟩ :=
    Program.step_cases hst
  · cases e with
    | gateway e =>
      obtain ⟨⟨g, tasks⟩, -, he⟩ := Option.map_eq_some_iff.1 he
      cases he
      rw [List.filterMap_append, calls_started, List.filterMap_append, notifications_findTemplate]
      exact congrArg _ (List.append_nil _).symm
    | post authorization dto =>
      cases he
      rw [List.filterMap_append, calls_sendNotification, List.filterMap_append,
        notifications_findTemplate, hsame]
      rfl
    | provider e =>
      obtain ⟨⟨notifier, calls⟩, hcalls, he⟩ := Option.map_eq_some_iff.1 he
      cases he
      rw [List.filterMap_append, calls_notification, List.filterMap_append,
        trigger_notification hcalls, hsame]
      rfl
    | write tables =>
      cases he
      rw [List.append_nil, hsame]
      exact (List.append_nil _).symm
  · cases t with
    | gateway t =>
      cases answer with
      | gateway answer =>
        obtain ⟨⟨g, t₁, tasks⟩, -, hr⟩ := Option.map_eq_some_iff.1 hr
        cases hr
        have hset : (p.threads.set i (.gateway t₁)).filterMap ServerTask.call =
            p.threads.filterMap ServerTask.call := filterMap_set_of_eq ht rfl
        rw [List.filterMap_append, calls_started, List.filterMap_append,
          notifications_findTemplate, hset]
        exact congrArg _ (List.append_nil _).symm
      | notification rejects => cases hr
    | notification call =>
      cases answer with
      | gateway answer => cases hr
      | notification rejects =>
        obtain ⟨⟨notifier, call', calls⟩, hrun, hr⟩ := Option.map_eq_some_iff.1 hr
        cases hr
        obtain ⟨hself, hnew⟩ := (notificationRun_edge hrun).notification
        have hset : ((p.threads.set i (.notification call')).filterMap ServerTask.call).filterMap
            NotificationCall.notification =
            (p.threads.filterMap ServerTask.call).filterMap NotificationCall.notification := by
          rw [List.filterMap_filterMap, List.filterMap_filterMap]
          exact filterMap_set_of_eq ht hself
        rw [List.filterMap_append, calls_notification, List.filterMap_append, hnew, hset, hsame]
        rfl

/-! ## Runs -/

variable {config : ProviderConfig} {tables : NotificationTables}
  {as : List (Act ServerEvent ServerAnswer)}

/-- The notifications in progress or served are those that have been emitted or posted. -/
theorem told_run (hrun : Run (serverProgram cfg verify number env db cert).step anyStep
      (Server.start t₀ config tables) as p) :
    Consistent cfg t₀ ((serverGateway cfg verify number env db cert).pool p) ∧
      ((Server.calls p).filterMap NotificationCall.notification).Perm
        (heard p.shared.gateway.trace ++ observed (serverProgram cfg verify number env db cert).step
          (posted verify) (Server.start t₀ config tables) as) := by
  induction hrun with
  | nil => exact ⟨consistent_start cfg t₀, .refl _⟩
  | @snoc as p a p' hrun _ hst ih =>
    obtain ⟨hconsistent, hperm⟩ := ih
    obtain ⟨hconsistent', later, htrace⟩ := server_gateway hconsistent hst
    refine ⟨hconsistent', ?_⟩
    have hstep := told_step hst
    rw [← htrace, List.drop_left] at hstep
    rw [hrun.observed_concat _ hst, hstep, ← htrace, heard_append]
    refine (hperm.append_right _).trans ?_
    rw [List.append_assoc, List.append_assoc]
    refine List.Perm.append_left _ ?_
    rw [← List.append_assoc, ← List.append_assoc]
    exact List.perm_append_comm.append_right _

/-- **No notification is lost, and none is served twice.**  In every run of the server, the
    notifications in progress or served are those that the gateway has emitted, as far as the
    listener hears them, and those that requests have posted past the guard; the mailings are those
    that the served ones lead to; and the outbox consists of the mails of the mailings that have had
    their provider, each mailing in one piece. -/
theorem server_conserved (hrun : Run (serverProgram cfg verify number env db cert).step anyStep
      (Server.start t₀ config tables) as p) :
    ((Server.calls p).filterMap NotificationCall.notification).Perm
        (heard p.shared.gateway.trace ++ observed (serverProgram cfg verify number env db cert).step
          (posted verify) (Server.start t₀ config tables) as) ∧
      ((Server.calls p).filterMap NotificationCall.job).Perm
        ((Server.calls p).flatMap NotificationCall.jobs) ∧
      ∃ batches : List (List Mail), p.shared.notifier.outbox = batches.flatten ∧
        batches.Perm ((Server.calls p).filterMap (NotificationCall.batch number)) :=
  ⟨(told_run hrun).2, jobs_run (serverNotifications cfg verify number env db cert) rfl hrun,
    outbox_run (serverNotifications cfg verify number env db cert) rfl hrun⟩

/-! ## Causes -/

theorem listen_clientId {event clientId : String} {data : Option JsVal} {n : Notification}
    (h : NotificationListener.listen event clientId data = some n) : n.clientId = clientId := by
  unfold NotificationListener.listen at h
  split at h
  · cases h
    rfl
  · cases h
    rfl
  · cases h

/-- A notification that the gateway emits is about the tenant of a device whose request has been
    answered. -/
theorem cause_of_heard {n : Notification}
    (hrun : Run (serverProgram cfg verify number env db cert).step anyStep
      (Server.start t₀ config tables) as p) (h : n ∈ heard p.shared.gateway.trace) :
    Cause cfg verify number env db cert t₀ config tables as p n := by
  have hgateway : Run (gatewayProgram cfg).step anyStep (Gateway.start t₀)
      (Server.gatewayActs cfg verify number env db cert (Server.start t₀ config tables) as)
      ((serverGateway cfg verify number env db cert).pool p) := serverGateway_run hrun
  obtain ⟨requests, emitted, haccount⟩ := account_run hgateway
  obtain ⟨e, he, hn⟩ := List.mem_filterMap.1 h
  cases e with
  | emit event clientId data =>
    have hheard : NotificationListener.listen event clientId data = some n := hn
    have hmem : (⟨event, clientId, data⟩ : Emission) ∈ emitted.map (·.2) := by
      rw [← haccount.emissions]
      exact List.mem_filterMap.2 ⟨_, List.mem_filter.2 ⟨he, rfl⟩, rfl⟩
    obtain ⟨⟨x, e⟩, hy, rfl⟩ := List.mem_map.1 hmem
    -- the notification has a request of its own, which asks for it
    obtain ⟨hx, hnotified⟩ := haccount.notified _ hy
    obtain ⟨principal, hprincipal, htenant⟩ := haccount.about _ hy
    obtain ⟨session, name, product, hs, hname, hproduct, hurl, hsecret, hevent⟩ :=
      (haccount.requested x hx).product
    have hsame : session.principal = principal := by
      simpa [Connections.principal, hs] using hprincipal
    have hclient : session.principal.clientId = n.clientId := by
      rw [hsame, htenant, listen_clientId hheard]
    have hasked : x.notification = some event := by
      obtain ⟨_, _, _, _, _, _, _, _, _, _, _, _, hnotification, -⟩ := hnotified
      exact hnotification
    exact .device (haccount.made x hx) hnotified hs (hevent event hasked).1 hclient hname hproduct
      hurl hsecret hheard
  | _ => cases hn

/-- A notification that is posted is about the tenant of a token. -/
theorem cause_of_posted {n : Notification}
    (hrun : Run (serverProgram cfg verify number env db cert).step anyStep
      (Server.start t₀ config tables) as p)
    (h : n ∈ observed (serverProgram cfg verify number env db cert).step (posted verify)
      (Server.start t₀ config tables) as) :
    Cause cfg verify number env db cert t₀ config tables as p n := by
  obtain ⟨pre, a, q, q', hpre, hq, -, hposted⟩ := hrun.mem_observed h
  unfold posted at hposted
  split at hposted
  · rw [Option.mem_toList] at hposted
    unfold Server.accepts at hposted
    split at hposted
    · rename_i client hclient
      cases hposted
      exact .post hpre hq hclient rfl
    · cases hposted
  · cases hposted

/-- **Whose mails are sent.**  In every run of the server, every mail was asked for by a
    notification about a tenant, which is there because, in stretches of the run, a device of the
    tenant sent a valid message and its request was answered with a success, or because the
    notification was posted with a token of the tenant that was valid then.
    The mail goes to a recipient of the notification, its texts are made of a template that the
    tables had for the tenant and the event, and it is sent by a provider of the tenant. -/
theorem server_mails (hrun : Run (serverProgram cfg verify number env db cert).step anyStep
      (Server.start t₀ config tables) as p) {mail : Mail}
    (hmail : mail ∈ p.shared.notifier.outbox) :
    ∃ n, Cause cfg verify number env db cert t₀ config tables as p n ∧
      .MAIL ∈ n.dto.channels ∧ ∃ r ∈ n.dto.recipients,
        (∃ t contents, Visited (serverProgram cfg verify number env db cert).step
            (Server.start t₀ config tables) as t ∧
          t.shared.notifier.tables.findTemplate n.clientId n.dto.event = some contents ∧
          Mailing.mail number ⟨n.dto.context, n.dto.recipients, n.clientId,
            contents.filter (·.channel = NotificationChannel.MAIL.text)⟩ mail.provider r =
              some mail) ∧
        ∃ t, Visited (serverProgram cfg verify number env db cert).step
            (Server.start t₀ config tables) as t ∧
          OwnProvider env db n.clientId .email t.shared.notifier.providers.config
            (.email mail.provider) := by
  obtain ⟨n, hn, htraced⟩ :=
    mail_traced (serverNotifications cfg verify number env db cert) rfl hrun hmail
  refine ⟨n, ?_, htraced⟩
  rcases List.mem_append.1 ((told_run hrun).2.mem_iff.1 hn) with h | h
  · exact cause_of_heard hrun h
  · exact cause_of_posted hrun h

end

/-- An act of the gateway within the server. -/
def serverAct : Act GatewayEvent GatewayAnswer → Act ServerEvent ServerAnswer
  | .event e => .event (.gateway e)
  | .resume i answer => .resume i (.gateway answer)

/-- A tenant with a mail server, and the tenant of the reader, which has none. -/
def mailTenants : Database where
  client := [⟨1, "acme", .ACTIVE⟩, ⟨2, "shop", .ACTIVE⟩]

/-- The templates of the two tenants. -/
def mailTemplates : NotificationTables where
  notification_templates := [⟨7, "acme", "login-absensi"⟩, ⟨8, "shop", "cancel-reservasi"⟩]
  template_contents := [⟨⟨some "Scan of {{nama}}", none⟩, 7, "mail", "subject"⟩,
    ⟨⟨some "<p>{{nama}}: {{status}}</p>", none⟩, 7, "mail", "body"⟩,
    ⟨⟨some "Cancelled", none⟩, 8, "mail", "subject"⟩,
    ⟨⟨some "<b>{{nama}}</b>", none⟩, 8, "mail", "body"⟩]

/-- What a token says. -/
def acmeToken (token : String) (_ : ℤ) : Except JwtError RequestClient :=
  if token = "acme" then .ok ⟨"acme", "admin"⟩ else .error .JsonWebTokenError

/-- The text of a whole number. -/
def numberName (q : ℚ) : String := toString q.num

/-- A scan that a service of the tenant tells by a request. -/
def scanDto : BaseNotificationDto where
  event := .LOGIN_ABSENSI
  channels := [.MAIL]
  recipients := [⟨some (.str "Ani"), some (.str "ani@acme.test"), none⟩]
  context := (OMap.empty.set "status" (some (.str "in")))

/-- A device cancels a reservation, and the service says whose. -/
def cancelsTold : List (Act GatewayEvent GatewayAnswer) :=
  enters 0 reader ++
    [.event (.message 0 (some (.obj [text "event" "cancel-reservasi",
        ("data", .obj [text "id" "5", text "uid" "04A1"])]))),
      .resume 1 (.api (.response (.obj [("isSuccess", .bool true),
        ("data", .obj [("id", .num 5), text "nama" "Budi", text "email" "budi@shop.test",
          text "waktu_mulai" "07:00", text "waktu_akhir" "08:00", text "keterangan" "-"])]) []))]

/-- After the cancellation at one tenant, a request of the other tells of a scan, and one with a bad
    token does, too; the mails of the tenants overlap. -/
def bothMail : List (Act ServerEvent ServerAnswer) :=
  cancelsTold.map serverAct ++
    [.event (.post (some "Bearer acme") scanDto), .event (.post (some "Bearer shop") scanDto)] ++
    (List.replicate 2 [.resume 2 (.notification none), .resume 3 (.notification none)]).flatten ++
    (List.replicate 6 [.resume 4 (.notification none), .resume 5 (.notification none)]).flatten

/-- A mail, its recipient apart. -/
def Mail.texts (mail : Mail) : String × String × String × String :=
  (mail.provider.host, mail.subject, mail.html, mail.text)

/-- The mails of the run. -/
def bothTexts : List (String × String × String × String) :=
  [("host.test", "Cancelled", "<b>Budi</b>", "Budi"),
    ("acme.test", "Scan of Ani", "<p>Ani: in</p>", "Ani: in")]

theorem bothMail_run : ∃ p mail mail', Run
    (serverProgram .defaults acmeToken numberName sharedMail mailTenants fun _ => none).step anyStep
    (Server.start 0 (mailAt "acme.test") mailTemplates) bothMail p ∧
    p.shared.notifier.outbox = [mail, mail'] ∧ [mail.texts, mail'.texts] = bothTexts := by
  have hruns : ((exec (serverProgram .defaults acmeToken numberName sharedMail mailTenants
      fun _ => none).step (Server.start 0 (mailAt "acme.test") mailTemplates) bothMail).any fun p =>
        decide (p.shared.notifier.outbox.map Mail.texts = bothTexts)) = true := by decide +kernel
  simp only [Option.any_eq_true, decide_eq_true_eq] at hruns
  obtain ⟨p, hp, htexts⟩ := hruns
  obtain ⟨mail, outbox, houtbox, hmail, hrest⟩ := List.map_eq_cons_iff.1 htexts
  obtain ⟨mail', outbox', houtbox', hmail', hnil⟩ := List.map_eq_cons_iff.1 hrest
  obtain rfl := List.map_eq_nil_iff.1 hnil
  exact ⟨p, mail, mail', run_of_exec hp, by rw [houtbox, houtbox'], by rw [hmail, hmail']; rfl⟩

theorem server_conserved_bothMail : ∃ p : Pool Server ServerTask,
    p.shared.notifier.outbox.length = 2 ∧
      ((Server.calls p).filterMap NotificationCall.notification).Perm
        (heard p.shared.gateway.trace ++ observed
          (serverProgram .defaults acmeToken numberName sharedMail mailTenants fun _ => none).step
          (posted acmeToken) (Server.start 0 (mailAt "acme.test") mailTemplates) bothMail) ∧
      ((Server.calls p).filterMap NotificationCall.job).Perm
        ((Server.calls p).flatMap NotificationCall.jobs) ∧
      ∃ batches : List (List Mail), p.shared.notifier.outbox = batches.flatten ∧
        batches.Perm ((Server.calls p).filterMap (NotificationCall.batch numberName)) := by
  obtain ⟨p, mail, mail', hrun, houtbox, -⟩ := bothMail_run
  exact ⟨p, by rw [houtbox]; rfl, server_conserved hrun⟩

theorem server_mails_bothMail : ∃ p mail, mail ∈ p.shared.notifier.outbox ∧
    ∃ n, Cause .defaults acmeToken numberName sharedMail mailTenants (fun _ => none) 0
        (mailAt "acme.test") mailTemplates bothMail p n ∧
      .MAIL ∈ n.dto.channels ∧ ∃ r ∈ n.dto.recipients,
        (∃ t contents, Visited
            (serverProgram .defaults acmeToken numberName sharedMail mailTenants fun _ => none).step
            (Server.start 0 (mailAt "acme.test") mailTemplates) bothMail t ∧
          t.shared.notifier.tables.findTemplate n.clientId n.dto.event = some contents ∧
          Mailing.mail numberName ⟨n.dto.context, n.dto.recipients, n.clientId,
            contents.filter (·.channel = NotificationChannel.MAIL.text)⟩ mail.provider r =
              some mail) ∧
        ∃ t, Visited
            (serverProgram .defaults acmeToken numberName sharedMail mailTenants fun _ => none).step
            (Server.start 0 (mailAt "acme.test") mailTemplates) bothMail t ∧
          OwnProvider sharedMail mailTenants n.clientId .email t.shared.notifier.providers.config
            (.email mail.provider) := by
  obtain ⟨p, mail, mail', hrun, houtbox, -⟩ := bothMail_run
  have hmail : mail ∈ p.shared.notifier.outbox := by rw [houtbox]; exact List.mem_cons_self
  exact ⟨p, mail, hmail, server_mails hrun hmail⟩

end GatewayRealtime
