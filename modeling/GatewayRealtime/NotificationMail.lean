/-
  Mails and the notifications that they are for (`notification.service.ts`,
  `chanels/mail.chanel.ts`).

  * `jobs_step`, `outbox_step`, `answered_step`: what a step does to the mailings, to the outbox and
    to the answers of the queries.
  * `mailProviders`: the calls of `getProvider` within the notifications are a program of providers.
  * `jobs_run`, `outbox_run`: in every program that notifications are a part of, the mailings are
    those that the notifications served have led to, and the mails are those of the mailings that
    have had their provider, each mailing in one piece.
  * `mail_traced`: a mail is made of a template of its tenant and sent by a provider of its tenant.
-/
import GatewayRealtime.Notification

namespace GatewayRealtime

open ProviderFactory

/-- The state of the notifications. -/
abbrev NotificationPool := Pool Notifier NotificationCall

/-- A step of the notifications. -/
abbrev NotificationAct := Act NotificationTrigger (Option Failure)

/-- The process has just started. -/
def NotificationPool.init (config : ProviderConfig) (tables : NotificationTables) :
    NotificationPool := ⟨{ providers := { config := config }, tables := tables }, []⟩

/-! ## What a call stands for -/

/-- The notification that a `send` of the service is about. -/
def NotificationCall.notification : NotificationCall → Option Notification
  | .findTemplate n | .templateFound n _ | .served n _ => some n
  | _ => none

/-- The mailing that a `send` of the channel is. -/
def NotificationCall.job : NotificationCall → Option Mailing
  | .mailing job _ | .mailed job _ => some job
  | _ => none

/-- The mailings that a `send` of the service has started. -/
def NotificationCall.jobs : NotificationCall → List Mailing
  | .served n contents => n.jobs contents
  | _ => []

/-- The mails of a mailing that has had its provider. -/
def NotificationCall.batch (number : ℚ → String) : NotificationCall → Option (List Mail)
  | .mailed job (.done _ result) => some (job.mails number result)
  | _ => none

/-- The answer that a `send` of the service has had to its query. -/
def NotificationCall.answer :
    NotificationCall → Option (Notification × Option (List TemplateContentRow))
  | .templateFound n (.ok contents) | .served n (.ok contents) => some (n, contents)
  | _ => none

/-- A mailing waits for the provider that it has asked for. -/
def NotificationCall.Asked : NotificationCall → Prop
  | .mailing job call | .mailed job call => call.request = job.request
  | _ => True

/-- The call of `getProvider` within a call. -/
def NotificationCall.providerCall : NotificationCall → Option ProviderCall
  | .mailing _ call | .mailed _ call | .provider call => some call
  | _ => none

section
variable {number : ℚ → String} {env : ProviderEnv} {db : Database}
  {cert : FirebaseCredential → Option Failure} {s s' : Notifier} {rejects : Option Failure}
  {call call' : NotificationCall} {new : List NotificationCall} {p p' : NotificationPool}
  {a : NotificationAct}

/-! ## Calls that are started -/

theorem sendAllChannels_notification (s : ProviderState) (jobs : List Mailing) :
    (sendAllChannels s jobs).2.filterMap NotificationCall.notification = [] := by
  induction jobs generalizing s with
  | nil => rfl
  | cons job jobs ih =>
    rw [sendAllChannels, List.filterMap_cons]
    exact ih _

theorem sendAllChannels_job (s : ProviderState) (jobs : List Mailing) :
    (sendAllChannels s jobs).2.filterMap NotificationCall.job = jobs := by
  induction jobs generalizing s with
  | nil => rfl
  | cons job jobs ih =>
    rw [sendAllChannels, List.filterMap_cons]
    exact congrArg (job :: ·) (ih _)

theorem sendAllChannels_jobs (s : ProviderState) (jobs : List Mailing) :
    (sendAllChannels s jobs).2.flatMap NotificationCall.jobs = [] := by
  induction jobs generalizing s with
  | nil => rfl
  | cons job jobs ih =>
    rw [sendAllChannels, List.flatMap_cons]
    exact ih _

theorem sendAllChannels_batch (s : ProviderState) (jobs : List Mailing) :
    (sendAllChannels s jobs).2.filterMap (NotificationCall.batch number) = [] := by
  induction jobs generalizing s with
  | nil => rfl
  | cons job jobs ih =>
    rw [sendAllChannels, List.filterMap_cons]
    exact ih _

/-- What an event starts: a notification, or calls of `getProvider` for somebody else. -/
theorem trigger_cases {e : NotificationTrigger}
    (h : (notificationProgram number env db cert).event s e = some (s', new)) :
    s'.outbox = s.outbox ∧ (new = e.notification.toList.map .findTemplate ∨
      ∃ calls : List ProviderCall, e.notification = none ∧ new = calls.map .provider) := by
  cases e with
  | provider e =>
    obtain ⟨r, -, h⟩ := Option.map_eq_some_iff.1 h
    cases h
    exact ⟨rfl, Or.inr ⟨r.2, rfl, rfl⟩⟩
  | write tables =>
    cases h
    exact ⟨rfl, Or.inl rfl⟩
  | emitted event clientId data =>
    cases h
    exact ⟨rfl, Or.inl rfl⟩
  | requested clientId dto =>
    cases h
    exact ⟨rfl, Or.inl rfl⟩

/-- What an event starts is a call with no mailing and no answer. -/
theorem trigger_new {e : NotificationTrigger}
    (h : (notificationProgram number env db cert).event s e = some (s', new)) :
    ∀ call ∈ new, call.job = none ∧ call.jobs = [] ∧ call.batch number = none ∧
      call.answer = none ∧ call.Asked := by
  intro call hcall
  obtain ⟨-, rfl | ⟨calls, -, rfl⟩⟩ := trigger_cases h
  · obtain ⟨n, -, rfl⟩ := List.mem_map.1 hcall
    exact ⟨rfl, rfl, rfl, rfl, trivial⟩
  · obtain ⟨call, -, rfl⟩ := List.mem_map.1 hcall
    exact ⟨rfl, rfl, rfl, rfl, trivial⟩

theorem trigger_notification {e : NotificationTrigger}
    (h : (notificationProgram number env db cert).event s e = some (s', new)) :
    new.filterMap NotificationCall.notification = e.notification.toList := by
  obtain ⟨-, rfl | ⟨calls, hnone, rfl⟩⟩ := trigger_cases h
  · rw [List.filterMap_map]
    exact List.filterMap_some
  · rw [hnone, List.filterMap_map]
    exact List.filterMap_eq_nil_iff.2 fun _ _ => rfl

/-! ## Steps -/

/-- A call stays with its notification, and what it starts is about no other. -/
theorem NotificationEdge.notification
    (h : NotificationEdge number env db cert s rejects call s' call' new) :
    call'.notification = call.notification ∧
      new.filterMap NotificationCall.notification = [] := by
  cases h with
  | serve => exact ⟨rfl, sendAllChannels_notification _ _⟩
  | _ => exact ⟨rfl, rfl⟩

theorem jobs_step (hst : (notificationProgram number env db cert).step p a = some p')
    (h : (p.threads.filterMap NotificationCall.job).Perm
      (p.threads.flatMap NotificationCall.jobs)) :
    (p'.threads.filterMap NotificationCall.job).Perm
      (p'.threads.flatMap NotificationCall.jobs) := by
  obtain ⟨e, s, new, rfl, he, rfl⟩ | ⟨i, c, call, s, call', new, rfl, hcall, hrun, rfl⟩ :=
    Program.step_cases hst
  · have hjob : new.filterMap NotificationCall.job = [] :=
      List.filterMap_eq_nil_iff.2 fun call hcall => (trigger_new he call hcall).1
    have hjobs : new.flatMap NotificationCall.jobs = [] :=
      List.flatMap_eq_nil_iff.2 fun call hcall => (trigger_new he call hcall).2.1
    rw [List.filterMap_append, List.flatMap_append, hjob, hjobs, List.append_nil, List.append_nil]
    exact h
  · have hedge := notificationRun_edge hrun
    have hmoved : call'.job = call.job ∧ call.jobs = [] ∧
        new.filterMap NotificationCall.job = call'.jobs ∧
        new.flatMap NotificationCall.jobs = [] := by
      cases hedge with
      | serve => exact ⟨rfl, rfl, sendAllChannels_job _ _, sendAllChannels_jobs _ _⟩
      | _ => exact ⟨rfl, rfl, rfl, rfl⟩
    obtain ⟨hjob, hbefore, hnew, hnone⟩ := hmoved
    have hset := flatMap_set_perm NotificationCall.jobs call' hcall
    rw [hbefore, List.nil_append] at hset
    rw [List.filterMap_append, List.flatMap_append, filterMap_set_of_eq hcall hjob, hnew, hnone,
      List.append_nil]
    exact ((h.append_right _).trans List.perm_append_comm).trans hset.symm

theorem outbox_step (hst : (notificationProgram number env db cert).step p a = some p')
    (h : ∃ batches : List (List Mail), p.shared.outbox = batches.flatten ∧
      batches.Perm (p.threads.filterMap (NotificationCall.batch number))) :
    ∃ batches : List (List Mail), p'.shared.outbox = batches.flatten ∧
      batches.Perm (p'.threads.filterMap (NotificationCall.batch number)) := by
  obtain ⟨batches, houtbox, hperm⟩ := h
  obtain ⟨e, s, new, rfl, he, rfl⟩ | ⟨i, c, call, s, call', new, rfl, hcall, hrun, rfl⟩ :=
    Program.step_cases hst
  · have hbatch : new.filterMap (NotificationCall.batch number) = [] :=
      List.filterMap_eq_nil_iff.2 fun call hcall => (trigger_new he call hcall).2.2.1
    refine ⟨batches, (trigger_cases he).1.trans houtbox, ?_⟩
    rw [List.filterMap_append, hbatch, List.append_nil]
    exact hperm
  · have hedge := notificationRun_edge hrun
    have hmoved : call.batch number = none ∧
        s.outbox = p.shared.outbox ++ (call'.batch number).toList.flatten ∧
        new.filterMap (NotificationCall.batch number) = [] := by
      cases hedge with
      | serve => exact ⟨rfl, (List.append_nil _).symm, sendAllChannels_batch _ _⟩
      | deliver => exact ⟨rfl, by simp [NotificationCall.batch], rfl⟩
      | _ => exact ⟨rfl, (List.append_nil _).symm, rfl⟩
    obtain ⟨hbefore, hsent, hnew⟩ := hmoved
    have hset := filterMap_set_perm (NotificationCall.batch number) call' hcall
    rw [hbefore, Option.toList_none, List.nil_append] at hset
    refine ⟨batches ++ (call'.batch number).toList, ?_, ?_⟩
    · rw [hsent, houtbox, List.flatten_append]
    · rw [List.filterMap_append, hnew, List.append_nil]
      exact ((hperm.append_right _).trans List.perm_append_comm).trans hset.symm

/-! ## Providers -/

theorem sendAllChannels_events (s : ProviderState) (jobs : List Mailing) :
    (providerProgram env db cert).events s (jobs.map fun job => .getProvider job.request) =
      some ((sendAllChannels s jobs).1,
        (sendAllChannels s jobs).2.filterMap NotificationCall.providerCall) := by
  induction jobs generalizing s with
  | nil => rfl
  | cons job jobs ih =>
    rw [List.map_cons, Program.events, sendAllChannels]
    have hevent : (providerProgram env db cert).event s (.getProvider job.request) =
        some ((getProvider s job.request).1, [(getProvider s job.request).2]) := rfl
    rw [hevent, Option.bind_some, ih]
    rfl

/-- The calls of `getProvider` within the notifications, and the rest of them. -/
def mailProviders (number : ℚ → String) (env : ProviderEnv) (db : Database)
    (cert : FirebaseCredential → Option Failure) :
    Embedding (notificationProgram number env db cert) (providerProgram env db cert) where
  shared := Notifier.providers
  thread := NotificationCall.providerCall
  event s e s' new h := by
    cases e with
    | provider e =>
      obtain ⟨r, hr, h⟩ := Option.map_eq_some_iff.1 h
      cases h
      refine ⟨[e], ?_⟩
      have hcalls : (r.2.map NotificationCall.provider).filterMap NotificationCall.providerCall =
          r.2 := by
        rw [List.filterMap_map]
        exact List.filterMap_some
      simp [Program.events, hr, hcalls]
    | write tables =>
      cases h
      exact ⟨[], rfl⟩
    | emitted event clientId data =>
      cases h
      refine ⟨[], ?_⟩
      dsimp only [NotificationTrigger.notification]
      cases NotificationListener.listen event clientId data with
      | none => rfl
      | some n => rfl
    | requested clientId dto =>
      cases h
      exact ⟨[], rfl⟩
  resume s call rejects s' call' new h := by
    have hrunning : ∀ {call : ProviderCall}, call.running = true →
        (providerProgram env db cert).resume s.providers call rejects =
          some ((providerRun env db cert s.providers rejects call).1,
            (providerRun env db cert s.providers rejects call).2, []) := fun h => if_pos h
    have hedge := notificationRun_edge h
    cases hedge with
    | answered => exact Or.inl ⟨rfl, [], rfl⟩
    | serve => exact Or.inl ⟨rfl, _, sendAllChannels_events _ _⟩
    | await hcall => exact Or.inr ⟨_, _, rejects, rfl, rfl, hrunning hcall⟩
    | deliver => exact Or.inl ⟨rfl, [], rfl⟩
    | other hcall => exact Or.inr ⟨_, _, rejects, rfl, rfl, hrunning hcall⟩

/-! ## Answers -/

theorem sendAllChannels_asked (s : ProviderState) (jobs : List Mailing) :
    ∀ call ∈ (sendAllChannels s jobs).2, call.Asked := by
  induction jobs generalizing s with
  | nil => exact List.forall_mem_nil _
  | cons job jobs ih =>
    rw [sendAllChannels]
    refine List.forall_mem_cons.2 ⟨?_, ih _⟩
    unfold MailChannel.send getProvider
    split <;> rfl

theorem asked_step (hst : (notificationProgram number env db cert).step p a = some p')
    (h : ∀ call ∈ p.threads, call.Asked) : ∀ call ∈ p'.threads, call.Asked := by
  refine (Program.step_inv (G := fun _ => True) (L := fun _ call => call.Asked) ?_ ?_
    ⟨trivial, h⟩ hst).2
  · intro s e s' new _ he
    exact ⟨trivial, fun _ hcall => hcall, fun call hcall => (trigger_new he call hcall).2.2.2.2⟩
  · intro s call rejects s' call' new _ hasked hresume
    have hedge := notificationRun_edge hresume
    refine ⟨trivial, fun _ hcall => hcall, ?_⟩
    cases hedge with
    | answered => exact ⟨trivial, List.forall_mem_nil _⟩
    | serve => exact ⟨trivial, sendAllChannels_asked _ _⟩
    | @await job call hrunning =>
      have hrequest := (providerRun_edge env db cert s.providers rejects call).request_eq
      exact ⟨hrequest.trans hasked, List.forall_mem_nil _⟩
    | deliver => exact ⟨hasked, List.forall_mem_nil _⟩
    | other => exact ⟨trivial, List.forall_mem_nil _⟩

theorem sendAllChannels_answer (s : ProviderState) (jobs : List Mailing) :
    ∀ call ∈ (sendAllChannels s jobs).2, call.answer = none := by
  induction jobs generalizing s with
  | nil => exact List.forall_mem_nil _
  | cons job jobs ih =>
    rw [sendAllChannels]
    exact List.forall_mem_cons.2 ⟨rfl, ih _⟩

/-- A `send` of the service has had this answer to its query. -/
def Answered (p : NotificationPool)
    (answer : Notification × Option (List TemplateContentRow)) : Prop :=
  ∃ call ∈ p.threads, call.answer = some answer

/-- An event brings no answer. -/
theorem answered_event {e : NotificationTrigger}
    {answer : Notification × Option (List TemplateContentRow)}
    (he : (notificationProgram number env db cert).event p.shared e = some (s', new))
    (h : Answered ⟨s', p.threads ++ new⟩ answer) : Answered p answer := by
  obtain ⟨call, hmem, hanswer⟩ := h
  rcases List.mem_append.1 hmem with hmem | hmem
  · exact ⟨call, hmem, hanswer⟩
  · rw [(trigger_new he call hmem).2.2.2.1] at hanswer
    cases hanswer

/-- An answer is read from the tables, or was there before. -/
theorem answered_step {answer : Notification × Option (List TemplateContentRow)}
    (hst : (notificationProgram number env db cert).step p a = some p') (h : Answered p' answer) :
    Answered p answer ∨
      p.shared.tables.findTemplate answer.1.clientId answer.1.dto.event = answer.2 := by
  obtain ⟨e, s, new, rfl, he, rfl⟩ | ⟨i, c, call, s, call', new, rfl, hcall, hrun, rfl⟩ :=
    Program.step_cases hst
  · exact Or.inl (answered_event he h)
  · obtain ⟨call₀, hmem, hanswer⟩ := h
    have hedge := notificationRun_edge hrun
    have hnew : ∀ call ∈ new, call.answer = none := by
      cases hedge with
      | serve => exact sendAllChannels_answer _ _
      | _ => exact List.forall_mem_nil _
    rcases List.mem_append.1 hmem with hold | hstarted
    · rcases List.mem_or_eq_of_mem_set hold with hold | rfl
      · exact Or.inl ⟨call₀, hold, hanswer⟩
      · cases hedge with
        | @answered n contents hread =>
          cases contents with
          | error f => cases hanswer
          | ok contents =>
            cases hanswer
            exact Or.inr (hread contents rfl)
        | @serve n contents =>
          refine Or.inl ⟨_, List.mem_of_getElem? hcall, ?_⟩
          cases contents with
          | error f => cases hanswer
          | ok contents => exact hanswer
        | _ => cases hanswer
    · rw [hnew call₀ hstarted] at hanswer
      cases hanswer

theorem mem_mailings {n : Notification} {contents : List TemplateContentRow} {job : Mailing}
    (h : job ∈ mailings n contents) :
    .MAIL ∈ n.dto.channels ∧ job = ⟨n.dto.context, n.dto.recipients, n.clientId,
      contents.filter (·.channel = NotificationChannel.MAIL.text)⟩ := by
  obtain ⟨channelType, hmem, h⟩ := List.mem_flatMap.1 h
  cases channelType with
  | WHATSAPP => cases h
  | MAIL =>
    dsimp only at h
    split_ifs at h
    · cases h
    · exact ⟨hmem, List.mem_singleton.1 h⟩

/-- A mailing that a `send` of the service has started. -/
theorem mem_jobs {job : Mailing} (h : job ∈ call.jobs) :
    ∃ n contents, call = .served n (.ok (some contents)) ∧ job ∈ mailings n contents := by
  cases call with
  | served n contents =>
    rcases contents with f | contents
    · cases h
    · cases contents with
      | none => cases h
      | some contents => exact ⟨n, contents, rfl, h⟩
  | _ => cases h

/-- A mail of a mailing that has had its provider. -/
theorem mem_batch {batch : List Mail} {mail : Mail} (h : call.batch number = some batch)
    (hmail : mail ∈ batch) :
    ∃ job r mailer, call = .mailed job (.done r (.ok (.email mailer))) ∧
      ∃ student ∈ job.recipients, job.mail number mailer student = some mail := by
  cases call with
  | mailed job call =>
    cases call with
    | done r result =>
      cases h
      rcases result with f | inst
      · cases hmail
      · cases inst with
        | auth provider => cases hmail
        | email mailer =>
          obtain ⟨student, hstudent, hmail⟩ := List.mem_filterMap.1 hmail
          exact ⟨job, r, mailer, rfl, student, hstudent, hmail⟩
    | _ => cases h
  | _ => cases h

end

/-! ## Runs of a program with notifications -/

section
variable {σ τ ε χ : Type} {number : ℚ → String} {env : ProviderEnv} {db : Database}
  {cert : FirebaseCredential → Option Failure} {P : Program σ τ ε χ}
  (E : Embedding P (notificationProgram number env db cert)) {config : ProviderConfig}
  {tables : NotificationTables} {p₀ p : Pool σ τ} {as : List (Act ε χ)}

/-- The mailings are those that the notifications served have led to. -/
theorem jobs_run (h0 : E.pool p₀ = NotificationPool.init config tables)
    (hrun : Run P.step anyStep p₀ as p) :
    ((E.pool p).threads.filterMap NotificationCall.job).Perm
      ((E.pool p).threads.flatMap NotificationCall.jobs) := by
  refine hrun.inv (I := fun p => ((E.pool p).threads.filterMap NotificationCall.job).Perm
    ((E.pool p).threads.flatMap NotificationCall.jobs)) ?_ fun p a p' h _ hst => ?_
  · rw [h0]
    exact .refl _
  · exact E.inv (I := fun q => (q.threads.filterMap NotificationCall.job).Perm
      (q.threads.flatMap NotificationCall.jobs)) (fun _ _ _ hq hst => jobs_step hst hq) hst h

/-- The outbox consists of the mails of the mailings that have had their provider, each mailing in
    one piece. -/
theorem outbox_run (h0 : E.pool p₀ = NotificationPool.init config tables)
    (hrun : Run P.step anyStep p₀ as p) :
    ∃ batches : List (List Mail), (E.pool p).shared.outbox = batches.flatten ∧
      batches.Perm ((E.pool p).threads.filterMap (NotificationCall.batch number)) := by
  refine hrun.inv (I := fun p => ∃ batches : List (List Mail),
    (E.pool p).shared.outbox = batches.flatten ∧
      batches.Perm ((E.pool p).threads.filterMap (NotificationCall.batch number))) ?_
    fun p a p' h _ hst => ?_
  · rw [h0]
    exact ⟨[], rfl, .refl _⟩
  · exact E.inv (I := fun q => ∃ batches : List (List Mail), q.shared.outbox = batches.flatten ∧
      batches.Perm (q.threads.filterMap (NotificationCall.batch number)))
      (fun _ _ _ hq hst => outbox_step hst hq) hst h

theorem asked_run (h0 : E.pool p₀ = NotificationPool.init config tables)
    (hrun : Run P.step anyStep p₀ as p) : ∀ call ∈ (E.pool p).threads, call.Asked := by
  refine hrun.inv (I := fun p => ∀ call ∈ (E.pool p).threads, call.Asked) ?_
    fun p a p' h _ hst => ?_
  · rw [h0]
    exact List.forall_mem_nil _
  · exact E.inv (I := fun q => ∀ call ∈ q.threads, call.Asked)
      (fun _ _ _ hq hst => asked_step hst hq) hst h

/-- A template that was found was once in the tables. -/
theorem answered_run (h0 : E.pool p₀ = NotificationPool.init config tables)
    (hrun : Run P.step anyStep p₀ as p)
    {answer : Notification × Option (List TemplateContentRow)}
    (h : Answered (E.pool p) answer) :
    ∃ t, Visited P.step p₀ as t ∧
      (E.shared t.shared).tables.findTemplate answer.1.clientId answer.1.dto.event =
        answer.2 := by
  refine hrun.traced (I := fun _ => True) (fun p answer => Answered (E.pool p) answer)
    (fun t answer => (E.shared t.shared).tables.findTemplate answer.1.clientId
      answer.1.dto.event = answer.2) trivial (fun _ _ _ _ _ => trivial) ?_ ?_ h
  · rintro answer ⟨call, hmem, -⟩
    rw [h0] at hmem
    cases hmem
  · intro p a p' answer _ _ hst hanswered
    refine E.holds (I := fun _ => True) (fun q => Answered q answer)
      (fun q => q.shared.tables.findTemplate answer.1.clientId answer.1.dto.event = answer.2)
      (fun _ _ _ _ _ => trivial) ?_ ?_ hst trivial hanswered
    · intro q e q' _ hst h
      obtain ⟨⟨s, new⟩, he, rfl⟩ := Option.map_eq_some_iff.1 hst
      exact answered_event he h
    · exact fun q b q' _ hst h => answered_step hst h

/-- A provider that is around for a tenant was once in the tables for it. -/
theorem providers_run (h0 : E.pool p₀ = NotificationPool.init config tables)
    (hrun : Run P.step anyStep p₀ as p) {clientId : String} {type : ProviderLabel}
    {inst : ProviderInstance}
    (h : Retained env db clientId type ((mailProviders number env db cert).pool (E.pool p)) inst) :
    ∃ t, Visited P.step p₀ as t ∧
      OwnProvider env db clientId type (E.shared t.shared).providers.config inst := by
  have hcalls : ∀ q b q', Calls env db q → (providerProgram env db cert).step q b = some q' →
      Calls env db q' := fun _ _ _ hq hst => calls_step hq hst
  rw [← Embedding.pool_trans] at h
  refine hrun.traced
    (I := fun p => Calls env db ((E.trans (mailProviders number env db cert)).pool p))
    (fun p => Retained env db clientId type ((E.trans (mailProviders number env db cert)).pool p))
    (fun t inst => OwnProvider env db clientId type (E.shared t.shared).providers.config inst)
    ?_ (fun _ _ _ hp hst => Embedding.inv _ hcalls hst hp) ?_ ?_ h
  · rw [Embedding.pool_trans, h0]
    exact calls_init env db config
  · intro inst hretained
    rw [Embedding.pool_trans, h0] at hretained
    exact absurd hretained not_retained_init
  · intro p a p' inst hp _ hst hretained
    refine (E.trans (mailProviders number env db cert)).holds
      (fun q => Retained env db clientId type q inst)
      (fun q => OwnProvider env db clientId type q.shared.config inst) hcalls ?_ ?_ hst hp hretained
    · intro q e q' _ hst hretained
      obtain ⟨⟨s, new⟩, he, rfl⟩ := Option.map_eq_some_iff.1 hst
      exact retained_event he hretained
    · exact fun q b q' hq hst hretained => retained_step hq hst hretained

/-- **A mail is its tenant's.**  A mail was asked for by a notification; it goes to one of its
    recipients; its texts are made of a template that the tables had, at some state of the run, for
    the tenant and the event of the notification; and it is sent by a provider of the tenant. -/
theorem mail_traced (h0 : E.pool p₀ = NotificationPool.init config tables)
    (hrun : Run P.step anyStep p₀ as p) {mail : Mail} (hmail : mail ∈ (E.pool p).shared.outbox) :
    ∃ n ∈ (E.pool p).threads.filterMap NotificationCall.notification, .MAIL ∈ n.dto.channels ∧
      ∃ r ∈ n.dto.recipients,
        (∃ t contents, Visited P.step p₀ as t ∧
          (E.shared t.shared).tables.findTemplate n.clientId n.dto.event = some contents ∧
          Mailing.mail number ⟨n.dto.context, n.dto.recipients, n.clientId,
            contents.filter (·.channel = NotificationChannel.MAIL.text)⟩ mail.provider r =
              some mail) ∧
        ∃ t, Visited P.step p₀ as t ∧ OwnProvider env db n.clientId .email
          (E.shared t.shared).providers.config (.email mail.provider) := by
  obtain ⟨batches, houtbox, hperm⟩ := outbox_run E h0 hrun
  rw [houtbox] at hmail
  obtain ⟨batch, hbatch, hmail⟩ := List.mem_flatten.1 hmail
  obtain ⟨call, hcall, hbatch⟩ := List.mem_filterMap.1 (hperm.mem_iff.1 hbatch)
  obtain ⟨job, r, mailer, rfl, student, hstudent, hmade⟩ := mem_batch hbatch hmail
  obtain rfl := Mailing.provider_mail hmade
  -- the mailing was started by a notification
  have hjob : job ∈ (E.pool p).threads.filterMap NotificationCall.job :=
    List.mem_filterMap.2 ⟨_, hcall, rfl⟩
  obtain ⟨call, hserved, hjob⟩ := List.mem_flatMap.1 ((jobs_run E h0 hrun).mem_iff.1 hjob)
  obtain ⟨n, contents, rfl, hjob⟩ := mem_jobs hjob
  obtain ⟨hchannel, rfl⟩ := mem_mailings hjob
  have hn : n ∈ (E.pool p).threads.filterMap NotificationCall.notification :=
    List.mem_filterMap.2 ⟨_, hserved, rfl⟩
  obtain ⟨t, ht, hfound⟩ := answered_run E h0 hrun ⟨_, hserved, rfl⟩
  -- and has the provider that it asked for
  have hdone : ProviderCall.done r (.ok (.email mail.provider)) ∈
      (E.pool p).threads.filterMap NotificationCall.providerCall :=
    List.mem_filterMap.2 ⟨_, hcall, rfl⟩
  have hasked : r = ⟨.email, n.clientId, none⟩ := asked_run E h0 hrun _ hcall
  subst hasked
  have hplain : ProviderRequest.Plain ⟨.email, n.clientId, none⟩ :=
    (by decide : ':' ∉ "default".toList)
  exact ⟨n, hn, hchannel, student, hstudent, ⟨t, contents, ht, hfound, hmade⟩,
    providers_run E h0 hrun (.returned hplain rfl rfl hdone)⟩

end

end GatewayRealtime
