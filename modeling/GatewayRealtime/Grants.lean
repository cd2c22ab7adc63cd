/-
  How old the permissions are under which a message is dispatched (`base-ws.event.ts`).

  * `Begun`, `Answers`: the queries of events in a run, and their answers.
  * `InForce`: the events that a stretch goes by: those that a query answers just then, or those
    that have been kept for no more than the lifetime of the cache since their query was begun.
  * `Founded`: a grant that was made of such events.
  * `grants_founded`: every frame of a dispatch under a grant, and every event that is stored for
    one, is founded so; whatever happens to the permissions in the meantime is not looked at.
-/
import GatewayRealtime.Wire
import GatewayRealtime.Uploads

namespace GatewayRealtime

/-- What a handler asks for: the event of a message, for the helper of its receivers. -/
inductive HandlerAsks : String → String → EventHelper → Prop
  | json {h : WsEventJSON} (payload : Option JsVal) (listed : h ∈ WS_EVENT_JSON_CLASSES) :
      HandlerAsks h.labelEvent (h.getEventMessage payload) (getHelper h.receiverType)
  | binner {h : WsEventBinner} (listed : h ∈ WS_EVENT_BINNER_CLASSES) :
      HandlerAsks h.labelEvent h.labelEvent (getHelper h.receiverType)

/-- Computation number `i` waits for the events of a label, with a query begun at `lastUpdate`. -/
def Queries (p : Pool Gateway Task) (i : ℕ) (label : String) (lastUpdate : ℤ) : Prop :=
  (p.threads[i]?).bind Task.queried = some (label, lastUpdate)

section
variable (cfg : GatewayConfig) (t₀ : ℤ) (as : List (Act GatewayEvent GatewayAnswer))
  (act : Act GatewayEvent GatewayAnswer) (p : Pool Gateway Task)

/-- In a stretch of the run, at the instant `lastUpdate`, computation number `i` began its query. -/
def Begun (i : ℕ) (label : String) (lastUpdate : ℤ) : Prop :=
  ∃ pre act p p', pre ++ [act] <+: as ∧
    Run (gatewayProgram cfg).step anyStep (Gateway.start t₀) pre p ∧
    (gatewayProgram cfg).step p act = some p' ∧ p.shared.clock = lastUpdate ∧
    ¬ Queries p i label lastUpdate ∧ Queries p' i label lastUpdate

/-- After the run, in the state `p`, the stretch `act` answers a query of the run. -/
def Answers (label : String) (events : List Events) (lastUpdate : ℤ) : Prop :=
  ∃ i, act = .resume i (.events (.ok events)) ∧ Queries p i label lastUpdate ∧
    Begun cfg t₀ as i label lastUpdate

/-- A stretch of the run answered a query of it. -/
def HasAnswered (label : String) (events : List Events) (lastUpdate : ℤ) : Prop :=
  ∃ pre act p, pre ++ [act] <+: as ∧
    Run (gatewayProgram cfg).step anyStep (Gateway.start t₀) pre p ∧
    Answers cfg t₀ pre act p label events lastUpdate

/-- The events that the stretch `act` after the run goes by. -/
def InForce (label : String) (events : List Events) : Prop :=
  ∃ lastUpdate, Answers cfg t₀ as act p label events lastUpdate ∨
    HasAnswered cfg t₀ as label events lastUpdate ∧
      p.shared.clock - lastUpdate ≤ cfg.EVENT_CACHE_TTL

/-- In a stretch of the run, the grant was made of the events in force, by the lists that the
    session of the sender had then. -/
def Founded (sender : SessionRef) (grant : Grant) : Prop :=
  ∃ pre act p label event events, ∃ session : WsSession, pre ++ [act] <+: as ∧
    Run (gatewayProgram cfg).step anyStep (Gateway.start t₀) pre p ∧
    HandlerAsks label event grant.receiver ∧ InForce cfg t₀ pre act p label events ∧
    p.shared.conn.heap[sender]? = some session ∧
    (getHelper session.type).filterEvents session.principal event events = .ok grant.allowed ∧
    grant.allowed ≠ []

/-- What a run knows of its grants and of its events, at the instant `now`. -/
def founding (now : ℤ) : Terms :=
  ⟨HandlerAsks, Founded cfg t₀ as, HasAnswered cfg t₀ as, fun lastUpdate => lastUpdate = now⟩

/-- The caches, the effects and the computations at the end of a run. -/
structure Grounded : Prop where
  caches : ∀ label x, p.shared.caches.get? label = some x → HasAnswered cfg t₀ as label x.1 x.2
  sent : ∀ e ∈ p.shared.trace, e.Granted (founding cfg t₀ as p.shared.clock)
  tasks : ∀ t ∈ p.threads, t.Asks (founding cfg t₀ as p.shared.clock)
  queries : ∀ i label lastUpdate, Queries p i label lastUpdate → Begun cfg t₀ as i label lastUpdate

end

/-- What a step adds to the caches, to the effects and to the computations meets the terms. -/
structure Adds (T : Terms) (p p' : Pool Gateway Task) : Prop where
  caches : ∀ label x, p'.shared.caches.get? label = some x →
    p.shared.caches.get? label = some x ∨ T.loaded label x.1 x.2
  sent : ∃ effects, p'.shared.trace = p.shared.trace ++ effects ∧ ∀ e ∈ effects, e.Granted T
  tasks : ∀ (i : ℕ) (t : Task), p'.threads[i]? = some t → p.threads[i]? = some t ∨ t.Meets T

section
variable {cfg : GatewayConfig} {t₀ now now' : ℤ} {as : List (Act GatewayEvent GatewayAnswer)}
  {act : Act GatewayEvent GatewayAnswer} {p p' : Pool Gateway Task} {T : Terms} {g' : Gateway}
  {i : ℕ} {t t' : Task} {label : String} {events : List Events} {lastUpdate : ℤ}

/-! ## What a step adds -/

theorem Adds.event {new : List Task} (hs : p.shared.Speaks T g') (hnew : ∀ t ∈ new, t.Meets T) :
    Adds T p ⟨g', p.threads ++ new⟩ where
  caches := hs.caches
  sent := by
    obtain ⟨effects, htrace, hsaid⟩ := hs.sent
    exact ⟨effects, htrace, fun e he => (hsaid e he).2⟩
  tasks i t ht := by
    rw [List.getElem?_append] at ht
    split_ifs at ht
    · exact Or.inl ht
    · exact Or.inr (hnew t (List.mem_of_getElem? ht))

/-- The stretch may begin after a change of the sessions or the sockets. -/
theorem Adds.resume {new : List Task} {k : Connections} (i : ℕ)
    (hs : Stretch.Speaks T (g', t', new) { p.shared with conn := k }) :
    Adds T p ⟨g', p.threads.set i t' ++ new⟩ where
  caches := hs.gateway.caches
  sent := by
    obtain ⟨effects, htrace, hsaid⟩ := hs.gateway.sent
    exact ⟨effects, htrace, fun e he => (hsaid e he).2⟩
  tasks j t ht := by
    rw [List.getElem?_append] at ht
    split_ifs at ht
    · rw [List.getElem?_set] at ht
      split_ifs at ht
      · cases ht
        exact Or.inr hs.task
      · exact Or.inl ht
    · exact Or.inr (hs.tasks t (List.mem_of_getElem? ht))

theorem adds_step (hT : T.Meets cfg p.shared) (hasks : ∀ t ∈ p.threads, t.Asks T)
    (hloaded : ∀ i label events lastUpdate, act = .resume i (.events (.ok events)) →
      Queries p i label lastUpdate →
        T.loaded label events lastUpdate ∧ T.Makes p.shared.conn label events)
    (hst : (gatewayProgram cfg).step p act = some p') : Adds T p p' := by
  obtain ⟨e, g', new, rfl, he, rfl⟩ | ⟨i, answer, t, g', t', new, rfl, ht, hr, rfl⟩ :=
    Program.step_cases hst
  · by_cases hconnect : e = .connect
    · subst hconnect
      cases he
      refine ⟨fun _ _ hx => Or.inl hx, ⟨[], (List.append_nil _).symm, List.forall_mem_nil _⟩,
        (Adds.event (.refl p.shared) (List.forall_mem_singleton.2 ?_)).tasks⟩
      exact .of_none trivial rfl
    · obtain ⟨hs, hnew⟩ := onEvent_speaks hT he hconnect
      exact .event hs hnew
  · have hqueried : ∀ label lastUpdate events, t.queried = some (label, lastUpdate) →
        answer = .events (.ok events) →
          T.loaded label events lastUpdate ∧ T.Makes p.shared.conn label events := by
      rintro label lastUpdate events hq rfl
      exact hloaded i label events lastUpdate rfl (by simp [Queries, ht, hq])
    rcases onAnswer_speaks hT (hasks t (List.mem_of_getElem? ht)) hqueried hr with hs |
      ⟨c, auth, rfl, rfl, hconnected⟩
    · exact .resume i hs
    · have hs : Stretch.Speaks T (p.shared.connected c auth) _ := connected_speaks p.shared c auth
      rw [hconnected] at hs
      exact .resume i hs

/-! ## The past of a run stays -/

variable (bs : List (Act GatewayEvent GatewayAnswer))

theorem Begun.extend (h : Begun cfg t₀ as i label lastUpdate) :
    Begun cfg t₀ (as ++ bs) i label lastUpdate := by
  obtain ⟨pre, act, p, p', hpre, h⟩ := h
  exact ⟨pre, act, p, p', hpre.trans (List.prefix_append as bs), h⟩

theorem HasAnswered.extend (h : HasAnswered cfg t₀ as label events lastUpdate) :
    HasAnswered cfg t₀ (as ++ bs) label events lastUpdate := by
  obtain ⟨pre, act, p, hpre, h⟩ := h
  exact ⟨pre, act, p, hpre.trans (List.prefix_append as bs), h⟩

theorem Founded.extend {sender : SessionRef} {grant : Grant}
    (h : Founded cfg t₀ as sender grant) : Founded cfg t₀ (as ++ bs) sender grant := by
  obtain ⟨pre, act, p, label, event, events, session, hpre, h⟩ := h
  exact ⟨pre, act, p, label, event, events, session, hpre.trans (List.prefix_append as bs), h⟩

theorem granted_extend {e : Effect} (h : e.Granted (founding cfg t₀ as now)) :
    e.Granted (founding cfg t₀ (as ++ bs) now') := fun x hx => (h x hx).extend bs

theorem asks_extend (h : t.Asks (founding cfg t₀ as now)) :
    t.Asks (founding cfg t₀ (as ++ bs) now') := by
  cases t with
  | targets q => exact fun G hG => (h G hG).extend bs
  | api m notification => exact h
  | events m modified lastUpdate => exact h
  | binaryEvents m lastUpdate => exact h
  | _ => trivial

/-! ## Runs -/

/-- A grant that is made in the next stretch, of the events that it goes by, is founded. -/
theorem makes_of_inForce
    (hrun : Run (gatewayProgram cfg).step anyStep (Gateway.start t₀) as p)
    (h : InForce cfg t₀ as act p label events) :
    (founding cfg t₀ (as ++ [act]) now).Makes p.shared.conn label events :=
  fun _ session event _ _ hasks hsession hallowed hne =>
    ⟨as, act, p, label, event, events, session, List.prefix_refl _, hrun, hasks, h, hsession,
      hallowed, hne⟩

theorem Grounded.meets (h : Grounded cfg t₀ as p)
    (hrun : Run (gatewayProgram cfg).step anyStep (Gateway.start t₀) as p) :
    (founding cfg t₀ (as ++ [act]) p.shared.clock).Meets cfg p.shared where
  json m hm := .json m.payload hm
  binner _ hm := .binner hm
  cached label events hcached := by
    refine makes_of_inForce hrun ?_
    unfold Gateway.cachedEvents at hcached
    split at hcached
    · rename_i kept lastUpdate hget
      split_ifs at hcached with hage
      cases hcached
      exact ⟨lastUpdate, Or.inr ⟨h.caches label _ hget, not_lt.1 hage⟩⟩
    · cases hcached
  begun := rfl

/-- A step of a run: what is there stays founded, and what is new is. -/
theorem Grounded.step (h : Grounded cfg t₀ as p)
    (hrun : Run (gatewayProgram cfg).step anyStep (Gateway.start t₀) as p)
    (hst : (gatewayProgram cfg).step p act = some p') : Grounded cfg t₀ (as ++ [act]) p' := by
  have hadds : Adds (founding cfg t₀ (as ++ [act]) p.shared.clock) p p' := by
    refine adds_step (h.meets hrun) (fun t ht => asks_extend [act] (h.tasks t ht))
      (fun i label events lastUpdate hact hq => ?_) hst
    have hanswers : Answers cfg t₀ as act p label events lastUpdate :=
      ⟨i, hact, hq, h.queries i label lastUpdate hq⟩
    exact ⟨⟨as, act, p, List.prefix_refl _, hrun, hanswers⟩,
      makes_of_inForce hrun ⟨lastUpdate, Or.inl hanswers⟩⟩
  obtain ⟨effects, htrace, hgranted⟩ := hadds.sent
  refine ⟨fun label x hx => ?_, fun e he => ?_, fun t ht => ?_, fun i label lastUpdate hq => ?_⟩
  · exact (hadds.caches label x hx).elim (fun hold => (h.caches label x hold).extend [act]) id
  · rw [htrace] at he
    rcases List.mem_append.1 he with he | he
    · exact granted_extend [act] (h.sent e he)
    · exact hgranted e he
  · obtain ⟨j, hj⟩ := List.mem_iff_getElem?.1 ht
    rcases hadds.tasks j t hj with hold | hmeets
    · exact asks_extend [act] (h.tasks t (List.mem_of_getElem? hold))
    · have hasks := hmeets.asks
      cases t <;> exact hasks
  · by_cases hold : Queries p i label lastUpdate
    · exact (h.queries i label lastUpdate hold).extend [act]
    · refine ⟨as, act, p, p', List.prefix_refl _, hrun, hst, ?_, hold, hq⟩
      obtain ⟨t, ht, hqueried⟩ := Option.bind_eq_some_iff.1 hq
      rcases hadds.tasks i t ht with ht | hmeets
      · exact (hold (Option.bind_eq_some_iff.2 ⟨t, ht, hqueried⟩)).elim
      · exact (hmeets.begun label lastUpdate hqueried).symm

theorem grounded_run (hrun : Run (gatewayProgram cfg).step anyStep (Gateway.start t₀) as p) :
    Grounded cfg t₀ as p := by
  induction hrun with
  | nil => exact ⟨nofun, List.forall_mem_nil _, List.forall_mem_nil _, nofun⟩
  | snoc hrun _ hst ih => exact ih.step hrun hst

/-- **Permissions are at most a cache lifetime old.**  In every run, whatever is dispatched or
    stored under a grant, the grant was made in one stretch, by the lists that the sender's session
    had then, of events that the handler's own query answered: in that very stretch, or in an
    earlier one, and then the query had been begun no longer ago than the lifetime of the cache. -/
theorem grants_founded (hrun : Run (gatewayProgram cfg).step anyStep (Gateway.start t₀) as p)
    {e : Effect} {sender : SessionRef} {grant : Grant} (he : e ∈ p.shared.trace)
    (hgrant : e.grant = some (sender, grant)) : Founded cfg t₀ as sender grant :=
  (grounded_run hrun).sent e he (sender, grant) hgrant

end

/-- A chunk of the upload is sent under a grant that is made of the events that are queried for
    the first one. -/
theorem grants_founded_patientUpload : ∃ p e grant,
    Run (gatewayProgram .defaults).step anyStep (Gateway.start 0) patientUpload p ∧
      e ∈ p.shared.trace ∧ e.grant = some (1, grant) ∧
        Founded .defaults 0 patientUpload 1 grant := by
  have hruns : ((exec (gatewayProgram .defaults).step (Gateway.start 0) patientUpload).any
      fun p => p.shared.trace.any fun e => e.grant.any fun x => x.1 = 1) = true := by
    decide +kernel
  simp only [Option.any_eq_true, List.any_eq_true, decide_eq_true_eq] at hruns
  obtain ⟨p, hp, e, hmem, ⟨sender, grant⟩, hgrant, rfl⟩ := hruns
  exact ⟨p, e, grant, run_of_exec hp, hmem, hgrant, grants_founded (run_of_exec hp) hmem hgrant⟩

end GatewayRealtime
