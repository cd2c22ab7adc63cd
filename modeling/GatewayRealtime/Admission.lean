/-
  Whom the sockets are vouched for (`websocket.gateway.ts`, `websocket-sesi-manager.service.ts`).

  * `Entrance.Begins`, `Entrance.Answers`: the steps of the check of a token.
  * `Stands`: what they have come to in a run; `VouchedFor`: the token of a socket was valid.
  * `Attended`: what a run of the entrance keeps.
  * `sockets_vouched`: nothing is sent to a socket but for the end user that it is vouched for.
  * `VouchedFor.validated`: while the tables stay, that is whom `validateToken` names at once.
-/
import GatewayRealtime.Vouched
import GatewayRealtime.Entrance

namespace GatewayRealtime

/-! ## One step of the entrance -/

/-- The gateway behind the entrance. -/
def Entrance.pool (p : Pool Entrance Task) : Pool Gateway Task := ⟨p.shared.gateway, p.threads⟩

section
variable {cfg : EntranceConfig} {p p' : Pool Entrance Task} {act : Act EntranceEvent EntranceAnswer}

/-- The request of a new socket. -/
def EntranceEvent.handshake? : EntranceEvent → Option Handshake
  | .handshake h => some h
  | _ => none

/-- The request that a step brings. -/
def Entrance.request : Act EntranceEvent EntranceAnswer → Option Handshake
  | .event e => e.handshake?
  | .resume .. => none

/-- The limiter lets the request of the socket `c` pass, and the check of its token begins. -/
def Entrance.Begins (cfg : EntranceConfig) (p : Pool Entrance Task)
    (act : Act EntranceEvent EntranceAnswer) (c : ClientRef) (h : Handshake)
    (k : Except Failure Checking) : Prop :=
  ∃ i, act = .resume i .limiter ∧ p.threads[i]? = some (.rateLimit c) ∧
    p.shared.handshakes[c]? = some h ∧ (p.shared.limit cfg h).2 = .ok () ∧
    k = WebSocketAuthGuard.validateConnection cfg.env cfg.searchParams p.shared.gateway.clock h

/-- The check of the token of the socket `c` goes on from `k` to `k'` with an answer: the tables
    are read as they are now. -/
def Entrance.Answers (cfg : EntranceConfig) (p : Pool Entrance Task)
    (act : Act EntranceEvent EntranceAnswer) (c : ClientRef) (k k' : Checking) : Prop :=
  ∃ i a, act = .resume i (.token a) ∧ p.threads[i]? = some (.authenticate c) ∧
    p.shared.checks.get? c = some (.ok k) ∧
    k.answer cfg.env p.shared.tables cfg.ord p.shared.gateway.clock a = some k'

/-- **What a step of the entrance does.**  It is a step of the gateway, in which a connection is
    authenticated only if the check of its token has ended so; or it does not touch the gateway.
    It brings at most a request, and takes at most one check a step on. -/
theorem entrance_cases (hst : (entranceProgram cfg).step p act = some p') :
    ((Entrance.pool p' = Entrance.pool p) ∨
      ∃ act', (gatewayProgram cfg.gateway).step (Entrance.pool p) act' = some (Entrance.pool p') ∧
        ∀ i c a, act' = .resume i (.authenticated (.ok a)) →
          p.threads[i]? = some (.authenticate c) → p.shared.checked c = some (.ok a)) ∧
    p'.shared.handshakes = p.shared.handshakes ++ (Entrance.request act).toList ∧
    ∀ c k', p'.shared.checks.get? c = some k' → p.shared.checks.get? c = some k' ∨
      (∃ h, Entrance.Begins cfg p act c h k') ∨
      ∃ k k₁, k' = .ok k₁ ∧ Entrance.Answers cfg p act c k k₁ := by
  obtain ⟨e, s, new, rfl, he, rfl⟩ | ⟨i, answer, t, s, t', new, rfl, ht, hr, rfl⟩ :=
    Program.step_cases hst
  · simp only [entranceProgram] at he
    split at he
    · cases he
    · rename_i e hconnect
      obtain ⟨⟨g, tasks⟩, hg, h⟩ := Option.map_eq_some_iff.1 he
      cases h
      refine ⟨Or.inr ⟨.event e, ?_, by rintro i c a ⟨⟩⟩, (List.append_nil _).symm,
        fun _ _ h => Or.inl h⟩
      simp [Entrance.pool, Program.step, gatewayProgram, hg]
    · rename_i h
      obtain ⟨⟨g, tasks⟩, hg, heq⟩ := Option.map_eq_some_iff.1 he
      cases heq
      refine ⟨Or.inr ⟨.event .connect, ?_, by rintro i c a ⟨⟩⟩, rfl, fun _ _ h => Or.inl h⟩
      simp [Entrance.pool, Program.step, gatewayProgram, hg]
    · cases he
      exact ⟨Or.inl (by simp [Entrance.pool]), (List.append_nil _).symm, fun _ _ h => Or.inl h⟩
    · cases he
      exact ⟨Or.inl (by simp [Entrance.pool]), (List.append_nil _).symm, fun _ _ h => Or.inl h⟩
  · simp only [entranceProgram] at hr
    split at hr
    · rename_i c
      obtain ⟨h, hh, hr⟩ := Option.bind_eq_some_iff.1 hr
      obtain ⟨⟨g, task, tasks⟩, hg, heq⟩ := Option.map_eq_some_iff.1 hr
      cases heq
      refine ⟨Or.inr ⟨.resume i (.rateLimit (p.shared.limit cfg h).2), ?_, by rintro j c a ⟨⟩⟩,
        (List.append_nil _).symm, fun c' k' hk' => ?_⟩
      · simp [Entrance.pool, Program.step, gatewayProgram, ht, hg]
      · dsimp only at hk'
        split at hk'
        · rename_i hok
          rw [OMap.get?_set] at hk'
          split_ifs at hk' with hc
          · cases hk'
            subst hc
            exact Or.inr (Or.inl ⟨h, i, rfl, ht, hh, hok, rfl⟩)
          · exact Or.inl hk'
        · exact Or.inl hk'
    · rename_i c a
      obtain ⟨k, hk, hr⟩ := Option.bind_eq_some_iff.1 hr
      split at hr
      · cases hr
      · rename_i k
        obtain ⟨k₁, hanswer, heq⟩ := Option.map_eq_some_iff.1 hr
        cases heq
        refine ⟨Or.inl ?_, (List.append_nil _).symm, fun c' k' hk' => ?_⟩
        · obtain ⟨_, hsame⟩ := List.getElem?_eq_some_iff.1 ht
          simp [Entrance.pool, ← hsame]
        · rw [OMap.get?_set] at hk'
          split_ifs at hk' with hc
          · cases hk'
            subst hc
            exact Or.inr (Or.inr ⟨k, k₁, rfl, i, a, rfl, ht, hk, hanswer⟩)
          · exact Or.inl hk'
    · rename_i c
      obtain ⟨result, hchecked, hr⟩ := Option.bind_eq_some_iff.1 hr
      obtain ⟨⟨g, task, tasks⟩, hg, heq⟩ := Option.map_eq_some_iff.1 hr
      cases heq
      refine ⟨Or.inr ⟨.resume i (.authenticated result), ?_, fun j c' a hact hc' => ?_⟩,
        (List.append_nil _).symm, fun _ _ h => Or.inl h⟩
      · simp [Entrance.pool, Program.step, gatewayProgram, ht, hg]
      · injection hact with hj hresult
        subst hj
        rw [ht] at hc'
        cases hc'
        injection hresult with hresult
        rw [hchecked, hresult]
    · cases hr
    · cases hr
    · rename_i t a hlimit hauth
      obtain ⟨⟨g, task, tasks⟩, hg, heq⟩ := Option.map_eq_some_iff.1 hr
      cases heq
      refine ⟨Or.inr ⟨.resume i a, ?_, fun j c a' hact hc => ?_⟩, (List.append_nil _).symm,
        fun _ _ h => Or.inl h⟩
      · simp [Entrance.pool, Program.step, gatewayProgram, ht, hg]
      · injection hact with hj _
        subst hj
        rw [ht] at hc
        cases hc
        exact (hauth c rfl).elim
    · cases hr

end

/-! ## Runs -/

/-- The requests of the sockets of a run, in their order. -/
def requests (as : List (Act EntranceEvent EntranceAnswer)) : List Handshake :=
  as.filterMap Entrance.request

/-- In a run, the check of the token of the socket `c` has come to `k`: the limiter let the request
    of this socket pass, and each answer since was one that the check waited for then. -/
inductive Stands (cfg : EntranceConfig) (p₀ : Pool Entrance Task) :
    List (Act EntranceEvent EntranceAnswer) → ClientRef → Except Failure Checking → Prop
  | begun {as p act c h k} : Run (entranceProgram cfg).step anyStep p₀ as p →
      (requests as)[c]? = some h → Entrance.Begins cfg p act c h k →
        Stands cfg p₀ (as ++ [act]) c k
  | answered {as p act c k k'} : Stands cfg p₀ as c (.ok k) →
      Run (entranceProgram cfg).step anyStep p₀ as p → Entrance.Answers cfg p act c k k' →
        Stands cfg p₀ (as ++ [act]) c (.ok k')
  | kept {as act c k} : Stands cfg p₀ as c k → Stands cfg p₀ (as ++ [act]) c k

section
variable (cfg : EntranceConfig) (p₀ : Pool Entrance Task)
  (as : List (Act EntranceEvent EntranceAnswer))

/-- The limiter has let the request of the socket `c` pass, and the check of its token has ended
    with `a`. -/
def VouchedFor (c : ClientRef) (a : Authenticated) : Prop :=
  ∃ k, Stands cfg p₀ as c (.ok k) ∧ k.result = some (.ok a)

/-- The gateway, the requests and the checks, as far as a run has gone. -/
structure Attended (t₀ : ℤ) (p : Pool Entrance Task) : Prop where
  consistent : Consistent cfg.gateway t₀ (Entrance.pool p)
  vouching : Vouching (VouchedFor cfg p₀ as) (Entrance.pool p)
  requests : p.shared.handshakes = requests as
  checks : ∀ c k, p.shared.checks.get? c = some k → Stands cfg p₀ as c k

end

section
variable {cfg : EntranceConfig} {p₀ p p' : Pool Entrance Task} {t₀ : ℤ} {tables : Database}
  {as : List (Act EntranceEvent EntranceAnswer)} {act : Act EntranceEvent EntranceAnswer}

theorem requests_concat :
    requests (as ++ [act]) = requests as ++ (Entrance.request act).toList := by
  rw [requests, List.filterMap_append, List.filterMap_cons, requests]
  cases Entrance.request act <;> rfl

theorem VouchedFor.concat {c : ClientRef} {a : Authenticated} (h : VouchedFor cfg p₀ as c a)
    (act : Act EntranceEvent EntranceAnswer) : VouchedFor cfg p₀ (as ++ [act]) c a := by
  obtain ⟨k, hk, hresult⟩ := h
  exact ⟨k, hk.kept, hresult⟩

/-- A check that is done has come to it. -/
theorem Attended.vouched (h : Attended cfg p₀ as t₀ p) {c : ClientRef} {a : Authenticated}
    (hchecked : p.shared.checked c = some (.ok a)) : VouchedFor cfg p₀ as c a := by
  obtain ⟨k, hk, hresult⟩ := Option.bind_eq_some_iff.1 hchecked
  cases k with
  | error f => cases hresult
  | ok k => exact ⟨k, h.checks c _ hk, hresult⟩

/-- A step of a run keeps what is attended to. -/
theorem Attended.step (h : Attended cfg p₀ as t₀ p)
    (hrun : Run (entranceProgram cfg).step anyStep p₀ as p)
    (hst : (entranceProgram cfg).step p act = some p') :
    Attended cfg p₀ (as ++ [act]) t₀ p' := by
  obtain ⟨hgateway, hrequests, hchecks⟩ := entrance_cases hst
  have hvouching := h.vouching.mono fun c a hV => hV.concat act
  refine ⟨?_, ?_, by rw [hrequests, h.requests, requests_concat], fun c k hk => ?_⟩
  · rcases hgateway with hsame | ⟨act', hstep, -⟩
    · rw [hsame]
      exact h.consistent
    · exact h.consistent.step hstep
  · rcases hgateway with hsame | ⟨act', hstep, hended⟩
    · rw [hsame]
      exact hvouching
    · exact vouching_step h.consistent hvouching (fun i c a hact ht =>
        (h.vouched (hended i c a hact ht)).concat act) hstep
  · rcases hchecks c k hk with hold | ⟨x, hbegins⟩ | ⟨k₀, k₁, rfl, hanswers⟩
    · exact (h.checks c k hold).kept
    · have hx := hbegins
      obtain ⟨_, -, -, hx, -, -⟩ := hx
      exact .begun hrun (h.requests ▸ hx) hbegins
    · have hk₀ := hanswers
      obtain ⟨_, _, -, -, hk₀, -⟩ := hk₀
      exact .answered (h.checks c _ hk₀) hrun hanswers

theorem attended_run
    (hrun : Run (entranceProgram cfg).step anyStep (Entrance.start t₀ tables) as p) :
    Attended cfg (Entrance.start t₀ tables) as t₀ p := by
  induction hrun with
  | nil =>
    refine ⟨consistent_start cfg.gateway t₀, vouching_start _ t₀, rfl, fun c k hk => ?_⟩
    cases hk
  | snoc hrun _ hst ih => exact ih.step hrun hst

/-- **Nothing is sent to a socket but for the end user that it is vouched for.**  In every run, a
    frame of a session goes to a socket whose request the limiter let pass, and the check of whose
    token has then ended, answer by answer, with the end user of the session; a socket that is
    bound to a session, so that its messages count as those of the session, is vouched for in the
    same way; and every session has the identity that some socket is vouched for. -/
theorem sockets_vouched
    (hrun : Run (entranceProgram cfg).step anyStep (Entrance.start t₀ tables) as p) :
    (∀ c r, (p.shared.gateway.conn.bound c = some (some r) ∨
        ∃ frame origin, .send c r frame origin ∈ p.shared.gateway.trace) →
      ∃ (s : WsSession) (a : Authenticated), p.shared.gateway.conn.heap[r]? = some s ∧
        VouchedFor cfg (Entrance.start t₀ tables) as c a ∧ a.id_enduser = s.sessionId) ∧
    ∀ (r : SessionRef) (s : WsSession), p.shared.gateway.conn.heap[r]? = some s →
      ∃ c a, VouchedFor cfg (Entrance.start t₀ tables) as c a ∧ s.identity = a.identity := by
  have hvouched := (attended_run hrun).vouching.vouched
  refine ⟨fun c r h => ?_, hvouched.identity⟩
  rcases h with hbound | ⟨frame, origin, hmem⟩
  · exact hvouched.bound c r hbound
  · exact hvouched.bound c r (hvouched.sent c r frame origin hmem)

end

/-! ## Tables that stay -/

/-- The tables are written to. -/
def Entrance.Writes (act : Act EntranceEvent EntranceAnswer) : Prop :=
  ∃ tables, act = .event (.write tables)

namespace Checking

variable {env : AuthEnv} {db : Database} {ord : RowOrder} {now : ℤ} {k k' : Checking}
  {a : TokenAnswer}

theorem answer_eq_some (h : k.answer env db ord now a = some k') :
    k'.query = k.query ∧ k'.type = k.type ∧
      k.check.answer env db ord now k.type a = some k'.check := by
  unfold Checking.answer at h
  split at h
  · cases h
  · rename_i ha
    cases h
    exact ⟨rfl, rfl, ha⟩

theorem result_ok {a : Authenticated} (h : k.result = some (.ok a)) :
    k.check = .done (.ok ⟨a.auth, a.id_enduser⟩) ∧ k.type = a.type := by
  unfold Checking.result at h
  split at h
  · rename_i hcheck
    cases h
    exact ⟨hcheck, rfl⟩
  · cases h
  · cases h

end Checking

section
variable {cfg : EntranceConfig} {p₀ p p' : Pool Entrance Task} {t₀ : ℤ} {tables : Database}
  {as : List (Act EntranceEvent EntranceAnswer)} {act : Act EntranceEvent EntranceAnswer}
  {c : ClientRef}

theorem tables_step (hst : (entranceProgram cfg).step p act = some p')
    (hact : ¬ Entrance.Writes act) : p'.shared.tables = p.shared.tables := by
  obtain ⟨e, s, new, rfl, he, rfl⟩ | ⟨i, answer, t, s, t', new, rfl, ht, hr, rfl⟩ :=
    Program.step_cases hst
  · simp only [entranceProgram] at he
    split at he
    · cases he
    · obtain ⟨_, -, heq⟩ := Option.map_eq_some_iff.1 he
      cases heq
      rfl
    · obtain ⟨_, -, heq⟩ := Option.map_eq_some_iff.1 he
      cases heq
      rfl
    · cases he
      rfl
    · exact absurd ⟨_, rfl⟩ hact
  · simp only [entranceProgram] at hr
    split at hr
    · obtain ⟨_, -, hr⟩ := Option.bind_eq_some_iff.1 hr
      obtain ⟨⟨_, _, _⟩, -, heq⟩ := Option.map_eq_some_iff.1 hr
      cases heq
      rfl
    · obtain ⟨_, -, hr⟩ := Option.bind_eq_some_iff.1 hr
      split at hr
      · cases hr
      · obtain ⟨_, -, heq⟩ := Option.map_eq_some_iff.1 hr
        cases heq
        rfl
    · obtain ⟨_, -, hr⟩ := Option.bind_eq_some_iff.1 hr
      obtain ⟨⟨_, _, _⟩, -, heq⟩ := Option.map_eq_some_iff.1 hr
      cases heq
      rfl
    · cases hr
    · cases hr
    · obtain ⟨⟨_, _, _⟩, -, heq⟩ := Option.map_eq_some_iff.1 hr
      cases heq
      rfl
    · cases hr

theorem tables_run (hrun : Run (entranceProgram cfg).step anyStep p₀ as p)
    (hstay : ∀ act ∈ as, ¬ Entrance.Writes act) : p.shared.tables = p₀.shared.tables := by
  induction hrun with
  | nil => rfl
  | snoc hrun _ hst ih =>
    rw [tables_step hst (hstay _ (by simp))]
    exact ih fun act hact => hstay act (by simp [hact])

/-- A check that has begun is one of the token in the request of its socket, for the type named
    there; and `validateToken` says the same, if the tables stay. -/
def Entrance.Agreeing (cfg : EntranceConfig) (tables : Database)
    (as : List (Act EntranceEvent EntranceAnswer)) (c : ClientRef) (k : Checking) : Prop :=
  (∃ h, (requests as)[c]? = some h ∧ WsQueryPipe.transform cfg.searchParams h.url = .ok k.query) ∧
    TypeEnduser.ofName k.query.type = some k.type ∧
      k.check.Agrees cfg.env tables cfg.ord k.type k.query.token k.query.clientId

theorem Entrance.Agreeing.concat {k : Checking} (h : Entrance.Agreeing cfg tables as c k)
    (act : Act EntranceEvent EntranceAnswer) :
    Entrance.Agreeing cfg tables (as ++ [act]) c k := by
  obtain ⟨⟨x, hx, hquery⟩, hrest⟩ := h
  refine ⟨⟨x, ?_, hquery⟩, hrest⟩
  rw [requests_concat, List.getElem?_append_left (List.getElem?_eq_some_iff.1 hx).1]
  exact hx

theorem Entrance.Begins.agreeing {h : Handshake} {k : Checking}
    (hb : Entrance.Begins cfg p act c h (.ok k)) (hh : (requests as)[c]? = some h) :
    Entrance.Agreeing cfg tables as c k := by
  obtain ⟨i, -, -, -, -, hk⟩ := hb
  unfold WebSocketAuthGuard.validateConnection at hk
  split at hk
  · cases hk
  · rename_i hquery
    split at hk
    · cases hk
    · rename_i htype
      cases hk
      exact ⟨⟨h, hh, hquery⟩, htype, TokenCheck.begin_agrees _ _ _ _ _ _ _⟩

theorem Entrance.Answers.agreeing {k k' : Checking} (ha : Entrance.Answers cfg p act c k k')
    (h : Entrance.Agreeing cfg p.shared.tables as c k) :
    Entrance.Agreeing cfg p.shared.tables as c k' := by
  obtain ⟨i, a, -, -, -, hanswer⟩ := ha
  obtain ⟨hquery, htype, hcheck⟩ := Checking.answer_eq_some hanswer
  obtain ⟨hrequest, hname, hagrees⟩ := h
  rw [Entrance.Agreeing, hquery, htype]
  exact ⟨hrequest, hname, hagrees.answer hcheck⟩

theorem Stands.agreeing {k : Except Failure Checking} (h : Stands cfg p₀ as c k) :
    (∀ act ∈ as, ¬ Entrance.Writes act) → ∀ k₁, k = .ok k₁ →
      Entrance.Agreeing cfg p₀.shared.tables as c k₁ := by
  induction h with
  | begun hrun hh hbegins =>
    rintro hstay k₁ rfl
    exact (hbegins.agreeing hh).concat _
  | answered hstands hrun hanswers ih =>
    rintro hstay k₁ ⟨⟩
    have hstay' := fun act hact => hstay act (List.mem_append_left _ hact)
    have hagreeing := ih hstay' _ rfl
    rw [← tables_run hrun hstay'] at hagreeing ⊢
    exact (hanswers.agreeing hagreeing).concat _
  | kept hstands ih =>
    intro hstay k₁ hk
    exact (ih (fun act hact => hstay act (List.mem_append_left _ hact)) k₁ hk).concat _

/-- If no one writes to the tables, then the token of a socket that is vouched for is one that
    `validateToken` accepts at once, for the type and the end user of the socket. -/
theorem VouchedFor.validated {a : Authenticated}
    (h : VouchedFor cfg (Entrance.start t₀ tables) as c a)
    (hstay : ∀ act ∈ as, ¬ Entrance.Writes act) :
    ∃ h query now, (requests as)[c]? = some h ∧
      WsQueryPipe.transform cfg.searchParams h.url = .ok query ∧
        TypeEnduser.ofName query.type = some a.type ∧
          validateToken cfg.env tables cfg.ord now query.token a.type query.clientId =
            .ok ⟨a.auth, a.id_enduser⟩ := by
  obtain ⟨k, hstands, hresult⟩ := h
  obtain ⟨hdone, htype⟩ := Checking.result_ok hresult
  obtain ⟨⟨x, hx, hquery⟩, hname, hagrees⟩ := hstands.agreeing hstay k rfl
  rw [hdone, htype] at hagrees
  obtain ⟨now, hnow⟩ := hagrees t₀ _ rfl
  exact ⟨x, k.query, now, hx, hquery, htype ▸ hname, hnow⟩

end

/-- An entrance at which one URL is in use. -/
def oneUrl : EntranceConfig where
  gateway := .defaults
  tokenParam _ _ := some (some "jwt")
  searchParams url := if url = "/?type=browser&token=jwt" then
    some fun name => if name = "type" then some "browser" else if name = "token" then some "jwt"
      else none
    else none
  env := offlineEnv
  ord := .natural

/-- A browser connects, and is sent the devices of its tenant. -/
def browserEnters : List (Act EntranceEvent EntranceAnswer) :=
  [.event (.handshake ⟨none, some "gateway.example", some "203.0.113.9",
      "/?type=browser&token=jwt"⟩), .resume 0 .limiter, .resume 0 (.token .base),
    .resume 0 (.token .get), .resume 0 (.token .send), .resume 0 .checked,
    .resume 0 (.gateway (.devices (.ok [])))]

theorem sockets_vouched_browserEnters : ∃ p,
    Run (entranceProgram oneUrl).step anyStep (Entrance.start 0 offlineTenant) browserEnters p ∧
      ∃ (s : WsSession) (a : Authenticated), p.shared.gateway.conn.heap[0]? = some s ∧
        VouchedFor oneUrl (Entrance.start 0 offlineTenant) browserEnters 0 a ∧
          a.id_enduser = s.sessionId := by
  have hruns : ((exec (entranceProgram oneUrl).step (Entrance.start 0 offlineTenant)
      browserEnters).any fun p => p.shared.gateway.conn.bound 0 = some (some 0)) = true := by
    decide +kernel
  simp only [Option.any_eq_true, decide_eq_true_eq] at hruns
  obtain ⟨p, hp, hbound⟩ := hruns
  exact ⟨p, run_of_exec hp, (sockets_vouched (run_of_exec hp)).1 0 0 (Or.inl hbound)⟩

end GatewayRealtime
