/-
  The heartbeat (`services/websocket-hearbeat.service.ts`) and the `pong` of a socket, in the runs
  of the gateway.

  * `Beat`, `beatStep`: a step of the gateway, or a pong that comes before its listener.
  * `signals`: what a socket hears of, the ticks of the heartbeat that find it and the pongs that
    its listener hears; `exchanges`, `unanswered`: what goes over it, and the pings it owes.
  * `heartbeat_socket`, `heartbeat_pings`: what a tick does to each socket.
  * `Patient`: a tick closes the socket exactly when `WS_MAX_MISSED_PONGS` pings are unanswered.
  * `Paced`: the counters of a socket against what it heard of and what it owes; `pacing_step`
    keeps it.
  * `patient_iff`: the runs in which the heartbeat is patient with a socket.
-/
import GatewayRealtime.Pulse

namespace GatewayRealtime

/-! ## What goes over a socket -/

/-- What reaches the gateway.  `handleConnection` attaches the listener of `pong` last: a pong that
    comes before is heard by nobody. -/
inductive Beat
  | act (a : Act GatewayEvent GatewayAnswer)
  | unheard (c : ClientRef)

/-- The gateway, with the pongs that it does not hear. -/
def beatStep (cfg : GatewayConfig) (p : Pool Gateway Task) : Beat → Option (Pool Gateway Task)
  | .act a => (gatewayProgram cfg).step p a
  | .unheard c =>
    match p.shared.conn.clients[c]? with
    | none => none
    | some client =>
      if client.listening = false ∧ client.readyState ≠ .CLOSED then some p else none

/-- What a socket hears of. -/
inductive Signal
  /-- a tick of the heartbeat that finds it -/
  | tick
  /-- a pong of its client -/
  | pong
deriving DecidableEq

/-- What the socket `c` hears of in a step. -/
def signals (c : ClientRef) (p : Pool Gateway Task) (b : Beat) (_ : Pool Gateway Task) :
    List Signal :=
  match b with
  | .act (.event .heartbeat) => if c ∈ p.shared.conn.getActiveSockets then [.tick] else []
  | .act (.event (.pong c')) => if c' = c then [.pong] else []
  | _ => []

/-- What goes over a socket for the heartbeat. -/
inductive Exchange
  | ping | pong
deriving DecidableEq

/-- The pings on the socket `c`. -/
def Effect.pings (c : ClientRef) : Effect → List Exchange
  | .ping c' => if c' = c then [.ping] else []
  | _ => []

/-- What goes over the socket `c` in a step: the pings of the heartbeat, which are in the trace,
    and the pongs of the client, heard or not. -/
def exchanges (c : ClientRef) (p : Pool Gateway Task) (b : Beat) (p' : Pool Gateway Task) :
    List Exchange :=
  match b with
  | .act (.event .heartbeat) =>
    (p'.shared.trace.drop p.shared.trace.length).flatMap (Effect.pings c)
  | .act (.event (.pong c')) => if c' = c then [.pong] else []
  | .unheard c' => if c' = c then [.pong] else []
  | _ => []

/-- One more ping that is not answered, or none after a pong. -/
def Exchange.count (owed : ℕ) : Exchange → ℕ
  | .ping => owed + 1
  | .pong => 0

/-- The pings since the last pong. -/
def unanswered (exchanges : List Exchange) : ℕ := exchanges.foldl Exchange.count 0

/-- **The heartbeat closes unresponsive sockets, and no others.**  In a run, a tick that finds the
    socket `c` closes it exactly when `WS_MAX_MISSED_PONGS` pings have been sent to it since its
    last pong. -/
def Patient (cfg : GatewayConfig) (t₀ : ℤ) (c : ClientRef) (bs : List Beat) : Prop :=
  ∀ before p p', before ++ [.act (.event .heartbeat)] <+: bs →
    Run (beatStep cfg) anyStep (Gateway.start t₀) before p →
      beatStep cfg p (.act (.event .heartbeat)) = some p' →
        c ∈ p.shared.conn.getActiveSockets →
          ((p'.shared.conn.clients[c]?).map (·.readyState) = some .CLOSING ↔
            cfg.WS_MAX_MISSED_PONGS ≤
              unanswered (observed (beatStep cfg) (exchanges c) (Gateway.start t₀) before))

/-! ## A socket -/

/-- A tick, and whether a ping is sent.  A socket that is not open is left alone. -/
def WsClient.tick (max : ℕ) (client : WsClient) : WsClient × Bool :=
  if client.readyState = .OPEN then Gateway.beat max client else (client, false)

/-- The listener of `pong`. -/
def WsClient.pong (client : WsClient) : WsClient :=
  { client with isAlive := true, missedPongs := 0 }

section
variable {max : ℕ} {client : WsClient}

theorem WsClient.tick_readyState (max : ℕ) (hopen : client.readyState = .OPEN) :
    (client.tick max).1.readyState =
      if client.isAlive = false ∧ max ≤ client.missedPongs + 1 then .CLOSING else .OPEN := by
  unfold WsClient.tick Gateway.beat
  rw [if_pos hopen]
  split_ifs <;> simp_all

theorem WsClient.tick_closing_iff (hopen : client.readyState = .OPEN) :
    (client.tick max).1.readyState = .CLOSING ↔
      client.isAlive = false ∧ max ≤ client.missedPongs + 1 := by
  rw [WsClient.tick_readyState max hopen]
  split_ifs with h <;> simp [h]

/-- A socket that is open after a tick was open before, and has been sent a ping. -/
theorem WsClient.tick_open (hopen : (client.tick max).1.readyState = .OPEN) :
    client.readyState = .OPEN ∧ (client.tick max).2 = true ∧
      (client.tick max).1.isAlive = false ∧
      (client.tick max).1.missedPongs =
        if client.isAlive then client.missedPongs else client.missedPongs + 1 := by
  unfold WsClient.tick Gateway.beat at hopen ⊢
  split_ifs at hopen ⊢ with h halive hmax <;> simp_all

theorem WsClient.tick_session (max : ℕ) (client : WsClient) :
    (client.tick max).1.session = client.session ∧
      (client.tick max).1.listening = client.listening := by
  unfold WsClient.tick Gateway.beat
  split_ifs <;> exact ⟨rfl, rfl⟩

end

/-! ## The sockets of the gateway -/

section
variable {V : ClientRef → Authenticated → Prop} {cfg : GatewayConfig} {g g' : Gateway}
  {k : Connections} {c : ClientRef}

/-- An assignment to the properties of a socket that is there. -/
theorem Connections.map_ite_clients {client : WsClient}
    (hclient : k.clients[c]? = some client) (f : WsClient → WsClient) (c' : ClientRef) :
    ((k.clients[c']?).map fun client' => if c' = c then f client' else client') =
      if c' = c then some (f client) else k.clients[c']? := by
  split_ifs with hc
  · rw [hc, hclient]
    rfl
  · exact Option.map_id'

theorem beatSocket_clients (max : ℕ) (g : Gateway) (c c' : ClientRef) :
    (Gateway.beatSocket max g c).conn.clients[c']? =
      (g.conn.clients[c']?).map fun client => if c' = c then (client.tick max).1 else client := by
  unfold Gateway.beatSocket
  cases hclient : g.conn.clients[c]? with
  | none =>
    have hother : ∀ client, g.conn.clients[c']? = some client → c' ≠ c := by
      rintro client hclient' rfl
      rw [hclient] at hclient'
      cases hclient'
    cases hclient' : g.conn.clients[c']? with
    | none => rfl
    | some client => simp [hother client hclient']
  | some client =>
    rw [Connections.map_ite_clients hclient (fun client => (client.tick max).1)]
    have hset : ∀ client', (g.conn.updateClient c fun _ => client').clients[c']? =
        if c' = c then some client' else g.conn.clients[c']? := fun client' => by
      rw [Connections.clients_updateClient, Connections.map_ite_clients hclient fun _ => client']
    unfold WsClient.tick
    by_cases hopen : client.readyState = .OPEN
    · simp only [if_pos hopen]
      rw [← hset]
      split_ifs <;> rfl
    · simp only [if_neg hopen]
      split_ifs with hc
      · rw [hc, hclient]
      · rfl

/-- The ping of a tick. -/
theorem beatSocket_trace (max : ℕ) (g : Gateway) (c : ClientRef) :
    (Gateway.beatSocket max g c).trace = g.trace ++
      if (g.conn.clients[c]?).any fun client => (client.tick max).2 then [.ping c] else [] := by
  unfold Gateway.beatSocket
  cases g.conn.clients[c]? with
  | none => simp
  | some client =>
    rw [Option.any_some]
    unfold WsClient.tick
    by_cases hopen : client.readyState = .OPEN
    · simp only [if_pos hopen]
      split_ifs
      · rfl
      · simp
    · simp [if_neg hopen]

theorem beatSockets_clients (max : ℕ) {cs : List ClientRef} (hnodup : cs.Nodup) (g : Gateway)
    (c : ClientRef) :
    (cs.foldl (Gateway.beatSocket max) g).conn.clients[c]? =
      (g.conn.clients[c]?).map fun client => if c ∈ cs then (client.tick max).1 else client := by
  induction cs generalizing g with
  | nil => simp
  | cons c' cs ih =>
    rw [List.nodup_cons] at hnodup
    rw [List.foldl_cons, ih hnodup.2, beatSocket_clients, Option.map_map]
    refine congrFun (congrArg Option.map (funext fun client => ?_)) _
    by_cases hc : c = c'
    · subst hc
      simp [hnodup.1]
    · simp [hc]

theorem beatSockets_trace (max : ℕ) {cs : List ClientRef} (hnodup : cs.Nodup) (g : Gateway) :
    ∃ effects, (cs.foldl (Gateway.beatSocket max) g).trace = g.trace ++ effects ∧
      ∀ c : ClientRef, effects.flatMap (Effect.pings c) =
        if c ∈ cs ∧ ((g.conn.clients[c]?).any fun client => (client.tick max).2) = true
          then [.ping] else [] := by
  induction cs generalizing g with
  | nil => exact ⟨[], by simp⟩
  | cons c' cs ih =>
    rw [List.nodup_cons] at hnodup
    obtain ⟨effects, htrace, hpings⟩ := ih hnodup.2 (Gateway.beatSocket max g c')
    refine ⟨(if (g.conn.clients[c']?).any fun client => (client.tick max).2 then [.ping c']
      else []) ++ effects, ?_, fun c => ?_⟩
    · rw [List.foldl_cons, htrace, beatSocket_trace, List.append_assoc]
    · rw [List.flatMap_append, hpings, beatSocket_clients]
      by_cases hc : c = c'
      · subst hc
        split_ifs <;> simp_all [Effect.pings]
      · have hnone : (if ((g.conn.clients[c']?).any fun client => (client.tick max).2) = true
            then [Effect.ping c'] else []).flatMap (Effect.pings c) = [] := by
          split_ifs <;> simp [Effect.pings, Ne.symm hc]
        rw [hnone]
        simp [hc]

/-- Active sockets are open, and are those of sessions. -/
theorem Connections.mem_getActiveSockets (h : c ∈ k.getActiveSockets) :
    ∃ r client, k.socket r = some c ∧ k.clients[c]? = some client ∧ client.readyState = .OPEN := by
  obtain ⟨r, hr, hsocket⟩ := List.mem_filterMap.1 h
  obtain ⟨c', hsocket', hopen⟩ := (Connections.isActive_iff k).1 (List.mem_filter.1 hr).2
  rw [hsocket] at hsocket'
  cases hsocket'
  unfold Connections.isOpen at hopen
  split at hopen
  · rename_i client hclient
    exact ⟨r, client, hsocket, hclient, by simpa using hopen⟩
  · cases hopen

/-- Sessions whose sockets are bound to them do not share them. -/
theorem Gateway.Vouched.nodup_getActiveSockets (h : g.Vouched V) (hk : g.conn.Inv) :
    g.conn.getActiveSockets.Nodup := by
  have hvalues : g.conn.registry.sessions.values.Nodup := by
    refine List.Nodup.map_on ?_ (List.Nodup.of_map _ g.conn.registry.sessions.nodup)
    rintro ⟨id, r⟩ he ⟨id', r'⟩ he' (rfl : r = r')
    obtain ⟨s, hs, hid, -⟩ := hk.registered id r ((OMap.mem_entries _ _ _).1 he)
    obtain ⟨s', hs', hid', -⟩ := hk.registered id' r ((OMap.mem_entries _ _ _).1 he')
    rw [hs] at hs'
    cases hs'
    rw [← hid, ← hid']
  refine (hvalues.filter _).filterMap fun r r' c hr hr' => ?_
  have hsame := (h.socket r c hr).symm.trans (h.socket r' c hr')
  simpa using hsame

/-- **A tick of the heartbeat** is one tick of every active socket. -/
theorem heartbeat_socket (h : g.Vouched V) (hk : g.conn.Inv) (c : ClientRef) :
    (g.heartbeat cfg).conn.clients[c]? = (g.conn.clients[c]?).map fun client =>
      if c ∈ g.conn.getActiveSockets then (client.tick cfg.WS_MAX_MISSED_PONGS).1 else client :=
  beatSockets_clients _ (h.nodup_getActiveSockets hk) g c

/-- An active socket that is pinged is pinged once. -/
theorem heartbeat_pings (h : g.Vouched V) (hk : g.conn.Inv) (c : ClientRef) :
    ((g.heartbeat cfg).trace.drop g.trace.length).flatMap (Effect.pings c) =
      if c ∈ g.conn.getActiveSockets ∧
          ((g.conn.clients[c]?).any fun client => (client.tick cfg.WS_MAX_MISSED_PONGS).2) = true
        then [.ping] else [] := by
  obtain ⟨effects, htrace, hpings⟩ :=
    beatSockets_trace cfg.WS_MAX_MISSED_PONGS (h.nodup_getActiveSockets hk) g
  rw [Gateway.heartbeat, htrace, List.drop_left]
  exact hpings c

/-- **A pong** is one of its socket alone, whose listener is attached. -/
theorem onEvent_pong {new : List Task} (h : g.onEvent cfg (.pong c) = some (g', new)) :
    new = [] ∧ (∃ client, g.conn.clients[c]? = some client ∧ client.listening = true) ∧
      ∀ c' : ClientRef, g'.conn.clients[c']? =
        (g.conn.clients[c']?).map fun client => if c' = c then client.pong else client := by
  simp only [Gateway.onEvent] at h
  split at h
  · cases h
  · rename_i client hclient
    split_ifs at h with hlive
    cases h
    exact ⟨rfl, ⟨client, hclient, hlive.1⟩, fun c' => Connections.clients_updateClient ..⟩

end

/-! ## The counters -/

/-- No pong has been heard: every tick counts as a missed pong, the first one too. -/
structure WsClient.Unheard (heard : List Signal) (owed : ℕ) (client : WsClient) : Prop where
  silent : .pong ∉ heard
  isAlive : client.isAlive = false
  missedPongs : client.missedPongs = heard.length
  owed : owed ≤ heard.length

/-- A pong has been heard: the missed pongs are one behind the pings. -/
structure WsClient.Heard (heard : List Signal) (owed : ℕ) (client : WsClient) : Prop where
  pong : .pong ∈ heard
  listening : client.listening = true
  counters : client.isAlive = true ∧ client.missedPongs = 0 ∧ owed = 0 ∨
    client.isAlive = false ∧ owed = client.missedPongs + 1

/-- The counters of a socket, against what it heard of and the pings that it owes. -/
structure WsClient.Paced (heard : List Signal) (owed : ℕ) (client : WsClient) : Prop where
  unbound : client.session = none → heard = []
  counters : client.readyState = .OPEN → client.Unheard heard owed ∨ client.Heard heard owed

section
variable {cfg : GatewayConfig} {t₀ : ℤ} {heard : List Signal} {owed max : ℕ}
  {client client' : WsClient} {c : ClientRef} {p p' : Pool Gateway Task} {b : Beat}
  {bs : List Beat}

theorem WsClient.Paced.fresh : ({} : WsClient).Paced [] 0 :=
  ⟨fun _ => rfl, fun _ => Or.inl ⟨List.not_mem_nil, rfl, rfl, le_rfl⟩⟩

/-- Before a socket is bound it hears nothing. -/
theorem WsClient.Paced.reset (h : client.Paced heard owed) (hnone : client.session = none) :
    { client with isAlive := false, missedPongs := 0, isResume := false }.Paced heard owed := by
  refine ⟨h.unbound, fun hopen => ?_⟩
  obtain rfl := h.unbound hnone
  rcases h.counters hopen with hunheard | hheard
  · exact Or.inl ⟨List.not_mem_nil, rfl, rfl, hunheard.owed⟩
  · exact absurd hheard.pong List.not_mem_nil

theorem WsClient.Paced.steady (h : client.Paced heard owed) (hs : client.Steady client') :
    client'.Paced heard owed := by
  refine ⟨fun hnone => h.unbound (hs.session hnone), fun hopen => ?_⟩
  rcases h.counters (hs.isOpen hopen) with hunheard | hheard
  · exact Or.inl ⟨hunheard.silent, hs.isAlive.trans hunheard.isAlive,
      hs.missedPongs.trans hunheard.missedPongs, hunheard.owed⟩
  · refine Or.inr ⟨hheard.pong, hs.listening hheard.listening, ?_⟩
    rw [hs.isAlive, hs.missedPongs]
    exact hheard.counters

theorem WsClient.Paced.tick (h : client.Paced heard owed) (hbound : client.session ≠ none) :
    (client.tick max).1.Paced (heard ++ [.tick])
      ((if (client.tick max).2 = true then [Exchange.ping] else []).foldl Exchange.count owed) := by
  obtain ⟨hsession, hlistening⟩ := client.tick_session max
  refine ⟨fun hnone => absurd (hsession.symm.trans hnone) hbound, fun hopen => ?_⟩
  obtain ⟨hopen₀, hsent, halive, hmissed⟩ := WsClient.tick_open hopen
  rw [if_pos hsent, List.foldl_cons, List.foldl_nil]
  rcases h.counters hopen₀ with hunheard | hheard
  · rw [hunheard.isAlive, hunheard.missedPongs] at hmissed
    refine Or.inl ⟨by simpa using hunheard.silent, halive, ?_, ?_⟩
    · rw [List.length_append]
      exact hmissed
    · rw [List.length_append]
      exact Nat.succ_le_succ hunheard.owed
  · refine Or.inr ⟨List.mem_append_left _ hheard.pong, hlistening.trans hheard.listening,
      Or.inr ⟨halive, ?_⟩⟩
    rw [hmissed]
    refine congrArg (· + 1) ?_
    rcases hheard.counters with ⟨halive₀, hmissed₀, howed⟩ | ⟨halive₀, howed⟩
    · rw [if_pos halive₀, hmissed₀, howed]
    · simp [halive₀, howed]

theorem WsClient.paced_pong (heard : List Signal) (hlistening : client.listening = true)
    (hbound : client.session ≠ none) : client.pong.Paced (heard ++ [.pong]) 0 :=
  ⟨fun hnone => absurd hnone hbound, fun _ => Or.inr ⟨by simp, hlistening,
    Or.inl ⟨rfl, rfl, rfl⟩⟩⟩

/-- A pong before the listener leaves the counters as they are. -/
theorem WsClient.Paced.unheard (h : client.Paced heard owed) (hsilent : client.listening = false) :
    client.Paced heard 0 := by
  refine ⟨h.unbound, fun hopen => ?_⟩
  rcases h.counters hopen with hunheard | hheard
  · exact Or.inl ⟨hunheard.silent, hunheard.isAlive, hunheard.missedPongs, Nat.zero_le _⟩
  · rw [hheard.listening] at hsilent
    cases hsilent

/-! ## One step -/

/-- Every socket is paced, by what it heard of and what it owes. -/
structure Pacing (cfg : GatewayConfig) (t₀ : ℤ) (heard : ClientRef → List Signal)
    (owed : ClientRef → ℕ) (p : Pool Gateway Task) : Prop where
  consistent : Consistent cfg t₀ p
  vouching : Vouching (fun _ _ => True) p
  greeted : Greeted p
  paced : ∀ (c : ClientRef) (client : WsClient), p.shared.conn.clients[c]? = some client →
    client.Paced (heard c) (owed c)
  unborn : ∀ c, p.shared.conn.clients.length ≤ c → heard c = [] ∧ owed c = 0

theorem pacing_start (cfg : GatewayConfig) (t₀ : ℤ) :
    Pacing cfg t₀ (fun _ => []) (fun _ => 0) (Gateway.start t₀) where
  consistent := consistent_start cfg t₀
  vouching := vouching_start _ t₀
  greeted := greeted_start t₀
  paced _ _ := nofun
  unborn _ _ := ⟨rfl, rfl⟩

variable {heard : ClientRef → List Signal} {owed : ClientRef → ℕ} {g' : Gateway}
  {threads : List Task}

/-- An active socket is bound. -/
theorem Pacing.active (h : Pacing cfg t₀ heard owed p)
    (hc : c ∈ p.shared.conn.getActiveSockets) :
    ∃ client, p.shared.conn.clients[c]? = some client ∧ client.readyState = .OPEN ∧
      client.session ≠ none := by
  obtain ⟨r, client, hsocket, hclient, hopen⟩ := Connections.mem_getActiveSockets hc
  have hbound := h.vouching.vouched.socket r c hsocket
  rw [Connections.bound, hclient, Option.map_some, Option.some.injEq] at hbound
  exact ⟨client, hclient, hopen, by rw [hbound]; exact Option.some_ne_none r⟩

/-- A stretch in which nothing happens to the pulse of a socket. -/
theorem Pacing.steady (h : Pacing cfg t₀ heard owed p) (hp : Consistent cfg t₀ ⟨g', threads⟩)
    (hv : Vouching (fun _ _ => True) ⟨g', threads⟩) (hs : p.shared.conn.Steady g'.conn)
    (hthreads : ∀ c r, Task.snapshot c r ∈ threads → Task.snapshot c r ∈ p.threads ∨
      c < p.shared.conn.clients.length ∧ g'.conn.IsBound c) :
    Pacing cfg t₀ heard owed ⟨g', threads⟩ where
  consistent := hp
  vouching := hv
  greeted := h.greeted.steady hs hthreads
  paced c client' hclient' := by
    obtain ⟨client, hclient, hsteady⟩ := hs.client c client' hclient'
    exact (h.paced c client hclient).steady hsteady
  unborn c hc := h.unborn c (hs.length ▸ hc)

/-- A stretch that changes each socket by itself, and starts no computation. -/
theorem Pacing.map {heard' : ClientRef → List Signal} {owed' : ClientRef → ℕ}
    (f : ClientRef → WsClient → WsClient) (h : Pacing cfg t₀ heard owed p)
    (hp : Consistent cfg t₀ ⟨g', threads⟩) (hv : Vouching (fun _ _ => True) ⟨g', threads⟩)
    (hclients : ∀ c : ClientRef, g'.conn.clients[c]? = (p.shared.conn.clients[c]?).map (f c))
    (hthreads : ∀ c r, Task.snapshot c r ∈ threads → Task.snapshot c r ∈ p.threads)
    (hf : ∀ c client, (f c client).session = client.session ∧
      (f c client).listening = client.listening)
    (hpaced : ∀ (c : ClientRef) (client : WsClient), p.shared.conn.clients[c]? = some client →
      (f c client).Paced (heard' c) (owed' c))
    (hunborn : ∀ c, p.shared.conn.clients.length ≤ c → heard' c = [] ∧ owed' c = 0) :
    Pacing cfg t₀ heard' owed' ⟨g', threads⟩ := by
  have hback : ∀ (c : ClientRef) (client' : WsClient), g'.conn.clients[c]? = some client' →
      ∃ client, p.shared.conn.clients[c]? = some client ∧ f c client = client' := by
    intro c client' hclient'
    rw [hclients] at hclient'
    exact Option.map_eq_some_iff.1 hclient'
  have hlength : ∀ c, g'.conn.clients.length ≤ c ↔ p.shared.conn.clients.length ≤ c := fun c => by
    rw [← List.getElem?_eq_none_iff, hclients, Option.map_eq_none_iff, List.getElem?_eq_none_iff]
  refine ⟨hp, hv, ⟨fun c client' hclient' hlistening => ?_, fun c r hmem => ?_⟩,
    fun c client' hclient' => ?_, fun c hc => hunborn c ((hlength c).1 hc)⟩
  · obtain ⟨client, hclient, rfl⟩ := hback c client' hclient'
    rw [(hf c client).1]
    exact h.greeted.listening c client hclient ((hf c client).2 ▸ hlistening)
  · obtain ⟨hlt, hbound⟩ := h.greeted.snapshot c r (hthreads c r hmem)
    refine ⟨not_le.1 fun hle => absurd hlt (not_lt.2 ((hlength c).1 hle)),
      fun client' hclient' => ?_⟩
    obtain ⟨client, hclient, rfl⟩ := hback c client' hclient'
    rw [(hf c client).1]
    exact hbound client hclient
  · obtain ⟨client, hclient, rfl⟩ := hback c client' hclient'
    exact hpaced c client hclient

/-- A new socket. -/
theorem Pacing.connect (h : Pacing cfg t₀ heard owed p)
    (hg' : g'.conn = { p.shared.conn with clients := p.shared.conn.clients ++ [{}] })
    (hp : Consistent cfg t₀ ⟨g', threads⟩) (hv : Vouching (fun _ _ => True) ⟨g', threads⟩)
    (hthreads : ∀ c r, Task.snapshot c r ∈ threads → Task.snapshot c r ∈ p.threads) :
    Pacing cfg t₀ heard owed ⟨g', threads⟩ := by
  have hcases : ∀ {c : ClientRef} {client' : WsClient}, g'.conn.clients[c]? = some client' →
      p.shared.conn.clients[c]? = some client' ∨
        c = p.shared.conn.clients.length ∧ client' = {} := by
    intro c client' hclient'
    rw [hg', List.getElem?_append] at hclient'
    split_ifs at hclient' with hlt
    · exact Or.inl hclient'
    · rw [List.getElem?_singleton] at hclient'
      split_ifs at hclient' with hzero
      exact Or.inr ⟨Nat.le_antisymm (Nat.sub_eq_zero_iff_le.1 hzero) (Nat.not_lt.1 hlt),
        (Option.some.inj hclient').symm⟩
  have hlength : g'.conn.clients.length = p.shared.conn.clients.length + 1 := by simp [hg']
  refine ⟨hp, hv, ⟨fun c client' hclient' hlistening => ?_, fun c r hmem => ?_⟩,
    fun c client' hclient' => ?_, fun c hc => h.unborn c (by dsimp only at hc; omega)⟩
  · rcases hcases hclient' with hold | ⟨-, rfl⟩
    · exact h.greeted.listening c client' hold hlistening
    · cases hlistening
  · obtain ⟨hlt, hbound⟩ := h.greeted.snapshot c r (hthreads c r hmem)
    refine ⟨by dsimp only; omega, fun client' hclient' => ?_⟩
    rcases hcases hclient' with hold | ⟨rfl, -⟩
    · exact hbound client' hold
    · exact absurd hlt (lt_irrefl _)
  · rcases hcases hclient' with hold | ⟨rfl, rfl⟩
    · exact h.paced c client' hold
    · obtain ⟨hheard, howed⟩ := h.unborn _ le_rfl
      rw [hheard, howed]
      exact .fresh

/-- An answer to a computation. -/
theorem Pacing.resume {i : ℕ} {a : GatewayAnswer} (h : Pacing cfg t₀ heard owed p)
    (hst : (gatewayProgram cfg).step p (.resume i a) = some p') : Pacing cfg t₀ heard owed p' := by
  have hp' := h.consistent.step hst
  have hv' := vouching_step h.consistent h.vouching (fun _ _ _ _ _ => trivial) hst
  obtain ⟨_, _, _, ⟨⟩, _⟩ | ⟨j, answer, t, g', t', new, heq, ht, hr, rfl⟩ := Program.step_cases hst
  cases heq
  have hr : p.shared.onAnswer cfg t a = some (g', t', new) := hr
  have hwaiting : ∀ {c}, t.waiting = some c → p.shared.conn.bound c = some none := fun hc =>
    h.vouching.unbound _ (List.mem_filterMap.2 ⟨t, List.mem_of_getElem? ht, hc⟩)
  have hsnapshot : ∀ c r, Task.snapshot c r ∈ p.threads.set i t' ++ new →
      Task.snapshot c r ∈ p.threads ∨
        ∃ auth, t = .authenticate c ∧ p.shared.connected c auth = (g', t', new) := by
    intro c r hmem
    rcases List.mem_append.1 hmem with hmem | hmem
    · rcases List.mem_or_eq_of_mem_set hmem with hmem | heq
      · exact Or.inl hmem
      · exact Or.inr (snapshot_of_answer h.consistent ht hr (Or.inl heq))
    · exact Or.inr (snapshot_of_answer h.consistent ht hr (Or.inr hmem))
  by_cases hlimit : a = .rateLimit (.ok ())
  · subst hlimit
    cases t with
    | rateLimit c =>
      cases hr
      have hnone := hwaiting rfl
      refine h.map (fun c' client => if c' = c then
          { client with isAlive := false, missedPongs := 0, isResume := false } else client)
        hp' hv' (fun c' => Connections.clients_updateClient ..) (fun c' r hmem => ?_)
        (fun c' client => ?_) (fun c' client hclient => ?_) h.unborn
      · rcases hsnapshot c' r hmem with hold | ⟨_, ⟨⟩, _⟩
        exact hold
      · split_ifs <;> exact ⟨rfl, rfl⟩
      · split_ifs with heq
        · subst heq
          rw [Connections.bound, hclient, Option.map_some, Option.some.injEq] at hnone
          exact (h.paced c' client hclient).reset hnone
        · exact h.paced c' client hclient
    | _ => cases hr
  · have hs : p.shared.conn.Steady g'.conn := by
      refine onAnswer_steady (fun c r heq => ?_) hr hlimit
      subst heq
      exact (h.greeted.snapshot c r (List.mem_of_getElem? ht)).2
    refine h.steady hp' hv' hs fun c r hmem => ?_
    rcases hsnapshot c r hmem with hold | ⟨auth, rfl, hconnected⟩
    · exact Or.inl hold
    · obtain ⟨client, hclient, -⟩ := Option.map_eq_some_iff.1 (hwaiting (c := c) rfl)
      have hbound := (connected_steady p.shared c auth).2
      rw [hconnected] at hbound
      exact Or.inr ⟨(List.getElem?_eq_some_iff.1 hclient).1, hbound⟩

/-- An event other than a tick of the heartbeat and a pong. -/
theorem Pacing.event {e : GatewayEvent} (h : Pacing cfg t₀ heard owed p)
    (hbeat : e ≠ .heartbeat) (hpong : ∀ c, e ≠ .pong c)
    (hst : (gatewayProgram cfg).step p (.event e) = some p') : Pacing cfg t₀ heard owed p' := by
  have hp' := h.consistent.step hst
  have hv' := vouching_step h.consistent h.vouching (fun _ _ _ _ _ => trivial) hst
  obtain ⟨e', g', new, heq, he, rfl⟩ | ⟨_, _, _, _, _, _, ⟨⟩, _⟩ := Program.step_cases hst
  cases heq
  have hsnapshot : ∀ c r, Task.snapshot c r ∈ p.threads ++ new → Task.snapshot c r ∈ p.threads :=
    fun c r hmem => (List.mem_append.1 hmem).resolve_right
      (snapshot_of_event h.consistent he c r)
  by_cases hconnect : e = .connect
  · subst hconnect
    cases he
    exact h.connect rfl hp' hv' hsnapshot
  · exact h.steady hp' hv' (onEvent_steady h.consistent.1.conn he hconnect hbeat hpong)
      fun c r hmem => Or.inl (hsnapshot c r hmem)

/-- **A step keeps the sockets paced.** -/
theorem Pacing.step (h : Pacing cfg t₀ heard owed p) (hst : beatStep cfg p b = some p') :
    Pacing cfg t₀ (fun c => heard c ++ signals c p b p')
      (fun c => (exchanges c p b p').foldl Exchange.count (owed c)) p' := by
  cases b with
  | unheard c =>
    simp only [beatStep] at hst
    split at hst
    · cases hst
    · rename_i client hclient
      split_ifs at hst with hsilent
      cases hst
      simp only [signals, exchanges, List.append_nil]
      refine ⟨h.consistent, h.vouching, h.greeted, fun c' client' hclient' => ?_, fun c' hc' => ?_⟩
      · split_ifs with heq
        · subst heq
          rw [hclient] at hclient'
          cases hclient'
          exact (h.paced c client hclient).unheard hsilent.1
        · exact h.paced c' client' hclient'
      · obtain ⟨hheard, howed⟩ := h.unborn c' hc'
        refine ⟨hheard, ?_⟩
        split_ifs
        · rfl
        · exact howed
  | act a =>
    have hst : (gatewayProgram cfg).step p a = some p' := hst
    cases a with
    | resume i answer => simpa [signals, exchanges] using h.resume hst
    | event e =>
      cases e with
      | heartbeat =>
        have hp' := h.consistent.step hst
        have hv' := vouching_step h.consistent h.vouching (fun _ _ _ _ _ => trivial) hst
        cases hst
        refine h.map (fun c client => if c ∈ p.shared.conn.getActiveSockets then
            (client.tick cfg.WS_MAX_MISSED_PONGS).1 else client) hp' hv'
          (heartbeat_socket h.vouching.vouched h.consistent.1.conn)
          (fun c r hmem => by simpa using hmem) (fun c client => ?_) (fun c client hclient => ?_)
          fun c hc => ?_
        · split_ifs
          · exact client.tick_session _
          · exact ⟨rfl, rfl⟩
        · simp only [signals, exchanges]
          rw [heartbeat_pings h.vouching.vouched h.consistent.1.conn, hclient, Option.any_some]
          by_cases hactive : c ∈ p.shared.conn.getActiveSockets
          · obtain ⟨client', hclient', -, hbound⟩ := h.active hactive
            rw [hclient] at hclient'
            cases hclient'
            simpa only [hactive, if_true, true_and] using (h.paced c client hclient).tick hbound
          · simpa [hactive] using h.paced c client hclient
        · obtain ⟨hheard, howed⟩ := h.unborn c hc
          have hnone : p.shared.conn.clients[c]? = none := List.getElem?_eq_none hc
          have hidle : c ∉ p.shared.conn.getActiveSockets := by
            intro hactive
            obtain ⟨client, hclient, -⟩ := h.active hactive
            rw [hnone] at hclient
            cases hclient
          simp only [signals, exchanges]
          rw [heartbeat_pings h.vouching.vouched h.consistent.1.conn, hnone, if_neg hidle]
          simp [hheard, howed]
      | pong c =>
        have hp' := h.consistent.step hst
        have hv' := vouching_step h.consistent h.vouching (fun _ _ _ _ _ => trivial) hst
        obtain ⟨e', g', new, heq, he, rfl⟩ | ⟨_, _, _, _, _, _, ⟨⟩, _⟩ := Program.step_cases hst
        cases heq
        have hpong : p.shared.onEvent cfg (.pong c) = some (g', new) := he
        obtain ⟨rfl, ⟨client, hclient, hlistening⟩, hclients⟩ := onEvent_pong hpong
        have hbound := h.greeted.listening c client hclient hlistening
        simp only [signals, exchanges]
        refine h.map (fun c' client => if c' = c then client.pong else client) hp' hv' hclients
          (fun c r hmem => by simpa using hmem) (fun c' client => ?_)
          (fun c' client' hclient' => ?_) fun c' hc' => ?_
        · split_ifs <;> exact ⟨rfl, rfl⟩
        · by_cases heq : c' = c
          · subst heq
            rw [hclient] at hclient'
            cases hclient'
            simpa [Exchange.count] using WsClient.paced_pong (heard c') hlistening hbound
          · simpa [heq, Ne.symm heq] using h.paced c' client' hclient'
        · have hne : c ≠ c' := by
            rintro rfl
            rw [List.getElem?_eq_none hc'] at hclient
            cases hclient
          simpa [hne] using h.unborn c' hc'
      | _ => simpa [signals, exchanges] using h.event (by rintro ⟨⟩) (by rintro _ ⟨⟩) hst

/-! ## Runs -/

/-- What the socket `c` heard of in a run, and the pings that it owes at its end. -/
theorem pacing_run (h : Run (beatStep cfg) anyStep (Gateway.start t₀) bs p) :
    Pacing cfg t₀ (fun c => observed (beatStep cfg) (signals c) (Gateway.start t₀) bs)
      (fun c => unanswered (observed (beatStep cfg) (exchanges c) (Gateway.start t₀) bs)) p := by
  induction h with
  | nil => exact pacing_start cfg t₀
  | @snoc bs p b p' hrun _ hst ih =>
    simp only [hrun.observed_concat _ hst, unanswered, List.foldl_append]
    exact ih.step hst

/-- A tick closes the socket that it finds, if the pong has been missed too often. -/
theorem Pacing.tick_closing_iff (h : Pacing cfg t₀ heard owed p)
    (hst : beatStep cfg p (.act (.event .heartbeat)) = some p')
    (hactive : c ∈ p.shared.conn.getActiveSockets) :
    ∃ client : WsClient, (client.Unheard (heard c) (owed c) ∨ client.Heard (heard c) (owed c)) ∧
      ((p'.shared.conn.clients[c]?).map (·.readyState) = some .CLOSING ↔
        client.isAlive = false ∧ cfg.WS_MAX_MISSED_PONGS ≤ client.missedPongs + 1) := by
  obtain ⟨client, hclient, hopen, -⟩ := h.active hactive
  have hafter : (p.shared.heartbeat cfg).conn.clients[c]? = _ :=
    heartbeat_socket h.vouching.vouched h.consistent.1.conn c
  cases hst
  refine ⟨client, (h.paced c client hclient).counters hopen, ?_⟩
  rw [hafter, hclient, Option.map_some,
    Option.map_some, if_pos hactive, Option.some.injEq]
  exact WsClient.tick_closing_iff hopen

theorem signals_heartbeat : .tick ∈ signals c p b p' →
    b = .act (.event .heartbeat) ∧ c ∈ p.shared.conn.getActiveSockets := by
  intro h
  unfold signals at h
  split at h
  · split_ifs at h with hactive
    · exact ⟨rfl, hactive⟩
    · cases h
  · split_ifs at h <;> simp at h
  · cases h

theorem signals_length_le (c : ClientRef) (p : Pool Gateway Task) (b : Beat)
    (p' : Pool Gateway Task) : signals c p b p' = [] ∨ ∃ x, signals c p b p' = [x] := by
  unfold signals
  split
  · split_ifs
    · exact Or.inr ⟨_, rfl⟩
    · exact Or.inl rfl
  · split_ifs
    · exact Or.inr ⟨_, rfl⟩
    · exact Or.inl rfl
  · exact Or.inl rfl

theorem Patient.mono {as : List Beat} (h : Patient cfg t₀ c bs) (hinit : as <+: bs) :
    Patient cfg t₀ c as := fun before p p' hbefore =>
  h before p p' (hbefore.trans hinit)

/-- A socket whose first signals are `WS_MAX_MISSED_PONGS` ticks is closed by the last of them,
    and owes one ping less. -/
theorem not_patient_of_ticks (hmax : 1 ≤ cfg.WS_MAX_MISSED_PONGS)
    (h : Run (beatStep cfg) anyStep (Gateway.start t₀) bs p)
    (hticks : List.replicate cfg.WS_MAX_MISSED_PONGS .tick <+:
      observed (beatStep cfg) (signals c) (Gateway.start t₀) bs) : ¬ Patient cfg t₀ c bs := by
  induction h with
  | nil =>
    obtain ⟨n, hn⟩ := Nat.exists_eq_add_of_le' hmax
    rw [hn] at hticks
    cases List.prefix_nil.1 hticks
  | @snoc bs p b p' hrun _ hst ih =>
    intro hpatient
    have hbefore := hpatient.mono (List.prefix_append bs [b])
    rw [hrun.observed_concat _ hst] at hticks
    rcases signals_length_le c p b p' with hnone | ⟨x, hx⟩
    · rw [hnone, List.append_nil] at hticks
      exact ih hticks hbefore
    · rw [hx] at hticks
      rcases List.prefix_concat_iff.1 hticks with hall | hinit
      · obtain ⟨n, hn⟩ := Nat.exists_eq_add_of_le' hmax
        rw [hn, List.replicate_succ'] at hall
        obtain ⟨hheard, hlast⟩ := List.append_inj' hall rfl
        cases hlast
        obtain ⟨rfl, hactive⟩ := signals_heartbeat (by rw [hx]; exact List.mem_singleton_self _)
        obtain ⟨client, hcounters, hcloses⟩ := (pacing_run hrun).tick_closing_iff hst hactive
        have hpaced := hpatient bs p p' (List.prefix_refl _) hrun hst hactive
        rw [hcloses] at hpaced
        rw [← hheard] at hcounters
        rcases hcounters with hunheard | hheard
        · have howed := hunheard.owed
          have hmissed := hunheard.missedPongs
          rw [List.length_replicate] at howed hmissed
          have hclosed := hpaced.1 ⟨hunheard.isAlive, by omega⟩
          omega
        · have hpong := hheard.pong
          simp at hpong
      · exact ih hinit hbefore

/-- **When the heartbeat is patient.**  It is so with a socket, in a run, iff what the socket hears
    of does not begin with `WS_MAX_MISSED_PONGS` ticks: a pong comes before the last of them, and
    it comes when the listener is attached. -/
theorem patient_iff (hmax : 1 ≤ cfg.WS_MAX_MISSED_PONGS)
    (h : Run (beatStep cfg) anyStep (Gateway.start t₀) bs p) (c : ClientRef) :
    Patient cfg t₀ c bs ↔ ¬ List.replicate cfg.WS_MAX_MISSED_PONGS .tick <+:
      observed (beatStep cfg) (signals c) (Gateway.start t₀) bs := by
  refine ⟨fun hpatient hticks => not_patient_of_ticks hmax h hticks hpatient, ?_⟩
  intro hticks before q q' hbefore hq hst hactive
  obtain ⟨client, hcounters, hcloses⟩ := (pacing_run hq).tick_closing_iff hst hactive
  rw [hcloses]
  rcases hcounters with hunheard | hheard
  · obtain ⟨rest, rfl⟩ := hbefore
    have hall : observed (beatStep cfg) (signals c) (Gateway.start t₀) before =
        List.replicate client.missedPongs .tick := by
      refine List.eq_replicate_iff.2 ⟨hunheard.missedPongs.symm, fun x hx => ?_⟩
      cases x with
      | tick => rfl
      | pong => exact absurd hx hunheard.silent
    -- the tick is heard of after these
    have hlonger : List.replicate (client.missedPongs + 1) .tick <+:
        observed (beatStep cfg) (signals c) (Gateway.start t₀)
          (before ++ [.act (.event .heartbeat)] ++ rest) := by
      have hrun : Run (beatStep cfg) anyStep (Gateway.start t₀)
          (before ++ [.act (.event .heartbeat)]) q' := hq.snoc trivial hst
      have htick : signals c q (.act (.event .heartbeat)) q' = [.tick] := if_pos hactive
      rw [observed_append _ _ hrun.exec, hq.observed_concat _ hst, hall, htick,
        ← List.replicate_succ']
      exact List.prefix_append _ _
    have hfew : client.missedPongs + 1 < cfg.WS_MAX_MISSED_PONGS := by
      by_contra hle
      refine hticks (List.IsPrefix.trans ?_ hlonger)
      rw [List.prefix_replicate_iff]
      exact ⟨by simpa using hle, by simp⟩
    have howed := hunheard.owed
    rw [← hunheard.missedPongs] at howed
    simp only [hunheard.isAlive, true_and]
    omega
  · rcases hheard.counters with ⟨halive, -, howed⟩ | ⟨halive, howed⟩
    · rw [howed]
      simp only [halive, Bool.true_eq_false, false_and, false_iff]
      omega
    · simp [halive, howed]

end

/-- A device connects. -/
def scannerEnters : List Beat :=
  [.act (.event .connect), .act (.resume 0 (.rateLimit (.ok ()))),
    .act (.resume 0 (.authenticated (.ok scanner)))]

/-- It answers the first ping before the second tick, and misses the next two. -/
def scannerAnswers : List Beat :=
  scannerEnters ++ [.act (.event .heartbeat), .act (.event (.pong 0)), .act (.event .heartbeat),
    .act (.event .heartbeat), .act (.event .heartbeat)]

theorem patient_scannerAnswers : Patient .defaults 0 0 scannerAnswers := by
  have hruns : (exec (beatStep .defaults) (Gateway.start 0) scannerAnswers).isSome = true := by
    decide +kernel
  obtain ⟨p, hp⟩ := Option.isSome_iff_exists.1 hruns
  exact (patient_iff (by decide) (run_of_exec hp) 0).2 (by decide +kernel)

/-- One missed pong is allowed. -/
def oneMissedPong : GatewayConfig := { GatewayConfig.defaults with WS_MAX_MISSED_PONGS := 1 }

/-- The first tick closes the socket of the device, which no ping was sent to. -/
theorem first_tick_closes : ∃ p p',
    Run (beatStep oneMissedPong) anyStep (Gateway.start 0) scannerEnters p ∧
      beatStep oneMissedPong p (.act (.event .heartbeat)) = some p' ∧
      0 ∈ p.shared.conn.getActiveSockets ∧
      (p'.shared.conn.clients[0]?).map (·.readyState) = some .CLOSING ∧
      unanswered (observed (beatStep oneMissedPong) (exchanges 0) (Gateway.start 0)
        scannerEnters) = 0 ∧
      ¬ Patient oneMissedPong 0 0 (scannerEnters ++ [.act (.event .heartbeat)]) := by
  have hruns : ((exec (beatStep oneMissedPong) (Gateway.start 0) scannerEnters).any fun p =>
      (0 ∈ p.shared.conn.getActiveSockets : Bool) &&
        (beatStep oneMissedPong p (.act (.event .heartbeat))).any fun p' =>
          (p'.shared.conn.clients[0]?).map (·.readyState) = some .CLOSING) = true := by
    decide +kernel
  simp only [Option.any_eq_true, Bool.and_eq_true, decide_eq_true_eq] at hruns
  obtain ⟨p, hp, hactive, p', hp', hclosing⟩ := hruns
  have howed : unanswered (observed (beatStep oneMissedPong) (exchanges 0) (Gateway.start 0)
      scannerEnters) = 0 := by decide +kernel
  refine ⟨p, p', run_of_exec hp, hp', hactive, hclosing, howed, fun hpatient => ?_⟩
  have hfew := (hpatient scannerEnters p p' (List.prefix_refl _) (run_of_exec hp) hp' hactive).1
    hclosing
  rw [howed] at hfew
  exact absurd hfew (by decide)

/-- A browser that watches the devices. -/
def dashboard : Authenticated where
  id_enduser := 12
  auth := .browser { adminUser with role := "dashboard" }
  product := none
  type := .browser
  issued := rfl

/-- The browser waits for its devices when it answers its first ping; the second tick closes it,
    and it owes no ping. -/
example :
    let bs : List Beat := [.act (.event .connect), .act (.resume 0 (.rateLimit (.ok ()))),
      .act (.resume 0 (.authenticated (.ok dashboard))), .act (.event .heartbeat), .unheard 0]
    ((exec (beatStep .defaults) (Gateway.start 0) (bs ++ [.act (.event .heartbeat)])).bind
        fun p => (p.shared.conn.clients[0]?).map (·.readyState)) = some .CLOSING ∧
      unanswered (observed (beatStep .defaults) (exchanges 0) (Gateway.start 0) bs) = 0 := by
  decide +kernel

end GatewayRealtime
