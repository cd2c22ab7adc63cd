/-
  A refresh that fails (`AuthService.refresh`): the writes of its repository calls are not undone.

  * `RevokedAt`: a row of `refresh_tokens` is revoked; it stays so.
  * `refresh_failure_iff`: for which failing steps the table is as it was before the call.
-/
import GatewayRealtime.Auth

namespace GatewayRealtime

/-- Row `i` of `refresh_tokens` is revoked. -/
def RevokedAt (db : Database) (i : ℕ) : Prop :=
  ∃ r, db.refresh_tokens[i]? = some r ∧ r.revoked = true

/-- The row that a token is found in names no client. -/
def ClientMissing (db : Database) (token : String) (now : ℤ) : Prop :=
  ∀ r ∈ db.findLiveToken token now, ∀ client ∈ db.client, client.id ≠ r.client

/-- What throws is a step before the update in `revoke`, or that update: the repository calls of
    a refresh begin with the lookup in `validate` and that update. -/
def FailsUnrevoked (db : Database) (token : String) (a : AuthAnswer) (answers : List AuthAnswer) :
    Prop :=
  a.rejects.isSome = true ∨ ClientMissing db token a.now ∨
    ∃ a' ∈ answers.head?, a'.rejects.isSome = true

section
variable {cfg : AuthConfig} {db db' : Database} {a : AuthAnswer} {call call' : AuthCall} {i : ℕ}
  {token : String}

/-! ## Rows stay revoked -/

theorem RevokedAt.revokeWhere (h : RevokedAt db i) (p : RefreshTokenEntity → Bool) :
    RevokedAt (db.revokeWhere p) i := by
  obtain ⟨r, hr, hrevoked⟩ := h
  refine ⟨if p r then { r with revoked := true } else r, ?_, ?_⟩
  · simp [Database.revokeWhere, hr]
  · split_ifs
    · rfl
    · exact hrevoked

theorem RevokedAt.saveToken (h : RevokedAt db i) (row : RefreshTokenEntity) :
    RevokedAt (db.saveToken row) i := by
  obtain ⟨r, hr, hrevoked⟩ := h
  refine ⟨r, ?_, hrevoked⟩
  rw [Database.saveToken, List.getElem?_append_left (List.getElem?_eq_some_iff.1 hr).1, hr]

/-- A repository call does not take a revocation back. -/
theorem AuthEdge.revokedAt (h : AuthEdge cfg db a call db' call') (hi : RevokedAt db i) :
    RevokedAt db' i := by
  cases h with
  | revoke => exact hi.revokeWhere _
  | logout => exact hi.revokeWhere _
  | revokeAll => exact hi.revokeWhere _
  | revokeAllUpdate => exact hi.revokeWhere _
  | save => exact hi.saveToken _
  | _ => exact hi

/-- Nor does the rest of a call. -/
theorem alone_revokedAt (cfg : AuthConfig) (answers : List AuthAnswer) (call : AuthCall)
    (h : RevokedAt db i) : RevokedAt (alone cfg answers db call).1 i :=
  alone_inv (I := fun db _ => RevokedAt db i)
    (fun a db call hi => (authStep_edge cfg db a call).revokedAt hi) answers h

/-- The update in `revoke` revokes the row that the token was found in. -/
theorem revokedAt_revokeToken {now : ℤ} (h : (db.findLiveToken token now).isSome = true) :
    ∃ i r, db.refresh_tokens[i]? = some r ∧ r.revoked = false ∧
      RevokedAt (db.revokeToken token) i := by
  obtain ⟨r, hr⟩ := Option.isSome_iff_exists.1 h
  have hfound := List.find?_some hr
  simp only [decide_eq_true_eq] at hfound
  obtain ⟨i, hi⟩ := List.mem_iff_getElem?.1 (List.mem_of_find?_eq_some hr)
  refine ⟨i, r, hi, hfound.2.1, { r with revoked := true }, ?_, rfl⟩
  simp [Database.revokeToken, Database.revokeWhere, hi, hfound.1]

/-! ## Refresh -/

/-- A repository call that rejects changes nothing. -/
theorem alone_rejects (answers : List AuthAnswer) {f : Failure} (hcall : ∀ r, call ≠ .done r)
    (h : a.rejects = some f) : (alone cfg (a :: answers) db call).1 = db := by
  rw [alone_cons a answers hcall]
  simp [authStep, h]

/-- The lookup in `validate`, if it is answered. -/
theorem authStep_validate (cfg : AuthConfig)
    (hvalid : (db.findLiveToken token a.now).isSome = true)
    (hrejects : a.rejects = none) :
    (∃ f, authStep cfg db a (.validate token) = (db, .done (.error f)) ∧
      ClientMissing db token a.now) ∨
    (∃ clientId role, authStep cfg db a (.validate token) = (db, .revoke token clientId role) ∧
      ¬ ClientMissing db token a.now) := by
  obtain ⟨r, hr⟩ := Option.isSome_iff_exists.1 hvalid
  unfold ClientMissing
  cases hclient : db.client.find? (·.id = r.client) with
  | none =>
    refine Or.inl ⟨typeError "client_id", by simp [authStep, hrejects, authRun, hr, hclient], ?_⟩
    intro r' hr' client hmem
    obtain rfl : r = r' := Option.some.inj (hr.symm.trans hr')
    simpa using List.find?_eq_none.1 hclient client hmem
  | some client =>
    refine Or.inr ⟨client.client_id, r.role, by simp [authStep, hrejects, authRun, hr, hclient],
      fun hmissing => ?_⟩
    have hid := List.find?_some hclient
    exact hmissing r hr client (List.mem_of_find?_eq_some hclient) (by simpa using hid)

/-- **Which failures leave the table alone.**  A refresh of a valid token that fails leaves
    `refresh_tokens` as it was iff what throws is a step before the update in `revoke`, or that
    update. -/
theorem refresh_failure_iff (cfg : AuthConfig) {answers : List AuthAnswer} {f : Failure}
    (hvalid : (db.findLiveToken token a.now).isSome = true)
    (hfails : alone cfg (a :: answers) db (.validate token) = (db', .done (.error f))) :
    db'.refresh_tokens = db.refresh_tokens ↔ FailsUnrevoked db token a answers := by
  obtain rfl : db' = (alone cfg (a :: answers) db (.validate token)).1 := by rw [hfails]
  have hcall : ∀ r, AuthCall.validate token ≠ .done r := fun r h => by cases h
  unfold FailsUnrevoked
  cases hrejects : a.rejects with
  | some g => simp [alone_rejects answers hcall hrejects]
  | none =>
    rw [alone_cons a answers hcall] at hfails ⊢
    rcases authStep_validate cfg hvalid hrejects with
      ⟨g, hstep, hmissing⟩ | ⟨clientId, role, hstep, hthere⟩
    · simp [hstep, hmissing]
    · rw [hstep] at hfails ⊢
      simp only [Option.isSome_none, Bool.false_eq_true, hthere, false_or]
      have hcall' : ∀ r, AuthCall.revoke token clientId role ≠ .done r := fun r h => by cases h
      cases answers with
      | nil => simp [alone] at hfails
      | cons a' answers =>
        simp only [List.head?_cons, Option.mem_def, Option.some.injEq, exists_eq_left']
        cases hrejects' : a'.rejects with
        | some g => simp [alone_rejects answers hcall' hrejects']
        | none =>
          simp only [Option.isSome_none, Bool.false_eq_true, iff_false]
          intro hsame
          obtain ⟨i, r, hr, hlive, hrevoked⟩ := revokedAt_revokeToken hvalid
          have hstep' : (authStep cfg db a' (.revoke token clientId role)).1 =
              db.revokeToken token := by simp [authStep, hrejects', authRun]
          rw [alone_cons a' answers hcall'] at hsame
          -- the row is revoked from here on
          obtain ⟨r', hr', hrevoked'⟩ := alone_revokedAt cfg answers
            (authStep cfg db a' (.revoke token clientId role)).2 (hstep' ▸ hrevoked)
          rw [hsame, hr] at hr'
          cases hr'
          rw [hlive] at hrevoked'
          cases hrevoked'

end

/-- The update in `revoke` throws. -/
theorem refresh_failure_iff_revoke :
    (alone {} [{ now := 10 }, { rejects := some (.internal "Connection lost") }] oneToken
        (.validate "r")).1.refresh_tokens = oneToken.refresh_tokens ↔
      FailsUnrevoked oneToken "r" { now := 10 }
        [{ rejects := some (.internal "Connection lost") }] :=
  refresh_failure_iff {} (by decide) rfl

/-- The lookup of the client throws, after the token is revoked: it is lost. -/
theorem failed_refresh_revokes :
    (oneToken.findLiveToken "r" 10).isSome = true ∧
      alone {} [{ now := 10 }, {}, { rejects := some (.internal "Connection lost") }] oneToken
          (.validate "r") =
        ({ oneToken with refresh_tokens := [⟨"r", 1, "admin", 1000, true⟩] },
          .done (.error (.internal "Connection lost"))) ∧
      (alone {} [{ now := 10 }, {}, { rejects := some (.internal "Connection lost") }] oneToken
          (.validate "r")).1.refresh_tokens ≠ oneToken.refresh_tokens := by
  decide

end GatewayRealtime
