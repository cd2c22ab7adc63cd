/-
  What a device signs (`strategies/hmac-auth.strategy.ts`): `deviceId + timestamp + clientId`, with
  nothing between the fields.

  * `Presented`: a token, with fields of any type, that passes the checks.
  * `SpeaksForOne`: of two tokens for devices of a key, a signature fits one at most.
  * `Database.SignsWith`, `Fresh`: the devices that sign with a key, and the timestamps that pass.
  * `SplitsOnce`: the same of tokens that name their ids by texts, up to the type of the timestamp.
  * `Absorbs`, `Encloses`, `Shifts`: a timestamp stays fresh when parts of ids are put around it.
  * `speaksForOne_iff`: which devices may share a key.
  * `numbers_share`: devices that are named by numbers may not.
-/
import GatewayRealtime.Auth

namespace GatewayRealtime

/-- The text of a timestamp passes the check of the instant. -/
def Fresh (now : ℤ) (timestamp : String) : Prop := hmacExpired now timestamp = false

/-- The device of a tenant, both named by a text, signs with the key. -/
structure Database.SignsWith (db : Database) (ord : RowOrder) (key clientId deviceId : String) :
    Prop where
  client_ne : clientId ≠ ""
  device_ne : deviceId ≠ ""
  device : ∃ device, db.getAuthDevice ord clientId deviceId = .ok device ∧ device.key_device = key

/-- A parsed token, for a device of the key, passes the checks.  Its fields need not be texts;
    `timestamp` is the text that `parseInt` reads. -/
structure Presented (env : AuthEnv) (db : Database) (ord : RowOrder) (now : ℤ) (key : String)
    (v : JsVal) (fields : FormatHMAC) (timestamp : String) : Prop where
  checked : hmacFields v = some fields
  text : env.toText fields.timestamp = some timestamp
  fresh : Fresh now timestamp
  device : ∃ device, db.getAuthDevice ord (env.columnId fields.clientId)
    (env.columnId fields.deviceId) = .ok device ∧ device.key_device = key

/-- **A signature speaks for one device.**  If the same text is signed for two tokens of a key, they
    have the same fields. -/
def SpeaksForOne (env : AuthEnv) (db : Database) (ord : RowOrder) (now : ℤ) (key : String) : Prop :=
  ∀ v₁ fields₁ t₁ v₂ fields₂ t₂ text, Presented env db ord now key v₁ fields₁ t₁ →
    Presented env db ord now key v₂ fields₂ t₂ → env.message fields₁ = some (.text text) →
      env.message fields₂ = some (.text text) → fields₁.deviceId = fields₂.deviceId ∧
        fields₁.timestamp = fields₂.timestamp ∧ fields₁.clientId = fields₂.clientId

/-- Such a token names the device and the tenant by texts, as the guide has it. -/
structure PresentedFor (env : AuthEnv) (db : Database) (ord : RowOrder) (now : ℤ) (key : String)
    (v : JsVal) (fields : FormatHMAC) (clientId timestamp deviceId : String) : Prop extends
    Presented env db ord now key v fields timestamp where
  clientId : fields.clientId = .str clientId
  deviceId : fields.deviceId = .str deviceId

/-- If the same text is signed for two tokens of a key that name their ids by texts, these are the
    same, and so are the texts of the timestamps, be they numbers or not. -/
def SplitsOnce (env : AuthEnv) (db : Database) (ord : RowOrder) (now : ℤ) (key : String) : Prop :=
  ∀ v₁ fields₁ c₁ t₁ d₁ v₂ fields₂ c₂ t₂ d₂, PresentedFor env db ord now key v₁ fields₁ c₁ t₁ d₁ →
    PresentedFor env db ord now key v₂ fields₂ c₂ t₂ d₂ →
      env.message fields₁ = env.message fields₂ → d₁ = d₂ ∧ t₁ = t₂ ∧ c₁ = c₂

/-! ## Ids that run into timestamps -/

/-- Some timestamp is fresh both as it is and behind `x`. -/
def Absorbs (now : ℤ) (x : String) : Prop := ∃ t, Fresh now t ∧ Fresh now (x ++ t)

/-- Some timestamp is fresh both as it is and between `x` and `y`. -/
def Encloses (now : ℤ) (x y : String) : Prop := ∃ t, Fresh now t ∧ Fresh now (x ++ (t ++ y))

/-- Some text is a fresh timestamp in front of `y`, and a fresh timestamp behind `x`. -/
def Shifts (now : ℤ) (x y : String) : Prop :=
  ∃ t t', Fresh now t ∧ Fresh now t' ∧ t ++ y = x ++ t'

/-- The devices of a key can be told apart.  No device has the id of another one of its tenant with
    a text behind it that a timestamp absorbs; and where the id of a tenant ends with the id of
    another tenant that shares the key, no timestamp bridges what the ids of their devices add. -/
structure Database.Separated (db : Database) (ord : RowOrder) (now : ℤ) (key : String) : Prop where
  within : ∀ c d x, db.SignsWith ord key c d → db.SignsWith ord key c (d ++ x) → x ≠ "" →
    ¬ Absorbs now x
  enclosed : ∀ c d x y, db.SignsWith ord key c d → db.SignsWith ord key (y ++ c) (d ++ x) → y ≠ "" →
    ¬ Encloses now x y
  shifted : ∀ c d x y, db.SignsWith ord key (y ++ c) d → db.SignsWith ord key c (d ++ x) → y ≠ "" →
    ¬ Shifts now x y

section
variable {env : AuthEnv} {db : Database} {ord : RowOrder} {now : ℤ} {key : String} {v : JsVal}
  {fields : FormatHMAC} {c t d c₁ t₁ d₁ c₂ t₂ d₂ x : String}

/-! ## The text that is signed -/

/-- The operand that a value is has the text of the value. -/
theorem toPrimitive_text (number : ℚ → String) (v : JsVal) :
    (v.toPrimitive number).map JsPrimitive.toText = v.toText number := by
  cases v with
  | arr items => simp [JsVal.toPrimitive, Function.comp_def, JsPrimitive.toText]
  | obj fields => simp [JsVal.toPrimitive, Function.comp_def, JsPrimitive.toText]
  | _ => simp [JsVal.toPrimitive, JsVal.toText, JsPrimitive.toText, JsNumber.toText]

theorem text_add (number : ℚ → String) (s : String) (x : JsPrimitive) :
    (JsPrimitive.text s).add number x = .text (s ++ x.toText) := by
  cases x <;> rfl

theorem PresentedFor.message (h : PresentedFor env db ord now key v fields c t d) :
    env.message fields = some (.text (d ++ (t ++ c))) := by
  have htext := h.text
  rw [AuthEnv.toText, ← toPrimitive_text] at htext
  obtain ⟨x, hx, rfl⟩ := Option.map_eq_some_iff.1 htext
  rw [AuthEnv.message, h.clientId, h.deviceId, hx]
  simp only [JsVal.toPrimitive, JsVal.toText, Option.map_some, Option.bind_some, text_add,
    JsPrimitive.toText, String.append_assoc]

/-- Of two ways to write one text, one starts with a longer id. -/
theorem append_eq_append {a b a' b' : String} (h : a ++ b = a' ++ b') :
    (∃ x, a' = a ++ x ∧ b = x ++ b') ∨ ∃ x, a = a' ++ x ∧ b' = x ++ b := by
  have hlist : a.toList ++ b.toList = a'.toList ++ b'.toList := by
    rw [← String.toList_append, ← String.toList_append, h]
  refine (List.append_eq_append_iff.1 hlist).imp ?_ ?_ <;>
  · rintro ⟨l, h₁, h₂⟩
    refine ⟨String.ofList l, String.ext ?_, String.ext ?_⟩ <;>
      simpa only [String.toList_append, String.toList_ofList]

/-- The device of a token that passes signs with the key. -/
theorem Presented.keyed (h : Presented env db ord now key v fields t) :
    db.SignsWith ord key (env.columnId fields.clientId) (env.columnId fields.deviceId) := by
  obtain ⟨-, hc, -, hd⟩ := hmacFields_some h.checked
  exact ⟨env.columnId_ne hc, env.columnId_ne hd, h.device⟩

theorem PresentedFor.keyed (h : PresentedFor env db ord now key v fields c t d) :
    db.SignsWith ord key c d := by
  have hkeyed := h.toPresented.keyed
  rwa [h.clientId, h.deviceId] at hkeyed

/-- Each device of the key can present each timestamp that passes, whatever its type. -/
theorem Database.SignsWith.presented (h : db.SignsWith ord key c d) {timestamp : JsVal}
    (htruthy : timestamp.falsy = false) (htext : env.toText timestamp = some t)
    (ht : Fresh now t) :
    ∃ v fields, PresentedFor env db ord now key v fields c t d ∧ fields.timestamp = timestamp := by
  refine ⟨.obj [("clientId", .str c), ("timestamp", timestamp), ("signature", .str "0"),
    ("deviceId", .str d)], ⟨.str c, timestamp, .str "0", .str d⟩,
    ⟨⟨?_, htext, ht, h.device⟩, rfl, rfl⟩, rfl⟩
  have hstr : ∀ s, (JsVal.str s).falsy = decide (s = "") := fun _ => rfl
  simp [hmacFields, JsVal.field, hstr, OMap.find, h.client_ne, h.device_ne, htruthy]

/-- A text that passes is that of a timestamp: the empty one is that of an empty array. -/
theorem Database.SignsWith.presents (env : AuthEnv) (h : db.SignsWith ord key c d)
    (ht : Fresh now t) : ∃ v fields, PresentedFor env db ord now key v fields c t d := by
  have hvalue : ∃ timestamp : JsVal, timestamp.falsy = false ∧ env.toText timestamp = some t := by
    by_cases hempty : t = ""
    · subst hempty
      exact ⟨.arr [], rfl, rfl⟩
    · exact ⟨.str t, by simpa [JsVal.falsy] using hempty, rfl⟩
  obtain ⟨timestamp, htruthy, htext⟩ := hvalue
  obtain ⟨v, fields, hp, -⟩ := h.presented htruthy htext ht
  exact ⟨v, fields, hp⟩

/-- What is equal of two tokens with one text, the second of which has the longer device id. -/
theorem PresentedFor.eq_of_separated (hsep : db.Separated ord now key) {v' : JsVal}
    {fields' : FormatHMAC} {t' c' : String} (h : PresentedFor env db ord now key v fields c t d)
    (h' : PresentedFor env db ord now key v' fields' c' t' (d ++ x))
    (hrest : t ++ c = x ++ (t' ++ c')) : x = "" ∧ t = t' ∧ c = c' := by
  have ht := h.fresh
  have ht' := h'.fresh
  have hsame : t = x ++ t' → c = c' → x = "" ∧ t = t' ∧ c = c' := by
    rintro rfl rfl
    by_cases hx : x = ""
    · simp [hx]
    · exact absurd ⟨t', ht', ht⟩ (hsep.within c d x h.keyed h'.keyed hx)
  rw [← String.append_assoc] at hrest
  obtain ⟨y, hy, rfl⟩ | ⟨y, rfl, rfl⟩ := append_eq_append hrest
  · by_cases hempty : y = ""
    · subst hempty
      exact hsame (by simpa using hy.symm) (by simp)
    · exact absurd ⟨t, t', ht, ht', hy.symm⟩ (hsep.shifted c' d x y h.keyed h'.keyed hempty)
  · by_cases hempty : y = ""
    · subst hempty
      exact hsame (by simp) (by simp)
    · rw [String.append_assoc] at ht
      exact absurd ⟨t', ht', ht⟩ (hsep.enclosed c d x y h.keyed h'.keyed hempty)

/-- Two devices of the key that can present one text in different ways. -/
theorem SplitsOnce.not_mixed (h : SplitsOnce env db ord now key)
    (h₁ : db.SignsWith ord key c₁ d₁) (h₂ : db.SignsWith ord key c₂ d₂) (ht₁ : Fresh now t₁)
    (ht₂ : Fresh now t₂)
    (htext : d₁ ++ (t₁ ++ c₁) = d₂ ++ (t₂ ++ c₂)) : d₁ = d₂ ∧ t₁ = t₂ ∧ c₁ = c₂ := by
  obtain ⟨v₁, fields₁, hp₁⟩ := h₁.presents env ht₁
  obtain ⟨v₂, fields₂, hp₂⟩ := h₂.presents env ht₂
  refine h _ _ _ _ _ _ _ _ _ _ hp₁ hp₂ ?_
  rw [hp₁.message, hp₂.message, htext]

/-- Ids that are texts are read off the signed text iff the devices of the key can be told apart
    without knowing where an id ends. -/
theorem splitsOnce_iff (env : AuthEnv) (db : Database) (ord : RowOrder) (now : ℤ) (key : String) :
    SplitsOnce env db ord now key ↔ db.Separated ord now key := by
  constructor
  · intro hone
    refine ⟨fun c d x hd hdx hx habsorbs => ?_, fun c d x y hd hdx hy hencloses => ?_,
      fun c d x y hd hdx hy hshifts => ?_⟩
    · obtain ⟨t, ht, hxt⟩ := habsorbs
      have hsame := hone.not_mixed hd hdx hxt ht (by simp only [String.append_assoc])
      exact hx (by simpa using hsame.1.symm)
    · obtain ⟨t, ht, hxt⟩ := hencloses
      have hsame := hone.not_mixed hd hdx hxt ht (by simp only [String.append_assoc])
      exact hy (by simpa using hsame.2.2.symm)
    · obtain ⟨t, t', ht, ht', hty⟩ := hshifts
      have htext : d ++ (t ++ (y ++ c)) = d ++ x ++ (t' ++ c) := calc
        d ++ (t ++ (y ++ c)) = d ++ (t ++ y ++ c) := by simp only [String.append_assoc]
        _ = d ++ (x ++ t' ++ c) := by rw [hty]
        _ = d ++ x ++ (t' ++ c) := by simp only [String.append_assoc]
      have hsame := hone.not_mixed hd hdx ht ht' htext
      exact hy (by simpa using hsame.2.2)
  · intro hsep v₁ fields₁ c₁ t₁ d₁ v₂ fields₂ c₂ t₂ d₂ h₁ h₂ hmessage
    have htext : d₁ ++ (t₁ ++ c₁) = d₂ ++ (t₂ ++ c₂) := by
      simpa [h₁.message, h₂.message] using hmessage
    obtain ⟨x, rfl, hrest⟩ | ⟨x, rfl, hrest⟩ := append_eq_append htext
    · obtain ⟨rfl, rfl, rfl⟩ := h₁.eq_of_separated hsep h₂ hrest
      exact ⟨by simp, rfl, rfl⟩
    · obtain ⟨rfl, rfl, rfl⟩ := h₂.eq_of_separated hsep h₁ hrest
      exact ⟨by simp, rfl, rfl⟩

/-! ## Fields of other types -/

/-- A timestamp that is the infinite number, and one that is its name: neither is ever stale, and
    both are signed in the same way. -/
theorem Database.SignsWith.not_speaksForOne (h : db.SignsWith ord key c d) :
    ¬ SpeaksForOne env db ord now key := by
  have hnan : Fresh now "Infinity" := hmacExpired_nan now (by decide)
  have hnumber : env.toText (.infinity false) = some "Infinity" := rfl
  have hname : env.toText (.str "Infinity") = some "Infinity" := rfl
  obtain ⟨v₁, fields₁, hp₁, ht₁⟩ := h.presented rfl hnumber hnan
  obtain ⟨v₂, fields₂, hp₂, ht₂⟩ := h.presented rfl hname hnan
  intro hone
  have hsame := (hone _ _ _ _ _ _ _ hp₁.toPresented hp₂.toPresented hp₁.message hp₂.message).2.1
  rw [ht₁, ht₂] at hsame
  cases hsame

/-- Two devices that are named by numbers are not told apart: numbers add up, and the infinite one
    leaves nothing of the device. -/
theorem numbers_share {x₁ x₂ : ℚ} (hx₁ : x₁ ≠ 0) (hx₂ : x₂ ≠ 0)
    (h₁ : db.SignsWith ord key c (env.columnId (.num x₁)))
    (h₂ : db.SignsWith ord key c (env.columnId (.num x₂))) :
    ∃ v₁ fields₁ v₂ fields₂, Presented env db ord now key v₁ fields₁ "Infinity" ∧
      Presented env db ord now key v₂ fields₂ "Infinity" ∧
      fields₁.deviceId = .num x₁ ∧ fields₂.deviceId = .num x₂ ∧
      env.message fields₁ = some (.text ("Infinity" ++ c)) ∧
      env.message fields₂ = some (.text ("Infinity" ++ c)) := by
  have hnan : Fresh now "Infinity" := hmacExpired_nan now (by decide)
  have hpresented : ∀ x : ℚ, x ≠ 0 → db.SignsWith ord key c (env.columnId (.num x)) →
      ∃ v fields, Presented env db ord now key v fields "Infinity" ∧ fields.deviceId = .num x ∧
        env.message fields = some (.text ("Infinity" ++ c)) := by
    intro x hx h
    refine ⟨.obj [("clientId", .str c), ("timestamp", .infinity false), ("signature", .str "0"),
      ("deviceId", .num x)], ⟨.str c, .infinity false, .str "0", .num x⟩,
      ⟨?_, rfl, hnan, h.device⟩, rfl, rfl⟩
    simp [hmacFields, JsVal.field, JsVal.falsy, OMap.find, h.client_ne, hx]
  obtain ⟨v₁, fields₁, hp₁, hd₁, hm₁⟩ := hpresented x₁ hx₁ h₁
  obtain ⟨v₂, fields₂, hp₂, hd₂, hm₂⟩ := hpresented x₂ hx₂ h₂
  exact ⟨v₁, fields₁, v₂, fields₂, hp₁, hp₂, hd₁, hd₂, hm₁, hm₂⟩

/-- **Which devices may share a key.**  With fields of any type, a signature speaks for one token
    iff no device signs with the key.  Of the tokens that name their ids by texts, it speaks for
    one device of one tenant, at one timestamp as a text, iff the devices of the key can be told
    apart without knowing where an id ends. -/
theorem speaksForOne_iff (env : AuthEnv) (db : Database) (ord : RowOrder) (now : ℤ) (key : String) :
    (SpeaksForOne env db ord now key ↔ ∀ c d, ¬ db.SignsWith ord key c d) ∧
      (SplitsOnce env db ord now key ↔ db.Separated ord now key) := by
  refine ⟨⟨fun hone c d h => h.not_speaksForOne hone, ?_⟩, splitsOnce_iff env db ord now key⟩
  intro hnone v₁ fields₁ t₁ v₂ fields₂ t₂ text h₁
  exact absurd h₁.keyed (hnone _ _)

/-! ## Texts that run into a timestamp -/

/-- Nothing is read behind a tilde. -/
theorem hmacExpired_tilde (now : ℤ) (x y : String) :
    hmacExpired now (x ++ ("~" ++ y)) = hmacExpired now x := by
  have hends : EndsNumber '~' := ⟨by decide, by decide, by decide, by decide⟩
  have hparse := hends.parseInt_append x y
  rw [String.append_assoc] at hparse
  unfold hmacExpired
  rw [← hparse]
  rfl

/-- What names no number, or the present instant, is absorbed. -/
theorem absorbs_of_fresh (h : Fresh now x) : Absorbs now x := by
  refine ⟨"~", hmacExpired_nan now (by decide), ?_⟩
  have htilde := hmacExpired_tilde now x ""
  rw [Fresh, ← h, ← htilde, String.append_empty]

/-- The ids of devices that share a key differ, if one extends another, by a number: one that is not
    the present instant. -/
theorem Database.Separated.expires (h : db.Separated ord now key)
    (hd : db.SignsWith ord key c d) (hdx : db.SignsWith ord key c (d ++ x)) (hx : x ≠ "") :
    hmacExpired now x = true := by
  by_contra hfresh
  exact h.within c d x hd hdx hx (absorbs_of_fresh (by simpa [Fresh] using hfresh))

end

/-! ## Two sensors of a tenant -/

/-- A tenant with the devices `sensor-1` and `sensor-10`. -/
def sensorTenant : Database :=
  { scannerTenant with
    device_transaksi := [⟨1, "sensor-1", .ACTIVE, 1, 1, 2⟩, ⟨2, "sensor-10", .ACTIVE, 1, 1, 3⟩]
    enduser := [1, 2, 3] }

/-- The HMAC-SHA256 digest of `sensor-101702656000000acme` under the key of the devices. -/
def sensorDigest : String :=
  "8cf73a3ca1ab13d757546a337bde5571843636a3614280e66651ef45f50905be"

/-- The JSON text of a token with that signature. -/
def sensorToken (timestamp deviceId : String) : String :=
  "\x7b\"clientId\":\"acme\",\"timestamp\":\"" ++ timestamp ++ "\",\"signature\":\"" ++
    sensorDigest ++ "\",\"deviceId\":\"" ++ deviceId ++ "\"\x7d"

/-- An environment in which two such tokens are in use. -/
def sensorEnv : AuthEnv :=
  { soonEnv with
    parse text :=
      if text = sensorToken "1702656000000" "sensor-10" then
        some (hmacToken "acme" "1702656000000" sensorDigest "sensor-10")
      else if text = sensorToken "01702656000000" "sensor-1" then
        some (hmacToken "acme" "01702656000000" sensorDigest "sensor-1")
      else none
    hmac _ _ := sensorDigest }

set_option maxRecDepth 4000 in
theorem sensorToken_ne : sensorToken "01702656000000" "sensor-1" ≠
    sensorToken "1702656000000" "sensor-10" := by decide

/-- The signature of the one sensor lets the other one in. -/
theorem sensorToken_resplit :
    (∃ r₁ r₂, hmacValidate sensorEnv sensorTenant .natural 1702656000000
        (sensorToken "1702656000000" "sensor-10") = .ok r₁ ∧
      hmacValidate sensorEnv sensorTenant .natural 1702656000000
        (sensorToken "01702656000000" "sensor-1") = .ok r₂ ∧
      r₁.id_enduser = 3 ∧ r₂.id_enduser = 2) ∧
      ¬ SplitsOnce sensorEnv sensorTenant .natural 1702656000000 "device-key" ∧
      ¬ SpeaksForOne sensorEnv sensorTenant .natural 1702656000000 "device-key" := by
  have hfresh : hmacExpired 1702656000000 "1702656000000" = false := by decide
  have hfresh' : hmacExpired 1702656000000 "01702656000000" = false := by decide
  have hne : sensorDigest ≠ "" := by decide
  have hdigest : ∀ key message, sensorEnv.hmac key message ≠ "" := fun _ _ => hne
  have hparse : sensorEnv.parse (sensorToken "1702656000000" "sensor-10") =
      some (hmacToken "acme" "1702656000000" sensorDigest "sensor-10") := by
    simp only [sensorEnv, if_true]
  have hparse' : sensorEnv.parse (sensorToken "01702656000000" "sensor-1") =
      some (hmacToken "acme" "01702656000000" sensorDigest "sensor-1") := by
    simp only [sensorEnv, if_neg sensorToken_ne, if_true]
  have hkeyed : ∀ d, d = "sensor-1" ∨ d = "sensor-10" →
      sensorTenant.SignsWith .natural "device-key" "acme" d := by
    rintro d (rfl | rfl) <;> exact ⟨by decide, by decide, _, rfl, rfl⟩
  refine ⟨⟨_, _, hmacValidate_hmacToken ⟨by decide, hfresh⟩ hdigest rfl (by decide) (by decide)
    (by decide) hparse, hmacValidate_hmacToken ⟨by decide, hfresh'⟩ hdigest rfl (by decide)
    (by decide) (by decide) hparse', rfl, rfl⟩, fun h => ?_,
    (hkeyed _ (.inl rfl)).not_speaksForOne⟩
  have hsame := h.not_mixed (hkeyed _ (.inr rfl)) (hkeyed _ (.inl rfl)) hfresh hfresh' rfl
  exact absurd hsame.1 (by decide)

end GatewayRealtime
