/-
  Byte buffers with fields at fixed offsets.

  * `alloc`, `write`, `readByte`, `readBE`: a buffer of zeros, a field written in place, a byte and
    a big-endian number read at an offset.
  * `write_write_of_covers`: a write hides an earlier one that it covers.
  * `toBE`, `ofBE`: numbers as big-endian bytes of a given width; `ofBE_toBE`, `ofBE_append`.
-/
import Mathlib.Algebra.Ring.Nat
import Mathlib.Data.Nat.ModEq
import Mathlib.Tactic.Common
import Mathlib.Tactic.Ring

namespace GatewayRealtime.Buffer

/-! ## Numbers -/

/-- The `w` low bytes of a number, the most significant one first. -/
def toBE : ℕ → ℕ → List UInt8
  | 0, _ => []
  | w + 1, n => UInt8.ofNat (n / 256 ^ w) :: toBE w n

/-- The number that big-endian bytes denote. -/
def ofBE : List UInt8 → ℕ
  | [] => 0
  | b :: bs => b.toNat * 256 ^ bs.length + ofBE bs

@[simp] theorem length_toBE (w n : ℕ) : (toBE w n).length = w := by
  induction w with
  | zero => rfl
  | succ w ih => simp [toBE, ih]

theorem ofBE_toBE (w n : ℕ) : ofBE (toBE w n) = n % 256 ^ w := by
  induction w with
  | zero => simp [toBE, ofBE, Nat.mod_one]
  | succ w ih =>
    have hbyte : (UInt8.ofNat (n / 256 ^ w)).toNat = n / 256 ^ w % 256 := by simp
    simp only [toBE, ofBE, length_toBE, ih, hbyte]
    rw [Nat.mod_pow_succ]
    ring

theorem ofBE_append (l l' : List UInt8) :
    ofBE (l ++ l') = ofBE l * 256 ^ l'.length + ofBE l' := by
  induction l with
  | nil => simp [ofBE]
  | cons b l ih =>
    simp only [List.cons_append, ofBE, ih, List.length_append]
    ring

/-! ## Fields -/

/-- A buffer of zeros. -/
def alloc (n : ℕ) : List UInt8 := List.replicate n 0

/-- The bytes written from an offset on; they have to fit. -/
def write (b : List UInt8) (offset : ℕ) (bytes : List UInt8) : List UInt8 :=
  b.take offset ++ bytes ++ b.drop (offset + bytes.length)

/-- The byte at an offset; `none` when it is out of range. -/
def readByte (b : List UInt8) (offset : ℕ) : Option ℕ := b[offset]?.map UInt8.toNat

/-- The big-endian number in `w` bytes from an offset on; `none` when it is out of range. -/
def readBE (w : ℕ) (b : List UInt8) (offset : ℕ) : Option ℕ :=
  if offset + w ≤ b.length then some (ofBE ((b.drop offset).take w)) else none

variable {b bytes bytes' : List UInt8} {offset offset' : ℕ}

/-- A write hides an earlier one that it covers. -/
theorem write_write_of_covers (h : offset + bytes.length ≤ b.length)
    (hlow : offset' ≤ offset) (hhigh : offset + bytes.length ≤ offset' + bytes'.length) :
    write (write b offset bytes) offset' bytes' = write b offset' bytes' := by
  have htake : (write b offset bytes).take offset' = b.take offset' := by
    have hlen : offset' ≤ (b.take offset).length := by simp; omega
    rw [write, List.append_assoc, List.take_append_of_le_length hlen, List.take_take,
      min_eq_left hlow]
  have hdrop : (write b offset bytes).drop (offset' + bytes'.length) =
      b.drop (offset' + bytes'.length) := by
    have hlen : (b.take offset ++ bytes).length = offset + bytes.length := by simp; omega
    rw [write, List.drop_append, hlen, List.drop_eq_nil_of_le (by omega), List.nil_append,
      List.drop_drop]
    congr 1
    omega
  calc write (write b offset bytes) offset' bytes'
      = (write b offset bytes).take offset' ++ bytes' ++
          (write b offset bytes).drop (offset' + bytes'.length) := rfl
    _ = write b offset' bytes' := by rw [htake, hdrop, ← write]

/-- A number is read where its bytes are. -/
theorem readBE_append (bytes l r : List UInt8) :
    readBE bytes.length (l ++ bytes ++ r) l.length = some (ofBE bytes) := by
  have hfits : l.length + bytes.length ≤ (l ++ bytes ++ r).length := by simp
  rw [readBE, if_pos hfits, List.append_assoc, List.drop_left, List.take_left]

end GatewayRealtime.Buffer
