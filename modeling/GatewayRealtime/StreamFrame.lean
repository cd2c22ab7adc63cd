/-
  The frames of `stream-image` (`monitoring/stream-image.event.ts`) and their documented layout.

  * `streamHeader_writes`: the header, write by write.
  * `StreamFrame`, `bytes`, `read`: a type byte, a device id of four bytes, a flag byte and the
    image, as the guide and the comment over the code lay them out; `read_bytes`.
  * `read_modifiedPayload`: what a receiver reads of the frame of the code.
  * `streamFrame_misread`: it never reads what was sent.
-/
import GatewayRealtime.Handlers
import GatewayRealtime.Lib.Buffer

namespace GatewayRealtime

open Buffer

/-! ## The header -/

/-- The header is what the three writes leave in five bytes: 1 at offset 0, the id at offset 0 and
    the flag at offset 4. -/
theorem streamHeader_writes {id_device : ℕ} (h : id_device < 2 ^ 32) :
    streamHeader id_device =
      .ok (write (write (write (alloc 5) 0 [1]) 0 (uint32BE id_device)) 4 [1]) := by
  have hcovers : write (write (alloc 5) 0 [1]) 0 (uint32BE id_device) =
      write (alloc 5) 0 (uint32BE id_device) :=
    write_write_of_covers (by decide) le_rfl (by simp [uint32BE])
  rw [streamHeader, if_pos h, hcovers]
  rfl

/-! ## The layout -/

/-- A frame as the guide describes it. -/
structure StreamFrame where
  type : ℕ
  id_device : ℕ
  flag : ℕ
  payload : List UInt8
deriving DecidableEq, Repr

/-- The bytes of a frame: the type, the id, the flag, the image. -/
def StreamFrame.bytes (f : StreamFrame) : List UInt8 :=
  toBE 1 f.type ++ toBE 4 f.id_device ++ toBE 1 f.flag ++ f.payload

/-- What a receiver reads. -/
def StreamFrame.read (b : List UInt8) : Option StreamFrame := do
  let type ← readByte b 0
  let id_device ← readBE 4 b 1
  let flag ← readByte b 5
  return ⟨type, id_device, flag, b.drop 6⟩

/-- The layout says which frame was sent. -/
theorem StreamFrame.read_bytes {f : StreamFrame} (htype : f.type < 256)
    (hid : f.id_device < 2 ^ 32) (hflag : f.flag < 256) : read f.bytes = some f := by
  have hnumber : readBE 4 f.bytes 1 = some f.id_device := by
    have hread := readBE_append (toBE 4 f.id_device) (toBE 1 f.type)
      (toBE 1 f.flag ++ f.payload)
    have hsame : f.id_device % 256 ^ 4 = f.id_device := Nat.mod_eq_of_lt (by omega)
    rw [length_toBE, length_toBE, ofBE_toBE, hsame, ← List.append_assoc] at hread
    exact hread
  rw [read, hnumber]
  simp [bytes, readByte, toBE, Nat.mod_eq_of_lt htype, Nat.mod_eq_of_lt hflag]

/-! ## The frame of the code -/

/-- **What is read of a frame of the code**: the first byte of the id as the type, the other three
    and the flag as the id, and the first byte of the image as the flag. -/
theorem read_modifiedPayload (id_device : ℕ) (payload : List UInt8) :
    StreamFrame.read (uint32BE id_device ++ [1] ++ payload) =
      match payload with
      | [] => none
      | byte :: rest => some ⟨id_device / 2 ^ 24 % 256, id_device % 2 ^ 24 * 256 + 1, byte.toNat,
          rest⟩ := by
  have hsplit : uint32BE id_device ++ [1] ++ payload =
      [UInt8.ofNat (id_device / 2 ^ 24)] ++ (toBE 3 id_device ++ [1]) ++ payload := by
    simp [uint32BE, toBE]
  have hnumber : readBE 4 (uint32BE id_device ++ [1] ++ payload) 1 =
      some (id_device % 2 ^ 24 * 256 + 1) := by
    have hread := readBE_append (toBE 3 id_device ++ [1])
      [UInt8.ofNat (id_device / 2 ^ 24)] payload
    rw [ofBE_append, ofBE_toBE, ← hsplit] at hread
    simpa [ofBE] using hread
  rw [StreamFrame.read, hnumber]
  cases payload with
  | nil => simp [readByte, uint32BE]
  | cons byte rest => simp [readByte, uint32BE]

theorem modifiedPayload_eq {user : DeviceUser} (hid : user.id_device < 2 ^ 32)
    (payload : List UInt8) : StreamImageEvent.modifiedPayload (.device user) payload =
      .ok (uint32BE user.id_device ++ [1] ++ payload) := by
  have hheader : streamHeader user.id_device = .ok (uint32BE user.id_device ++ [1]) := if_pos hid
  show (streamHeader user.id_device).map (· ++ payload) = _
  rw [hheader]
  rfl

/-- **No frame of the code is read as what was sent.**  It lacks a byte: whatever the id and the
    image are, the first byte of the image is taken for the flag. -/
theorem streamFrame_misread (user : DeviceUser) (payload : List UInt8)
    (hid : user.id_device < 2 ^ 32) :
    ∃ b, StreamImageEvent.modifiedPayload (.device user) payload = .ok b ∧
      StreamFrame.read b ≠ some ⟨1, user.id_device, 1, payload⟩ := by
  refine ⟨_, modifiedPayload_eq hid payload, ?_⟩
  rw [read_modifiedPayload]
  intro hread
  cases payload with
  | nil => cases hread
  | cons byte rest =>
    have hrest : rest = byte :: rest := (StreamFrame.mk.inj (Option.some.inj hread)).2.2.2
    have hlength := congrArg List.length hrest
    rw [List.length_cons] at hlength
    omega

/-- A camera with the id 7. -/
def camera : DeviceUser where
  clientId := "acme"
  products := []
  deviceId := "camera"
  blacklistSend := []
  blacklistGet := []
  id_device := 7
  device_product := "monitoring"

theorem streamFrame_misread_camera :
    ∃ b, StreamImageEvent.modifiedPayload (.device camera) [255, 216] = .ok b ∧
      StreamFrame.read b ≠ some ⟨1, 7, 1, [255, 216]⟩ :=
  streamFrame_misread camera [255, 216] (by decide)

/-- The first byte of its image is read as the flag, the id as 1793 and the type as 0. -/
theorem cameraFrame_shifted :
    ¬ ∀ (user : DeviceUser) (payload : List UInt8), user.id_device < 2 ^ 32 →
      ∃ b, StreamImageEvent.modifiedPayload (.device user) payload = .ok b ∧
        StreamFrame.read b = some ⟨1, user.id_device, 1, payload⟩ := by
  intro h
  obtain ⟨b, hb, hread⟩ := h camera [255, 216] (by decide)
  have hsent : StreamImageEvent.modifiedPayload (.device camera) [255, 216] =
      .ok [0, 0, 0, 7, 1, 255, 216] := rfl
  have hgot : StreamFrame.read [0, 0, 0, 7, 1, 255, 216] = some ⟨0, 1793, 255, [216]⟩ := by decide
  rw [hsent] at hb
  cases hb
  rw [hgot] at hread
  cases hread

end GatewayRealtime
