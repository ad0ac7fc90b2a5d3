import Mathlib.Tactic.Common
import RelGraph.Text.Percent

/-!
# Bytes of texts

A text is read back from its bytes, an ASCII text has one byte for each character, and two
hexadecimal digits stand for the byte they were made from.
-/

namespace RelGraph.Text

/-- A text is read back from its bytes. -/
theorem ofBytes?_bytes (s : String) :
  ofBytes? (bytes s) = some s
  := by
  have h : (ByteArray.mk (bytes s).toArray) = s.toByteArray := by
    simp [bytes, String.toUTF8]
  rw [ofBytes?, h, String.fromUTF8?, dif_pos s.isValidUTF8]
  rfl

/-- The byte of an ASCII character. -/
def byteOf (c : Char) : UInt8 := UInt8.ofNat c.toNat

/-- The bytes of ASCII characters. -/
theorem bytes_ofList {cs : List Char} (h : ∀ c ∈ cs, c.toNat < 128) :
  bytes (String.ofList cs) = cs.map byteOf
  := by
  rw [bytes, String.toUTF8, String.toByteArray_ofList, List.utf8Encode]
  have hflat : cs.flatMap String.utf8EncodeChar = cs.map byteOf := by
    induction cs with
    | nil => rfl
    | cons c cs ih =>
      rw [List.forall_mem_cons] at h
      have hc : c.val.toNat ≤ 127 := Nat.le_of_lt_succ h.1
      rw [List.flatMap_cons, ih h.2, List.map_cons, String.utf8EncodeChar, if_pos hc]
      rfl
  rw [hflat]
  simp

/-- What holds of all numbers below 256 holds of all bytes. -/
theorem forall_byte {P : UInt8 → Prop} (h : ∀ n : Fin 256, P (UInt8.ofNat n)) (b : UInt8) :
  P b
  := by
  have hb := h ⟨b.toNat, b.toNat_lt⟩
  simpa using hb

theorem hexValue?_hexDigit :
  ∀ n < 16, hexValue? (byteOf (hexDigit n)) = some n
  := by
  decide

theorem hexDigit_lt :
  ∀ n < 16, (hexDigit n).toNat < 128
  := by
  decide

theorem ofNat_hexDigits (b : UInt8) :
  UInt8.ofNat (b.toNat / 16 * 16 + b.toNat % 16) = b
  := by
  rw [Nat.div_add_mod', UInt8.ofNat_toNat]

theorem div_lt_of_byte (b : UInt8) :
  b.toNat / 16 < 16
  := by
  have hb : b.toNat < 256 := b.toNat_lt
  omega

theorem mod_lt_of_byte (b : UInt8) :
  b.toNat % 16 < 16
  := Nat.mod_lt _ (by omega)

/-- The two hexadecimal digits of a byte are ASCII characters. -/
theorem hexByte_lt (b : UInt8) :
  ∀ c ∈ hexByte b, c.toNat < 128
  := by
  simp only [hexByte, List.forall_mem_cons, List.not_mem_nil, false_implies, implies_true,
    and_true]
  use hexDigit_lt _ (div_lt_of_byte b), hexDigit_lt _ (mod_lt_of_byte b)

/-- A letter or digit is an ASCII character with its byte as its number. -/
theorem isAsciiAlphanum_lt :
  ∀ b, isAsciiAlphanum b = true → b.toNat < 128 ∧ (Char.ofNat b.toNat).toNat = b.toNat
  := by
  apply forall_byte
  decide +kernel

theorem byteOf_ofNat {b : UInt8} (h : (Char.ofNat b.toNat).toNat = b.toNat) :
  byteOf (Char.ofNat b.toNat) = b
  := by
  rw [byteOf, h, UInt8.ofNat_toNat]

/-! ### Percent encoding -/

theorem percentDecode_cons {b : UInt8} (h : b ≠ 0x25) (bs : List UInt8) :
  percentDecode (b :: bs) = b :: percentDecode bs
  := by
  match bs with
  | [] => rfl
  | [c] => rfl
  | c :: d :: rest => rw [percentDecode, if_neg h]

theorem percentDecode_hexByte (b : UInt8) (bs : List UInt8) :
  percentDecode (0x25 :: ((hexByte b).map byteOf ++ bs)) = b :: percentDecode bs
  := by
  rw [hexByte, List.map_cons, List.map_cons, List.map_nil, List.cons_append, List.cons_append,
    List.nil_append, percentDecode, if_pos rfl, hexValue?_hexDigit _ (div_lt_of_byte b),
    hexValue?_hexDigit _ (mod_lt_of_byte b)]
  simp only [ofNat_hexDigits]

end RelGraph.Text
