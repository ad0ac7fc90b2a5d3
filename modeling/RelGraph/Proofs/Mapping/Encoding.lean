import RelGraph.Mapping.Encoding
import RelGraph.Proofs.Text.Bytes

/-!
# Encodings can be undone

`decode?` gives back every value that was encoded, and accepts nothing else.
-/

namespace RelGraph.Mapping.Encoding

open Text

/-- The character for which another one stands when a value is decoded. -/
def unmark (f : Encoding) (c : Char) : Char :=
  match f.spaceMark? with
  | some mark => if c = mark then ' ' else c
  | none => c

/-- The bytes that stand for themselves are ASCII characters, and neither the percent sign nor
the mark for a space. -/
theorem keeps_spec (f : Encoding) :
  ∀ b, f.keeps b = true → b ≠ 0x25 ∧ f.unmark (Char.ofNat b.toNat) = Char.ofNat b.toNat
    ∧ (Char.ofNat b.toNat).toNat = b.toNat ∧ b.toNat < 128
  := by
  cases f <;> apply forall_byte <;> decide +kernel

theorem unmark_hexDigit (f : Encoding) :
  ∀ n < 16, f.unmark (hexDigit n) = hexDigit n
  := by
  cases f <;> decide

theorem unmark_percent (f : Encoding) :
  f.unmark '%' = '%'
  := by
  cases f <;> decide

theorem unmark_hexByte (f : Encoding) (b : UInt8) :
  (hexByte b).map f.unmark = hexByte b
  := by
  rw [hexByte, List.map_cons, List.map_cons, List.map_nil,
    unmark_hexDigit f _ (div_lt_of_byte b), unmark_hexDigit f _ (mod_lt_of_byte b)]

/-- The writing of a byte that does not stand for itself. -/
theorem encodeByte_of_not_keeps {f : Encoding} {b : UInt8} (h : f.keeps b = false) :
  (∃ mark, f.spaceMark? = some mark ∧ b = 0x20 ∧ f.encodeByte b = [mark])
    ∨ f.encodeByte b = '%' :: hexByte b
  := by
  rw [encodeByte, h]
  simp only [Bool.false_eq_true, if_false]
  split
  · rename_i mark hmark
    split
    · left
      use mark
    · right
      rfl
  · right
    rfl

theorem spaceMark?_lt {f : Encoding} {mark : Char} (h : f.spaceMark? = some mark) :
  mark.toNat < 128
  := by
  cases f <;> simp [spaceMark?] at h <;> subst h <;> decide

theorem encodeByte_lt (f : Encoding) (b : UInt8) :
  ∀ c ∈ f.encodeByte b, c.toNat < 128
  := by
  cases hk : f.keeps b with
  | true =>
    obtain ⟨-, -, hc, hlt⟩ := keeps_spec f b hk
    rw [encodeByte, if_pos hk]
    simp [hc, hlt]
  | false =>
    obtain ⟨mark, hmark, -, h⟩ | h := encodeByte_of_not_keeps hk
    · simp [h, spaceMark?_lt hmark]
    · rw [h, List.forall_mem_cons]
      use by decide
      apply hexByte_lt

/-- Decoding takes the writing of a byte away and gives the byte. -/
theorem percentDecode_encodeByte (f : Encoding) (b : UInt8) (bs : List UInt8) :
  percentDecode (((f.encodeByte b).map f.unmark).map byteOf ++ bs) = b :: percentDecode bs
  := by
  cases hk : f.keeps b with
  | true =>
    obtain ⟨hne, hmark, hc, -⟩ := keeps_spec f b hk
    rw [encodeByte, if_pos hk, List.map_singleton, hmark, List.map_singleton, byteOf_ofNat hc]
    apply percentDecode_cons hne
  | false =>
    obtain ⟨mark, hmark, rfl, h⟩ | h := encodeByte_of_not_keeps hk
    · have hspace : f.unmark mark = ' ' := by simp [unmark, hmark]
      rw [h, List.map_singleton, hspace]
      apply percentDecode_cons (by decide)
    · rw [h, List.map_cons, unmark_percent, unmark_hexByte]
      apply percentDecode_hexByte

theorem percentDecode_flatMap (f : Encoding) (bs : List UInt8) :
  percentDecode (((bs.flatMap f.encodeByte).map f.unmark).map byteOf) = bs
  := by
  induction bs with
  | nil => rfl
  | cons b bs ih =>
    rw [List.flatMap_cons, List.map_append, List.map_append, percentDecode_encodeByte, ih]

theorem decodeAny?_ofList (f : Encoding) (cs : List Char) :
  f.decodeAny? (String.ofList cs)
    = ofBytes? (percentDecode (bytes (String.ofList (cs.map f.unmark))))
  := by
  rw [decodeAny?]
  unfold unmark
  cases f.spaceMark? with
  | some mark => simp only [replace, String.toList_ofList]
  | none => simp only [List.map_id']

theorem unmark_lt (f : Encoding) {c : Char} (h : c.toNat < 128) :
  (f.unmark c).toNat < 128
  := by
  rw [unmark]
  split
  · split
    · decide
    · apply h
  · apply h

theorem decodeAny?_encoded (f : Encoding) (value : String) :
  f.decodeAny? (String.ofList ((bytes value).flatMap f.encodeByte)) = some value
  := by
  have hascii : ∀ c ∈ ((bytes value).flatMap f.encodeByte).map f.unmark, c.toNat < 128 := by
    intro c hc
    obtain ⟨d, hd, rfl⟩ := List.mem_map.1 hc
    obtain ⟨b, -, hb⟩ := List.mem_flatMap.1 hd
    apply unmark_lt f (encodeByte_lt f b d hb)
  rw [decodeAny?_ofList, bytes_ofList hascii, percentDecode_flatMap, ofBytes?_bytes]

/-- A value is decoded from its writing. -/
theorem decode?_encode (f : Encoding) (value : String) :
  f.decode? (f.encode value) = some value
  := by
  cases f with
  | plain => rfl
  | _ => simp [decode?, encode, decodeAny?_encoded]

/-- Only the writing of a value is decoded to it. -/
theorem encode_injective (f : Encoding) {a b : String} (h : f.encode a = f.encode b) :
  a = b
  := by
  rw [← Option.some.injEq, ← f.decode?_encode a, h, f.decode?_encode]

theorem encode_of_decode? {f : Encoding} {text value : String} (h : f.decode? text = some value) :
  f.encode value = text
  := by
  cases f with
  | plain =>
    cases h
    rfl
  | _ => exact of_decide_eq_true (Option.filter_eq_some_iff.1 h).2

theorem decode?_eq_some_iff {f : Encoding} {text value : String} :
  f.decode? text = some value ↔ f.encode value = text
  := by
  constructor
  · apply encode_of_decode?
  · rintro rfl
    apply decode?_encode

/-- `encode` and `decode?` are inverse to each other: every value is read back from its writing,
no other text is read as the value, and exactly the writings of values are read. -/
theorem encode_decode?_inverse (f : Encoding) :
  (∀ value, f.decode? (f.encode value) = some value)
    ∧ (∀ text value, f.decode? text = some value → f.encode value = text)
    ∧ Function.Injective f.encode
    ∧ ∀ text, (f.decode? text).isSome = true ↔ ∃ value, f.encode value = text
  := by
  use f.decode?_encode
  constructor
  · intro text value
    apply encode_of_decode?
  constructor
  · intro a b
    apply f.encode_injective
  · intro text
    simp only [Option.isSome_iff_exists, decode?_eq_some_iff]

end RelGraph.Mapping.Encoding
