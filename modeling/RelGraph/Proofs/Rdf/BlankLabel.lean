import RelGraph.Proofs.Text.Bytes
import RelGraph.Rdf.BlankLabel

/-!
# Labels of texts can be undone

The text of a label that was made from a text is this text.
-/

namespace RelGraph.Rdf

open Text

theorem escapeByte_lt (b : UInt8) :
  ∀ c ∈ escapeByte b, c.toNat < 128
  := by
  rw [escapeByte]
  split
  · rename_i h
    obtain ⟨hlt, hc⟩ := isAsciiAlphanum_lt b h
    simp [hc, hlt]
  · rw [List.forall_mem_cons]
    use by decide
    apply hexByte_lt

theorem isAsciiAlphanum_ne_underscore :
  ∀ b, isAsciiAlphanum b = true → b ≠ 0x5F
  := by
  rintro _ h rfl
  exact absurd h (by decide)

theorem unescapeBytes?_cons {b : UInt8} (h : isAsciiAlphanum b = true) (bs : List UInt8) :
  unescapeBytes? (b :: bs) = (unescapeBytes? bs).map (b :: ·)
  := by
  have hne := isAsciiAlphanum_ne_underscore b h
  match bs with
  | [] => simp [unescapeBytes?, hne, h]
  | [c] => simp [unescapeBytes?, hne, h]
  | c :: d :: rest => rw [unescapeBytes?, if_neg hne, if_pos h]

/-- Reading takes the writing of a byte away and gives the byte. -/
theorem unescapeBytes?_escapeByte (b : UInt8) (bs : List UInt8) :
  unescapeBytes? ((escapeByte b).map byteOf ++ bs) = (unescapeBytes? bs).map (b :: ·)
  := by
  rw [escapeByte]
  split
  · rename_i h
    rw [List.map_singleton, byteOf_ofNat (isAsciiAlphanum_lt b h).2, List.singleton_append,
      unescapeBytes?_cons h]
  · have hmark : byteOf '_' = 0x5F := by decide
    rw [hexByte, List.map_cons, List.map_cons, List.map_cons, List.map_nil, hmark]
    simp only [List.cons_append, List.nil_append]
    rw [unescapeBytes?]
    simp only [if_true, hexValue?_hexDigit _ (div_lt_of_byte b),
      hexValue?_hexDigit _ (mod_lt_of_byte b), ofNat_hexDigits]

theorem unescapeBytes?_flatMap (bs : List UInt8) :
  unescapeBytes? ((bs.flatMap escapeByte).map byteOf) = some bs
  := by
  induction bs with
  | nil => rfl
  | cons b bs ih =>
    rw [List.flatMap_cons, List.map_append, unescapeBytes?_escapeByte, ih]
    rfl

/-- A text is read back from its label. -/
theorem unescapeLabel?_escapeLabel (text : String) :
  unescapeLabel? (escapeLabel text) = some text
  := by
  have hascii : ∀ c ∈ (bytes text).flatMap escapeByte, c.toNat < 128 := by
    intro c hc
    obtain ⟨b, -, hb⟩ := List.mem_flatMap.1 hc
    apply escapeByte_lt b c hb
  have hbytes : unescapeBytes? (bytes (escapeLabel text)) = some (bytes text) := by
    rw [escapeLabel, bytes_ofList hascii, unescapeBytes?_flatMap]
  simp [unescapeLabel?, hbytes, ofBytes?_bytes]

end RelGraph.Rdf
