import RelGraph.Text.CharSet

/-!
# Ranges of characters as ranges of bytes

The UTF-8 forms of a range of characters, as sequences of ranges of bytes: each sequence stands
for all characters whose bytes lie in its ranges one by one.
-/

namespace RelGraph.Text.Utf8

/-- A range of bytes, bounds included. -/
abbrev ByteRange := Nat × Nat

/-- The ranges of code points whose forms have one length, each with the number of bytes after
the first one; surrogates have no form. -/
def lengthRanges : List (Nat × Nat × Nat) :=
  [(0, 0x0, 0x7F), (1, 0x80, 0x7FF), (2, 0x800, 0xD7FF), (2, 0xE000, 0xFFFF),
   (3, 0x10000, 0x10FFFF)]

/-- Cuts a range into parts of which each is a product of ranges of bytes.  The code points of a
block of `width` differ only in the bytes after some byte, and `further` bytes precede that one
apart from the first. -/
def blocks : Nat → Nat → Nat → Nat → List (Nat × Nat)
  | 0, _, first, last => [(first, last)]
  | further + 1, width, first, last =>
    if first / width = last / width then [(first, last)]
    else
      let start := if first % width = 0 then first else (first / width + 1) * width
      let stop := if last % width + 1 = width then last + 1 else last / width * width
      let before := if first < start then [(first, start - 1)] else []
      let inside := if start < stop then blocks further (width * 64) start (stop - 1) else []
      let after := if stop ≤ last then [(stop, last)] else []
      before ++ inside ++ after

/-- The bytes of a code point. -/
def bytes (n : Nat) : List Nat :=
  (String.utf8EncodeChar (Char.ofNat n)).map UInt8.toNat

/-- The sequences of ranges of bytes for a range of characters, in increasing order. -/
def sequences (range : Nat × Nat) : List (List ByteRange) :=
  lengthRanges.flatMap fun (further, low, high) =>
    let first := max range.1 low
    let last := min range.2 high
    if first ≤ last then
      (blocks further 64 first last).map fun block => (bytes block.1).zip (bytes block.2)
    else []

end RelGraph.Text.Utf8
