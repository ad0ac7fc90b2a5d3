import RelGraph.Text.CharSet
import RelGraph.Text.Split

/-!
# Tables of characters

A table of characters is written as lines of code points and ranges of code points in
hexadecimal digits, with a blank between one and the next: `41-5A 61-7A B5`.
-/

namespace RelGraph.Text

/-- The value of a hexadecimal digit; any other character counts as zero. -/
def hexDigitValue (c : Char) : Nat :=
  if c.isDigit then c.toNat - 48 else if 'A' ≤ c && c ≤ 'F' then c.toNat - 55 else 0

/-- The number that hexadecimal digits stand for. -/
def hexNumber (cs : List Char) : Nat :=
  cs.foldl (fun n c => n * 16 + hexDigitValue c) 0

/-- The range that an entry of a table stands for. -/
def tableRange (cs : List Char) : Nat × Nat :=
  match (split '-' cs).map hexNumber with
  | [first, last] => (first, last)
  | first :: _ => (first, first)
  | [] => (0, 0)

/-- The characters of a table. -/
def CharSet.ofTable (lines : List String) : CharSet :=
  .ofRanges (lines.flatMap fun line => (split ' ' line.toList).map tableRange)

end RelGraph.Text
