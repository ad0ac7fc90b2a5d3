/-!
# Sets of characters

A set of characters is a list of ranges of code points, bounds included, in increasing order
and with a gap between one range and the next.  Surrogates are not characters and belong to no
set that the operations here give.  Union and complement are computed on the ranges, the other
operations are made of these two.
-/

namespace RelGraph.Text

/-- A set of characters, by its ranges of code points in increasing order. -/
structure CharSet where
  ranges : List (Nat × Nat)
deriving DecidableEq

namespace CharSet

/-- The greatest code point. -/
def maxCode : Nat := 0x10FFFF

/-- A code point lies in one of some increasing ranges. -/
def inIncreasing (n : Nat) : List (Nat × Nat) → Bool
  | [] => false
  | (first, last) :: rest => if n < first then false else n ≤ last || inIncreasing n rest

/-- The code point belongs to the set. -/
def holds (s : CharSet) (n : Nat) : Bool :=
  inIncreasing n s.ranges

/-- The character belongs to the set. -/
def contains (s : CharSet) (c : Char) : Bool :=
  s.holds c.toNat

/-- The set has no members. -/
def isEmpty (s : CharSet) : Bool :=
  s.ranges.isEmpty

/-- All members are ASCII characters. -/
def isAscii (s : CharSet) : Bool :=
  s.ranges.all fun r => r.2 ≤ 0x7F

/-- The only member of a set. -/
def only? (s : CharSet) : Option Char :=
  match s.ranges with
  | [(first, last)] => if first = last then some (Char.ofNat first) else none
  | _ => none

/-! ### Ranges in order -/

/-- Puts a range in front of increasing ranges, none of which starts before it; what overlaps
or touches becomes one range. -/
def prepend (r : Nat × Nat) : List (Nat × Nat) → List (Nat × Nat)
  | [] => [r]
  | s :: rest => if s.1 ≤ r.2 + 1 then prepend (r.1, max r.2 s.2) rest else r :: s :: rest

/-- The parts of a range below and above the surrogates. -/
def withoutSurrogates (r : Nat × Nat) : List (Nat × Nat) :=
  [(r.1, min r.2 0xD7FF), (max r.1 0xE000, r.2)].filter fun p => p.1 ≤ p.2

/-- The set of the characters that lie in some of the ranges. -/
def ofRanges (ranges : List (Nat × Nat)) : CharSet :=
  let parts := ranges.flatMap withoutSurrogates
  ⟨(parts.mergeSort fun a b => a.1 ≤ b.1).foldr prepend []⟩

/-- What is left out by increasing ranges, from a code point on. -/
def gapsFrom (start : Nat) : List (Nat × Nat) → List (Nat × Nat)
  | [] => if start ≤ maxCode then [(start, maxCode)] else []
  | (first, last) :: rest =>
    if start < first then (start, first - 1) :: gapsFrom (last + 1) rest
    else gapsFrom (last + 1) rest

/-! ### Operations -/

/-- The set without members. -/
def empty : CharSet := ⟨[]⟩

/-- The characters from one to another. -/
def range (first last : Nat) : CharSet :=
  ofRanges [(first, last)]

/-- The set with one member. -/
def single (c : Char) : CharSet :=
  ⟨[(c.toNat, c.toNat)]⟩

/-- The characters of both sets together. -/
def union (s t : CharSet) : CharSet :=
  ofRanges (s.ranges ++ t.ranges)

/-- The characters that do not belong to the set. -/
def complement (s : CharSet) : CharSet :=
  ofRanges (gapsFrom 0 s.ranges)

/-- The characters that belong to both sets. -/
def inter (s t : CharSet) : CharSet :=
  (s.complement.union t.complement).complement

/-- The characters of the first set that do not belong to the second. -/
def diff (s t : CharSet) : CharSet :=
  s.inter t.complement

/-- The characters that belong to one of the sets only. -/
def symmDiff (s t : CharSet) : CharSet :=
  (s.union t).diff (s.inter t)

end CharSet

end RelGraph.Text
