import RelGraph.Text.Property.Word
import RelGraph.Text.Regex.Pattern

/-!
# Regular expressions

A regular expression in a form in which flags have been carried out and sequences and choices
are simplified: sequences and choices are flat, neighbouring texts are one text, a choice
between single characters or between sets is a set, and what all branches of a choice start with
stands in front of it.  `ofSet`, `repeats`, `sequence` and `choice` build this form.
-/

namespace RelGraph.Text

/-- A condition on a position between two characters. -/
inductive Anchor where
  | textStart
  | textEnd
  /-- A line starts here; with `crlf`, a line may also end with a carriage return. -/
  | lineStart (crlf : Bool)
  | lineEnd (crlf : Bool)
  /-- A condition on the words around; with `ascii`, words are those of ASCII. -/
  | word (e : WordEdge) (ascii : Bool)
deriving DecidableEq

/-- A regular expression. -/
inductive Regex where
  | empty
  /-- The given characters, at least one. -/
  | text (cs : List Char)
  /-- One character of a set. -/
  | set (s : CharSet)
  | anchor (a : Anchor)
  /-- At least `least` times, and at most `most` times if it is given. -/
  | repeated (r : Regex) (least : Nat) (most : Option Nat) (greedy : Bool)
  /-- A group with its number. -/
  | capture (index : Nat) (r : Regex)
  | seq (rs : List Regex)
  | alt (rs : List Regex)

namespace Regex

mutual

/-- Both expressions are built in the same way. -/
def same : Regex → Regex → Bool
  | .empty, .empty => true
  | .text cs, .text ds => cs == ds
  | .set s, .set t => s == t
  | .anchor a, .anchor b => a == b
  | .repeated r least most greedy, .repeated s least' most' greedy' =>
    least == least' && most == most' && greedy == greedy' && same r s
  | .capture i r, .capture j s => i == j && same r s
  | .seq rs, .seq ss => sameAll rs ss
  | .alt rs, .alt ss => sameAll rs ss
  | _, _ => false

/-- Both lists of expressions are built in the same way. -/
def sameAll : List Regex → List Regex → Bool
  | [], [] => true
  | r :: rs, s :: ss => same r s && sameAll rs ss
  | _, _ => false

end

/-! ### Length -/

/-- The smaller one of two lengths; none if one of them is missing. -/
def lesser? (m n : Option Nat) : Option Nat := do
  return min (← m) (← n)

/-- The greater one of two lengths; none if one of them is missing. -/
def greater? (m n : Option Nat) : Option Nat := do
  return max (← m) (← n)

/-- The sum of two lengths; none if one of them is missing. -/
def total? (m n : Option Nat) : Option Nat := do
  return (← m) + (← n)

mutual

/-- The least length of a match; none if a set without members stands somewhere. -/
def minLength : Regex → Option Nat
  | .empty => some 0
  | .text cs => some cs.length
  | .set s => if s.isEmpty then none else some 1
  | .anchor _ => some 0
  | .repeated r least _ _ => r.minLength.map (· * least)
  | .capture _ r => r.minLength
  | .seq rs => minLengthOfSeq rs
  | .alt rs => minLengthOfAlt rs

/-- The least length of a match of a sequence. -/
def minLengthOfSeq : List Regex → Option Nat
  | [] => some 0
  | r :: rs => total? r.minLength (minLengthOfSeq rs)

/-- The least length of a match of a choice. -/
def minLengthOfAlt : List Regex → Option Nat
  | [] => none
  | [r] => r.minLength
  | r :: rs => lesser? r.minLength (minLengthOfAlt rs)

end

mutual

/-- The greatest length of a match; none if there is no bound. -/
def maxLength : Regex → Option Nat
  | .empty => some 0
  | .text cs => some cs.length
  | .set s => if s.isEmpty then none else some 1
  | .anchor _ => some 0
  | .repeated r _ most _ => do return (← r.maxLength) * (← most)
  | .capture _ r => r.maxLength
  | .seq rs => maxLengthOfSeq rs
  | .alt rs => maxLengthOfAlt rs

/-- The greatest length of a match of a sequence. -/
def maxLengthOfSeq : List Regex → Option Nat
  | [] => some 0
  | r :: rs => total? r.maxLength (maxLengthOfSeq rs)

/-- The greatest length of a match of a choice. -/
def maxLengthOfAlt : List Regex → Option Nat
  | [] => none
  | [r] => r.maxLength
  | r :: rs => greater? r.maxLength (maxLengthOfAlt rs)

end

/-! ### Anchored expressions -/

mutual

/-- Every match starts at the start of the text. -/
def startsAtStart : Regex → Bool
  | .anchor a => a == .textStart
  | .repeated r least _ _ => 0 < least && r.startsAtStart
  | .capture _ r => r.startsAtStart
  | .seq rs => seqStartsAtStart rs
  | .alt rs => !rs.isEmpty && altStartsAtStart rs
  | _ => false

/-- A part of the sequence that nothing but conditions precede starts at the start. -/
def seqStartsAtStart : List Regex → Bool
  | [] => false
  | r :: rs => r.startsAtStart || (r.maxLength == some 0 && seqStartsAtStart rs)

/-- All branches start at the start. -/
def altStartsAtStart : List Regex → Bool
  | [] => true
  | r :: rs => r.startsAtStart && altStartsAtStart rs

end

mutual

/-- Every match ends at the end of the text. -/
def endsAtEnd : Regex → Bool
  | .anchor a => a == .textEnd
  | .repeated r least _ _ => 0 < least && r.endsAtEnd
  | .capture _ r => r.endsAtEnd
  | .seq rs => seqEndsAtEnd rs
  | .alt rs => !rs.isEmpty && altEndsAtEnd rs
  | _ => false

/-- A part of the sequence that nothing but conditions follow ends at the end. -/
def seqEndsAtEnd : List Regex → Bool
  | [] => false
  | r :: rs => seqEndsAtEnd rs || (maxLengthOfSeq rs == some 0 && r.endsAtEnd)

/-- All branches end at the end. -/
def altEndsAtEnd : List Regex → Bool
  | [] => true
  | r :: rs => r.endsAtEnd && altEndsAtEnd rs

end

/-! ### Simplified expressions -/

/-- One character of a set; a set with one member is a text. -/
def ofSet (s : CharSet) : Regex :=
  match s.only? with
  | some c => .text [c]
  | none => .set s

/-- The number of times that an expression which only matches the empty text is repeated at
most. -/
def clipped (r : Regex) (least : Nat) (most : Option Nat) : Nat × Option Nat :=
  if r.maxLength = some 0 then (min least 1, some (min (most.getD 1) 1)) else (least, most)

/-- A repetition; no times is empty, and once is the expression itself. -/
def repeats (r : Regex) (least : Nat) (most : Option Nat) (greedy : Bool) : Regex :=
  match clipped r least most with
  | (0, some 0) => .empty
  | (1, some 1) => r
  | (least, most) => .repeated r least most greedy

/-- The parts of a sequence of which an expression consists. -/
def parts : Regex → List Regex
  | .empty => []
  | .seq rs => rs
  | r => [r]

/-- Puts an expression in front of a sequence; neighbouring texts become one. -/
def putBefore : Regex → List Regex → List Regex
  | .text cs, .text ds :: rest => .text (cs ++ ds) :: rest
  | r, rest => r :: rest

/-- A sequence without empty parts, inner sequences and neighbouring texts. -/
def sequence (rs : List Regex) : Regex :=
  match (rs.flatMap parts).foldr putBefore [] with
  | [] => .empty
  | [r] => r
  | rs => .seq rs

/-- The branches of a choice of which an expression consists. -/
def branches : Regex → List Regex
  | .alt rs => rs
  | r => [r]

/-- The only character that an expression matches. -/
def char? : Regex → Option Char
  | .text [c] => some c
  | _ => none

/-- The set that an expression is. -/
def set? : Regex → Option CharSet
  | .set s => some s
  | _ => none

/-- The parts of a sequence. -/
def seq? : Regex → Option (List Regex)
  | .seq rs => some rs
  | _ => none

/-- How many parts two sequences have in common at their start. -/
def commonLength : List Regex → List Regex → Nat
  | r :: rs, s :: ss => if same r s then commonLength rs ss + 1 else 0
  | _, _ => 0

/-- The number of parts that all sequences have in common at their start. -/
def commonStart : List (List Regex) → Nat
  | [] => 0
  | rs :: rest => rest.foldl (fun n ss => min n (commonLength rs ss)) rs.length

mutual

/-- The number of expressions of which an expression consists. -/
def weight : Regex → Nat
  | .repeated r _ _ _ => r.weight + 1
  | .capture _ r => r.weight + 1
  | .seq rs => weightOfAll rs + 1
  | .alt rs => weightOfAll rs + 1
  | _ => 1

/-- The number of expressions of which some expressions consist. -/
def weightOfAll : List Regex → Nat
  | [] => 0
  | r :: rs => r.weight + weightOfAll rs

end

/-- A choice.  A choice between single characters or sets is a set, and what all branches start
with is put in front of it; `fuel` bounds how often that is done. -/
def choiceUpTo : Nat → List Regex → Regex
  | fuel, rs =>
    match rs.flatMap branches with
    | [] => .set .empty
    | [r] => r
    | rs =>
      match rs.mapM char?, rs.mapM set?, rs.mapM seq? with
      | some cs, _, _ => ofSet (.ofRanges (cs.map fun c => (c.toNat, c.toNat)))
      | none, some sets, _ => ofSet (.ofRanges (sets.flatMap CharSet.ranges))
      | none, none, some seqs =>
        match fuel, commonStart seqs, seqs with
        | fuel + 1, n + 1, first :: _ =>
          let rest := seqs.map fun rs => sequence (rs.drop (n + 1))
          sequence (first.take (n + 1) ++ [choiceUpTo fuel rest])
        | _, _, _ => .alt rs
      | none, none, none => .alt rs

/-- A choice between some expressions. -/
def choice (rs : List Regex) : Regex :=
  choiceUpTo (weightOfAll rs) rs

end Regex

end RelGraph.Text
