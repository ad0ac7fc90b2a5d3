import RelGraph.Text.CharSet

/-!
# Patterns

A pattern is a regular expression as it is written: flags, groups and classes of characters are
kept as they stand, and what a flag does to what follows it is left open.  `depth` tells how
deep the parts of a pattern are nested.
-/

namespace RelGraph.Text

/-- A kind of characters with a name of one letter. -/
inductive CharKind where
  | digit
  | word
  | blank

/-- A condition on the words before and after a position. -/
inductive WordEdge where
  /-- A word starts or ends here. -/
  | boundary
  /-- No word starts or ends here. -/
  | noBoundary
  /-- A word starts here. -/
  | start
  /-- A word ends here. -/
  | finish
  /-- No word comes from before. -/
  | startHalf
  /-- No word goes on. -/
  | finishHalf
deriving DecidableEq

/-- A condition on a position, as it is written. -/
inductive PositionMark where
  | caret
  | dollar
  | textStart
  | textEnd
  | word (e : WordEdge)

/-- A flag that can be set and cleared inside a pattern. -/
inductive Flag where
  /-- The variants of a letter count as the same. -/
  | caseless
  /-- A caret and a dollar also match at the start and the end of lines. -/
  | lines
  /-- A dot also matches the end of a line. -/
  | dotAll
  /-- Repetitions are short unless they are marked. -/
  | swapGreed
  /-- Characters and words are those of Unicode, not of ASCII. -/
  | unicode
  /-- A line may also end with a carriage return. -/
  | crlf
  /-- Blanks and comments are left out. -/
  | spaced
deriving DecidableEq

/-- The flags that a part of a pattern sets and clears. -/
structure FlagChange where
  set : List Flag
  cleared : List Flag

/-- No flag is set or cleared. -/
def FlagChange.none : FlagChange := ⟨[], []⟩

/-- The value that a flag gets, if it gets one. -/
def FlagChange.value? (f : FlagChange) (flag : Flag) : Option Bool :=
  if flag ∈ f.set then some true
  else if flag ∈ f.cleared then some false
  else Option.none

/-- Whether blanks are left out after a change of flags. -/
def FlagChange.spacedFrom (f : FlagChange) (spaced : Bool) : Bool :=
  (f.value? .spaced).getD spaced

/-- A binary operation on classes. -/
inductive ClassOp where
  | inter
  | diff
  | symmDiff

/-- A class of characters, as it is written. -/
inductive ClassPattern where
  | empty
  | char (c : Char)
  | range (first last : Char)
  | kind (k : CharKind) (negated : Bool)
  /-- A class of ASCII characters with a name, such as the letters. -/
  | named (s : CharSet) (negated : Bool)
  /-- The characters with a property of Unicode. -/
  | property (s : CharSet) (negated : Bool)
  | bracketed (negated : Bool) (k : ClassPattern)
  | union (ks : List ClassPattern)
  | op (o : ClassOp) (k l : ClassPattern)

/-- What the opening of a group says. -/
inductive Grouping where
  | numbered
  | named (name : String)
  /-- The group is not counted, and changes flags up to its end. -/
  | plain (f : FlagChange)

/-- Whether blanks are left out inside a group. -/
def Grouping.spacedFrom (g : Grouping) (spaced : Bool) : Bool :=
  match g with
  | .plain f => f.spacedFrom spaced
  | _ => spaced

/-- A regular expression, as it is written. -/
inductive Pattern where
  | empty
  | flags (f : FlagChange)
  /-- A character; `asByte` says that it is written with two hexadecimal digits. -/
  | char (c : Char) (asByte : Bool)
  | dot
  | ofClass (k : ClassPattern)
  | mark (m : PositionMark)
  /-- At least `least` times, and at most `most` times if it is given. -/
  | repeated (p : Pattern) (least : Nat) (most : Option Nat) (greedy : Bool)
  | group (g : Grouping) (p : Pattern)
  | seq (ps : List Pattern)
  | alt (ps : List Pattern)

namespace ClassPattern

/-- The union of some items. -/
def ofItems : List ClassPattern → ClassPattern
  | [] => .empty
  | [k] => k
  | ks => .union ks

mutual

/-- How deep the brackets, unions and operations of a class are nested. -/
def depth : ClassPattern → Nat
  | .bracketed _ k => k.depth + 1
  | .union ks => depthOfAll ks + 1
  | .op _ k l => max k.depth l.depth + 1
  | _ => 0

/-- The greatest depth of some classes. -/
def depthOfAll : List ClassPattern → Nat
  | [] => 0
  | k :: ks => max k.depth (depthOfAll ks)

end

end ClassPattern

namespace Pattern

/-- The sequence of some parts. -/
def ofItems : List Pattern → Pattern
  | [] => .empty
  | [p] => p
  | ps => .seq ps

/-- The choice between some branches. -/
def ofBranches : List Pattern → Pattern
  | [] => .empty
  | [p] => p
  | ps => .alt ps

mutual

/-- How deep the groups, repetitions, sequences, choices and classes of a pattern are nested. -/
def depth : Pattern → Nat
  | .ofClass k => k.depth
  | .repeated p _ _ _ => p.depth + 1
  | .group _ p => p.depth + 1
  | .seq ps => depthOfAll ps + 1
  | .alt ps => depthOfAll ps + 1
  | _ => 0

/-- The greatest depth of some patterns. -/
def depthOfAll : List Pattern → Nat
  | [] => 0
  | p :: ps => max p.depth (depthOfAll ps)

end

mutual

/-- The names of the groups. -/
def groupNames : Pattern → List String
  | .repeated p _ _ _ => p.groupNames
  | .group (.named s) p => s :: p.groupNames
  | .group _ p => p.groupNames
  | .seq ps => groupNamesOfAll ps
  | .alt ps => groupNamesOfAll ps
  | _ => []

/-- The names of the groups of some patterns. -/
def groupNamesOfAll : List Pattern → List String
  | [] => []
  | p :: ps => p.groupNames ++ groupNamesOfAll ps

end

end Pattern

end RelGraph.Text
