import RelGraph.Text.Case.Folding
import RelGraph.Text.Regex.Tree

/-!
# The expression of a pattern

The flags in force decide which expression a part of a pattern stands for.  A change of flags
lasts to the end of the group in which it stands, across the branches of a choice.  Without
Unicode, only ASCII characters can be named in classes, and nothing can be negated: the result
would match parts of characters.
-/

namespace RelGraph.Text

/-- The flags in force. -/
structure Options where
  caseless : Bool
  lines : Bool
  dotAll : Bool
  swapGreed : Bool
  unicode : Bool
  crlf : Bool

/-- The flags after a change. -/
def Options.change (o : Options) (f : FlagChange) : Options where
  caseless := (f.value? .caseless).getD o.caseless
  lines := (f.value? .lines).getD o.lines
  dotAll := (f.value? .dotAll).getD o.dotAll
  swapGreed := (f.value? .swapGreed).getD o.swapGreed
  unicode := (f.value? .unicode).getD o.unicode
  crlf := (f.value? .crlf).getD o.crlf

/-- The characters of a kind. -/
def CharKind.set : CharKind → CharSet
  | .digit => .digit
  | .word => .word
  | .blank => .blank

/-- The ASCII characters of a kind. -/
def CharKind.asciiSet : CharKind → CharSet
  | .digit => ⟨[(0x30, 0x39)]⟩
  | .word => ⟨[(0x30, 0x39), (0x41, 0x5A), (0x5F, 0x5F), (0x61, 0x7A)]⟩
  | .blank => ⟨[(0x09, 0x0D), (0x20, 0x20)]⟩

/-- The result of an operation on two sets. -/
def ClassOp.apply (s t : CharSet) : ClassOp → CharSet
  | .inter => s.inter t
  | .diff => s.diff t
  | .symmDiff => s.symmDiff t

namespace Options

/-- The set with the variants of its members, if they count as the same. -/
def variants (o : Options) (s : CharSet) : CharSet :=
  if o.caseless then
    if o.unicode then s.withVariants else s.withAsciiVariants
  else s

/-- The set or its complement; there is no complement without Unicode. -/
def negatedSet? (o : Options) (negated : Bool) (s : CharSet) : Option CharSet :=
  if negated then if o.unicode then some s.complement else none else some s

/-- The characters of a kind, or all others. -/
def kindSet? (o : Options) (k : CharKind) (negated : Bool) : Option CharSet :=
  o.negatedSet? negated (if o.unicode then k.set else k.asciiSet)

/-- The characters that a dot matches. -/
def dotSet? (o : Options) : Option CharSet :=
  if !o.unicode then none
  else if o.dotAll then some (CharSet.complement .empty)
  else if o.crlf then some (CharSet.complement ⟨[(0x0A, 0x0A), (0x0D, 0x0D)]⟩)
  else some (CharSet.complement (.single '\n'))

/-- The condition that a mark stands for. -/
def anchor (o : Options) : PositionMark → Anchor
  | .caret => if o.lines then .lineStart o.crlf else .textStart
  | .dollar => if o.lines then .lineEnd o.crlf else .textEnd
  | .textStart => .textStart
  | .textEnd => .textEnd
  | .word e => .word e (!o.unicode)

end Options

namespace ClassPattern

mutual

/-- The characters of a class.  Variants are added before a class is negated, and before two
classes are combined. -/
def set? (o : Options) : ClassPattern → Option CharSet
  | .empty => some .empty
  | .char c => if o.unicode || c.toNat < 0x80 then some (.single c) else none
  | .range first last =>
    if o.unicode || last.toNat < 0x80 then some (.range first.toNat last.toNat) else none
  | .kind k negated => o.kindSet? k negated
  | .named s negated => o.negatedSet? negated (o.variants s)
  | .property s negated => if o.unicode then o.negatedSet? negated (o.variants s) else none
  | .bracketed negated k => do o.negatedSet? negated (o.variants (← set? o k))
  | .union ks => do return .ofRanges (← rangesOfAll? o ks)
  | .op f k l => do return f.apply (o.variants (← set? o k)) (o.variants (← set? o l))

/-- The ranges of some classes together. -/
def rangesOfAll? (o : Options) : List ClassPattern → Option (List (Nat × Nat))
  | [] => some []
  | k :: ks => do return (← set? o k).ranges ++ (← rangesOfAll? o ks)

end

end ClassPattern

namespace Pattern

mutual

/-- The expression of a pattern under some flags, with the flags after it; `n` is the number of
the next group, and the one after the pattern is given too. -/
def regexFrom? (o : Options) (n : Nat) : Pattern → Option (Regex × Options × Nat)
  | .empty => some (.empty, o, n)
  | .flags f => some (.empty, o.change f, n)
  | .char c asByte =>
    if !o.unicode && asByte && 0x80 ≤ c.toNat then none
    else some (.ofSet (o.variants (.single c)), o, n)
  | .dot => do return (.ofSet (← o.dotSet?), o, n)
  | .ofClass k => do return (.ofSet (← k.set? o), o, n)
  | .mark m => some (.anchor (o.anchor m), o, n)
  | .repeated p least most greedy => do
    let (r, o', n) ← regexFrom? o n p
    return (r.repeats least most (greedy != o'.swapGreed), o', n)
  | .group (.plain f) p => do
    let (r, _, n) ← regexFrom? (o.change f) n p
    return (r, o, n)
  | .group _ p => do
    let (r, _, m) ← regexFrom? o (n + 1) p
    return (.capture n r, o, m)
  | .seq ps => do
    let (rs, o, n) ← regexesFrom? o n ps
    return (.sequence rs, o, n)
  | .alt ps => do
    let (rs, o, n) ← regexesFrom? o n ps
    return (.choice rs, o, n)

/-- The expressions of some patterns, each under the flags that the one before it leaves. -/
def regexesFrom? (o : Options) (n : Nat) : List Pattern → Option (List Regex × Options × Nat)
  | [] => some ([], o, n)
  | p :: ps => do
    let (r, o, n) ← regexFrom? o n p
    let (rs, o, n) ← regexesFrom? o n ps
    return (r :: rs, o, n)

end

/-- The expression of a pattern. -/
def regex? (p : Pattern) (o : Options) : Option Regex :=
  (p.regexFrom? o 1).map Prod.fst

end Pattern

end RelGraph.Text
