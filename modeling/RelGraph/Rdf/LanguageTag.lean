import RelGraph.Text.Case
import RelGraph.Text.Split

/-!
# Language tags

The grammar of language tags: a language with its extensions, script, region and variants,
then extensions by single characters, then private parts after an `x`; or private parts only;
or one of the tags that were registered before this grammar.
-/

namespace RelGraph.Rdf

/-- Tags that were registered before the grammar. -/
def grandfatheredTags : List String :=
  ["art-lojban", "cel-gaulish", "en-gb-oed", "i-ami", "i-bnn", "i-default", "i-enochian", "i-hak",
   "i-klingon", "i-lux", "i-mingo", "i-navajo", "i-pwn", "i-tao", "i-tay", "i-tsu", "no-bok",
   "no-nyn", "sgn-be-fr", "sgn-be-nl", "sgn-ch-de", "zh-guoyu", "zh-hakka", "zh-min",
   "zh-min-nan", "zh-xiang"]

namespace Subtag

/-- ASCII letters only. -/
def isLetters (s : List Char) : Bool := s.all Char.isAlpha

/-- ASCII letters and digits only. -/
def isAlphanums (s : List Char) : Bool := s.all Char.isAlphanum

/-- A language. -/
def isLanguage (s : List Char) : Bool := 2 ≤ s.length && s.length ≤ 8 && isLetters s

/-- An extension of a language. -/
def isExtlang (s : List Char) : Bool := s.length = 3 && isLetters s

/-- A script. -/
def isScript (s : List Char) : Bool := s.length = 4 && isLetters s

/-- A region. -/
def isRegion (s : List Char) : Bool :=
  (s.length = 2 && isLetters s) || (s.length = 3 && s.all Char.isDigit)

/-- A variant. -/
def isVariant (s : List Char) : Bool :=
  isAlphanums s && s.length ≤ 8 &&
    match s with
    | c :: _ => (c.isAlpha && 5 ≤ s.length) || (c.isDigit && 4 ≤ s.length)
    | [] => false

/-- The single character that starts an extension. -/
def isSingleton (s : List Char) : Bool := s.length = 1 && isAlphanums s && s ≠ ['x']

/-- A part of an extension. -/
def isExtension (s : List Char) : Bool := 2 ≤ s.length && s.length ≤ 8 && isAlphanums s

/-- A private part. -/
def isPrivate (s : List Char) : Bool := 1 ≤ s.length && s.length ≤ 8 && isAlphanums s

end Subtag

open Subtag

/-- At least one private part and nothing else. -/
def arePrivateParts (ss : List (List Char)) : Bool :=
  !ss.isEmpty && ss.all isPrivate

/-- Leaves out the subtag in front, if it is of a kind. -/
def dropOne (kind : List Char → Bool) : List (List Char) → List (List Char)
  | [] => []
  | s :: ss => if kind s then ss else s :: ss

/-- Extensions and private parts; `pending` tells that an extension has no part yet. -/
def areExtensions (pending : Bool) : List (List Char) → Bool
  | [] => !pending
  | s :: ss =>
    if s = ['x'] then !pending && arePrivateParts ss
    else if isSingleton s then !pending && areExtensions true ss
    else isExtension s && areExtensions false ss

/-- What may follow the variants: nothing, or something that starts with a single character. -/
def isTail : List (List Char) → Bool
  | [] => true
  | s :: ss => s.length = 1 && areExtensions false (s :: ss)

/-- The subtags of a tag that follows the grammar. -/
def isLangTag : List (List Char) → Bool
  | [] => false
  | language :: ss =>
    let afterExtlangs :=
      if language.length ≤ 3 then dropOne isExtlang (dropOne isExtlang (dropOne isExtlang ss))
      else ss
    let afterRegion := dropOne isRegion (dropOne isScript afterExtlangs)
    isLanguage language && isTail (afterRegion.dropWhile isVariant)

/-- The text, in lower case, is a language tag. -/
def isLanguageTag (tag : String) : Bool :=
  grandfatheredTags.contains tag ||
    match Text.split '-' tag.toList with
    | ['x'] :: ss => arePrivateParts ss
    | ss => isLangTag ss

/-- Reads a language tag; its letters are kept in lower case. -/
def languageTag? (text : String) : Option String :=
  let tag := Text.asciiLower text
  if isLanguageTag tag then some tag else none

end RelGraph.Rdf
