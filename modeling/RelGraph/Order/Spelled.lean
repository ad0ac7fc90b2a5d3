/-!
# Spelled values

A type is spelled when each of its values is written as a list of words, and the words of a
value end where the value ends: whatever follows them can not be taken for a part of it.
Comparing two spellings word by word orders the values by their form first, then by their
parts from left to right.  This is a linear order, since a value is determined by its words.
-/

namespace RelGraph

open Std

/-- A writing of the values of `α` as lists of words, none of which goes on with another. -/
class Spelled (α : Type) where
  /-- The words of a value. -/
  words : α → List String
  /-- The words of a value end where the value ends. -/
  words_append_inj : ∀ {a b : α} {r s : List String},
    words a ++ r = words b ++ s → a = b ∧ r = s

namespace Spelled

variable {α β : Type}

/-- A value is determined by its words. -/
theorem words_inj [Spelled α] {a b : α} (h : words a = words b) :
  a = b
  := (words_append_inj (r := []) (s := []) (by rw [h])).1

/-- The order of the spellings. -/
def ordering [Spelled α] (a b : α) : Ordering :=
  compare (words a) (words b)

instance [Spelled α] : TransCmp (ordering : α → α → Ordering) :=
  inferInstanceAs (TransCmp (compareOn words))

theorem ordering_eq_iff [Spelled α] {a b : α} :
  ordering a b = .eq ↔ a = b
  := by
  constructor
  · intro h
    apply words_inj
    apply LawfulEqOrd.eq_of_compare h
  · rintro rfl
    apply ReflCmp.compare_self

theorem ordering_swap [Spelled α] (a b : α) :
  (ordering a b).swap = ordering b a
  := OrientedCmp.eq_swap.symm

theorem ordering_lt_trans [Spelled α] {a b c : α} (hab : ordering a b = .lt) (hbc : ordering b c = .lt) :
  ordering a c = .lt
  := TransCmp.lt_trans hab hbc

theorem ordering_lt_of_gt [Spelled α] {a b : α} (h : ordering a b = .gt) :
  ordering b a = .lt
  := by
  rw [← ordering_swap, h]
  rfl

theorem ordering_irrefl [Spelled α] (a : α) :
  ordering a a ≠ .lt
  := by
  simp [ordering_eq_iff.2 rfl]

/-- The smaller or equal of two values comes first. -/
def le [Spelled α] (a b : α) : Bool :=
  (ordering a b).isLE

/-- Equality of spelled values is equality of their words. -/
@[reducible] def decEq [Spelled α] : DecidableEq α := fun a b =>
  decidable_of_iff (words a = words b) ⟨words_inj, congrArg words⟩

/-- A text is one word. -/
instance : Spelled String where
  words s := [s]
  words_append_inj h := by simpa using h

/-- An absent value is the word `0`; a present one follows the word `1`. -/
instance [Spelled α] : Spelled (Option α) where
  words
    | none => ["0"]
    | some a => "1" :: words a
  words_append_inj {a b r s} h := by
    cases a <;> cases b <;> simp at h ⊢
    · exact h
    · exact words_append_inj h

/-- The components of a pair, one after the other. -/
instance [Spelled α] [Spelled β] : Spelled (α × β) where
  words p := words p.1 ++ words p.2
  words_append_inj {a b r s} h := by
    simp only [List.append_assoc] at h
    obtain ⟨h₁, h₂⟩ := words_append_inj h
    obtain ⟨h₃, h₄⟩ := words_append_inj h₂
    exact ⟨Prod.ext h₁ h₃, h₄⟩

/-- The words of a list: each member follows the word `1`, and the word `0` ends them. -/
def listWords (w : α → List String) : List α → List String
  | [] => ["0"]
  | a :: as => "1" :: (w a ++ listWords w as)

theorem listWords_append_inj [Spelled α] {as bs : List α} {r s : List String}
    (h : listWords words as ++ r = listWords words bs ++ s) :
  as = bs ∧ r = s
  := by
  induction as generalizing bs with
  | nil => cases bs <;> simp_all [listWords]
  | cons a as ih =>
    cases bs with
    | nil => simp [listWords] at h
    | cons b bs =>
      simp only [listWords, List.cons_append, List.append_assoc, List.cons.injEq, true_and] at h
      obtain ⟨hab, hr⟩ := words_append_inj h
      obtain ⟨hl, hs⟩ := ih hr
      exact ⟨by rw [hab, hl], hs⟩

/-- A list is spelled member by member. -/
instance [Spelled α] : Spelled (List α) where
  words := listWords words
  words_append_inj := listWords_append_inj

/-- A type that embeds into a spelled one is spelled through the embedding. -/
@[reducible] def ofInjective [Spelled β] (f : α → β) (inj : ∀ {a b : α}, f a = f b → a = b) :
    Spelled α where
  words a := words (f a)
  words_append_inj h := by
    obtain ⟨h₁, h₂⟩ := words_append_inj h
    exact ⟨inj h₁, h₂⟩

end Spelled

end RelGraph
