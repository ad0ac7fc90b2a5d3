import Mathlib.Order.Compare
import Mathlib.Tactic.Common
import RelGraph.Sparql.Value

/-!
# The order of values

Values of all kinds are sorted, but the order of numbers and that of texts do not go together.  On
values whose literals are sorted by their texts, and on values whose literals are exact numbers, it
is a total preorder: it compares some properties of the values, one after the other.
-/

namespace RelGraph.Sparql.Value

open Rdf Xsd

variable {v w : Value} {a b : Option Value}

/-! ### Kinds of values -/

/-- The value is an IRI or a blank node. -/
def isResource : Value → Bool
  | .iri _ | .blank _ => true
  | _ => false

/-- The value is a literal that is sorted by its text: a string with a language or without, a truth
value, or a literal that has not been read. -/
def isText : Value → Bool
  | .string _ | .tagged _ _ | .boolean _ | .other _ _ => true
  | _ => false

/-- The value is an integer or a decimal number. -/
def isExact : Value → Bool
  | .integer _ | .decimal _ => true
  | _ => false

/-- The value is missing, or a resource, or a literal that is sorted by its text. -/
def AmongTexts (v : Option Value) : Prop := ∀ w ∈ v, w.isResource = true ∨ w.isText = true

instance (v : Option Value) : Decidable (AmongTexts v) :=
  inferInstanceAs (Decidable (∀ w ∈ v, _ ∨ _))

/-- The value is missing, or a resource, or an exact number. -/
def AmongNumbers (v : Option Value) : Prop := ∀ w ∈ v, w.isResource = true ∨ w.isExact = true

instance (v : Option Value) : Decidable (AmongNumbers v) :=
  inferInstanceAs (Decidable (∀ w ∈ v, _ ∨ _))

/-! ### What is compared -/

/-- What is missing comes first, then blank nodes, IRIs and literals. -/
def rank : Option Value → Nat
  | none => 0
  | some (.blank _) => 1
  | some (.iri _) => 2
  | some _ => 3

/-- The text of a resource. -/
def resourceText : Option Value → String
  | some (.blank b) => b.render
  | some (.iri i) => i.text
  | _ => ""

/-- The literal of a value. -/
def literal? (v : Option Value) : Option Literal :=
  match v.map toTerm with
  | some (.literal l) => some l
  | _ => none

/-- The text of a literal. -/
def literalText (v : Option Value) : String := ((literal? v).map Literal.value).getD ""

/-- The text of the datatype of a literal. -/
def datatypeText (v : Option Value) : String := ((literal? v).map (·.datatype.text)).getD ""

/-- The language of a literal. -/
def language (v : Option Value) : Option String := (literal? v).bind Literal.language?

/-- The units of an exact number. -/
def units : Option Value → Int
  | some (.integer n) => (Decimal.ofInt n).units
  | some (.decimal d) => d.units
  | _ => 0

/-- Compares resources by their texts, and literals after them. -/
def compareResources : Option Value → Option Value → Ordering :=
  compareLex (compareOn rank) (compareOn resourceText)

/-- Compares values, and literals by their texts. -/
def compareByTexts : Option Value → Option Value → Ordering :=
  compareLex compareResources
    (compareLex (compareOn literalText) (compareLex (compareOn datatypeText) (compareOn language)))

/-- Compares values, and literals as numbers. -/
def compareByUnits : Option Value → Option Value → Ordering :=
  compareLex compareResources (compareOn units)

instance : Std.TransCmp compareResources := by
  unfold compareResources
  infer_instance

instance : Std.TransCmp compareByTexts := by
  unfold compareByTexts
  infer_instance

instance : Std.TransCmp compareByUnits := by
  unfold compareByUnits
  infer_instance

/-! ### Resources and literals -/

theorem rank_of_literal (h : v.isResource = false) : rank (some v) = 3 := by
  cases v with
  | iri i => cases h
  | blank b => cases h
  | _ => rfl

theorem resourceText_of_literal (h : v.isResource = false) :
  resourceText (some v) = ""
  := by
  cases v with
  | iri i => cases h
  | blank b => cases h
  | _ => rfl

theorem order_of_resource (v : Value) {w : Value} (hv : v.isResource = true)
    (hw : w.isResource = false) :
  v.order w = .lt ∧ w.order v = .gt
  := by
  cases w with
  | iri i => cases hw
  | blank b => cases hw
  | _ =>
    cases v with
    | iri i => exact ⟨rfl, rfl⟩
    | blank b => exact ⟨rfl, rfl⟩
    | _ => cases hv

theorem order_of_literals (hv : v.isResource = false) (hw : w.isResource = false) :
  v.order w = (v.compareLiterals? w).getD (v.compareTexts w)
  := by
  cases v with
  | iri i => cases hv
  | blank b => cases hv
  | _ =>
    cases w with
    | iri i => cases hw
    | blank b => cases hw
    | _ => rfl

/-- A value is missing, a blank node, an IRI or a literal. -/
theorem cases_of_option (v : Option Value) :
  v = none ∨ (∃ b, v = some (.blank b)) ∨ (∃ i, v = some (.iri i)) ∨
    ∃ w, v = some w ∧ w.isResource = false
  := by
  cases v with
  | none => exact .inl rfl
  | some w =>
    cases w with
    | blank b => exact .inr (.inl ⟨b, rfl⟩)
    | iri i => exact .inr (.inr (.inl ⟨i, rfl⟩))
    | _ => exact .inr (.inr (.inr ⟨_, rfl, rfl⟩))

/-- Values are sorted by their ranks, and resources of one rank by their texts. -/
theorem orderOptions_eq_compareResources (h : rank a ≠ 3 ∨ rank b ≠ 3) :
  orderOptions a b = compareResources a b
  := by
  obtain rfl | ⟨x, rfl⟩ | ⟨i, rfl⟩ | ⟨v, rfl, hv⟩ := cases_of_option a
  · obtain rfl | ⟨y, rfl⟩ | ⟨j, rfl⟩ | ⟨w, rfl, hw⟩ := cases_of_option b
    · rfl
    · rfl
    · rfl
    · simp only [orderOptions, compareResources, compareLex, compareOn, rank_of_literal hw]
      rfl
  · obtain rfl | ⟨y, rfl⟩ | ⟨j, rfl⟩ | ⟨w, rfl, hw⟩ := cases_of_option b
    · rfl
    · rfl
    · rfl
    · simp only [orderOptions, compareResources, compareLex, compareOn, rank_of_literal hw,
        (order_of_resource (.blank x) rfl hw).1]
      rfl
  · obtain rfl | ⟨y, rfl⟩ | ⟨j, rfl⟩ | ⟨w, rfl, hw⟩ := cases_of_option b
    · rfl
    · rfl
    · rfl
    · simp only [orderOptions, compareResources, compareLex, compareOn, rank_of_literal hw,
        (order_of_resource (.iri i) rfl hw).1]
      rfl
  · have hrank := rank_of_literal hv
    obtain rfl | ⟨y, rfl⟩ | ⟨j, rfl⟩ | ⟨w, rfl, hw⟩ := cases_of_option b
    · simp only [orderOptions, compareResources, compareLex, compareOn, hrank]
      rfl
    · simp only [orderOptions, compareResources, compareLex, compareOn, hrank,
        (order_of_resource (.blank y) rfl hv).2]
      rfl
    · simp only [orderOptions, compareResources, compareLex, compareOn, hrank,
        (order_of_resource (.iri j) rfl hv).2]
      rfl
    · exact absurd h (by simp [hrank, rank_of_literal hw])

theorem exists_literal_of_rank {a : Option Value} (h : rank a = 3) :
  ∃ v, a = some v ∧ v.isResource = false
  := by
  obtain rfl | ⟨x, rfl⟩ | ⟨i, rfl⟩ | hv := cases_of_option a
  · cases h
  · cases h
  · cases h
  · exact hv

/-- If a comparison orders the literals of one kind, and does not tell resources apart, then values
among them are sorted by it after the resources. -/
theorem orderOptions_eq_compareLex {Q : Value → Bool} {c : Option Value → Option Value → Ordering}
    (horder : ∀ v w, Q v = true → Q w = true → v.order w = c (some v) (some w))
    (hresources : ∀ a b, rank a ≠ 3 → rank b ≠ 3 → c a b = .eq)
    (ha : ∀ w ∈ a, w.isResource = true ∨ Q w = true)
    (hb : ∀ w ∈ b, w.isResource = true ∨ Q w = true) :
  orderOptions a b = compareLex compareResources c a b
  := by
  by_cases hrank : rank a ≠ 3 ∨ rank b ≠ 3
  · rw [orderOptions_eq_compareResources hrank, compareLex]
    cases hc : compareResources a b with
    | lt => rfl
    | gt => rfl
    | eq =>
      have heq : rank a = rank b := by
        obtain ⟨h, -⟩ := Ordering.then_eq_eq.mp hc
        exact Std.LawfulEqOrd.eq_of_compare h
      rw [heq, or_self] at hrank
      exact (hresources a b (heq ▸ hrank) hrank).symm
  · obtain ⟨ha3, hb3⟩ := not_or.mp hrank
    obtain ⟨v, rfl, hv⟩ := exists_literal_of_rank (not_not.mp ha3)
    obtain ⟨w, rfl, hw⟩ := exists_literal_of_rank (not_not.mp hb3)
    have hvQ := (ha v rfl).resolve_left (by simp [hv])
    have hwQ := (hb w rfl).resolve_left (by simp [hw])
    simp [orderOptions, compareLex, compareResources, compareOn, rank_of_literal,
      resourceText_of_literal, hv, hw, horder v w hvQ hwQ]

/-! ### Literals sorted by their texts -/

theorem isResource_of_isText (h : v.isText = true) : v.isResource = false := by
  cases v with
  | iri i => cases h
  | blank b => cases h
  | _ => rfl

theorem compareLanguages_eq_compare (l m : Option String) : compareLanguages l m = compare l m := by
  cases l <;> cases m <;> rfl

theorem order_of_isText (hv : v.isText = true) (hw : w.isText = true) :
  v.order w = v.compareTexts w
  := by
  rw [order_of_literals (isResource_of_isText hv) (isResource_of_isText hw)]
  cases v with
  | string s =>
    cases w with
    | string t =>
      simp [compareLiterals?, compareTexts, toTerm, Literal.value, Literal.datatype,
        Literal.language?, compareLanguages]
    | tagged t m => rfl
    | boolean b => rfl
    | other t d => rfl
    | _ => cases hw
  | tagged s l =>
    cases w with
    | string t => rfl
    | tagged t m =>
      by_cases h : l = m
      · simp [compareLiterals?, compareTexts, toTerm, Literal.value, Literal.datatype,
          Literal.language?, compareLanguages, h]
      · simp [compareLiterals?, h]
    | boolean b => rfl
    | other t d => rfl
    | _ => cases hw
  | boolean b =>
    cases w with
    | string t => rfl
    | tagged t m => rfl
    | boolean c => cases b <;> cases c <;> decide
    | other t d => rfl
    | _ => cases hw
  | other s d =>
    cases w with
    | string t => rfl
    | tagged t m => rfl
    | boolean b => rfl
    | other t e => rfl
    | _ => cases hw
  | _ => cases hv

theorem exists_literal?_of_literal (h : v.isResource = false) :
  ∃ l, v.toTerm = .literal l ∧ literal? (some v) = some l
  := by
  cases v with
  | iri i => cases h
  | blank b => cases h
  | _ => exact ⟨_, rfl, rfl⟩

theorem compareTexts_of_literals (hv : v.isResource = false) (hw : w.isResource = false) :
  v.compareTexts w = compareLex (compareOn literalText)
    (compareLex (compareOn datatypeText) (compareOn language)) (some v) (some w)
  := by
  obtain ⟨l, hvl, hl⟩ := exists_literal?_of_literal hv
  obtain ⟨m, hwm, hm⟩ := exists_literal?_of_literal hw
  simp [compareTexts, hvl, hwm, compareLex, compareOn, literalText, datatypeText, language, hl, hm,
    compareLanguages_eq_compare, Ordering.then_assoc]

theorem literal?_of_rank_ne {a : Option Value} (h : rank a ≠ 3) : literal? a = none := by
  obtain rfl | ⟨x, rfl⟩ | ⟨i, rfl⟩ | ⟨v, rfl, hv⟩ := cases_of_option a
  · rfl
  · rfl
  · rfl
  · exact absurd (rank_of_literal hv) h

/-- Among literals that are sorted by their texts, values are sorted by their kinds and texts. -/
theorem orderOptions_eq_compareByTexts (ha : AmongTexts a) (hb : AmongTexts b) :
  orderOptions a b = compareByTexts a b
  := by
  refine orderOptions_eq_compareLex ?_ ?_ ha hb
  · intro v w hv hw
    rw [order_of_isText hv hw]
    exact compareTexts_of_literals (isResource_of_isText hv) (isResource_of_isText hw)
  · intro c d hc hd
    simp [compareLex, compareOn, literalText, datatypeText, language, literal?_of_rank_ne hc,
      literal?_of_rank_ne hd]

/-! ### Exact numbers -/

theorem isResource_of_isExact (h : v.isExact = true) : v.isResource = false := by
  cases v with
  | integer n => rfl
  | decimal d => rfl
  | _ => cases h

/-- Integers are in the order of their units. -/
theorem compare_mul_one (m n : Int) :
  compare (m * Decimal.one) (n * Decimal.one) = compare m n
  := by
  have hone : 0 < Decimal.one := by decide
  simp only [compare, compareOfLessAndEq, Int.mul_lt_mul_right hone,
    Int.mul_eq_mul_right_iff (Int.ne_of_gt hone)]

theorem order_of_isExact (hv : v.isExact = true) (hw : w.isExact = true) :
  v.order w = compare (units (some v)) (units (some w))
  := by
  rw [order_of_literals (isResource_of_isExact hv) (isResource_of_isExact hw)]
  cases v with
  | integer m =>
    cases w with
    | integer n => exact (compare_mul_one m n).symm
    | decimal d => rfl
    | _ => cases hw
  | decimal d =>
    cases w with
    | integer n => rfl
    | decimal e => rfl
    | _ => cases hw
  | _ => cases hv

theorem units_of_rank_ne {a : Option Value} (h : rank a ≠ 3) : units a = 0 := by
  obtain rfl | ⟨x, rfl⟩ | ⟨i, rfl⟩ | ⟨v, rfl, hv⟩ := cases_of_option a
  · rfl
  · rfl
  · rfl
  · exact absurd (rank_of_literal hv) h

/-- Among exact numbers, values are sorted by their kinds and as numbers. -/
theorem orderOptions_eq_compareByUnits (ha : AmongNumbers a) (hb : AmongNumbers b) :
  orderOptions a b = compareByUnits a b
  := by
  refine orderOptions_eq_compareLex ?_ ?_ ha hb
  · intro v w hv hw
    exact order_of_isExact hv hw
  · intro c d hc hd
    simp [compareOn, units_of_rank_ne hc, units_of_rank_ne hd]

/-! ### Total preorders -/

/-- What is compared by some property is in a total preorder if that property is. -/
theorem transCmp_of_eq {α β : Type} {c : β → β → Ordering} {d : α → α → Ordering} [Std.TransCmp c]
    (f : α → β) (h : ∀ x y, d x y = c (f x) (f y)) :
  Std.TransCmp d
  where
  eq_swap := by
    intro x y
    rw [h x y, h y x]
    exact Std.OrientedCmp.eq_swap
  isLE_trans := by
    intro x y z hxy hyz
    rw [h] at hxy hyz ⊢
    exact Std.TransCmp.isLE_trans hxy hyz

theorem transCmp_amongTexts :
  Std.TransCmp fun x y : {v // AmongTexts v} => orderOptions x.1 y.1
  := transCmp_of_eq Subtype.val fun x y => orderOptions_eq_compareByTexts x.2 y.2

theorem transCmp_amongNumbers :
  Std.TransCmp fun x y : {v // AmongNumbers v} => orderOptions x.1 y.1
  := transCmp_of_eq Subtype.val fun x y => orderOptions_eq_compareByUnits x.2 y.2

end RelGraph.Sparql.Value
