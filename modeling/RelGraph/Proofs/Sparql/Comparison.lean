import RelGraph.Proofs.Sparql.Truth

/-!
# Comparison of terms

Terms are compared by their values.  The value of a term that has been read from its text can be
that of another term; all other terms are the same exactly when their values are.
-/

namespace RelGraph.Sparql

open Rdf

/-! ### Values of terms -/

namespace Value

/-- The value has been read from the text of a literal, and can be written in other ways. -/
def isParsed : Value → Bool
  | .boolean _ | .integer _ | .decimal _ | .float _ | .double _ | .dateTime _ => true
  | _ => false

/-- The value is an IRI, a blank node, or a string without a language. -/
def isPlain : Value → Bool
  | .iri _ | .blank _ | .string _ => true
  | _ => false

attribute [local simp] same equal? isNumeric

theorem isParsed_of_typedValue? {s : String} {datatype : Iri} (hne : datatype ≠ Datatype.string)
    {v : Value} (h : typedValue? s datatype = some v) :
  v.isParsed = true
  := by
  simp only [typedValue?, if_neg hne] at h
  split_ifs at h
  all_goals
    obtain ⟨_, -, rfl⟩ := Option.map_eq_some_iff.1 h
    rfl

/-- A term that has not been read is known from its value. -/
theorem toTerm_ofTerm {t : Term} (h : (ofTerm t).isParsed = false) :
  (ofTerm t).toTerm = t
  := by
  cases t with
  | literal l =>
    cases l with
    | typed s datatype hne =>
      rw [ofTerm, ofLiteral] at h ⊢
      cases hv : typedValue? s datatype with
      | none =>
        rw [Option.getD_none, toTerm, Literal.ofDatatype, dif_neg hne]
      | some v =>
        rw [hv, Option.getD_some, isParsed_of_typedValue? hne hv] at h
        cases h
    | _ => rfl
  | _ => rfl

theorem same_iff_eq {v w : Value} (hv : v.isParsed = false) (hw : w.isParsed = false) :
  v.same w = true ↔ v = w
  := by
  cases v <;> cases w <;> simp_all [isParsed]

/-- Values that have been read are not the same as other ones. -/
theorem same_of_isParsed {v w : Value} (hv : v.isParsed = true) (hw : w.isParsed = false) :
  v.same w = false ∧ w.same v = false
  := by
  cases v <;> cases w <;> simp_all [isParsed]

/-- The values of two terms, of which one has not been read, are the same exactly when the terms
are. -/
theorem same_ofTerm {t u : Term}
    (h : (ofTerm t).isParsed = false ∨ (ofTerm u).isParsed = false) :
  (ofTerm t).same (ofTerm u) = decide (t = u)
  := by
  have hne : (ofTerm t).isParsed ≠ (ofTerm u).isParsed → decide (t = u) = false := by
    intro hne
    rw [decide_eq_false_iff_not]
    rintro rfl
    apply hne rfl
  cases ht : (ofTerm t).isParsed with
  | false =>
    cases hu : (ofTerm u).isParsed with
    | false =>
      rw [Bool.eq_iff_iff, decide_eq_true_iff, same_iff_eq ht hu]
      constructor
      · intro heq
        rw [← toTerm_ofTerm ht, heq, toTerm_ofTerm hu]
      · rintro rfl
        rfl
    | true => rw [(same_of_isParsed hu ht).2, hne (by simp [ht, hu])]
  | true =>
    have hu := h.resolve_left (by simp [ht])
    rw [(same_of_isParsed ht hu).1, hne (by simp [ht, hu])]

/-- Whether a value is equal to an IRI is never an error. -/
theorem equal?_iri (v : Value) (i : Iri) :
  v.equal? (.iri i) = some (v.same (.iri i))
    ∧ (Value.iri i).equal? v = some ((Value.iri i).same v)
  := by
  constructor
  · cases v <;> simp [Operands.ofValues?, isDouble, isFloat, toDecimal?, toDouble?, toFloat?]
  · rfl

/-- Whether plain values are equal is never an error. -/
theorem equal?_of_isPlain {v w : Value} (hv : v.isPlain = true) (hw : w.isPlain = true) :
  v.equal? w = some (v.same w)
  := by
  cases v <;> cases w <;> simp_all [isPlain]

/-- The values of terms that are plain, or of which one is an IRI, are equal exactly when the terms
are. -/
theorem equal?_ofTerm {t u : Term}
    (h : ((ofTerm t).isPlain = true ∧ (ofTerm u).isPlain = true)
      ∨ t.isIri = true ∨ u.isIri = true) :
  (ofTerm t).equal? (ofTerm u) = some (decide (t = u))
  := by
  have hparsed {v : Value} (hv : v.isPlain = true) : v.isParsed = false := by
    cases v <;> simp_all [isPlain, isParsed]
  obtain ⟨ht, hu⟩ | ht | hu := h
  · rw [equal?_of_isPlain ht hu, same_ofTerm (.inl (hparsed ht))]
  · cases t with
    | iri i =>
      rw [← same_ofTerm (.inl rfl)]
      apply (equal?_iri _ i).2
    | _ => cases ht
  · cases u with
    | iri i =>
      rw [← same_ofTerm (.inr rfl)]
      apply (equal?_iri _ i).1
    | _ => cases hu

/-- The value of a term is of the kind of the term. -/
theorem toTerm_ofTerm_kind (t : Term) :
  (ofTerm t).toTerm.isIri = t.isIri ∧ (ofTerm t).toTerm.isBlank = t.isBlank
    ∧ (ofTerm t).toTerm.isLiteral = t.isLiteral
  := by
  have hliteral {v : Value} (hv : v.isParsed = true) : ∃ l, v.toTerm = .literal l := by
    cases v <;> simp_all [isParsed, toTerm]
  cases hp : (ofTerm t).isParsed with
  | false =>
    rw [toTerm_ofTerm hp]
    exact ⟨rfl, rfl, rfl⟩
  | true =>
    obtain ⟨l, hl⟩ := hliteral hp
    cases t with
    | literal _ =>
      rw [hl]
      exact ⟨rfl, rfl, rfl⟩
    | _ => cases hp

end Value

theorem allTrue_map_some (ts : List Bool) :
  allTrue (ts.map some) = some (ts.all id)
  := by
  induction ts with
  | nil => rfl
  | cons t ts ih => cases t <;> simp [allTrue_cons, ih]

theorem anyTrue_map_some (ts : List Bool) :
  anyTrue (ts.map some) = some (ts.any id)
  := by
  induction ts with
  | nil => rfl
  | cons t ts ih => cases t <;> simp [anyTrue_cons, ih]

namespace Expression

mutual

/-- The pairs that a condition compares with `sameTerm`. -/
def sameTerms : Expression → List (Expression × Expression)
  | .sameTerm x y => [(x, y)]
  | .and es => sameTermsOf es
  | .or es => sameTermsOf es
  | .not e => sameTerms e
  | _ => []

/-- The pairs that some conditions compare with `sameTerm`. -/
def sameTermsOf : List Expression → List (Expression × Expression)
  | [] => []
  | e :: es => sameTerms e ++ sameTermsOf es

end

theorem sameTermsOf_eq_flatMap (es : List Expression) :
  sameTermsOf es = es.flatMap sameTerms
  := by
  induction es with
  | nil => rfl
  | cons e es ih => rw [sameTermsOf, ih, List.flatMap_cons]

/-- On the binding, no two literals that have been read are compared with `sameTerm`. -/
def ComparesTerms (b : Binding) (e : Expression) : Prop :=
  ∀ p ∈ e.sameTerms, ∀ v w, p.1.eval b = some v → p.2.eval b = some w
    → v.isParsed = false ∨ w.isParsed = false

theorem comparesTerms_of_mem {b : Binding} {e : Expression} {es : List Expression} (he : e ∈ es)
    (h : ∀ p ∈ sameTermsOf es, ∀ v w, p.1.eval b = some v → p.2.eval b = some w
      → v.isParsed = false ∨ w.isParsed = false) :
  e.ComparesTerms b
  := by
  intro p hp
  apply h p
  rw [sameTermsOf_eq_flatMap, List.mem_flatMap]
  use e

/-- The conjuncts of a condition compare what the condition compares. -/
theorem ComparesTerms.of_mem_conjunctList {b : Binding} {e c : Expression} (h : e.ComparesTerms b)
    (hc : c ∈ e.conjunctList) :
  c.ComparesTerms b
  := by
  induction e with
  | and es ih =>
    rw [conjunctList, conjunctLists_eq_flatMap, List.mem_flatMap] at hc
    obtain ⟨e, he, hc⟩ := hc
    apply ih e he (comparesTerms_of_mem he h) hc
  | _ =>
    simp only [conjunctList] at hc
    split_ifs at hc
    · cases hc
    · rw [List.mem_singleton] at hc
      subst hc
      apply h

end Expression

end RelGraph.Sparql
