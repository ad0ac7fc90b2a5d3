import RelGraph.Engine.SqlFilter
import RelGraph.Proofs.Mapping.Occurrences
import RelGraph.Proofs.Mapping.SolutionMap
import RelGraph.Proofs.Sparql.Comparison

/-!
# Filters in SQL

On a row that gives a binding, the condition that a filter is converted to has the truth value that
the filter has on the binding, and there is no error.  Terms that are compared with `sameTerm` have
to be told apart by their values: of two literals that have been read, the values can be the same.
-/

namespace RelGraph.Engine

open Rdf Sql Sparql Mapping

variable {m : SolutionMap} {c : Expr} {e x y : Expression} {es : List Expression} {v w : Variable}
  {k : TermKind} {t : Term}

/-! ### Conditions on the terms of variables -/

/-- The condition is true on the row, or false, just as the expression on the binding. -/
def SameTruth (row : Row) (b : Binding) (c : Expr) (e : Expression) : Prop :=
  ∃ t, c.truthOn row = some t ∧ e.truthOn b = some t

/-- Two expressions have terms on the binding, and the condition is true on the row if these are the
same, and false otherwise. -/
structure Compares (row : Row) (b : Binding) (c : Expr) (x y : Expression) (u w : Term) : Prop where
  left : x.eval b = some (.ofTerm u)
  right : y.eval b = some (.ofTerm w)
  truthOn : c.truthOn row = some (decide (u = w))

/-- Of two expressions that can be compared, one is a variable. -/
theorem comparison?_cases {both : Variable → Variable → Option Expr}
    {constant : Variable → Expression → Option Expr} (h : comparison? both constant x y = some c) :
  (∃ v w, x = .variable v ∧ y = .variable w ∧ both v w = some c)
    ∨ ∃ v e, constant v e = some c
      ∧ ((x = .variable v ∧ y = e) ∨ (x = e ∧ y = .variable v))
  := by
  rw [comparison?.eq_def] at h
  split at h
  · exact .inl ⟨_, _, rfl, rfl, h⟩
  · exact .inr ⟨_, _, h, .inl ⟨rfl, rfl⟩⟩
  · exact .inr ⟨_, _, h, .inr ⟨rfl, rfl⟩⟩
  · cases h

/-- The variables of a pair are read from its columns. -/
theorem columnPair?_eq_some {c d : Column} (h : columnPair? m v w = some (k, c, d)) :
  m.termMap? v = some (.typed k (.column c)) ∧ m.termMap? w = some (.typed k (.column d))
  := by
  simp only [columnPair?] at h
  split at h
  · rename_i hv hw
    split_ifs at h with heq
    cases heq
    cases h
    exact ⟨hv, hw⟩
  · cases h

theorem sameVariables?_eq_some (h : sameVariables? m v w = some c) :
  ∃ k d d', columnPair? m v w = some (k, d, d') ∧ k.isInjective = true
    ∧ c = Expr.columnsEqual d d'
  := by
  obtain ⟨⟨k, d, d'⟩, hpair, h⟩ := Option.bind_eq_some_iff.1 h
  dsimp only at h
  split_ifs at h with hk
  exact ⟨k, d, d', hpair, hk, (Option.some.inj h).symm⟩

theorem equalVariables?_eq_some (h : equalVariables? m v w = some c) :
  ∃ k d d', columnPair? m v w = some (k, d, d') ∧ k.isInjective = true
    ∧ isComparableKind k = true ∧ c = Expr.columnsEqual d d'
  := by
  obtain ⟨⟨k, d, d'⟩, hpair, h⟩ := Option.bind_eq_some_iff.1 h
  dsimp only at h
  split_ifs at h with hk
  rw [Bool.and_eq_true] at hk
  exact ⟨k, d, d', hpair, hk.1, hk.2, (Option.some.inj h).symm⟩

theorem sameConstant?_eq_some (h : sameConstant? m v e = some c) :
  ∃ t u, m.termMap? v = some t ∧ constantTerm? e = some u ∧ c = t.conditionFor u
  := by
  obtain ⟨t, ht, h⟩ := Option.bind_eq_some_iff.1 h
  obtain ⟨u, hu, h⟩ := Option.bind_eq_some_iff.1 h
  exact ⟨t, u, ht, hu, (Option.some.inj h).symm⟩

theorem equalConstant?_eq_some (h : equalConstant? m v e = some c) :
  ∃ t u, m.termMap? v = some t ∧ constantTerm? e = some u ∧ c = t.conditionFor u
    ∧ (u.isIri = true ∨ isString u = true ∧ isComparable t = true)
  := by
  obtain ⟨t, ht, h⟩ := Option.bind_eq_some_iff.1 h
  obtain ⟨u, hu, h⟩ := Option.bind_eq_some_iff.1 h
  split_ifs at h with hplain
  rw [Bool.or_eq_true, Bool.and_eq_true] at hplain
  exact ⟨t, u, ht, hu, (Option.some.inj h).symm, hplain⟩

/-- Equality is converted to a condition under which the terms are the same. -/
theorem same_of_equal (h : comparison? (equalVariables? m) (equalConstant? m) x y = some c) :
  comparison? (sameVariables? m) (sameConstant? m) x y = some c
  := by
  have hconstant {v : Variable} {e : Expression} (h : equalConstant? m v e = some c) :
      sameConstant? m v e = some c := by
    obtain ⟨t, u, ht, hu, rfl, -⟩ := equalConstant?_eq_some h
    simp [sameConstant?, ht, hu]
  rw [comparison?.eq_def] at h ⊢
  split at h
  · obtain ⟨k, d, d', hpair, hk, -, rfl⟩ := equalVariables?_eq_some h
    simp [sameVariables?, hpair, hk]
  · apply hconstant h
  · apply hconstant h
  · cases h

/-- The tests on the kind of a term are decided by the term map that gives it. -/
theorem kind_of_make? {m : TermMap} {row : Row} (h : m.make? row = some t) :
  t.isIri = m.isIri ∧ t.isBlank = m.isBlank ∧ t.isLiteral = m.isLiteral
  := by
  cases m with
  | fixed u =>
    cases h
    exact ⟨rfl, rfl, rfl⟩
  | typed kind value =>
    obtain ⟨s, -, hs⟩ := Option.bind_eq_some_iff.1 h
    cases kind with
    | iri | blank =>
      obtain ⟨i, -, rfl⟩ := Option.map_eq_some_iff.1 hs
      exact ⟨rfl, rfl, rfl⟩
    | literal datatype language =>
      obtain ⟨l, rfl⟩ : ∃ l, t = .literal l := by
        cases language with
        | none =>
          obtain ⟨form, -, rfl⟩ := Option.map_eq_some_iff.1 hs
          use .ofDatatype form datatype
        | some language =>
          rw [TermKind.make?] at hs
          split_ifs at hs
          obtain ⟨tag, -, rfl⟩ := Option.map_eq_some_iff.1 hs
          use .tagged s tag
      exact ⟨rfl, rfl, rfl⟩

theorem isPlain_of_isString (h : isString t = true) :
  (Value.ofTerm t).isPlain = true
  := by
  cases t with
  | literal l =>
    cases l with
    | simple s => rfl
    | tagged s language => cases h
    | typed s datatype hne => exact absurd (decide_eq_true_iff.1 h) hne
  | _ => cases h

theorem isPlain_of_isComparableKind (h : isComparableKind k = true) {s : String}
    (ht : k.make? s = some t) :
  (Value.ofTerm t).isPlain = true
  := by
  simp only [isComparableKind, Bool.or_eq_true, decide_eq_true_eq] at h
  obtain (rfl | rfl) | rfl := h
  · obtain ⟨i, -, rfl⟩ := Option.map_eq_some_iff.1 ht
    rfl
  · obtain ⟨label, -, rfl⟩ := Option.map_eq_some_iff.1 ht
    rfl
  · rw [TermKind.string, TermKind.make?] at ht
    obtain ⟨form, -, rfl⟩ := Option.map_eq_some_iff.1 ht
    rfl

theorem isPlain_of_isComparable {m : TermMap} (h : isComparable m = true) {row : Row}
    (ht : m.make? row = some t) :
  (Value.ofTerm t).isPlain = true
  := by
  cases m with
  | fixed u =>
    cases ht
    cases t with
    | literal l =>
      rw [isComparable, Term.isLiteral, Bool.not_true, Bool.false_or] at h
      apply isPlain_of_isString h
    | _ => rfl
  | typed kind value =>
    obtain ⟨s, -, hs⟩ := Option.bind_eq_some_iff.1 ht
    apply isPlain_of_isComparableKind h hs

/-- The truth values of the conditions for some expressions are those of the expressions. -/
theorem sameTruth_toSqls? {row : Row} {b : Binding} {cs : List Expr} (hcs : toSqls? m es = some cs)
    (h : ∀ e ∈ es, ∀ c, toSql? m e = some c → SameTruth row b c e) :
  ∃ ts : List Bool, cs.map (Expr.truthOn row) = ts.map some
    ∧ Expression.truths b es = ts.map some
  := by
  induction es generalizing cs with
  | nil =>
    cases hcs
    use []
    exact ⟨rfl, rfl⟩
  | cons e es ih =>
    simp only [toSqls?, Option.bind_eq_bind, Option.bind_eq_some_iff] at hcs
    obtain ⟨c, hc, cs, hcs, heq⟩ := hcs
    cases heq
    rw [List.forall_mem_cons] at h
    obtain ⟨t, htc, hte⟩ := h.1 c hc
    obtain ⟨ts, hts, htes⟩ := ih hcs h.2
    use t :: ts
    rw [List.map_cons, htc, hts, Expression.truths_cons, hte, htes]
    exact ⟨rfl, rfl⟩

section

variable {row : Row} {b : Binding} (hb : m.make? row = some b)
  (hlower : ∀ e ∈ m.entries, e.2.LowerCase) (hclear : ∀ e ∈ m.entries, e.2.Unambiguous row)

include hb

/-- A variable has the term that its term map gives. -/
theorem exists_of_termMap? {t : TermMap} (ht : m.termMap? v = some t) :
  ∃ u, t.make? row = some u ∧ b.get? v = some u ∧ (v, t) ∈ m.entries
  := by
  obtain ⟨hsome, hget, -⟩ := SolutionMap.make?_eq_some_iff.1 hb
  have hv := hget v
  obtain ⟨u, hu⟩ := Option.isSome_iff_exists.1 (hsome v (by
    rw [show m.terms.get? v = some t from ht]
    rfl))
  rw [hu, show m.terms.get? v = some t from ht, Option.bind_some] at hv
  exact ⟨u, hv.symm, hu, SolutionMap.mem_entries_iff.2 (.inl ht)⟩

theorem sameTruth_bound (v : Variable) :
  SameTruth row b (Expr.ofBool (m.termMap? v).isSome) (.bound v)
  := by
  obtain ⟨hsome, hget, -⟩ := SolutionMap.make?_eq_some_iff.1 hb
  have hbinds : (b.get? v).isSome = (m.terms.get? v).isSome := by
    rw [Bool.eq_iff_iff]
    use fun h => ?_, hsome v
    rw [hget v] at h
    apply Option.isSome_of_isSome_bind h
  use (m.termMap? v).isSome, Expr.truthOn_ofBool row _
  exact congrArg some hbinds

/-- The tests on the kind of the term of a variable are decided by its term map. -/
theorem sameTruth_kindTest? {f : Sparql.Function} (h : kindTest? m f es = some c) :
  SameTruth row b c (.call f es)
  := by
  simp only [kindTest?] at h
  split at h
  · rename_i v
    simp only [Option.bind_eq_bind, Option.bind_eq_some_iff] at h
    obtain ⟨t, ht, hc⟩ := h
    obtain ⟨u, hu, hv, -⟩ := exists_of_termMap? hb ht
    obtain ⟨hiri, hblank, hliteral⟩ := kind_of_make? hu
    obtain ⟨viri, vblank, vliteral⟩ := Value.toTerm_ofTerm_kind u
    have heval (f : Sparql.Function) :
        (Expression.call f [.variable v]).eval b = f.apply? [.ofTerm u] := by
      simp [Expression.eval, Expression.evalEach, hv]
    split at hc
    · cases hc
      use t.isIri, Expr.truthOn_ofBool row _
      rw [Expression.truthOn, heval, Function.apply?, viri, hiri]
      rfl
    · cases hc
      use t.isBlank, Expr.truthOn_ofBool row _
      rw [Expression.truthOn, heval, Function.apply?, vblank, hblank]
      rfl
    · cases hc
      use t.isLiteral, Expr.truthOn_ofBool row _
      rw [Expression.truthOn, heval, Function.apply?, vliteral, hliteral]
      rfl
    · cases hc
  · cases h

/-- Two variables of one injective kind have the same term exactly when their columns are equal. -/
theorem truthOn_columnPair? {c d : Column} (h : columnPair? m v w = some (k, c, d))
    (hk : k.isInjective = true) :
  ∃ u x, b.get? v = some u ∧ b.get? w = some x
    ∧ (Expr.columnsEqual c d).truthOn row = some (decide (u = x))
    ∧ (∃ s, k.make? s = some u) ∧ ∃ s, k.make? s = some x
  := by
  obtain ⟨hv, hw⟩ := columnPair?_eq_some h
  obtain ⟨u, hu, hbv, -⟩ := exists_of_termMap? hb hv
  obtain ⟨x, hx, hbw, -⟩ := exists_of_termMap? hb hw
  obtain ⟨s, hs, hsu⟩ := Option.bind_eq_some_iff.1 hu
  obtain ⟨t, ht, htx⟩ := Option.bind_eq_some_iff.1 hx
  refine ⟨u, x, hbv, hbw, ?_, ⟨s, hsu⟩, ⟨t, htx⟩⟩
  rw [Expr.truthOn_columnsEqual hs ht, Option.some.injEq, decide_eq_decide]
  constructor
  · rintro rfl
    rw [hsu] at htx
    apply Option.some.inj htx
  · rintro rfl
    apply TermKind.eq_of_isInjective hk hsu htx

theorem compares_columnPair? {c d : Column} (h : columnPair? m v w = some (k, c, d))
    (hk : k.isInjective = true) :
  ∃ u x, Compares row b (Expr.columnsEqual c d) (.variable v) (.variable w) u x
    ∧ (∃ s, k.make? s = some u) ∧ ∃ s, k.make? s = some x
  := by
  obtain ⟨u, x, hbv, hbw, htruth, hkinds⟩ := truthOn_columnPair? hb h hk
  refine ⟨u, x, ⟨?_, ?_, htruth⟩, hkinds⟩
  · rw [Expression.eval, hbv]
    rfl
  · rw [Expression.eval, hbw]
    rfl

include hlower hclear

/-- A variable has a constant as its term exactly when the condition for it is true. -/
theorem compares_conditionFor {t : TermMap} (ht : m.termMap? v = some t) {x : Term}
    (he : constantTerm? e = some x) :
  ∃ u, t.make? row = some u ∧ Compares row b (t.conditionFor x) (.variable v) e u x
    ∧ Compares row b (t.conditionFor x) e (.variable v) x u
  := by
  obtain ⟨u, hu, hv, hmem⟩ := exists_of_termMap? hb ht
  have hknown : Expr.Known row (t.conditionFor x) :=
    TermMap.known_conditionFor (fun c hc => TermMap.isSome_of_make? hu hc) x
  obtain ⟨truth, htruth⟩ := Option.isSome_iff_exists.1 hknown
  have heq : truth = true ↔ u = x := by
    constructor
    · rintro rfl
      rw [TermMap.make?_of_truthOn_conditionFor htruth, Option.some.injEq] at hu
      apply hu.symm
    · rintro rfl
      rw [TermMap.truthOn_conditionFor_of_make? (hlower _ hmem) (hclear _ hmem) hu,
        Option.some.injEq] at htruth
      apply htruth.symm
  have hvalue : (Expression.variable v).eval b = some (.ofTerm u) := by
    rw [Expression.eval, hv]
    rfl
  have hconstant : e.eval b = some (.ofTerm x) := by
    rw [constantTerm?.eq_def] at he
    split at he
    · cases he
      rfl
    · cases he
      rfl
    · cases he
  refine ⟨u, hu, ⟨hvalue, hconstant, ?_⟩, ⟨hconstant, hvalue, ?_⟩⟩
  · rw [htruth, Option.some.injEq, Bool.eq_iff_iff, decide_eq_true_iff, heq]
  · rw [htruth, Option.some.injEq, Bool.eq_iff_iff, decide_eq_true_iff, heq, eq_comm]

/-- A converted comparison of two expressions compares their terms. -/
theorem sameTruth_sameTerm (h : comparison? (sameVariables? m) (sameConstant? m) x y = some c)
    (hxy : (Expression.sameTerm x y).ComparesTerms b) :
  SameTruth row b c (.sameTerm x y)
  := by
  have hsame {u w : Term} (hc : Compares row b c x y u w) : SameTruth row b c (.sameTerm x y) := by
    use decide (u = w), hc.truthOn
    have hparsed := hxy (x, y) (List.mem_singleton_self _) _ _ hc.left hc.right
    rw [Expression.truthOn, Expression.eval, hc.left, hc.right]
    exact congrArg some (Value.same_ofTerm hparsed)
  obtain ⟨v, w, rfl, rfl, hboth⟩ | ⟨v, e, hconstant, hv⟩ := comparison?_cases h
  · obtain ⟨k, d, d', hpair, hk, rfl⟩ := sameVariables?_eq_some hboth
    obtain ⟨u, w, hcompares, -⟩ := compares_columnPair? hb hpair hk
    apply hsame hcompares
  · obtain ⟨t, u, ht, hu, rfl⟩ := sameConstant?_eq_some hconstant
    obtain ⟨w, -, hleft, hright⟩ := compares_conditionFor hb hlower hclear ht hu
    obtain ⟨rfl, rfl⟩ | ⟨rfl, rfl⟩ := hv
    · apply hsame hleft
    · apply hsame hright

theorem sameTruth_equal (h : comparison? (equalVariables? m) (equalConstant? m) x y = some c) :
  SameTruth row b c (.equal x y)
  := by
  have hequal {u w : Term} (hc : Compares row b c x y u w)
      (huw : ((Value.ofTerm u).isPlain = true ∧ (Value.ofTerm w).isPlain = true)
        ∨ u.isIri = true ∨ w.isIri = true) : SameTruth row b c (.equal x y) := by
    use decide (u = w), hc.truthOn
    rw [Expression.truthOn, Expression.eval, hc.left, hc.right]
    simp only [Option.bind_eq_bind, Option.bind_some, Value.equal?_ofTerm huw]
    rfl
  obtain ⟨v, w, rfl, rfl, hboth⟩ | ⟨v, e, hconstant, hv⟩ := comparison?_cases h
  · obtain ⟨k, d, d', hpair, hk, hkind, rfl⟩ := equalVariables?_eq_some hboth
    obtain ⟨u, w, hcompares, ⟨s, hs⟩, ⟨s', hs'⟩⟩ := compares_columnPair? hb hpair hk
    apply hequal hcompares
    apply Or.inl ⟨isPlain_of_isComparableKind hkind hs, isPlain_of_isComparableKind hkind hs'⟩
  · obtain ⟨t, u, ht, hu, rfl, hplain⟩ := equalConstant?_eq_some hconstant
    obtain ⟨w, hw, hleft, hright⟩ := compares_conditionFor hb hlower hclear ht hu
    have hterms : ((Value.ofTerm u).isPlain = true ∧ (Value.ofTerm w).isPlain = true)
        ∨ u.isIri = true := by
      obtain hiri | ⟨hstring, hmap⟩ := hplain
      · apply Or.inr hiri
      · apply Or.inl ⟨isPlain_of_isString hstring, isPlain_of_isComparable hmap hw⟩
    obtain ⟨rfl, rfl⟩ | ⟨rfl, rfl⟩ := hv
    · apply hequal hleft
      obtain ⟨hu, hw⟩ | hu := hterms
      · apply Or.inl ⟨hw, hu⟩
      · apply Or.inr (.inr hu)
    · apply hequal hright
      obtain hterms | hu := hterms
      · apply Or.inl hterms
      · apply Or.inr (.inl hu)

/-- On a row that gives a binding, the condition for an expression has the truth value that the
expression has on the binding. -/
theorem sameTruth_toSql? (hterms : e.ComparesTerms b) (h : toSql? m e = some c) :
  SameTruth row b c e
  := by
  induction e generalizing c with
  | and es ih =>
    obtain ⟨cs, hcs, rfl⟩ := Option.map_eq_some_iff.1 h
    obtain ⟨ts, hts, htes⟩ := sameTruth_toSqls? hcs fun e he c hc =>
      ih e he (Expression.comparesTerms_of_mem he hterms) hc
    use ts.all id
    rw [Expr.truthOn_andAll, Expression.truthOn_and, hts, htes, allTrue_map_some]
    exact ⟨rfl, rfl⟩
  | or es ih =>
    obtain ⟨cs, hcs, rfl⟩ := Option.map_eq_some_iff.1 h
    obtain ⟨ts, hts, htes⟩ := sameTruth_toSqls? hcs fun e he c hc =>
      ih e he (Expression.comparesTerms_of_mem he hterms) hc
    use ts.any id
    rw [Expr.truthOn_orAll, Expression.truthOn_or, hts, htes, anyTrue_map_some]
    exact ⟨rfl, rfl⟩
  | not e ih =>
    obtain ⟨d, hd, rfl⟩ := Option.map_eq_some_iff.1 h
    obtain ⟨t, ht, he⟩ := ih hterms hd
    use !t
    rw [Expr.truthOn_notOf, ht, Expression.truthOn_not, he]
    exact ⟨rfl, rfl⟩
  | literal l =>
    obtain ⟨t, ht, rfl⟩ := Option.map_eq_some_iff.1 h
    use t, Expr.truthOn_ofBool row _
    apply Expression.truth?_of_literalTruth? ht
  | bound v =>
    cases h
    apply sameTruth_bound hb
  | sameTerm x y => apply sameTruth_sameTerm hb hlower hclear h hterms
  | equal x y => apply sameTruth_equal hb hlower hclear h
  | call f es => apply sameTruth_kindTest? hb h
  | _ => cases h

end

/-! ### Conditions of a conversion -/

section

variable {P : Expr → Prop} (hconstant : ∀ t, P (Expr.ofBool t))
  (hcolumns : ∀ v w k c d, columnPair? m v w = some (k, c, d) → P (Expr.columnsEqual c d))
  (hcondition : ∀ v t x, m.termMap? v = some t → P (TermMap.conditionFor t x))

include hcolumns hcondition in
theorem comparison?_induct (h : comparison? (sameVariables? m) (sameConstant? m) x y = some c) :
  P c
  := by
  obtain ⟨v, w, -, -, h⟩ | ⟨v, e, h, -⟩ := comparison?_cases h
  · obtain ⟨k, d, d', hpair, -, rfl⟩ := sameVariables?_eq_some h
    apply hcolumns v w k d d' hpair
  · obtain ⟨t, u, ht, -, rfl⟩ := sameConstant?_eq_some h
    apply hcondition v t u ht

include hconstant in
theorem kindTest?_induct {f : Sparql.Function} (h : kindTest? m f es = some c) :
  P c
  := by
  simp only [kindTest?] at h
  split at h
  · simp only [Option.bind_eq_bind, Option.bind_eq_some_iff] at h
    obtain ⟨t, -, h⟩ := h
    split at h
    · cases h
      apply hconstant
    · cases h
      apply hconstant
    · cases h
      apply hconstant
    · cases h
  · cases h

theorem mem_of_toSqls? {cs : List Expr} (h : toSqls? m es = some cs) (hc : c ∈ cs) :
  ∃ e ∈ es, toSql? m e = some c
  := by
  induction es generalizing cs with
  | nil =>
    cases h
    cases hc
  | cons e es ih =>
    simp only [toSqls?, Option.bind_eq_bind, Option.bind_eq_some_iff] at h
    obtain ⟨d, hd, ds, hds, h⟩ := h
    cases h
    obtain rfl | hc := List.mem_cons.1 hc
    · use e, List.mem_cons_self
    · obtain ⟨e', he', hc⟩ := ih hds hc
      use e', List.mem_cons_of_mem e he'

include hconstant hcolumns hcondition in
/-- What holds of the conditions on single variables, and is kept by negations, conjunctions and
disjunctions, holds of all the conditions that expressions are converted to. -/
theorem toSql?_induct (hnot : ∀ c, P c → P (Expr.notOf c))
    (hand : ∀ cs, (∀ c ∈ cs, P c) → P (Expr.andAll cs))
    (hor : ∀ cs, (∀ c ∈ cs, P c) → P (Expr.orAll cs)) (h : toSql? m e = some c) :
  P c
  := by
  induction e generalizing c with
  | and es ih =>
    obtain ⟨cs, hcs, rfl⟩ := Option.map_eq_some_iff.1 h
    apply hand
    intro d hd
    obtain ⟨e, he, hd⟩ := mem_of_toSqls? hcs hd
    apply ih e he hd
  | or es ih =>
    obtain ⟨cs, hcs, rfl⟩ := Option.map_eq_some_iff.1 h
    apply hor
    intro d hd
    obtain ⟨e, he, hd⟩ := mem_of_toSqls? hcs hd
    apply ih e he hd
  | not e ih =>
    obtain ⟨d, hd, rfl⟩ := Option.map_eq_some_iff.1 h
    apply hnot d (ih hd)
  | literal l =>
    obtain ⟨t, -, rfl⟩ := Option.map_eq_some_iff.1 h
    apply hconstant
  | bound v =>
    cases h
    apply hconstant
  | sameTerm x y => apply comparison?_induct hcolumns hcondition h
  | equal x y => apply comparison?_induct hcolumns hcondition (same_of_equal h)
  | call f es => apply kindTest?_induct hconstant h
  | _ => cases h

end

section

variable (h : toSql? m e = some c)

include h

/-- The condition for an expression is on columns of the term maps of its variables. -/
theorem readsOnly_of_termMaps {cs : List Column}
    (hcs : ∀ v t, m.termMap? v = some t → ∀ d ∈ t.columns, d ∈ cs) :
  c.isCondition = true ∧ Expr.ReadsOnly cs c
  := by
  apply toSql?_induct (P := fun c => c.isCondition = true ∧ Expr.ReadsOnly cs c) _ _ _ _ _ _ h
  · intro t
    exact ⟨Expr.isCondition_ofBool t, Expr.readsOnly_ofBool _ t⟩
  · intro v w k d d' hpair
    obtain ⟨hv, hw⟩ := columnPair?_eq_some hpair
    use Expr.isCondition_columnsEqual d d'
    apply Expr.readsOnly_columnsEqual
    · apply hcs v _ hv d (List.mem_singleton_self d)
    · apply hcs w _ hw d' (List.mem_singleton_self d')
  · intro v t x ht
    use TermMap.isCondition_conditionFor t x
    intro d hd
    apply hcs v t ht d (TermMap.readsOnly_conditionFor t x d hd)
  · rintro d ⟨hd, hreads⟩
    exact ⟨Expr.isCondition_notOf hd, Expr.readsOnly_notOf hreads⟩
  · intro cs hcs
    exact ⟨Expr.isCondition_andAll fun d hd => (hcs d hd).1,
      Expr.readsOnly_andAll fun d hd => (hcs d hd).2⟩
  · intro cs hcs
    exact ⟨Expr.isCondition_orAll fun d hd => (hcs d hd).1,
      Expr.readsOnly_orAll fun d hd => (hcs d hd).2⟩

/-- The condition for an expression is on the columns of the solution map. -/
theorem readsOnly_toSql? :
  c.isCondition = true ∧ Expr.ReadsOnly m.columns c
  := by
  apply readsOnly_of_termMaps h
  intro v t ht d hd
  apply SolutionMap.mem_columns_of_mem (SolutionMap.mem_entries_iff.2 (.inl ht)) hd

/-- Without variables, an expression is converted to a constant. -/
theorem toSql?_constant (hm : ∀ v, m.termMap? v = none) :
  c = .always ∨ c = .never
  := by
  apply toSql?_induct (P := fun c => c = .always ∨ c = .never) _ _ _ _ _ _ h
  · intro t
    cases t
    · apply Or.inr rfl
    · apply Or.inl rfl
  · intro v w k d d' hpair
    rw [columnPair?, hm v] at hpair
    cases hpair
  · intro v t x ht
    rw [hm v] at ht
    cases ht
  · rintro d (rfl | rfl)
    · apply Or.inr rfl
    · apply Or.inl rfl
  · intro cs hcs
    by_cases hnever : Expr.never ∈ cs
    · right
      rw [Expr.andAll, if_pos hnever]
    · left
      apply Expr.andAll_eq_always
      intro d hd
      apply (hcs d hd).resolve_right
      rintro rfl
      apply hnever hd
  · intro cs hcs
    by_cases halways : Expr.always ∈ cs
    · left
      rw [Expr.orAll, if_pos halways]
    · right
      apply Expr.orAll_eq_never
      intro d hd
      apply (hcs d hd).resolve_left
      rintro rfl
      apply halways hd

end

end RelGraph.Engine
