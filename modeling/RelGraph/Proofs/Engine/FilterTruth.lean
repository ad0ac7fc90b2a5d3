import RelGraph.Proofs.Engine.SqlFilter
import RelGraph.Proofs.Sparql.Identity

/-!
# Filters on rows and on bindings

A filter can be evaluated twice: as a condition on a row, and as an expression on the binding of the
row.  Where both are possible there is no error and nothing is unknown, and the truth values are the
same, with one exception: `sameTerm` compares terms on the row, but on the binding the values that
their texts stand for.
-/

namespace RelGraph.Engine

open Rdf Sql Sparql Mapping

/-! ### Conditions on rows with a binding -/

/-- A row that gives a binding has all the columns of a condition that an expression is converted
to. -/
theorem eval_toSql? {m : SolutionMap} {e : Expression} {c : Expr} (h : toSql? m e = some c)
    {row : Row} {b : Binding} (hb : m.make? row = some b) :
  c.eval row.cells = .ok (.truth (c.truthOn row))
  := by
  have hcolumns : ∀ v t, m.termMap? v = some t
      → ∀ d ∈ t.columns, d ∈ m.terms.entries.flatMap fun e => e.2.columns :=
    fun v t ht d hd => List.mem_flatMap.2 ⟨(v, t), SortedMap.mem_entries_iff.2 ht, hd⟩
  obtain ⟨hc, hreads⟩ := readsOnly_of_termMaps h hcolumns
  apply Expr.eval_of_readsOnly hc hreads
  intro d hd
  obtain ⟨⟨v, t⟩, hvt, hd⟩ := List.mem_flatMap.1 hd
  obtain ⟨u, hu, -⟩ := exists_of_termMap? hb (SortedMap.mem_entries_iff.1 hvt)
  have hcell := TermMap.isSome_of_make? hu hd
  rw [Row.get?] at hcell
  cases hlookup : List.lookup d row.cells with
  | none =>
    rw [hlookup] at hcell
    cases hcell
  | some cell => rfl

/-- A filter that is converted means the same on a row and on its binding: the condition has a truth
value on the row, the filter has one on the binding, and these are the same. -/
theorem filters_agree {m : SolutionMap} {e : Expression} {c : Expr} (h : toSql? m e = some c)
    {row : Row} {b : Binding} (hb : m.make? row = some b)
    (hlower : ∀ e ∈ m.entries, e.2.LowerCase) (hclear : ∀ e ∈ m.entries, e.2.Unambiguous row)
    (hterms : e.ComparesTerms b) :
  ∃ t, c.eval row.cells = .ok (.truth (some t)) ∧ e.truthOn b = some t
  := by
  obtain ⟨t, hc, he⟩ := sameTruth_toSql? hb hlower hclear hterms h
  use t
  rw [eval_toSql? h hb, hc]
  exact ⟨rfl, he⟩

/-- Members with their names, and with a blank node for the home of each. -/
def memberMap : SolutionMap :=
  .ofRelation (.ofDatabase "db")
    [(⟨"person"⟩, .typed .iri (.template ⟨"ex:", [⟨⟨⟨none, "member"⟩, "id"⟩, .plain, ""⟩]⟩)),
      (⟨"name"⟩, .typed .string (.column ⟨⟨none, "member"⟩, "name"⟩)),
      (⟨"nick"⟩, .typed .string (.column ⟨⟨none, "member"⟩, "nick"⟩)),
      (⟨"home"⟩, .typed .blank (.blankKey ⟨"Home", [⟨⟨none, "member"⟩, "id"⟩]⟩))]

/-- A member. -/
def memberRow : Row :=
  ⟨[(⟨⟨none, "member"⟩, "id"⟩, some "1"), (⟨⟨none, "member"⟩, "name"⟩, some "Ann"),
    (⟨⟨none, "member"⟩, "nick"⟩, some "Annie")]⟩

/-- The binding of the member. -/
def memberBinding : Binding :=
  .ofList [(⟨"person"⟩, .iri ⟨"ex:1"⟩), (⟨"name"⟩, .literal (.simple "Ann")),
    (⟨"nick"⟩, .literal (.simple "Annie")), (⟨"home"⟩, .blank (.named "Home_40_401"))]

/-- The person is neither the second one nor has equal names; one of them is Ann, and there is a
home. -/
def memberFilter : Expression :=
  .and [.not (.or [.sameTerm (.variable ⟨"person"⟩) (.iri ⟨"ex:2"⟩),
      .equal (.variable ⟨"name"⟩) (.variable ⟨"nick"⟩)]),
    .equal (.literal (.simple "Ann")) (.variable ⟨"name"⟩),
    .call .isBlank [.variable ⟨"home"⟩], .not (.bound ⟨"age"⟩)]

theorem filters_agree_memberFilter :
  memberMap.make? memberRow = some memberBinding
    ∧ (∀ e ∈ memberMap.entries, e.2.LowerCase) ∧ (∀ e ∈ memberMap.entries, e.2.Unambiguous memberRow)
    ∧ memberFilter.ComparesTerms memberBinding
    ∧ ∃ c, toSql? memberMap memberFilter = some c
      ∧ c.eval memberRow.cells = .ok (.truth (some true))
      ∧ memberFilter.truthOn memberBinding = some true
  := by
  have hb : memberMap.make? memberRow = some memberBinding := rfl
  have hentries : memberMap.entries
      = [(⟨"home"⟩, .typed .blank (.blankKey ⟨"Home", [⟨⟨none, "member"⟩, "id"⟩]⟩)),
        (⟨"name"⟩, .typed .string (.column ⟨⟨none, "member"⟩, "name"⟩)),
        (⟨"nick"⟩, .typed .string (.column ⟨⟨none, "member"⟩, "nick"⟩)),
        (⟨"person"⟩,
          .typed .iri (.template ⟨"ex:", [⟨⟨⟨none, "member"⟩, "id"⟩, .plain, ""⟩]⟩))] := rfl
  have hlower : ∀ e ∈ memberMap.entries, e.2.LowerCase := by
    simp [hentries, TermMap.LowerCase, TermKind.LowerCase, TermKind.string]
  have hclear : ∀ e ∈ memberMap.entries, e.2.Unambiguous memberRow := by
    simp only [hentries, List.forall_mem_cons, TermMap.Unambiguous, ValueMap.Unambiguous]
    refine ⟨⟨by decide, ?_⟩, True.intro, True.intro,
      fun text _ => Template.cutsOnce_singleton _ _ text, by simp⟩
    intro c hc value hvalue
    rw [List.mem_singleton.1 hc] at hvalue
    cases hvalue
    decide
  have hterms : memberFilter.ComparesTerms memberBinding := by
    intro p hp v w _ hw
    rw [List.mem_singleton.1 hp] at hw
    cases hw
    right
    rfl
  have htrue : memberFilter.truthOn memberBinding = some true := rfl
  obtain ⟨c, hc⟩ := Option.isSome_iff_exists.1
    (show (toSql? memberMap memberFilter).isSome = true from rfl)
  obtain ⟨t, heval, ht⟩ := filters_agree hc hb hlower hclear hterms
  rw [htrue] at ht
  cases ht
  exact ⟨hb, hlower, hclear, hterms, c, hc, heval, htrue⟩

/-! ### Comparison of terms -/

theorem truthOn_sameTerm {b : Binding} {x y : Variable} {s t : Term} (hx : b.get? x = some s)
    (hy : b.get? y = some t) :
  (Expression.sameTerm (.variable x) (.variable y)).truthOn b
    = some ((Value.ofTerm s).same (Value.ofTerm t))
  := by
  simp [Expression.truthOn, Expression.eval, hx, hy, truthOf, Value.truth?]

/-- A converted comparison of variables is true exactly on the rows on which they have the same
term. -/
theorem truthOn_toSql?_sameTerm {m : SolutionMap} {x y : Variable} {c : Expr}
    (h : toSql? m (.sameTerm (.variable x) (.variable y)) = some c) {row : Row} {b : Binding}
    (hb : m.make? row = some b) {s t : Term} (hx : b.get? x = some s) (hy : b.get? y = some t) :
  c.truthOn row = some (decide (s = t))
  := by
  obtain ⟨k, d, d', hpair, hk, rfl⟩ := sameVariables?_eq_some h
  obtain ⟨u, w, hu, hw, htruth, -⟩ := truthOn_columnPair? hb hpair hk
  rw [hx] at hu
  rw [hy] at hw
  cases hu
  cases hw
  apply htruth

/-- Two variables are compared with `sameTerm` without an error.  The result is true if their terms
are the same and stand for themselves, or if they are spellings of one value.  Unless both of them
are such spellings, it is whether the terms are the same, and in a condition on the rows it is this
always. -/
theorem sameTerm_identity {b : Binding} {x y : Variable} {s t : Term} (hx : b.get? x = some s)
    (hy : b.get? y = some t) :
  (∃ r, (Expression.sameTerm (.variable x) (.variable y)).truthOn b = some r
      ∧ (r = true ↔ (s = t ∧ ¬HasValue s)
        ∨ ∃ l m, s = .literal l ∧ t = .literal m ∧ SameSpelled l m))
    ∧ (¬(HasValue s ∧ HasValue t)
      → (Expression.sameTerm (.variable x) (.variable y)).truthOn b = some (decide (s = t)))
    ∧ ∀ (m : SolutionMap) (row : Row) (c : Expr), m.make? row = some b
      → toSql? m (.sameTerm (.variable x) (.variable y)) = some c
      → c.eval row.cells = .ok (.truth (some (decide (s = t))))
  := by
  refine ⟨⟨_, truthOn_sameTerm hx hy, same_ofTerm_iff⟩, ?_, ?_⟩
  · intro h
    rw [truthOn_sameTerm hx hy, same_ofTerm_of_not h]
  · intro m row c hb h
    rw [eval_toSql? h hb, truthOn_toSql?_sameTerm h hb hx hy]

/-- A literal that stands for an integer. -/
def numeral (text : String) : Term := .literal (.ofDatatype text Datatype.integer)

/-- The numbers in two columns. -/
def numberMap : SolutionMap :=
  .ofRelation (.ofDatabase "db")
    [(⟨"x"⟩, .typed (.literal Datatype.integer none) (.column ⟨⟨none, "pair"⟩, "a"⟩)),
      (⟨"y"⟩, .typed (.literal Datatype.integer none) (.column ⟨⟨none, "pair"⟩, "b"⟩))]

/-- One number, written in two ways. -/
def numberRow : Row :=
  ⟨[(⟨⟨none, "pair"⟩, "a"⟩, some "1"), (⟨⟨none, "pair"⟩, "b"⟩, some "01")]⟩

/-- The binding of the number. -/
def numberBinding : Binding := .ofList [(⟨"x"⟩, numeral "1"), (⟨"y"⟩, numeral "01")]

/-- A number and the same text as a string. -/
def textBinding : Binding := .ofList [(⟨"x"⟩, .literal (.simple "1")), (⟨"y"⟩, numeral "1")]

theorem sameTerm_identity_numberBinding :
  numberBinding.get? ⟨"x"⟩ = some (numeral "1") ∧ numberBinding.get? ⟨"y"⟩ = some (numeral "01")
    ∧ (Expression.sameTerm (.variable ⟨"x"⟩) (.variable ⟨"y"⟩)).truthOn numberBinding = some true
    ∧ textBinding.get? ⟨"x"⟩ = some (.literal (.simple "1"))
    ∧ textBinding.get? ⟨"y"⟩ = some (numeral "1")
    ∧ (Expression.sameTerm (.variable ⟨"x"⟩) (.variable ⟨"y"⟩)).truthOn textBinding = some false
  := by
  have hx : numberBinding.get? ⟨"x"⟩ = some (numeral "1") := by decide
  have hy : numberBinding.get? ⟨"y"⟩ = some (numeral "01") := by decide
  have hx' : textBinding.get? ⟨"x"⟩ = some (.literal (.simple "1")) := by decide
  have hy' : textBinding.get? ⟨"y"⟩ = some (numeral "1") := by decide
  obtain ⟨⟨r, hr, hiff⟩, -⟩ := sameTerm_identity hx hy
  have hspelled : SameSpelled (.ofDatatype "1" Datatype.integer)
      (.ofDatatype "01" Datatype.integer) :=
    .integer 1 (.integer (by decide) (by decide)) (.integer (by decide) (by decide))
  rw [hiff.2 (.inr ⟨_, _, rfl, rfl, hspelled⟩)] at hr
  have htext : ¬(HasValue (.literal (.simple "1")) ∧ HasValue (numeral "1")) := by
    rw [hasValue_iff]
    simp [Value.ofTerm, Value.ofLiteral, Value.isParsed]
  exact ⟨hx, hy, hr, hx', hy', (sameTerm_identity hx' hy').2.1 htext⟩

/-- Two different terms that are the same on the binding, and not in the condition on the row. -/
theorem sameTerm_confused_numberBinding :
  numberBinding.get? ⟨"x"⟩ = some (numeral "1") ∧ numberBinding.get? ⟨"y"⟩ = some (numeral "01")
    ∧ numeral "1" ≠ numeral "01"
    ∧ (Expression.sameTerm (.variable ⟨"x"⟩) (.variable ⟨"y"⟩)).truthOn numberBinding = some true
    ∧ numberMap.make? numberRow = some numberBinding
    ∧ ∃ c, toSql? numberMap (.sameTerm (.variable ⟨"x"⟩) (.variable ⟨"y"⟩)) = some c
      ∧ c.eval numberRow.cells = .ok (.truth (some false))
  := by
  use by decide, by decide, by decide, rfl, rfl
  exact ⟨_, rfl, rfl⟩

end RelGraph.Engine
