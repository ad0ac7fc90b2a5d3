import RelGraph.Proofs.Mapping.Assignment

/-!
# Concurrence of term maps

The verdict on the occurrences of a variable looks at all of them at once, in the order of their
names.  On cells where they give one and the same term, what it asks for can be said of any two
occurrences, by the shapes of their value maps and the cells of their columns.  So it does not depend
on the names of the columns, and passes to any part of the occurrences, as long as those that give
the term of a fixed one can be compared with each other.
-/

namespace RelGraph.Mapping

open Rdf Sql

/-! ### Texts that a condition asks for -/

namespace Template

theorem cut?_congr {ss ss' : List Slot} (h : ss.map Slot.text = ss'.map Slot.text)
    (cs : List Char) :
  cut? ss cs = cut? ss' cs
  := by
  induction ss generalizing ss' cs with
  | nil =>
    cases ss' with
    | nil => rfl
    | cons => simp at h
  | cons s ss ih =>
    cases ss' with
    | nil => simp at h
    | cons s' ss' =>
      simp only [List.map_cons, List.cons.injEq] at h
      cases ss with
      | nil =>
        cases ss' with
        | nil => rw [cut?, cut?, h.1]
        | cons => simp at h
      | cons a ss =>
        cases ss' with
        | nil => simp at h
        | cons a' ss' =>
          rw [cut?, cut?, h.1]
          simp only [ih h.2]

/-- The values of which the texts are the writings; none if there are no such values. -/
def decodeAll? : List Encoding → List (List Char) → Option (List String)
  | [], [] => some []
  | e :: es, v :: vs => do
    let value ← e.decode? (String.ofList v)
    let values ← decodeAll? es vs
    return value :: values
  | _, _ => none

theorem filled_iff {row : Row} {s : Slot} {v : List Char} :
  Filled row s v
    ↔ ∃ value, s.encoding.decode? (String.ofList v) = some value ∧ row.get? s.column = some value
  := by
  rw [Filled]
  constructor
  · rintro ⟨value, hvalue, rfl⟩
    use value
    rw [String.ofList_toList, Encoding.decode?_encode]
    exact ⟨rfl, hvalue⟩
  · rintro ⟨value, hdecode, hvalue⟩
    use value, hvalue
    rw [Encoding.encode_of_decode? hdecode, String.toList_ofList]

theorem forall₂_filled_iff {row : Row} {ss : List Slot} {vs : List (List Char)} :
  List.Forall₂ (Filled row) ss vs
    ↔ ∃ values, decodeAll? (ss.map Slot.encoding) vs = some values
      ∧ BlankKey.HaveTexts row (ss.map Slot.column) values
  := by
  induction ss generalizing vs with
  | nil =>
    cases vs with
    | nil => simp [decodeAll?, BlankKey.HaveTexts]
    | cons => simp [decodeAll?]
  | cons s ss ih =>
    cases vs with
    | nil => simp [decodeAll?]
    | cons v vs =>
      rw [List.forall₂_cons, filled_iff, ih]
      simp only [List.map_cons, decodeAll?, Option.bind_eq_bind, Option.bind_eq_some_iff,
        Option.pure_def, Option.some.injEq]
      constructor
      · rintro ⟨⟨value, hdecode, hvalue⟩, values, hdecodes, hvalues⟩
        use value :: values, ⟨value, hdecode, values, hdecodes, rfl⟩
        rw [BlankKey.haveTexts_cons]
        exact ⟨hvalue, hvalues⟩
      · rintro ⟨_, ⟨value, hdecode, values, hdecodes, rfl⟩, hvalues⟩
        rw [BlankKey.haveTexts_cons] at hvalues
        exact ⟨⟨value, hdecode, hvalues.1⟩, values, hdecodes, hvalues.2⟩

end Template

namespace ValueMap

/-- The texts that the condition for a text asks the columns to have; none if it is never true. -/
def textsFor? (v : ValueMap) (text : String) : Option (List String) :=
  match v with
  | .column _ => some [text]
  | .template t => do
    let cs ← Text.dropStart? t.head.toList text.toList
    let vs ← Template.cut? t.slots cs
    Template.decodeAll? (t.slots.map Slot.encoding) vs
  | .blankKey k =>
    match (Text.splitMarks text.toList).map String.ofList with
    | [] => none
    | className :: values =>
      if className = k.className && values.length = k.columns.length then some values else none

theorem truthOn_conditionFor_iff {v : ValueMap} {row : Row} {text : String} :
  Expr.truthOn row (v.conditionFor text) = some true
    ↔ ∃ values, v.textsFor? text = some values ∧ BlankKey.HaveTexts row v.columns values
  := by
  cases v with
  | column c => simp [conditionFor, textsFor?, columns, Expr.truthOn_columnIs_eq_true,
      BlankKey.HaveTexts]
  | template t =>
    rw [conditionFor, Template.conditionFor, textsFor?]
    cases Text.dropStart? t.head.toList text.toList with
    | none => simp
    | some cs =>
      simp only [Option.bind_eq_bind, Option.bind_some]
      cases hvs : Template.cut? t.slots cs with
      | none => simp
      | some vs =>
        have hlength := Template.length_of_isCut (Template.isCut_of_cut? hvs)
        rw [Template.truthOn_zipWith_eq_true hlength, Template.forall₂_filled_iff]
        rfl
  | blankKey k =>
    rw [conditionFor, BlankKey.conditionFor, textsFor?]
    cases (Text.splitMarks text.toList).map String.ofList with
    | nil => simp
    | cons className values =>
      simp only
      split
      · rename_i h
        simp only [Bool.and_eq_true, decide_eq_true_eq] at h
        rw [BlankKey.truthOn_zipWith_eq_true h.2]
        simp [columns]
      · simp

/-- Value maps of one shape ask for the same texts. -/
theorem textsFor?_eq {v w : ValueMap} (h : v.sameShape w = true) (text : String) :
  v.textsFor? text = w.textsFor? text
  := by
  obtain ⟨a, b, rfl, rfl⟩ | ⟨t, u, rfl, rfl, hhead, htext, hencoding⟩
    | ⟨k, l, rfl, rfl, hclass, hlength⟩ := sameShape_cases h
  · rfl
  · simp only [textsFor?, hhead, Template.cut?_congr htext, hencoding]
  · simp only [textsFor?, hclass, hlength]

/-! ### Value maps with the same cells -/

section

variable {cells cells' cells'' : Column → Cell} {u v w : ValueMap} {text : String}

/-- The value maps differ in their columns only, and these have the same cells. -/
def Matches (cells cells' : Column → Cell) (v w : ValueMap) : Prop :=
  v.sameShape w = true ∧ v.columns.map cells = w.columns.map cells'

theorem sameShape_refl (v : ValueMap) :
  v.sameShape v = true
  := sameShape_trans (v.sameShape_rename id) (sameShape_symm (v.sameShape_rename id))

theorem Matches.symm (h : Matches cells cells' v w) :
  Matches cells' cells w v
  := ⟨sameShape_symm h.1, h.2.symm⟩

theorem Matches.trans (h : Matches cells cells' u v) (h' : Matches cells' cells'' v w) :
  Matches cells cells'' u w
  := ⟨sameShape_trans h.1 h'.1, h.2.trans h'.2⟩

theorem matches_rename {f : Column → Column} (h : ∀ c ∈ v.columns, cells' (f c) = cells c) :
  Matches cells cells' v (v.rename f)
  := by
  use sameShape_rename f v
  rw [columns_rename, List.map_map]
  apply List.map_congr_left
  intro c hc
  apply (h c hc).symm

theorem holdsAt_conditionFor_iff :
  Expr.HoldsAt cells (v.conditionFor text)
    ↔ ∃ values, v.textsFor? text = some values ∧ v.columns.map cells = values.map some
  := by
  have hsample : ∀ c ∈ v.columns, (Row.sample v.columns cells).get? c = cells c :=
    fun c hc => get?_sample_of_mem cells hc
  rw [Expr.holdsAt_iff fun c hc => hsample c (readsOnly_conditionFor v text c hc),
    truthOn_conditionFor_iff]
  simp only [BlankKey.HaveTexts, ← List.map_congr_left hsample]
  simp only [← List.forall₂_eq_eq_eq, List.forall₂_map_left_iff, List.forall₂_map_right_iff]

/-- Whether the condition for a text is true depends on the shape and the cells. -/
theorem Matches.holdsAt_conditionFor (h : Matches cells cells' v w)
    (hcondition : Expr.HoldsAt cells (v.conditionFor text)) :
  Expr.HoldsAt cells' (w.conditionFor text)
  := by
  rw [holdsAt_conditionFor_iff] at hcondition ⊢
  rwa [← textsFor?_eq h.1, ← h.2]

/-- Value maps of one shape that are found to give the same text have the same cells. -/
theorem matches_of_holdsAt (h : v.sameShape w = true)
    (hv : Expr.HoldsAt cells (v.conditionFor text))
    (hw : Expr.HoldsAt cells' (w.conditionFor text)) :
  Matches cells cells' v w
  := by
  rw [holdsAt_conditionFor_iff] at hv hw
  obtain ⟨values, hvalues, hcells⟩ := hv
  obtain ⟨values', hvalues', hcells'⟩ := hw
  rw [textsFor?_eq h, hvalues'] at hvalues
  cases hvalues
  exact ⟨h, hcells.trans hcells'.symm⟩

theorem cell_eq_of_columnsEqual {c d : Column} (h : Expr.HoldsAt cells (Expr.columnsEqual c d)) :
  cells c = cells d
  := by
  have hreads : Expr.ReadsOnly [c, d] (Expr.columnsEqual c d) := by
    apply Expr.readsOnly_columnsEqual <;> simp
  rw [Expr.holdsAt_iff fun x hx => get?_sample_of_mem cells (hreads x hx)] at h
  have heq := get?_eq_of_columnsEqual h
  rwa [get?_sample_of_mem cells (by simp), get?_sample_of_mem cells (by simp)] at heq

/-- Value maps that agree have the same cells. -/
theorem matches_of_agreement (h : Expr.HoldsAt cells (v.agreement w)) :
  Matches cells cells v w
  := by
  have hshape : v.sameShape w = true := by
    apply sameShape_of_agreement
    intro hnever
    rw [hnever] at h
    apply Expr.not_holdsAt_never h
  use hshape
  rw [agreement_of_sameShape hshape, pairwiseEqual, Expr.holdsAt_andAll] at h
  apply List.ext_getElem
  · simp only [List.length_map, length_columns_of_sameShape hshape]
  · intro i hi hi'
    rw [List.length_map] at hi hi'
    rw [List.getElem_map, List.getElem_map]
    apply cell_eq_of_columnsEqual
    apply h
    have hlength : i < (v.columns.zipWith Expr.columnsEqual w.columns).length := by
      rw [List.length_zipWith, Nat.lt_min]
      exact ⟨hi, hi'⟩
    rw [← List.getElem_zipWith (h := hlength)]
    apply List.getElem_mem

/-- Value maps with the same cells agree where they have values. -/
theorem Matches.holdsAt_agreement (h : Matches cells cells v w)
    (hvalues : ∀ c ∈ v.columns, (cells c).isSome) :
  Expr.HoldsAt cells (v.agreement w)
  := by
  obtain ⟨hshape, hcells⟩ := h
  rw [agreement_of_sameShape hshape, pairwiseEqual, Expr.holdsAt_andAll]
  intro e he
  obtain ⟨i, hi, rfl⟩ := List.mem_iff_getElem.1 he
  rw [List.length_zipWith, Nat.lt_min] at hi
  rw [List.getElem_zipWith]
  have heq : cells v.columns[i] = cells w.columns[i] := by
    have hget := congrArg (·[i]?) hcells
    simpa [hi.1, hi.2] using hget
  obtain ⟨s, hs⟩ := Option.isSome_iff_exists.1 (hvalues _ (List.getElem_mem hi.1))
  apply Occurrences.holdsAt_columnsEqual_of_texts hs
  rw [← heq, hs]

end

end ValueMap

namespace TermMap

variable {cells cells' : Column → Cell} {k : TermKind} {v w : ValueMap} {x : Term}

theorem holdsAt_conditionFor_typed :
  Expr.HoldsAt cells ((typed k v).conditionFor x)
    ↔ ∃ text ∈ k.textsOf x, Expr.HoldsAt cells (v.conditionFor text)
  := by
  rw [conditionFor, Expr.holdsAt_orAll]
  simp

/-- A renamed term map is found to give the same terms on renamed cells. -/
theorem holdsAt_conditionFor_rename {m : TermMap} {f : Column → Column}
    (h : ∀ c ∈ m.columns, cells' (f c) = cells c) :
  Expr.HoldsAt cells' ((m.rename f).conditionFor x) ↔ Expr.HoldsAt cells (m.conditionFor x)
  := by
  cases m with
  | fixed t =>
    rw [holdsAt_conditionFor_iff, holdsAt_conditionFor_iff]
    rfl
  | typed k v =>
    have hmatches := ValueMap.matches_rename h
    rw [rename, holdsAt_conditionFor_typed, holdsAt_conditionFor_typed]
    constructor
    · rintro ⟨text, htext, hcondition⟩
      use text, htext, hmatches.symm.holdsAt_conditionFor hcondition
    · rintro ⟨text, htext, hcondition⟩
      use text, htext, hmatches.holdsAt_conditionFor hcondition

/-- Value maps of one shape that are found to give the same term have the same cells. -/
theorem matches_of_holdsAt (hk : k.isInjective = true) (hshape : v.sameShape w = true)
    (hv : Expr.HoldsAt cells ((typed k v).conditionFor x))
    (hw : Expr.HoldsAt cells ((typed k w).conditionFor x)) :
  v.Matches cells cells w
  := by
  rw [holdsAt_conditionFor_typed] at hv hw
  obtain ⟨text, htext, hv⟩ := hv
  obtain ⟨text', htext', hw⟩ := hw
  rw [TermKind.eq_of_mem_textsOf hk htext' htext] at hw
  apply ValueMap.matches_of_holdsAt hshape hv hw

/-- A term map that gives a term has values in all its columns. -/
theorem isSome_of_makeAt {m : TermMap} (h : m.makeAt cells = some x) {c : Column}
    (hc : c ∈ m.columns) :
  (cells c).isSome
  := by
  cases m with
  | fixed t => cases hc
  | typed k v =>
    obtain ⟨text, htext, -⟩ := Option.bind_eq_some_iff.1 h
    rw [← get?_sample_of_mem cells hc]
    apply ValueMap.isSome_of_fill? htext hc

end TermMap

/-! ### Concurrence -/

/-- What term maps that give a term on the given cells need to have in common so that they are found
to give it. -/
structure Concur (cells : Column → Cell) (x : Term) (ms : List TermMap) : Prop where
  kinds : ∀ {k l v w}, .typed k v ∈ ms → .typed l w ∈ ms → k = l
  fixed : .fixed x ∈ ms → ∀ m ∈ ms, Expr.HoldsAt cells (m.conditionFor x)
  finite : (∀ m ∈ ms, ∀ m' ∈ ms, m = m')
    ∨ ∀ {k v}, .typed k v ∈ ms → k.allTerms?.isSome
      → Expr.HoldsAt cells ((TermMap.typed k v).conditionFor x)
  matching : ∀ {k v w}, .typed k v ∈ ms → .typed k w ∈ ms → k.isInjective = true
    → v.Matches cells cells w
  shapes : ∀ {k v w}, .typed k v ∈ ms → .typed k w ∈ ms → k.allTerms? = none
    → v.sameShape w = true

section

variable {cells cells' : Column → Cell} {x : Term} {ms ms' : List TermMap}

/-- Equal term maps concur. -/
theorem concur_of_same (h : ∀ m ∈ ms, ∀ m' ∈ ms, m = m') :
  Concur cells x ms
  := by
  have htyped : ∀ {k l v w}, .typed k v ∈ ms → .typed l w ∈ ms → k = l ∧ v = w := by
    intro k l v w hv hw
    simpa using h _ hv _ hw
  constructor
  · intro k l v w hv hw
    apply (htyped hv hw).1
  · intro hx m hm
    rw [h m hm _ hx]
    simp [TermMap.conditionFor, Expr.ofBool, Expr.holdsAt_always]
  · left
    apply h
  · intro k v w hv hw _
    obtain ⟨-, rfl⟩ := htyped hv hw
    exact ⟨v.sameShape_refl, rfl⟩
  · intro k v w hv hw _
    obtain ⟨-, rfl⟩ := htyped hv hw
    apply v.sameShape_refl

/-- Concurrence passes to a part of the term maps under new names of the columns. -/
theorem Concur.of_renamed (h : Concur cells x ms) {f : Column → Column}
    (hms : ∀ m' ∈ ms', ∃ m ∈ ms, m' = m.rename f ∧ ∀ c ∈ m.columns, cells' (f c) = cells c) :
  Concur cells' x ms'
  := by
  have htyped : ∀ {l w}, .typed l w ∈ ms'
      → ∃ v, .typed l v ∈ ms ∧ w = v.rename f ∧ ∀ c ∈ v.columns, cells' (f c) = cells c := by
    intro l w hw
    obtain ⟨m, hm, heq, hcells⟩ := hms _ hw
    cases m with
    | fixed t => cases heq
    | typed l v =>
      cases heq
      use v, hm, rfl, hcells
  constructor
  · intro k l v' w' hv' hw'
    obtain ⟨v, hv, -⟩ := htyped hv'
    obtain ⟨w, hw, -⟩ := htyped hw'
    apply h.kinds hv hw
  · intro hx m' hm'
    obtain ⟨m, hm, rfl, hcells⟩ := hms m' hm'
    rw [TermMap.holdsAt_conditionFor_rename hcells]
    apply h.fixed _ m hm
    obtain ⟨m₀, hm₀, heq, -⟩ := hms _ hx
    cases m₀ with
    | fixed t =>
      cases heq
      apply hm₀
    | typed k v => cases heq
  · apply h.finite.imp
    · intro hsame m₁ hm₁ m₂ hm₂
      obtain ⟨m, hm, rfl, -⟩ := hms m₁ hm₁
      obtain ⟨m', hm', rfl, -⟩ := hms m₂ hm₂
      rw [hsame m hm m' hm']
    · intro hall k v' hv' hk
      obtain ⟨v, hv, rfl, hcells⟩ := htyped hv'
      apply (TermMap.holdsAt_conditionFor_rename (m := .typed k v) hcells).2 (hall hv hk)
  · intro k v' w' hv' hw' hk
    obtain ⟨v, hv, rfl, hcells⟩ := htyped hv'
    obtain ⟨w, hw, rfl, hcells'⟩ := htyped hw'
    apply (ValueMap.matches_rename hcells).symm.trans
    apply (h.matching hv hw hk).trans (ValueMap.matches_rename hcells')
  · intro k v' w' hv' hw' hk
    obtain ⟨v, hv, rfl, -⟩ := htyped hv'
    obtain ⟨w, hw, rfl, -⟩ := htyped hw'
    apply ValueMap.sameShape_trans (ValueMap.sameShape_symm (v.sameShape_rename f))
    apply ValueMap.sameShape_trans (h.shapes hv hw hk) (w.sameShape_rename f)

/-- Term maps of one kind that can be compared concur where they are found to give a term. -/
theorem concur_of_holdsAt {k : TermKind} (hkind : ∀ {l v}, .typed l v ∈ ms → l = k)
    (hgiven : ∀ m ∈ ms, Expr.HoldsAt cells (m.conditionFor x))
    (hshape : ∀ m ∈ ms, ∀ m' ∈ ms, m.Comparable m') :
  Concur cells x ms
  := by
  constructor
  · intro l l' v w hv hw
    rw [hkind hv, hkind hw]
  · intro _
    apply hgiven
  · right
    intro l v hv _
    apply hgiven _ hv
  · intro l v w hv hw hl
    apply TermMap.matches_of_holdsAt hl _ (hgiven _ hv) (hgiven _ hw)
    apply hshape _ hv _ hw (Occurrences.allTerms?_of_isInjective hl)
  · intro l v w hv hw hl
    apply hshape _ hv _ hw hl

end

namespace Occurrences

variable {cells : Column → Cell} {x : Term} {ms : List TermMap} {a : Agreement} {condition : Expr}

/-! ### Concurrence and the verdict -/

theorem sameShape_of_allEqual {values : List ValueMap} (h : allEqual values ≠ .never)
    {v w : ValueMap} (hv : v ∈ values) (hw : w ∈ values) :
  v.sameShape w = true
  := by
  cases values with
  | nil => cases hv
  | cons u us =>
    have hfirst : ∀ w ∈ u :: us, u.sameShape w = true := by
      rw [List.forall_mem_cons]
      use u.sameShape_refl
      intro w hw
      apply ValueMap.sameShape_of_agreement (agreement_ne_never h hw)
    apply ValueMap.sameShape_trans (ValueMap.sameShape_symm (hfirst v hv)) (hfirst w hw)

theorem matches_of_allEqual {values : List ValueMap} (h : Expr.HoldsAt cells (allEqual values))
    {v w : ValueMap} (hv : v ∈ values) (hw : w ∈ values) :
  v.Matches cells cells w
  := by
  cases values with
  | nil => cases hv
  | cons u us =>
    rw [allEqual, Expr.holdsAt_andAll, List.forall_mem_map] at h
    have hfirst : ∀ w ∈ u :: us, u.Matches cells cells w := by
      rw [List.forall_mem_cons]
      constructor
      · exact ⟨u.sameShape_refl, rfl⟩
      · intro w hw
        apply ValueMap.matches_of_agreement (h w hw)
    apply (hfirst v hv).symm.trans (hfirst w hw)

/-- Value maps whose columns have the same cells all agree. -/
theorem holdsAt_allEqual {values : List ValueMap}
    (h : ∀ v ∈ values, ∀ w ∈ values, v.Matches cells cells w)
    (hvalues : ∀ v ∈ values, ∀ c ∈ v.columns, (cells c).isSome) :
  Expr.HoldsAt cells (allEqual values)
  := by
  cases values with
  | nil => apply Expr.holdsAt_always
  | cons v vs =>
    rw [allEqual, Expr.holdsAt_andAll, List.forall_mem_map]
    intro w hw
    apply (h v (by simp) w (by simp [hw])).holdsAt_agreement (hvalues v (by simp))

/-- The value maps of the occurrences, if these are of one kind. -/
theorem mem_values_of_typed {k l : TermKind} {values : List ValueMap} {v : ValueMap}
    (h : ∀ m, m ∈ ms ↔ ∃ v ∈ values, m = .typed k v) (hv : .typed l v ∈ ms) :
  l = k ∧ v ∈ values
  := by
  obtain ⟨w, hw, heq⟩ := (h _).1 hv
  cases heq
  exact ⟨rfl, hw⟩

/-- Value maps that give infinitely many terms concur if they have one shape, and the same cells if
each term has one text. -/
theorem concur_of_typed {k : TermKind} {values : List ValueMap}
    (h : ∀ m, m ∈ ms ↔ ∃ v ∈ values, m = .typed k v) (hterms : k.allTerms? = none)
    (hmatching : k.isInjective = true → ∀ v ∈ values, ∀ w ∈ values, v.Matches cells cells w)
    (hshapes : ∀ v ∈ values, ∀ w ∈ values, v.sameShape w = true) :
  Concur cells x ms
  := by
  constructor
  · intro l l' v w hv hw
    rw [(mem_values_of_typed h hv).1, (mem_values_of_typed h hw).1]
  · intro hx
    simp [h] at hx
  · right
    intro l v hv hl
    rw [(mem_values_of_typed h hv).1, hterms] at hl
    cases hl
  · intro l v w hv hw hl
    obtain ⟨rfl, hv⟩ := mem_values_of_typed h hv
    apply hmatching hl v hv w (mem_values_of_typed h hw).2
  · intro l v w hv hw _
    apply hshapes v (mem_values_of_typed h hv).2 w (mem_values_of_typed h hw).2

/-- Where the condition of the verdict is true and the term maps give a term, they concur. -/
theorem Verdict.concur (h : Verdict ms a)
    (ha : a = .exactly condition ∨ a = .compared condition)
    (hcondition : Expr.HoldsAt cells condition) (hmake : ∀ m ∈ ms, m.makeAt cells = some x)
    (hshape : .fixed x ∈ ms → ∀ m ∈ ms, ∀ m' ∈ ms, Expr.HoldsAt cells (m.conditionFor x)
      → Expr.HoldsAt cells (m'.conditionFor x) → m.Comparable m') :
  Concur cells x ms
  := by
  cases h with
  | terms | kinds | different => simp at ha
  | fixed h | single h =>
    apply concur_of_same
    intro m hm m' hm'
    rw [h m hm, h m' hm']
  | @term t k values ht hvalues h =>
    obtain ⟨rfl, -⟩ := exactlyWhen_eq (ha.resolve_right (exactlyWhen_ne_compared _ _))
    rw [holdsAt_allGive] at hcondition
    obtain rfl : t = x := by simpa using hmake _ ht
    have hgiven : ∀ m ∈ ms, Expr.HoldsAt cells (m.conditionFor t) := by
      intro m hm
      obtain rfl | ⟨v, hv, rfl⟩ := h m hm
      · simp [TermMap.conditionFor, Expr.ofBool, Expr.holdsAt_always]
      · apply hcondition v hv
    apply concur_of_holdsAt (k := k) _ hgiven
    · intro m hm m' hm'
      apply hshape ht m hm m' hm' (hgiven m hm) (hgiven m' hm')
    · intro l v hv
      obtain heq | ⟨w, -, heq⟩ := h _ hv
      · cases heq
      · cases heq
        rfl
  | @injective k values hk h =>
    obtain ⟨rfl, -⟩ := exactlyWhen_eq (ha.resolve_right (exactlyWhen_ne_compared _ _))
    apply concur_of_typed h (allTerms?_of_isInjective hk)
    · intro _ v hv w hw
      apply matches_of_allEqual hcondition hv hw
    · intro v hv w hw
      apply (matches_of_allEqual hcondition hv hw).1
  | @finite k ts values hk h =>
    obtain ⟨rfl, -⟩ := exactlyWhen_eq (ha.resolve_right (exactlyWhen_ne_compared _ _))
    rw [Expr.holdsAt_orAll] at hcondition
    obtain ⟨e, he, hcondition⟩ := hcondition
    obtain ⟨t, -, rfl⟩ := List.mem_map.1 he
    rw [holdsAt_allGive] at hcondition
    apply concur_of_holdsAt (k := k)
    · intro l v hv
      apply (mem_values_of_typed h hv).1
    · intro m hm
      obtain ⟨v, hv, rfl⟩ := (h m).1 hm
      have hmade := TermMap.makeAt_of_holdsAt (hcondition v hv)
      rw [hmake _ hm] at hmade
      cases hmade
      apply hcondition v hv
    · intro m hm m' hm'
      obtain ⟨v, -, rfl⟩ := (h m).1 hm
      obtain ⟨w, -, rfl⟩ := (h m').1 hm'
      intro hnone
      rw [hk] at hnone
      cases hnone
  | @compared k values hk hterms h hnever =>
    apply concur_of_typed h hterms
    · intro hinjective
      rw [hk] at hinjective
      cases hinjective
    · intro v hv w hw
      apply sameShape_of_allEqual hnever hv hw

theorem verdict_of_same {m : TermMap} (hm : m ∈ ms) (h : ∀ m' ∈ ms, m' = m) :
  (ofList ms).verdict = .exactly .always
  := by
  have hadd : (ofList [m]).add m = ofList [m] := by
    cases m with
    | fixed t => simp [ofList, add, empty]
    | typed k v => simp [ofList, add, empty, place, Spelled.ordering_eq_iff.2]
  have hfold : ∀ l : List TermMap, (∀ m' ∈ l, m' = m) → l.foldl add (ofList [m]) = ofList [m] := by
    intro l hl
    induction l with
    | nil => rfl
    | cons m' l ih =>
      rw [List.forall_mem_cons] at hl
      rw [List.foldl_cons, hl.1, hadd, ih hl.2]
  have hsingle : ofList ms = ofList [m] := by
    cases ms with
    | nil => cases hm
    | cons m' ms =>
      rw [List.forall_mem_cons] at h
      rw [h.1]
      apply hfold ms h.2
  rw [hsingle]
  cases m with
  | fixed t => rfl
  | typed k v => rfl

/-- Where term maps concur, the condition of the verdict on them is true. -/
theorem exists_verdict (h : Concur cells x ms) (hmake : ∀ m ∈ ms, m.makeAt cells = some x)
    {m : TermMap} (hm : m ∈ ms) :
  ∃ condition, Expr.HoldsAt cells condition
    ∧ ((ofList ms).verdict = .exactly condition ∨ (ofList ms).verdict = .compared condition)
  := by
  have hexactly : ∀ {e}, Expr.HoldsAt cells e → ∃ condition, Expr.HoldsAt cells condition
      ∧ (exactlyWhen e = .exactly condition ∨ exactlyWhen e = .compared condition) :=
    fun he => ⟨_, he, .inl (exactlyWhen_of_holdsAt he)⟩
  obtain hsame | hfinite := h.finite
  · use .always, Expr.holdsAt_always
    left
    apply verdict_of_same hm
    intro m' hm'
    apply hsame m' hm' m hm
  · have hverdict := verdict_ofList hm
    generalize (ofList ms).verdict = a at hverdict ⊢
    cases hverdict with
    | terms ht hu hne =>
      have ht := hmake _ ht
      rw [TermMap.makeAt_fixed, ← hmake _ hu] at ht
      exact absurd (Option.some.inj ht) hne
    | kinds hv hw hne => exact absurd (h.kinds hv hw) hne
    | fixed | single => exact ⟨.always, Expr.holdsAt_always, .inl rfl⟩
    | compared => exact ⟨.always, Expr.holdsAt_always, .inr rfl⟩
    | @term t k values ht hvalues _ =>
      apply hexactly
      obtain rfl : t = x := by simpa using hmake _ ht
      rw [holdsAt_allGive]
      intro v hv
      apply h.fixed ht _ (hvalues v hv)
    | @injective k values hk hms =>
      apply hexactly
      apply holdsAt_allEqual
      · intro v hv w hw
        apply h.matching ((hms _).2 ⟨v, hv, rfl⟩) ((hms _).2 ⟨w, hw, rfl⟩) hk
      · intro v hv c hc
        apply TermMap.isSome_of_makeAt (hmake _ ((hms _).2 ⟨v, hv, rfl⟩)) hc
    | @finite k ts values hk hms =>
      apply hexactly
      obtain ⟨v, hv, rfl⟩ := (hms m).1 hm
      obtain ⟨text, -, htext⟩ := Option.bind_eq_some_iff.1 (hmake _ hm)
      rw [Expr.holdsAt_orAll]
      use allGive k values x, List.mem_map_of_mem (TermKind.mem_of_allTerms? hk htext)
      rw [holdsAt_allGive]
      intro w hw
      apply hfinite ((hms _).2 ⟨w, hw, rfl⟩)
      rw [hk]
      rfl
    | @different k values hk hms hnever =>
      refine absurd hnever (allEqual_ne_never ?_)
      intro v hv w hw
      apply h.shapes ((hms _).2 ⟨v, hv, rfl⟩) ((hms _).2 ⟨w, hw, rfl⟩) hk

end Occurrences

/-! ### Concurrence and assignments -/

namespace Assignment

/-- The term maps at the occurrences of a variable. -/
def mapsAt (occurrences : List (Variable × TermMap)) (v : Variable) : List TermMap :=
  (occurrences.filter fun o => o.1 = v).map (·.2)

section

variable {occurrences : List (Variable × TermMap)} {v : Variable} {condition : Expr}
  {compared : Bool} {cells : Column → Cell} {x : Term}

@[simp]
theorem mem_mapsAt {m : TermMap} :
  m ∈ mapsAt occurrences v ↔ (v, m) ∈ occurrences
  := mem_filter_map

/-- Where the condition is true and the occurrences give a term, they concur. -/
theorem concur_of_agreement? (h : agreement? occurrences v = some (condition, compared))
    (hcondition : Expr.HoldsAt cells condition)
    (hmake : ∀ m ∈ mapsAt occurrences v, m.makeAt cells = some x)
    (hshape : .fixed x ∈ mapsAt occurrences v → ∀ m ∈ mapsAt occurrences v,
      ∀ m' ∈ mapsAt occurrences v, Expr.HoldsAt cells (m.conditionFor x)
        → Expr.HoldsAt cells (m'.conditionFor x) → m.Comparable m') :
  Concur cells x (mapsAt occurrences v)
  := by
  simp only [agreement?] at h
  split at h
  · rename_i hlength
    apply concur_of_same
    intro m hm m' hm'
    apply eq_of_length_le_one hlength (mem_mapsAt.1 hm) (mem_mapsAt.1 hm')
  · rename_i hlength
    obtain ⟨m, hm⟩ : ∃ m, m ∈ mapsAt occurrences v := by
      apply List.exists_mem_of_length_pos
      apply Nat.lt_of_lt_of_le Nat.one_pos (Nat.le_of_not_le hlength)
    have hverdict := Occurrences.verdict_ofList hm
    split at h
    · cases h
    · rename_i heq
      cases h
      apply hverdict.concur (.inl heq) hcondition hmake hshape
    · rename_i heq
      cases h
      apply hverdict.concur (.inr heq) hcondition hmake hshape

/-- Where the occurrences concur, the condition is true. -/
theorem exists_agreement?_of_concur (h : Concur cells x (mapsAt occurrences v))
    (hmake : ∀ m ∈ mapsAt occurrences v, m.makeAt cells = some x) :
  ∃ condition compared, agreement? occurrences v = some (condition, compared)
    ∧ Expr.HoldsAt cells condition
  := by
  simp only [agreement?]
  split
  · exact ⟨.always, false, rfl, Expr.holdsAt_always⟩
  · rename_i hlength
    obtain ⟨m, hm⟩ : ∃ m, m ∈ mapsAt occurrences v := by
      apply List.exists_mem_of_length_pos
      apply Nat.lt_of_lt_of_le Nat.one_pos (Nat.le_of_not_le hlength)
    obtain ⟨condition, hcondition, heq | heq⟩ := Occurrences.exists_verdict h hmake hm
    · refine ⟨condition, false, ?_, hcondition⟩
      rw [mapsAt] at heq
      rw [heq]
    · refine ⟨condition, true, ?_, hcondition⟩
      rw [mapsAt] at heq
      rw [heq]

end

/-- The condition of an assignment is true only where that of every variable is. -/
theorem exists_agreement?_of_ofChoices? {choices : List Choice} {a : Assignment}
    (ha : ofChoices? choices = some a) {cells : Column → Cell}
    (hcondition : Expr.HoldsAt cells a.condition) {o : Variable × TermMap}
    (ho : o ∈ choices.flatMap Choice.occurrences) :
  ∃ condition compared,
    agreement? (choices.flatMap Choice.occurrences) o.1 = some (condition, compared)
      ∧ Expr.HoldsAt cells condition
  := by
  simp only [ofChoices?, Option.bind_eq_bind, Option.bind_eq_some_iff, mapM_eq_some,
    Option.pure_def, Option.some.injEq] at ha
  obtain ⟨agreements, hagreements, rfl⟩ := ha
  rw [Expr.holdsAt_andAll, List.forall_mem_map] at hcondition
  have hv : o.1 ∈ canonical ((choices.flatMap Choice.occurrences).map (·.1)) := by
    rw [mem_canonical]
    apply List.mem_map_of_mem ho
  obtain ⟨i, hi, hget⟩ := List.mem_iff_getElem.1 hv
  have hi' : i < agreements.length := by
    rw [← hagreements.length_eq]
    apply hi
  use agreements[i].1, agreements[i].2
  rw [← hget]
  use hagreements.get hi hi', hcondition _ (List.getElem_mem hi')

end Assignment

end RelGraph.Mapping
