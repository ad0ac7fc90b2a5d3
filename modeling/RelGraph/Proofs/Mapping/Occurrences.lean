import RelGraph.Mapping.Bgp
import RelGraph.Proofs.Mapping.Cells

/-!
# Agreement of occurrences

The verdict on the occurrences of a variable is right: where its condition is true, the term maps
give the same term, unless the terms still have to be compared; and where the term maps give the same
term, the condition is true.  The second part needs that the texts of the term maps can be told
apart, and that term maps of different shapes do not give the same term.
-/

namespace RelGraph.Mapping

open Rdf Sql

variable {k : TermKind} {t : Term} {v w : ValueMap} {values : List ValueMap} {m : TermMap}
  {ms : List TermMap}

/-! ### Kinds of terms -/

namespace TermKind

theorem accepts_of_mem_candidates {text : String} (h : text ∈ k.candidates t) :
  k.accepts t = true
  := by
  by_contra hk
  simp [candidates.eq_def, hk] at h

/-- A term is of one kind only. -/
theorem eq_of_make? {k l : TermKind} (hk : k.LowerCase) (hl : l.LowerCase) {a b : String}
    (ha : k.make? a = some t) (hb : l.make? b = some t) :
  k = l
  := by
  have hka := accepts_of_mem_candidates (mem_candidates_of_make? hk ha)
  have hlb := accepts_of_mem_candidates (mem_candidates_of_make? hl hb)
  cases k <;> cases l <;> cases t <;> simp_all [accepts]

/-- Different texts of an injective kind stand for different terms. -/
theorem eq_of_isInjective (hi : k.isInjective = true) {a b : String} (ha : k.make? a = some t)
    (hb : k.make? b = some t) :
  a = b
  := by
  by_cases hk : k.LowerCase
  · apply eq_of_mem_textsOf hi ((mem_textsOf_iff hk).2 ha) ((mem_textsOf_iff hk).2 hb)
  · -- only the literals of a language can have upper case, and these have the text as it is
    match k, hk with
    | .literal datatype (some language), _ =>
      simp only [make?] at ha hb
      split at ha
      · obtain ⟨tag, htag, rfl⟩ := Option.map_eq_some_iff.1 ha
        rw [if_pos ‹_›, htag] at hb
        simpa using hb.symm
      · cases ha
    | .iri, hk | .blank, hk | .literal _ none, hk => exact absurd True.intro hk

theorem mem_of_allTerms? {ts : List Term} (h : k.allTerms? = some ts) {text : String}
    (ht : k.make? text = some t) :
  t ∈ ts
  := by
  rw [allTerms?.eq_def] at h
  split at h
  · split at h
    · rename_i datatype hboolean
      cases h
      obtain ⟨form, hform, rfl⟩ := Option.map_eq_some_iff.1 ht
      rw [lexicalForm?, if_pos hboolean] at hform
      subst hboolean
      split at hform
      · cases hform
        exact List.mem_cons_self
      · split at hform
        · cases hform
          exact List.mem_cons_of_mem _ List.mem_cons_self
        · cases hform
    · cases h
  · cases h

end TermKind

/-! ### The occurrences -/

namespace Occurrences

theorem mem_terms_foldl {o : Occurrences} :
  t ∈ (ms.foldl add o).terms ↔ t ∈ o.terms ∨ .fixed t ∈ ms
  := by
  induction ms generalizing o with
  | nil => simp
  | cons m ms ih =>
    rw [List.foldl_cons, ih]
    cases m with
    | fixed u =>
      rw [add]
      split
      · rename_i hu
        constructor
        · rintro (h | h)
          · exact .inl h
          · exact .inr (List.mem_cons_of_mem _ h)
        · rintro (h | h)
          · exact .inl h
          · obtain h | h := List.mem_cons.1 h
            · cases h
              exact .inl hu
            · exact .inr h
      · simp [or_assoc]
    | typed kind value => simp [add]

theorem mem_typed_foldl {o : Occurrences} :
  (k, v) ∈ (ms.foldl add o).typed ↔ (k, v) ∈ o.typed ∨ .typed k v ∈ ms
  := by
  induction ms generalizing o with
  | nil => simp
  | cons m ms ih =>
    rw [List.foldl_cons, ih]
    cases m with
    | fixed u =>
      rw [add]
      split <;> simp
    | typed kind value =>
      simp [add, mem_place]
      tauto

theorem nodup_terms_foldl {o : Occurrences} (h : o.terms.Nodup) (ms : List TermMap) :
  (ms.foldl add o).terms.Nodup
  := by
  induction ms generalizing o with
  | nil => apply h
  | cons m ms ih =>
    apply ih
    cases m with
    | fixed t =>
      rw [add]
      split
      · apply h
      · rename_i ht
        apply List.Nodup.append h (List.nodup_singleton t)
        simpa using ht
    | typed kind value => apply h

@[simp]
theorem mem_terms_ofList :
  t ∈ (ofList ms).terms ↔ .fixed t ∈ ms
  := by
  simp [ofList, mem_terms_foldl, empty]

@[simp]
theorem mem_typed_ofList :
  (k, v) ∈ (ofList ms).typed ↔ .typed k v ∈ ms
  := by
  simp [ofList, mem_typed_foldl, empty]

theorem nodup_terms_ofList (ms : List TermMap) :
  (ofList ms).terms.Nodup
  := nodup_terms_foldl (by simp [empty]) ms

/-! ### Conditions of the verdict -/

section

variable {cells : Column → Cell} {kind : TermKind}

/-- All the value maps give a term where each of them gives it. -/
theorem holdsAt_allGive :
  Expr.HoldsAt cells (allGive kind values t)
    ↔ ∀ v ∈ values, Expr.HoldsAt cells ((TermMap.typed kind v).conditionFor t)
  := by
  rw [allGive, Expr.holdsAt_andAll, List.forall_mem_map]
  rfl

theorem holdsAt_columnsEqual_of_texts {c d : Column} {s : String} (hc : cells c = some s)
    (hd : cells d = some s) :
  Expr.HoldsAt cells (Expr.columnsEqual c d)
  := by
  have hreads : Expr.ReadsOnly [c, d] (Expr.columnsEqual c d) := by
    apply Expr.readsOnly_columnsEqual <;> simp
  rw [Expr.holdsAt_iff fun x hx => get?_sample_of_mem cells (hreads x hx),
    Expr.truthOn_columnsEqual ((get?_sample_of_mem cells (by simp)).trans hc)
      ((get?_sample_of_mem cells (by simp)).trans hd)]
  simp

theorem readsOnly_agreement (v w : ValueMap) :
  Expr.ReadsOnly (v.columns ++ w.columns) (v.agreement w)
  := by
  cases hshape : v.sameShape w with
  | false =>
    rw [ValueMap.agreement_of_not_sameShape hshape]
    apply Expr.readsOnly_never
  | true =>
    rw [ValueMap.agreement_of_sameShape hshape]
    apply ValueMap.readsOnly_pairwiseEqual

/-- The agreement of two value maps can be looked at on a row with their columns. -/
theorem holdsAt_agreement_iff :
  Expr.HoldsAt cells (v.agreement w)
    ↔ Expr.truthOn (Row.sample (v.columns ++ w.columns) cells) (v.agreement w) = some true
  := by
  apply Expr.holdsAt_iff
  intro c hc
  apply get?_sample_of_mem cells (readsOnly_agreement v w c hc)

/-- A value map is filled alike on all rows with its columns. -/
theorem fill?_sample {cs : List Column} (h : v.columns ⊆ cs) :
  v.fill? (Row.sample cs cells) = v.fill? (Row.sample v.columns cells)
  := by
  apply ValueMap.fill?_congr
  intro c hc
  rw [get?_sample_of_mem cells hc, get?_sample_of_mem cells (h hc)]

/-- Value maps that agree give the same term. -/
theorem makeAt_eq_of_agreement (h : Expr.HoldsAt cells (v.agreement w)) :
  (TermMap.typed kind v).makeAt cells = (TermMap.typed kind w).makeAt cells
  := by
  have hfill := ValueMap.fill?_eq_of_agreement (holdsAt_agreement_iff.1 h)
  rw [fill?_sample (List.subset_append_left _ _), fill?_sample (List.subset_append_right _ _)] at hfill
  simp only [TermMap.makeAt, TermMap.make?, TermMap.columns, hfill]

/-- Value maps of one shape whose texts can be told apart agree where they give the same term. -/
theorem agreement_of_makeAt_eq (hinjective : kind.isInjective = true)
    (hshape : v.sameShape w = true) (hv : (TermMap.typed kind v).UnambiguousAt cells)
    (hw : (TermMap.typed kind w).UnambiguousAt cells)
    (hvt : (TermMap.typed kind v).makeAt cells = some t)
    (hwt : (TermMap.typed kind w).makeAt cells = some t) :
  Expr.HoldsAt cells (v.agreement w)
  := by
  obtain ⟨a, ha, hat⟩ := Option.bind_eq_some_iff.1 hvt
  obtain ⟨b, hb, hbt⟩ := Option.bind_eq_some_iff.1 hwt
  obtain rfl := TermKind.eq_of_isInjective hinjective hat hbt
  rw [holdsAt_agreement_iff]
  apply ValueMap.truthOn_agreement hshape
  · apply ValueMap.unambiguous_congr _ hv
    intro c hc
    rw [TermMap.columns, get?_sample_of_mem cells hc,
      get?_sample_of_mem cells (List.mem_append_left _ hc)]
  · apply ValueMap.unambiguous_congr _ hw
    intro c hc
    rw [TermMap.columns, get?_sample_of_mem cells hc,
      get?_sample_of_mem cells (List.mem_append_right _ hc)]
  · rw [fill?_sample (List.subset_append_left _ _)]
    apply ha
  · rw [fill?_sample (List.subset_append_right _ _)]
    apply hb

end

/-! ### The verdict -/

/-- The ways in which the verdict on some term maps can come about. -/
inductive Verdict (ms : List TermMap) : Agreement → Prop where
  | terms {t u : Term} (ht : .fixed t ∈ ms) (hu : .fixed u ∈ ms) (hne : t ≠ u) : Verdict ms .never
  | fixed {t : Term} (h : ∀ m ∈ ms, m = .fixed t) : Verdict ms (.exactly .always)
  | kinds {k l : TermKind} {v w : ValueMap} (hv : .typed k v ∈ ms) (hw : .typed l w ∈ ms)
      (hne : k ≠ l) : Verdict ms .never
  | term {t : Term} {k : TermKind} {values : List ValueMap} (ht : .fixed t ∈ ms)
      (hvalues : ∀ v ∈ values, .typed k v ∈ ms)
      (h : ∀ m ∈ ms, m = .fixed t ∨ ∃ v ∈ values, m = .typed k v) :
    Verdict ms (exactlyWhen (allGive k values t))
  | single {m : TermMap} (h : ∀ m' ∈ ms, m' = m) : Verdict ms (.exactly .always)
  | injective {k : TermKind} {values : List ValueMap} (hk : k.isInjective = true)
      (h : ∀ m, m ∈ ms ↔ ∃ v ∈ values, m = .typed k v) :
    Verdict ms (exactlyWhen (allEqual values))
  | finite {k : TermKind} {ts : List Term} {values : List ValueMap} (hk : k.allTerms? = some ts)
      (h : ∀ m, m ∈ ms ↔ ∃ v ∈ values, m = .typed k v) :
    Verdict ms (exactlyWhen (Expr.orAll (ts.map (allGive k values))))
  | different {k : TermKind} {values : List ValueMap} (hk : k.allTerms? = none)
      (h : ∀ m, m ∈ ms ↔ ∃ v ∈ values, m = .typed k v) (hnever : allEqual values = .never) :
    Verdict ms .never
  | compared {k : TermKind} {values : List ValueMap} (hk : k.isInjective = false)
      (hterms : k.allTerms? = none) (h : ∀ m, m ∈ ms ↔ ∃ v ∈ values, m = .typed k v)
      (hnever : allEqual values ≠ .never) : Verdict ms (.compared .always)

theorem verdict_verdictOf (h : ∀ m, m ∈ ms ↔ ∃ v ∈ values, m = .typed k v) :
  Verdict ms (verdictOf k values)
  := by
  rw [verdictOf]
  split
  · rename_i hlength
    obtain ⟨v, rfl⟩ := List.length_eq_one_iff.1 hlength
    apply Verdict.single (m := .typed k v)
    intro m hm
    simpa using (h m).1 hm
  · split
    · rename_i hk
      apply Verdict.injective hk h
    · rename_i hk
      split
      · rename_i ts hts
        apply Verdict.finite hts h
      · rename_i hts
        split
        · rename_i hnever
          apply Verdict.different hts h hnever
        · rename_i hnever
          apply Verdict.compared (by simpa using hk) hts h hnever

theorem eq_of_fixed (h : (ofList ms).terms.length ≤ 1) {t u : Term} (ht : .fixed t ∈ ms)
    (hu : .fixed u ∈ ms) :
  t = u
  := by
  rw [← mem_terms_ofList] at ht hu
  match hts : (ofList ms).terms, h with
  | [], _ => simp [hts] at ht
  | [s], _ =>
    rw [hts, List.mem_singleton] at ht hu
    rw [ht, hu]
  | _ :: _ :: _, h => simp at h

/-- If all the kinds are the same, the occurrences are given by their value maps. -/
theorem typed_mem_iff {rest : List (TermKind × ValueMap)} (h : (ofList ms).typed = (k, v) :: rest)
    (hrest : ∀ p ∈ rest, p.1 = k) {l : TermKind} :
  .typed l w ∈ ms ↔ l = k ∧ w ∈ v :: rest.map (·.2)
  := by
  rw [← mem_typed_ofList, h]
  constructor
  · intro hmem
    obtain hmem | hmem := List.mem_cons.1 hmem
    · cases hmem
      simp
    · use hrest _ hmem
      apply List.mem_cons_of_mem
      apply List.mem_map_of_mem (f := Prod.snd) hmem
  · rintro ⟨rfl, hmem⟩
    obtain rfl | hmem := List.mem_cons.1 hmem
    · simp
    · obtain ⟨⟨l', w'⟩, hp, rfl⟩ := List.mem_map.1 hmem
      obtain rfl := hrest _ hp
      apply List.mem_cons_of_mem _ hp

theorem verdict_ofList (hm : m ∈ ms) :
  Verdict ms (ofList ms).verdict
  := by
  rw [verdict]
  split
  · rename_i hlength
    have hnodup := nodup_terms_ofList ms
    match hts : (ofList ms).terms, hlength with
    | t :: u :: ts, _ =>
      rw [hts] at hnodup
      apply Verdict.terms (t := t) (u := u)
      · simp [← mem_terms_ofList, hts]
      · simp [← mem_terms_ofList, hts]
      · rintro rfl
        simp at hnodup
  · rename_i hlength
    have heq : ∀ t u, .fixed t ∈ ms → .fixed u ∈ ms → t = u := by
      intro t u
      apply eq_of_fixed (Nat.le_of_not_lt hlength)
    split
    · rename_i hnil
      have hfixed : ∀ m ∈ ms, ∃ t, m = .fixed t := by
        intro m hm
        cases m with
        | fixed t => use t
        | typed k v => simp [← mem_typed_ofList, hnil] at hm
      obtain ⟨t, rfl⟩ := hfixed m hm
      apply Verdict.fixed (t := t)
      intro m' hm'
      obtain ⟨u, rfl⟩ := hfixed m' hm'
      rw [heq u t hm' hm]
    · rename_i k v rest htyped
      split
      · rename_i hany
        obtain ⟨⟨l, w⟩, hmem, hne⟩ := List.any_eq_true.1 hany
        apply Verdict.kinds (k := k) (l := l) (v := v) (w := w)
        · simp [← mem_typed_ofList, htyped]
        · simp [← mem_typed_ofList, htyped, hmem]
        · rintro rfl
          simp at hne
      · rename_i hany
        have hiff : ∀ l w, .typed l w ∈ ms ↔ l = k ∧ w ∈ v :: rest.map (·.2) := by
          intro l w
          apply typed_mem_iff htyped
          simpa using hany
        split
        · rename_i t ts hts
          have ht : .fixed t ∈ ms := by simp [← mem_terms_ofList, hts]
          apply Verdict.term ht fun w hw => (hiff k w).2 ⟨rfl, hw⟩
          intro m' hm'
          cases m' with
          | fixed u =>
            left
            rw [heq u t hm' ht]
          | typed l w =>
            right
            obtain ⟨rfl, hw⟩ := (hiff l w).1 hm'
            use w
        · rename_i hts
          apply verdict_verdictOf
          intro m'
          cases m' with
          | fixed u => simp [← mem_terms_ofList, hts]
          | typed l w =>
            rw [hiff]
            constructor
            · rintro ⟨rfl, hw⟩
              use w
            · rintro ⟨w', hw, heq⟩
              cases heq
              use rfl

theorem exactlyWhen_eq {condition c : Expr} (h : exactlyWhen condition = .exactly c) :
  c = condition ∧ condition ≠ .never
  := by
  rw [exactlyWhen] at h
  split at h
  · cases h
  · rename_i hne
    cases h
    exact ⟨rfl, hne⟩

theorem exactlyWhen_ne_compared (condition c : Expr) :
  exactlyWhen condition ≠ .compared c
  := by
  rw [exactlyWhen]
  split <;> simp

theorem exactlyWhen_of_holdsAt {condition : Expr} {cells : Column → Cell}
    (h : Expr.HoldsAt cells condition) :
  exactlyWhen condition = .exactly condition
  := by
  rw [exactlyWhen, if_neg]
  rintro rfl
  apply Expr.not_holdsAt_never h

/-! ### The verdict is right -/

section

variable {cells : Column → Cell} {a : Agreement} {condition : Expr}

/-- Where the condition of the verdict is true, all the term maps give the same. -/
theorem Verdict.makeAt_eq (h : Verdict ms a) (ha : a = .exactly condition)
    (hcondition : Expr.HoldsAt cells condition) {m m' : TermMap} (hm : m ∈ ms) (hm' : m' ∈ ms) :
  m.makeAt cells = m'.makeAt cells
  := by
  suffices hall : ∃ x, ∀ m ∈ ms, m.makeAt cells = x by
    obtain ⟨x, hx⟩ := hall
    rw [hx m hm, hx m' hm']
  cases h with
  | terms => cases ha
  | kinds => cases ha
  | different => cases ha
  | compared => cases ha
  | @fixed t h =>
    use some t
    intro m hm
    rw [h m hm, TermMap.makeAt_fixed]
  | @single m h =>
    use m.makeAt cells
    intro m' hm'
    rw [h m' hm']
  | @term t k values ht hvalues h =>
    obtain ⟨rfl, -⟩ := exactlyWhen_eq ha
    rw [holdsAt_allGive] at hcondition
    use some t
    intro m hm
    obtain rfl | ⟨v, hv, rfl⟩ := h m hm
    · rfl
    · apply TermMap.makeAt_of_holdsAt (hcondition v hv)
  | @injective k values hk h =>
    obtain ⟨rfl, -⟩ := exactlyWhen_eq ha
    cases values with
    | nil =>
      use none
      intro m hm
      simpa using (h m).1 hm
    | cons v vs =>
      rw [allEqual, Expr.holdsAt_andAll, List.forall_mem_map] at hcondition
      use (TermMap.typed k v).makeAt cells
      intro m hm
      obtain ⟨w, hw, rfl⟩ := (h m).1 hm
      obtain rfl | hw := List.mem_cons.1 hw
      · rfl
      · rw [makeAt_eq_of_agreement (hcondition w hw)]
  | @finite k ts values hk h =>
    obtain ⟨rfl, -⟩ := exactlyWhen_eq ha
    rw [Expr.holdsAt_orAll] at hcondition
    obtain ⟨e, he, hcondition⟩ := hcondition
    obtain ⟨t, -, rfl⟩ := List.mem_map.1 he
    rw [holdsAt_allGive] at hcondition
    use some t
    intro m hm
    obtain ⟨v, hv, rfl⟩ := (h m).1 hm
    apply TermMap.makeAt_of_holdsAt (hcondition v hv)

end

end Occurrences

/-! ### Term maps that can be compared -/

namespace TermMap

/-- The terms can be compared by the database: the value maps have the same shape, or there are only
finitely many terms. -/
def Comparable : TermMap → TermMap → Prop
  | .typed k v, .typed _ w => k.allTerms? = none → v.sameShape w = true
  | _, _ => True

theorem Comparable.rename {t t' : TermMap} (h : t.Comparable t') (f g : Column → Column) :
  (t.rename f).Comparable (t'.rename g)
  := by
  cases t with
  | fixed u => trivial
  | typed k v =>
    cases t' with
    | fixed u => trivial
    | typed k' v' =>
      intro hk
      apply ValueMap.sameShape_trans (ValueMap.sameShape_symm (ValueMap.sameShape_rename f v))
      apply ValueMap.sameShape_trans (h hk) (ValueMap.sameShape_rename g v')

end TermMap

namespace Occurrences

section

variable {cells : Column → Cell} {a : Agreement}

theorem allGive_of_makeAt (hlower : ∀ v ∈ values, (TermMap.typed k v).LowerCase)
    (hclear : ∀ v ∈ values, (TermMap.typed k v).UnambiguousAt cells)
    (h : ∀ v ∈ values, (TermMap.typed k v).makeAt cells = some t) :
  Expr.HoldsAt cells (allGive k values t)
  := by
  rw [holdsAt_allGive]
  intro v hv
  apply TermMap.holdsAt_of_makeAt (hlower v hv) (hclear v hv) (h v hv)

theorem allTerms?_of_isInjective (hk : k.isInjective = true) :
  k.allTerms? = none
  := by
  cases k with
  | literal datatype language =>
    cases language <;> simp_all [TermKind.isInjective, TermKind.allTerms?]
  | _ => rfl

/-- Value maps of one shape can agree. -/
theorem allEqual_ne_never (h : ∀ v ∈ values, ∀ w ∈ values, v.sameShape w = true) :
  allEqual values ≠ .never
  := by
  cases values with
  | nil =>
    rw [allEqual]
    simp
  | cons v vs =>
    -- where all cells are the same, all columns are equal
    have hall : Expr.HoldsAt (fun _ => some "") (allEqual (v :: vs)) := by
      rw [allEqual, Expr.holdsAt_andAll, List.forall_mem_map]
      intro w hw
      rw [ValueMap.agreement_of_sameShape (h v (by simp) w (by simp [hw])),
        ValueMap.pairwiseEqual, Expr.holdsAt_andAll]
      intro e he
      obtain ⟨c, -, d, -, rfl⟩ := ValueMap.mem_zipWith_columnsEqual he
      apply holdsAt_columnsEqual_of_texts rfl rfl
    intro hnever
    rw [hnever] at hall
    apply Expr.not_holdsAt_never hall

/-- Where all the term maps give the same term, the condition of the verdict is true. -/
theorem Verdict.holdsAt (h : Verdict ms a) (hm : m ∈ ms) (hlower : ∀ m ∈ ms, m.LowerCase)
    (hclear : ∀ m ∈ ms, m.UnambiguousAt cells) (hshape : ∀ m ∈ ms, ∀ m' ∈ ms, m.Comparable m')
    (hmake : ∀ m ∈ ms, m.makeAt cells = some t) :
  ∃ condition, Expr.HoldsAt cells condition ∧ (a = .exactly condition ∨ a = .compared condition)
  := by
  cases h with
  | @terms t' u ht hu hne =>
    have ht := hmake _ ht
    rw [TermMap.makeAt_fixed, ← hmake _ hu] at ht
    exact absurd (Option.some.inj ht) hne
  | @kinds k l v w hv hw hne =>
    obtain ⟨a, -, ha⟩ := Option.bind_eq_some_iff.1 (hmake _ hv)
    obtain ⟨b, -, hb⟩ := Option.bind_eq_some_iff.1 (hmake _ hw)
    exact absurd (TermKind.eq_of_make? (hlower _ hv) (hlower _ hw) ha hb) hne
  | fixed => exact ⟨.always, Expr.holdsAt_always, .inl rfl⟩
  | single => exact ⟨.always, Expr.holdsAt_always, .inl rfl⟩
  | compared => exact ⟨.always, Expr.holdsAt_always, .inr rfl⟩
  | @term t' k values ht hvalues h =>
    obtain rfl : t' = t := by simpa using hmake _ ht
    have hall := allGive_of_makeAt (fun v hv => hlower _ (hvalues v hv))
      (fun v hv => hclear _ (hvalues v hv)) (fun v hv => hmake _ (hvalues v hv))
    exact ⟨_, hall, .inl (exactlyWhen_of_holdsAt hall)⟩
  | @injective k values hk h =>
    have hmem : ∀ v ∈ values, .typed k v ∈ ms := fun v hv => (h _).2 ⟨v, hv, rfl⟩
    have hall : Expr.HoldsAt cells (allEqual values) := by
      cases values with
      | nil => apply Expr.holdsAt_always
      | cons v vs =>
        have hv := hmem v (by simp)
        rw [allEqual, Expr.holdsAt_andAll, List.forall_mem_map]
        intro w hw
        have hw := hmem w (by simp [hw])
        apply agreement_of_makeAt_eq hk (hshape _ hv _ hw (allTerms?_of_isInjective hk))
          (hclear _ hv) (hclear _ hw) (hmake _ hv) (hmake _ hw)
    exact ⟨_, hall, .inl (exactlyWhen_of_holdsAt hall)⟩
  | @finite k ts values hk h =>
    have hmem : ∀ v ∈ values, .typed k v ∈ ms := fun v hv => (h _).2 ⟨v, hv, rfl⟩
    obtain ⟨v, hv, rfl⟩ := (h m).1 hm
    obtain ⟨text, -, htext⟩ := Option.bind_eq_some_iff.1 (hmake _ hm)
    have hall : Expr.HoldsAt cells (Expr.orAll (ts.map (allGive k values))) := by
      rw [Expr.holdsAt_orAll]
      use allGive k values t, List.mem_map_of_mem (TermKind.mem_of_allTerms? hk htext)
      apply allGive_of_makeAt (fun v hv => hlower _ (hmem v hv))
        (fun v hv => hclear _ (hmem v hv)) (fun v hv => hmake _ (hmem v hv))
    exact ⟨_, hall, .inl (exactlyWhen_of_holdsAt hall)⟩
  | @different k values hk h hnever =>
    have hmem : ∀ v ∈ values, .typed k v ∈ ms := fun v hv => (h _).2 ⟨v, hv, rfl⟩
    refine absurd hnever (allEqual_ne_never ?_)
    intro v hv w hw
    apply hshape _ (hmem v hv) _ (hmem w hw) hk

end

/-! ### The columns of the condition -/

section

variable {a : Agreement} {condition : Expr} {c : Column}

theorem mem_columnList_allGive (h : allGive k values t ≠ .never) (hv : v ∈ values)
    (hc : c ∈ v.columns) :
  c ∈ (allGive k values t).columnList
  := by
  have hnever := Expr.never_notMem_of_andAll_ne h
  have hmem := List.mem_map_of_mem (f := fun v => (TermMap.typed k v).conditionFor t) hv
  rw [allGive, Expr.mem_columnList_andAll hnever]
  use (TermMap.typed k v).conditionFor t, hmem
  apply TermMap.mem_columnList_conditionFor _ hc
  intro heq
  apply hnever
  rw [← heq]
  apply hmem

theorem agreement_ne_never {vs : List ValueMap} (h : allEqual (v :: vs) ≠ .never) (hw : w ∈ vs) :
  v.agreement w ≠ .never
  := by
  intro heq
  apply Expr.never_notMem_of_andAll_ne h
  rw [← heq]
  apply List.mem_map_of_mem hw

theorem length_columns_of_allEqual {vs : List ValueMap} (h : allEqual (v :: vs) ≠ .never)
    (hw : w ∈ v :: vs) :
  v.columns.length = w.columns.length
  := by
  obtain rfl | hw := List.mem_cons.1 hw
  · rfl
  · apply ValueMap.length_columns_of_sameShape
    apply ValueMap.sameShape_of_agreement (agreement_ne_never h hw)

/-- Two different columns at the same place of the first and of another value map are mentioned. -/
theorem mem_columnList_allEqual {vs : List ValueMap} (h : allEqual (v :: vs) ≠ .never)
    (hw : w ∈ v :: vs) {i : Nat} (hv : i < v.columns.length) (hi : i < w.columns.length)
    (hne : v.columns[i] ≠ w.columns[i]) :
  v.columns[i] ∈ (allEqual (v :: vs)).columnList ∧ w.columns[i] ∈ (allEqual (v :: vs)).columnList
  := by
  obtain rfl | hw := List.mem_cons.1 hw
  · exact absurd rfl hne
  · have hmention := ValueMap.mem_columnList_pairwiseEqual hv hi hne
    rw [← ValueMap.agreement_of_sameShape
      (ValueMap.sameShape_of_agreement (agreement_ne_never h hw))] at hmention
    have hnever := Expr.never_notMem_of_andAll_ne h
    have hmem := List.mem_map_of_mem (f := v.agreement) hw
    rw [allEqual, Expr.mem_columnList_andAll hnever, Expr.mem_columnList_andAll hnever]
    constructor
    · use v.agreement w, hmem, hmention.1
    · use v.agreement w, hmem, hmention.2

/-- The condition of the verdict mentions every column that is not one of all the term maps. -/
theorem Verdict.mentions (h : Verdict ms a) (ha : a = .exactly condition) (hm : m ∈ ms)
    (hc : c ∈ m.columns) :
  c ∈ condition.columnList ∨ ∀ m' ∈ ms, c ∈ m'.columns
  := by
  cases h with
  | terms => cases ha
  | kinds => cases ha
  | different => cases ha
  | compared => cases ha
  | fixed h =>
    rw [h m hm] at hc
    cases hc
  | single h =>
    right
    intro m' hm'
    rw [h m' hm', ← h m hm]
    apply hc
  | term _ _ h =>
    left
    obtain ⟨rfl, hne⟩ := exactlyWhen_eq ha
    obtain rfl | ⟨v, hv, rfl⟩ := h m hm
    · cases hc
    · apply mem_columnList_allGive hne hv hc
  | @injective k values _ h =>
    obtain ⟨rfl, hne⟩ := exactlyWhen_eq ha
    obtain ⟨w, hw, rfl⟩ := (h m).1 hm
    cases values with
    | nil => cases hw
    | cons v vs =>
      rw [or_iff_not_imp_left]
      intro hmention m' hm'
      obtain ⟨u, hu, rfl⟩ := (h m').1 hm'
      rw [TermMap.columns] at hc ⊢
      obtain ⟨i, hi, rfl⟩ := List.getElem_of_mem hc
      have hv : i < v.columns.length := by
        rw [length_columns_of_allEqual hne hw]
        apply hi
      have hu' : i < u.columns.length := by
        rw [← length_columns_of_allEqual hne hu]
        apply hv
      -- the first value map has the column at the same place, and so do the other ones
      have hfirst : v.columns[i] = w.columns[i] := by
        by_contra hother
        apply hmention (mem_columnList_allEqual hne hw hv hi hother).2
      have hsame : v.columns[i] = u.columns[i] := by
        by_contra hother
        apply hmention
        rw [← hfirst]
        apply (mem_columnList_allEqual hne hu hv hu' hother).1
      rw [← hfirst, hsame]
      apply List.getElem_mem
  | @finite k ts values _ h =>
    left
    obtain ⟨rfl, hne⟩ := exactlyWhen_eq ha
    obtain ⟨v, hv, rfl⟩ := (h m).1 hm
    have halways : Expr.always ∉ ts.map (allGive k values) := by
      intro hmem
      obtain ⟨t, -, heq⟩ := List.mem_map.1 hmem
      have hmention : c ∈ (allGive k values t).columnList := by
        apply mem_columnList_allGive _ hv hc
        simp [heq]
      rw [heq] at hmention
      cases hmention
    obtain ⟨t, ht, hgive⟩ : ∃ t ∈ ts, allGive k values t ≠ .never := by
      by_contra hnone
      push Not at hnone
      apply hne
      apply Expr.orAll_eq_never
      rw [List.forall_mem_map]
      apply hnone
    rw [Expr.mem_columnList_orAll halways]
    use allGive k values t, List.mem_map_of_mem ht
    apply mem_columnList_allGive hgive hv hc

theorem isCondition_allGive (k : TermKind) (values : List ValueMap) (t : Term) :
  (allGive k values t).isCondition = true
  := by
  apply Expr.isCondition_andAll
  rw [List.forall_mem_map]
  intro v _
  apply TermMap.isCondition_conditionFor (.typed k v) t

theorem readsOnly_allGive {cs : List Column} (k : TermKind)
    (h : ∀ v ∈ values, ∀ c ∈ v.columns, c ∈ cs) (t : Term) :
  Expr.ReadsOnly cs (allGive k values t)
  := by
  apply Expr.readsOnly_andAll
  rw [List.forall_mem_map]
  intro v hv c hc
  apply h v hv c (TermMap.readsOnly_conditionFor (.typed k v) t c hc)

theorem isCondition_allEqual (values : List ValueMap) :
  (allEqual values).isCondition = true
  := by
  cases values with
  | nil => rfl
  | cons v vs =>
    apply Expr.isCondition_andAll
    rw [List.forall_mem_map]
    intro w _
    cases hshape : v.sameShape w with
    | false => rw [ValueMap.agreement_of_not_sameShape hshape, Expr.isCondition]
    | true =>
      rw [ValueMap.agreement_of_sameShape hshape]
      apply ValueMap.isCondition_pairwiseEqual

theorem readsOnly_allEqual {cs : List Column} (h : ∀ v ∈ values, ∀ c ∈ v.columns, c ∈ cs) :
  Expr.ReadsOnly cs (allEqual values)
  := by
  cases values with
  | nil => apply Expr.readsOnly_always
  | cons v vs =>
    apply Expr.readsOnly_andAll
    rw [List.forall_mem_map]
    intro w hw c hc
    obtain hc | hc := List.mem_append.1 (readsOnly_agreement v w c hc)
    · apply h v (by simp) c hc
    · apply h w (by simp [hw]) c hc

/-- The condition of the verdict is on the columns of the term maps. -/
theorem Verdict.readsOnly (h : Verdict ms a)
    (ha : a = .exactly condition ∨ a = .compared condition) :
  condition.isCondition = true ∧ Expr.ReadsOnly (ms.flatMap TermMap.columns) condition
  := by
  have halways : Expr.always.isCondition = true
      ∧ Expr.ReadsOnly (ms.flatMap TermMap.columns) .always := ⟨rfl, Expr.readsOnly_always _⟩
  have hreads : ∀ {k : TermKind} {values : List ValueMap}, (∀ v ∈ values, .typed k v ∈ ms)
      → ∀ v ∈ values, ∀ c ∈ v.columns, c ∈ ms.flatMap TermMap.columns := by
    intro k values hmem v hv c hc
    rw [List.mem_flatMap]
    use .typed k v, hmem v hv, hc
  cases h with
  | terms => simp at ha
  | kinds => simp at ha
  | different => simp at ha
  | fixed =>
    obtain rfl : .always = condition := by simpa using ha
    apply halways
  | single =>
    obtain rfl : .always = condition := by simpa using ha
    apply halways
  | compared =>
    obtain rfl : .always = condition := by simpa using ha
    apply halways
  | @term t k values _ hvalues _ =>
    obtain ⟨rfl, -⟩ := exactlyWhen_eq (ha.resolve_right (exactlyWhen_ne_compared _ _))
    exact ⟨isCondition_allGive k values t, readsOnly_allGive k (hreads hvalues) t⟩
  | @injective k values _ h =>
    obtain ⟨rfl, -⟩ := exactlyWhen_eq (ha.resolve_right (exactlyWhen_ne_compared _ _))
    exact ⟨isCondition_allEqual values,
      readsOnly_allEqual (hreads fun v hv => (h _).2 ⟨v, hv, rfl⟩)⟩
  | @finite k ts values _ h =>
    obtain ⟨rfl, -⟩ := exactlyWhen_eq (ha.resolve_right (exactlyWhen_ne_compared _ _))
    constructor
    · apply Expr.isCondition_orAll
      rw [List.forall_mem_map]
      intro t _
      apply isCondition_allGive
    · apply Expr.readsOnly_orAll
      rw [List.forall_mem_map]
      intro t _
      apply readsOnly_allGive k (hreads fun v hv => (h _).2 ⟨v, hv, rfl⟩)

end

end Occurrences

end RelGraph.Mapping
