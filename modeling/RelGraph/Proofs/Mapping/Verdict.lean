import RelGraph.Proofs.Mapping.Occurrences

/-!
# Verdicts on rows

What the verdict on the occurrences of a variable says about a row on which all the term maps give a
term, and that it depends on the set of the occurrences only.
-/

namespace RelGraph.Mapping

open Rdf Sql

namespace Occurrences

/-! ### The set of the occurrences -/

theorem increasing_typed_foldl {o : Occurrences} (h : Increasing o.typed) (ms : List TermMap) :
  Increasing (ms.foldl add o).typed
  := by
  induction ms generalizing o with
  | nil => apply h
  | cons m ms ih =>
    apply ih
    cases m with
    | fixed t =>
      rw [add]
      split <;> apply h
    | typed kind value => apply increasing_place h

theorem increasing_typed_ofList (ms : List TermMap) :
  Increasing (ofList ms).typed
  := by
  apply increasing_typed_foldl
  apply List.Pairwise.nil

section

variable {ms ms' : List TermMap}

/-- The typed occurrences are kept in order, so that their set determines them. -/
theorem typed_ofList_congr (h : ∀ m, m ∈ ms ↔ m ∈ ms') :
  (ofList ms).typed = (ofList ms').typed
  := by
  apply eq_of_increasing (increasing_typed_ofList ms) (increasing_typed_ofList ms')
  rintro ⟨k, v⟩
  rw [mem_typed_ofList, mem_typed_ofList, h]

theorem terms_ofList_perm (h : ∀ m, m ∈ ms ↔ m ∈ ms') :
  (ofList ms).terms.Perm (ofList ms').terms
  := by
  rw [List.perm_ext_iff_of_nodup (nodup_terms_ofList ms) (nodup_terms_ofList ms')]
  intro t
  rw [mem_terms_ofList, mem_terms_ofList, h]

/-- The terms are not in order, but as soon as there are two of them the occurrences never agree. -/
theorem verdict_of_perm {o o' : Occurrences} (hterms : o.terms.Perm o'.terms)
    (htyped : o.typed = o'.typed) :
  o.verdict = o'.verdict
  := by
  obtain ⟨ts, typed⟩ := o
  obtain ⟨ts', typed'⟩ := o'
  obtain rfl : typed = typed' := htyped
  rcases ts with _ | ⟨t, _ | ⟨u, ts⟩⟩
  · obtain rfl : ts' = [] := List.nil_perm.1 hterms
    rfl
  · obtain rfl : [t] = ts' := List.singleton_perm.1 hterms
    rfl
  · have hlength : 1 < (t :: u :: ts).length := by simp
    rw [verdict, verdict, if_pos hlength, if_pos (hterms.length_eq ▸ hlength)]

/-- The verdict depends on the set of the occurrences only. -/
theorem verdict_of_same_members (h : ∀ m, m ∈ ms ↔ m ∈ ms') :
  (ofList ms).verdict = (ofList ms').verdict
  := by
  apply verdict_of_perm (terms_ofList_perm h) (typed_ofList_congr h)

end

/-- The page of a person whose name is in a table. -/
def page (table : String) : ValueMap :=
  .template ⟨"ex:", [⟨⟨⟨none, table⟩, "name"⟩, .urlify, ""⟩]⟩

/-- The page of one person, and the pages of the persons in two tables. -/
def pageMaps : List TermMap :=
  [.typed .iri (page "b"), .fixed (.iri ⟨"ex:A_B"⟩), .typed .iri (page "a")]

theorem verdict_of_same_members_pageMaps :
  (∀ m, m ∈ pageMaps.reverse ++ pageMaps ↔ m ∈ pageMaps)
    ∧ (ofList (pageMaps.reverse ++ pageMaps)).verdict = (ofList pageMaps).verdict
  := by
  have h : ∀ m, m ∈ pageMaps.reverse ++ pageMaps ↔ m ∈ pageMaps := by simp
  exact ⟨h, verdict_of_same_members h⟩

end Occurrences

/-! ### Rows on which all term maps give a term -/

namespace TermMap

/-- Value maps of different shapes do not give texts that stand for one term of the kind.  In an
injective kind these are equal texts, and nothing is asked of a kind with finitely many terms. -/
def Apart (row : Row) : TermMap → TermMap → Prop
  | .typed k v, .typed l w =>
    k = l → v.sameShape w = false
      → (k.isInjective = true → ∀ text, v.fill? row = some text → w.fill? row ≠ some text)
        ∧ (k.isInjective = false → k.allTerms? = none → ∀ a b t, v.fill? row = some a
          → w.fill? row = some b → k.make? a = some t → k.make? b ≠ some t)
  | _, _ => True

variable {row : Row} {m m' : TermMap} {t : Term}

theorem Apart.comparable (h : m.Apart row m') (hm : m.LowerCase) (hm' : m'.LowerCase)
    (ht : m.make? row = some t) (ht' : m'.make? row = some t) :
  m.Comparable m'
  := by
  cases m with
  | fixed u => trivial
  | typed k v =>
    cases m' with
    | fixed u => trivial
    | typed l w =>
      intro hk
      obtain ⟨a, ha, hat⟩ := Option.bind_eq_some_iff.1 ht
      obtain ⟨b, hb, hbt⟩ := Option.bind_eq_some_iff.1 ht'
      obtain rfl : k = l := TermKind.eq_of_make? hm hm' hat hbt
      by_contra hshape
      obtain ⟨hinjective, hother⟩ := h rfl (by simpa using hshape)
      cases hcase : k.isInjective with
      | true =>
        obtain rfl : a = b := TermKind.eq_of_isInjective hcase hat hbt
        apply hinjective hcase a ha hb
      | false => apply hother hcase hk a b t ha hb hat hbt

end TermMap

namespace Occurrences

/-- All the term maps give the same term on a row. -/
def Agree (row : Row) (ms : List TermMap) : Prop :=
  ∃ t, ∀ m ∈ ms, m.make? row = some t

section

variable {row : Row} {ms : List TermMap} {condition : Expr}

theorem has_columns (h : ∀ m ∈ ms, (m.make? row).isSome) :
  Env.Has row.cells (ms.flatMap TermMap.columns)
  := by
  intro c hc
  obtain ⟨m, hm, hc⟩ := List.mem_flatMap.1 hc
  obtain ⟨t, ht⟩ := Option.isSome_iff_exists.1 (h m hm)
  have hcell := TermMap.isSome_of_make? ht hc
  cases hlookup : List.lookup c row.cells with
  | none => simp [Row.get?, hlookup] at hcell
  | some cell => rfl

/-- Where all the term maps give a term, the condition of the verdict has a value. -/
theorem isTrueOn_iff_holdsAt {a : Agreement} (hverdict : Verdict ms a)
    (h : ∀ m ∈ ms, (m.make? row).isSome) (ha : a = .exactly condition ∨ a = .compared condition) :
  condition.isTrueOn row.cells = true ↔ Expr.HoldsAt row.get? condition
  := by
  obtain ⟨hcondition, hreads⟩ := hverdict.readsOnly ha
  rw [Expr.isTrueOn_of_readsOnly hcondition hreads (has_columns h)]
  apply (Expr.holdsAt_iff fun c _ => rfl).symm

theorem agree_of_isTrueOn {m : TermMap} (hm : m ∈ ms) (h : ∀ m ∈ ms, (m.make? row).isSome)
    (hverdict : (ofList ms).verdict = .exactly condition)
    (hcondition : condition.isTrueOn row.cells = true) :
  Agree row ms
  := by
  rw [isTrueOn_iff_holdsAt (verdict_ofList hm) h (.inl hverdict)] at hcondition
  obtain ⟨t, ht⟩ := Option.isSome_iff_exists.1 (h m hm)
  use t
  intro m' hm'
  rw [← ht, TermMap.make?_eq_makeAt fun c _ => rfl, TermMap.make?_eq_makeAt fun c _ => rfl]
  apply (verdict_ofList hm).makeAt_eq hverdict hcondition hm' hm

/-- Where term maps that can be told apart agree, the verdict has a condition that is true. -/
theorem Agree.exists_condition {m : TermMap} (hm : m ∈ ms) (h : Agree row ms)
    (hlower : ∀ m ∈ ms, m.LowerCase) (hclear : ∀ m ∈ ms, m.Unambiguous row)
    (hapart : ∀ m ∈ ms, ∀ m' ∈ ms, m.Apart row m') :
  ∃ condition, condition.isTrueOn row.cells = true
    ∧ ((ofList ms).verdict = .exactly condition ∨ (ofList ms).verdict = .compared condition)
  := by
  obtain ⟨t, ht⟩ := h
  have hverdict := verdict_ofList hm
  obtain ⟨condition, hholds, ha⟩ := hverdict.holdsAt hm hlower
    (fun m hm => TermMap.unambiguousAt_of_row (fun c _ => rfl) (hclear m hm))
    (fun m hm m' hm' => (hapart m hm m' hm').comparable (hlower m hm) (hlower m' hm') (ht m hm)
      (ht m' hm'))
    (fun m hm => (TermMap.make?_eq_makeAt fun c _ => rfl).symm.trans (ht m hm))
  have hgiven : ∀ m ∈ ms, (m.make? row).isSome := fun m hm => by rw [ht m hm]; rfl
  exact ⟨condition, (isTrueOn_iff_holdsAt hverdict hgiven ha).2 hholds, ha⟩

/-- The verdict tells on which rows the term maps give the same term. -/
theorem verdict_decides_agreement (hms : ms ≠ []) (h : ∀ m ∈ ms, (m.make? row).isSome) :
  (∀ condition, (ofList ms).verdict = .exactly condition
      → condition.isTrueOn row.cells = true → Agree row ms)
    ∧ ((∀ m ∈ ms, m.LowerCase) → (∀ m ∈ ms, m.Unambiguous row)
      → (∀ m ∈ ms, ∀ m' ∈ ms, m.Apart row m')
      → (∀ condition, (ofList ms).verdict = .exactly condition
            ∨ (ofList ms).verdict = .compared condition
          → Agree row ms → condition.isTrueOn row.cells = true)
        ∧ ((ofList ms).verdict = .never → ¬ Agree row ms))
  := by
  obtain ⟨m, hm⟩ := List.exists_mem_of_ne_nil ms hms
  constructor
  · intro condition hverdict hcondition
    apply agree_of_isTrueOn hm h hverdict hcondition
  · intro hlower hclear hapart
    constructor
    · intro condition hverdict hagree
      obtain ⟨condition', htrue, hverdict'⟩ := hagree.exists_condition hm hlower hclear hapart
      have heq : condition = condition' := by
        obtain hverdict | hverdict := hverdict <;> simpa [hverdict] using hverdict'
      rw [heq]
      apply htrue
    · intro hnever hagree
      obtain ⟨condition', -, hverdict'⟩ := hagree.exists_condition hm hlower hclear hapart
      simp [hnever] at hverdict'

end

/-- Two persons of one name. -/
def namesakeRow : Row :=
  ⟨[(⟨⟨none, "a"⟩, "name"⟩, some "A B"), (⟨⟨none, "b"⟩, "name"⟩, some "A B")]⟩

/-- Both persons have the name of the page. -/
def namesakeCondition : Expr :=
  .andAll [.columnIs ⟨⟨none, "a"⟩, "name"⟩ "A B", .columnIs ⟨⟨none, "b"⟩, "name"⟩ "A B"]

theorem verdict_decides_agreement_pageMaps :
  (∀ m ∈ pageMaps, (m.make? namesakeRow).isSome) ∧ (∀ m ∈ pageMaps, m.LowerCase)
    ∧ (∀ m ∈ pageMaps, m.Unambiguous namesakeRow)
    ∧ (∀ m ∈ pageMaps, ∀ m' ∈ pageMaps, m.Apart namesakeRow m')
    ∧ (ofList pageMaps).verdict = .exactly namesakeCondition
    ∧ namesakeCondition.isTrueOn namesakeRow.cells = true ∧ Agree namesakeRow pageMaps
  := by
  have hmake : ∀ m ∈ pageMaps, m.make? namesakeRow = some (.iri ⟨"ex:A_B"⟩) := by decide
  have hgiven : ∀ m ∈ pageMaps, (m.make? namesakeRow).isSome :=
    fun m hm => by rw [hmake m hm]; rfl
  have hlower : ∀ m ∈ pageMaps, m.LowerCase := by
    simp [pageMaps, TermMap.LowerCase, TermKind.LowerCase]
  have hclear : ∀ m ∈ pageMaps, m.Unambiguous namesakeRow := by
    simp [pageMaps, TermMap.Unambiguous, ValueMap.Unambiguous, page, Template.cutsOnce_singleton]
  have hapart : ∀ m ∈ pageMaps, ∀ m' ∈ pageMaps, m.Apart namesakeRow m' := by
    simp [pageMaps, TermMap.Apart, page, ValueMap.sameShape, Template.sameShape, Template.texts]
  have hverdict : (ofList pageMaps).verdict = .exactly namesakeCondition := rfl
  obtain ⟨hsound, hcomplete⟩ := verdict_decides_agreement (List.cons_ne_nil _ _) hgiven
  have htrue := (hcomplete hlower hclear hapart).1 _ (.inl hverdict) ⟨_, hmake⟩
  exact ⟨hgiven, hlower, hclear, hapart, hverdict, htrue, hsound _ hverdict htrue⟩

/-- The midnights of the days in a table, with a sign between the day and the hour. -/
def midnight (table sign : String) : ValueMap :=
  .template ⟨"", [⟨⟨⟨none, table⟩, "day"⟩, .plain, sign ++ "00:00:00"⟩]⟩

/-- The midnights of the days in two tables, once with a `T` and once with a space. -/
def midnights : List TermMap :=
  [.typed (.literal Datatype.dateTime none) (midnight "a" "T"),
    .typed (.literal Datatype.dateTime none) (midnight "b" " ")]

/-- The same day in two tables. -/
def dayRow : Row :=
  ⟨[(⟨⟨none, "a"⟩, "day"⟩, some "2001-02-03"), (⟨⟨none, "b"⟩, "day"⟩, some "2001-02-03")]⟩

theorem suffix_of_fill?_midnight {table sign text : String} {row : Row}
    (h : (midnight table sign).fill? row = some text) :
  (sign ++ "00:00:00").toList <:+ text.toList
  := by
  obtain ⟨vs, ⟨cs, hcs, hcut⟩, -⟩ := Template.fill?_eq_some_iff.1 h
  obtain ⟨v, -, rfl⟩ := Template.isCut_singleton.1 hcut
  use v
  simpa using hcs.symm

/-- A text does not end in two signs. -/
theorem fill?_midnight_ne {table table' sign sign' text : String} {row : Row}
    (hlength : sign.toList.length = sign'.toList.length) (hsign : sign ≠ sign')
    (h : (midnight table sign).fill? row = some text) :
  (midnight table' sign').fill? row ≠ some text
  := by
  intro h'
  have hlength : (sign ++ "00:00:00").toList.length = (sign' ++ "00:00:00").toList.length := by
    simp [hlength]
  have hsuffix := List.suffix_of_suffix_length_le (suffix_of_fill?_midnight h)
    (suffix_of_fill?_midnight h') (Nat.le_of_eq hlength)
  apply hsign
  simpa [String.toList_inj] using hsuffix.eq_of_length hlength

/-- Texts of different shapes are taken to stand for different terms, also in a kind in which
different texts stand for one term. -/
theorem agreement_missed_midnights :
  (∀ m ∈ midnights, m.LowerCase ∧ ∀ row, m.Unambiguous row)
    ∧ (∀ k v w, TermMap.typed k v ∈ midnights → TermMap.typed k w ∈ midnights
      → v.sameShape w = false → ∀ row text, v.fill? row = some text → w.fill? row ≠ some text)
    ∧ (ofList midnights).verdict = .never ∧ Agree dayRow midnights
  := by
  have hmake : ∀ m ∈ midnights, m.make? dayRow
      = some (.literal (.ofDatatype "2001-02-03T00:00:00" Datatype.dateTime)) := by
    decide
  refine ⟨?_, ?_, rfl, _, hmake⟩
  · simp [midnights, TermMap.LowerCase, TermKind.LowerCase, TermMap.Unambiguous,
      ValueMap.Unambiguous, midnight, Template.cutsOnce_singleton]
  · intro k v w hv hw hshape row text
    simp only [midnights, List.mem_cons, List.not_mem_nil, or_false, TermMap.typed.injEq] at hv hw
    obtain ⟨rfl, rfl⟩ | ⟨rfl, rfl⟩ := hv <;> obtain ⟨-, rfl⟩ | ⟨-, rfl⟩ := hw
    · cases hshape
    · apply fill?_midnight_ne <;> decide
    · apply fill?_midnight_ne <;> decide
    · cases hshape

end Occurrences

end RelGraph.Mapping
