import RelGraph.Proofs.Mapping.Assignment

/-!
# Joining numbered candidates

The candidates of different patterns have no table in common, and whichever of them are joined, no
alias stands for different tables.  So the translation of some patterns fails because of an alias
only where a candidate can not be copied (`candidates_separate`).
-/

namespace RelGraph.Mapping

open Rdf Sql

section

variable {maps : List TripleMap} {patterns : List TriplePattern} {n : Nat}
  {found : List (TriplePattern × List TripleMap)}

/-- What is assigned to the patterns is compatible: the candidates are copies, or there is only one
pattern. -/
theorem pairwise_compatible_of_chooses
    (h : allCandidates (1 < patterns.length) maps n patterns = .ok (some found))
    {ordered : List (TriplePattern × List TripleMap)} (hordered : ordered.Perm found)
    {choices : List Choice} (hchoices : Assignment.Chooses ordered choices) :
  (choices.map fun c => c.2.relation).Pairwise Relation.Compatible
  := by
  by_cases hlength : 1 < patterns.length
  · rw [decide_eq_true hlength] at h
    rw [List.pairwise_map]
    apply List.pairwise_of_forall_mem_list
    intro c hc c' hc'
    obtain ⟨e, he, -, hc⟩ := hchoices.exists_mem hc
    obtain ⟨e', he', -, hc'⟩ := hchoices.exists_mem hc'
    apply compatible_of_allCandidates h (hordered.mem_iff.1 he) (hordered.mem_iff.1 he') hc hc'
  · have hshort : choices.length ≤ 1 := by
      rw [← List.Forall₂.length_eq hchoices, hordered.length_eq, ← List.length_map (·.1),
        map_fst_of_allCandidates h]
      omega
    obtain _ | ⟨c, _ | ⟨c', choices⟩⟩ := choices
    · exact .nil
    · apply List.pairwise_singleton
    · simp at hshort

/-- An error about aliases comes from the copies and not from joining them. -/
theorem allCandidates_eq_error {e : AliasError}
    (h : solutionMaps patterns maps = .error (.aliases e)) :
  allCandidates (1 < patterns.length) maps 0 patterns = .error (.aliases e)
  := by
  rw [solutionMaps] at h
  split at h
  · cases h
  · obtain h | ⟨found?, hfound, h⟩ := bind_eq_error.1 h
    · apply h
    · cases found? with
      | none => cases h
      | some found =>
        simp only [bind_eq_error] at h
        obtain h | ⟨solutions, -, h⟩ := h
        · obtain ⟨a, ha, herror⟩ := exists_mem_of_mapM_eq_error h
          obtain ⟨choices, hchoices, hsome⟩ := Assignment.exists_chooses_of_mem_found ha
          have hcompatible :=
            pairwise_compatible_of_chooses hfound (List.mergeSort_perm _ _) hchoices
          rw [← (Assignment.agreesAll_of_ofChoices? hsome).1] at hcompatible
          obtain herror | ⟨joined, -, herror⟩ := bind_eq_error.1 herror
          · apply absurd herror (Relation.joinAll_ne_aliases hcompatible e)
          · cases herror
        · cases h

end

/-- The number of a copy can be read off its name.  So the candidates of different patterns have no
table in common, if their joins are built from pairs of columns and by renaming tables, and no
combination of candidates fails to be joined because of an alias; the translation of some patterns
fails because of one only if a candidate can not be copied. -/
theorem candidates_separate :
  (∀ (t u : Table) (i j : Nat), t.copy i = u.copy j → i = j)
    ∧ (∀ maps patterns n found, allCandidates true maps n patterns = .ok (some found)
      → ((∀ m ∈ maps, ∀ j ∈ m.relation.joins, j.Obtained)
          → found.Pairwise fun e e' => ∀ c ∈ e.2, ∀ c' ∈ e'.2, c.relation.Apart c'.relation)
        ∧ ∀ cs : List TripleMap, (∀ c ∈ cs, ∃ e ∈ found, c ∈ e.2)
          → ∀ e, Relation.joinAll (cs.map TripleMap.relation) ≠ .error (.aliases e))
    ∧ ∀ maps patterns e, solutionMaps patterns maps = .error (.aliases e)
      → allCandidates (1 < patterns.length) maps 0 patterns = .error (.aliases e)
  := by
  refine ⟨?_, ?_, ?_⟩
  · intro t u i j
    apply Table.eq_of_copy_eq_copy
  · intro maps patterns n found h
    constructor
    · intro hjoins
      apply pairwise_apart_of_allCandidates h fun m hm j hj => (hjoins m hm j hj).uniform
    · intro cs hcs
      apply Relation.joinAll_ne_aliases
      rw [List.pairwise_map]
      apply List.pairwise_of_forall_mem_list
      intro c hc c' hc'
      obtain ⟨e, he, hc⟩ := hcs c hc
      obtain ⟨e', he', hc'⟩ := hcs c' hc'
      apply compatible_of_allCandidates h he he' hc hc'
  · intro maps patterns e
    apply allCandidates_eq_error

/-! ### Acquaintances of acquaintances -/

/-- People who know each other. -/
def chainPatterns : List TriplePattern :=
  [⟨.variable ⟨"x"⟩, .term (.iri ⟨"ex:knows"⟩), .variable ⟨"y"⟩⟩,
    ⟨.variable ⟨"y"⟩, .term (.iri ⟨"ex:knows"⟩), .variable ⟨"z"⟩⟩]

/-- The triple map that reads who knows whom from two columns. -/
def knowsBetween (r : Relation) (c d : Column) : TripleMap :=
  .ofRelation r (.typed .iri (.column c)) (.fixed (.iri ⟨"ex:knows"⟩)) (.typed .iri (.column d))

/-- The number of a friend in a table whose name looks like that of a copy. -/
def friendNumbers : Join :=
  ⟨[(⟨⟨none, "T1_friends"⟩, "id"⟩, ⟨⟨none, "friends"⟩, "b"⟩)], by simp⟩

/-- Friends by their numbers. -/
def friendsByNumber : TripleMap :=
  knowsBetween ((Relation.ofDatabase "db").withJoins [friendNumbers])
    ⟨⟨none, "friends"⟩, "a"⟩ ⟨⟨none, "T1_friends"⟩, "iri"⟩

/-- The candidates for the acquaintances. -/
def friendCandidates : List (TriplePattern × List TripleMap) :=
  (allCandidates true [friendsByNumber] 0 chainPatterns).toOption.join.getD []

/-- Two tables whose copies have the same name. -/
def sameCopies : TripleMap :=
  knowsBetween (Relation.ofDatabase "db") ⟨⟨some "hr", "old_people"⟩, "id"⟩
    ⟨⟨some "hr_old", "people"⟩, "id"⟩

/-- The result is an error about aliases. -/
def failsOnAliases {α : Type} : Except RelationError α → Bool
  | .error (.aliases _) => true
  | _ => false

theorem exists_of_failsOnAliases {α : Type} {x : Except RelationError α}
    (h : failsOnAliases x = true) :
  ∃ e, x = .error (.aliases e)
  := by
  unfold failsOnAliases at h
  split at h
  · rename_i e
    use e
  · cases h

/-- The first copy of the one table has the name of the other table, which has copies of its own.
Tables whose copies have the same name can not be copied in the first place. -/
theorem candidates_separate_friends :
  (∀ j ∈ friendsByNumber.relation.joins, j.Obtained)
    ∧ allCandidates true [friendsByNumber] 0 chainPatterns = .ok (some friendCandidates)
    ∧ (friendCandidates.flatMap (·.2)).map (fun c => c.relation.tables)
      = [[⟨none, "T1_T1_friends"⟩, ⟨none, "T1_friends"⟩],
        [⟨none, "T2_T1_friends"⟩, ⟨none, "T2_friends"⟩]]
    ∧ friendCandidates.Pairwise
      (fun e e' => ∀ c ∈ e.2, ∀ c' ∈ e'.2, c.relation.Apart c'.relation)
    ∧ (∀ e, Relation.joinAll ((friendCandidates.flatMap (·.2)).map TripleMap.relation)
      ≠ .error (.aliases e))
    ∧ ∃ e, solutionMaps chainPatterns [sameCopies] = .error (.aliases e)
      ∧ allCandidates true [sameCopies] 0 chainPatterns = .error (.aliases e)
  := by
  obtain ⟨-, hcandidates, hsolutions⟩ := candidates_separate
  have hjoins : ∀ j ∈ friendsByNumber.relation.joins, j.Obtained := by
    have heq : friendsByNumber.relation.joins = [friendNumbers] := by decide
    have hpairs : Join.ofPairs friendNumbers.pairs = .ok friendNumbers := by
      apply eq_ok_of_toOption
      decide
    rw [heq, List.forall_mem_singleton]
    apply Join.Obtained.ofPairs hpairs
  have hfound : allCandidates true [friendsByNumber] 0 chainPatterns
      = .ok (some friendCandidates) := by
    apply eq_ok_of_toOption
    decide
  obtain ⟨hapart, hcombine⟩ := hcandidates _ _ _ _ hfound
  obtain ⟨e, he⟩ : ∃ e, solutionMaps chainPatterns [sameCopies] = .error (.aliases e) := by
    apply exists_of_failsOnAliases
    decide
  refine ⟨hjoins, hfound, by decide, hapart (by simpa using hjoins), ?_, e, he,
    hsolutions _ _ e he⟩
  apply hcombine
  intro c hc
  apply List.mem_flatMap.1 hc

end RelGraph.Mapping
