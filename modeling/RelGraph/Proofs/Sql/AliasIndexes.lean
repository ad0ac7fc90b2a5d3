import RelGraph.Proofs.Sql.Aliases

/-!
# The two indexes of aliases

Aliases are indexed by their names and by the tables for which they stand.  Every operation adds
aliases one after the other, and each of them is entered in both indexes; so the indexes agree, and
aliases are determined by what their names stand for.  Merging is the union of what the names stand
for, if no name stands for two tables, and thus commutative and associative
(`Aliases.obtained_consistent`).
-/

namespace RelGraph.Sql.Aliases

open Spelled

variable {m m' m₁ m₂ m₃ : Aliases} {as : List Alias} {a : Alias}

/-! ### Indexes that agree -/

/-- The aliases that are recorded for a table are those that stand for it, in increasing order, and
nothing is recorded for a table without aliases. -/
structure Indexed (m : Aliases) : Prop where
  mem_namesOf : ∀ t n, n ∈ m.namesOf t ↔ m.tables.get? n = some t
  ne_nil : ∀ t ns, m.names.get? t = some ns → ns ≠ []
  increasing : ∀ t, Increasing (m.namesOf t)

theorem indexed_empty :
  empty.Indexed
  := by
  have hnames : ∀ t, empty.names.get? t = none := SortedMap.get?_empty
  have htables : ∀ n, empty.tables.get? n = none := SortedMap.get?_empty
  constructor
  · simp [namesOf, hnames, htables]
  · simp [hnames]
  · simp [namesOf, hnames, Increasing]

/-- A new alias is recorded for its table, and for no other one. -/
theorem get?_names_of_insert (h : m.insert a = .ok m') (hnew : m.tables.get? a.name = none)
    (t : Table) :
  m'.names.get? t
    = if t = a.table then some (place a.name (m.namesOf a.table)) else m.names.get? t
  := by
  rw [Aliases.insert, hnew] at h
  cases h
  split
  · rename_i ht
    rw [ht, SortedMap.get?_put_self]
  · rename_i ht
    rw [SortedMap.get?_put_of_ne _ _ ht]

theorem eq_of_insert (h : m.insert a = .ok m') (hold : m.tables.get? a.name ≠ none) :
  m' = m
  := by
  obtain ⟨t, ht⟩ := Option.ne_none_iff_exists'.1 hold
  rw [Aliases.insert, ht] at h
  simp only at h
  split at h
  · cases h
    rfl
  · cases h

/-- An alias is entered in both indexes. -/
theorem Indexed.insert (hm : m.Indexed) (h : m.insert a = .ok m') :
  m'.Indexed
  := by
  by_cases hnew : m.tables.get? a.name = none
  · have hnames := get?_names_of_insert h hnew
    have hnamesOf : ∀ t, m'.namesOf t
        = if t = a.table then place a.name (m.namesOf a.table) else m.namesOf t := by
      intro t
      rw [namesOf, hnames]
      split <;> rfl
    constructor
    · intro t n
      rw [get?_of_insert h, ← hm.mem_namesOf, hnamesOf]
      split
      · rename_i ht
        rw [mem_place, ht, or_comm, Alias.mk.injEq, eq_self, true_and]
      · rename_i ht
        rw [or_iff_left]
        rintro rfl
        apply ht rfl
    · intro t ns hns
      rw [hnames] at hns
      split at hns
      · cases hns
        apply List.ne_nil_of_mem (mem_place.2 (.inl rfl))
      · apply hm.ne_nil t ns hns
    · intro t
      rw [hnamesOf]
      split
      · apply increasing_place (hm.increasing a.table)
      · apply hm.increasing t
  · rw [eq_of_insert h hnew]
    apply hm

theorem Indexed.insertAll (hm : m.Indexed) (h : m.insertAll as = .ok m') :
  m'.Indexed
  := by
  induction as generalizing m with
  | nil =>
    cases h
    apply hm
  | cons a as ih =>
    rw [Aliases.insertAll] at h
    split at h
    · rename_i m₁ hinsert
      apply ih (hm.insert hinsert) h
    · cases h

theorem Indexed.insertSingle (hm : m.Indexed) (h : m.insertSingle as = .ok m') :
  m'.Indexed
  := by
  induction as generalizing m with
  | nil =>
    cases h
    apply hm
  | cons a as ih =>
    rw [Aliases.insertSingle] at h
    split at h
    · cases h
    · split at h
      · rename_i m₁ hinsert
        apply ih (hm.insert hinsert) h
      · cases h

/-- What the operations build. -/
inductive Obtained : Aliases → Prop
  | ofList {as : List Alias} {m : Aliases} (h : ofList as = .ok m) : Obtained m
  | merge {m₁ m₂ m : Aliases} (h₁ : Obtained m₁) (h₂ : Obtained m₂) (h : m₁.merge m₂ = .ok m) :
    Obtained m
  | compose {m₁ m₂ m : Aliases} (h₁ : Obtained m₁) (h₂ : Obtained m₂) (h : m₁.compose m₂ = .ok m) :
    Obtained m

theorem Obtained.indexed (h : m.Obtained) :
  m.Indexed
  := by
  induction h with
  | ofList h => apply indexed_empty.insertSingle h
  | merge _ _ h ih _ => apply ih.insertAll h
  | compose _ _ h _ _ => apply indexed_empty.insertAll h

/-! ### Names determine the aliases -/

theorem Indexed.get?_names (hm : m.Indexed) (t : Table) :
  m.names.get? t = if m.namesOf t = [] then none else some (m.namesOf t)
  := by
  cases hns : m.names.get? t with
  | none => simp [namesOf, hns]
  | some ns => simp [namesOf, hns, hm.ne_nil t ns hns]

/-- Aliases are determined by what their names stand for. -/
theorem Indexed.ext (hm : m.Indexed) (hm' : m'.Indexed)
    (h : ∀ n t, m.tables.get? n = some t ↔ m'.tables.get? n = some t) :
  m = m'
  := by
  have htables : m.tables = m'.tables := by
    apply SortedMap.ext
    intro n
    ext t
    apply h
  have hnames : m.names = m'.names := by
    apply SortedMap.ext
    intro t
    have hnamesOf : m.namesOf t = m'.namesOf t := by
      apply eq_of_increasing (hm.increasing t) (hm'.increasing t)
      intro n
      rw [hm.mem_namesOf, hm'.mem_namesOf, h]
    rw [hm.get?_names, hm'.get?_names, hnamesOf]
  cases m
  cases m'
  simp only at htables hnames
  rw [htables, hnames]

/-! ### Merging -/

/-- Aliases can be merged if no name stands for different tables. -/
theorem exists_merge_iff :
  (∃ m, m₁.merge m₂ = .ok m)
    ↔ ∀ n t u, m₁.tables.get? n = some t → m₂.tables.get? n = some u → t = u
  := by
  constructor
  · rintro ⟨m, hm⟩ n t u ht hu
    have ht' := (get?_of_merge hm).2 (.inl ht)
    rw [(get?_of_merge hm).2 (.inr hu), Option.some.injEq] at ht'
    apply ht'.symm
  · intro h
    apply exists_insertAll
    rintro ⟨u, n⟩ hu t (ht | ht)
    · apply h n t u ht (mem_toList_iff.1 hu)
    · rw [mem_toList_iff] at hu ht
      rw [hu, Option.some.injEq] at ht
      apply ht.symm

/-- Parts of aliases can be merged. -/
theorem exists_merge_of_le (whole : Aliases)
    (h₁ : ∀ n t, m₁.tables.get? n = some t → whole.tables.get? n = some t)
    (h₂ : ∀ n t, m₂.tables.get? n = some t → whole.tables.get? n = some t) :
  ∃ m, m₁.merge m₂ = .ok m
  := by
  rw [exists_merge_iff]
  intro n t u ht hu
  have hwhole := h₁ n t ht
  rw [h₂ n u hu, Option.some.injEq] at hwhole
  apply hwhole.symm

/-- In the merged aliases a name stands for what it stands for in either of the two. -/
theorem Indexed.merge_eq_ok_iff (hm₁ : m₁.Indexed) :
  m₁.merge m₂ = .ok m ↔ m.Indexed ∧ ∀ n t, m.tables.get? n = some t
    ↔ m₁.tables.get? n = some t ∨ m₂.tables.get? n = some t
  := by
  constructor
  · intro h
    use hm₁.insertAll h
    intro n t
    apply get?_of_merge h
  · rintro ⟨hm, hget⟩
    obtain ⟨m', hm'⟩ : ∃ m', m₁.merge m₂ = .ok m' := by
      apply exists_merge_of_le m
      · intro n t ht
        apply (hget n t).2 (.inl ht)
      · intro n t ht
        apply (hget n t).2 (.inr ht)
    rw [hm', Except.ok.injEq]
    apply (hm₁.insertAll hm').ext hm
    intro n t
    rw [get?_of_merge hm', hget]

theorem Indexed.merge_comm (hm₁ : m₁.Indexed) (hm₂ : m₂.Indexed) :
  m₁.merge m₂ = .ok m ↔ m₂.merge m₁ = .ok m
  := by
  simp only [hm₁.merge_eq_ok_iff, hm₂.merge_eq_ok_iff, or_comm]

theorem Indexed.merge_merge_eq_ok_iff (hm₁ : m₁.Indexed) :
  (∃ m₁₂, m₁.merge m₂ = .ok m₁₂ ∧ m₁₂.merge m₃ = .ok m)
    ↔ m.Indexed ∧ ∀ n t, m.tables.get? n = some t
      ↔ m₁.tables.get? n = some t ∨ m₂.tables.get? n = some t ∨ m₃.tables.get? n = some t
  := by
  constructor
  · rintro ⟨m₁₂, hm₁₂, hm⟩
    obtain ⟨hindexed, hget⟩ := hm₁.merge_eq_ok_iff.1 hm₁₂
    simpa only [hget, or_assoc] using hindexed.merge_eq_ok_iff.1 hm
  · rintro ⟨hm, hget⟩
    obtain ⟨m₁₂, hm₁₂⟩ : ∃ m₁₂, m₁.merge m₂ = .ok m₁₂ := by
      apply exists_merge_of_le m
      · intro n t ht
        apply (hget n t).2 (.inl ht)
      · intro n t ht
        apply (hget n t).2 (.inr (.inl ht))
    obtain ⟨hindexed, hget'⟩ := hm₁.merge_eq_ok_iff.1 hm₁₂
    use m₁₂, hm₁₂
    rw [hindexed.merge_eq_ok_iff]
    use hm
    intro n t
    rw [hget, hget', or_assoc]

theorem Indexed.merge_assoc (hm₁ : m₁.Indexed) (hm₂ : m₂.Indexed) :
  (∃ m₁₂, m₁.merge m₂ = .ok m₁₂ ∧ m₁₂.merge m₃ = .ok m)
    ↔ ∃ m₂₃, m₂.merge m₃ = .ok m₂₃ ∧ m₁.merge m₂₃ = .ok m
  := by
  have hright : (∃ m₂₃, m₂.merge m₃ = .ok m₂₃ ∧ m₁.merge m₂₃ = .ok m)
      ↔ ∃ m₂₃, m₂.merge m₃ = .ok m₂₃ ∧ m₂₃.merge m₁ = .ok m := by
    apply exists_congr
    intro m₂₃
    rw [and_congr_right_iff]
    intro hm₂₃
    apply hm₁.merge_comm (hm₂.insertAll hm₂₃)
  rw [hright, hm₁.merge_merge_eq_ok_iff, hm₂.merge_merge_eq_ok_iff, and_congr_right_iff]
  intro _
  apply forall₂_congr
  intro n t
  rw [or_rotate (a := m₁.tables.get? n = some t)]

/-! ### Consistency -/

/-- The indexes of aliases agree, and no recorded set of aliases is empty.  Aliases can be merged
exactly when no name stands for different tables in them, which gives the union of their entries;
the merge does not depend on the order or on the nesting.  After the names of a relation are changed
by the aliases of a list, the new name of a table stands for what the table stood for. -/
theorem obtained_consistent :
  (∀ m, Obtained m → (∀ t n, n ∈ m.namesOf t ↔ m.tables.get? n = some t)
      ∧ ∀ t ns, m.names.get? t = some ns → ns ≠ [])
    ∧ (∀ m₁ m₂, Obtained m₁ → Obtained m₂ →
      ((∃ m, m₁.merge m₂ = .ok m)
        ↔ ∀ n t u, m₁.tables.get? n = some t → m₂.tables.get? n = some u → t = u)
      ∧ ∀ m, (m₁.merge m₂ = .ok m → ∀ a, a ∈ m.toList ↔ a ∈ m₁.toList ∨ a ∈ m₂.toList)
        ∧ (m₁.merge m₂ = .ok m ↔ m₂.merge m₁ = .ok m))
    ∧ (∀ m₁ m₂ m₃ m, Obtained m₁ → Obtained m₂ → Obtained m₃ →
      ((∃ m₁₂, m₁.merge m₂ = .ok m₁₂ ∧ m₁₂.merge m₃ = .ok m)
        ↔ ∃ m₂₃, m₂.merge m₃ = .ok m₂₃ ∧ m₁.merge m₂₃ = .ok m))
    ∧ ∀ as names inner m, ofList as = .ok names → names.compose inner = .ok m
      → ∀ t, names.hasAlias t = true → m.tableOf (names.nameOf t) = inner.tableOf t
  := by
  refine ⟨?_, ?_, ?_, ?_⟩
  · intro m hm
    use hm.indexed.mem_namesOf, hm.indexed.ne_nil
  · intro m₁ m₂ hm₁ hm₂
    use exists_merge_iff
    intro m
    constructor
    · rintro h ⟨t, n⟩
      simp only [mem_toList_iff, get?_of_merge h]
    · apply hm₁.indexed.merge_comm hm₂.indexed
  · intro m₁ m₂ m₃ m hm₁ hm₂ _
    apply hm₁.indexed.merge_assoc hm₂.indexed
  · intro as names inner m hnames hcompose t ht
    apply (get?_of_ofList hnames).1.tableOf_nameOf_of_compose hcompose ht

/-! ### Copies of the friends -/

/-- The aliases of a list, if it has any. -/
def ofNames (as : List (String × String)) : Aliases :=
  ((ofList (as.map fun a => ⟨⟨none, a.1⟩, ⟨none, a.2⟩⟩)).toOption).getD .empty

/-- Two copies of a table, under one name each. -/
def friendCopies : Aliases :=
  ((ofNames [("friends", "T1_friends")]).merge
    (ofNames [("friends", "T2_friends")])).toOption.getD .empty

/-- New names for the two copies. -/
def copyPrefixes : Aliases :=
  ofNames [("T1_friends", "T3_T1_friends"), ("T2_friends", "T3_T2_friends")]

/-- The copies are merged in both orders, both are recorded, and the new name of a copy still stands
for the table. -/
theorem obtained_consistent_friendCopies :
  (ofNames [("friends", "T1_friends")]).merge (ofNames [("friends", "T2_friends")])
      = .ok friendCopies
    ∧ (ofNames [("friends", "T2_friends")]).merge (ofNames [("friends", "T1_friends")])
      = .ok friendCopies
    ∧ ⟨none, "T1_friends"⟩ ∈ friendCopies.namesOf ⟨none, "friends"⟩
    ∧ ∃ m, copyPrefixes.compose friendCopies = .ok m
      ∧ m.tableOf (copyPrefixes.nameOf ⟨none, "T1_friends"⟩) = ⟨none, "friends"⟩
  := by
  obtain ⟨hindexes, hmerge, -, hcompose⟩ := obtained_consistent
  have hsingle : ∀ as, ofList (as.map fun a => ⟨⟨none, a.1⟩, ⟨none, a.2⟩⟩) = .ok (ofNames as)
      → Obtained (ofNames as) := fun as h => .ofList h
  have hfirst : Obtained (ofNames [("friends", "T1_friends")]) := by
    apply hsingle
    apply eq_ok_of_toOption
    decide
  have hsecond : Obtained (ofNames [("friends", "T2_friends")]) := by
    apply hsingle
    apply eq_ok_of_toOption
    decide
  have hcopies : (ofNames [("friends", "T1_friends")]).merge (ofNames [("friends", "T2_friends")])
      = .ok friendCopies := by
    apply eq_ok_of_toOption
    decide
  have hrenamed : copyPrefixes.compose friendCopies
      = .ok ((copyPrefixes.compose friendCopies).toOption.getD .empty) := by
    apply eq_ok_of_toOption
    decide
  refine ⟨hcopies, ((hmerge _ _ hfirst hsecond).2 friendCopies).2.1 hcopies, ?_, _, hrenamed, ?_⟩
  · apply ((hindexes _ (.merge hfirst hsecond hcopies)).1 _ _).2
    decide
  · rw [hcompose [⟨⟨none, "T1_friends"⟩, ⟨none, "T3_T1_friends"⟩⟩,
      ⟨⟨none, "T2_friends"⟩, ⟨none, "T3_T2_friends"⟩⟩] copyPrefixes friendCopies]
    · decide
    · apply eq_ok_of_toOption
      decide
    · apply hrenamed
    · decide

end RelGraph.Sql.Aliases
