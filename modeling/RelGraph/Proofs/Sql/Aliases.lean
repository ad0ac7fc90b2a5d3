import RelGraph.Proofs.Except
import RelGraph.Proofs.Order.SortedMap
import RelGraph.Sql.Relation

/-!
# Look-ups in aliases

What the names stand for after aliases are added, composed and merged.  Copies of tables with
different numbers have different names, and the names of the copies of one relation tell its
tables apart.
-/

namespace RelGraph.Sql

open Spelled

/-! ### Names of copies -/

theorem Table.toList_name_copy (t : Table) (n : Nat) :
  ∃ rest, (t.copy n).name.toList = 'T' :: (Nat.toDigits 10 n ++ '_' :: rest)
  := by
  obtain ⟨schema, name⟩ := t
  cases schema with
  | none =>
    use name.toList
    simp [copy, Nat.toString_eq_repr, Nat.toList_repr]
  | some s =>
    use s.toList ++ '_' :: name.toList
    simp [copy, Nat.toString_eq_repr, Nat.toList_repr]

/-- The digits of a number are told from what follows the mark after them. -/
theorem eq_of_toDigits_append {m n : Nat} {r s : List Char}
    (h : Nat.toDigits 10 m ++ '_' :: r = Nat.toDigits 10 n ++ '_' :: s) :
  m = n
  := by
  have hmark : ∀ {k : Nat}, '_' ∉ Nat.toDigits 10 k := by
    intro k hmem
    have hdigit := Nat.isDigit_of_mem_toDigits (by decide) (by decide) hmem
    revert hdigit
    decide
  have hdigits : Nat.toDigits 10 m = Nat.toDigits 10 n := by
    have htake := congrArg (List.takeWhile (· ≠ '_')) h
    rw [List.takeWhile_append_of_pos, List.takeWhile_append_of_pos] at htake
    · simpa using htake
    · intro c hc
      simpa using fun heq => hmark (heq ▸ hc)
    · intro c hc
      simpa using fun heq => hmark (heq ▸ hc)
  calc
    m = Nat.ofDigitChars 10 (Nat.toDigits 10 m) 0 := Nat.ofDigitChars_ten_toDigits.symm
    _ = Nat.ofDigitChars 10 (Nat.toDigits 10 n) 0 := by rw [hdigits]
    _ = n := Nat.ofDigitChars_ten_toDigits

/-- Copies with different numbers have different names. -/
theorem Table.eq_of_copy_eq_copy {t u : Table} {m n : Nat} (h : t.copy m = u.copy n) :
  m = n
  := by
  obtain ⟨r, hr⟩ := t.toList_name_copy m
  obtain ⟨s, hs⟩ := u.toList_name_copy n
  rw [h, hs, List.cons.injEq] at hr
  apply (eq_of_toDigits_append hr.2).symm

namespace Aliases

variable {m m' : Aliases} {n t : Table} {as : List Alias}

/-! ### Adding aliases -/

theorem mem_toList_iff {t n : Table} :
  ⟨t, n⟩ ∈ m.toList ↔ m.tables.get? n = some t
  := by
  rw [← SortedMap.mem_entries_iff, toList, List.mem_map]
  constructor
  · rintro ⟨⟨n', t'⟩, he, heq⟩
    cases heq
    apply he
  · intro he
    use (n, t), he

theorem get?_of_insert {a : Alias} (h : m.insert a = .ok m') :
  m'.tables.get? n = some t ↔ m.tables.get? n = some t ∨ ⟨t, n⟩ = a
  := by
  obtain ⟨table, name⟩ := a
  unfold insert at h
  split at h
  · rename_i existing hget
    split at h
    · rename_i heq
      cases h
      constructor
      · intro hn
        left
        apply hn
      · rintro (hn | heq')
        · apply hn
        · cases heq'
          rw [hget, heq]
    · cases h
  · rename_i hget
    cases h
    by_cases hn : n = name
    · subst hn
      rw [SortedMap.get?_put_self, hget]
      simp [eq_comm]
    · rw [SortedMap.get?_put_of_ne _ _ hn]
      simp [hn]

/-- After aliases are added, a name stands for what it stood for or for what it was added for. -/
theorem get?_of_insertAll (h : m.insertAll as = .ok m') :
  m'.tables.get? n = some t ↔ m.tables.get? n = some t ∨ ⟨t, n⟩ ∈ as
  := by
  induction as generalizing m with
  | nil =>
    cases h
    simp
  | cons a as ih =>
    rw [insertAll] at h
    split at h
    · rename_i m₁ hinsert
      rw [ih h, get?_of_insert hinsert, List.mem_cons, or_assoc]
    · cases h

theorem get?_of_merge {m other m' : Aliases} (h : m.merge other = .ok m') :
  m'.tables.get? n = some t ↔ m.tables.get? n = some t ∨ other.tables.get? n = some t
  := by
  rw [get?_of_insertAll h, mem_toList_iff]

/-- After the names are changed, a new name stands for the table of the old one. -/
theorem get?_of_compose {m inner m' : Aliases} (h : m.compose inner = .ok m') :
  m'.tables.get? n = some t
    ↔ (∃ u, m.tables.get? n = some u ∧ inner.tableOf u = t)
      ∨ (inner.tables.get? n = some t ∧ m.hasAlias n = false)
  := by
  rw [get?_of_insertAll h, List.mem_append, List.mem_map, List.mem_filter, mem_toList_iff]
  constructor
  · rintro (hempty | ⟨⟨u, n'⟩, hmem, heq⟩ | hinner)
    · rw [show empty.tables.get? n = none from SortedMap.get?_empty n] at hempty
      cases hempty
    · cases heq
      left
      use u, mem_toList_iff.1 hmem
    · right
      simpa using hinner
  · rintro (⟨u, hu, rfl⟩ | hinner)
    · right; left
      use ⟨u, n⟩, mem_toList_iff.2 hu
    · right; right
      simpa using hinner

/-! ### Aliases that do not contradict each other -/

/-- Aliases can be added if each name stands for one table only. -/
theorem exists_insertAll
    (h : ∀ a ∈ as, ∀ t, m.tables.get? a.name = some t ∨ ⟨t, a.name⟩ ∈ as → t = a.table) :
  ∃ m', m.insertAll as = .ok m'
  := by
  induction as generalizing m with
  | nil => exact ⟨m, rfl⟩
  | cons a as ih =>
    have hinsert : ∃ m₁, m.insert a = .ok m₁ := by
      rw [insert]
      split
      · rename_i existing hget
        rw [if_pos (h a List.mem_cons_self existing (.inl hget))]
        exact ⟨m, rfl⟩
      · exact ⟨_, rfl⟩
    obtain ⟨m₁, hm₁⟩ := hinsert
    rw [insertAll, hm₁]
    apply ih
    intro b hb t ht
    apply h b (List.mem_cons_of_mem a hb)
    rw [get?_of_insert hm₁, or_assoc] at ht
    rwa [List.mem_cons]

/-- Names can be changed if no new name is the name of something else. -/
theorem exists_compose {m inner : Aliases}
    (h : ∀ n t u, m.tables.get? n = some t → inner.tables.get? n = some u → m.hasAlias n = true) :
  ∃ m', m.compose inner = .ok m'
  := by
  have hname : ∀ {n t}, ⟨t, n⟩ ∈ (m.toList.map fun a => ⟨inner.tableOf a.table, a.name⟩)
        ++ inner.toList.filter (fun a => !m.hasAlias a.name)
      → (∃ u, m.tables.get? n = some u ∧ inner.tableOf u = t)
        ∨ (inner.tables.get? n = some t ∧ m.hasAlias n = false) := by
    intro n t hmem
    rw [List.mem_append, List.mem_map, List.mem_filter, mem_toList_iff] at hmem
    obtain ⟨⟨u, n'⟩, hu, heq⟩ | ⟨hinner, halias⟩ := hmem
    · cases heq
      exact .inl ⟨u, mem_toList_iff.1 hu, rfl⟩
    · exact .inr ⟨hinner, by simpa using halias⟩
  apply exists_insertAll
  rintro ⟨t, n⟩ ht t' (hempty | ht')
  · rw [show empty.tables.get? n = none from SortedMap.get?_empty n] at hempty
    cases hempty
  · obtain ⟨u, hu, rfl⟩ | ⟨hinner, halias⟩ := hname ht
    · obtain ⟨u', hu', rfl⟩ | ⟨hinner', halias'⟩ := hname ht'
      · rw [hu] at hu'
        cases hu'
        rfl
      · rw [h n u t' hu hinner'] at halias'
        cases halias'
    · obtain ⟨u', hu', rfl⟩ | ⟨hinner', -⟩ := hname ht'
      · rw [h n u' t hu' hinner] at halias
        cases halias
      · rw [hinner] at hinner'
        cases hinner'
        rfl

/-! ### One name for each table -/

/-- Every table has at most one name, and the two indexes agree. -/
structure Single (m : Aliases) : Prop where
  agree : ∀ t n, m.names.get? t = some [n] ↔ m.tables.get? n = some t
  one : ∀ t ns, m.names.get? t = some ns → ∃ n, ns = [n]

theorem single_empty :
  empty.Single
  := by
  constructor
  · intro t n
    rw [show empty.names.get? t = none from SortedMap.get?_empty t,
      show empty.tables.get? n = none from SortedMap.get?_empty n]
    simp
  · intro t ns h
    rw [show empty.names.get? t = none from SortedMap.get?_empty t] at h
    cases h

theorem Single.insert {a : Alias} (hm : m.Single) (hname : ∀ n ∈ m.namesOf a.table, n = a.name)
    (h : m.insert a = .ok m') :
  m'.Single
  := by
  obtain ⟨table, name⟩ := a
  unfold Aliases.insert at h
  split at h
  · split at h
    · cases h
      apply hm
    · cases h
  · rename_i hget
    cases h
    -- the name is new, so the table has none yet
    have hnone : m.names.get? table = none := by
      cases hns : m.names.get? table with
      | none => rfl
      | some ns =>
        obtain ⟨n, rfl⟩ := hm.one table ns hns
        have hn : n = name := hname n (by simp [namesOf, hns])
        subst hn
        rw [(hm.agree table n).1 hns] at hget
        cases hget
    constructor
    · intro t n
      by_cases ht : t = table
      · subst ht
        rw [SortedMap.get?_put_self]
        by_cases hn : n = name
        · subst hn
          simp [namesOf, hnone, place, SortedMap.get?_put_self]
        · rw [SortedMap.get?_put_of_ne _ _ hn, ← hm.agree, hnone]
          simp [namesOf, hnone, place, Ne.symm hn]
      · rw [SortedMap.get?_put_of_ne _ _ ht, hm.agree]
        by_cases hn : n = name
        · subst hn
          rw [SortedMap.get?_put_self, hget]
          simp [Ne.symm ht]
        · rw [SortedMap.get?_put_of_ne _ _ hn]
    · intro t ns hns
      by_cases ht : t = table
      · subst ht
        rw [SortedMap.get?_put_self] at hns
        use name
        simpa [namesOf, hnone, place, eq_comm] using hns
      · rw [SortedMap.get?_put_of_ne _ _ ht] at hns
        apply hm.one t ns hns

theorem get?_of_insertSingle (hm : m.Single) (h : m.insertSingle as = .ok m') :
  m'.Single ∧ ∀ n t, m'.tables.get? n = some t ↔ m.tables.get? n = some t ∨ ⟨t, n⟩ ∈ as
  := by
  induction as generalizing m with
  | nil =>
    cases h
    use hm
    simp
  | cons a as ih =>
    rw [insertSingle] at h
    split at h
    · cases h
    · rename_i hfind
      split at h
      · rename_i m₁ hinsert
        have hm₁ : m₁.Single := by
          apply hm.insert _ hinsert
          intro n hn
          simpa using List.find?_eq_none.1 hfind n hn
        obtain ⟨hsingle, hget⟩ := ih hm₁ h
        use hsingle
        intro n t
        rw [hget, get?_of_insert hinsert, List.mem_cons, or_assoc]
      · cases h

/-- The aliases of a list stand for the tables of the list. -/
theorem get?_of_ofList (h : ofList as = .ok m) :
  m.Single ∧ ∀ n t, m.tables.get? n = some t ↔ ⟨t, n⟩ ∈ as
  := by
  obtain ⟨hsingle, hget⟩ := get?_of_insertSingle single_empty h
  use hsingle
  intro n t
  rw [hget, show empty.tables.get? n = none from SortedMap.get?_empty n]
  simp

theorem Single.nameOf_eq (hm : m.Single) {t n : Table} (h : m.tables.get? n = some t) :
  m.nameOf t = n
  := by
  rw [← hm.agree] at h
  rw [nameOf, namesOf, h]
  rfl

theorem Single.hasAlias_iff (hm : m.Single) :
  m.hasAlias t = true ↔ ∃ n, m.tables.get? n = some t
  := by
  rw [hasAlias, SortedMap.contains, Option.isSome_iff_exists]
  constructor
  · rintro ⟨ns, hns⟩
    obtain ⟨n, rfl⟩ := hm.one t ns hns
    use n
    apply (hm.agree t n).1 hns
  · rintro ⟨n, hn⟩
    use [n]
    apply (hm.agree t n).2 hn

theorem Single.get?_nameOf (hm : m.Single) (h : m.hasAlias t = true) :
  m.tables.get? (m.nameOf t) = some t
  := by
  obtain ⟨n, hn⟩ := hm.hasAlias_iff.1 h
  rw [hm.nameOf_eq hn, hn]

/-- After the names are changed, the new name of a table stands for what the table stood for. -/
theorem Single.tableOf_nameOf_of_compose {m inner m' : Aliases} (hm : m.Single)
    (hcompose : m.compose inner = .ok m') (ht : m.hasAlias t = true) :
  m'.tableOf (m.nameOf t) = inner.tableOf t
  := by
  rw [tableOf, (get?_of_compose hcompose).2 (.inl ⟨t, hm.get?_nameOf ht, rfl⟩)]
  rfl

theorem nameOf_of_not_hasAlias (h : m.hasAlias t = false) :
  m.nameOf t = t
  := by
  rw [hasAlias, SortedMap.contains, Option.isSome_eq_false_iff, Option.isNone_iff_eq_none] at h
  rw [nameOf, namesOf, h]
  rfl

/-- The column of a table is read under the name of the table. -/
theorem nameColumn_eq (m : Aliases) (c : Column) :
  m.nameColumn c = ⟨m.nameOf c.table, c.name⟩
  := by
  rw [nameColumn]
  split
  · rfl
  · rename_i h
    rw [nameOf_of_not_hasAlias (by simpa using h)]

end Aliases

end RelGraph.Sql
