import Mathlib.Tactic.Common
import RelGraph.Order.SortedMap

/-!
# Looking up in sorted maps

What each change of a sorted map does to the look-ups, and that a map is determined by them.
-/

namespace RelGraph.SortedMap

open Spelled

variable {κ ν μ : Type} [Spelled κ] {l : List (κ × ν)} {m : SortedMap κ ν} {f : κ → ν → Option μ}

/-! ### Lists of entries -/

theorem find?_cons (k k' : κ) (v : ν) (l : List (κ × ν)) :
  find? k ((k', v) :: l) = if ordering k k' = .eq then some v else find? k l
  := rfl

theorem find?_cons_self (k : κ) (v : ν) (l : List (κ × ν)) :
  find? k ((k, v) :: l) = some v
  := by
  simp [find?_cons, ordering_eq_iff]

theorem find?_cons_of_ne {k k' : κ} (v : ν) (l : List (κ × ν)) (h : k ≠ k') :
  find? k ((k', v) :: l) = find? k l
  := by
  simp [find?_cons, ordering_eq_iff, h]

/-- A key that comes before all keys of a list has no value in it. -/
theorem find?_eq_none_of_lt {k : κ} (h : ∀ e ∈ l, ordering k e.1 = .lt) :
  find? k l = none
  := by
  induction l with
  | nil => rfl
  | cons e rest ih =>
    obtain ⟨k', v⟩ := e
    have hk : ordering k k' = .lt := h (k', v) (by simp)
    rw [find?_cons_of_ne]
    · apply ih
      intro e he
      apply h e (List.mem_cons_of_mem _ he)
    · rintro rfl
      apply ordering_irrefl k hk

/-- The value of a key is found in one of the entries. -/
theorem mem_of_find? {k : κ} {v : ν} (h : find? k l = some v) :
  (k, v) ∈ l
  := by
  induction l with
  | nil => cases h
  | cons e rest ih =>
    obtain ⟨k', v'⟩ := e
    by_cases hk : k = k'
    · subst hk
      rw [find?_cons_self] at h
      simp_all
    · rw [find?_cons_of_ne _ _ hk] at h
      apply List.mem_cons_of_mem _ (ih h)

/-- A key has a value exactly when there is an entry of it. -/
theorem isSome_find?_iff {k : κ} :
  (find? k l).isSome ↔ ∃ v, (k, v) ∈ l
  := by
  induction l with
  | nil => simp [find?]
  | cons e rest ih =>
    obtain ⟨k', v'⟩ := e
    by_cases hk : k = k'
    · subst hk
      rw [find?_cons_self]
      simp only [Option.isSome_some, true_iff]
      use v', List.mem_cons_self
    · rw [find?_cons_of_ne _ _ hk, ih]
      simp [hk]

/-- In a sorted list every entry is found. -/
theorem find?_of_mem {k : κ} {v : ν} (hl : l.Pairwise fun a b => ordering a.1 b.1 = .lt)
    (h : (k, v) ∈ l) :
  find? k l = some v
  := by
  induction l with
  | nil => simp at h
  | cons e rest ih =>
    obtain ⟨k', v'⟩ := e
    rw [List.pairwise_cons] at hl
    rcases List.mem_cons.1 h with h | h
    · cases h
      apply find?_cons_self
    · have hk : ordering k' k = .lt := hl.1 (k, v) h
      rw [find?_cons_of_ne]
      · apply ih hl.2 h
      · rintro rfl
        apply ordering_irrefl k hk

theorem find?_putEntry_self (k : κ) (v : ν) (l : List (κ × ν)) :
  find? k (putEntry k v l) = some v
  := by
  induction l with
  | nil => apply find?_cons_self
  | cons e rest ih =>
    obtain ⟨k', v'⟩ := e
    unfold putEntry
    split
    · apply find?_cons_self
    · rename_i hk
      rw [ordering_eq_iff] at hk
      subst hk
      apply find?_cons_self
    · rename_i hk
      rw [find?_cons_of_ne]
      · apply ih
      · rintro rfl
        simp [ordering_eq_iff.2 rfl] at hk

theorem find?_putEntry_of_ne {k k' : κ} (v : ν) (l : List (κ × ν)) (h : k' ≠ k) :
  find? k' (putEntry k v l) = find? k' l
  := by
  induction l with
  | nil => apply find?_cons_of_ne _ _ h
  | cons e rest ih =>
    obtain ⟨k'', v''⟩ := e
    unfold putEntry
    split
    · apply find?_cons_of_ne _ _ h
    · rename_i hk
      rw [ordering_eq_iff] at hk
      subst hk
      rw [find?_cons_of_ne _ _ h, find?_cons_of_ne _ _ h]
    · by_cases hk : k' = k''
      · subst hk
        rw [find?_cons_self, find?_cons_self]
      · rw [find?_cons_of_ne _ _ hk, find?_cons_of_ne _ _ hk, ih]

/-- Sorted lists of entries with the same look-ups are equal. -/
theorem entries_ext {l l' : List (κ × ν)}
    (hl : l.Pairwise fun a b => ordering a.1 b.1 = .lt)
    (hl' : l'.Pairwise fun a b => ordering a.1 b.1 = .lt)
    (h : ∀ k, find? k l = find? k l') :
  l = l'
  := by
  induction l generalizing l' with
  | nil =>
    cases l' with
    | nil => rfl
    | cons e rest =>
      have he := h e.1
      rw [find?_cons_self] at he
      cases he
  | cons e rest ih =>
    cases l' with
    | nil =>
      have he := h e.1
      rw [find?_cons_self] at he
      cases he
    | cons e' rest' =>
      obtain ⟨k, v⟩ := e
      obtain ⟨k', v'⟩ := e'
      rw [List.pairwise_cons] at hl hl'
      -- the two least keys can not differ: the smaller one would be found on one side only
      have hkk : k = k' := by
        have hk := h k
        have hk' := h k'
        rw [find?_cons_self] at hk hk'
        rcases List.mem_cons.1 (mem_of_find? hk.symm) with he | he
        · cases he
          rfl
        · rcases List.mem_cons.1 (mem_of_find? hk') with he' | he'
          · cases he'
            rfl
          · have h₁ : ordering k' k = .lt := hl'.1 _ he
            have h₂ : ordering k k' = .lt := hl.1 _ he'
            cases ordering_irrefl k (ordering_lt_trans h₂ h₁)
      subst hkk
      have hv := h k
      rw [find?_cons_self, find?_cons_self] at hv
      cases hv
      congr 1
      apply ih hl.2 hl'.2
      intro x
      by_cases hx : x = k
      · subst hx
        rw [find?_eq_none_of_lt hl.1, find?_eq_none_of_lt hl'.1]
      · have hx' := h x
        rwa [find?_cons_of_ne _ _ hx, find?_cons_of_ne _ _ hx] at hx'

/-! ### Maps -/

/-- A map is determined by its look-ups. -/
@[ext]
theorem ext {m m' : SortedMap κ ν} (h : ∀ k, m.get? k = m'.get? k) :
  m = m'
  := by
  obtain ⟨l, hl⟩ := m
  obtain ⟨l', hl'⟩ := m'
  congr
  apply entries_ext hl hl' h

@[simp]
theorem get?_empty (k : κ) :
  (empty : SortedMap κ ν).get? k = none
  := rfl

theorem mem_entries_iff {k : κ} {v : ν} :
  (k, v) ∈ m.entries ↔ m.get? k = some v
  := ⟨find?_of_mem m.sorted, mem_of_find?⟩

theorem mem_values_iff {v : ν} :
  v ∈ m.values ↔ ∃ k, m.get? k = some v
  := by
  simp only [values, List.mem_map, Prod.exists, ← mem_entries_iff]
  constructor
  · rintro ⟨k, _, hv, rfl⟩
    use k
  · rintro ⟨k, hv⟩
    use k, v

@[simp]
theorem get?_put_self (m : SortedMap κ ν) (k : κ) (v : ν) :
  (m.put k v).get? k = some v
  := find?_putEntry_self k v m.entries

theorem get?_put_of_ne (m : SortedMap κ ν) {k k' : κ} (v : ν) (h : k' ≠ k) :
  (m.put k v).get? k' = m.get? k'
  := find?_putEntry_of_ne v m.entries h

theorem get?_putNew_of_ne (m : SortedMap κ ν) {k k' : κ} (v : ν) (h : k' ≠ k) :
  (m.putNew k v).get? k' = m.get? k'
  := by
  unfold putNew
  split
  · rfl
  · apply get?_put_of_ne m v h

theorem get?_putNew_self (m : SortedMap κ ν) (k : κ) (v : ν) :
  (m.putNew k v).get? k = some ((m.get? k).getD v)
  := by
  unfold putNew contains
  split
  · rename_i h
    obtain ⟨w, hw⟩ := Option.isSome_iff_exists.1 h
    simp [hw]
  · rename_i h
    simp_all

theorem find?_filter_of_ne {k k' : κ} (l : List (κ × ν)) (h : k' ≠ k) :
  find? k' (l.filter fun e => ordering k e.1 != .eq) = find? k' l
  := by
  induction l with
  | nil => rfl
  | cons e rest ih =>
    obtain ⟨k'', v⟩ := e
    by_cases hk : k = k''
    · subst hk
      rw [List.filter_cons_of_neg, ih, find?_cons_of_ne _ _ h]
      simp [ordering_eq_iff]
    · rw [List.filter_cons_of_pos]
      · simp only [find?, ih]
      · simp [ordering_eq_iff, hk]

@[simp]
theorem get?_erase_self (m : SortedMap κ ν) (k : κ) :
  (m.erase k).get? k = none
  := by
  rw [Option.eq_none_iff_forall_ne_some]
  intro v hv
  have h := mem_of_find? hv
  simp [erase, ordering_eq_iff] at h

theorem get?_erase_of_ne (m : SortedMap κ ν) {k k' : κ} (h : k' ≠ k) :
  (m.erase k).get? k' = m.get? k'
  := find?_filter_of_ne m.entries h

theorem find?_map (f : κ → ν → μ) (k : κ) (l : List (κ × ν)) :
  find? k (l.map fun e => (e.1, f e.1 e.2)) = (find? k l).map (f k)
  := by
  induction l with
  | nil => rfl
  | cons e rest ih =>
    obtain ⟨k', v⟩ := e
    by_cases hk : k = k'
    · subst hk
      simp only [List.map_cons, find?_cons_self, Option.map_some]
    · simp only [List.map_cons, find?_cons_of_ne _ _ hk, ih]

@[simp]
theorem get?_map (m : SortedMap κ ν) (f : κ → ν → μ) (k : κ) :
  (m.map f).get? k = (m.get? k).map (f k)
  := find?_map f k m.entries

/-! ### Maps of entries -/

theorem find?_append {k : κ} (l l' : List (κ × ν)) :
  find? k (l ++ l') = (find? k l).or (find? k l')
  := by
  induction l with
  | nil => rfl
  | cons e rest ih =>
    obtain ⟨k', v⟩ := e
    by_cases hk : k = k'
    · subst hk
      simp only [List.cons_append, find?_cons_self, Option.some_or]
    · simp only [List.cons_append, find?_cons_of_ne _ _ hk, ih]

theorem get?_foldl_put (entries : List (κ × ν)) (m : SortedMap κ ν) (k : κ) :
  (entries.foldl (fun m e => m.put e.1 e.2) m).get? k
    = (find? k entries.reverse).or (m.get? k)
  := by
  induction entries generalizing m with
  | nil => rfl
  | cons e rest ih =>
    obtain ⟨k', v⟩ := e
    rw [List.foldl_cons, ih, List.reverse_cons, find?_append, Option.or_assoc]
    congr 1
    by_cases hk : k = k'
    · subst hk
      rw [get?_put_self, find?_cons_self, Option.some_or]
    · rw [get?_put_of_ne _ _ hk, find?_cons_of_ne _ _ hk]
      rfl

/-- The last entry of a key counts. -/
theorem get?_ofList (entries : List (κ × ν)) (k : κ) :
  (ofList entries).get? k = find? k entries.reverse
  := by
  rw [ofList, get?_foldl_put, get?_empty, Option.or_none]

/-! ### Images that may be missing -/

theorem find?_mapEntries? {l' : List (κ × μ)} (h : mapEntries? f l = some l') (k : κ) :
  find? k l' = (find? k l).bind (f k)
  := by
  induction l generalizing l' with
  | nil =>
    cases h
    rfl
  | cons e rest ih =>
    obtain ⟨k', v⟩ := e
    unfold mapEntries? at h
    split at h
    · rename_i w ws hw hws
      cases h
      by_cases hk : k = k'
      · subst hk
        rw [find?_cons_self, find?_cons_self, Option.bind_some, hw]
      · rw [find?_cons_of_ne _ _ hk, find?_cons_of_ne _ _ hk, ih hws]
    · cases h

omit [Spelled κ] in
theorem mapEntries?_eq_some (h : ∀ e ∈ l, (f e.1 e.2).isSome) :
  ∃ l', mapEntries? f l = some l'
  := by
  induction l with
  | nil => exact ⟨[], rfl⟩
  | cons e rest ih =>
    obtain ⟨w, hw⟩ := Option.isSome_iff_exists.1 (h e (by simp))
    obtain ⟨ws, hws⟩ := ih fun e' he' => h e' (List.mem_cons_of_mem _ he')
    use (e.1, w) :: ws
    simp [mapEntries?, hw, hws]

omit [Spelled κ] in
theorem isSome_of_mapEntries? {l' : List (κ × μ)} (h : mapEntries? f l = some l') :
  ∀ e ∈ l, (f e.1 e.2).isSome
  := by
  induction l generalizing l' with
  | nil => simp
  | cons e rest ih =>
    unfold mapEntries? at h
    split at h
    · rename_i w ws hw hws
      intro e' he'
      rcases List.mem_cons.1 he' with rfl | he'
      · simp [hw]
      · apply ih hws e' he'
    · cases h

/-- The values all have images exactly when the map of the images exists. -/
theorem isSome_map?_iff :
  (m.map? f).isSome ↔ ∀ k v, m.get? k = some v → (f k v).isSome
  := by
  have hm : (m.map? f).isSome ↔ (mapEntries? f m.entries).isSome := by
    unfold map?
    split <;> simp_all
  rw [hm]
  constructor
  · intro h k v hv
    obtain ⟨l', hl'⟩ := Option.isSome_iff_exists.1 h
    apply isSome_of_mapEntries? hl' (k, v) (mem_entries_iff.2 hv)
  · intro h
    obtain ⟨l', hl'⟩ := mapEntries?_eq_some (f := f) (l := m.entries) fun e he =>
      h e.1 e.2 (mem_entries_iff.1 he)
    simp [hl']

theorem get?_map? {m' : SortedMap κ μ} (h : m.map? f = some m') (k : κ) :
  m'.get? k = (m.get? k).bind (f k)
  := by
  unfold map? at h
  split at h
  · rename_i l' hl'
    cases h
    apply find?_mapEntries? hl'
  · cases h

end RelGraph.SortedMap
