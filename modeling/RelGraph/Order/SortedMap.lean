import RelGraph.Order.Spelled

/-!
# Sorted maps

A finite map with spelled keys is kept as the list of its entries in strictly increasing
order of their keys, so that maps with the same look-ups are equal.
-/

namespace RelGraph

open Spelled

variable {κ ν μ : Type} [Spelled κ]

/-- A finite map: its entries by increasing key. -/
structure SortedMap (κ ν : Type) [Spelled κ] where
  /-- The entries by increasing key. -/
  entries : List (κ × ν)
  /-- The keys increase strictly. -/
  sorted : entries.Pairwise fun a b => ordering a.1 b.1 = .lt

namespace SortedMap

instance [DecidableEq κ] [DecidableEq ν] : DecidableEq (SortedMap κ ν) := fun a b =>
  decidable_of_iff (a.entries = b.entries) (by cases a; cases b; simp)

/-- The map without entries. -/
def empty : SortedMap κ ν := ⟨[], List.Pairwise.nil⟩

instance : Inhabited (SortedMap κ ν) := ⟨empty⟩

/-! ### Looking up -/

/-- The value of a key in a list of entries. -/
def find? (k : κ) : List (κ × ν) → Option ν
  | [] => none
  | (k', v) :: rest => if ordering k k' = .eq then some v else find? k rest

/-- The value of a key. -/
def get? (m : SortedMap κ ν) (k : κ) : Option ν := find? k m.entries

/-- The key has a value. -/
def contains (m : SortedMap κ ν) (k : κ) : Bool := (m.get? k).isSome

/-- The keys in increasing order. -/
def keys (m : SortedMap κ ν) : List κ := m.entries.map (·.1)

/-- The values in the order of their keys. -/
def values (m : SortedMap κ ν) : List ν := m.entries.map (·.2)

/-- The number of entries. -/
def size (m : SortedMap κ ν) : Nat := m.entries.length

/-- There is no entry. -/
def isEmpty (m : SortedMap κ ν) : Bool := m.entries.isEmpty

/-! ### Changing entries -/

/-- Puts an entry at its place; a value that the key has already is replaced. -/
def putEntry (k : κ) (v : ν) : List (κ × ν) → List (κ × ν)
  | [] => [(k, v)]
  | (k', v') :: rest =>
    match ordering k k' with
    | .lt => (k, v) :: (k', v') :: rest
    | .eq => (k', v) :: rest
    | .gt => (k', v') :: putEntry k v rest

theorem key_mem_putEntry {k : κ} {v : ν} {e : κ × ν} {l : List (κ × ν)}
    (h : e ∈ putEntry k v l) :
  e.1 = k ∨ ∃ e' ∈ l, e'.1 = e.1
  := by
  induction l with
  | nil =>
    simp only [putEntry, List.mem_singleton] at h
    simp [h]
  | cons x rest ih =>
    obtain ⟨k', v'⟩ := x
    unfold putEntry at h
    split at h
    · rcases List.mem_cons.1 h with rfl | h
      · simp
      · exact .inr ⟨e, h, rfl⟩
    · rcases List.mem_cons.1 h with rfl | h
      · exact .inr ⟨(k', v'), by simp, rfl⟩
      · exact .inr ⟨e, List.mem_cons_of_mem _ h, rfl⟩
    · rcases List.mem_cons.1 h with rfl | h
      · exact .inr ⟨(k', v'), by simp, rfl⟩
      · rcases ih h with h | ⟨e', he', h⟩
        · exact .inl h
        · exact .inr ⟨e', List.mem_cons_of_mem _ he', h⟩

theorem sorted_putEntry {k : κ} {v : ν} {l : List (κ × ν)}
    (h : l.Pairwise fun a b => ordering a.1 b.1 = .lt) :
  (putEntry k v l).Pairwise fun a b => ordering a.1 b.1 = .lt
  := by
  induction l with
  | nil => simp [putEntry]
  | cons x rest ih =>
    obtain ⟨k', v'⟩ := x
    rw [List.pairwise_cons] at h
    unfold putEntry
    split
    · rename_i hk
      refine List.pairwise_cons.2 ⟨?_, List.pairwise_cons.2 h⟩
      intro e he
      rcases List.mem_cons.1 he with rfl | he
      · exact hk
      · exact ordering_lt_trans hk (h.1 e he)
    · exact List.pairwise_cons.2 h
    · rename_i hk
      refine List.pairwise_cons.2 ⟨?_, ih h.2⟩
      intro e he
      rcases key_mem_putEntry he with he | ⟨e', he', hke⟩
      · rw [he]
        exact ordering_lt_of_gt hk
      · rw [← hke]
        exact h.1 e' he'

/-- Gives a key a value, replacing the one it has. -/
def put (m : SortedMap κ ν) (k : κ) (v : ν) : SortedMap κ ν :=
  ⟨putEntry k v m.entries, sorted_putEntry m.sorted⟩

/-- Gives a key a value unless it has one. -/
def putNew (m : SortedMap κ ν) (k : κ) (v : ν) : SortedMap κ ν :=
  if m.contains k then m else m.put k v

/-- Takes a key and its value away. -/
def erase (m : SortedMap κ ν) (k : κ) : SortedMap κ ν :=
  ⟨m.entries.filter fun e => ordering k e.1 != .eq, m.sorted.filter _⟩

/-- Makes a map out of entries; of two entries with one key the later one counts. -/
def ofList (entries : List (κ × ν)) : SortedMap κ ν :=
  entries.foldl (fun m e => m.put e.1 e.2) empty

/-! ### Mapping the values -/

/-- Changes each value of a list of entries, and gives up if one of them has no image. -/
def mapEntries? (f : κ → ν → Option μ) : List (κ × ν) → Option (List (κ × μ))
  | [] => some []
  | (k, v) :: rest =>
    match f k v, mapEntries? f rest with
    | some w, some ws => some ((k, w) :: ws)
    | _, _ => none

omit [Spelled κ] in
theorem keys_mapEntries? {f : κ → ν → Option μ} {l : List (κ × ν)} {l' : List (κ × μ)}
    (h : mapEntries? f l = some l') :
  l'.map (·.1) = l.map (·.1)
  := by
  induction l generalizing l' with
  | nil => simp_all [mapEntries?]
  | cons e rest ih =>
    unfold mapEntries? at h
    split at h
    · rename_i w ws hw hws
      cases h
      simp [ih hws]
    · cases h

theorem sorted_of_keys {l : List (κ × ν)} {l' : List (κ × μ)}
    (h : l.Pairwise fun a b => ordering a.1 b.1 = .lt) (hk : l'.map (·.1) = l.map (·.1)) :
  l'.Pairwise fun a b => ordering a.1 b.1 = .lt
  := by
  have hl : (l.map (·.1)).Pairwise fun a b => ordering a b = .lt := List.pairwise_map.2 h
  rw [← hk] at hl
  exact List.pairwise_map.1 hl

/-- Changes each value. -/
def map (m : SortedMap κ ν) (f : κ → ν → μ) : SortedMap κ μ :=
  ⟨m.entries.map fun e => (e.1, f e.1 e.2), sorted_of_keys m.sorted (by simp)⟩

/-- Changes each value, and gives up if one of them has no image. -/
def map? (m : SortedMap κ ν) (f : κ → ν → Option μ) : Option (SortedMap κ μ) :=
  match h : mapEntries? f m.entries with
  | some entries => some ⟨entries, sorted_of_keys m.sorted (keys_mapEntries? h)⟩
  | none => none

end SortedMap

end RelGraph
