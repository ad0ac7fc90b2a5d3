import RelGraph.Proofs.Order.SortedMap
import RelGraph.Rdf.Binding

/-!
# Looking up in bindings

The terms of the variables after each change of a binding.  Two bindings have a union exactly
when they are compatible, and the union has the terms of both.  Unions depend neither on the order nor
on the nesting, also where there is none (`Binding.merge?_partial_union`).
-/

namespace RelGraph.Rdf.Binding

open Spelled

variable {a b c : Binding} {v : Variable}

/-- A binding is determined by the terms of its variables. -/
@[ext]
theorem ext (h : ∀ v, a.get? v = b.get? v) :
  a = b
  := by
  obtain ⟨m⟩ := a
  obtain ⟨m'⟩ := b
  congr
  ext1
  apply h

@[simp]
theorem get?_empty (v : Variable) :
  empty.get? v = none
  := rfl

theorem binds_eq (b : Binding) (v : Variable) :
  b.binds v = (b.get? v).isSome
  := rfl

theorem binds_iff {b : Binding} :
  b.binds v = true ↔ ∃ t, b.get? v = some t
  := Option.isSome_iff_exists

theorem mem_toList_iff {b : Binding} {t : Term} :
  (v, t) ∈ b.toList ↔ b.get? v = some t
  := SortedMap.mem_entries_iff

/-! ### Single variables -/

theorem get?_insert_of_ne (b : Binding) {v w : Variable} (t : Term) (h : w ≠ v) :
  (b.insert v t).get? w = b.get? w
  := SortedMap.get?_putNew_of_ne b.terms t h

theorem get?_insert_self (b : Binding) (v : Variable) (t : Term) :
  (b.insert v t).get? v = some ((b.get? v).getD t)
  := SortedMap.get?_putNew_self b.terms v t

@[simp]
theorem get?_erase_self (b : Binding) (v : Variable) :
  (b.erase v).get? v = none
  := SortedMap.get?_erase_self b.terms v

theorem get?_erase_of_ne (b : Binding) {v w : Variable} (h : w ≠ v) :
  (b.erase v).get? w = b.get? w
  := SortedMap.get?_erase_of_ne b.terms h

/-! ### Bindings of entries -/

/-- Entries that all follow one assignment give their variables the terms it assigns. -/
theorem find?_of_assigned {f : Variable → Option Term} {l : List (Variable × Term)}
    (h : ∀ e ∈ l, f e.1 = some e.2) (v : Variable) :
  SortedMap.find? v l = if v ∈ l.map (·.1) then f v else none
  := by
  induction l with
  | nil => rfl
  | cons e rest ih =>
    obtain ⟨w, t⟩ := e
    by_cases hv : v = w
    · subst hv
      rw [SortedMap.find?_cons_self, if_pos (by simp), h (v, t) (by simp)]
    · rw [SortedMap.find?_cons_of_ne _ _ hv, ih fun e he => h e (List.mem_cons_of_mem _ he)]
      simp only [List.map_cons, List.mem_cons, hv, false_or]

theorem get?_ofList_of_assigned {f : Variable → Option Term} {l : List (Variable × Term)}
    (h : ∀ e ∈ l, f e.1 = some e.2) (v : Variable) :
  (ofList l).get? v = if v ∈ l.map (·.1) then f v else none
  := by
  rw [show (ofList l).get? v = (SortedMap.ofList l).get? v from rfl, SortedMap.get?_ofList,
    find?_of_assigned (f := f), List.map_reverse]
  · simp only [List.mem_reverse]
  · intro e he
    apply h e (List.mem_reverse.1 he)

theorem get?_ofList_toList (b : Binding) (v : Variable) :
  (ofList b.toList).get? v = b.get? v
  := by
  rw [get?_ofList_of_assigned (f := b.get?) fun e he => mem_toList_iff.1 he]
  split
  · rfl
  · rename_i h
    symm
    rw [Option.eq_none_iff_forall_ne_some]
    intro t ht
    apply h
    apply List.mem_map.2
    use (v, t), mem_toList_iff.2 ht

/-- A binding of entries has the variables of these. -/
theorem binds_ofList {l : List (Variable × Term)} :
  (ofList l).binds v = true ↔ ∃ t, (v, t) ∈ l
  := by
  rw [show (ofList l).binds v = ((SortedMap.ofList l).get? v).isSome from rfl,
    SortedMap.get?_ofList, SortedMap.isSome_find?_iff]
  simp only [List.mem_reverse]

/-- Restriction to some variables keeps the terms of these. -/
theorem get?_restrict (b : Binding) (vs : List Variable) (v : Variable) :
  (b.restrict vs).get? v = if v ∈ vs then b.get? v else none
  := by
  rw [restrict, get?_ofList_of_assigned (f := b.get?)]
  · by_cases hv : v ∈ vs
    · cases hb : b.get? v with
      | none => simp [hv]
      | some t =>
        rw [if_pos, if_pos hv]
        simp only [List.mem_map, List.mem_filterMap, Prod.exists]
        use v, t
        constructor
        · use v, hv
          simp [hb]
        · rfl
    · rw [if_neg, if_neg hv]
      simp only [List.mem_map, List.mem_filterMap, Prod.exists, not_exists, not_and]
      rintro w t ⟨u, hu, h⟩ rfl
      obtain ⟨t', -, h⟩ := Option.map_eq_some_iff.1 h
      cases h
      apply hv hu
  · intro e he
    obtain ⟨w, -, h⟩ := List.mem_filterMap.1 he
    obtain ⟨t, ht, h⟩ := Option.map_eq_some_iff.1 h
    cases h
    apply ht

theorem binds_restrict {b : Binding} {vs : List Variable} :
  (b.restrict vs).binds v = true ↔ v ∈ vs ∧ b.binds v = true
  := by
  rw [binds_eq, binds_eq, get?_restrict]
  by_cases hv : v ∈ vs <;> simp [hv]

/-- A larger binding has the variables of a smaller one. -/
theorem binds_of_le (h : ∀ v t, a.get? v = some t → b.get? v = some t) (hv : a.binds v = true) :
  b.binds v = true
  := by
  rw [binds_iff] at hv ⊢
  obtain ⟨t, ht⟩ := hv
  use t, h v t ht

/-! ### Compatible bindings -/

/-- The bindings agree wherever both have a term. -/
theorem compatible_iff :
  a.compatible b = true ↔ ∀ v s t, a.get? v = some s → b.get? v = some t → s = t
  := by
  simp only [compatible, List.all_eq_true, Prod.forall, mem_toList_iff]
  constructor
  · intro h v s t hs ht
    have hv := h v s hs
    simp only [ht, decide_eq_true_eq] at hv
    apply hv.symm
  · intro h v s hs
    split
    · rename_i t ht
      simp [h v s t hs ht]
    · rfl

theorem compatible_comm (a b : Binding) :
  a.compatible b = b.compatible a
  := by
  rw [Bool.eq_iff_iff, compatible_iff, compatible_iff]
  constructor
  · intro h v s t hs ht
    apply (h v t s ht hs).symm
  · intro h v s t hs ht
    apply (h v t s ht hs).symm

/-- A binding that is compatible with a larger one is compatible with a smaller one. -/
theorem compatible_of_le (hle : ∀ v t, a.get? v = some t → b.get? v = some t)
    (h : b.compatible c = true) :
  a.compatible c = true
  := by
  rw [compatible_iff] at h ⊢
  intro v s t hs ht
  apply h v s t (hle v s hs) ht

/-- Parts of a binding are compatible. -/
theorem compatible_of_le_of_le {a b m : Binding}
    (ha : ∀ v t, a.get? v = some t → m.get? v = some t)
    (hb : ∀ v t, b.get? v = some t → m.get? v = some t) :
  a.compatible b = true
  := by
  rw [compatible_iff]
  intro v s t hs ht
  have hm := ha v s hs
  rw [hb v t ht, Option.some.injEq] at hm
  apply hm.symm

/-! ### Unions -/

/-- Entries of different variables can be added exactly when they contradict no term that is
there, and then each variable has its old term or that of its entry. -/
theorem addAll?_eq_some_iff {es : List (Variable × Term)} {a c : Binding}
    (hes : es.Pairwise fun e e' => e.1 ≠ e'.1) :
  a.addAll? es = some c
    ↔ (∀ e ∈ es, ∀ t, a.get? e.1 = some t → t = e.2)
      ∧ ∀ v, c.get? v = (a.get? v).or (SortedMap.find? v es)
  := by
  induction es generalizing a with
  | nil =>
    simp only [addAll?, SortedMap.find?, Option.or_none, List.not_mem_nil, false_implies,
      implies_true, true_and, Option.some.injEq]
    constructor
    · rintro rfl v
      rfl
    · intro h
      ext1 v
      apply (h v).symm
  | cons e rest ih =>
    obtain ⟨w, u⟩ := e
    rw [List.pairwise_cons] at hes
    have hw : SortedMap.find? w rest = none := by
      rw [Option.eq_none_iff_forall_ne_some]
      intro t ht
      apply hes.1 _ (SortedMap.mem_of_find? ht) rfl
    unfold addAll?
    split
    · rename_i t ht
      split
      · rename_i htu
        subst htu
        rw [ih hes.2]
        apply and_congr
        · simp [ht]
        · apply forall_congr'
          intro v
          by_cases hv : v = w
          · subst hv
            simp [ht]
          · rw [SortedMap.find?_cons_of_ne _ _ hv]
      · rename_i htu
        simp [ht, htu]
    · rename_i hwa
      -- the new term of `w` counts from here on, and `w` has no further entry
      have hput : ∀ v, (Binding.mk (a.terms.put w u)).get? v
          = if v = w then some u else a.get? v := by
        intro v
        split
        · rename_i hv
          subst hv
          apply SortedMap.get?_put_self
        · rename_i hv
          apply SortedMap.get?_put_of_ne a.terms u hv
      rw [ih hes.2]
      apply and_congr
      · simp only [List.forall_mem_cons, hwa, reduceCtorEq, false_implies, implies_true, true_and]
        apply forall₂_congr
        intro e he
        rw [hput, if_neg (Ne.symm (hes.1 e he))]
      · apply forall_congr'
        intro v
        rw [hput]
        by_cases hv : v = w
        · subst hv
          rw [if_pos rfl, hwa, SortedMap.find?_cons_self]
          rfl
        · rw [if_neg hv, SortedMap.find?_cons_of_ne _ _ hv]

theorem pairwise_toList (b : Binding) :
  b.toList.Pairwise fun e e' => e.1 ≠ e'.1
  := by
  apply b.terms.sorted.imp
  intro e e' h heq
  rw [heq] at h
  apply ordering_irrefl _ h

/-- The union of two bindings exists exactly when they are compatible, and it has the terms of
both. -/
theorem merge?_eq_some_iff :
  a.merge? b = some c ↔ a.compatible b = true ∧ ∀ v, c.get? v = (a.get? v).or (b.get? v)
  := by
  rw [merge?, addAll?_eq_some_iff (pairwise_toList b)]
  apply and_congr
  · rw [compatible_iff]
    simp only [Prod.forall, mem_toList_iff]
    constructor
    · intro h v s t hs ht
      apply h v t ht s hs
    · intro h v t ht s hs
      apply h v s t hs ht
  · rfl

theorem merge?_isSome_iff :
  (a.merge? b).isSome ↔ a.compatible b = true
  := by
  constructor
  · intro h
    obtain ⟨c, hc⟩ := Option.isSome_iff_exists.1 h
    apply (merge?_eq_some_iff.1 hc).1
  · intro h
    -- the entries of both, those of `a` last, so that they count
    have hc : ∀ v, (ofList (b.toList ++ a.toList)).get? v = (a.get? v).or (b.get? v) := by
      intro v
      rw [← get?_ofList_toList a, ← get?_ofList_toList b]
      simp only [get?, ofList, SortedMap.get?_ofList, List.reverse_append,
        SortedMap.find?_append]
    rw [merge?_eq_some_iff.2 ⟨h, hc⟩]
    rfl

theorem get?_merge? (h : a.merge? b = some c) (v : Variable) :
  c.get? v = (a.get? v).or (b.get? v)
  := (merge?_eq_some_iff.1 h).2 v

theorem binds_merge (h : a.merge? b = some c) (v : Variable) :
  c.binds v = true ↔ a.binds v = true ∨ b.binds v = true
  := by
  rw [binds_eq, get?_merge? h, Option.isSome_or, Bool.or_eq_true, binds_eq, binds_eq]

/-- The union is the binding with the entries of both: neither of them comes first. -/
theorem merge?_eq_some_iff_entries {a b m : Binding} :
  a.merge? b = some m ↔ ∀ v t, m.get? v = some t ↔ a.get? v = some t ∨ b.get? v = some t
  := by
  rw [merge?_eq_some_iff]
  constructor
  · rintro ⟨hcompatible, hm⟩ v t
    rw [hm]
    cases ha : a.get? v with
    | none => simp
    | some s =>
      rw [Option.some_or, iff_self_or]
      intro hb
      rw [compatible_iff.1 hcompatible v s t ha hb]
  · intro hm
    constructor
    · apply compatible_of_le_of_le (m := m)
      · exact fun v t ht => (hm v t).2 (.inl ht)
      · exact fun v t ht => (hm v t).2 (.inr ht)
    · intro v
      cases ha : a.get? v with
      | none =>
        ext t
        rw [hm, ha]
        simp
      | some s =>
        rw [Option.some_or, hm]
        left
        apply ha

theorem merge?_comm (a b : Binding) :
  a.merge? b = b.merge? a
  := by
  ext m
  simp only [merge?_eq_some_iff_entries, or_comm]

/-- A further union has the entries of all three bindings. -/
theorem merge?_bind_merge?_eq_some_iff {a b c m : Binding} :
  ((a.merge? b).bind fun ab => ab.merge? c) = some m
    ↔ ∀ v t, m.get? v = some t ↔ a.get? v = some t ∨ b.get? v = some t ∨ c.get? v = some t
  := by
  rw [Option.bind_eq_some_iff]
  constructor
  · rintro ⟨ab, hab, hm⟩ v t
    rw [merge?_eq_some_iff_entries.1 hm, merge?_eq_some_iff_entries.1 hab, or_assoc]
  · intro hm
    -- the first two are parts of the whole, so that their union exists
    have hcompatible : a.compatible b = true := by
      apply compatible_of_le_of_le (m := m)
      · exact fun v t ht => (hm v t).2 (.inl ht)
      · exact fun v t ht => (hm v t).2 (.inr (.inl ht))
    obtain ⟨ab, hab⟩ := Option.isSome_iff_exists.1 (merge?_isSome_iff.2 hcompatible)
    use ab, hab
    rw [merge?_eq_some_iff_entries]
    intro v t
    rw [hm, merge?_eq_some_iff_entries.1 hab, or_assoc]

theorem merge?_assoc (a b c : Binding) :
  ((a.merge? b).bind fun ab => ab.merge? c) = (b.merge? c).bind fun bc => a.merge? bc
  := by
  have hswap : (fun bc => a.merge? bc) = fun bc => bc.merge? a := funext (merge?_comm a)
  rw [hswap]
  ext m
  rw [merge?_bind_merge?_eq_some_iff, merge?_bind_merge?_eq_some_iff]
  apply forall₂_congr
  intro v t
  rw [or_rotate (a := a.get? v = some t)]

/-- Merging is the partial union of bindings.  It succeeds exactly on compatible bindings, and then
gives the binding with the entries of both and no others.  It depends neither on the order nor on
the nesting, also if it fails. -/
theorem merge?_partial_union (a b c : Binding) :
  ((a.merge? b).isSome = true ↔ a.compatible b = true)
    ∧ (∀ m, a.merge? b = some m
      ↔ ∀ v t, m.get? v = some t ↔ a.get? v = some t ∨ b.get? v = some t)
    ∧ a.merge? b = b.merge? a
    ∧ ((a.merge? b).bind fun ab => ab.merge? c) = (b.merge? c).bind fun bc => a.merge? bc
  := ⟨merge?_isSome_iff, fun _ => merge?_eq_some_iff_entries, merge?_comm a b, merge?_assoc a b c⟩

end RelGraph.Rdf.Binding
