import Mathlib.Data.List.Perm.Basic
import RelGraph.Sql.Database

/-!
# Leaving repetitions out

`dedup` keeps the first of equal members.  It commutes with selecting members and with mapping
them by a function that keeps them apart, and lists with the same members have the same result up
to the order.
-/

namespace RelGraph.Sql.Database

variable {α β : Type} [DecidableEq α] [DecidableEq β]

theorem dedup_cons (seen as : List α) (a : α) :
  dedup seen (a :: as) = if a ∈ seen then dedup seen as else a :: dedup (a :: seen) as
  := rfl

theorem mem_dedup {seen as : List α} {a : α} :
  a ∈ dedup seen as ↔ a ∈ as ∧ a ∉ seen
  := by
  induction as generalizing seen with
  | nil => simp [dedup]
  | cons x xs ih =>
    rw [dedup_cons]
    split
    · rename_i hx
      rw [ih, List.mem_cons]
      constructor
      · rintro ⟨ha, hs⟩
        use Or.inr ha
      · rintro ⟨rfl | ha, hs⟩
        · contradiction
        · use ha
    · rename_i hx
      rw [List.mem_cons, ih, List.mem_cons, List.mem_cons]
      by_cases hax : a = x
      · subst hax
        simp [hx]
      · simp [hax]

theorem nodup_dedup (seen as : List α) :
  (dedup seen as).Nodup
  := by
  induction as generalizing seen with
  | nil => apply List.nodup_nil
  | cons x xs ih =>
    rw [dedup_cons]
    split
    · apply ih
    · rw [List.nodup_cons]
      use by simp [mem_dedup]
      apply ih

/-- What was seen matters only as far as it occurs. -/
theorem dedup_congr_seen {seen seen' as : List α} (h : ∀ a ∈ as, a ∈ seen ↔ a ∈ seen') :
  dedup seen as = dedup seen' as
  := by
  induction as generalizing seen seen' with
  | nil => rfl
  | cons x xs ih =>
    rw [List.forall_mem_cons] at h
    rw [dedup_cons, dedup_cons, ih h.2]
    simp only [h.1]
    split
    · rfl
    · congr 1
      apply ih
      intro a ha
      rw [List.mem_cons, List.mem_cons, h.2 a ha]

theorem dedup_filter (p : α → Bool) (seen as : List α) :
  dedup seen (as.filter p) = (dedup seen as).filter p
  := by
  induction as generalizing seen with
  | nil => rfl
  | cons x xs ih =>
    rw [List.filter_cons, dedup_cons]
    by_cases hp : p x = true
    · rw [if_pos hp, dedup_cons]
      split
      · apply ih
      · rw [List.filter_cons_of_pos hp, ih]
    · rw [if_neg hp, ih]
      split
      · rfl
      · rw [List.filter_cons_of_neg hp, ← ih, ← ih]
        apply dedup_congr_seen
        intro a ha
        rw [List.mem_cons, iff_or_self]
        rintro rfl
        apply absurd (List.mem_filter.1 ha).2 hp

theorem dedup_map {f : α → β} {seen as : List α}
    (h : ∀ a ∈ seen ++ as, ∀ b ∈ seen ++ as, f a = f b → a = b) :
  dedup (seen.map f) (as.map f) = (dedup seen as).map f
  := by
  induction as generalizing seen with
  | nil => rfl
  | cons x xs ih =>
    have hx : f x ∈ seen.map f ↔ x ∈ seen := by
      rw [List.mem_map]
      constructor
      · rintro ⟨a, ha, hfa⟩
        rw [← h a (by simp [ha]) x (by simp) hfa]
        apply ha
      · intro hx
        use x
    rw [List.map_cons, dedup_cons, dedup_cons]
    simp only [hx]
    split
    · apply ih
      intro a ha b hb
      simp only [List.mem_append] at ha hb
      apply h a (by simp; tauto) b (by simp; tauto)
    · rw [List.map_cons, ← List.map_cons, ih]
      intro a ha b hb
      simp only [List.mem_append, List.mem_cons] at ha hb
      apply h a (by simp; tauto) b (by simp; tauto)

/-- Leaving repetitions out commutes with a function that keeps the members apart. -/
theorem dedup_map_of_injective {f : α → β} {as : List α}
    (h : ∀ a ∈ as, ∀ b ∈ as, f a = f b → a = b) :
  dedup [] (as.map f) = (dedup [] as).map f
  := by
  apply @dedup_map α β _ _ f [] as
  simpa using h

theorem perm_dedup {as bs : List α} (h : ∀ a, a ∈ as ↔ a ∈ bs) :
  (dedup [] as).Perm (dedup [] bs)
  := by
  rw [List.perm_ext_iff_of_nodup (nodup_dedup _ _) (nodup_dedup _ _)]
  intro a
  rw [mem_dedup, mem_dedup, h a]

end RelGraph.Sql.Database
