import RelGraph.Order.Spelled

/-!
# Canonical lists

A finite set of spelled values is kept as the list of its members in strictly increasing
order.  `canonical` makes that list out of any list of the members, so two lists with the
same members have the same canonical list.
-/

namespace RelGraph

open Spelled

variable {α : Type} [Spelled α]

/-- The members are in strictly increasing order. -/
def Increasing (as : List α) : Prop :=
  as.Pairwise fun a b => ordering a b = .lt

/-- Puts a value at its place in an increasing list, unless it is there already. -/
def place (a : α) : List α → List α
  | [] => [a]
  | b :: bs =>
    match ordering a b with
    | .lt => a :: b :: bs
    | .eq => b :: bs
    | .gt => b :: place a bs

/-- The members of a list in increasing order, each of them once. -/
def canonical (as : List α) : List α :=
  as.foldr place []

theorem mem_place {a x : α} {as : List α} :
  x ∈ place a as ↔ x = a ∨ x ∈ as
  := by
  induction as with
  | nil => simp [place]
  | cons b bs ih =>
    unfold place
    split
    · simp
    · rename_i h
      rw [ordering_eq_iff] at h
      subst h
      simp
    · simp only [List.mem_cons, ih]
      constructor <;> rintro (h | h | h) <;> simp [h]

theorem increasing_place {a : α} {as : List α} (h : Increasing as) :
  Increasing (place a as)
  := by
  induction as with
  | nil => simp [place, Increasing]
  | cons b bs ih =>
    unfold Increasing at h ih ⊢
    rw [List.pairwise_cons] at h
    unfold place
    split
    · rename_i hab
      refine List.pairwise_cons.2 ⟨?_, List.pairwise_cons.2 h⟩
      intro x hx
      rcases List.mem_cons.1 hx with rfl | hx
      · exact hab
      · exact ordering_lt_trans hab (h.1 x hx)
    · exact List.pairwise_cons.2 h
    · rename_i hab
      refine List.pairwise_cons.2 ⟨?_, ih h.2⟩
      intro x hx
      rcases mem_place.1 hx with rfl | hx
      · exact ordering_lt_of_gt hab
      · exact h.1 x hx

@[simp]
theorem mem_canonical {x : α} {as : List α} :
  x ∈ canonical as ↔ x ∈ as
  := by
  unfold canonical
  induction as with
  | nil => simp
  | cons a as ih => simp [mem_place, ih]

theorem increasing_canonical (as : List α) :
  Increasing (canonical as)
  := by
  unfold canonical
  induction as with
  | nil => exact List.Pairwise.nil
  | cons a as ih => exact increasing_place ih

/-- Increasing lists with the same members are equal. -/
theorem eq_of_increasing {as bs : List α} (ha : Increasing as) (hb : Increasing bs)
    (h : ∀ x, x ∈ as ↔ x ∈ bs) :
  as = bs
  := by
  induction as generalizing bs with
  | nil =>
    cases bs with
    | nil => rfl
    | cons b bs => simpa using h b
  | cons a as ih =>
    cases bs with
    | nil => simpa using h a
    | cons b bs =>
      unfold Increasing at ha hb
      rw [List.pairwise_cons] at ha hb
      have hab : a = b := by
        rcases List.mem_cons.1 ((h a).1 (by simp)) with hab | hab
        · exact hab
        · rcases List.mem_cons.1 ((h b).2 (by simp)) with hba | hba
          · exact hba.symm
          · exact absurd (ordering_lt_trans (ha.1 b hba) (hb.1 a hab)) (ordering_irrefl a)
      subst hab
      congr 1
      apply ih ha.2 hb.2
      intro x
      constructor
      · intro hx
        rcases List.mem_cons.1 ((h x).1 (List.mem_cons_of_mem a hx)) with rfl | hx'
        · exact absurd (ha.1 x hx) (ordering_irrefl x)
        · exact hx'
      · intro hx
        rcases List.mem_cons.1 ((h x).2 (List.mem_cons_of_mem a hx)) with rfl | hx'
        · exact absurd (hb.1 x hx) (ordering_irrefl x)
        · exact hx'

/-- The canonical list depends on the members only. -/
theorem canonical_congr {as bs : List α} (h : ∀ x, x ∈ as ↔ x ∈ bs) :
  canonical as = canonical bs
  := by
  apply eq_of_increasing (increasing_canonical as) (increasing_canonical bs)
  simpa using h

theorem canonical_of_increasing {as : List α} (h : Increasing as) :
  canonical as = as
  := by
  apply eq_of_increasing (increasing_canonical as) h
  simp

end RelGraph
