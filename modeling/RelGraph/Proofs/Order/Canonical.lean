import Mathlib.Data.List.Nodup
import RelGraph.Order.Canonical

/-!
# Members of canonical lists

A canonical list has no repetitions, and two values in both orders are equal.  Pairs whose first
components increase are in increasing order.
-/

namespace RelGraph

open Spelled

variable {α : Type} [Spelled α]

theorem nodup_of_increasing {as : List α} (h : Increasing as) :
  as.Nodup
  := by
  apply h.imp
  intro a b hab heq
  subst heq
  apply ordering_irrefl a hab

/-- The members of a list without repetitions only change their places. -/
theorem perm_canonical {as : List α} (h : as.Nodup) :
  (canonical as).Perm as
  := by
  rw [List.perm_ext_iff_of_nodup (nodup_of_increasing (increasing_canonical as)) h]
  intro a
  apply mem_canonical

omit [Spelled α] in
theorem two_le_length {as : List α} (hnil : as ≠ []) (hsingle : ∀ a, as ≠ [a]) :
  2 ≤ as.length
  := by
  match as with
  | [] => contradiction
  | [a] => exact absurd rfl (hsingle a)
  | _ :: _ :: _ => simp

theorem le_of_not_le {a b : α} (h : ¬ le a b = true) :
  le b a = true
  := by
  unfold le at h ⊢
  rw [← ordering_swap a b]
  cases hab : ordering a b <;> simp [hab] at h ⊢

theorem ordering_lt_of_le {a b : α} (hle : le a b = true) (hne : a ≠ b) :
  ordering a b = .lt
  := by
  rw [ne_eq, ← ordering_eq_iff] at hne
  unfold le at hle
  cases h : ordering a b <;> simp [h] at hle hne ⊢

theorem eq_of_le_of_le {a b : α} (hab : le a b = true) (hba : le b a = true) :
  a = b
  := by
  unfold le at hab hba
  rw [← ordering_eq_iff]
  rw [← ordering_swap a b] at hba
  cases h : ordering a b <;> simp [h] at hab hba ⊢

/-! ### Pairs -/

/-- What follows the words does not matter if they differ before one of them ends. -/
theorem compare_append_of_lt {as bs : List String} (h : compare as bs = .lt) (hne : ¬ as <+: bs)
    (r s : List String) :
  compare (as ++ r) (bs ++ s) = .lt
  := by
  induction as generalizing bs with
  | nil => exact absurd List.nil_prefix hne
  | cons a as ih =>
    cases bs with
    | nil =>
      rw [List.compare_cons_nil] at h
      cases h
    | cons b bs =>
      rw [List.compare_cons_cons, Ordering.then_eq_lt] at h
      rw [List.cons_append, List.cons_append, List.compare_cons_cons, Ordering.then_eq_lt]
      apply h.imp_right
      rintro ⟨heq, hlt⟩
      use heq
      apply ih hlt
      rw [Std.LawfulEqOrd.eq_of_compare heq, List.cons_prefix_cons] at hne
      simpa using hne

variable {β : Type} [Spelled β]

/-- Pairs are ordered by their first components. -/
theorem ordering_pair_of_lt {a b : α} (h : ordering a b = .lt) (x y : β) :
  ordering (a, x) (b, y) = .lt
  := by
  apply compare_append_of_lt h
  rintro ⟨r, hr⟩
  rw [← List.append_nil (words b)] at hr
  obtain ⟨rfl, -⟩ := words_append_inj hr
  apply ordering_irrefl a h

theorem increasing_map_pair {as : List α} (h : Increasing as) (f : α → β) :
  Increasing (as.map fun a => (a, f a))
  := by
  rw [Increasing, List.pairwise_map]
  apply h.imp
  intro a b hab
  apply ordering_pair_of_lt hab

end RelGraph
