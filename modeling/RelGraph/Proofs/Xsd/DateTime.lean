import Mathlib.Tactic.Common
import RelGraph.Text.Split
import RelGraph.Xsd.DateTime

/-!
# Points in time with a space

A text that stands for a point in time has a single `T`, since all that is read before and after
it consists of digits and other signs.  So the text in which a space stands for the `T` can be
recovered from it.
-/

namespace RelGraph.Xsd.DateTime

variable {cs rest : List Char}

/-- What is left after reading follows some characters without a `T`. -/
def LeavesAfter (cs rest : List Char) : Prop := ∃ front, cs = front ++ rest ∧ 'T' ∉ front

theorem LeavesAfter.refl (cs : List Char) :
  LeavesAfter cs cs
  := by
  use []
  simp

theorem LeavesAfter.trans {as bs cs : List Char} (h : LeavesAfter as bs)
    (h' : LeavesAfter bs cs) :
  LeavesAfter as cs
  := by
  obtain ⟨front, rfl, hfront⟩ := h
  obtain ⟨front', rfl, hfront'⟩ := h'
  use front ++ front'
  simp [hfront, hfront']

theorem LeavesAfter.cons {c : Char} (hc : c ≠ 'T') (h : LeavesAfter cs rest) :
  LeavesAfter (c :: cs) rest
  := by
  obtain ⟨front, rfl, hfront⟩ := h
  use c :: front
  simp [hfront, Ne.symm hc]

theorem leavesAfter_dropWhile_isDigit (cs : List Char) :
  LeavesAfter cs (cs.dropWhile Char.isDigit)
  := by
  induction cs with
  | nil => apply LeavesAfter.refl
  | cons c cs ih =>
    rw [List.dropWhile_cons]
    split
    · rename_i hc
      apply ih.cons
      rintro rfl
      revert hc
      decide
    · apply LeavesAfter.refl

theorem leavesAfter_twoDigits? {n : Nat} (h : twoDigits? cs = some (n, rest)) :
  LeavesAfter cs rest
  := by
  simp only [twoDigits?, Option.ite_none_right_eq_some, Option.some.injEq, Prod.mk.injEq] at h
  obtain ⟨hlength, -, rfl⟩ := h
  have hdrop : cs.drop 2 = cs.dropWhile Char.isDigit := by
    calc cs.drop 2
        = (cs.takeWhile Char.isDigit ++ cs.dropWhile Char.isDigit).drop 2 := by
          rw [List.takeWhile_append_dropWhile]
      _ = cs.dropWhile Char.isDigit := List.drop_left' hlength
  rw [hdrop]
  apply leavesAfter_dropWhile_isDigit

theorem leavesAfter_expect? {c : Char} (hc : c ≠ 'T') (h : expect? c cs = some rest) :
  LeavesAfter cs rest
  := by
  cases cs with
  | nil => cases h
  | cons d cs =>
    simp only [expect?, Option.ite_none_right_eq_some, Option.some.injEq] at h
    obtain ⟨rfl, rfl⟩ := h
    apply (LeavesAfter.refl cs).cons hc

theorem leavesAfter_year? {y : Int} (h : year? cs = some (y, rest)) :
  LeavesAfter cs rest
  := by
  unfold year? at h
  split at h
  rename_i sign cs' hsign
  -- what follows the sign, if there is one
  have hcs' : LeavesAfter cs cs' := by
    split at hsign
    · cases hsign
      apply (LeavesAfter.refl _).cons (by decide)
    · cases hsign
      apply LeavesAfter.refl
  simp only [Option.ite_none_left_eq_some, Option.map_eq_some_iff, Prod.mk.injEq] at h
  obtain ⟨-, n, -, -, rfl⟩ := h
  apply hcs'.trans (leavesAfter_dropWhile_isDigit cs')

theorem leavesAfter_date? {d : Int × Nat × Nat} (h : date? cs = some (d, rest)) :
  LeavesAfter cs rest
  := by
  simp only [date?, Option.bind_eq_bind, Option.bind_eq_some_iff, Prod.exists,
    Option.ite_none_right_eq_some, Option.some.injEq, Prod.mk.injEq] at h
  obtain ⟨year, cs₁, h₁, cs₂, h₂, month, cs₃, h₃, cs₄, h₄, day, cs₅, h₅, -, -, rfl⟩ := h
  apply (leavesAfter_year? h₁).trans
  apply (leavesAfter_expect? (by decide) h₂).trans
  apply (leavesAfter_twoDigits? h₃).trans
  apply (leavesAfter_expect? (by decide) h₄).trans
  apply leavesAfter_twoDigits? h₅

theorem leavesAfter_seconds? {d : Decimal} (h : seconds? cs = some (d, rest)) :
  LeavesAfter cs rest
  := by
  apply (leavesAfter_dropWhile_isDigit cs).trans
  simp only [seconds?, Option.bind_eq_bind] at h
  split at h
  · rename_i after heq
    rw [heq]
    simp only [Option.bind_none, Option.bind_some, Option.ite_none_left_eq_some,
      Option.bind_eq_some_iff, Option.pure_def, Option.some.injEq, Prod.mk.injEq] at h
    obtain ⟨-, -, second, -, -, rfl⟩ := h
    apply (leavesAfter_dropWhile_isDigit after).cons (by decide)
  · simp only [Option.bind_some, Option.ite_none_left_eq_some, Option.bind_eq_some_iff,
      Option.pure_def, Option.some.injEq, Prod.mk.injEq] at h
    obtain ⟨-, second, -, -, rfl⟩ := h
    apply LeavesAfter.refl

theorem leavesAfter_time? {t : Nat × Nat × Decimal} (h : time? cs = some (t, rest)) :
  LeavesAfter cs rest
  := by
  simp only [time?, Option.bind_eq_bind, Option.bind_eq_some_iff, Prod.exists,
    Option.ite_none_right_eq_some, Option.some.injEq, Prod.mk.injEq] at h
  obtain ⟨hour, cs₁, h₁, cs₂, h₂, minute, cs₃, h₃, cs₄, h₄, second, cs₅, h₅, -, -, rfl⟩ := h
  apply (leavesAfter_twoDigits? h₁).trans
  apply (leavesAfter_expect? (by decide) h₂).trans
  apply (leavesAfter_twoDigits? h₃).trans
  apply (leavesAfter_expect? (by decide) h₄).trans
  apply leavesAfter_seconds? h₅

theorem leavesAfter_splitSign (cs : List Char) :
  LeavesAfter cs (splitSign cs).2
  := by
  unfold splitSign
  split
  · apply (LeavesAfter.refl _).cons (by decide)
  · apply (LeavesAfter.refl _).cons (by decide)
  · apply LeavesAfter.refl

/-- A time zone has no `T`. -/
theorem notMem_of_offset? {cs : List Char} {o : Option Int} (h : offset? cs = some o) :
  'T' ∉ cs
  := by
  unfold offset? at h
  split at h
  · simp
  · decide
  · simp only [Option.bind_eq_bind, Option.bind_eq_some_iff, Prod.exists,
      Option.ite_none_right_eq_some, Option.some.injEq, Bool.and_eq_true] at h
    obtain ⟨hours, cs₁, h₁, cs₂, h₂, minutes, cs₃, h₃, ⟨⟨hnil, -⟩, -⟩, -⟩ := h
    have hall : LeavesAfter cs cs₃ := by
      apply (leavesAfter_splitSign cs).trans
      apply (leavesAfter_twoDigits? h₁).trans
      apply (leavesAfter_expect? (by decide) h₂).trans
      apply leavesAfter_twoDigits? h₃
    obtain ⟨front, heq, hfront⟩ := hall
    rw [List.isEmpty_iff.1 hnil, List.append_nil] at heq
    rw [heq]
    apply hfront

/-- A text that stands for a point in time has no `T` but the one after the date. -/
theorem exists_of_parse? {s : String} (h : (parse? s).isSome) :
  ∃ front rest, s.toList = front ++ 'T' :: rest ∧ 'T' ∉ front ∧ 'T' ∉ rest
  := by
  obtain ⟨t, ht⟩ := Option.isSome_iff_exists.1 h
  simp only [parse?, Option.bind_eq_bind, Option.bind_eq_some_iff, Prod.exists] at ht
  obtain ⟨year, month, day, cs₁, h₁, cs₂, h₂, hour, minute, second, cs₃, h₃, o, h₄, -⟩ := ht
  obtain ⟨front, heq, hfront⟩ := leavesAfter_date? h₁
  obtain ⟨front', rfl, hfront'⟩ := leavesAfter_time? h₃
  use front, front' ++ cs₃
  constructor
  · cases cs₁ with
    | nil => cases h₂
    | cons c cs =>
      simp only [expect?, Option.ite_none_right_eq_some, Option.some.injEq] at h₂
      rw [heq, h₂.1, h₂.2]
  · use hfront
    simp [hfront', notMem_of_offset? h₄]

open Text

theorem replaceFirst_of_notMem {old new : Char} {cs : List Char} (h : old ∉ cs) :
  replaceFirst old new cs = cs
  := by
  induction cs with
  | nil => rfl
  | cons c cs ih =>
    rw [List.mem_cons, not_or] at h
    rw [replaceFirst, if_neg (Ne.symm h.1), ih h.2]

theorem replaceFirst_append {old new : Char} {front : List Char} (h : old ∉ front)
    (rest : List Char) :
  replaceFirst old new (front ++ old :: rest) = front ++ new :: rest
  := by
  induction front with
  | nil => simp [replaceFirst]
  | cons c front ih =>
    rw [List.mem_cons, not_or] at h
    rw [List.cons_append, replaceFirst, if_neg (Ne.symm h.1), ih h.2, List.cons_append]

/-- A text from which a point in time is read, with a space for its `T` or not, is the one that is
read or this one with a space for the `T`. -/
theorem eq_of_replaceFirst {text form : String}
    (hform : String.ofList (replaceFirst ' ' 'T' text.toList) = form)
    (h : (parse? form).isSome) :
  text = form ∨ text = String.ofList (replaceFirst 'T' ' ' form.toList)
  := by
  by_cases hspace : ' ' ∈ text.toList
  · right
    obtain ⟨before, after, htext, hbefore⟩ := List.eq_append_cons_of_mem hspace
    rw [htext, replaceFirst_append hbefore] at hform
    obtain ⟨front, rest, heq, hfront, hrest⟩ := exists_of_parse? h
    rw [← hform, String.toList_ofList] at heq ⊢
    -- the `T` that stands for the space is the only one
    have hcount := congrArg (List.count 'T') heq
    simp only [List.count_append, List.count_cons_self, List.count_eq_zero_of_not_mem hfront,
      List.count_eq_zero_of_not_mem hrest] at hcount
    have hT : 'T' ∉ before := by
      rw [← List.count_eq_zero]
      omega
    apply String.toList_injective
    rw [replaceFirst_append hT, String.toList_ofList, htext]
  · left
    rw [replaceFirst_of_notMem hspace, String.ofList_toList] at hform
    apply hform

end RelGraph.Xsd.DateTime
