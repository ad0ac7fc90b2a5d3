import Mathlib.Data.List.Basic
import RelGraph.Text.Split

/-!
# Texts and their pieces

A text that is cut at a delimiter is made of its pieces, with the delimiter between them.  The pieces
are found again if each of them can be read in front of the delimiter: for a single character, if
it does not occur in them; for the mark `@@`, if the first mark after a piece stands right behind
it, so that the piece has no mark in it and does not end with half of one.
-/

namespace RelGraph.Text

variable {ps : List (List Char)}

/-- A text is made of its first piece, and of the others with the delimiter in front of them. -/
theorem intercalate_cons (sep p : List Char) (ps : List (List Char)) :
  sep.intercalate (p :: ps) = p ++ ps.flatMap (sep ++ ·)
  := by
  induction ps generalizing p with
  | nil => simp
  | cons q ps ih => simp [List.intercalate_cons_cons, ih]

/-! ### A single character -/

theorem split_eq_splitOn (sep : Char) (cs : List Char) :
  split sep cs = cs.splitOn sep
  := by
  induction cs with
  | nil => rfl
  | cons c cs ih =>
    have hcons : (c :: cs).splitOn sep = if c == sep then [] :: cs.splitOn sep
        else (cs.splitOn sep).modifyHead (c :: ·) := List.splitOnP_cons_eq_if_modifyHead c cs
    rw [split, ih, hcons]
    cases hpieces : cs.splitOn sep with
    | nil => apply absurd hpieces (List.splitOnP_ne_nil _ _)
    | cons p ps => simp [consHead]

theorem intercalate_split (sep : Char) (cs : List Char) :
  [sep].intercalate (split sep cs) = cs
  := by
  rw [split_eq_splitOn, List.intercalate_splitOn]

/-- Pieces in which the character does not occur are found again. -/
theorem split_intercalate {sep : Char} (h : ∀ p ∈ ps, sep ∉ p) (hne : ps ≠ []) :
  split sep ([sep].intercalate ps) = ps
  := by
  rw [split_eq_splitOn, List.splitOn_intercalate _ h hne]

theorem mem_of_mem_intercalate {sep c : Char} (h : c ∈ [sep].intercalate ps) :
  c = sep ∨ ∃ p ∈ ps, c ∈ p
  := by
  cases ps with
  | nil => simp at h
  | cons p ps =>
    rw [List.exists_mem_cons_iff]
    rw [intercalate_cons, List.mem_append, List.mem_flatMap] at h
    obtain h | ⟨q, hq, h⟩ := h
    · right; left
      apply h
    · apply (List.mem_cons.1 h).imp_right
      intro hc
      right
      exact ⟨q, hq, hc⟩

theorem splitFirst_cons (sep c : Char) (cs : List Char) :
  splitFirst sep (c :: cs)
    = if c = sep then some ([], cs) else (splitFirst sep cs).map fun p => (c :: p.1, p.2)
  := rfl

theorem splitFirst_eq_some_iff {sep : Char} {cs p rest : List Char} :
  splitFirst sep cs = some (p, rest) ↔ sep ∉ p ∧ cs = p ++ sep :: rest
  := by
  induction cs generalizing p with
  | nil => exact iff_of_false (by rintro ⟨⟩) (by simp)
  | cons c cs ih =>
    rw [splitFirst_cons]
    split
    · rename_i heq
      subst heq
      cases p with
      | nil => simp [eq_comm]
      | cons d p =>
        simp only [Option.some.injEq, Prod.mk.injEq, List.mem_cons, not_or]
        constructor
        · rintro ⟨⟨⟩, -⟩
        · rintro ⟨⟨hne, -⟩, heq⟩
          apply absurd (List.cons.inj heq).1 hne
    · rename_i hne
      rw [Option.map_eq_some_iff]
      constructor
      · rintro ⟨⟨p', rest'⟩, hsplit, heq⟩
        cases heq
        obtain ⟨hp', rfl⟩ := ih.1 hsplit
        simp [hp', Ne.symm hne]
      · rintro ⟨hp, heq⟩
        cases p with
        | nil => apply absurd (List.cons.inj heq).1 hne
        | cons d p =>
          cases heq
          use (p, rest)
          simp only [and_true]
          apply ih.2 ⟨fun hmem => hp (List.mem_cons_of_mem _ hmem), rfl⟩

theorem splitFirst_eq_none_iff {sep : Char} {cs : List Char} :
  splitFirst sep cs = none ↔ sep ∉ cs
  := by
  induction cs with
  | nil => exact iff_of_true rfl List.not_mem_nil
  | cons c cs ih =>
    rw [splitFirst_cons]
    split
    · rename_i heq
      simp [heq]
    · rename_i hne
      rw [Option.map_eq_none_iff, ih]
      simp [Ne.symm hne]

/-! ### Marks -/

/-- The mark between the pieces of a template. -/
def mark : List Char := ['@', '@']

/-- A character at which no mark starts belongs to the first piece. -/
theorem splitMarks_cons {c : Char} {cs : List Char} (h : c = '@' → cs.head? ≠ some '@') :
  splitMarks (c :: cs) = consHead c (splitMarks cs)
  := by
  rw [splitMarks]
  intro cs' hc hcs
  apply h hc
  rw [hcs]
  rfl

theorem intercalate_consHead (c : Char) (h : ps ≠ []) (sep : List Char) :
  sep.intercalate (consHead c ps) = c :: sep.intercalate ps
  := by
  cases ps with
  | nil => apply absurd rfl h
  | cons p ps => rw [consHead, intercalate_cons, intercalate_cons, List.cons_append]

theorem intercalate_splitMarks (cs : List Char) :
  mark.intercalate (splitMarks cs) = cs
  := by
  fun_induction splitMarks cs with
  | case1 => rfl
  | case2 cs ih =>
    obtain ⟨p, ps, hps⟩ := List.exists_cons_of_ne_nil (splitMarks_ne_nil cs)
    rw [hps] at ih ⊢
    rw [List.intercalate_cons_cons, ih]
    rfl
  | case3 c cs _ ih => rw [intercalate_consHead c (splitMarks_ne_nil cs), ih]

/-- The text can be read in front of a mark. -/
def EndsAtMark (p : List Char) : Prop :=
  ∀ rest, splitMarks (p ++ mark ++ rest) = p :: splitMarks rest

theorem endsAtMark_nil :
  EndsAtMark []
  := fun _ => rfl

theorem endsAtMark_cons {c : Char} {p : List Char} (hp : EndsAtMark p)
    (h : c = '@' → (p ++ mark).head? ≠ some '@') :
  EndsAtMark (c :: p)
  := by
  intro rest
  have hcons : splitMarks (c :: (p ++ mark ++ rest)) = consHead c (splitMarks (p ++ mark ++ rest)) := by
    apply splitMarks_cons
    intro hc
    rw [List.head?_append_of_ne_nil _ (by simp [mark])]
    apply h hc
  rw [List.cons_append, List.cons_append, hcons, hp rest, consHead]

theorem endsAtMark_of_not_mem {p : List Char} (h : '@' ∉ p) :
  EndsAtMark p
  := by
  induction p with
  | nil => apply endsAtMark_nil
  | cons c p ih =>
    rw [List.mem_cons, not_or] at h
    apply endsAtMark_cons (ih h.2)
    intro hc
    apply absurd hc (Ne.symm h.1)

theorem splitMarks_of_not_mem {p : List Char} (h : '@' ∉ p) :
  splitMarks p = [p]
  := by
  induction p with
  | nil => rfl
  | cons c p ih =>
    rw [List.mem_cons, not_or] at h
    rw [splitMarks_cons fun hc => absurd hc (Ne.symm h.1), ih h.2, consHead]

/-- What stands before the first mark of a text can be read in front of any mark. -/
theorem endsAtMark_of_splitMarks {cs p q : List Char} (h : splitMarks cs = p :: q :: ps) :
  EndsAtMark p
  := by
  fun_induction splitMarks cs generalizing p with
  | case1 => simp at h
  | case2 cs _ =>
    rw [← (List.cons.inj h).1]
    apply endsAtMark_nil
  | case3 c cs hmark ih =>
    have hcs := intercalate_splitMarks cs
    cases hpieces : splitMarks cs with
    | nil => apply absurd hpieces (splitMarks_ne_nil cs)
    | cons p' ps' =>
      rw [hpieces, consHead] at h
      obtain ⟨rfl, rfl⟩ := List.cons.inj h
      apply endsAtMark_cons (ih hpieces)
      rintro rfl hhead
      -- the text would start with a mark
      rw [hpieces, List.intercalate_cons_cons] at hcs
      rw [← List.head?_append_of_ne_nil _ (by simp [mark]), hcs] at hhead
      obtain ⟨cs', rfl⟩ := List.head?_eq_some_iff.1 hhead
      apply hmark cs' rfl rfl

/-- The pieces of a text: each but the last one can be read in front of a mark, and the last one has
no mark in it. -/
def ArePieces : List (List Char) → Prop
  | [] => False
  | [p] => splitMarks p = [p]
  | p :: q :: ps => EndsAtMark p ∧ ArePieces (q :: ps)

theorem splitMarks_intercalate (h : ArePieces ps) :
  splitMarks (mark.intercalate ps) = ps
  := by
  fun_induction ArePieces ps with
  | case1 => apply h.elim
  | case2 p => rw [List.intercalate_singleton, h]
  | case3 p q ps ih => rw [List.intercalate_cons_cons, h.1, ih h.2]

theorem arePieces_of_not_mem (h : ∀ p ∈ ps, '@' ∉ p) (hne : ps ≠ []) :
  ArePieces ps
  := by
  fun_induction ArePieces ps with
  | case1 => apply hne rfl
  | case2 p => apply splitMarks_of_not_mem (h p (List.mem_singleton_self p))
  | case3 p q ps ih =>
    rw [List.forall_mem_cons] at h
    use endsAtMark_of_not_mem h.1
    apply ih h.2 (List.cons_ne_nil q ps)

theorem arePieces_splitMarks (cs : List Char) :
  ArePieces (splitMarks cs)
  := by
  fun_induction splitMarks cs with
  | case1 => rfl
  | case2 cs ih =>
    obtain ⟨p, ps, hps⟩ := List.exists_cons_of_ne_nil (splitMarks_ne_nil cs)
    rw [hps] at ih ⊢
    use endsAtMark_nil
  | case3 c cs hmark ih =>
    have hcons : splitMarks (c :: cs) = consHead c (splitMarks cs) := by rw [splitMarks]; apply hmark
    have hcs := intercalate_splitMarks cs
    obtain ⟨p, ps, hps⟩ := List.exists_cons_of_ne_nil (splitMarks_ne_nil cs)
    rw [hps] at ih hcs hcons ⊢
    cases ps with
    | nil =>
      rw [List.intercalate_singleton] at hcs
      rw [hcs] at hcons ⊢
      apply hcons
    | cons q ps => use endsAtMark_of_splitMarks hcons, ih.2

end RelGraph.Text
