import Mathlib.Data.List.Forall2
import RelGraph.Mapping.Template
import RelGraph.Proofs.Mapping.Encoding
import RelGraph.Proofs.Sql.Conditions

/-!
# Conditions of templates

A template gives a text on a row exactly when the text can be cut along the texts of the template
into the values of the row.  The condition for a text follows the first of these cuts, in which
each value is as short as the ones before it allow; it holds on all rows that give the text if there
is no other cut.
-/

namespace RelGraph.Mapping

open Sql Text

namespace Template

variable {ss : List Slot} {cs : List Char} {vs : List (List Char)} {row : Row} {text : String}
  {t : Template}

/-! ### Cuts -/

/-- Values that make up a text, each followed by the text of its place. -/
def IsCut : List Slot → List (List Char) → List Char → Prop
  | [], [], cs => cs = []
  | s :: ss, v :: vs, cs => ∃ rest, cs = v ++ s.text.toList ++ rest ∧ IsCut ss vs rest
  | _, _, _ => False

theorem dropStart?_eq_some_iff {part cs rest : List Char} :
  dropStart? part cs = some rest ↔ cs = part ++ rest
  := by
  fun_induction dropStart? part cs with
  | case1 cs => simp
  | case2 p cs ps ih => simp [ih]
  | case3 p ps c cs h =>
    simp only [reduceCtorEq, List.cons_append, List.cons.injEq, false_iff, not_and]
    intro hc
    apply absurd hc.symm h
  | case4 p ps => simp

theorem cutAt_sound {mark cs value rest : List Char} (h : cutAt mark cs = some (value, rest)) :
  cs = value ++ mark ++ rest
  := by
  induction cs generalizing value with
  | nil =>
    rw [cutAt] at h
    obtain ⟨r, hr, h⟩ := Option.map_eq_some_iff.1 h
    cases h
    rw [dropStart?_eq_some_iff] at hr
    simpa using hr
  | cons c cs ih =>
    rw [cutAt] at h
    split at h
    · rename_i r hr
      cases h
      rw [dropStart?_eq_some_iff] at hr
      simpa using hr
    · obtain ⟨p, hp, h⟩ := Option.map_eq_some_iff.1 h
      cases h
      rw [ih hp]
      rfl

/-- The first occurrence of a text is not after another one. -/
theorem cutAt_complete (mark front rest : List Char) :
  ∃ value after, cutAt mark (front ++ mark ++ rest) = some (value, after) ∧ rest <:+ after
  := by
  induction front with
  | nil =>
    cases hcs : mark ++ rest with
    | nil =>
      obtain ⟨rfl, rfl⟩ := List.append_eq_nil_iff.1 hcs
      use [], []
      simp [cutAt, dropStart?]
    | cons c cs =>
      have hd : dropStart? mark (c :: cs) = some rest := dropStart?_eq_some_iff.2 hcs.symm
      use [], rest
      simp [hcs, cutAt, hd]
  | cons c front ih =>
    obtain ⟨value, after, h, hsuffix⟩ := ih
    rw [List.cons_append, List.cons_append, cutAt]
    split
    · rename_i r hr
      use [], r, rfl
      -- the mark occurs right here, so all that follows the other occurrence is in the rest
      rw [dropStart?_eq_some_iff] at hr
      have hrest : rest <:+ c :: (front ++ mark ++ rest) := by
        use c :: (front ++ mark)
        simp
      have hr' : r <:+ c :: (front ++ mark ++ rest) := by
        use mark
        rw [hr]
      apply List.suffix_of_suffix_length_le hrest hr'
      have hlen := congrArg List.length hr
      simp only [List.length_cons, List.length_append] at hlen
      omega
    · use c :: value, after
      rw [h]
      use rfl

theorem dropEnd?_eq_some_iff {mark cs value : List Char} :
  dropEnd? mark cs = some value ↔ cs = value ++ mark
  := by
  rw [dropEnd?]
  constructor
  · intro h
    split at h
    · rename_i hs
      cases h
      obtain ⟨front, rfl⟩ := List.isSuffixOf_iff_suffix.1 hs
      simp
    · cases h
  · rintro rfl
    rw [if_pos]
    · simp
    · rw [List.isSuffixOf_iff_suffix]
      apply List.suffix_append

/-- What is cut out are values that make up the text. -/
theorem isCut_of_cut? (h : cut? ss cs = some vs) :
  IsCut ss vs cs
  := by
  fun_induction cut? ss cs generalizing vs with
  | case1 cs hcs =>
    cases h
    apply List.isEmpty_iff.1 hcs
  | case2 cs hcs => cases h
  | case3 cs s =>
    obtain ⟨value, hvalue, rfl⟩ := Option.map_eq_some_iff.1 h
    rw [dropEnd?_eq_some_iff] at hvalue
    use []
    exact ⟨by simp [hvalue], rfl⟩
  | case4 cs s s' rest ih =>
    simp only [Option.bind_eq_bind, Option.bind_eq_some_iff, Option.pure_def,
      Option.some.injEq] at h
    obtain ⟨⟨value, cs'⟩, hcut, values, hvalues, rfl⟩ := h
    use cs', cutAt_sound hcut, ih _ hvalues

/-- A text with a cut at its end is cut somehow. -/
theorem cut?_of_isCut_suffix {s : Slot} {cs cs' : List Char} (h : IsCut (s :: ss) vs cs)
    (hsuffix : cs <:+ cs') :
  ∃ ws, cut? (s :: ss) cs' = some ws
  := by
  induction ss generalizing s vs cs cs' with
  | nil =>
    cases vs with
    | nil => cases h
    | cons v vs =>
      obtain ⟨rest, rfl, hrest⟩ := h
      cases vs with
      | cons w ws => cases hrest
      | nil =>
        obtain rfl : rest = [] := hrest
        obtain ⟨front, rfl⟩ := hsuffix
        use [front ++ v]
        rw [cut?, dropEnd?_eq_some_iff.2]
        · rfl
        · simp
  | cons s' ss ih =>
    cases vs with
    | nil => cases h
    | cons v vs =>
      obtain ⟨rest, rfl, hrest⟩ := h
      obtain ⟨front, rfl⟩ := hsuffix
      obtain ⟨value, after, hcut, hafter⟩ := cutAt_complete s.text.toList (front ++ v) rest
      obtain ⟨ws, hws⟩ := ih hrest hafter
      use value :: ws
      rw [cut?]
      simp only [List.append_assoc] at hcut ⊢
      simp [hcut, hws]

theorem cut?_of_isCut (h : IsCut ss vs cs) :
  ∃ ws, cut? ss cs = some ws
  := by
  cases ss with
  | nil =>
    cases vs with
    | nil =>
      obtain rfl : cs = [] := h
      use []
      rfl
    | cons v vs => cases h
  | cons s ss => apply cut?_of_isCut_suffix h List.suffix_rfl

theorem length_of_isCut (h : IsCut ss vs cs) :
  vs.length = ss.length
  := by
  induction ss generalizing vs cs with
  | nil =>
    cases vs with
    | nil => rfl
    | cons v vs => cases h
  | cons s ss ih =>
    cases vs with
    | nil => cases h
    | cons v vs =>
      obtain ⟨rest, -, hrest⟩ := h
      rw [List.length_cons, List.length_cons, ih hrest]

theorem isCut_singleton {s : Slot} :
  IsCut [s] vs cs ↔ ∃ v, vs = [v] ∧ cs = v ++ s.text.toList
  := by
  match vs with
  | [] => simp [IsCut]
  | [v] => simp [IsCut]
  | _ :: _ :: _ => simp [IsCut]

/-! ### The first cut -/

/-- No occurrence of a text is before the one at which it is cut. -/
theorem length_le_of_cutAt {mark cs value rest : List Char}
    (h : cutAt mark cs = some (value, rest)) {front after : List Char}
    (hcs : cs = front ++ mark ++ after) :
  value.length ≤ front.length
  := by
  induction cs generalizing value front with
  | nil =>
    rw [cutAt] at h
    obtain ⟨r, -, h⟩ := Option.map_eq_some_iff.1 h
    cases h
    simp
  | cons c cs ih =>
    rw [cutAt] at h
    split at h
    · cases h
      simp
    · rename_i hnone
      obtain ⟨p, hp, h⟩ := Option.map_eq_some_iff.1 h
      cases h
      cases front with
      | nil =>
        rw [List.nil_append] at hcs
        rw [dropStart?_eq_some_iff.2 hcs] at hnone
        cases hnone
      | cons d front =>
        rw [List.cons_append, List.cons_append, List.cons.injEq] at hcs
        simpa using ih hp hcs.2

theorem eq_of_append_eq {v w mark rest rest' : List Char}
    (h : v ++ mark ++ rest = w ++ mark ++ rest') (hlength : v.length = w.length) :
  v = w ∧ rest = rest'
  := by
  rw [List.append_assoc, List.append_assoc] at h
  obtain ⟨hv, hrest⟩ := List.append_inj h hlength
  use hv, List.append_cancel_left hrest

/-- At the first place where the values differ in length, the first list has the shorter one. -/
def Precedes : List (List Char) → List (List Char) → Prop
  | v :: vs, w :: ws => v.length < w.length ∨ v.length = w.length ∧ Precedes vs ws
  | _, _ => True

theorem Precedes.refl (vs : List (List Char)) :
  Precedes vs vs
  := by
  induction vs with
  | nil => apply True.intro
  | cons v vs ih =>
    right
    use rfl

/-- Of two different cuts of a text one comes before the other. -/
theorem eq_of_precedes {vs ws : List (List Char)} (hvs : IsCut ss vs cs) (hws : IsCut ss ws cs)
    (h : Precedes vs ws) (h' : Precedes ws vs) :
  vs = ws
  := by
  induction ss generalizing vs ws cs with
  | nil =>
    rw [List.length_eq_zero_iff.1 (length_of_isCut hvs),
      List.length_eq_zero_iff.1 (length_of_isCut hws)]
  | cons s ss ih =>
    cases vs with
    | nil => cases hvs
    | cons v vs =>
      cases ws with
      | nil => cases hws
      | cons w ws =>
        obtain ⟨hlength, htail⟩ := h.resolve_left fun hlt =>
          h'.elim (Nat.lt_asymm hlt) fun h' => Nat.ne_of_gt hlt h'.1
        obtain ⟨rest, rfl, hrest⟩ := hvs
        obtain ⟨rest', hcs, hrest'⟩ := hws
        obtain ⟨rfl, rfl⟩ := eq_of_append_eq hcs hlength
        rw [ih hrest hrest' htail (h'.resolve_left (Nat.lt_irrefl _)).2]

/-- Of all the cuts of a text, the one with the shortest value at the first place, then at the
second one, and so on. -/
def IsFirstCut (ss : List Slot) (vs : List (List Char)) (cs : List Char) : Prop :=
  IsCut ss vs cs ∧ ∀ ws, IsCut ss ws cs → Precedes vs ws

theorem precedes_of_cut? {vs ws : List (List Char)} (h : cut? ss cs = some vs)
    (hws : IsCut ss ws cs) :
  Precedes vs ws
  := by
  fun_induction cut? ss cs generalizing vs ws with
  | case1 cs hcs =>
    cases h
    apply True.intro
  | case2 cs hcs => cases h
  | case3 cs s =>
    obtain ⟨value, hvalue, rfl⟩ := Option.map_eq_some_iff.1 h
    obtain ⟨w, rfl, hw⟩ := isCut_singleton.1 hws
    rw [dropEnd?_eq_some_iff.1 hvalue, List.append_cancel_right_eq] at hw
    rw [hw]
    apply Precedes.refl
  | case4 cs s s' rest ih =>
    simp only [Option.bind_eq_bind, Option.bind_eq_some_iff, Option.pure_def,
      Option.some.injEq] at h
    obtain ⟨⟨value, cs'⟩, hcut, values, hvalues, rfl⟩ := h
    cases ws with
    | nil => cases hws
    | cons w ws =>
      obtain ⟨after, hcs, hafter⟩ := hws
      apply (Nat.lt_or_eq_of_le (length_le_of_cutAt hcut hcs)).imp_right
      -- both cuts have the same value here, and leave the same text over
      intro hlength
      rw [cutAt_sound hcut] at hcs
      obtain ⟨-, rfl⟩ := eq_of_append_eq hcs hlength
      use hlength, ih _ hvalues hafter

/-- What is cut out is the first cut. -/
theorem cut?_eq_some_iff :
  cut? ss cs = some vs ↔ IsFirstCut ss vs cs
  := by
  constructor
  · intro h
    use isCut_of_cut? h
    intro ws
    apply precedes_of_cut? h
  · rintro ⟨hcut, hfirst⟩
    obtain ⟨ws, hws⟩ := cut?_of_isCut hcut
    have hcut' := isCut_of_cut? hws
    rw [eq_of_precedes hcut hcut' (hfirst ws hcut') (precedes_of_cut? hws hcut), hws]

/-! ### Cuts along a template -/

/-- The values into which a text can be cut along the texts of a template. -/
def Cuts (t : Template) (text : String) (vs : List (List Char)) : Prop :=
  ∃ cs, text.toList = t.head.toList ++ cs ∧ IsCut t.slots vs cs

/-- A text can be cut along the texts of a template in one way only. -/
def CutsOnce (t : Template) (text : String) : Prop :=
  ∀ vs ws, t.Cuts text vs → t.Cuts text ws → vs = ws

/-- What is at a single place is all that the other texts leave over. -/
theorem cutsOnce_singleton (head : String) (s : Slot) (text : String) :
  CutsOnce ⟨head, [s]⟩ text
  := by
  rintro vs ws ⟨cs, hcs, hvs⟩ ⟨ds, hds, hws⟩
  obtain ⟨v, rfl, rfl⟩ := isCut_singleton.1 hvs
  obtain ⟨w, rfl, rfl⟩ := isCut_singleton.1 hws
  rw [hcs, List.append_cancel_left_eq, List.append_cancel_right_eq] at hds
  rw [hds]

/-- Two places are told apart by a character between them that occurs once. -/
theorem cutsOnce_pair {head text : String} {s s' : Slot} (c : Char) (front rest : List Char)
    (hs : s.text.toList = [c]) (htext : text.toList = head.toList ++ (front ++ c :: rest))
    (hfront : c ∉ front) (hrest : c ∉ rest) :
  CutsOnce ⟨head, [s, s']⟩ text
  := by
  have hcut : ∀ vs, Cuts ⟨head, [s, s']⟩ text vs
      → ∃ w, vs = [front, w] ∧ rest = w ++ s'.text.toList := by
    rintro (_ | ⟨v, vs⟩) ⟨cs, hcs, hvs⟩
    · cases hvs
    · obtain ⟨after, rfl, hafter⟩ := hvs
      obtain ⟨w, rfl, rfl⟩ := isCut_singleton.1 hafter
      rw [htext, List.append_cancel_left_eq, hs, List.append_assoc, List.singleton_append,
        List.append_cons_inj_of_notMem hfront hrest] at hcs
      exact ⟨w, by rw [hcs.1], hcs.2.2⟩
  intro vs ws hvs hws
  obtain ⟨v, rfl, hv⟩ := hcut vs hvs
  obtain ⟨w, rfl, hw⟩ := hcut ws hws
  rw [hv, List.append_cancel_right_eq] at hw
  rw [hw]

/-! ### Filling -/

/-- A place is filled with a text: the text is the writing of its value. -/
def Filled (row : Row) (s : Slot) (v : List Char) : Prop :=
  ∃ value, row.get? s.column = some value ∧ (s.encoding.encode value).toList = v

theorem fillSlots_eq_some_iff :
  fillSlots row ss = some text
    ↔ ∃ vs, IsCut ss vs text.toList ∧ List.Forall₂ (Filled row) ss vs
  := by
  induction ss generalizing text with
  | nil =>
    rw [fillSlots]
    constructor
    · rintro h
      cases h
      use []
      simp [IsCut]
    · rintro ⟨vs, hcut, hvs⟩
      cases hvs
      rw [IsCut, String.toList_eq_nil_iff] at hcut
      rw [hcut]
  | cons s ss ih =>
    rw [fillSlots]
    simp only [Option.bind_eq_bind, Option.bind_eq_some_iff, Option.pure_def, Option.some.injEq,
      ih]
    constructor
    · rintro ⟨value, hvalue, tail, ⟨vs, hcut, hvs⟩, rfl⟩
      use (s.encoding.encode value).toList :: vs
      constructor
      · use tail.toList
        simp [hcut]
      · apply List.Forall₂.cons _ hvs
        use value
    · rintro ⟨vs, hcut, hvs⟩
      cases hvs with
      | cons hv hvs =>
        rename_i v vs
        obtain ⟨value, hvalue, rfl⟩ := hv
        obtain ⟨rest, hrest, hcut⟩ := hcut
        use value, hvalue, String.ofList rest
        constructor
        · use vs
          simp [hcut, hvs]
        · apply String.toList_injective
          simp [hrest]

/-- A template gives a text exactly when the text can be cut into writings of the values. -/
theorem fill?_eq_some_iff :
  t.fill? row = some text ↔ ∃ vs, t.Cuts text vs ∧ List.Forall₂ (Filled row) t.slots vs
  := by
  rw [fill?, Option.map_eq_some_iff]
  simp only [fillSlots_eq_some_iff]
  constructor
  · rintro ⟨rest, ⟨vs, hcut, hvs⟩, rfl⟩
    use vs
    constructor
    · use rest.toList
      simp [hcut]
    · apply hvs
  · rintro ⟨vs, ⟨cs, hcs, hcut⟩, hvs⟩
    use String.ofList cs
    constructor
    · use vs
      simp [hcut, hvs]
    · apply String.toList_injective
      simp [hcs]

/-! ### Conditions -/

/-- The condition of a place is true exactly when it is filled with the text. -/
theorem truthOn_slotCondition_eq_true {s : Slot} {v : List Char} :
  Expr.truthOn row (slotCondition s v) = some true ↔ Filled row s v
  := by
  rw [slotCondition, Filled]
  split
  · rename_i value hvalue
    rw [Expr.truthOn_columnIs_eq_true]
    constructor
    · intro h
      use value, h
      rw [Encoding.encode_of_decode? hvalue, String.toList_ofList]
    · rintro ⟨value', h, rfl⟩
      rw [String.ofList_toList, Encoding.decode?_encode] at hvalue
      cases hvalue
      apply h
  · rename_i hnone
    simp only [Expr.truthOn_never, Option.some.injEq, Bool.false_eq_true, false_iff]
    rintro ⟨value, -, rfl⟩
    rw [String.ofList_toList, Encoding.decode?_encode] at hnone
    cases hnone

theorem truthOn_zipWith_eq_true (h : vs.length = ss.length) :
  Expr.truthOn row (Expr.andAll (ss.zipWith slotCondition vs)) = some true
    ↔ List.Forall₂ (Filled row) ss vs
  := by
  rw [Expr.truthOn_andAll, Sparql.allTrue_eq_true_iff]
  induction ss generalizing vs with
  | nil =>
    rw [List.length_eq_zero_iff.1 h]
    simp
  | cons s ss ih =>
    cases vs with
    | nil => cases h
    | cons v vs =>
      rw [List.length_cons, List.length_cons, Nat.add_right_cancel_iff] at h
      rw [List.zipWith_cons_cons, List.map_cons, List.forall_mem_cons, ih h,
        truthOn_slotCondition_eq_true, List.forall₂_cons]

/-- The condition for a text is true exactly where the places are filled with the first cut of the
text. -/
theorem truthOn_conditionFor_iff :
  Expr.truthOn row (t.conditionFor text) = some true
    ↔ ∃ cs vs, text.toList = t.head.toList ++ cs ∧ IsFirstCut t.slots vs cs
      ∧ List.Forall₂ (Filled row) t.slots vs
  := by
  simp only [← dropStart?_eq_some_iff, ← cut?_eq_some_iff]
  rw [conditionFor]
  cases hcs : dropStart? t.head.toList text.toList with
  | none => simp
  | some cs =>
    cases hvs : cut? t.slots cs with
    | none => simp [hvs]
    | some vs => simp [hvs, truthOn_zipWith_eq_true (length_of_isCut (isCut_of_cut? hvs))]

/-- A row on which the condition for a text is true gives the text. -/
theorem fill?_of_truthOn_conditionFor (h : Expr.truthOn row (t.conditionFor text) = some true) :
  t.fill? row = some text
  := by
  obtain ⟨cs, vs, hcs, hcut, hvs⟩ := truthOn_conditionFor_iff.1 h
  rw [fill?_eq_some_iff]
  exact ⟨vs, ⟨cs, hcs, hcut.1⟩, hvs⟩

/-- On a row that gives a text which can be cut in one way only, the condition is true. -/
theorem truthOn_conditionFor_of_fill? (honce : t.CutsOnce text) (h : t.fill? row = some text) :
  Expr.truthOn row (t.conditionFor text) = some true
  := by
  obtain ⟨vs, ⟨cs, hcs, hcut⟩, hvs⟩ := fill?_eq_some_iff.1 h
  have hfirst : IsFirstCut t.slots vs cs := by
    use hcut
    intro ws hws
    rw [honce vs ws ⟨cs, hcs, hcut⟩ ⟨cs, hcs, hws⟩]
    apply Precedes.refl
  rw [truthOn_conditionFor_iff]
  use cs, vs, hcs, hfirst, hvs

end Template

end RelGraph.Mapping
