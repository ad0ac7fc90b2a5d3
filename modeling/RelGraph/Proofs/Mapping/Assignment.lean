import RelGraph.Proofs.Mapping.Candidates
import RelGraph.Proofs.Mapping.Occurrences
import RelGraph.Proofs.Mapping.SolutionMap

/-!
# Assignments of triple maps to patterns

An assignment has a condition under which the occurrences of each variable agree, and the variables
whose terms still have to be compared.  The bindings of its solution map are those that give each
occurrence of a variable its term, on the picks that are in all the assigned triple maps.
-/

namespace RelGraph.Mapping

open Rdf Sql

/-! ### Occurrences of candidates -/

theorem Choice.mem_occurrences_iff {c : Choice} {v : Variable} {t : TermMap} :
  (v, t) ∈ c.occurrences ↔ (.variable v, t) ∈ c.1.positions.zip c.2.termMaps
  := by
  simp only [occurrences, List.mem_filterMap, Option.map_eq_some_iff, Prod.mk.injEq]
  constructor
  · rintro ⟨⟨x, u⟩, hx, w, hw, rfl, rfl⟩
    cases x with
    | term u => cases hw
    | _ =>
      cases hw
      apply hx
  · intro h
    use (.variable v, t), h, v, rfl, rfl

namespace TripleMap.OutlineOf

variable {m c : TripleMap} {p : TriplePattern} {k : Option Nat}

theorem zip_termMaps (h : m.OutlineOf p k c) :
  p.positions.zip c.termMaps
    = (m.places p).map fun q => (q.1, (atPosition q.1 q.2).rename (Column.view k))
  := by
  rw [h.termMaps]
  rfl

/-- The occurrences are the term maps at the variables of the pattern. -/
theorem mem_occurrences_iff (h : m.OutlineOf p k c) {v : Variable} {u : TermMap} :
  (v, u) ∈ Choice.occurrences (p, c)
    ↔ ∃ t, (.variable v, t) ∈ m.places p ∧ u = t.rename (Column.view k)
  := by
  rw [Choice.mem_occurrences_iff, h.zip_termMaps, List.mem_map]
  constructor
  · rintro ⟨⟨x, t⟩, hq, heq⟩
    cases heq
    use t, hq
    rfl
  · rintro ⟨t, hq, rfl⟩
    use (.variable v, t), hq
    rfl

/-- The columns that are read are those of the occurrences. -/
theorem mem_projections_iff (h : m.OutlineOf p k c) {x : Column} :
  x ∈ c.relation.projections ↔ ∃ o ∈ Choice.occurrences (p, c), x ∈ o.2.columns
  := by
  rw [h.projections, columns, h.termMaps]
  simp only [List.mem_flatMap, List.mem_map, exists_exists_and_eq_and]
  constructor
  · rintro ⟨⟨y, t⟩, hq, hx⟩
    cases y with
    | term u => cases hx
    | _ => exact ⟨_, h.mem_occurrences_iff.2 ⟨t, hq, rfl⟩, hx⟩
  · rintro ⟨⟨v, u⟩, ho, hx⟩
    obtain ⟨t, hq, rfl⟩ := h.mem_occurrences_iff.1 ho
    use (.variable v, t), hq, hx

end TripleMap.OutlineOf

theorem mapM_eq_some {α β : Type} {f : α → Option β} {as : List α} {bs : List β} :
  as.mapM f = some bs ↔ List.Forall₂ (fun a b => f a = some b) as bs
  := by
  induction as generalizing bs with
  | nil => simp [eq_comm]
  | cons a as ih =>
    simp only [List.mapM_cons, Option.bind_eq_bind, Option.bind_eq_some_iff, Option.pure_def,
      Option.some.injEq, List.forall₂_cons_left_iff, ← ih]
    constructor
    · rintro ⟨b, hb, bs, hbs, rfl⟩
      use b, bs
    · rintro ⟨b, bs, hb, hbs, rfl⟩
      use b, hb, bs

namespace Assignment

/-! ### Agreement of the occurrences of a variable -/

/-- What is known of the condition under which the occurrences of a variable agree. -/
structure Agrees (occurrences : List (Variable × TermMap)) (v : Variable) (condition : Expr)
    (compared : Bool) : Prop where
  isCondition : condition.isCondition = true
  reads : ∀ c ∈ condition.columnList, ∃ m, (v, m) ∈ occurrences ∧ c ∈ m.columns
  same : compared = false → ∀ cells, Expr.HoldsAt cells condition
    → ∀ m m', (v, m) ∈ occurrences → (v, m') ∈ occurrences → m.makeAt cells = m'.makeAt cells
  mentions : compared = false → ∀ m, (v, m) ∈ occurrences → ∀ c ∈ m.columns,
    c ∈ condition.columnList ∨ ∀ m', (v, m') ∈ occurrences → c ∈ m'.columns

section

variable {occurrences : List (Variable × TermMap)} {v : Variable} {condition : Expr}
  {compared : Bool}

theorem mem_filter_map {m : TermMap} :
  m ∈ (occurrences.filter fun o => o.1 = v).map (·.2) ↔ (v, m) ∈ occurrences
  := by
  simp [List.mem_map, List.mem_filter]

/-- A single occurrence agrees with itself. -/
theorem eq_of_length_le_one
    (h : ((occurrences.filter fun o => o.1 = v).map (·.2)).length ≤ 1) {m m' : TermMap}
    (hm : (v, m) ∈ occurrences) (hm' : (v, m') ∈ occurrences) :
  m = m'
  := by
  apply mem_filter_map.2 at hm
  apply mem_filter_map.2 at hm'
  generalize (occurrences.filter fun o => o.1 = v).map (·.2) = ms at h hm hm'
  obtain _ | ⟨x, _ | ⟨y, ms⟩⟩ := ms
  · cases hm
  · rw [List.mem_singleton] at hm hm'
    rw [hm, hm']
  · simp at h

theorem agrees_of_agreement? (h : agreement? occurrences v = some (condition, compared)) :
  Agrees occurrences v condition compared
  := by
  simp only [agreement?] at h
  split at h
  · rename_i hlength
    cases h
    constructor
    · rfl
    · intro c hc
      cases hc
    · intro _ cells _ m m' hm hm'
      rw [eq_of_length_le_one hlength hm hm']
    · intro _ m hm c hc
      right
      intro m' hm'
      rw [← eq_of_length_le_one hlength hm hm']
      apply hc
  · rename_i hlength
    obtain ⟨m, hm⟩ : ∃ m, m ∈ (occurrences.filter fun o => o.1 = v).map (·.2) := by
      apply List.exists_mem_of_length_pos
      omega
    have hverdict := Occurrences.verdict_ofList hm
    have hreads : ∀ c ∈ ((occurrences.filter fun o => o.1 = v).map (·.2)).flatMap TermMap.columns,
        ∃ m, (v, m) ∈ occurrences ∧ c ∈ m.columns := by
      intro c hc
      obtain ⟨m, hm, hc⟩ := List.mem_flatMap.1 hc
      use m, mem_filter_map.1 hm
    split at h
    · cases h
    · rename_i heq
      cases h
      rw [heq] at hverdict
      obtain ⟨hcondition, hcolumns⟩ := hverdict.readsOnly (.inl rfl)
      constructor
      · apply hcondition
      · intro c hc
        apply hreads c (hcolumns c hc)
      · intro _ cells hcells m m' hm hm'
        apply hverdict.makeAt_eq rfl hcells (mem_filter_map.2 hm) (mem_filter_map.2 hm')
      · intro _ m hm c hc
        apply (hverdict.mentions rfl (mem_filter_map.2 hm) hc).imp_right
        intro hall m' hm'
        apply hall m' (mem_filter_map.2 hm')
    · rename_i heq
      cases h
      rw [heq] at hverdict
      obtain ⟨hcondition, hcolumns⟩ := hverdict.readsOnly (.inr rfl)
      constructor
      · apply hcondition
      · intro c hc
        apply hreads c (hcolumns c hc)
      · simp
      · simp

/-- Occurrences that give the same term can agree, and the condition is true. -/
theorem exists_agreement? {cells : Column → Cell} {t : Term}
    (hlower : ∀ m, (v, m) ∈ occurrences → m.LowerCase)
    (hclear : ∀ m, (v, m) ∈ occurrences → m.UnambiguousAt cells)
    (hshape : ∀ m m', (v, m) ∈ occurrences → (v, m') ∈ occurrences → m.Comparable m')
    (hmake : ∀ m, (v, m) ∈ occurrences → m.makeAt cells = some t) :
  ∃ condition compared, agreement? occurrences v = some (condition, compared)
    ∧ Expr.HoldsAt cells condition
  := by
  simp only [agreement?]
  split
  · exact ⟨.always, false, rfl, Expr.holdsAt_always⟩
  · rename_i hlength
    obtain ⟨m, hm⟩ : ∃ m, m ∈ (occurrences.filter fun o => o.1 = v).map (·.2) := by
      apply List.exists_mem_of_length_pos
      omega
    obtain ⟨condition, hcondition, heq | heq⟩ := (Occurrences.verdict_ofList hm).holdsAt hm
      (fun m hm => hlower m (mem_filter_map.1 hm)) (fun m hm => hclear m (mem_filter_map.1 hm))
      (fun m hm m' hm' => hshape m m' (mem_filter_map.1 hm) (mem_filter_map.1 hm'))
      (fun m hm => hmake m (mem_filter_map.1 hm))
    · exact ⟨condition, false, by rw [heq], hcondition⟩
    · exact ⟨condition, true, by rw [heq], hcondition⟩

end

/-! ### Agreement of all occurrences -/

/-- The assignment of the given choices; none if the occurrences of a variable can not agree. -/
def ofChoices? (choices : List Choice) : Option Assignment := do
  let occurrences := choices.flatMap Choice.occurrences
  let vs := canonical (occurrences.map (·.1))
  let agreements ← vs.mapM (agreement? occurrences)
  return {
    choices
    condition := Expr.andAll (agreements.map (·.1))
    compared := (vs.zip agreements).filterMap fun p => if p.2.2 then some p.1 else none }

theorem extend?_eq (a : Assignment) (c : Choice) :
  a.extend? c = ofChoices? (a.choices ++ [c])
  := rfl

/-- What is known of the condition under which the occurrences of every variable agree. -/
structure AgreesAll (occurrences : List (Variable × TermMap)) (condition : Expr)
    (compared : List Variable) : Prop where
  isCondition : condition.isCondition = true
  reads : ∀ c ∈ condition.columnList, ∃ o ∈ occurrences, c ∈ o.2.columns
  same : ∀ v ∉ compared, ∀ cells, Expr.HoldsAt cells condition
    → ∀ m m', (v, m) ∈ occurrences → (v, m') ∈ occurrences → m.makeAt cells = m'.makeAt cells
  mentions : condition ≠ .never → ∀ v ∉ compared, ∀ m, (v, m) ∈ occurrences → ∀ c ∈ m.columns,
    c ∈ condition.columnList ∨ ∀ m', (v, m') ∈ occurrences → c ∈ m'.columns

theorem mem_zip_of_forall₂ {α β : Type} {f : α → Option β} {as : List α} {bs : List β}
    (h : List.Forall₂ (fun a b => f a = some b) as bs) {a : α} {b : β} :
  (a, b) ∈ as.zip bs ↔ a ∈ as ∧ f a = some b
  := by
  induction h with
  | nil => simp
  | @cons a' b' as bs hab _ ih =>
    rw [List.zip_cons_cons, List.mem_cons, List.mem_cons, ih, Prod.mk.injEq]
    constructor
    · rintro (⟨rfl, rfl⟩ | ⟨ha, hb⟩)
      · exact ⟨.inl rfl, hab⟩
      · exact ⟨.inr ha, hb⟩
    · rintro ⟨rfl | ha, hb⟩
      · left
        use rfl
        rw [hab] at hb
        cases hb
        rfl
      · exact .inr ⟨ha, hb⟩

section

variable {occurrences : List (Variable × TermMap)} {agreements : List (Expr × Bool)}

/-- The conditions of the variables taken together. -/
theorem agreesAll_of_forall₂ (h : List.Forall₂ (fun v b => agreement? occurrences v = some b)
    (canonical (occurrences.map (·.1))) agreements) :
  AgreesAll occurrences (Expr.andAll (agreements.map (·.1)))
    (((canonical (occurrences.map (·.1))).zip agreements).filterMap fun p =>
      if p.2.2 then some p.1 else none)
  := by
  have hzip : ∀ {v b}, (v, b) ∈ (canonical (occurrences.map (·.1))).zip agreements
      ↔ (∃ m, (v, m) ∈ occurrences) ∧ agreement? occurrences v = some b := by
    intro v b
    rw [mem_zip_of_forall₂ h, mem_canonical]
    simp
  have hvs : canonical (occurrences.map (·.1))
      = ((canonical (occurrences.map (·.1))).zip agreements).map (·.1) :=
    (List.map_fst_zip (Nat.le_of_eq h.length_eq)).symm
  have hconditions : agreements.map (·.1)
      = ((canonical (occurrences.map (·.1))).zip agreements).map fun p => p.2.1 := by
    nth_rewrite 1 [← List.map_snd_zip (Nat.le_of_eq h.length_eq.symm)]
    rw [List.map_map]
    rfl
  rw [hconditions]
  generalize (canonical (occurrences.map (·.1))).zip agreements = z at hzip hvs
  have hagrees : ∀ {v e compared}, (v, e, compared) ∈ z → Agrees occurrences v e compared := by
    intro v e compared hz
    apply agrees_of_agreement? (hzip.1 hz).2
  have hcondition : ∀ {e}, e ∈ z.map (fun p => p.2.1) ↔ ∃ v compared, (v, e, compared) ∈ z := by
    simp
  have hcompared : ∀ {v}, v ∈ z.filterMap (fun p => if p.2.2 then some p.1 else none)
      ↔ ∃ e, (v, e, true) ∈ z := by
    simp
  have hexact : ∀ {v m}, v ∉ z.filterMap (fun p => if p.2.2 then some p.1 else none)
      → (v, m) ∈ occurrences → ∃ e, (v, e, false) ∈ z := by
    intro v m hv hm
    have hmem : v ∈ z.map (·.1) := by
      rw [← hvs, mem_canonical]
      apply List.mem_map_of_mem (f := Prod.fst) hm
    obtain ⟨⟨_, e, compared⟩, hz, rfl⟩ := List.mem_map.1 hmem
    cases compared with
    | false => exact ⟨e, hz⟩
    | true => exact absurd (hcompared.2 ⟨e, hz⟩) hv
  constructor
  · apply Expr.isCondition_andAll
    intro e he
    obtain ⟨v, compared, hz⟩ := hcondition.1 he
    apply (hagrees hz).isCondition
  · intro c hc
    rw [← List.mem_flatMap]
    refine Expr.readsOnly_andAll ?_ c hc
    intro e he c hc
    obtain ⟨v, compared, hz⟩ := hcondition.1 he
    obtain ⟨m, hm, hc⟩ := (hagrees hz).reads c hc
    rw [List.mem_flatMap]
    use (v, m)
  · intro v hv cells hcells m m' hm hm'
    obtain ⟨e, hz⟩ := hexact hv hm
    apply (hagrees hz).same rfl cells _ m m' hm hm'
    apply Expr.holdsAt_andAll.1 hcells e (hcondition.2 ⟨v, false, hz⟩)
  · intro hne v hv m hm c hc
    obtain ⟨e, hz⟩ := hexact hv hm
    apply ((hagrees hz).mentions rfl m hm c hc).imp_left
    intro hc
    rw [Expr.mem_columnList_andAll (Expr.never_notMem_of_andAll_ne hne)]
    use e, hcondition.2 ⟨v, false, hz⟩

end

theorem agreesAll_of_ofChoices? {choices : List Choice} {a : Assignment}
    (h : ofChoices? choices = some a) :
  a.choices = choices ∧ AgreesAll (choices.flatMap Choice.occurrences) a.condition a.compared
  := by
  simp only [ofChoices?, Option.bind_eq_bind, Option.bind_eq_some_iff, mapM_eq_some,
    Option.pure_def, Option.some.injEq] at h
  obtain ⟨agreements, hagreements, rfl⟩ := h
  exact ⟨rfl, agreesAll_of_forall₂ hagreements⟩

/-- The occurrences of every variable can agree if each of them can. -/
theorem exists_ofChoices? {choices : List Choice} {cells : Column → Cell}
    (h : ∀ o ∈ choices.flatMap Choice.occurrences, ∃ condition compared,
      agreement? (choices.flatMap Choice.occurrences) o.1 = some (condition, compared)
        ∧ Expr.HoldsAt cells condition) :
  ∃ a, ofChoices? choices = some a ∧ Expr.HoldsAt cells a.condition
  := by
  have hall : ∀ vs : List Variable,
      (∀ v ∈ vs, v ∈ (choices.flatMap Choice.occurrences).map (·.1))
      → ∃ agreements, vs.mapM (agreement? (choices.flatMap Choice.occurrences)) = some agreements
        ∧ ∀ b ∈ agreements, Expr.HoldsAt cells b.1 := by
    intro vs hvs
    induction vs with
    | nil =>
      use []
      simp
    | cons v vs ih =>
      rw [List.forall_mem_cons] at hvs
      obtain ⟨agreements, hagreements, hholds⟩ := ih hvs.2
      obtain ⟨o, ho, rfl⟩ := List.mem_map.1 hvs.1
      obtain ⟨condition, compared, hagreement, hcondition⟩ := h o ho
      use (condition, compared) :: agreements
      constructor
      · simp [List.mapM_cons, hagreement, hagreements]
      · rw [List.forall_mem_cons]
        use hcondition
  obtain ⟨agreements, hagreements, hholds⟩ := hall _ fun v hv => mem_canonical.1 hv
  simp only [ofChoices?, hagreements, Option.bind_eq_bind, Option.bind_some, Option.pure_def,
    Option.some.injEq, exists_eq_left']
  rw [Expr.holdsAt_andAll, List.forall_mem_map]
  apply hholds

/-! ### Assignments of candidates -/

/-- The choices are candidates of the patterns. -/
def Chooses (found : List (TriplePattern × List TripleMap)) (choices : List Choice) : Prop :=
  List.Forall₂ (fun e c => c.1 = e.1 ∧ c.2 ∈ e.2) found choices

section

variable {found : List (TriplePattern × List TripleMap)} {choices : List Choice}

theorem Chooses.map_fst (h : Chooses found choices) :
  choices.map (·.1) = found.map (·.1)
  := by
  induction h with
  | nil => rfl
  | cons hc _ ih => rw [List.map_cons, List.map_cons, ih, hc.1]

theorem Chooses.exists_mem (h : Chooses found choices) {c : Choice} (hc : c ∈ choices) :
  ∃ e ∈ found, c.1 = e.1 ∧ c.2 ∈ e.2
  := by
  induction h with
  | nil => cases hc
  | @cons e c' found choices hfirst _ ih =>
    obtain rfl | hc := List.mem_cons.1 hc
    · use e, List.mem_cons_self
    · obtain ⟨e', he', hmem⟩ := ih hc
      use e', List.mem_cons_of_mem _ he'

/-- Candidates of different patterns have no table in common. -/
theorem Chooses.pairwise_apart (h : Chooses found choices)
    (hfound : found.Pairwise fun e e' => ∀ c ∈ e.2, ∀ c' ∈ e'.2, c.relation.Apart c'.relation) :
  (choices.map fun c => c.2.relation).Pairwise Relation.Apart
  := by
  induction h with
  | nil => exact .nil
  | @cons e c found choices hc hrest ih =>
    rw [List.pairwise_cons] at hfound
    rw [List.map_cons, List.pairwise_cons, List.forall_mem_map]
    constructor
    · intro c' hc'
      obtain ⟨e', he', -, hmem⟩ := Chooses.exists_mem hrest hc'
      apply hfound.1 e' he' c.2 hc.2 c'.2 hmem
    · apply ih hfound.2

theorem mem_extendAll {as : List Assignment} {e : TriplePattern × List TripleMap}
    {a : Assignment} :
  a ∈ extendAll as e ↔ ∃ b ∈ as, ∃ m ∈ e.2, ofChoices? (b.choices ++ [(e.1, m)]) = some a
  := by
  simp [extendAll, extend?_eq]

/-- Every assignment that is found adds candidates to one of the first ones. -/
theorem exists_chooses_of_mem {as : List Assignment} {a : Assignment}
    (has : ∀ b ∈ as, ofChoices? b.choices = some b) (h : a ∈ found.foldl extendAll as) :
  ∃ b ∈ as, ∃ choices, Chooses found choices ∧ ofChoices? (b.choices ++ choices) = some a
  := by
  induction found generalizing as with
  | nil =>
    use a, h, [], List.Forall₂.nil
    rw [List.append_nil]
    apply has a h
  | cons e found ih =>
    have hextended : ∀ b ∈ extendAll as e, ofChoices? b.choices = some b := by
      intro b hb
      obtain ⟨b₀, -, m, -, hb⟩ := mem_extendAll.1 hb
      rw [(agreesAll_of_ofChoices? hb).1]
      apply hb
    obtain ⟨b, hb, choices, hchoices, ha⟩ := ih hextended h
    obtain ⟨b₀, hb₀, m, hm, hb⟩ := mem_extendAll.1 hb
    rw [(agreesAll_of_ofChoices? hb).1, List.append_assoc] at ha
    use b₀, hb₀, (e.1, m) :: choices, .cons ⟨rfl, hm⟩ hchoices, ha

theorem exists_chooses_of_mem_found {a : Assignment} (h : a ∈ found.foldl extendAll [.empty]) :
  ∃ choices, Chooses found choices ∧ ofChoices? choices = some a
  := by
  have hempty : ∀ b ∈ [empty], ofChoices? b.choices = some b := by
    intro b hb
    rw [List.mem_singleton.1 hb]
    rfl
  obtain ⟨b, hb, choices, hchooses, ha⟩ := exists_chooses_of_mem hempty h
  rw [List.mem_singleton.1 hb] at ha
  use choices, hchooses, ha

/-- Candidates are found if the occurrences in each of the first choices can agree. -/
theorem mem_of_chooses {as : List Assignment} {a b : Assignment} (hb : b ∈ as)
    (h : Chooses found choices)
    (hchoices : ∀ n, (ofChoices? (b.choices ++ choices.take n)).isSome)
    (hself : ofChoices? b.choices = some b) (ha : ofChoices? (b.choices ++ choices) = some a) :
  a ∈ found.foldl extendAll as
  := by
  induction h generalizing as b with
  | nil =>
    rw [List.append_nil, hself] at ha
    cases ha
    apply hb
  | @cons e c found choices hc _ ih =>
    obtain ⟨b', hb'⟩ := Option.isSome_iff_exists.1 (hchoices 1)
    rw [List.take_succ_cons, List.take_zero] at hb'
    have hchoices' : b'.choices = b.choices ++ [c] := (agreesAll_of_ofChoices? hb').1
    apply ih (b := b')
    · obtain ⟨p, m⟩ := c
      obtain ⟨rfl, hm⟩ := hc
      rw [mem_extendAll]
      use b, hb, m
    · intro n
      rw [hchoices', List.append_assoc]
      apply hchoices (n + 1)
    · rw [hchoices']
      apply hb'
    · rw [hchoices', List.append_assoc]
      apply ha

end

/-! ### The term maps of an assignment -/

/-- The term maps that are collected: those of the first occurrences, and those that are checked. -/
structure Collected (compared : List Variable) (occurrences : List (Variable × TermMap))
    (terms : SortedMap Variable TermMap) (checks : List (Variable × TermMap)) : Prop where
  terms_mem : ∀ v m, terms.get? v = some m → (v, m) ∈ occurrences
  mem_terms : ∀ o ∈ occurrences, (terms.get? o.1).isSome
  checks_mem : ∀ o ∈ checks, o ∈ occurrences ∧ o.1 ∈ compared
  mem_checks : ∀ o ∈ occurrences, o.1 ∈ compared → terms.get? o.1 = some o.2 ∨ o ∈ checks

section

variable {compared : List Variable} {occurrences : List (Variable × TermMap)}
  {terms : SortedMap Variable TermMap} {checks : List (Variable × TermMap)}

theorem collected_nil (compared : List Variable) :
  Collected compared [] .empty []
  := by
  constructor <;> simp

theorem Collected.skip (h : Collected compared occurrences terms checks) {v : Variable}
    (hv : (terms.get? v).isSome) (m : TermMap) :
  Collected compared (occurrences ++ [(v, m)]) terms
    (if v ∈ compared then checks ++ [(v, m)] else checks)
  := by
  have hmem : ∀ o, o ∈ (if v ∈ compared then checks ++ [(v, m)] else checks)
      ↔ o ∈ checks ∨ (o = (v, m) ∧ v ∈ compared) := by
    intro o
    split
    · simp_all
    · simp_all
  constructor
  · intro w n hw
    apply List.mem_append_left _ (h.terms_mem w n hw)
  · intro o ho
    obtain ho | ho := List.mem_append.1 ho
    · apply h.mem_terms o ho
    · rw [List.mem_singleton.1 ho]
      apply hv
  · intro o ho
    obtain ho | ⟨rfl, hcompared⟩ := (hmem o).1 ho
    · use List.mem_append_left _ (h.checks_mem o ho).1, (h.checks_mem o ho).2
    · exact ⟨by simp, hcompared⟩
  · intro o ho hcompared
    rw [hmem]
    obtain ho | ho := List.mem_append.1 ho
    · apply (h.mem_checks o ho hcompared).imp_right .inl
    · rw [List.mem_singleton] at ho
      subst ho
      exact .inr (.inr ⟨rfl, hcompared⟩)

theorem Collected.put (h : Collected compared occurrences terms checks) {v : Variable}
    (hv : terms.get? v = none) (m : TermMap) :
  Collected compared (occurrences ++ [(v, m)]) (terms.put v m) checks
  := by
  have hne : ∀ o ∈ occurrences, o.1 ≠ v := by
    rintro o ho rfl
    have := h.mem_terms o ho
    simp [hv] at this
  constructor
  · intro w n hw
    by_cases hwv : w = v
    · subst hwv
      rw [SortedMap.get?_put_self] at hw
      cases hw
      simp
    · rw [SortedMap.get?_put_of_ne _ _ hwv] at hw
      apply List.mem_append_left _ (h.terms_mem w n hw)
  · intro o ho
    obtain ho | ho := List.mem_append.1 ho
    · rw [SortedMap.get?_put_of_ne _ _ (hne o ho)]
      apply h.mem_terms o ho
    · rw [List.mem_singleton.1 ho, SortedMap.get?_put_self]
      rfl
  · intro o ho
    use List.mem_append_left _ (h.checks_mem o ho).1, (h.checks_mem o ho).2
  · intro o ho hcompared
    obtain ho | ho := List.mem_append.1 ho
    · rw [SortedMap.get?_put_of_ne _ _ (hne o ho)]
      apply h.mem_checks o ho hcompared
    · left
      rw [List.mem_singleton.1 ho, SortedMap.get?_put_self]

theorem Collected.collect (h : Collected compared occurrences terms checks)
    (rest : List (Variable × TermMap)) :
  Collected compared (occurrences ++ rest) (Assignment.collect compared rest terms checks).1
    (Assignment.collect compared rest terms checks).2
  := by
  induction rest generalizing occurrences terms checks with
  | nil =>
    rw [List.append_nil]
    apply h
  | cons o rest ih =>
    obtain ⟨v, m⟩ := o
    rw [List.append_cons, Assignment.collect]
    split
    · rename_i hv
      apply ih (h.skip hv m)
    · rename_i hv
      apply ih (h.put _ m)
      simpa [SortedMap.contains] using hv

/-- Only columns of the occurrences are read. -/
theorem Collected.mem_columns (h : Collected compared occurrences terms checks) {c : Column}
    (hc : c ∈ terms.values.flatMap TermMap.columns ++ checks.flatMap fun c => c.2.columns) :
  ∃ o ∈ occurrences, c ∈ o.2.columns
  := by
  simp only [List.mem_append, List.mem_flatMap, SortedMap.mem_values_iff] at hc
  obtain ⟨m, ⟨v, hm⟩, hc⟩ | ⟨o, ho, hc⟩ := hc
  · use (v, m), h.terms_mem v m hm
  · use o, (h.checks_mem o ho).1

end

/-! ### The solution map of an assignment -/

/-- The choices are candidates that can be joined. -/
structure Joinable (maps : List TripleMap) (choices : List Choice) : Prop where
  soundMaps : ∀ m ∈ maps, m.Sound
  candidate : ∀ c ∈ choices, ∃ m ∈ maps, ∃ k, m.IsCandidate c.1 k c.2
  apart : (choices.map fun c => c.2.relation).Pairwise Relation.Apart
  aliased : choices.length ≤ 1 ∨ ∀ c ∈ choices, c.2.relation.Aliased

/-- What is known of the solution map of an assignment. -/
structure SolutionOf (choices : List Choice) (a : Assignment) (s : SolutionMap) : Prop where
  sound : s.relation.Sound
  database : ∀ name, s.relation.database = some name
    ↔ ∃ c ∈ choices, c.2.relation.database = some name
  unique : s.relation.unique = true ↔ ∀ c ∈ choices, c.2.relation.unique = true
  fits : ∀ db, (∀ c ∈ choices, c.2.relation.Fits db) → s.relation.Fits db
  tables : ∀ t, t ∈ s.relation.tables ↔ ∃ c ∈ choices, t ∈ c.2.relation.tables
  tableOf : ∀ c ∈ choices, ∀ t ∈ c.2.relation.tables,
    s.relation.aliases.tableOf t = c.2.relation.aliases.tableOf t
  holds : ∀ db pick, s.relation.Holds db pick
    ↔ (∀ c ∈ choices, c.2.relation.Holds db pick) ∧ Expr.HoldsAt pick.cell a.condition
  projections : s.relation.projections = canonical s.columns
  collected : Collected a.compared (choices.flatMap Choice.occurrences) s.terms s.checks

section

variable {maps : List TripleMap} {choices : List Choice} {a : Assignment} {s : SolutionMap}

theorem toSolutionMap_eq_ok (h : a.toSolutionMap = .ok s) :
  ∃ joined terms checks, Relation.joinAll (a.choices.map fun c => c.2.relation) = .ok joined
    ∧ Collected a.compared (a.choices.flatMap Choice.occurrences) terms checks
    ∧ s = .build (joined.select a.condition) terms checks
  := by
  obtain ⟨joined, hjoined, h⟩ := bind_eq_ok.1 h
  have hcollected := (collected_nil a.compared).collect (a.choices.flatMap Choice.occurrences)
  exact ⟨joined, _, _, hjoined, hcollected, (pure_eq_ok.1 h).symm⟩

theorem Joinable.outlineOf (h : Joinable maps choices) :
  ∀ c ∈ choices, ∃ m ∈ maps, ∃ k, m.OutlineOf c.1 k c.2
  := by
  intro c hc
  obtain ⟨m, hm, k, hcandidate⟩ := h.candidate c hc
  exact ⟨m, hm, k, hcandidate.outlineOf (h.soundMaps m hm)⟩

theorem Joinable.candidateOf (h : Joinable maps choices) (hmaps : ∀ m ∈ maps, m.Readable) :
  ∀ c ∈ choices, ∃ m ∈ maps, ∃ k, m.CandidateOf c.1 k c.2
  := by
  intro c hc
  obtain ⟨m, hm, k, hcandidate⟩ := h.candidate c hc
  exact ⟨m, hm, k, hcandidate.candidateOf (hmaps m hm)⟩

theorem Joinable.mem_projections_iff (h : Joinable maps choices) {c : Column} :
  (∃ r ∈ choices.map fun c => c.2.relation, c ∈ r.projections)
    ↔ ∃ o ∈ choices.flatMap Choice.occurrences, c ∈ o.2.columns
  := by
  simp only [List.mem_map, exists_exists_and_eq_and, List.mem_flatMap]
  constructor
  · rintro ⟨⟨p, m⟩, hchoice, hc⟩
    obtain ⟨m', -, k, hcandidate⟩ := h.outlineOf _ hchoice
    obtain ⟨o, ho, hc⟩ := hcandidate.mem_projections_iff.1 hc
    use o, ⟨(p, m), hchoice, ho⟩, hc
  · rintro ⟨o, ⟨⟨p, m⟩, hchoice, ho⟩, hc⟩
    obtain ⟨m', -, k, hcandidate⟩ := h.outlineOf _ hchoice
    use (p, m), hchoice, hcandidate.mem_projections_iff.2 ⟨o, ho, hc⟩

/-- A column of the candidates is read, or the condition mentions it. -/
theorem mem_columns_or (hagrees : AgreesAll (choices.flatMap Choice.occurrences) a.condition
    a.compared) {terms : SortedMap Variable TermMap} {checks : List (Variable × TermMap)}
    (hcollected : Collected a.compared (choices.flatMap Choice.occurrences) terms checks)
    (hne : a.condition ≠ .never) {c : Column} {o : Variable × TermMap}
    (ho : o ∈ choices.flatMap Choice.occurrences) (hc : c ∈ o.2.columns) :
  c ∈ terms.values.flatMap TermMap.columns ++ checks.flatMap (fun c => c.2.columns)
    ∨ c ∈ a.condition.columnList
  := by
  have hterm : ∀ {v m}, terms.get? v = some m → c ∈ m.columns
      → c ∈ terms.values.flatMap TermMap.columns ++ checks.flatMap fun c => c.2.columns := by
    intro v m hm hc
    apply List.mem_append_left
    rw [List.mem_flatMap]
    use m, SortedMap.mem_values_iff.2 ⟨v, hm⟩
  by_cases hcompared : o.1 ∈ a.compared
  · left
    obtain hm | hcheck := hcollected.mem_checks o ho hcompared
    · apply hterm hm hc
    · apply List.mem_append_right
      rw [List.mem_flatMap]
      use o
  · obtain hmention | hall := hagrees.mentions hne o.1 hcompared o.2 ho c hc
    · exact .inr hmention
    · left
      obtain ⟨m, hm⟩ := Option.isSome_iff_exists.1 (hcollected.mem_terms o ho)
      apply hterm hm (hall m (hcollected.terms_mem o.1 m hm))

theorem Joinable.sound (h : Joinable maps choices) :
  ∀ r ∈ choices.map fun c => c.2.relation, r.Sound
  := by
  rw [List.forall_mem_map]
  intro c hc
  obtain ⟨m, -, k, hcandidate⟩ := h.outlineOf c hc
  apply hcandidate.sound

/-- The candidates can be joined, or they have no common rows. -/
theorem Joinable.joinAll_cases (h : Joinable maps choices) {joined : Relation}
    (hjoined : Relation.joinAll (choices.map fun c => c.2.relation) = .ok joined) :
  (joined.isEmpty = false ∧ Relation.Joins (choices.map fun c => c.2.relation) joined)
    ∨ (joined.isEmpty = true ∧ ∀ db pick, ¬ ∀ c ∈ choices, c.2.relation.Holds db pick)
  := by
  have horder : (choices.map fun c => c.2.relation).Pairwise
      fun r s => r.order = none ∨ s.Anchored := by
    obtain hlength | haliased := h.aliased
    · obtain hzero | hone := Nat.le_one_iff_eq_zero_or_eq_one.1 hlength
      · simp [List.length_eq_zero_iff.1 hzero]
      · obtain ⟨c, rfl⟩ := List.length_eq_one_iff.1 hone
        simp
    · apply List.pairwise_of_forall_mem_list
      rintro r - s hs
      have hsound := h.sound s hs
      obtain ⟨c, hc, rfl⟩ := List.mem_map.1 hs
      exact .inr ((haliased c hc).anchored hsound)
  apply (Relation.joinAll_cases h.sound h.apart horder hjoined).imp_right
  rintro ⟨hempty, hnone⟩
  use hempty
  intro db pick hall
  apply hnone pick.cell
  rw [List.forall_mem_map]
  intro c hc
  exact ⟨(hall c hc).joins, (hall c hc).condition⟩

section

variable (hjoinable : Joinable maps choices) (ha : ofChoices? choices = some a)
  (h : a.toSolutionMap = .ok s)

include hjoinable ha h

/-- The solution map of an assignment reads the picks in all the candidates on which the
occurrences agree. -/
theorem solutionOf_toSolutionMap (he : s.isEmpty = false) :
  SolutionOf choices a s
  := by
  obtain ⟨rfl, hagrees⟩ := agreesAll_of_ofChoices? ha
  obtain ⟨joined, terms, checks, hjoined, hcollected, rfl⟩ := toSolutionMap_eq_ok h
  rw [SolutionMap.isEmpty, SolutionMap.build, Relation.isEmpty_project] at he
  obtain ⟨-, hjoins⟩ | ⟨hempty, -⟩ := hjoinable.joinAll_cases hjoined
  · have hne : a.condition ≠ .never := by
      intro hnever
      rw [hnever, TripleMap.isEmpty_select_never] at he
      cases he
    have hprojections : ∀ c, c ∈ joined.projections
        ↔ ∃ o ∈ a.choices.flatMap Choice.occurrences, c ∈ o.2.columns := by
      intro c
      rw [hjoins.projections, hjoinable.mem_projections_iff]
    have hrestricts : joined.Restricts
        (SolutionMap.build (joined.select a.condition) terms checks).relation a.condition := by
      apply Relation.restricts_project hjoins.sound hagrees.isCondition _ _ _ he
      · intro c hc
        rw [hprojections]
        apply hagrees.reads c hc
      · intro c hc
        rw [hprojections]
        apply hcollected.mem_columns hc
      · intro c hc
        rw [hprojections] at hc
        obtain ⟨o, ho, hc⟩ := hc
        apply mem_columns_or hagrees hcollected hne ho hc
    constructor
    · apply hrestricts.sound
    · intro name
      rw [hrestricts.database, hjoins.database]
      simp
    · rw [hrestricts.unique, hjoins.unique, List.forall_mem_map]
    · intro db hfits
      apply hrestricts.fits
      apply hjoins.fits hjoinable.sound
      rw [List.forall_mem_map]
      apply hfits
    · intro t
      rw [hrestricts.tables, hjoins.tables]
      simp
    · intro c hc t ht
      rw [hrestricts.aliases]
      apply hjoins.tableOf _ (List.mem_map_of_mem (f := fun c => c.2.relation) hc) t ht
    · intro db pick
      rw [hrestricts.holds, hjoins.holds_iff, List.forall_mem_map]
    · apply SolutionMap.projections_build he
    · apply hcollected
  · rw [Relation.isEmpty_select_of_isEmpty hempty] at he
    cases he

/-- An assignment without solutions has no common picks on which the occurrences agree. -/
theorem not_holds_of_isEmpty (he : s.isEmpty = true) (db : Database) (pick : Pick) :
  ¬ ((∀ c ∈ choices, c.2.relation.Holds db pick) ∧ Expr.HoldsAt pick.cell a.condition)
  := by
  rintro ⟨hall, hcondition⟩
  obtain ⟨rfl, -⟩ := agreesAll_of_ofChoices? ha
  obtain ⟨joined, terms, checks, hjoined, -, rfl⟩ := toSolutionMap_eq_ok h
  rw [SolutionMap.isEmpty, SolutionMap.build, Relation.isEmpty_project] at he
  obtain ⟨-, hjoins⟩ | ⟨-, hnone⟩ := hjoinable.joinAll_cases hjoined
  · have hholds : joined.Holds db pick := by
      rw [hjoins.holds_iff, List.forall_mem_map]
      apply hall
    apply Relation.not_holdsAt_of_isEmpty_select he pick.cell ⟨hholds.condition, hcondition⟩
  · apply hnone db pick hall

end

/-! ### The bindings of an assignment -/

/-- The binding has the terms that the occurrences give, and no other ones. -/
def Binds (occurrences : List (Variable × TermMap)) (cells : Column → Cell) (b : Binding) : Prop :=
  (∀ o ∈ occurrences, (b.get? o.1).isSome ∧ o.2.makeAt cells = b.get? o.1)
    ∧ ∀ v, (b.get? v).isSome → ∃ m, (v, m) ∈ occurrences

/-- On a pick of the solution map, a binding is made if it has the terms of all the occurrences. -/
theorem SolutionOf.make?_eq_some_iff (h : SolutionOf choices a s)
    (hagrees : AgreesAll (choices.flatMap Choice.occurrences) a.condition a.compared) {pick : Pick}
    (hcondition : Expr.HoldsAt pick.cell a.condition) {b : Binding} :
  s.make? (Row.sample s.relation.projections pick.cell) = some b
    ↔ Binds (choices.flatMap Choice.occurrences) pick.cell b
  := by
  have hmake : ∀ {v m}, (v, m) ∈ s.entries
      → m.make? (Row.sample s.relation.projections pick.cell) = m.makeAt pick.cell := by
    intro v m hm
    apply TermMap.make?_eq_makeAt
    intro c hc
    apply get?_sample_of_mem
    rw [h.projections, mem_canonical]
    apply SolutionMap.mem_columns_of_mem hm hc
  have hterm : ∀ {v m}, s.terms.get? v = some m
      → m.make? (Row.sample s.relation.projections pick.cell) = m.makeAt pick.cell := by
    intro v m hm
    apply hmake (SolutionMap.mem_entries_iff.2 (.inl hm))
  rw [SolutionMap.make?_eq_some_iff]
  constructor
  · rintro ⟨hsome, hget, hchecks⟩
    constructor
    · rintro ⟨v, m⟩ ho
      have hsome := hsome v (h.collected.mem_terms _ ho)
      use hsome
      obtain ⟨m₀, hm₀⟩ := Option.isSome_iff_exists.1 (h.collected.mem_terms _ ho)
      have hv : b.get? v = m₀.makeAt pick.cell := by
        rw [hget, hm₀, Option.bind_some, hterm hm₀]
      by_cases hcompared : v ∈ a.compared
      · obtain hm | hcheck := h.collected.mem_checks _ ho hcompared
        · rw [hm₀] at hm
          cases hm
          apply hv.symm
        · rw [hchecks _ hcheck, hmake (SolutionMap.mem_entries_iff.2 (.inr hcheck))]
      · rw [hv]
        apply hagrees.same v hcompared pick.cell hcondition m m₀ ho
        apply h.collected.terms_mem v m₀ hm₀
    · intro v hv
      rw [hget] at hv
      obtain ⟨t, ht⟩ := Option.isSome_iff_exists.1 hv
      obtain ⟨m, hm, -⟩ := Option.bind_eq_some_iff.1 ht
      use m, h.collected.terms_mem v m hm
  · rintro ⟨hoccurrences, hdomain⟩
    refine ⟨?_, ?_, ?_⟩
    · intro v hv
      obtain ⟨m, hm⟩ := Option.isSome_iff_exists.1 hv
      apply (hoccurrences (v, m) (h.collected.terms_mem v m hm)).1
    · intro v
      cases hv : s.terms.get? v with
      | some m =>
        rw [Option.bind_some, hterm hv, (hoccurrences (v, m) (h.collected.terms_mem v m hv)).2]
      | none =>
        rw [Option.bind_none, ← Option.not_isSome_iff_eq_none]
        intro hsome
        obtain ⟨m, hm⟩ := hdomain v hsome
        have hterms := h.collected.mem_terms _ hm
        simp [hv] at hterms
    · rintro ⟨v, m⟩ hcheck
      rw [hmake (SolutionMap.mem_entries_iff.2 (.inr hcheck)),
        (hoccurrences (v, m) (h.collected.checks_mem _ hcheck).1).2]

end

end Assignment

end RelGraph.Mapping
