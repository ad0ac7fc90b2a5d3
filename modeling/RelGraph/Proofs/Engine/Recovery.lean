import RelGraph.Proofs.Engine.Unreliable

/-!
# Solutions after errors

After an error the search goes on with what was found before.  If more solutions of the operands never
mean fewer solutions of the plan, what is found then are solutions all the same.  What is optional or
taken away is another matter: a solution that was not read is treated as if there was none.
-/

namespace RelGraph.Engine

open Rdf Sql Sparql Mapping Machine

variable {σ κ : Type}

/-! ### Items of readers that fail -/

/-- All the items of the group fulfil a condition. -/
def Group.Within {α ι : Type} [Member α ι] (db : Database) (X : ι → Prop) (g : Group α) : Prop :=
  ∀ is, g.answer db = .ok is → ∀ i ∈ is, X i

namespace Reader

variable {α ι : Type} [Member α ι] {X : ι → Prop}

/-- All the items that are still to come fulfil a condition. -/
structure Within (db : Database) (rows : κ → List Row) (X : ι → Prop) (r : Reader α ι κ) : Prop where
  waiting : r.progress = .waiting → r.group.Within db X
  reading : ∀ c, r.progress = .reading c → ∀ i ∈ (rows c).flatMap r.group.items, X i
  buffer : ∀ i ∈ r.buffer, X i

variable {B : Backend σ κ} {db : Database} {rows : κ → List Row} {n : Nat}

theorem progress_fetch_ne_waiting (g : Group α) (c : κ) (items : List ι) (s : σ) :
  (fetch B g n c items s).1.progress ≠ .waiting
  := by
  induction n generalizing c items s with
  | zero => simp [fetch]
  | succ n ih =>
    rw [fetch]
    split
    · apply ih
    · simp
    · simp

theorem within_done {g : Group α} {is : List ι} (h : ∀ i ∈ is, X i) :
  Within db rows X (⟨g, .done, is⟩ : Reader α ι κ)
  := ⟨by simp, by simp, h⟩

/-- A query that is sent gives rows whose items fulfil the condition. -/
theorem within_send (hB : B.Unreliable db rows) {g : Group α} (hg : g.Within db X) (s : σ) :
  (∀ i, (send B (⟨g, .waiting, []⟩ : Reader α ι κ) s).1 ≠ .item (.ok i))
    ∧ (send B (⟨g, .waiting, []⟩ : Reader α ι κ) s).2.1.Within db rows X
  := by
  rw [send]
  split
  · use by simp
    apply within_done
    simp
  · rename_i hempty
    split
    · rename_i hdatabase
      use by simp
      apply within_done
      apply hg
      rw [Group.answer, if_neg hempty, if_pos hdatabase]
    · rename_i hdatabase
      split
      · rename_i c s' hexecute
        use by simp
        constructor
        · simp
        · intro c' hc' i hi
          cases hc'
          apply hg _ _ i hi
          rw [Group.answer, if_neg hempty, if_neg hdatabase, hB.execute _ _ _ _ hexecute]
          rfl
        · simp
      · use by simp
        apply within_done
        simp

/-- A step gives an item that fulfils the condition, even if something fails. -/
theorem Within.step (hB : B.Unreliable db rows) {r : Reader α ι κ} (h : r.Within db rows X) (s : σ) :
  (∀ i, (r.step B n s).1 = .item (.ok i) → X i) ∧ (r.step B n s).2.1.Within db rows X
  := by
  obtain ⟨g, progress, buffer⟩ := r
  rw [Reader.step]
  split
  · constructor
    · intro i hi
      dsimp only at hi
      split at hi <;> cases hi
    · cases progress <;> apply within_done <;> simp
  · cases buffer with
    | cons i is =>
      have hbuffer := List.forall_mem_cons.1 h.buffer
      constructor
      · intro j hj
        cases hj
        apply hbuffer.1
      · exact ⟨h.waiting, h.reading, hbuffer.2⟩
    | nil =>
      cases progress with
      | waiting =>
        obtain ⟨hitem, hwithin⟩ := within_send hB (h.waiting rfl) s
        use fun i hi => absurd hi (hitem i)
      | done => exact ⟨by simp, h⟩
      | reading c =>
        have hitems : ∀ i ∈ (fetch B g n c ([] : List ι) s).1.items, X i := by
          intro i hi
          obtain hi | hi := mem_of_mem_fetch hB hi
          · simp at hi
          · apply h.reading c rfl i hi
        have hreading : ∀ c', (fetch B g n c ([] : List ι) s).1.progress = .reading c'
            → ∀ i ∈ (rows c').flatMap g.items, X i := by
          intro c' hc' i hi
          obtain ⟨row, hrow, hi⟩ := List.mem_flatMap.1 hi
          apply h.reading c rfl
          apply List.mem_flatMap_of_mem (mem_of_fetch_reading hB hc' hrow) hi
        have hwaiting : (fetch B g n c ([] : List ι) s).1.progress = .waiting → g.Within db X :=
          fun hw => absurd hw (progress_fetch_ne_waiting g c [] s)
        dsimp only
        split
        · exact ⟨by simp, hwaiting, hreading, hitems⟩
        · exact ⟨by simp, hwaiting, hreading, hitems⟩

end Reader

namespace Scan

variable {α ι : Type} [Member α ι] {X : ι → Prop} {B : Backend σ κ} {db : Database}
  {rows : κ → List Row} {n : Nat}

/-- All the items that are still to come fulfil a condition. -/
structure Within (db : Database) (rows : κ → List Row) (X : ι → Prop) (t : Scan α ι κ) : Prop where
  current : ∀ r ∈ t.current, r.Within db rows X
  rest : ∀ g ∈ t.rest, g.Within db X

theorem Within.step (hB : B.Unreliable db rows) {t : Scan α ι κ} (h : t.Within db rows X) (s : σ) :
  (∀ i, (t.step B n s).1 = .item (.ok i) → X i) ∧ (t.step B n s).2.1.Within db rows X
  := by
  obtain ⟨_ | r, gs⟩ := t
  · cases gs with
    | nil => exact ⟨by rintro _ ⟨⟩, h⟩
    | cons g gs =>
      obtain ⟨hg, hgs⟩ := List.forall_mem_cons.1 h.rest
      use by rintro _ ⟨⟩
      constructor
      · rintro r ⟨⟩
        exact ⟨fun _ => hg, by rintro _ ⟨⟩, by simp [Reader.ofGroup]⟩
      · apply hgs
  · obtain ⟨hitem, hr'⟩ := (h.current r rfl).step hB s (n := n)
    rw [Scan.step]
    dsimp only
    split
    · exact ⟨by simp, by simp, h.rest⟩
    · rename_i e r' s' _ heq
      rw [heq] at hitem hr'
      exact ⟨hitem, by rintro r ⟨⟩; exact hr', h.rest⟩

end Scan

/-! ### Solutions that are within a condition -/

namespace Solutions

variable {B : Backend σ κ} {db : Database} {rows : κ → List Row} {n : Nat}

/-- All the unions of a left and a right solution fulfil a condition. -/
def Joins (L R X : Binding → Prop) : Prop := ∀ a b m, L a → R b → a.merge? b = some m → X m

/-- All the solutions that are still to come fulfil a condition, whatever fails. -/
inductive Within (db : Database) (rows : κ → List Row) : Solutions κ → (Binding → Prop) → Prop where
  | ready {bs : List Binding} {X : Binding → Prop} : (∀ b ∈ bs, X b) → Within db rows (.ready bs) X
  | scan {t : Scan SolutionMap Binding κ} {X : Binding → Prop} :
    t.Within db rows X → Within db rows (.scan t) X
  | join {l r : Solutions κ} {L R X : Binding → Prop} :
    Within db rows l L → Within db rows r R → Joins L R X → Within db rows (.join l r) X
  | joinCollect {l r : Solutions κ} {b : Binding} {found : List Binding} {L R X : Binding → Prop} :
    Within db rows l L → Within db rows r R → L b → (∀ c ∈ found, R c) → Joins L R X
    → Within db rows (.joinCollect l r b found) X
  | joinFound {front : List Binding} {l : Solutions κ} {found : List Binding}
      {L R X : Binding → Prop} :
    (∀ b ∈ front, X b) → Within db rows l L → (∀ c ∈ found, R c) → Joins L R X
    → Within db rows (.joinFound front l found) X
  | filter {p : Solutions κ} {e : Expression} {A X : Binding → Prop} :
    Within db rows p A → (∀ a, A a → e.holds a = true → X a) → Within db rows (.filter p e) X
  | union {ps : List Plan} {X : Binding → Prop} :
    (∀ p ∈ ps, Within db rows (ofPlan p) X) → Within db rows (.union ps) X
  | unionAt {p : Solutions κ} {ps : List Plan} {X : Binding → Prop} :
    Within db rows p X → (∀ q ∈ ps, Within db rows (ofPlan q) X) → Within db rows (.unionAt p ps) X
  | extend {p : Solutions κ} {v : Variable} {e : Expression} {A X : Binding → Prop} :
    Within db rows p A → (∀ a, A a → X (extended v e a)) → Within db rows (.extend p v e) X
  | sort {p : Solutions κ} {keys : List SortKey} {found : List Binding} {X : Binding → Prop} :
    Within db rows p X → (∀ b ∈ found, X b) → Within db rows (.sort p keys found) X
  | project {p : Solutions κ} {vs : List Variable} {A X : Binding → Prop} :
    Within db rows p A → (∀ a, A a → X (a.restrict vs)) → Within db rows (.project p vs) X
  | distinct {p : Solutions κ} {seen : List Binding} {X : Binding → Prop} :
    Within db rows p X → Within db rows (.distinct p seen) X

theorem Joins.of_filterMap {L R X : Binding → Prop} (h : Joins L R X) {b : Binding} (hb : L b)
    {found : List Binding} (hfound : ∀ c ∈ found, R c) :
  ∀ m ∈ found.filterMap b.merge?, X m
  := by
  intro m hm
  obtain ⟨c, hc, hm⟩ := List.mem_filterMap.1 hm
  apply h b c m hb (hfound c hc) hm

theorem Within.mono {t : Solutions κ} {X Y : Binding → Prop} (h : Within db rows t X)
    (hXY : ∀ b, X b → Y b) :
  Within db rows t Y
  := by
  induction h generalizing Y with
  | ready hbs => exact .ready fun b hb => hXY b (hbs b hb)
  | scan ht =>
    apply Within.scan
    constructor
    · intro r hr
      obtain ⟨hwaiting, hreading, hbuffer⟩ := ht.current r hr
      exact ⟨fun hw is his i hi => hXY i (hwaiting hw is his i hi),
        fun c hc i hi => hXY i (hreading c hc i hi), fun i hi => hXY i (hbuffer i hi)⟩
    · intro g hg is his i hi
      apply hXY i (ht.rest g hg is his i hi)
  | join hl hr hX => exact .join hl hr fun a b m ha hb hm => hXY m (hX a b m ha hb hm)
  | joinCollect hl hr hb hfound hX =>
    exact .joinCollect hl hr hb hfound fun a b m ha hb hm => hXY m (hX a b m ha hb hm)
  | joinFound hfront hl hfound hX =>
    exact .joinFound (fun b hb => hXY b (hfront b hb)) hl hfound
      fun a b m ha hb hm => hXY m (hX a b m ha hb hm)
  | filter hp hX => exact .filter hp fun a ha he => hXY a (hX a ha he)
  | union _ ih => exact .union fun p hp => ih p hp hXY
  | unionAt _ _ ih ihs => exact .unionAt (ih hXY) fun p hp => ihs p hp hXY
  | extend hp hX => exact .extend hp fun a ha => hXY _ (hX a ha)
  | sort _ hfound ih => exact .sort (ih hXY) fun b hb => hXY b (hfound b hb)
  | project hp hX => exact .project hp fun a ha => hXY _ (hX a ha)
  | distinct _ ih => exact .distinct (ih hXY)

/-- A state reacts to the solutions of its active operand with solutions that fulfil the
condition. -/
theorem Within.of_active? {t p : Solutions κ} {X : Binding → Prop} (h : Within db rows t X)
    (hactive : t.active? = some p) :
  ∃ A, Within db rows p A
    ∧ ∀ e p', (∀ b, e = .item (.ok b) → A b) → Within db rows p' A
      → (∀ b, (t.react e p').1 = .item (.ok b) → X b) ∧ Within db rows (t.react e p').2.1 X
  := by
  cases h with
  | ready => cases hactive
  | scan => cases hactive
  | union => cases hactive
  | @join l r L R _ hl hr hX =>
    cases hactive
    use L, hl
    rintro ((f | b) | _ | _) p' he hp'
    · exact ⟨by rintro _ ⟨⟩, .join hp' hr hX⟩
    · exact ⟨by rintro _ ⟨⟩, .joinCollect hp' hr (he b rfl) (by simp) hX⟩
    · exact ⟨by rintro _ ⟨⟩, .join hp' hr hX⟩
    · exact ⟨by rintro _ ⟨⟩, .ready (by simp)⟩
  | @joinCollect l r b found L R _ hl hr hb hfound hX =>
    cases hactive
    use R, hr
    rintro ((f | c) | _ | _) p' he hp'
    · exact ⟨by rintro _ ⟨⟩, .joinFound (by simp) hl (by simp) hX⟩
    · exact ⟨by rintro _ ⟨⟩, .joinCollect hl hp' hb (List.forall_mem_cons.2 ⟨he c rfl, hfound⟩) hX⟩
    · exact ⟨by rintro _ ⟨⟩, .joinCollect hl hp' hb hfound hX⟩
    · have hreverse : ∀ c ∈ found.reverse, R c := by simpa using hfound
      exact ⟨by rintro _ ⟨⟩, .joinFound (hX.of_filterMap hb hreverse) hl hreverse hX⟩
  | @joinFound front l found L R _ hfront hl hfound hX =>
    cases front with
    | cons b front => cases hactive
    | nil =>
      cases hactive
      use L, hl
      rintro ((f | b) | _ | _) p' he hp'
      · exact ⟨by rintro _ ⟨⟩, .joinFound (by simp) hp' hfound hX⟩
      · exact ⟨by rintro _ ⟨⟩, .joinFound (hX.of_filterMap (he b rfl) hfound) hp' hfound hX⟩
      · exact ⟨by rintro _ ⟨⟩, .joinFound (by simp) hp' hfound hX⟩
      · exact ⟨by rintro _ ⟨⟩, .ready (by simp)⟩
  | @filter p e A _ hp hX =>
    cases hactive
    use A, hp
    rintro ((f | b) | _ | _) p' he hp'
    · exact ⟨by rintro _ ⟨⟩, .filter hp' hX⟩
    · constructor
      · intro c hc
        simp only [react] at hc
        split at hc
        · rename_i hb
          cases hc
          apply hX b (he b rfl) hb
        · cases hc
      · apply Within.filter hp' hX
    · exact ⟨by rintro _ ⟨⟩, .filter hp' hX⟩
    · exact ⟨by rintro _ ⟨⟩, .filter hp' hX⟩
  | unionAt hp hps =>
    cases hactive
    use X, hp
    rintro ((f | b) | _ | _) p' he hp'
    · exact ⟨by rintro _ ⟨⟩, .unionAt hp' hps⟩
    · exact ⟨he, .unionAt hp' hps⟩
    · exact ⟨by rintro _ ⟨⟩, .unionAt hp' hps⟩
    · exact ⟨by rintro _ ⟨⟩, .union hps⟩
  | @extend p v e A _ hp hX =>
    cases hactive
    use A, hp
    rintro ((f | b) | _ | _) p' he hp'
    · exact ⟨by rintro _ ⟨⟩, .extend hp' hX⟩
    · constructor
      · rintro c ⟨⟩
        apply hX b (he b rfl)
      · apply Within.extend hp' hX
    · exact ⟨by rintro _ ⟨⟩, .extend hp' hX⟩
    · exact ⟨by rintro _ ⟨⟩, .extend hp' hX⟩
  | @sort p keys found _ hp hfound =>
    cases hactive
    use X, hp
    rintro ((f | b) | _ | _) p' he hp'
    · exact ⟨by rintro _ ⟨⟩, .ready (by simp)⟩
    · exact ⟨by rintro _ ⟨⟩, .sort hp' (List.forall_mem_cons.2 ⟨he b rfl, hfound⟩)⟩
    · exact ⟨by rintro _ ⟨⟩, .sort hp' hfound⟩
    · use by rintro _ ⟨⟩
      apply Within.ready
      intro b hb
      apply hfound
      rw [sortBindings, List.mem_mergeSort, List.mem_reverse] at hb
      apply hb
  | @project p vs A _ hp hX =>
    cases hactive
    use A, hp
    rintro ((f | b) | _ | _) p' he hp'
    · exact ⟨by rintro _ ⟨⟩, .project hp' hX⟩
    · constructor
      · rintro c ⟨⟩
        apply hX b (he b rfl)
      · apply Within.project hp' hX
    · exact ⟨by rintro _ ⟨⟩, .project hp' hX⟩
    · exact ⟨by rintro _ ⟨⟩, .project hp' hX⟩
  | @distinct p seen _ hp =>
    cases hactive
    use X, hp
    rintro ((f | b) | _ | _) p' he hp'
    · exact ⟨by rintro _ ⟨⟩, .distinct hp'⟩
    · simp only [react]
      split
      · exact ⟨by rintro _ ⟨⟩, .distinct hp'⟩
      · exact ⟨he, .distinct hp'⟩
    · exact ⟨by rintro _ ⟨⟩, .distinct hp'⟩
    · exact ⟨by rintro _ ⟨⟩, .distinct hp'⟩

/-- A step gives a solution that fulfils the condition, even if something fails. -/
theorem Within.step (hB : B.Unreliable db rows) {t : Solutions κ} {X : Binding → Prop}
    (h : Within db rows t X) (s : σ) :
  (∀ b, (step B n t s).1 = .item (.ok b) → X b) ∧ Within db rows (step B n t s).2.1 X
  := by
  induction t using step_induction generalizing s X with
  | active t p hactive ih =>
    obtain ⟨A, hp, hreact⟩ := h.of_active? hactive
    obtain ⟨hitem, hp'⟩ := ih hp s
    rw [step_of_active? hactive]
    apply hreact _ _ hitem hp'
  | scan t =>
    cases h with
    | scan ht =>
      obtain ⟨hitem, ht'⟩ := ht.step hB s (n := n)
      exact ⟨hitem, .scan ht'⟩
  | ready_nil => exact ⟨by rintro _ ⟨⟩, h⟩
  | ready_cons b bs =>
    cases h with
    | ready hbs =>
      rw [List.forall_mem_cons] at hbs
      refine ⟨?_, .ready hbs.2⟩
      rintro c ⟨⟩
      apply hbs.1
  | joinFound b front l found =>
    cases h with
    | joinFound hfront hl hfound hX =>
      rw [List.forall_mem_cons] at hfront
      refine ⟨?_, .joinFound hfront.2 hl hfound hX⟩
      rintro c ⟨⟩
      apply hfront.1
  | union_nil => exact ⟨by rintro _ ⟨⟩, h⟩
  | union_cons p ps =>
    cases h with
    | union hps =>
      rw [List.forall_mem_cons] at hps
      exact ⟨by rintro _ ⟨⟩, .unionAt hps.1 hps.2⟩
  | take_zero p => cases h

/-- All the solutions of a run fulfil the condition, before and after errors. -/
theorem Within.of_pulls (hB : B.Unreliable db rows) {t t' : Solutions κ} {X : Binding → Prop}
    (ht : Within db rows t X) {s s' : σ} {is : Items} (h : (machine B n).Pulls t s is t' s')
    {b : Binding} (hb : .ok b ∈ is) :
  X b
  := by
  have hstep : ∀ (is : Items) (t : Solutions κ) (s : σ) e t' s',
      Within db rows t X ∧ (∀ b, .ok b ∈ is → X b) → (machine B n).step t s = (e, t', s')
      → Within db rows t' X ∧ ∀ b, .ok b ∈ is ++ eventItems e → X b := by
    rintro is t s e t' s' ⟨ht, his⟩ hstep
    obtain ⟨hitem, ht'⟩ := ht.step hB s (n := n)
    rw [show Solutions.step B n t s = (e, t', s') from hstep] at hitem ht'
    use ht'
    intro b hb
    obtain hb | hb := List.mem_append.1 hb
    · apply his b hb
    · apply hitem
      cases e with
      | item r => rw [List.mem_singleton.1 hb]
      | quiet => simp [eventItems] at hb
      | finished => simp [eventItems] at hb
  have hstart : Within db rows t X ∧ ∀ b, .ok b ∈ ([] : Items) → X b := ⟨ht, by simp⟩
  apply (h.preserves hstep hstart).2 b hb

end Solutions

namespace Plan

mutual

/-- No part of the plan has fewer solutions if one of its operands has more: nothing is optional or
taken away, and solutions are neither counted nor compared with the next one. -/
def isMonotone : Plan → Bool
  | .maps _ => true
  | .join l r => isMonotone l && isMonotone r
  | .leftJoin _ _ _ => false
  | .filter p _ => isMonotone p
  | .union ps => areMonotone ps
  | .minus _ _ => false
  | .extend p _ _ => isMonotone p
  | .values _ => true
  | .orderBy p _ => isMonotone p
  | .project p _ => isMonotone p
  | .distinct p => isMonotone p
  | .reduced _ => false
  | .slice _ _ _ => false

/-- No part of the plans has fewer solutions if one of its operands has more. -/
def areMonotone : List Plan → Bool
  | [] => true
  | p :: ps => isMonotone p && areMonotone ps

end

theorem areMonotone_eq_all (ps : List Plan) :
  areMonotone ps = ps.all isMonotone
  := by
  induction ps with
  | nil => rfl
  | cons p ps ih => rw [areMonotone, ih, List.all_cons]

variable {B : Backend σ κ} {db : Database} {rows : κ → List Row} {n : Nat}

/-- Every solution fulfils the empty condition. -/
theorem within_true {p : Plan} (hp : p.isMonotone = true) :
  Solutions.Within db rows (Solutions.ofPlan p) fun _ => True
  := by
  induction p with
  | maps ms => exact .scan ⟨by rintro _ ⟨⟩, fun _ _ _ _ _ _ => True.intro⟩
  | join l r ihl ihr =>
    rw [isMonotone, Bool.and_eq_true] at hp
    exact .join (ihl hp.1) (ihr hp.2) fun _ _ _ _ _ _ => True.intro
  | leftJoin l r e => cases hp
  | filter p e ih => exact .filter (ih hp) fun _ _ _ => True.intro
  | union ps ih =>
    rw [isMonotone, areMonotone_eq_all, List.all_eq_true] at hp
    exact .union fun p hmem => ih p hmem (hp p hmem)
  | minus l r => cases hp
  | extend p v e ih => exact .extend (ih hp) fun _ _ => True.intro
  | values bs => exact .ready fun _ _ => True.intro
  | orderBy p keys ih => exact .sort (ih hp) (by simp)
  | project p vs ih => exact .project (ih hp) fun _ _ => True.intro
  | distinct p ih => exact .distinct (ih hp)
  | reduced p => cases hp
  | slice p start length => cases hp

theorem exists_of_forall₂ {α β : Type} {R : α → β → Prop} {as : List α} {bs : List β}
    (h : List.Forall₂ R as bs) {a : α} (ha : a ∈ as) :
  ∃ b ∈ bs, R a b
  := by
  induction h with
  | nil => simp at ha
  | cons hab _ ih =>
    obtain rfl | ha := List.mem_cons.1 ha
    · exact ⟨_, List.mem_cons_self, hab⟩
    · obtain ⟨b, hb, hab⟩ := ih ha
      use b, List.mem_cons_of_mem _ hb

/-- The solutions that are found are those of the plan. -/
theorem within_of_answers (hn : 0 < n) {p : Plan} (hp : p.isMonotone = true) {xs : List Binding}
    (h : p.Answers db n xs) :
  Solutions.Within db rows (Solutions.ofPlan p) (· ∈ xs)
  := by
  induction p generalizing xs with
  | maps ms =>
    have heq : ((Group.ofList ms).flatMap fun g => delivered (g.answer db)) = xs.map .ok :=
      h.items_eq (Solutions.gives_scan (Scan.gives_groups hn _))
    refine .scan ⟨by rintro _ ⟨⟩, ?_⟩
    intro g hg is his b hb
    have hmem : Except.ok b ∈ xs.map (.ok : Binding → Except EvalError Binding) := by
      rw [← heq]
      apply List.mem_flatMap_of_mem hg
      rw [his, delivered]
      apply List.mem_map_of_mem hb
    simpa using hmem
  | join l r ihl ihr =>
    rw [isMonotone, Bool.and_eq_true] at hp
    obtain ⟨as, has, ⟨rfl, rfl⟩ | ⟨bs, hbs, rfl⟩⟩ := h.of_join hn
    · refine .join (ihl hp.1 has) (within_true hp.2) ?_
      intro a b m ha
      simp at ha
    · refine .join (ihl hp.1 has) (ihr hp.2 hbs) ?_
      intro a b m ha hb hm
      apply List.mem_flatMap_of_mem ha
      apply List.mem_filterMap.2 ⟨b, hb, hm⟩
  | leftJoin l r e => cases hp
  | filter p e ih =>
    obtain ⟨as, has, rfl⟩ := h.of_filter hn
    exact .filter (ih hp has) fun a ha he => List.mem_filter.2 ⟨ha, he⟩
  | union ps ih =>
    rw [isMonotone, areMonotone_eq_all, List.all_eq_true] at hp
    obtain ⟨xss, hxss, rfl⟩ := h.of_union hn
    apply Solutions.Within.union
    intro p hmem
    obtain ⟨ys, hys, hanswers⟩ := exists_of_forall₂ hxss hmem
    apply (ih p hmem (hp p hmem) hanswers).mono
    intro b hb
    apply List.mem_flatten_of_mem hys hb
  | minus l r => cases hp
  | extend p v e ih =>
    obtain ⟨as, has, rfl⟩ := h.of_extend hn
    exact .extend (ih hp has) fun a ha => List.mem_map_of_mem ha
  | values bs =>
    rw [h.of_values]
    exact .ready fun b hb => hb
  | orderBy p keys ih =>
    obtain ⟨as, has, rfl⟩ := h.of_orderBy hn
    refine .sort ((ih hp has).mono ?_) (by simp)
    intro b hb
    rw [sortBindings, List.mem_mergeSort]
    apply hb
  | project p vs ih =>
    obtain ⟨as, has, rfl⟩ := h.of_project hn
    exact .project (ih hp has) fun a ha => List.mem_map_of_mem ha
  | distinct p ih =>
    obtain ⟨as, has, rfl⟩ := h.of_distinct hn
    refine .distinct ((ih hp has).mono ?_)
    intro b hb
    rw [Database.mem_dedup]
    use hb, by simp
  | reduced p => cases hp
  | slice p start length => cases hp

/-- What an unreliable backend gives up to its first error are the first solutions of the plan.  If
nothing is optional or taken away, all that it gives are solutions of the plan, before and after
errors. -/
theorem unreliable_gives_solutions (hn : 0 < n) (hB : B.Unreliable db rows) {p : Plan}
    (hp : p.isOffsetless = true) {xs : List Binding} (hxs : p.Delivers db n (xs.map .ok))
    {t : Solutions κ} {s s' : σ} {is : Items}
    (h : (Solutions.machine B n).Pulls (Solutions.ofPlan p) s is t s') :
  Solutions.UpToError xs is ∧ (p.isMonotone = true → ∀ b, .ok b ∈ is → b ∈ xs)
  := by
  rw [← answers_iff_delivers hn] at hxs
  constructor
  · apply Solutions.upToError_of_pulls hB (Solutions.isStraight_ofPlan hp) _ h
    rw [Solutions.map_ofPlan]
    apply hxs
  · intro hmonotone b hb
    apply (within_of_answers hn hmonotone hxs).of_pulls hB h hb

/-! ### Examples -/

theorem exists_eq_error_of_toOption {is : Items} {xs : List Binding}
    (h : is.map Except.toOption = none :: xs.map some) :
  ∃ e, is = .error e :: xs.map .ok
  := by
  obtain ⟨r, is, rfl, hr, his⟩ := List.map_eq_cons_iff.1 h
  cases r with
  | ok b => cases hr
  | error e =>
    use e
    rw [eq_map_ok_of_toOption his]

/-- What a run delivers can be computed. -/
theorem exists_completes_of_pullAll {s : σ} {p : Plan} {fuel k : Nat} {os : List (Option Binding)}
    (h : ((Solutions.machine B n).pullAll fuel k (Solutions.ofPlan p) s).map
      (fun r => r.1.map Except.toOption) = some os) :
  ∃ is s', (Solutions.machine B n).Completes (Solutions.ofPlan p) s is s'
    ∧ is.map Except.toOption = os
  := by
  obtain ⟨⟨is, s'⟩, hpull, his⟩ := Option.map_eq_some_iff.1 h
  use is, s', completes_of_pullAll hpull

/-- Persons with their names, twice. -/
def doubled : Plan := .join (.maps [personMap]) (.maps [personMap])

/-- The second fetch fails.  The person that was read before is found all the same. -/
theorem unreliable_gives_solutions_doubled :
  0 < 2 ∧ (memoryBackend personDatabase ⟨some 1, none⟩).Unreliable personDatabase Cursor.rows
    ∧ doubled.isOffsetless = true ∧ doubled.isMonotone = true
    ∧ doubled.Delivers personDatabase 2 ([nameBinding "1" "Ann", nameBinding "2" "Bob"].map .ok)
    ∧ ∃ e t s', (Solutions.machine (memoryBackend personDatabase ⟨some 1, none⟩) 2).Pulls
        (Solutions.ofPlan doubled) Store.start [.error e, .ok (nameBinding "1" "Ann")] t s'
      ∧ Solutions.UpToError [nameBinding "1" "Ann", nameBinding "2" "Bob"]
        [.error e, .ok (nameBinding "1" "Ann")]
      ∧ nameBinding "1" "Ann" ∈ [nameBinding "1" "Ann", nameBinding "2" "Bob"]
  := by
  have hB := unreliable_memoryBackend personDatabase ⟨some 1, none⟩
  have hxs : doubled.Delivers personDatabase 2
      ([nameBinding "1" "Ann", nameBinding "2" "Bob"].map .ok) := by
    obtain ⟨is, s', hrun, his⟩ := @exists_completes_of_pullAll _ _
      (memoryBackend personDatabase Faults.none) 2 Store.start doubled 20 5
      ([nameBinding "1" "Ann", nameBinding "2" "Bob"].map some) (by decide)
    rw [← eq_map_ok_of_toOption his]
    apply hrun.delivers
  obtain ⟨is, s', ⟨t, s₁, _, _, hpulls, -⟩, his⟩ := @exists_completes_of_pullAll _ _
    (memoryBackend personDatabase ⟨some 1, none⟩) 2 Store.start doubled 20 5
    (none :: [nameBinding "1" "Ann"].map some) (by decide)
  obtain ⟨e, rfl⟩ := exists_eq_error_of_toOption his
  have h := unreliable_gives_solutions (by decide) hB (by decide) hxs hpulls
  exact ⟨by decide, hB, by decide, by decide, hxs, e, t, s₁, hpulls, h.1,
    h.2 (by decide) _ (by simp)⟩

/-- A person with a name, if there is one. -/
def optionalName : Plan :=
  .leftJoin (.values [personBinding "1"]) (.maps [personMap]) (.bound ⟨"name"⟩)

/-- Two persons, unless they have a name. -/
def nameless : Plan := .minus (.values [personBinding "1", personBinding "2"]) (.maps [personMap])

/-- When the names cannot be read, a person is given without its name, and a person with a name is not
taken away. -/
theorem fabricated_without_names :
  (∃ e s', (Solutions.machine (memoryBackend personDatabase ⟨some 0, none⟩) 1).Completes
      (Solutions.ofPlan optionalName) Store.start [.error e, .ok (personBinding "1")] s')
    ∧ optionalName.Delivers personDatabase 1 [.ok (nameBinding "1" "Ann")]
    ∧ (∃ e s', (Solutions.machine (memoryBackend personDatabase ⟨some 0, none⟩) 1).Completes
      (Solutions.ofPlan nameless) Store.start [.error e, .ok (personBinding "2")] s')
    ∧ nameless.Delivers personDatabase 1 []
    ∧ personBinding "1" ≠ nameBinding "1" "Ann"
  := by
  have hfailing : ∀ {p : Plan} {b : Binding},
      ((Solutions.machine (memoryBackend personDatabase ⟨some 0, none⟩) 1).pullAll 20 5
        (Solutions.ofPlan p) Store.start).map (fun r => r.1.map Except.toOption)
          = some (none :: [b].map some)
      → ∃ e s', (Solutions.machine (memoryBackend personDatabase ⟨some 0, none⟩) 1).Completes
        (Solutions.ofPlan p) Store.start [.error e, .ok b] s' := by
    intro p b h
    obtain ⟨is, s', hrun, his⟩ := exists_completes_of_pullAll h
    obtain ⟨e, rfl⟩ := exists_eq_error_of_toOption his
    exact ⟨e, s', hrun⟩
  have hreliable : ∀ {p : Plan} {xs : List Binding},
      ((Solutions.machine (memoryBackend personDatabase Faults.none) 1).pullAll 20 5
        (Solutions.ofPlan p) Store.start).map (fun r => r.1.map Except.toOption)
          = some (xs.map some)
      → p.Delivers personDatabase 1 (xs.map .ok) := by
    intro p xs h
    obtain ⟨is, s', hrun, his⟩ := exists_completes_of_pullAll h
    rw [← eq_map_ok_of_toOption his]
    apply hrun.delivers
  refine ⟨hfailing ?_, @hreliable _ [nameBinding "1" "Ann"] ?_, hfailing ?_, @hreliable _ [] ?_,
    ?_⟩ <;> decide

end Plan

end RelGraph.Engine
