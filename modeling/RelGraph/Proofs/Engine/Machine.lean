import Mathlib.Tactic.Common
import RelGraph.Engine.Machine

/-!
# Reading to the end

What a machine delivers: the items that pulling gives one after the other, up to the end.  A
machine may give the same items from every store of some kind; then its states can be followed
without the store.
-/

namespace RelGraph.Engine

/-! ### Pulling to the end -/

section

variable {σ τ ι : Type} {pull : Nat → τ → σ → Pulled ι × τ × σ}

/-- The items that are pulled up to the end, each within a bound of its own. -/
inductive Delivered (pull : Nat → τ → σ → Pulled ι × τ × σ) :
    τ → σ → List (Except EvalError ι) → Prop where
  | ended {t t' : τ} {s s' : σ} (fuel : Nat) :
    pull fuel t s = (.ended, t', s') → Delivered pull t s []
  | item {t t' : τ} {s s' : σ} {r : Except EvalError ι} {rs : List (Except EvalError ι)}
      (fuel : Nat) :
    pull fuel t s = (.item r, t', s') → Delivered pull t' s' rs → Delivered pull t s (r :: rs)

/-- A larger bound does not change what is found within a smaller one. -/
def Steady (pull : Nat → τ → σ → Pulled ι × τ × σ) : Prop :=
  ∀ fuel fuel' t s p t' s', fuel ≤ fuel' → p ≠ .pending → pull fuel t s = (p, t', s')
    → pull fuel' t s = (p, t', s')

theorem Steady.unique (h : Steady pull) {fuel fuel' : Nat} {t t₁ t₂ : τ} {s s₁ s₂ : σ}
    {p q : Pulled ι} (hp : p ≠ .pending) (hq : q ≠ .pending) (h₁ : pull fuel t s = (p, t₁, s₁))
    (h₂ : pull fuel' t s = (q, t₂, s₂)) :
  (p, t₁, s₁) = (q, t₂, s₂)
  := by
  rw [← h _ _ _ _ _ _ _ (Nat.le_max_left fuel fuel') hp h₁,
    ← h _ _ _ _ _ _ _ (Nat.le_max_right fuel fuel') hq h₂]

theorem Delivered.unique (hpull : Steady pull) {t : τ} {s : σ} (h : Delivered pull t s is)
    (h' : Delivered pull t s js) :
  is = js
  := by
  induction h generalizing js with
  | ended fuel hended =>
    cases h' with
    | ended => rfl
    | item fuel' hitem => cases hpull.unique (by simp) (by simp) hended hitem
  | item fuel hitem _ ih =>
    cases h' with
    | ended fuel' hended => cases hpull.unique (by simp) (by simp) hitem hended
    | item fuel' hitem' hrest =>
      cases hpull.unique (by simp) (by simp) hitem hitem'
      rw [ih hrest]

end

namespace Machine

variable {σ τ ι : Type} {m : Machine σ τ ι} {is js : List (Except EvalError ι)}

/-! ### Pulling -/

/-- The items that are pulled up to the end. -/
inductive Delivers (m : Machine σ τ ι) : τ → σ → List (Except EvalError ι) → Prop where
  | ended {t t' : τ} {s s' : σ} (fuel : Nat) :
    m.pull fuel t s = (.ended, t', s') → Delivers m t s []
  | item {t t' : τ} {s s' : σ} {r : Except EvalError ι} {rs : List (Except EvalError ι)}
      (fuel : Nat) :
    m.pull fuel t s = (.item r, t', s') → Delivers m t' s' rs → Delivers m t s (r :: rs)

/-- A larger bound does not change what was found within a smaller one. -/
theorem pull_of_le {fuel fuel' : Nat} (h : fuel ≤ fuel') {t t' : τ} {s s' : σ} {p : Pulled ι}
    (hp : p ≠ .pending) (hpull : m.pull fuel t s = (p, t', s')) :
  m.pull fuel' t s = (p, t', s')
  := by
  induction fuel generalizing t s fuel' with
  | zero =>
    cases hpull
    contradiction
  | succ fuel ih =>
    cases fuel' with
    | zero => apply absurd h (Nat.not_succ_le_zero fuel)
    | succ fuel' =>
      rw [pull] at hpull ⊢
      split at hpull
      · apply hpull
      · apply hpull
      · apply ih (Nat.le_of_succ_le_succ h) hpull

theorem steady_pull (m : Machine σ τ ι) :
  Steady m.pull
  := by
  intro fuel fuel' t s p t' s' hle hp h
  apply pull_of_le hle hp h

theorem steady_pullGuarded (m : Machine σ τ ι) (cancelled : σ → Bool) :
  Steady (m.pullGuarded cancelled)
  := by
  intro fuel fuel' t s p t' s' hle hp h
  cases t with
  | none => apply h
  | some t =>
    rw [pullGuarded] at h ⊢
    split at h
    · rename_i hs
      rw [if_pos hs, h]
    · rename_i hs
      rw [if_neg hs]
      cases h
      rw [pull_of_le hle hp rfl]

/-- Two bounds within which something is found give the same. -/
theorem pull_unique {fuel fuel' : Nat} {t t₁ t₂ : τ} {s s₁ s₂ : σ} {p q : Pulled ι}
    (hp : p ≠ .pending) (hq : q ≠ .pending) (h : m.pull fuel t s = (p, t₁, s₁))
    (h' : m.pull fuel' t s = (q, t₂, s₂)) :
  (p, t₁, s₁) = (q, t₂, s₂)
  := m.steady_pull.unique hp hq h h'

theorem Delivers.delivered {t : τ} {s : σ} (h : m.Delivers t s is) :
  Delivered m.pull t s is
  := by
  induction h with
  | ended fuel hpull => apply Delivered.ended fuel hpull
  | item fuel hpull _ ih => apply Delivered.item fuel hpull ih

theorem Delivers.unique {t : τ} {s : σ} (h : m.Delivers t s is) (h' : m.Delivers t s js) :
  is = js
  := h.delivered.unique m.steady_pull h'.delivered

/-- A step that gives nothing yet does not change what is delivered. -/
theorem Delivers.of_quiet {t t' : τ} {s s' : σ} (hstep : m.step t s = (.quiet, t', s'))
    (h : m.Delivers t' s' is) :
  m.Delivers t s is
  := by
  cases h with
  | ended fuel hpull =>
    apply Delivers.ended (fuel + 1)
    rw [pull, hstep]
    apply hpull
  | item fuel hpull hrest =>
    apply Delivers.item (fuel + 1) _ hrest
    rw [pull, hstep]
    apply hpull

/-! ### Runs -/

/-- The items that are pulled one after the other, and where that leads. -/
inductive Pulls (m : Machine σ τ ι) : τ → σ → List (Except EvalError ι) → τ → σ → Prop where
  | none (t : τ) (s : σ) : Pulls m t s [] t s
  | item {t t' t'' : τ} {s s' s'' : σ} {r : Except EvalError ι} {rs : List (Except EvalError ι)}
      (fuel : Nat) :
    m.pull fuel t s = (.item r, t', s') → Pulls m t' s' rs t'' s'' → Pulls m t s (r :: rs) t'' s''

/-- The items that are pulled up to the end, and the store that is left. -/
def Completes (m : Machine σ τ ι) (t : τ) (s : σ) (is : List (Except EvalError ι)) (s' : σ) :
    Prop :=
  ∃ t₁ s₁ fuel t', m.Pulls t s is t₁ s₁ ∧ m.pull fuel t₁ s₁ = (.ended, t', s')

theorem Completes.delivers {t : τ} {s s' : σ} (h : m.Completes t s is s') :
  m.Delivers t s is
  := by
  obtain ⟨t₁, s₁, fuel, t', hpulls, hend⟩ := h
  induction hpulls with
  | none t s => apply Delivers.ended fuel hend
  | item fuel' hpull _ ih => apply Delivers.item fuel' hpull (ih hend)

theorem Completes.of_finished {t t' : τ} {s s' : σ} (hstep : m.step t s = (.finished, t', s')) :
  m.Completes t s [] s'
  := by
  use t, s, 1, t', .none t s
  rw [pull, hstep]

theorem Completes.of_item {t t' : τ} {s s' s'' : σ} {r : Except EvalError ι}
    (hstep : m.step t s = (.item r, t', s')) (h : m.Completes t' s' is s'') :
  m.Completes t s (r :: is) s''
  := by
  obtain ⟨t₁, s₁, fuel, t₂, hpulls, hend⟩ := h
  have hpull : m.pull 1 t s = (.item r, t', s') := by rw [pull, hstep]
  exact ⟨t₁, s₁, fuel, t₂, .item 1 hpull hpulls, hend⟩

theorem Completes.of_quiet {t t' : τ} {s s' s'' : σ} (hstep : m.step t s = (.quiet, t', s'))
    (h : m.Completes t' s' is s'') :
  m.Completes t s is s''
  := by
  have hpull : ∀ fuel, m.pull (fuel + 1) t s = m.pull fuel t' s' := by
    intro fuel
    rw [pull, hstep]
  obtain ⟨t₁, s₁, fuel, t₂, hpulls, hend⟩ := h
  cases hpulls with
  | none => exact ⟨t, s, fuel + 1, t₂, .none t s, (hpull fuel).trans hend⟩
  | item fuel' hitem hrest =>
    exact ⟨t₁, s₁, fuel, t₂, .item (fuel' + 1) ((hpull fuel').trans hitem) hrest, hend⟩

theorem Completes.unique {t : τ} {s s₁ s₂ : σ} (h : m.Completes t s is s₁)
    (h' : m.Completes t s js s₂) :
  is = js ∧ s₁ = s₂
  := by
  obtain ⟨t₁, s₃, fuel, t₂, hpulls, hend⟩ := h
  obtain ⟨t₃, s₄, fuel', t₄, hpulls', hend'⟩ := h'
  induction hpulls generalizing js with
  | none =>
    cases hpulls' with
    | none =>
      cases pull_unique (by simp) (by simp) hend hend'
      exact ⟨rfl, rfl⟩
    | item _ hpull' => cases pull_unique (by simp) (by simp) hend hpull'
  | item _ hpull _ ih =>
    cases hpulls' with
    | none => cases pull_unique (by simp) (by simp) hpull hend'
    | item _ hpull' hrest' =>
      cases pull_unique (by simp) (by simp) hpull hpull'
      obtain ⟨rfl, rfl⟩ := ih hend hrest'
      exact ⟨rfl, rfl⟩

/-- Induction on the steps of a run to the end. -/
theorem Completes.steps_induction {motive : τ → σ → List (Except EvalError ι) → Prop}
    (finished : ∀ {t t' : τ} {s s' : σ}, m.step t s = (.finished, t', s') → motive t s [])
    (item : ∀ {t t' : τ} {s s' : σ} {r : Except EvalError ι} {is : List (Except EvalError ι)},
      m.step t s = (.item r, t', s') → motive t' s' is → motive t s (r :: is))
    (quiet : ∀ {t t' : τ} {s s' : σ} {is : List (Except EvalError ι)},
      m.step t s = (.quiet, t', s') → motive t' s' is → motive t s is) {t : τ} {s s' : σ}
    (h : m.Completes t s is s') :
  motive t s is
  := by
  obtain ⟨t₁, s₁, fuel, t', hpulls, hend⟩ := h
  induction hpulls with
  | none t s =>
    induction fuel generalizing t s with
    | zero => cases hend
    | succ fuel ih =>
      rw [pull] at hend
      split at hend
      · cases hend
      · rename_i hstep
        apply finished hstep
      · rename_i t₂ s₂ hstep
        apply quiet hstep (ih t₂ s₂ hend)
  | @item t t₂ _ s s₂ _ r rs fuel' hpull _ ih =>
    have hrest := ih hend
    clear ih
    induction fuel' generalizing t s with
    | zero => cases hpull
    | succ fuel' ih =>
      rw [pull] at hpull
      split at hpull
      · rename_i hstep
        cases hpull
        apply item hstep hrest
      · cases hpull
      · rename_i hstep
        apply quiet hstep (ih hpull)

/-- Pulls until the end, at most `k` items, each within `fuel` steps. -/
def pullAll (m : Machine σ τ ι) (fuel : Nat) :
    Nat → τ → σ → Option (List (Except EvalError ι) × σ)
  | 0, _, _ => none
  | k + 1, t, s =>
    match m.pull fuel t s with
    | (.item r, t', s') => (m.pullAll fuel k t' s').map fun p => (r :: p.1, p.2)
    | (.ended, _, s') => some ([], s')
    | (.pending, _, _) => none

theorem completes_of_pullAll {fuel k : Nat} {t : τ} {s s' : σ}
    (h : m.pullAll fuel k t s = some (is, s')) :
  m.Completes t s is s'
  := by
  induction k generalizing t s is with
  | zero => cases h
  | succ k ih =>
    rw [pullAll] at h
    split at h
    · rename_i r t₁ s₁ hpull
      obtain ⟨⟨rs, s₂⟩, hrest, heq⟩ := Option.map_eq_some_iff.1 h
      cases heq
      obtain ⟨t₂, s₂, fuel', t', hpulls, hend⟩ := ih hrest
      exact ⟨t₂, s₂, fuel', t', .item fuel hpull hpulls, hend⟩
    · rename_i t₁ s₁ hpull
      cases h
      exact ⟨t, s, fuel, t₁, .none t s, hpull⟩
    · cases h

/-- The item of an event, if it has one. -/
def eventItems : Event ι → List (Except EvalError ι)
  | .item r => [r]
  | .quiet => []
  | .finished => []

/-- The item that was pulled, if there is one. -/
def pulledItems : Pulled ι → List (Except EvalError ι)
  | .item r => [r]
  | .ended => []
  | .pending => []

section

variable {P : List (Except EvalError ι) → τ → σ → Prop}
  (hstep : ∀ is t s e t' s', P is t s → m.step t s = (e, t', s') → P (is ++ eventItems e) t' s')

include hstep

/-- What each step preserves is preserved by pulling. -/
theorem pull_preserves {fuel : Nat} {t t' : τ} {s s' : σ} {p : Pulled ι} (h : P is t s)
    (hpull : m.pull fuel t s = (p, t', s')) :
  P (is ++ pulledItems p) t' s'
  := by
  induction fuel generalizing t s with
  | zero =>
    cases hpull
    rw [pulledItems, List.append_nil]
    apply h
  | succ fuel ih =>
    rw [pull] at hpull
    split at hpull
    · rename_i heq
      cases hpull
      apply hstep is t s _ t' s' h heq
    · rename_i heq
      cases hpull
      apply hstep is t s _ t' s' h heq
    · rename_i t₁ s₁ heq
      have h₁ := hstep is t s _ t₁ s₁ h heq
      rw [eventItems, List.append_nil] at h₁
      apply ih h₁ hpull

/-- What each step preserves is preserved by every run. -/
theorem Pulls.preserves {t t' : τ} {s s' : σ} (h : P is t s) (hpulls : m.Pulls t s js t' s') :
  P (is ++ js) t' s'
  := by
  induction hpulls generalizing is with
  | none t s =>
    rw [List.append_nil]
    apply h
  | item fuel hpull _ ih =>
    have h₁ := ih (pull_preserves hstep h hpull)
    rwa [List.append_assoc] at h₁

theorem Completes.preserves {t : τ} {s s' : σ} (h : P is t s) (hcompletes : m.Completes t s js s') :
  ∃ t', P (is ++ js) t' s'
  := by
  obtain ⟨t₁, s₁, fuel, t', hpulls, hend⟩ := hcompletes
  have h' := pull_preserves hstep (hpulls.preserves hstep h) hend
  rw [pulledItems, List.append_nil] at h'
  use t'

end

/-- A machine on richer stores, whose steps are the same on what is visible of them, makes the same
runs. -/
theorem Completes.lift {σ' : Type} {m' : Machine σ' τ ι} {f : σ' → σ}
    (hstep : ∀ t s, m.step t (f s) = ((m'.step t s).1, (m'.step t s).2.1, f (m'.step t s).2.2))
    {t : τ} {s : σ'} {s₁ : σ} (h : m.Completes t (f s) is s₁) :
  ∃ s', f s' = s₁ ∧ m'.Completes t s is s'
  := by
  have hpull : ∀ fuel t s, m.pull fuel t (f s)
      = ((m'.pull fuel t s).1, (m'.pull fuel t s).2.1, f (m'.pull fuel t s).2.2) := by
    intro fuel
    induction fuel with
    | zero =>
      intro t s
      rfl
    | succ fuel ih =>
      intro t s
      rw [pull, pull, hstep]
      obtain ⟨_ | _ | _, t', s'⟩ := m'.step t s
      · rfl
      · apply ih
      · rfl
  obtain ⟨t₁, s₂, fuel, t', hpulls, hend⟩ := h
  generalize hs : f s = s₀ at hpulls
  induction hpulls generalizing s with
  | none t s₀ =>
    rw [← hs, hpull] at hend
    rcases hx : m'.pull fuel t s with ⟨_, _, s'⟩
    rw [hx] at hend
    cases hend
    exact ⟨s', rfl, t, s, fuel, _, .none t s, hx⟩
  | @item t t' t'' s₀ _ _ r rs fuel' hitem _ ih =>
    rw [← hs, hpull] at hitem
    rcases hx : m'.pull fuel' t s with ⟨_, _, s'⟩
    rw [hx] at hitem
    cases hitem
    obtain ⟨s₃, hs₃, t₂, s₂, fuel₂, t₃, hpulls, hend⟩ := ih hend rfl
    exact ⟨s₃, hs₃, t₂, s₂, fuel₂, t₃, .item fuel' hx hpulls, hend⟩

/-! ### Interrupted runs -/

/-- Steps one after the other, and what they give.  Between two steps the store may change in any
way that `M` allows. -/
inductive Runs (m : Machine σ τ ι) (M : σ → σ → Prop) (t : τ) (s : σ) :
    List (Event ι) → τ → σ → Prop where
  | start : Runs m M t s [] t s
  | meanwhile {es : List (Event ι)} {t' : τ} {s' s'' : σ} :
    Runs m M t s es t' s' → M s' s'' → Runs m M t s es t' s''
  | step {es : List (Event ι)} {e : Event ι} {t' t'' : τ} {s' s'' : σ} :
    Runs m M t s es t' s' → m.step t' s' = (e, t'', s'') → Runs m M t s (es ++ [e]) t'' s''

/-- What is pulled when a step gives something. -/
def pulled? : Event ι → Option (Pulled ι)
  | .item r => some (.item r)
  | .quiet => none
  | .finished => some .ended

section

variable {M : σ → σ → Prop} {t t' : τ} {s s' : σ} {es : List (Event ι)}

/-- What each step and each change of the store preserves is preserved by every run. -/
theorem Runs.preserves {P : List (Except EvalError ι) → τ → σ → Prop}
    (hstep : ∀ is t s e t' s', P is t s → m.step t s = (e, t', s') → P (is ++ eventItems e) t' s')
    (hmeanwhile : ∀ is t s s', P is t s → M s s' → P is t s') (h : m.Runs M t s es t' s')
    (hstart : P [] t s) :
  P (es.flatMap eventItems) t' s'
  := by
  induction h with
  | start => apply hstart
  | meanwhile _ hs ih => apply hmeanwhile _ _ _ _ ih hs
  | step _ hs ih =>
    rw [List.flatMap_append, List.flatMap_singleton]
    apply hstep _ _ _ _ _ _ ih hs

/-- What holds after each step that gives some event holds after a run that ends with it. -/
theorem Runs.of_getLast? {e : Event ι} {Q : τ → σ → Prop}
    (hstep : ∀ t s t' s', m.step t s = (e, t', s') → Q t' s')
    (hmeanwhile : ∀ t s s', Q t s → M s s' → Q t s') (h : m.Runs M t s es t' s')
    (hlast : es.getLast? = some e) :
  Q t' s'
  := by
  induction h with
  | start => cases hlast
  | meanwhile _ hs ih => apply hmeanwhile _ _ _ (ih hlast) hs
  | step _ hs _ =>
    rw [List.getLast?_concat] at hlast
    cases hlast
    apply hstep _ _ _ _ hs

/-- Pulling is a run that is not interrupted, up to the first step that gives something. -/
theorem Runs.of_pull {fuel : Nat} {p : Pulled ι} (h : m.Runs M t s es t' s') {t'' : τ} {s'' : σ}
    (hpull : m.pull fuel t' s' = (p, t'', s'')) (hp : p ≠ .pending) :
  ∃ k e, pulled? e = some p ∧ m.Runs M t s (es ++ List.replicate k Event.quiet ++ [e]) t'' s''
  := by
  induction fuel generalizing es t' s' with
  | zero =>
    cases hpull
    contradiction
  | succ fuel ih =>
    rw [pull] at hpull
    split at hpull
    · rename_i r _ _ hs
      cases hpull
      use 0, .item r, rfl
      simpa using h.step hs
    · rename_i hs
      cases hpull
      use 0, .finished, rfl
      simpa using h.step hs
    · rename_i hs
      obtain ⟨k, e, he, hruns⟩ := ih (h.step hs) hpull
      use k + 1, e, he
      simpa [List.replicate_succ] using hruns

end

/-! ### Steps that do not depend on the store -/

/-- From every store of a kind the step gives the same, and a store of this kind. -/
def Steps (m : Machine σ τ ι) (I : σ → Prop) (t : τ) (e : Event ι) (t' : τ) : Prop :=
  ∀ s, I s → ∃ s', m.step t s = (e, t', s') ∧ I s'

/-- The items that steps from every store of a kind give, up to an end that lasts. -/
inductive Gives (m : Machine σ τ ι) (I : σ → Prop) : τ → List (Except EvalError ι) → Prop where
  | finished {t t' : τ} : m.Steps I t .finished t' → m.Steps I t' .finished t' → Gives m I t []
  | quiet {t t' : τ} {is : List (Except EvalError ι)} :
    m.Steps I t .quiet t' → Gives m I t' is → Gives m I t is
  | item {t t' : τ} {r : Except EvalError ι} {rs : List (Except EvalError ι)} :
    m.Steps I t (.item r) t' → Gives m I t' rs → Gives m I t (r :: rs)

/-- What steps give from every store of a kind is delivered from each of them. -/
theorem Gives.delivers {I : σ → Prop} {t : τ} (h : m.Gives I t is) {s : σ} (hs : I s) :
  m.Delivers t s is
  := by
  induction h generalizing s with
  | finished hstep _ =>
    obtain ⟨s', hstep, -⟩ := hstep s hs
    apply Delivers.ended 1
    rw [pull, hstep]
  | quiet hstep _ ih =>
    obtain ⟨s', hstep, hs'⟩ := hstep s hs
    apply Delivers.of_quiet hstep (ih hs')
  | item hstep _ ih =>
    obtain ⟨s', hstep, hs'⟩ := hstep s hs
    apply Delivers.item 1 _ (ih hs')
    rw [pull, hstep]

/-- What is given after a step. -/
theorem Gives.of_steps {I : σ → Prop} {s : σ} (hs : I s) {t t' : τ} {e : Event ι}
    (h : m.Gives I t is) (hstep : m.Steps I t e t') :
  ∃ js, is = eventItems e ++ js ∧ m.Gives I t' js
  := by
  obtain ⟨s₁, h₁, -⟩ := hstep s hs
  cases h with
  | finished hstep' hstay =>
    obtain ⟨s₂, h₂, -⟩ := hstep' s hs
    cases h₁.symm.trans h₂
    use [], rfl
    apply Gives.finished hstay hstay
  | quiet hstep' hrest =>
    obtain ⟨s₂, h₂, -⟩ := hstep' s hs
    cases h₁.symm.trans h₂
    use is, rfl
  | item hstep' hrest =>
    obtain ⟨s₂, h₂, -⟩ := hstep' s hs
    cases h₁.symm.trans h₂
    exact ⟨_, rfl, hrest⟩

end Machine

end RelGraph.Engine
