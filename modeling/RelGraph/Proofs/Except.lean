import Mathlib.Data.List.Forall2

/-!
# Results that may be errors

When a computation in several steps succeeds: every step does.  When it fails, one of them does.
-/

namespace RelGraph

variable {ε α β : Type} {f : α → Except ε β} {x : Except ε α} {as : List α}

theorem bind_eq_ok {b : β} :
  (x >>= f) = .ok b ↔ ∃ a, x = .ok a ∧ f a = .ok b
  := by
  cases x with
  | error e => simp [bind, Except.bind]
  | ok a => simp [bind, Except.bind]

theorem bind_eq_error {e : ε} :
  (x >>= f) = .error e ↔ x = .error e ∨ ∃ a, x = .ok a ∧ f a = .error e
  := by
  cases x with
  | error e' => simp [bind, Except.bind]
  | ok a => simp [bind, Except.bind]

theorem map_eq_ok {f : α → β} {b : β} :
  (f <$> x) = .ok b ↔ ∃ a, x = .ok a ∧ f a = b
  := by
  cases x with
  | error e => simp [Functor.map, Except.map]
  | ok a => simp [Functor.map, Except.map]

theorem pure_eq_ok {a b : α} :
  (pure a : Except ε α) = .ok b ↔ a = b
  := by
  simp [pure, Except.pure]

theorem eq_ok_of_toOption {a : α} (h : x.toOption = some a) :
  x = .ok a
  := by
  cases x with
  | error e => cases h
  | ok b => rw [Option.some.inj h]

theorem eq_map_ok_of_toOption {xs : List (Except ε α)} (h : xs.map Except.toOption = as.map some) :
  xs = as.map .ok
  := by
  induction xs generalizing as with
  | nil => cases as <;> simp at h ⊢
  | cons x xs ih =>
    obtain ⟨a, as, rfl, ha, has⟩ := List.map_eq_cons_iff.1 h.symm
    rw [List.map_cons, ih has.symm, eq_ok_of_toOption ha.symm]

/-- A computation on each member succeeds exactly when it does on all of them. -/
theorem mapM_eq_ok {bs : List β} :
  as.mapM f = .ok bs ↔ List.Forall₂ (fun a b => f a = .ok b) as bs
  := by
  induction as generalizing bs with
  | nil => rw [List.mapM_nil, pure_eq_ok, List.forall₂_nil_left_iff, eq_comm]
  | cons a as ih =>
    simp only [List.mapM_cons, bind_eq_ok, pure_eq_ok, List.forall₂_cons_left_iff, ← ih]
    constructor
    · rintro ⟨b, hb, bs, hbs, rfl⟩
      use b, bs
    · rintro ⟨b, bs, hb, hbs, rfl⟩
      use b, hb, bs

/-- The results are those of the members, each of which has one. -/
theorem mem_of_mapM_eq_ok {bs : List β} (h : as.mapM f = .ok bs) :
  (∀ a ∈ as, ∃ b, f a = .ok b) ∧ ∀ b, b ∈ bs ↔ ∃ a ∈ as, f a = .ok b
  := by
  rw [mapM_eq_ok] at h
  induction h with
  | nil => simp
  | @cons a b as bs hab _ ih =>
    constructor
    · rw [List.forall_mem_cons]
      use ⟨b, hab⟩, ih.1
    · intro b'
      rw [List.mem_cons, ih.2, List.exists_mem_cons_iff, hab, Except.ok.injEq, eq_comm]

/-- A computation that gives the values of a function on each member gives the list of these. -/
theorem mapM_of_forall {g : α → β} (h : ∀ a ∈ as, f a = .ok (g a)) :
  as.mapM f = .ok (as.map g)
  := by
  rw [mapM_eq_ok, List.forall₂_map_right_iff, List.forall₂_same]
  apply h

/-- A computation on each member fails only if it does on one of them. -/
theorem exists_mem_of_mapM_eq_error {e : ε} (h : as.mapM f = .error e) :
  ∃ a ∈ as, f a = .error e
  := by
  induction as with
  | nil => cases h
  | cons a as ih =>
    simp only [List.mapM_cons, bind_eq_error] at h
    rw [List.exists_mem_cons_iff]
    obtain h | ⟨b, -, h | ⟨bs, -, h⟩⟩ := h
    · left
      apply h
    · right
      apply ih h
    · cases h

end RelGraph
