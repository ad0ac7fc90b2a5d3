import RelGraph.Proofs.Engine.Failures

/-!
# Unreliable databases

A backend may answer the queries of a database, but fail or be cancelled at any point.  Up to its first
error it makes the same steps as the database in memory, so what it gives until then are solutions.
-/

namespace RelGraph.Engine

open Rdf Sql Sparql Mapping Machine

variable {σ κ : Type}

/-- A backend that answers queries as the database does, unless it fails; `rows` are the rows that a
cursor still has to give. -/
structure Backend.Unreliable (B : Backend σ κ) (db : Database) (rows : κ → List Row) : Prop where
  execute : ∀ q s c s', B.execute q s = (.ok c, s') → db.answer q = .ok (rows c)
  row : ∀ c s r c' s', B.next c s = (.row r, c', s') → rows c = r :: rows c'
  ended : ∀ c s c' s', B.next c s = (.ended, c', s') → rows c = []

theorem unreliable_memoryBackend (db : Database) (faults : Faults) :
  (memoryBackend db faults).Unreliable db Cursor.rows
  := by
  constructor
  · intro q s c s' h
    simp only [memoryBackend, Database.execute] at h
    cases hanswer : db.answer q with
    | error e => simp [hanswer] at h
    | ok rows =>
      simp only [hanswer, Prod.mk.injEq, Except.ok.injEq] at h
      rw [← h.1]
  · intro c s r c' s' h
    simp only [memoryBackend, Cursor.next] at h
    split at h
    · cases h
    · split at h
      · cases h
      · split at h
        · cases h
        · rename_i hrows
          cases h
          exact hrows
  · intro c s c' s' h
    simp only [memoryBackend, Cursor.next] at h
    split at h
    · cases h
    · split at h
      · cases h
      · split at h
        · rename_i hrows
          exact hrows
        · cases h

/-- The cursor in memory that gives the same rows. -/
def cursorOf (db : Database) (rows : κ → List Row) (c : κ) : Cursor := ⟨rows c, false, db.failsOnClose⟩

/-! ### Readers -/

/-- The same progress through other cursors. -/
def Progress.map {κ' : Type} (f : κ → κ') : Progress κ → Progress κ'
  | .waiting => .waiting
  | .reading c => .reading (f c)
  | .done => .done

namespace Reader

variable {α ι : Type} [Member α ι]

/-- The same reader with another cursor. -/
def map {κ' : Type} (f : κ → κ') (r : Reader α ι κ) : Reader α ι κ' :=
  ⟨r.group, r.progress.map f, r.buffer⟩

variable {B : Backend σ κ} {db : Database} {rows : κ → List Row} (hB : B.Unreliable db rows) {n : Nat}

include hB

/-- A fetch without an error gives what the database in memory gives. -/
theorem fetch_of_unreliable {g : Group α} {c : κ} {items items' : List ι} {s s' : σ}
    {progress : Progress κ} (h : fetch B g n c items s = (⟨none, progress, items'⟩, s')) :
  progress.map (cursorOf db rows)
      = (if n ≤ (rows c).length then .reading ⟨(rows c).drop n, false, db.failsOnClose⟩ else .done)
    ∧ items' = items ++ ((rows c).take n).flatMap g.items
  := by
  induction n generalizing c items s with
  | zero =>
    rw [fetch] at h
    cases h
    simp [Progress.map, cursorOf]
  | succ n ih =>
    rw [fetch] at h
    split at h
    · rename_i row c' s₁ hnext
      obtain ⟨hprogress, rfl⟩ := ih h
      rw [hB.row c s row c' s₁ hnext, hprogress]
      simp
    · rename_i c' s₁ hnext
      cases h
      rw [hB.ended c s c' s₁ hnext]
      simp [Progress.map]
    · cases h

/-- All the items of a fetch are items of rows that were still to come. -/
theorem mem_of_mem_fetch {g : Group α} {c : κ} {items : List ι} {s : σ} {i : ι}
    (h : i ∈ (fetch B g n c items s).1.items) :
  i ∈ items ∨ i ∈ (rows c).flatMap g.items
  := by
  induction n generalizing c items s with
  | zero =>
    left
    apply h
  | succ n ih =>
    rw [fetch] at h
    split at h
    · rename_i row c' s₁ hnext
      rw [hB.row c s row c' s₁ hnext, List.flatMap_cons]
      obtain hi | hi := ih h
      · rw [List.mem_append] at hi
        apply hi.imp_right
        apply List.mem_append_left
      · right
        apply List.mem_append_right _ hi
    · left
      apply h
    · left
      apply h

/-- The rows that come after a fetch were to come before it. -/
theorem mem_of_fetch_reading {g : Group α} {c c' : κ} {items : List ι} {s : σ} {row : Row}
    (h : (fetch B g n c items s).1.progress = .reading c') (hrow : row ∈ rows c') :
  row ∈ rows c
  := by
  induction n generalizing c items s with
  | zero =>
    rw [fetch] at h
    cases h
    apply hrow
  | succ n ih =>
    rw [fetch] at h
    split at h
    · rename_i r c₁ s₁ hnext
      rw [hB.row c s r c₁ s₁ hnext]
      apply List.mem_cons_of_mem
      apply ih h
    · cases h
    · cases h

/-- Sending a query without an error is a step of the database in memory. -/
theorem steps_of_send {g : Group α} {r' : Reader α ι κ} {s s' : σ} {e : Event ι}
    (h : send B ⟨g, .waiting, []⟩ s = (e, r', s')) (he : ∀ f, e ≠ .item (.error f)) :
  (memoryMachine α db n).Steps Live (ofGroup g) e (r'.map (cursorOf db rows))
  := by
  intro s₀ hs₀
  have hc : (memory db).cancelled s₀ = false := hs₀
  simp only [machine, step, ofGroup, hc]
  rw [send] at h ⊢
  split at h
  · rename_i hempty
    cases h
    use s₀
    simp [hempty, map, Progress.map, hs₀]
  · rename_i hempty
    split at h
    · rename_i hdatabase
      cases h
      use s₀
      simp only [hempty, hdatabase, map, Progress.map, hs₀]
      simp
    · rename_i hdatabase
      split at h
      · rename_i c s₁ hexecute
        cases h
        have hanswer := hB.execute _ _ _ _ hexecute
        use { s₀ with session := (db.execute g.query s₀.session).2 }
        simp only [hempty, hdatabase, execute_eq, hanswer]
        exact ⟨rfl, hs₀⟩
      · cases h
        apply absurd rfl (he _)

/-- A step without an error is the step of the database in memory. -/
theorem steps_of_unreliable {r r' : Reader α ι κ} {s s' : σ} {e : Event ι}
    (h : r.step B n s = (e, r', s')) (he : ∀ f, e ≠ .item (.error f)) :
  (memoryMachine α db n).Steps Live (r.map (cursorOf db rows)) e (r'.map (cursorOf db rows))
  := by
  obtain ⟨g, progress, buffer⟩ := r
  have hdone : (memoryMachine α db n).Steps Live ⟨g, .done, []⟩ (.finished : Event ι)
      ⟨g, .done, []⟩ := by
    intro s₀ hs₀
    use s₀
    have hc : (memory db).cancelled s₀ = false := hs₀
    simp [machine, step, hc, hs₀]
  rw [step] at h
  split at h
  · -- a reader that has nothing more to give is not cancelled
    cases progress with
    | waiting =>
      cases h
      apply absurd rfl (he _)
    | reading c =>
      cases h
      apply absurd rfl (he _)
    | done =>
      cases buffer with
      | nil =>
        cases h
        apply hdone
      | cons i is =>
        cases h
        apply absurd rfl (he _)
  · cases buffer with
    | cons i is =>
      cases h
      apply steps_buffer
    | nil =>
      cases progress with
      | waiting => apply steps_of_send hB h he
      | done =>
        cases h
        apply hdone
      | reading c =>
        rcases hfetch : fetch B g n c [] s with ⟨⟨_ | f, progress, items⟩, s₁⟩
        · obtain ⟨hprogress, rfl⟩ := fetch_of_unreliable hB hfetch
          simp only [hfetch] at h
          cases h
          rw [map, map, hprogress]
          apply steps_reading
        · simp only [hfetch] at h
          cases h
          apply absurd rfl (he _)

end Reader

namespace Scan

variable {α ι : Type} [Member α ι]

/-- The same scan with other cursors. -/
def map {κ' : Type} (f : κ → κ') (t : Scan α ι κ) : Scan α ι κ' :=
  ⟨t.current.map (Reader.map f), t.rest⟩

variable {B : Backend σ κ} {db : Database} {rows : κ → List Row} {n : Nat}

theorem steps_of_unreliable (hB : B.Unreliable db rows) {t t' : Scan α ι κ} {s s' : σ}
    {e : Event ι} (h : t.step B n s = (e, t', s')) (he : ∀ f, e ≠ .item (.error f)) :
  (memoryMachine α db n).Steps Live (t.map (cursorOf db rows)) e (t'.map (cursorOf db rows))
  := by
  obtain ⟨_ | r, gs⟩ := t
  · cases gs with
    | nil =>
      cases h
      intro s₀ hs₀
      use s₀, rfl, hs₀
    | cons g gs =>
      cases h
      intro s₀ hs₀
      use s₀, rfl, hs₀
  · rcases hr : r.step B n s with ⟨x | _ | _, r', s₁⟩
    · simp only [step, hr] at h
      cases h
      apply steps_current (by simp) (Reader.steps_of_unreliable hB hr he)
    · simp only [step, hr] at h
      cases h
      apply steps_current (by simp) (Reader.steps_of_unreliable hB hr he)
    · simp only [step, hr] at h
      cases h
      apply steps_of_finished (Reader.steps_of_unreliable hB hr (by simp))

end Scan

/-! ### Solutions up to the first error -/

namespace Solutions

/-- The same solutions with other cursors. -/
def map {κ' : Type} (f : κ → κ') : Solutions κ → Solutions κ'
  | .ready bs => .ready bs
  | .scan t => .scan (t.map f)
  | .join l r => .join (map f l) (map f r)
  | .joinCollect l r b found => .joinCollect (map f l) (map f r) b found
  | .joinFound front l found => .joinFound front (map f l) found
  | .leftJoin l r e => .leftJoin (map f l) r e
  | .leftJoinAt l r e b inner matched => .leftJoinAt (map f l) r e b (map f inner) matched
  | .filter p e => .filter (map f p) e
  | .union ps => .union ps
  | .unionAt p ps => .unionAt (map f p) ps
  | .minus l r => .minus (map f l) (map f r)
  | .minusCollect l r b found => .minusCollect (map f l) (map f r) b found
  | .minusFound l found => .minusFound (map f l) found
  | .extend p v e => .extend (map f p) v e
  | .sort p keys found => .sort (map f p) keys found
  | .project p vs => .project (map f p) vs
  | .distinct p seen => .distinct (map f p) seen
  | .reduced p current => .reduced (map f p) current
  | .skip k p => .skip k (map f p)
  | .take k p => .take k (map f p)

attribute [local simp] map

theorem live_closeAll {db : Database} {ts : List (Solutions Cursor)} {s : Store} (h : Live s) :
  Live (closeAll (memory db) ts s)
  := by
  induction ts generalizing s with
  | nil => apply h
  | cons t ts ih => apply ih (live_close_solutions h)

theorem map_ofPlan {κ' : Type} (f : κ → κ') (p : Plan) :
  (ofPlan p).map f = ofPlan p
  := by
  induction p with
  | slice p start length ih =>
    cases length <;> by_cases hstart : 0 < start <;> simp [ofPlan, hstart, ih]
  | _ => simp [ofPlan, Scan.ofMaps, Scan.map, *]

theorem active?_map {κ' : Type} (f : κ → κ') {t p : Solutions κ} (h : t.active? = some p) :
  (t.map f).active? = some (p.map f)
  := by
  rw [active?.eq_def] at h
  split at h <;> cases h <;> rfl

/-- The reaction to an event does not depend on the cursors. -/
theorem react_map {κ' : Type} (f : κ → κ') (t : Solutions κ) (e : Event Binding)
    (p' : Solutions κ) :
  (t.map f).react e (p'.map f)
    = ((t.react e p').1, (t.react e p').2.1.map f, (t.react e p').2.2.map (map f))
  := by
  cases t with
  | leftJoin l r condition =>
    obtain (x | b) | _ | _ := e
    · rfl
    · simp [react, map_ofPlan]
    · rfl
    · rfl
  | leftJoinAt l r condition b inner matched =>
    obtain (x | c) | _ | _ := e
    · rfl
    · cases hm : (b.merge? c).filter condition.holds <;> simp [react, hm]
    · rfl
    · cases matched <;> rfl
  | distinct p seen =>
    obtain (x | b) | _ | _ := e
    · rfl
    · by_cases hb : b ∈ seen <;> simp [react, hb]
    · rfl
    · rfl
  | reduced p current => obtain (x | b) | _ | _ := e <;> cases current <;> rfl
  | skip k p => obtain (x | b) | _ | _ := e <;> cases k <;> rfl
  | take k p => obtain (x | b) | _ | _ := e <;> cases k <;> rfl
  | _ => obtain (x | b) | _ | _ := e <;> rfl

/-- An error of the active operand is passed on. -/
theorem react_error {t : Solutions κ} (ht : t.isStraight = true) (f : EvalError)
    (p' : Solutions κ) :
  (t.react (.item (.error f)) p').1 = .item (.error f)
  := by
  cases t with
  | skip k p => cases ht
  | reduced p current => cases current <;> rfl
  | take k p => cases k <;> rfl
  | _ => rfl

variable {B : Backend σ κ} {db : Database} {rows : κ → List Row} {n : Nat}

/-- A step without an error is the step of the database in memory. -/
theorem steps_of_unreliable (hB : B.Unreliable db rows) {t : Solutions κ}
    (ht : t.isStraight = true) {s : σ} (he : ∀ f, (step B n t s).1 ≠ .item (.error f)) :
  (memoryMachine db n).Steps Live (t.map (cursorOf db rows)) (step B n t s).1
    ((step B n t s).2.1.map (cursorOf db rows))
  := by
  induction t using step_induction generalizing s with
  | active t p hactive ih =>
    rw [step_of_active? hactive] at he ⊢
    have hp : ∀ f, (step B n p s).1 ≠ .item (.error f) := by
      intro f hf
      rw [hf] at he
      apply he f (react_error ht f _)
    intro s₀ hs₀
    obtain ⟨s₁, hstep, hs₁⟩ := ih (isStraight_of_active? hactive ht) hp s₀ hs₀
    simp only [machine] at hstep ⊢
    rw [step_of_active? (active?_map _ hactive), hstep, react_map]
    exact ⟨_, rfl, live_closeAll hs₁⟩
  | scan t =>
    rcases hscan : t.step B n s with ⟨e, t', s'⟩
    simp only [step, hscan] at he ⊢
    intro s₀ hs₀
    obtain ⟨s₁, hstep, hs₁⟩ := Scan.steps_of_unreliable hB hscan he s₀ hs₀
    simp only [Scan.memoryMachine] at hstep
    use s₁
    simp [machine, step, hstep, hs₁]
  | union_cons p ps =>
    intro s₀ hs₀
    use s₀
    simp [machine, step, map_ofPlan, hs₀]
  | _ =>
    intro s₀ hs₀
    use s₀, rfl, hs₀

theorem isStraight_step {t : Solutions κ} (ht : t.isStraight = true) (s : σ) :
  (step B n t s).2.1.isStraight = true
  := by
  obtain ⟨_, -, h⟩ := @step_logged σ κ B n t s []
  apply (h ht).2

/-- The first of some solutions, and nothing else before the first error. -/
def UpToError (xs : List Binding) (is : Items) : Prop :=
  ∃ ys rest, ys <+: xs ∧ is = ys.map .ok ++ rest
    ∧ (rest = [] ∨ ∃ e rest', rest = Except.error e :: rest')

/-- There was no error, and the rest of the solutions is still to come. -/
def OnTrack (db : Database) (rows : κ → List Row) (n : Nat) (xs : List Binding) (is : Items)
    (t : Solutions κ) : Prop :=
  ∃ ys zs, xs = ys ++ zs ∧ is = ys.map .ok ∧ t.isStraight = true
    ∧ (memoryMachine db n).Gives Live (t.map (cursorOf db rows)) (zs.map .ok)

/-- There was an error after the first of some solutions. -/
def OffTrack (xs : List Binding) (is : Items) : Prop :=
  ∃ ys f rest, ys <+: xs ∧ is = ys.map .ok ++ Except.error f :: rest

theorem onTrack_step (hB : B.Unreliable db rows) {xs : List Binding} {is : Items} {t : Solutions κ}
    (h : OnTrack db rows n xs is t) (s : σ) :
  OnTrack db rows n xs (is ++ eventItems (step B n t s).1) (step B n t s).2.1
    ∨ OffTrack xs (is ++ eventItems (step B n t s).1)
  := by
  obtain ⟨ys, zs, rfl, rfl, ht, hgives⟩ := h
  by_cases he : ∃ f, (step B n t s).1 = .item (.error f)
  · right
    obtain ⟨f, hf⟩ := he
    use ys, f, [], List.prefix_append ys zs
    rw [hf, eventItems]
  · left
    push Not at he
    obtain ⟨js, hjs, hgives⟩ := hgives.of_steps live_start (steps_of_unreliable hB ht he)
    obtain ⟨as, bs, rfl, has, rfl⟩ := List.map_eq_append_iff.1 hjs
    use ys ++ as, bs
    rw [List.append_assoc, List.map_append, ← has]
    exact ⟨rfl, rfl, isStraight_step ht s, hgives⟩

/-- Up to the first error the items are those of the database in memory. -/
theorem upToError_of_pulls (hB : B.Unreliable db rows) {t t' : Solutions κ}
    (ht : t.isStraight = true) {xs : List Binding}
    (hxs : (memoryMachine db n).Gives Live (t.map (cursorOf db rows)) (xs.map .ok)) {s s' : σ}
    {is : Items} (h : (machine B n).Pulls t s is t' s') :
  UpToError xs is
  := by
  have hstep : ∀ (is : Items) (t : Solutions κ) (s : σ) e t' s',
      OnTrack db rows n xs is t ∨ OffTrack xs is → (machine B n).step t s = (e, t', s')
      → OnTrack db rows n xs (is ++ eventItems e) t' ∨ OffTrack xs (is ++ eventItems e) := by
    rintro is t s e t' s' (hon | ⟨ys, f, rest, hys, rfl⟩) hstep
    · have h := onTrack_step hB hon s
      rw [show step B n t s = (e, t', s') from hstep] at h
      apply h
    · right
      use ys, f, rest ++ eventItems e, hys
      simp
  have hstart : OnTrack db rows n xs [] t ∨ OffTrack xs [] :=
    .inl ⟨[], xs, rfl, rfl, ht, hxs⟩
  obtain ⟨ys, zs, rfl, his, -⟩ | ⟨ys, f, rest, hys, his⟩ := h.preserves hstep hstart
  · exact ⟨ys, [], List.prefix_append ys zs, by simpa using his, .inl rfl⟩
  · exact ⟨ys, _, hys, his, .inr ⟨f, rest, rfl⟩⟩

end Solutions

end RelGraph.Engine
