import RelGraph.Proofs.Engine.Failures

/-!
# Cursors of readers

A backend can keep a record of all the calls that are made on it.  A reader sends one query at most,
fetches rows while the cursor is open, and closes the cursor once, whatever the backend answers and
whatever happens to the store between two steps.  So no cursor is left open on a database in memory
when the reader has come to its end or is dropped.
-/

namespace RelGraph.Engine

open Rdf Sql Machine

/-! ### A record of calls -/

/-- A call on a backend, and how it went. -/
inductive Call where
  /-- A query was sent; it opened a cursor, or failed. -/
  | execute (error : Option DatabaseError)
  /-- The cursor was asked for a row. -/
  | next (f : Fetched)
  /-- The cursor was closed, which may have failed. -/
  | close (error : Option DatabaseError)

namespace Call

/-- The query opened a cursor. -/
def isOpening : Call → Bool
  | .execute none => true
  | _ => false

/-- A query was sent. -/
def isExecute : Call → Bool
  | .execute _ => true
  | _ => false

/-- The cursor was closed. -/
def isClose : Call → Bool
  | .close _ => true
  | _ => false

/-- The error of a query or a fetch that failed. -/
def failures : Call → List DatabaseError
  | .execute error => error.toList
  | .next f => fetchFailures f
  | .close _ => []

end Call

/-- The error, if there is one. -/
def errorOf {ε β : Type} : Except ε β → Option ε
  | .ok _ => none
  | .error e => some e

variable {σ κ : Type} {B : Backend σ κ} {n : Nat}

/-- The backend with a record of all calls. -/
def Backend.traced (B : Backend σ κ) : Backend (σ × List Call) κ where
  execute q s :=
    let (r, s') := B.execute q s.1
    (r, s', s.2 ++ [.execute (errorOf r)])
  next c s :=
    let (f, c', s') := B.next c s.1
    (f, c', s', s.2 ++ [.next f])
  close c s :=
    let (r, c', s') := B.close c s.1
    (r, c', s', s.2 ++ [.close (errorOf r)])
  cancelled s := B.cancelled s.1

theorem execute_traced (q : Select) (s : σ) (calls : List Call) :
  B.traced.execute q (s, calls)
    = ((B.execute q s).1, (B.execute q s).2, calls ++ [Call.execute (errorOf (B.execute q s).1)])
  := rfl

theorem next_traced (c : κ) (s : σ) (calls : List Call) :
  B.traced.next c (s, calls)
    = ((B.next c s).1, (B.next c s).2.1, (B.next c s).2.2, calls ++ [Call.next (B.next c s).1])
  := rfl

/-- The store changes, and the record stays as it is. -/
def Unrecorded (M : σ → σ → Prop) (s s' : σ × List Call) : Prop := M s.1 s'.1 ∧ s'.2 = s.2

/-- The calls on the cursor of a reader, and the state of the query to which they lead. -/
inductive Trail : List Call → Progress κ → Prop where
  | waiting : Trail [] .waiting
  /-- No query was needed. -/
  | spared : Trail [] .done
  | refused (e : DatabaseError) : Trail [.execute (some e)] .done
  | reading (fs : List Fetched) (c : κ) : Trail (Call.execute none :: fs.map .next) (.reading c)
  | closed (fs : List Fetched) (error : Option DatabaseError) :
    Trail (Call.execute none :: (fs.map .next ++ [Call.close error])) .done

/-- The number of cursors that the reader holds. -/
def Progress.held : Progress κ → Nat
  | .reading _ => 1
  | .waiting => 0
  | .done => 0

/-- No cursor is opened after another one, used before it is open or after it was closed, or closed
again. -/
structure Orderly (calls : List Call) (p : Progress κ) : Prop where
  execute_once : calls.countP Call.isExecute ≤ 1
  used_open : ∀ {before call after}, calls = before ++ call :: after → call.isExecute = false
    → Call.execute none ∈ before ∧ before.countP Call.isClose = 0
  /-- The cursors that were opened are those that were closed and the one that is held. -/
  balanced : calls.countP Call.isOpening = calls.countP Call.isClose + p.held

/-- What stands before a call on the cursor, if only the last call closes it. -/
theorem open_of_append {calls before after : List Call} {call : Call}
    (hopened : calls.head? = some (.execute none)) (hlast : ∀ b ∈ calls.dropLast, ¬ b.isClose)
    (h : calls = before ++ call :: after) (hcall : call.isExecute = false) :
  Call.execute none ∈ before ∧ before.countP Call.isClose = 0
  := by
  subst h
  rw [List.dropLast_append_cons] at hlast
  constructor
  · cases before with
    | nil =>
      cases hopened
      cases hcall
    | cons b before =>
      cases hopened
      apply List.mem_cons_self
  · rw [List.countP_eq_zero]
    intro b hb
    apply hlast b (List.mem_append_left _ hb)

theorem countP_map_next (q : Call → Bool) (hq : ∀ f, q (.next f) = false) (fs : List Fetched) :
  (fs.map Call.next).countP q = 0
  := by
  simp [List.countP_eq_zero, hq]

theorem Trail.orderly {calls : List Call} {p : Progress κ} (h : Trail calls p) :
  Orderly calls p
  := by
  cases h with
  | waiting => constructor <;> simp [Progress.held]
  | spared => constructor <;> simp [Progress.held]
  | refused e =>
    constructor
    · simp [Call.isExecute]
    · intro before call after h hcall
      have hmem : call ∈ [Call.execute (some e)] := by simp [h]
      rw [List.mem_singleton.1 hmem] at hcall
      cases hcall
    · rfl
  | reading fs c =>
    constructor
    · rw [List.countP_cons, countP_map_next _ fun _ => rfl]
      simp [Call.isExecute]
    · intro before call after
      apply open_of_append rfl
      intro b hb
      have hb := List.dropLast_subset _ hb
      rw [List.mem_cons, List.mem_map] at hb
      obtain rfl | ⟨f, -, rfl⟩ := hb <;> simp [Call.isClose]
    · rw [List.countP_cons, List.countP_cons, countP_map_next _ fun _ => rfl,
        countP_map_next _ fun _ => rfl]
      rfl
  | closed fs error =>
    constructor
    · rw [List.countP_cons, List.countP_append, countP_map_next _ fun _ => rfl]
      simp [Call.isExecute]
    · intro before call after
      apply open_of_append rfl
      intro b hb
      rw [← List.cons_append, List.dropLast_concat, List.mem_cons, List.mem_map] at hb
      obtain rfl | ⟨f, -, rfl⟩ := hb <;> simp [Call.isClose]
    · rw [List.countP_cons, List.countP_cons, List.countP_append, List.countP_append,
        countP_map_next _ fun _ => rfl, countP_map_next _ fun _ => rfl]
      rfl

/-! ### What a step does -/

/-- What is preserved by all that a reader can do: to send its query or to need none, to fetch a row,
and to close the cursor.  The errors are those that were reported. -/
structure Preserved (B : Backend σ κ) (P : List DatabaseError → Progress κ → σ → Prop) : Prop where
  spared : ∀ {es s}, P es .waiting s → P es .done s
  opened : ∀ {es q s c s'}, P es .waiting s → B.execute q s = (.ok c, s') → P es (.reading c) s'
  refused : ∀ {es q s e s'}, P es .waiting s → B.execute q s = (.error e, s')
    → P (es ++ [e]) .done s'
  fetched : ∀ {es c s f c' s'}, P es (.reading c) s → B.next c s = (f, c', s')
    → P (es ++ fetchFailures f) (.reading c') s'
  closed : ∀ {es c s}, P es (.reading c) s → P es .done (B.close c s).2.2

namespace Reader

variable {α ι : Type} [Member α ι] {P : List DatabaseError → Progress κ → σ → Prop}
  {es : List DatabaseError} {s : σ}

theorem fetch_preserves (hP : Preserved B P) (g : Group α) {c : κ} (items : List ι)
    (h : P es (.reading c) s) :
  P (es ++ (fetch B g n c items s).1.error.toList) (fetch B g n c items s).1.progress
    (fetch B g n c items s).2
  := by
  induction n generalizing c items s with
  | zero => simpa [fetch] using h
  | succ n ih =>
    rw [fetch]
    split
    · rename_i hnext
      have hrow := hP.fetched h hnext
      rw [fetchFailures, List.append_nil] at hrow
      apply ih _ hrow
    · rename_i hnext
      apply hP.closed (hP.fetched h hnext)
    · rename_i hnext
      apply hP.closed (hP.fetched h hnext)

omit [Member α ι] in
theorem close_preserves (hP : Preserved B P) {r : Reader α ι κ} (h : P es r.progress s) :
  P es .done (r.close B s).2
  := by
  rw [close]
  split
  · rename_i hr
    rw [hr] at h
    apply hP.closed h
  · rename_i hr
    cases hprogress : r.progress with
    | waiting =>
      rw [hprogress] at h
      apply hP.spared h
    | reading c => apply absurd hprogress (hr c)
    | done =>
      rw [hprogress] at h
      apply h

omit [Member α ι] in
theorem progress_close (r : Reader α ι κ) (s : σ) :
  (r.close B s).1.progress = .done
  := by
  rw [close]
  split <;> rfl

/-- A step does what a reader can do, and reports the errors of the database that it met. -/
theorem step_preserves (hP : Preserved B P) {r r' : Reader α ι κ} {s' : σ} {e : Event ι}
    (h : P es r.progress s) (hstep : r.step B n s = (e, r', s')) :
  P (es ++ reported (eventItems e)) r'.progress s'
  := by
  have hreported : ∀ b : Bool, reported (eventItems (if b = true
      then Event.item (ι := ι) (.error .cancelled) else .finished)) = [] := by
    intro b
    cases b <;> rfl
  rw [step] at hstep
  split at hstep
  · cases hstep
    rw [hreported, List.append_nil]
    change P es (r.close B s).1.progress (r.close B s).2
    rw [progress_close]
    apply close_preserves hP h
  · split at hstep
    · cases hstep
      rw [reported_ok, List.append_nil]
      apply h
    · split at hstep
      · rename_i hr
        rw [hr] at h
        rw [send] at hstep
        split at hstep
        · cases hstep
          rw [reported_quiet, List.append_nil]
          apply hP.spared h
        · split at hstep
          · cases hstep
            rw [reported_quiet, List.append_nil]
            apply hP.spared h
          · split at hstep
            · rename_i hexecute
              cases hstep
              rw [reported_quiet, List.append_nil]
              apply hP.opened h hexecute
            · rename_i hexecute
              cases hstep
              apply hP.refused h hexecute
      · cases hstep
        rw [reported_finished, List.append_nil]
        apply h
      · rename_i c hr
        rw [hr] at h
        have hfetch := fetch_preserves (n := n) hP r.group ([] : List ι) h
        simp only at hstep
        split at hstep
        · rename_i hnone
          cases hstep
          rw [hnone] at hfetch
          apply hfetch
        · rename_i hsome
          cases hstep
          rw [hsome] at hfetch
          apply hfetch

/-- What is preserved by all that a reader can do holds after every run. -/
theorem runs_preserves (hP : Preserved B P) {M : σ → σ → Prop}
    (hM : ∀ {es p s s'}, P es p s → M s s' → P es p s') {r r' : Reader α ι κ} {s' : σ}
    {events : List (Event ι)} (h : (machine B n).Runs M r s events r' s')
    (hstart : P [] r.progress s) :
  P (reported (events.flatMap eventItems)) r'.progress s'
  := by
  have hstep : ∀ (is : List (Except EvalError ι)) (r : Reader α ι κ) s e r' s',
      P (reported is) r.progress s → (machine B n).step r s = (e, r', s')
      → P (reported (is ++ eventItems e)) r'.progress s' := by
    intro is r s e r' s' h hstep
    rw [reported_append]
    apply step_preserves hP h hstep
  apply Runs.preserves hstep _ h hstart
  intro is r s s' h hs
  apply hM h hs

/-! ### Recorded runs -/

theorem fetch_traced (g : Group α) (c : κ) (items : List ι) (s : σ) (calls : List Call) :
  ∃ calls', fetch B.traced g n c items (s, calls)
    = ((fetch B g n c items s).1, (fetch B g n c items s).2, calls')
  := by
  induction n generalizing c items s calls with
  | zero => exact ⟨_, rfl⟩
  | succ n ih =>
    rw [fetch, fetch, next_traced]
    obtain ⟨row | _ | e, c', s'⟩ := B.next c s
    · apply ih
    · exact ⟨_, rfl⟩
    · exact ⟨_, rfl⟩

omit [Member α ι] in
theorem close_traced (r : Reader α ι κ) (s : σ) (calls : List Call) :
  ∃ calls', r.close B.traced (s, calls) = ((r.close B s).1, (r.close B s).2, calls')
  := by
  rw [close, close]
  split <;> exact ⟨_, rfl⟩

theorem send_traced (r : Reader α ι κ) (s : σ) (calls : List Call) :
  ∃ calls', r.send B.traced (s, calls)
    = ((r.send B s).1, (r.send B s).2.1, (r.send B s).2.2, calls')
  := by
  rw [send, send]
  split
  · exact ⟨_, rfl⟩
  · split
    · exact ⟨_, rfl⟩
    · rw [execute_traced]
      obtain ⟨e | c, s'⟩ := B.execute r.group.query s
      · exact ⟨_, rfl⟩
      · exact ⟨_, rfl⟩

/-- A reader makes the same steps whether its calls are recorded or not. -/
theorem step_traced (r : Reader α ι κ) (s : σ) (calls : List Call) :
  ∃ calls', r.step B.traced n (s, calls)
    = ((r.step B n s).1, (r.step B n s).2.1, (r.step B n s).2.2, calls')
  := by
  have hcancelled : B.traced.cancelled (s, calls) = B.cancelled s := rfl
  rw [step, step, hcancelled]
  split
  · obtain ⟨calls', hclose⟩ := @close_traced σ κ B α ι r s calls
    rw [hclose]
    exact ⟨calls', rfl⟩
  · split
    · exact ⟨calls, rfl⟩
    · split
      · apply send_traced
      · exact ⟨calls, rfl⟩
      · rename_i c _
        obtain ⟨calls', hfetch⟩ := @fetch_traced σ κ B n α ι _ r.group c [] s calls
        rw [hfetch]
        use calls'
        simp only
        split <;> rfl

/-- Each run has a record of its calls. -/
theorem exists_runs_traced {M : σ → σ → Prop} {r r' : Reader α ι κ} {s' : σ}
    {events : List (Event ι)} (h : (machine B n).Runs M r s events r' s') (calls : List Call) :
  ∃ calls', (machine B.traced n).Runs (Unrecorded M) r (s, calls) events r' (s', calls')
  := by
  induction h with
  | start => use calls, .start
  | meanwhile _ hs ih =>
    obtain ⟨calls', hruns⟩ := ih
    use calls', hruns.meanwhile ⟨hs, rfl⟩
  | @step events e r' r'' s' s'' _ hstep ih =>
    obtain ⟨calls', hruns⟩ := ih
    obtain ⟨calls'', htraced⟩ := @step_traced σ κ B n α ι _ r' s' calls'
    use calls''
    apply hruns.step
    rw [show (machine B n).step r' s' = r'.step B n s' from rfl] at hstep
    rw [hstep] at htraced
    apply htraced

/-- The calls so far are in order, and the errors of those that failed were reported. -/
def Recorded (errors : List DatabaseError) (p : Progress κ) (s : σ × List Call) : Prop :=
  Trail s.2 p ∧ errors = s.2.flatMap Call.failures

theorem preserved_recorded (B : Backend σ κ) :
  Preserved B.traced Recorded
  := by
  constructor
  · rintro errors ⟨s, calls⟩ ⟨htrail, herrors⟩
    cases htrail
    use .spared, herrors
  · rintro errors q ⟨s, calls⟩ c ⟨s', calls'⟩ ⟨htrail, herrors⟩ hexecute
    cases htrail
    rw [execute_traced, Prod.mk.injEq, Prod.mk.injEq] at hexecute
    obtain ⟨hc, -, rfl⟩ := hexecute
    rw [Recorded, hc, herrors]
    use .reading [] c
    rfl
  · rintro errors q ⟨s, calls⟩ e ⟨s', calls'⟩ ⟨htrail, herrors⟩ hexecute
    cases htrail
    rw [execute_traced, Prod.mk.injEq, Prod.mk.injEq] at hexecute
    obtain ⟨hc, -, rfl⟩ := hexecute
    rw [Recorded, hc, herrors]
    use .refused e
    rfl
  · rintro errors c ⟨s, calls⟩ f c' ⟨s', calls'⟩ ⟨htrail, herrors⟩ hnext
    generalize hp : Progress.reading c = p at htrail
    cases htrail with
    | reading fs c₀ =>
      rw [next_traced, Prod.mk.injEq, Prod.mk.injEq, Prod.mk.injEq] at hnext
      obtain ⟨rfl, -, -, rfl⟩ := hnext
      constructor
      · have htrail := Trail.reading (fs ++ [(B.next c s).1]) c'
        rw [List.map_append] at htrail
        apply htrail
      · rw [herrors, List.flatMap_append]
        simp [Call.failures]
    | _ => cases hp
  · rintro errors c ⟨s, calls⟩ ⟨htrail, herrors⟩
    generalize hp : Progress.reading c = p at htrail
    cases htrail with
    | reading fs c₀ =>
      constructor
      · apply Trail.closed
      · rw [herrors, Backend.traced, List.flatMap_append]
        simp [Call.failures]
    | _ => cases hp

/-! ### The end of a reader -/

theorem preserved_done (B : Backend σ κ) :
  Preserved B fun _ p _ => p = .done
  := by
  constructor <;> intros <;> simp_all

/-- A reader that has come to its end holds neither a cursor nor items. -/
theorem done_of_step_finished {r r' : Reader α ι κ} {s' : σ}
    (h : r.step B n s = (.finished, r', s')) :
  r'.progress = .done ∧ r'.buffer = []
  := by
  rw [step] at h
  split at h
  · rw [Prod.mk.injEq, Prod.mk.injEq] at h
    obtain ⟨-, rfl, -⟩ := h
    use progress_close r s
  · split at h
    · cases h
    · rename_i hbuffer
      split at h
      · rw [send] at h
        repeat' split at h
        all_goals cases h
      · rename_i hr
        cases h
        use hr, hbuffer
      · simp only at h
        split at h <;> cases h

/-! ### Cursors of a database in memory -/

/-- The cursors that are open on the database are `k` and the one that the reader holds, whatever was
reported. -/
def Holds (k : Nat) (_ : List DatabaseError) (p : Progress Cursor) (s : Store) : Prop :=
  s.session.openCursors = k + p.held ∧ ∀ c, p = .reading c → c.closed = false

theorem preserved_holds (db : Database) (faults : Faults) (k : Nat) :
  Preserved (memoryBackend db faults) (Holds k)
  := by
  constructor
  · rintro errors s ⟨hs, -⟩
    use hs
    simp
  · rintro errors q s c s' ⟨hs, -⟩ hexecute
    cases hanswer : db.answer q with
    | error e =>
      simp only [memoryBackend, Database.execute, hanswer] at hexecute
      cases hexecute
    | ok rows =>
      simp only [memoryBackend, Database.execute, hanswer] at hexecute
      cases hexecute
      constructor
      · simp [hs, Progress.held]
      · intro c hc
        cases hc
        rfl
  · rintro errors q s e s' ⟨hs, -⟩ hexecute
    cases hanswer : db.answer q with
    | error e =>
      simp only [memoryBackend, Database.execute, hanswer] at hexecute
      cases hexecute
      use hs
      simp
    | ok rows =>
      simp only [memoryBackend, Database.execute, hanswer] at hexecute
      cases hexecute
  · rintro errors c s f c' s' ⟨hs, hc⟩ hnext
    have hc := hc c rfl
    have hnext' : c'.closed = false ∧ s'.session = s.session := by
      rw [memoryBackend] at hnext
      simp only at hnext
      split at hnext
      · cases hnext
        use hc
        rfl
      · cases hnext
        constructor
        · rw [Cursor.next, hc]
          cases c.rows <;> simp [hc]
        · rfl
    constructor
    · rw [hnext'.2, hs]
      rfl
    · rintro _ ⟨⟩
      apply hnext'.1
  · rintro errors c s ⟨hs, hc⟩
    have hclose : (c.close s.session).2.2.openCursors = s.session.openCursors - 1 := by
      rw [Cursor.close, hc c rfl]
      rfl
    constructor
    · apply hclose.trans
      rw [hs]
      rfl
    · simp

/-! ### What a run does with cursors -/

/-- The cursors in a run of a reader, whose calls are recorded. -/
structure Releases (B : Backend σ κ) (n : Nat) (M : σ → σ → Prop) (r : Reader α ι κ) (s : σ)
    (events : List (Event ι)) (r' : Reader α ι κ) (s' : σ) (calls : List Call) : Prop where
  recorded : (machine B.traced n).Runs (Unrecorded M) r (s, []) events r' (s', calls)
  orderly : Orderly calls r'.progress
  /-- The errors that are reported are those of queries and of fetches. -/
  reported : reported (events.flatMap eventItems) = calls.flatMap Call.failures
  /-- Dropping the reader closes what is open. -/
  dropped : ∃ calls', r'.close B.traced (s', calls) = ((r'.close B s').1, (r'.close B s').2, calls')
    ∧ Orderly calls' (.done : Progress κ)
  /-- At the end nothing is open. -/
  finished : events.getLast? = some .finished → r'.progress = .done
  /-- The end lasts. -/
  stays : r'.progress = .done
    → ∀ {events' r'' s''}, (machine B n).Runs M r' s' events' r'' s'' → r''.progress = .done

theorem exists_releases {M : σ → σ → Prop} {g : Group α} {r : Reader α ι κ} {s' : σ}
    {events : List (Event ι)} (h : (machine B n).Runs M (ofGroup g) s events r s') :
  ∃ calls, Releases B n M (ofGroup g) s events r s' calls
  := by
  obtain ⟨calls, hruns⟩ := exists_runs_traced h []
  obtain ⟨htrail, hreported⟩ := runs_preserves (preserved_recorded B) (by
    rintro errors p s s' ⟨htrail, herrors⟩ ⟨-, hs⟩
    rw [Recorded, hs]
    use htrail) hruns ⟨.waiting, rfl⟩
  use calls
  constructor
  · apply hruns
  · apply htrail.orderly
  · apply hreported
  · obtain ⟨calls', hclose⟩ := @close_traced σ κ B α ι r s' calls
    use calls', hclose
    have hdone := close_preserves (preserved_recorded B) (r := r) (s := (s', calls))
      ⟨htrail, hreported⟩
    rw [hclose] at hdone
    apply hdone.1.orderly
  · apply h.of_getLast? (Q := fun r _ => r.progress = .done)
    · intro r s r' s' hstep
      apply (done_of_step_finished hstep).1
    · intro r s s' hr _
      apply hr
  · intro hdone events' r'' s'' hruns'
    apply runs_preserves (preserved_done B) (fun h _ => h) hruns' hdone

end Reader

/-- No cursor is leaked, reused or closed twice: whatever the backend answers and whatever happens to
its store between two steps, a reader is orderly, gives its cursor back at its end or when it is
dropped, and reports no failure to close it.  On a database in memory, as many cursors as before are
open then. -/
theorem cursors_released {α ι : Type} [Member α ι] (g : Group α) (n : Nat) :
  (∀ {σ κ : Type} {B : Backend σ κ} {M : σ → σ → Prop} {s s' : σ} {events : List (Event ι)}
      {r : Reader α ι κ}, (Reader.machine B n).Runs M (.ofGroup g) s events r s'
    → ∃ calls, Reader.Releases B n M (.ofGroup g) s events r s' calls)
  ∧ ∀ {db : Database} {faults : Faults} {s s' : Store} {events : List (Event ι)}
      {r : Reader α ι Cursor},
    (Reader.machine (memoryBackend db faults) n).Runs (fun s s' => s'.session = s.session)
      (.ofGroup g) s events r s'
    → s'.session.openCursors = s.session.openCursors + r.progress.held
      ∧ (r.close (memoryBackend db faults) s').2.session.openCursors = s.session.openCursors
  := by
  constructor
  · intro σ κ B M s s' events r h
    apply Reader.exists_releases h
  · intro db faults s s' events r h
    have hP := Reader.preserved_holds db faults s.session.openCursors
    have hholds := Reader.runs_preserves hP (by
      rintro - p s s' ⟨hs, hp⟩ hsession
      rw [Reader.Holds, hsession]
      use hs) h ⟨rfl, by simp [Reader.ofGroup]⟩
    use hholds.1
    apply (Reader.close_preserves hP hholds).1

/-! ### An example -/

/-- The persons, in a database on which no cursor can be closed without a failure. -/
def stubbornDatabase : Database := { Plan.personDatabase with failsOnClose := true }

/-- The reading of persons is cancelled after the first one.  The cursor is open, and closing it,
although this fails, leaves none open. -/
theorem cursors_released_stubbornDatabase :
  ∃ (events : List (Event Binding)) (r : Reader Mapping.SolutionMap Binding Cursor) (s' : Store)
      (calls : List Call),
    (Reader.machine (memoryBackend stubbornDatabase Faults.none) 1).Runs
        (fun s s' => s'.session = s.session) (.ofGroup (.single Plan.personMap)) Store.start events
        r s'
      ∧ s'.cancelled = true ∧ s'.session.openCursors = 1
      ∧ (r.close (memoryBackend stubbornDatabase Faults.none) s').2.session.openCursors = 0
      ∧ Reader.Releases (memoryBackend stubbornDatabase Faults.none) 1
        (fun s s' => s'.session = s.session) (.ofGroup (.single Plan.personMap)) Store.start events
        r s' calls
  := by
  generalize hm : (Reader.machine (memoryBackend stubbornDatabase Faults.none) 1 :
    Machine Store (Reader Mapping.SolutionMap Binding Cursor) Binding) = m
  rcases hpull : m.pull 5 (.ofGroup (.single Plan.personMap)) Store.start with ⟨p, r, s'⟩
  have hopen : (m.pull 5 (.ofGroup (.single Plan.personMap)) Store.start).2.2.session.openCursors = 1
      ∧ (pulledItems (m.pull 5 (.ofGroup (.single Plan.personMap)) Store.start).1).map
        (fun i => (failure? i).isSome) = [false] := by
    subst hm
    decide
  rw [hpull] at hopen
  have hp : p ≠ .pending := by
    rintro rfl
    cases hopen.2
  obtain ⟨k, e, -, hruns⟩ := Machine.Runs.of_pull
    (M := fun s s' : Store => s'.session = s.session) .start hpull hp
  have hcancelled := hruns.meanwhile (show s'.cancel.session = s'.session from rfl)
  subst hm
  have h := cursors_released (ι := Binding) (Group.single Plan.personMap) 1
  obtain ⟨calls, hreleases⟩ := h.1 hcancelled
  exact ⟨_, r, s'.cancel, calls, hcancelled, rfl, hopen.1, (h.2 hcancelled).2, hreleases⟩

end RelGraph.Engine
