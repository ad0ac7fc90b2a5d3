import RelGraph.Proofs.Sparql.Comparison

/-!
# Terms that are told apart

Which terms have the same value: a term that stands for itself has the value of no other one, and
literals that stand for a truth value, a number or a point in time have the same value if they are
spellings of one value of the same kind.
-/

namespace RelGraph.Sparql

open Rdf Xsd

/-! ### Spellings of values -/

/-- The text of a literal stands for a value of its datatype. -/
inductive Denotes : Literal → Value → Prop
  | boolean {l : Literal} {b : Bool} (hd : l.datatype = Datatype.boolean)
    (h : parseBoolean? l.value = some b) : Denotes l (.boolean b)
  | integer {l : Literal} {n : Int} (hd : l.datatype ∈ integerTypes.map Datatype.xsd)
    (h : parseInteger? l.value = some n) : Denotes l (.integer n)
  | decimal {l : Literal} {d : Decimal} (hd : l.datatype = Datatype.decimal)
    (h : Decimal.parse? l.value = some d) : Denotes l (.decimal d)
  | float {l : Literal} {x : Float32} (hd : l.datatype = Datatype.float)
    (h : parseFloat? l.value = some x) : Denotes l (.float x)
  | double {l : Literal} {x : Float} (hd : l.datatype = Datatype.double)
    (h : parseDouble? l.value = some x) : Denotes l (.double x)
  | dateTime {l : Literal} {t : DateTime} (hd : l.datatype ∈ dateTimeTypes.map Datatype.xsd)
    (h : DateTime.parse? l.value = some t) : Denotes l (.dateTime t)

/-- The term is a literal whose text stands for a value of its datatype. -/
def HasValue (t : Term) : Prop := ∃ l v, t = .literal l ∧ Denotes l v

/-- Two literals are spellings of the same value: of the same truth value, integer or decimal number,
of binary numbers that compare as equal, or of the same point in time, with a time zone or without. -/
inductive SameSpelled (l m : Literal) : Prop
  | boolean (b : Bool) (hl : Denotes l (.boolean b)) (hm : Denotes m (.boolean b))
  | integer (n : Int) (hl : Denotes l (.integer n)) (hm : Denotes m (.integer n))
  | decimal (d : Decimal) (hl : Denotes l (.decimal d)) (hm : Denotes m (.decimal d))
  | float (x y : Float32) (hl : Denotes l (.float x)) (hm : Denotes m (.float y))
    (h : (x == y) = true)
  | double (x y : Float) (hl : Denotes l (.double x)) (hm : Denotes m (.double y))
    (h : (x == y) = true)
  | dateTime (t u : DateTime) (hl : Denotes l (.dateTime t)) (hm : Denotes m (.dateTime u))
    (hzone : t.offset.isSome = u.offset.isSome) (h : t.seconds = u.seconds)

/-! ### Reading literals -/

/-- A literal of a datatype is read, or kept as it is. -/
theorem ofLiteral_of_datatype {l : Literal} (hs : l.datatype ≠ Datatype.string)
    (hl : l.datatype ≠ Datatype.langString) :
  Value.ofLiteral l = (typedValue? l.value l.datatype).getD (.other l.value l.datatype)
  := by
  cases l with
  | simple s => exact absurd rfl hs
  | tagged s language => exact absurd rfl hl
  | typed s datatype ne => rfl

theorem Denotes.isParsed {l : Literal} {v : Value} (h : Denotes l v) :
  v.isParsed = true
  := by
  cases h <;> rfl

theorem xsd_ne {a b : String} (h : a ≠ b) :
  Datatype.xsd a ≠ Datatype.xsd b
  := by
  intro heq
  apply h ((String.append_right_inj _).1 (Iri.mk.inj heq))

theorem xsd_ne_langString (name : String) :
  Datatype.xsd name ≠ Datatype.langString
  := by
  intro h
  have hchars := congrArg String.toList (Iri.mk.inj h)
  rw [String.toList_append] at hchars
  simp at hchars

theorem integerTypes_ne :
  ∀ d ∈ integerTypes.map Datatype.xsd, d ≠ Datatype.boolean ∧ d ≠ Datatype.string
    ∧ d ≠ Datatype.float ∧ d ≠ Datatype.double ∧ d ≠ Datatype.decimal ∧ d ≠ Datatype.langString
  := by
  have hnames : ∀ name ∈ integerTypes, name ≠ "boolean" ∧ name ≠ "string" ∧ name ≠ "float"
      ∧ name ≠ "double" ∧ name ≠ "decimal" := by
    decide
  rw [List.forall_mem_map]
  intro name hname
  obtain ⟨hb, hs, hf, hx, hd⟩ := hnames name hname
  exact ⟨xsd_ne hb, xsd_ne hs, xsd_ne hf, xsd_ne hx, xsd_ne hd, xsd_ne_langString name⟩

theorem dateTimeTypes_ne :
  ∀ d ∈ dateTimeTypes.map Datatype.xsd, d ≠ Datatype.boolean ∧ d ≠ Datatype.string
    ∧ d ≠ Datatype.float ∧ d ≠ Datatype.double ∧ d ≠ Datatype.decimal ∧ d ≠ Datatype.langString
    ∧ d ∉ integerTypes.map Datatype.xsd
  := by
  have hnames : ∀ name ∈ dateTimeTypes, name ≠ "boolean" ∧ name ≠ "string" ∧ name ≠ "float"
      ∧ name ≠ "double" ∧ name ≠ "decimal" ∧ ∀ other ∈ integerTypes, other ≠ name := by
    decide
  rw [List.forall_mem_map]
  intro name hname
  obtain ⟨hb, hs, hf, hx, hd, hi⟩ := hnames name hname
  refine ⟨xsd_ne hb, xsd_ne hs, xsd_ne hf, xsd_ne hx, xsd_ne hd, xsd_ne_langString name, ?_⟩
  rw [List.mem_map]
  rintro ⟨other, hother, heq⟩
  apply xsd_ne (hi other hother) heq

/-- A literal that stands for a value is read as this value. -/
theorem Denotes.ofLiteral_eq {l : Literal} {v : Value} (h : Denotes l v) :
  Value.ofLiteral l = v
  := by
  have hread {v : Value} (hs : l.datatype ≠ Datatype.string)
      (hl : l.datatype ≠ Datatype.langString) (hv : typedValue? l.value l.datatype = some v) :
      Value.ofLiteral l = v := by
    rw [ofLiteral_of_datatype hs hl, hv]
    rfl
  cases h with
  | boolean hd h =>
    apply hread (hd ▸ xsd_ne (by decide)) (hd ▸ xsd_ne_langString _)
    simp [typedValue?, hd, h]
  | integer hd h =>
    obtain ⟨hb, hs, hf, hx, hdec, hl⟩ := integerTypes_ne _ hd
    apply hread hs hl
    rw [typedValue?, if_neg hb, if_neg hs, if_neg hf, if_neg hx, if_neg hdec, if_pos hd, h]
    rfl
  | decimal hd h =>
    apply hread (hd ▸ xsd_ne (by decide)) (hd ▸ xsd_ne_langString _)
    rw [hd]
    exact congrArg (Option.map Value.decimal) h
  | float hd h =>
    apply hread (hd ▸ xsd_ne (by decide)) (hd ▸ xsd_ne_langString _)
    rw [hd]
    exact congrArg (Option.map Value.float) h
  | double hd h =>
    apply hread (hd ▸ xsd_ne (by decide)) (hd ▸ xsd_ne_langString _)
    rw [hd]
    exact congrArg (Option.map Value.double) h
  | dateTime hd h =>
    obtain ⟨hb, hs, hf, hx, hdec, hl, hi⟩ := dateTimeTypes_ne _ hd
    apply hread hs hl
    rw [typedValue?, if_neg hb, if_neg hs, if_neg hf, if_neg hx, if_neg hdec, if_neg hi, if_pos hd,
      h]
    rfl

/-- A literal that is read stands for the value. -/
theorem denotes_of_isParsed {l : Literal} (h : (Value.ofLiteral l).isParsed = true) :
  Denotes l (Value.ofLiteral l)
  := by
  cases l with
  | typed s datatype ne =>
    rw [Value.ofLiteral] at h ⊢
    cases hv : typedValue? s datatype with
    | none =>
      rw [hv] at h
      cases h
    | some v =>
      rw [Option.getD_some]
      simp only [typedValue?, if_neg ne] at hv
      split_ifs at hv with hb hf hx hd hi ht
      · obtain ⟨b, hb', rfl⟩ := Option.map_eq_some_iff.1 hv
        exact .boolean hb hb'
      · obtain ⟨x, hx, rfl⟩ := Option.map_eq_some_iff.1 hv
        exact .float hf hx
      · obtain ⟨x, hx', rfl⟩ := Option.map_eq_some_iff.1 hv
        exact .double hx hx'
      · obtain ⟨d, hd', rfl⟩ := Option.map_eq_some_iff.1 hv
        exact .decimal hd hd'
      · obtain ⟨n, hn, rfl⟩ := Option.map_eq_some_iff.1 hv
        exact .integer hi hn
      · obtain ⟨t, ht', rfl⟩ := Option.map_eq_some_iff.1 hv
        exact .dateTime ht ht'
  | _ => cases h

theorem hasValue_iff {t : Term} :
  HasValue t ↔ (Value.ofTerm t).isParsed = true
  := by
  constructor
  · rintro ⟨l, v, rfl, h⟩
    rw [Value.ofTerm, h.ofLiteral_eq]
    apply h.isParsed
  · intro h
    cases t with
    | literal l => exact ⟨l, _, rfl, denotes_of_isParsed h⟩
    | _ => cases h

/-! ### The same values -/

/-- Two literals are spellings of one value exactly when they are read as the same. -/
theorem sameSpelled_iff {l m : Literal} :
  SameSpelled l m ↔ ∃ v w, Denotes l v ∧ Denotes m w ∧ v.same w = true
  := by
  constructor
  · intro h
    cases h with
    | boolean b hl hm => exact ⟨_, _, hl, hm, by simp [Value.same]⟩
    | integer n hl hm => exact ⟨_, _, hl, hm, by simp [Value.same]⟩
    | decimal d hl hm => exact ⟨_, _, hl, hm, by simp [Value.same]⟩
    | float x y hl hm h => exact ⟨_, _, hl, hm, h⟩
    | double x y hl hm h => exact ⟨_, _, hl, hm, h⟩
    | dateTime t u hl hm hzone h =>
      exact ⟨_, _, hl, hm, by simp [Value.same, DateTime.same, hzone, h]⟩
  · rintro ⟨v, w, hl, hm, h⟩
    -- values of different kinds are never the same
    cases v with
    | boolean b =>
      cases w with
      | boolean c =>
        obtain rfl := decide_eq_true_iff.1 h
        apply SameSpelled.boolean b hl hm
      | _ => cases h
    | integer n =>
      cases w with
      | integer k =>
        obtain rfl := decide_eq_true_iff.1 h
        apply SameSpelled.integer n hl hm
      | _ => cases h
    | decimal d =>
      cases w with
      | decimal e =>
        obtain rfl := decide_eq_true_iff.1 h
        apply SameSpelled.decimal d hl hm
      | _ => cases h
    | float x =>
      cases w with
      | float y => apply SameSpelled.float x y hl hm h
      | _ => cases h
    | double x =>
      cases w with
      | double y => apply SameSpelled.double x y hl hm h
      | _ => cases h
    | dateTime t =>
      cases w with
      | dateTime u =>
        rw [Value.same, DateTime.same, Bool.and_eq_true, beq_iff_eq, beq_iff_eq] at h
        apply SameSpelled.dateTime t u hl hm h.1 h.2
      | _ => cases h
    | _ => cases hl

theorem SameSpelled.hasValue {l m : Literal} (h : SameSpelled l m) :
  HasValue (.literal l) ∧ HasValue (.literal m)
  := by
  obtain ⟨v, w, hl, hm, -⟩ := sameSpelled_iff.1 h
  exact ⟨⟨l, v, rfl, hl⟩, ⟨m, w, rfl, hm⟩⟩

/-- Terms of which one stands for itself are told apart. -/
theorem same_ofTerm_of_not {s t : Term} (h : ¬(HasValue s ∧ HasValue t)) :
  (Value.ofTerm s).same (Value.ofTerm t) = decide (s = t)
  := by
  apply Value.same_ofTerm
  rw [hasValue_iff, hasValue_iff, not_and_or, Bool.not_eq_true, Bool.not_eq_true] at h
  apply h

/-- The values of two terms are the same if the terms are the same and stand for themselves, or if
they are spellings of one value. -/
theorem same_ofTerm_iff {s t : Term} :
  (Value.ofTerm s).same (Value.ofTerm t) = true
    ↔ (s = t ∧ ¬HasValue s) ∨ ∃ l m, s = .literal l ∧ t = .literal m ∧ SameSpelled l m
  := by
  by_cases h : HasValue s ∧ HasValue t
  · obtain ⟨⟨l, v, rfl, hl⟩, ⟨m, w, rfl, hm⟩⟩ := h
    rw [Value.ofTerm, Value.ofTerm, hl.ofLiteral_eq, hm.ofLiteral_eq]
    constructor
    · intro hsame
      exact .inr ⟨l, m, rfl, rfl, sameSpelled_iff.2 ⟨v, w, hl, hm, hsame⟩⟩
    · rintro (⟨-, hno⟩ | ⟨_, _, ⟨⟩, ⟨⟩, hspelled⟩)
      · exact absurd ⟨l, v, rfl, hl⟩ hno
      · obtain ⟨v', w', hl', hm', hsame⟩ := sameSpelled_iff.1 hspelled
        rw [← hl.ofLiteral_eq, ← hm.ofLiteral_eq, hl'.ofLiteral_eq, hm'.ofLiteral_eq]
        apply hsame
  · rw [same_ofTerm_of_not h, decide_eq_true_iff]
    constructor
    · rintro rfl
      exact .inl ⟨rfl, fun hs => h ⟨hs, hs⟩⟩
    · rintro (⟨heq, -⟩ | ⟨l, m, rfl, rfl, hspelled⟩)
      · apply heq
      · exact absurd hspelled.hasValue h

end RelGraph.Sparql
