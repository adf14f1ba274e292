import RecordQuery.Proofs.Entries
import RecordQuery.Proofs.Query.WellFormed
import RecordQuery.Query.Predicate

set_option autoImplicit false

/-!
# Interpreting queries

What a query says about a record at a moment, told from the tree alone: literals are lowered,
patterns compiled and dates read when the question is asked. A query is turned into a predicate
ahead of that, and the predicate gives the same answers.

## Main definitions

* `RecordQuery.Literal.Matches`, `RecordQuery.Comparison.Relates` — what values are held against.
* `RecordQuery.boundMoment?` — the moment that a bound names when it is asked about.
* `RecordQuery.Tree.Holds` — what a query says.

## Main results

* `RecordQuery.Tree.predicate_date_congr_bound` — selections by date do not tell bounds apart that name
  the same moment.
* `RecordQuery.Tree.predicate_iff_holds` — a predicate says what its well-formed query does.
* `RecordQuery.Tree.predicate_iff_holds_of_ofText` — and so for every query that is parsed.
-/

namespace RecordQuery

open Grammar

variable {s : Settings} {now : Instant} {record : Record}

/-! ## What a query says -/

/-- Whether a text matches a literal. A pattern is compiled from its source. -/
def Literal.Matches (s : Settings) (text : String) : Literal → Prop
  | .text t => if s.caseSensitive then text = t else Text.lower text = Text.lower t
  | .pattern p => ∃ q, Pattern.compile (!s.caseSensitive) p.source = .ok q ∧ q.occursIn text = true

/-- Whether two numbers have places in the order of numbers that stand in a comparison. -/
def Comparison.Relates (c : Comparison) (x y : Number) : Prop :=
  ∃ a b, x.order? = some a ∧ y.order? = some b ∧
    match c with
    | .less => a < b
    | .greater => b < a
    | .atMost => a ≤ b
    | .atLeast => b ≤ a

/-- The first moment that has a date at an offset from UTC. -/
def firstMoment (offset : Int) : Int := (Instant.firstLocalSecond - offset) * 1000000000

/-- The moment that a bound names when it is asked about at `now`. -/
def boundMoment? (now : Instant) (bound : String) : Option Int :=
  if bound.toList.map lowerAscii = "yesterday".toList then
    some (max (now.moment - 24 * 60 * 60 * 1000000000) (firstMoment now.offset))
  else (Instant.read? bound.toList).map Instant.moment

/-- Whether a field is there and matches a literal. -/
def Record.FieldMatches (s : Settings) (record : Record) (key : String) (v : Literal) : Prop :=
  ∃ x, record.get? key = some x ∧ v.Matches s x.toText

/-- Whether a field is there, is a number and stands in a comparison with another. -/
def Record.FieldRelates (record : Record) (key : String) (c : Comparison) (bound : Number) : Prop :=
  ∃ x n, record.get? key = some x ∧ x.number? = some n ∧ c.Relates n bound

/-- Whether the date of a record is there and lies on a side of a bound. -/
def Record.DateLies (s : Settings) (now : Instant) (record : Record) (side : Side)
    (bound : String) : Prop :=
  ∃ x t m, record.get? s.dateKey = some x ∧ x.date? = some t ∧ boundMoment? now bound = some m ∧
    match side with
    | .before => t.moment < m
    | .after => m < t.moment

/-- What a selection says, negated or not. -/
def Signed (negated : Bool) (p : Prop) : Prop := if negated then ¬p else p

/-- What a query says about a record at a moment. -/
def Tree.Holds (s : Settings) (now : Instant) (record : Record) : Tree → Prop
  | .everything => True
  | .joined .and left right => left.Holds s now record ∧ right.Holds s now record
  | .joined .or left right => left.Holds s now record ∨ right.Holds s now record
  | .field key negated v => Signed negated (record.FieldMatches s key v)
  | .number key c negated bound => Signed negated (record.FieldRelates key c bound)
  | .date side negated bound => Signed negated (record.DateLies s now side bound)
  | .anyField v => ∃ key, record.FieldMatches s key v

/-! ## Literals and numbers -/

/-- A literal made ready accepts the values whose texts match it. -/
theorem Matcher.accepts_iff {v : Literal} (hv : v.WellFormed s) (x : Value) :
    (Matcher.ofLiteral s v).accepts x = true ↔ v.Matches s x.toText := by
  cases v with
  | text t =>
    cases hs : s.caseSensitive <;> simp [Matcher.ofLiteral, Literal.Matches, Matcher.accepts, hs]
  | pattern p =>
    have hp : Pattern.compile (!s.caseSensitive) p.source = .ok p := hv.2
    simp [Matcher.ofLiteral, Literal.Matches, Matcher.accepts, hp]

/-- Numbers are compared by their places, if both have one. -/
theorem Number.compare_iff (x y : Number) (r : Int → Int → Prop) [DecidableRel r] :
    (match x.order?, y.order? with
      | some a, some b => decide (r a b)
      | _, _ => false) = true ↔ ∃ a b, x.order? = some a ∧ y.order? = some b ∧ r a b := by
  split
  · rename_i a b hx hy
    simp [hx, hy]
  · rename_i h
    simp only [Bool.false_eq_true, false_iff]
    rintro ⟨a, b, hx, hy, -⟩
    exact h a b hx hy

/-- Two numbers stand in a comparison if their places do. -/
theorem Comparison.holds_iff_relates (c : Comparison) (x y : Number) :
    c.holds x y = true ↔ c.Relates x y := by
  cases c with
  | less => exact x.compare_iff y (· < ·)
  | atMost => exact x.compare_iff y (· ≤ ·)
  | greater =>
    refine (y.compare_iff x (· < ·)).trans ?_
    rw [exists_comm]
    simp only [Comparison.Relates, and_left_comm]
  | atLeast =>
    refine (y.compare_iff x (· ≤ ·)).trans ?_
    rw [exists_comm]
    simp only [Comparison.Relates, and_left_comm]

/-! ## Bounds -/

/-- A day earlier is 24 hours earlier, but not before the first moment.

**Proof sketch.** If 24 hours earlier a clock would show a second before the first one, then that
moment lies before the first moment, since a part of a second makes up no whole one. -/
theorem Instant.moment_dayEarlier (t : Instant) :
    t.dayEarlier.moment = max (t.moment - 24 * 60 * 60 * 1000000000) (firstMoment t.offset) := by
  have hnanos := t.nanos_lt
  unfold Instant.dayEarlier
  split
  · rename_i h
    simp only [Instant.moment, firstMoment, Instant.localSeconds, secondsPerDay] at h ⊢
    omega
  · rename_i h
    simp only [Instant.moment, firstMoment, Instant.localSeconds, secondsPerDay] at h ⊢
    omega

/-- A bound made ready names the same moment when it is asked about. -/
theorem Bound.moment_resolve (now : Instant) (bound : String) :
    (Bound.ofText? bound).map (fun b => (b.resolve now).moment) = boundMoment? now bound := by
  unfold Bound.ofText? boundMoment?
  split
  · simp [Bound.resolve, Instant.moment_dayEarlier]
  · cases Instant.read? bound.toList <;> simp [Bound.resolve]

/-- A date lies on a side of an instant if its moment does. -/
theorem Side.holds_iff (side : Side) (t bound : Instant) :
    side.holds t bound = true ↔
      match side with
      | .before => t.moment < bound.moment
      | .after => bound.moment < t.moment := by
  cases side <;> simp [Side.holds, Instant.before]

/-! ## Selections -/

/-- A negated answer is the opposite one. -/
theorem bne_iff_signed {b negated : Bool} {p : Prop} (h : b = true ↔ p) :
    (b != negated) = true ↔ Signed negated p := by
  rw [Signed, ← h]
  cases b <;> cases negated <;> simp

/-- A selection by field asks for a value that matches. -/
theorem any_accepts_iff {v : Literal} (hv : v.WellFormed s) (record : Record) (key : String) :
    (record.get? key).any (Matcher.ofLiteral s v).accepts = true ↔
      record.FieldMatches s key v := by
  unfold Record.FieldMatches
  rw [Option.any_eq_true]
  exact exists_congr fun x => and_congr_right fun _ => Matcher.accepts_iff hv x

/-- A selection by number asks for a value that is a number in the comparison. -/
theorem any_holds_iff (c : Comparison) (bound : Number) (record : Record) (key : String) :
    ((record.get? key).bind Value.number?).any (c.holds · bound) = true ↔
      record.FieldRelates key c bound := by
  unfold Record.FieldRelates
  rw [Option.any_eq_true]
  constructor
  · rintro ⟨n, hn, h⟩
    obtain ⟨x, hx, hxn⟩ := Option.bind_eq_some_iff.1 hn
    exact ⟨x, n, hx, hxn, (c.holds_iff_relates n bound).1 h⟩
  · rintro ⟨x, n, hx, hxn, h⟩
    exact ⟨n, Option.bind_eq_some_iff.2 ⟨x, hx, hxn⟩, (c.holds_iff_relates n bound).2 h⟩

/-- A selection by date asks for a date on the side of the bound, which no date is if the bound is
none. -/
theorem datePredicate_iff (s : Settings) (now : Instant) (record : Record) (side : Side)
    (negated : Bool) (bound : String) :
    Tree.datePredicate s side negated bound now record = true ↔
      Signed negated (record.DateLies s now side bound) := by
  have hmoment := Bound.moment_resolve now bound
  unfold Tree.datePredicate Record.DateLies
  rw [← hmoment]
  cases Bound.ofText? bound with
  | none => cases negated <;> simp [Signed]
  | some b =>
    refine bne_iff_signed ?_
    cases hdate : (record.get? s.dateKey).bind Value.date? with
    | none =>
      simp only [Bool.false_eq_true, false_iff]
      rintro ⟨x, t, -, hx, ht, -⟩
      rw [Option.bind_eq_some_iff.2 ⟨x, hx, ht⟩] at hdate
      cases hdate
    | some t =>
      obtain ⟨x, hx, ht⟩ := Option.bind_eq_some_iff.1 hdate
      rw [side.holds_iff]
      simp [hx, ht]

/-- Selections by date with bounds that name the same moment are met together. -/
theorem Tree.predicate_date_congr_bound {now' : Instant} {side : Side} {bound bound' : String}
    (h : boundMoment? now bound = boundMoment? now' bound') (negated : Bool) :
    (Tree.date side negated bound).predicate s now record =
      (Tree.date side negated bound').predicate s now' record := by
  rw [Bool.eq_iff_iff, Tree.predicate, Tree.predicate, datePredicate_iff, datePredicate_iff]
  unfold Record.DateLies
  rw [h]

/-- A selection by any field asks for a field that matches. -/
theorem values_any_accepts_iff {v : Literal} (hv : v.WellFormed s) (hrecord : record.Distinct) :
    record.values.any (Matcher.ofLiteral s v).accepts = true ↔
      ∃ key, record.FieldMatches s key v := by
  rw [List.any_eq_true]
  constructor
  · rintro ⟨x, hx, haccepts⟩
    obtain ⟨key, hkey⟩ := hrecord.mem_values_iff.1 hx
    exact ⟨key, x, hkey, (Matcher.accepts_iff hv x).1 haccepts⟩
  · rintro ⟨key, x, hkey, hmatches⟩
    exact ⟨x, hrecord.mem_values_iff.2 ⟨key, hkey⟩, (Matcher.accepts_iff hv x).2 hmatches⟩

/-! ## Queries -/

namespace Tree

/-- The predicate of a well-formed part says what the part does.

**Proof sketch.** Induction on the tree: conjunctions ask both sides, and each kind of selection is
one of the lemmas above. -/
theorem predicate_iff_holds {t : Tree} (ht : t.IsPart s) (hrecord : record.Distinct) :
    t.predicate s now record = true ↔ t.Holds s now record := by
  induction t with
  | everything => exact ht.elim
  | joined j left right ihl ihr =>
    cases j with
    | and => simp only [predicate, Holds, Bool.and_eq_true, ihl ht.1, ihr ht.2]
    | or => simp only [predicate, Holds, Bool.or_eq_true, ihl ht.1, ihr ht.2]
  | field key negated v => exact bne_iff_signed (any_accepts_iff ht.2.2.2 record key)
  | number key c negated bound => exact bne_iff_signed (any_holds_iff c bound record key)
  | date side negated bound => exact datePredicate_iff s now record side negated bound
  | anyField v => exact values_any_accepts_iff ht hrecord

/-- **Predicates say what queries do**: for every query that is parsed, at every moment and about
every record, the predicate that it is turned into agrees with the interpretation of its tree. The
names of a record are distinct, which inserting fields keeps so (`Entries.ascending_ofList`).

**Proof sketch.** The tree is well formed (`wellFormed_of_ofText`), so that compiling its patterns
again gives the same patterns (`predicate_iff_holds`). -/
theorem predicate_iff_holds_of_ofText {query : String} {t : Tree} (h : Tree.ofText s query = .ok t)
    (now : Instant) {record : Record} (hrecord : record.Distinct) :
    t.predicate s now record = true ↔ t.Holds s now record := by
  rcases wellFormed_of_ofText h with rfl | ht
  · simp [predicate, Holds]
  · exact predicate_iff_holds ht hrecord

/-- Asked a day later at midnight, the last second of a day lies before `Yesterday`. -/
theorem predicate_iff_holds_yesterday :
    let t : Tree :=
      .joined .and (.date .before false "Yesterday") (.field "name" true (.text "Ann"))
    let record : Record :=
      Entries.ofList [("name", .text "BEN"), ("date", .text "2024-01-01 23:59:59")]
    let now : Instant := .ofSeconds 1704240000
    Tree.ofText {} "before:Yesterday -name:Ann" = .ok t ∧ record.Distinct ∧
      t.Holds {} now record := by
  intro t record now
  have hparses : Tree.ofText {} "before:Yesterday -name:Ann" = .ok t := by cbv
  have hrecord : record.Distinct := (Entries.ascending_ofList _).distinct
  have hselected : t.predicate {} now record = true := by cbv
  exact ⟨hparses, hrecord, (predicate_iff_holds_of_ofText hparses now hrecord).1 hselected⟩

end Tree

end RecordQuery
