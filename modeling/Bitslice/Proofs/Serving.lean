import Bitslice.Circuit.Load
import Bitslice.Proofs.Replaying
import Bitslice.Trace.Split

/-!
# How a stream is served

Two sources of the same stream hold the same bytes and end in the same way;
their pieces and interruptions may differ. What is read off them stays the same
stream, part after part, so loading a circuit and everything that is done with
a stored trace answers alike.
-/

namespace Bitslice

namespace ByteSource

/-- Two sources hold the same bytes and end in the same way, however they serve them. -/
structure SameStream (left right : ByteSource) : Prop where
  contents : left.contents = right.contents
  failure : left.failure = right.failure

/-- The same stream with all its bytes in one piece and without interruptions. -/
def inOnePiece (source : ByteSource) : ByteSource :=
  { ofBytes source.contents with failure := source.failure }

theorem sameStream_inOnePiece (source : ByteSource) : source.SameStream source.inOnePiece where
  contents := by
    cases held : source.contents <;> simp [inOnePiece, ofBytes, held]
  failure := rfl

example : inOnePiece ⟨[.interruption, .piece 1 [2], .interruption, .piece 3 []], none⟩ =
    ofBytes [1, 2, 3] := rfl

/-- Filling answers alike and leaves the same stream. -/
theorem SameStream.fill {left right : ByteSource} (same : left.SameStream right) (count : Nat) :
    ∃ filled leftLater rightLater, left.fill count = (filled, leftLater) ∧
      right.fill count = (filled, rightLater) ∧ leftLater.SameStream rightLater := by
  have answer : (left.fill count).1 = (right.fill count).1 := by
    rw [fill_eq_outcome, fill_eq_outcome, same.contents, same.failure]
  refine ⟨(left.fill count).1, (left.fill count).2, (right.fill count).2, rfl,
    Prod.ext answer.symm rfl, ?_, ?_⟩
  · rw [contents_fill, contents_fill, same.contents]
  · rw [failure_fill, failure_fill, same.failure]

end ByteSource

/-- Two results are the same error, or values that are related. -/
inductive ResultsRelated {α ε : Type} (related : α → α → Prop) : Except ε α → Except ε α → Prop
  | error (cause : ε) : ResultsRelated related (.error cause) (.error cause)
  | ok {left right : α} (values : related left right) :
    ResultsRelated related (.ok left) (.ok right)

namespace ResultsRelated

variable {α β ε : Type} {related : α → α → Prop} {left right : Except ε α}

/-- Related results go on to related results if related values do. -/
theorem bind {relatedLater : β → β → Prop} (first : ResultsRelated related left right)
    {leftNext rightNext : α → Except ε β}
    (next : ∀ leftValue rightValue, related leftValue rightValue →
      ResultsRelated relatedLater (leftNext leftValue) (rightNext rightValue)) :
    ResultsRelated relatedLater (left >>= leftNext) (right >>= rightNext) := by
  cases first with
  | error cause => exact .error cause
  | ok values => exact next _ _ values

/-- A check that does not depend on what differs. -/
theorem check_bind {check : Except ε Unit} {leftNext rightNext : Unit → Except ε α}
    (next : ResultsRelated related (leftNext ()) (rightNext ())) :
    ResultsRelated related (check >>= leftNext) (check >>= rightNext) := by
  cases check with
  | error cause => exact .error cause
  | ok => exact next

theorem eq (results : ResultsRelated Eq left right) : left = right := by
  cases results with
  | error cause => rfl
  | ok values => rw [values]

end ResultsRelated

/-- What two readings have in common: the same value, and the same stream to go on with. -/
def SameReading {α : Type} (left right : α × ByteSource) : Prop :=
  left.1 = right.1 ∧ left.2.SameStream right.2

namespace Circuit

section Parts

variable {left right : ByteSource}

theorem readPart_related (same : left.SameStream right) (part : Section) (count : Nat) :
    ResultsRelated SameReading (readPart part count left) (readPart part count right) := by
  obtain ⟨filled, leftLater, rightLater, leftFilled, rightFilled, later⟩ := same.fill count
  simp only [readPart, leftFilled, rightFilled]
  cases filled with
  | complete bytes => exact .ok ⟨rfl, later⟩
  | short bytes => exact .error _
  | failed cause =>
    by_cases ended : cause.kind = .unexpectedEnd
    · simp only [if_pos ended]
      exact .error _
    · simp only [if_neg ended]
      exact .error _

theorem readHeader_related (same : left.SameStream right) :
    ResultsRelated (fun leftRead rightRead : Layout × Header × ByteSource =>
      leftRead.1 = rightRead.1 ∧ SameReading leftRead.2 rightRead.2)
      (readHeader left) (readHeader right) := by
  refine (readPart_related same .header 4).bind ?_
  rintro ⟨leading, leftLater⟩ ⟨_, rightLater⟩ ⟨rfl, later⟩
  refine (readPart_related later .header ((Layout.announced leading).headerSize - 4)).bind ?_
  rintro ⟨others, leftLast⟩ ⟨_, rightLast⟩ ⟨rfl, last⟩
  cases decoded : Header.decode (Layout.announced leading) (leading ++ others) with
  | error cause =>
    simp only [decoded]
    exact .error _
  | ok header =>
    simp only [decoded]
    exact .ok ⟨rfl, rfl, last⟩

/-- A table that is not finished takes a group, checks it and goes on. -/
theorem readEntries_of_ne_zero (table : Table) (header : Header) {remaining : Nat}
    (some : remaining ≠ 0) (entries : Array UInt64) (source : ByteSource) :
    readEntries table header remaining entries source =
      (let count := min remaining entriesPerRead
      readPart .addressTable (count * header.widths.address) source >>= fun group =>
        checkEntries table header.memory entries.size
            (fields header.widths.address count group.1) >>= fun _ =>
          readEntries table header (remaining - count)
            (entries ++ fields header.widths.address count group.1) group.2) := by
  rw [readEntries, if_neg some]
  simp only
  cases readPart .addressTable (min remaining entriesPerRead * header.widths.address) source with
  | error cause => rfl
  | ok group =>
    simp only [bind, Except.bind]
    split <;> simp_all

/-- Induction on the groups in which a table is read. -/
theorem group_induction {motive : Nat → Prop} (done : motive 0)
    (group : ∀ remaining, remaining ≠ 0 →
      motive (remaining - min remaining entriesPerRead) → motive remaining)
    (remaining : Nat) : motive remaining := by
  induction remaining using Nat.strongRecOn with
  | ind remaining ih =>
    by_cases none : remaining = 0
    · exact none ▸ done
    · have fewer : remaining - min remaining entriesPerRead < remaining := by
        unfold entriesPerRead
        omega
      exact group remaining none (ih _ fewer)

/-- A table is read alike, over the entries collected so far. -/
theorem readEntries_related (same : left.SameStream right) (table : Table) (header : Header)
    (remaining : Nat) (entries : Array UInt64) :
    ResultsRelated SameReading (readEntries table header remaining entries left)
      (readEntries table header remaining entries right) := by
  induction remaining using group_induction generalizing entries left right with
  | done =>
    rw [readEntries, readEntries]
    exact .ok ⟨rfl, same⟩
  | group remaining some ih =>
    rw [readEntries_of_ne_zero table header some, readEntries_of_ne_zero table header some]
    refine (readPart_related same .addressTable _).bind ?_
    rintro ⟨group, leftLater⟩ ⟨_, rightLater⟩ ⟨rfl, later⟩
    refine .check_bind ?_
    exact ih later _

theorem readTable_related (same : left.SameStream right) (reservation : Reservation)
    (table : Table) (header : Header) (count : UInt64) :
    ResultsRelated SameReading (readTable reservation table header count left)
      (readTable reservation table header count right) :=
  .check_bind (readEntries_related same table header count.toNat #[])

theorem readStream_related (same : left.SameStream right) (reservation : Reservation)
    (header : Header) :
    ResultsRelated SameReading (readStream reservation header left)
      (readStream reservation header right) := by
  refine .check_bind ?_
  obtain ⟨filled, leftLater, rightLater, leftFilled, rightFilled, later⟩ :=
    same.fill header.streamSize.toNat
  simp only [leftFilled, rightFilled]
  cases filled with
  | complete stream =>
    simp only
    cases countGates header.memory 0 (GateStream.items header.widths stream) with
    | error cause => exact .error cause
    | ok count =>
      by_cases counted : count = header.gateCount.toNat
      · simp only [bind, Except.bind, if_pos counted]
        exact .ok ⟨rfl, later⟩
      · simp only [bind, Except.bind, if_neg counted]
        exact .error _
  | short bytes => exact .error _
  | failed cause => exact .error _

theorem checkEnd_congr (same : left.SameStream right) : checkEnd left = checkEnd right := by
  obtain ⟨filled, leftLater, rightLater, leftFilled, rightFilled, -⟩ := same.fill 1
  simp only [checkEnd, leftFilled, rightFilled]
  cases filled <;> rfl

/-- Loading from two sources of the same stream gives the same circuit or the same failure. -/
theorem read_congr (same : left.SameStream right) (lanes : Lanes) (reservation : Reservation)
    (length : Option UInt64) :
    read lanes reservation length left = read lanes reservation length right := by
  apply ResultsRelated.eq
  refine (readHeader_related same).bind ?_
  rintro ⟨layout, header, leftBody⟩ ⟨_, _, rightBody⟩ ⟨rfl, rfl, body⟩
  refine .check_bind ?_
  refine (readTable_related body reservation .input header header.inputCount).bind ?_
  rintro ⟨inputs, leftOutputs⟩ ⟨_, rightOutputs⟩ ⟨rfl, outputsAhead⟩
  refine (readTable_related outputsAhead reservation .output header header.outputCount).bind ?_
  rintro ⟨outputs, leftStream⟩ ⟨_, rightStream⟩ ⟨rfl, streamAhead⟩
  refine (readStream_related streamAhead reservation header).bind ?_
  rintro ⟨stream, leftEnd⟩ ⟨_, rightEnd⟩ ⟨rfl, endAhead⟩
  simp only [checkEnd_congr endAhead]
  refine .check_bind (.check_bind ?_)
  exact .ok rfl

end Parts

end Circuit

namespace Trace

variable {lanes : Lanes} {left right : ByteSource}

/-- The answers to `count` successive requests for a record, going on after errors and after the
end. -/
def answers (lanes : Lanes) :
    (count : Nat) → ByteSource → List (Option (Except IoFailure (Register lanes)))
  | 0, _ => []
  | count + 1, source =>
    (next? lanes source).1 :: answers lanes count (next? lanes source).2

theorem next?_alike (lanes : Lanes) (same : left.SameStream right) :
    ∃ answer leftLater rightLater, next? lanes left = (answer, leftLater) ∧
      next? lanes right = (answer, rightLater) ∧ leftLater.SameStream rightLater := by
  obtain ⟨filled, leftLater, rightLater, leftFilled, rightFilled, later⟩ := same.fill lanes.bytes
  simp only [next?, leftFilled, rightFilled]
  cases filled with
  | complete bytes => exact ⟨_, _, _, rfl, rfl, later⟩
  | short bytes => cases bytes <;> exact ⟨_, _, _, rfl, rfl, later⟩
  | failed cause => exact ⟨_, _, _, rfl, rfl, later⟩

theorem answers_congr (same : left.SameStream right) (count : Nat) :
    answers lanes count left = answers lanes count right := by
  induction count generalizing left right with
  | zero => rfl
  | succ count ih =>
    obtain ⟨answer, leftLater, rightLater, leftAnswered, rightAnswered, later⟩ :=
      next?_alike lanes same
    rw [answers, answers, leftAnswered, rightAnswered, ih later]

/-- The same records are read, and the same error or none. The induction is on the records of
one of the sources. -/
theorem readFrom_congr (same : left.SameStream right) (collected : Array (Register lanes)) :
    (readFrom collected left).records = (readFrom collected right).records ∧
      (readFrom collected left).failure = (readFrom collected right).failure := by
  induction sizes : left.size using Nat.strongRecOn generalizing left right collected with
  | ind size ih =>
    subst sizes
    obtain ⟨answer, leftLater, rightLater, leftAnswered, rightAnswered, later⟩ :=
      next?_alike lanes same
    match answer with
    | none => simp [readFrom_of_end leftAnswered, readFrom_of_end rightAnswered]
    | some (.error cause) =>
      simp [readFrom_of_failure leftAnswered, readFrom_of_failure rightAnswered]
    | some (.ok register) =>
      rw [readFrom_of_record leftAnswered, readFrom_of_record rightAnswered]
      exact ih leftLater.size (size_of_next? leftAnswered) later _ rfl

theorem replay_congr (same : left.SameStream right) (circuit : Circuit lanes) :
    replay circuit left = replay circuit right := by
  obtain ⟨records, failure⟩ := readFrom_congr same (#[] : Array (Register lanes))
  rw [replay_eq, replay_eq, items, items, read, read, records, failure]

theorem split_congr (same : left.SameStream right) {W : Type} [ByteSink W] (writers : List W) :
    split lanes left writers = split lanes right writers := by
  obtain ⟨records, failure⟩ := readFrom_congr same (#[] : Array (Register lanes))
  simp only [split, read, records, failure]

end Trace

/-- How a stream is served changes no answer. A source that serves its bytes in pieces of any
sizes, interrupted any number of times, is loaded as the same circuit or with the same failure as
when the bytes come in one piece, on any lanes and with any known length. As a stored trace it
yields the same records and errors to any number of requests, also beyond the first error; it
replays to the same cells or the same failure, and split over any writers it leaves the same
result and the same writers. -/
theorem serving_changes_no_answer (lanes : Lanes) (source : ByteSource) :
    (∀ reservation length, Circuit.read lanes reservation length source =
        Circuit.read lanes reservation length source.inOnePiece) ∧
      (∀ count, Trace.answers lanes count source = Trace.answers lanes count source.inOnePiece) ∧
      (∀ circuit : Circuit lanes,
        Trace.replay circuit source = Trace.replay circuit source.inOnePiece) ∧
      ∀ (W : Type) [ByteSink W] (writers : List W),
        Trace.split lanes source writers = Trace.split lanes source.inOnePiece writers := by
  have same := source.sameStream_inOnePiece
  refine ⟨?_, ?_, ?_, ?_⟩
  · intro reservation length
    exact Circuit.read_congr same lanes reservation length
  · intro count
    exact Trace.answers_congr same count
  · intro circuit
    exact Trace.replay_congr same circuit
  · intro W _ writers
    exact Trace.split_congr same writers

end Bitslice
