import Bitslice.Proofs.KnownLengths
import Bitslice.Proofs.Serving

/-!
# Streams that break off

A stream that breaks can be told from one that goes on only where it breaks.
What is wrong with the bytes in front of that is wrong however the stream goes
on: such a failure is final (`LoadFailure.Final`), and it persists when bytes
are added (`Circuit.read_persists`). All other failures come from running out
of bytes (`Circuit.RunsOut`), and a broken stream then reports its own failure.
-/

namespace Bitslice

/-- The failure has nothing to do with where the stream ends, and how. -/
def LoadFailure.Final : LoadFailure → Prop
  | .unreadable _ | .truncated _ | .allocation .ram _ => False
  | _ => True

theorem LoadFailure.Final.ne_unreadable {failure : LoadFailure} {cause : IoFailure}
    (final : failure.Final) : failure ≠ .unreadable cause := by
  rintro rfl
  exact final

/-- A final failure on the left is the failure on the right. -/
def Persists {α : Type} (left right : Except LoadFailure α) : Prop :=
  ∀ failure, failure.Final → left = .error failure → right = .error failure

namespace Persists

variable {α β : Type} {left right : Except LoadFailure α}

theorem bind {leftNext rightNext : α → Except LoadFailure β} (first : Persists left right)
    (next : ∀ value, left = .ok value →
      ∃ other, right = .ok other ∧ Persists (leftNext value) (rightNext other)) :
    Persists (left >>= leftNext) (right >>= rightNext) := by
  intro failure final failed
  rcases bind_eq_error_iff.mp failed with here | ⟨value, done, later⟩
  · rw [first failure final here]
    rfl
  · obtain ⟨other, doneToo, persists⟩ := next value done
    rw [doneToo]
    exact persists failure final later

/-- Nothing final happens behind the last step that compares. -/
theorem last {leftNext rightNext : α → Except LoadFailure β} (first : Persists left right)
    (next : ∀ value failure, failure.Final → leftNext value ≠ .error failure) :
    Persists (left >>= leftNext) (right >>= rightNext) := by
  intro failure final failed
  rcases bind_eq_error_iff.mp failed with here | ⟨value, -, later⟩
  · rw [first failure final here]
    rfl
  · exact absurd later (next value failure final)

/-- A check that does not depend on what differs. -/
theorem check_bind {check : Except LoadFailure Unit} {leftNext rightNext : Unit →
    Except LoadFailure α} (next : Persists (leftNext ()) (rightNext ())) :
    Persists (check >>= leftNext) (check >>= rightNext) := by
  cases check with
  | error cause => exact fun _ _ failed => failed
  | ok => exact next

end Persists

namespace Circuit

theorem failure_of_reserve {reservation : Reservation} {buffer : Buffer} {length : UInt64}
    {size : Nat} {failure : LoadFailure}
    (refused : reserve reservation buffer length size = .error failure) :
    failure = .allocation buffer length := by
  unfold reserve at refused
  split at refused
  · cases refused
  · cases refused
    rfl

section Longer

variable {left right : ByteSource} {more : Bytes} {part : Section} {count : Nat}

theorem readPart_persists : Persists (readPart part count left) (readPart part count right) := by
  intro failure final failed
  rcases failure_of_readPart failed with rfl | ⟨cause, rfl⟩ <;> cases final

theorem contents_of_longer {bytes : Bytes} {leftLater : ByteSource}
    (longer : right.contents = left.contents ++ more) (delivered : left.Delivers bytes leftLater) :
    right.contents = bytes ++ (leftLater.contents ++ more) := by
  rw [longer, delivered.contents, List.append_assoc]

/-- A part that has been read is read with more bytes behind it, too. -/
theorem readPart_of_longer (longer : right.contents = left.contents ++ more)
    {read : Bytes × ByteSource} (done : readPart part count left = .ok read) :
    ∃ later, readPart part count right = .ok (read.1, later) ∧
      later.contents = read.2.contents ++ more := by
  obtain ⟨delivered, rfl⟩ := delivers_of_readPart done
  have whole := contents_of_longer longer delivered
  obtain ⟨later, doneToo, deliveredToo⟩ := readPart_of_append part whole
  exact ⟨later, doneToo, deliveredToo.contents_eq whole⟩

theorem readHeader_persists (longer : right.contents = left.contents ++ more) :
    Persists (readHeader left) (readHeader right) := by
  refine readPart_persists.bind ?_
  rintro ⟨leading, leftLater⟩ done
  obtain ⟨rightLater, doneToo, later⟩ := readPart_of_longer longer done
  refine ⟨_, doneToo, readPart_persists.bind ?_⟩
  rintro ⟨others, leftLast⟩ done
  obtain ⟨rightLast, doneToo, last⟩ := readPart_of_longer later done
  refine ⟨_, doneToo, ?_⟩
  intro failure final failed
  simp only at failed ⊢
  cases decoded : Header.decode (Layout.announced leading) (leading ++ others) with
  | error cause =>
    rw [decoded] at failed
    exact failed
  | ok header =>
    rw [decoded] at failed
    cases failed

theorem readHeader_of_longer (longer : right.contents = left.contents ++ more)
    {layout : Layout} {header : Header} {leftLater : ByteSource}
    (done : readHeader left = .ok (layout, header, leftLater)) :
    ∃ later, readHeader right = .ok (layout, header, later) ∧
      later.contents = leftLater.contents ++ more := by
  obtain ⟨rfl, valid, carried, delivered⟩ := delivers_of_readHeader done
  have four : 4 ≤ left.contents.length := by
    rw [delivered.contents, List.length_append, Header.length_text]
    exact Nat.le_add_right_of_le (Layout.announced left.contents).headerSize_bounded.1
  have announced : Layout.announced right.contents = Layout.announced left.contents := by
    rw [Layout.announced, Layout.announced, longer, List.take_append_of_le_length four]
  have whole := contents_of_longer longer delivered
  obtain ⟨later, doneToo, deliveredToo⟩ := readHeader_of_append valid carried announced whole
  exact ⟨later, doneToo, deliveredToo.contents_eq whole⟩

variable {header : Header} {table : Table}

theorem readEntries_persists (longer : right.contents = left.contents ++ more)
    (remaining : Nat) (entries : Array UInt64) :
    Persists (readEntries table header remaining entries left)
      (readEntries table header remaining entries right) := by
  induction remaining using group_induction generalizing entries left right with
  | done =>
    intro failure final failed
    rw [readEntries] at failed
    cases failed
  | group remaining some ih =>
    rw [readEntries_of_ne_zero table header some, readEntries_of_ne_zero table header some]
    refine readPart_persists.bind ?_
    rintro ⟨group, leftLater⟩ done
    obtain ⟨rightLater, doneToo, later⟩ := readPart_of_longer longer done
    exact ⟨_, doneToo, .check_bind (ih later _)⟩

variable {reservation : Reservation}

theorem readTable_persists (longer : right.contents = left.contents ++ more) {count : UInt64} :
    Persists (readTable reservation table header count left)
      (readTable reservation table header count right) :=
  .check_bind (readEntries_persists longer count.toNat #[])

theorem readTable_of_longer (longer : right.contents = left.contents ++ more)
    (addressable : header.memory.toNat ≤ Field.capacity header.widths.address)
    {count : UInt64} {addresses : List UInt64} {leftLater : ByteSource}
    (done : readTable reservation table header count left = .ok (addresses, leftLater)) :
    ∃ later, readTable reservation table header count right = .ok (addresses, later) ∧
      later.contents = leftLater.contents ++ more := by
  obtain ⟨granted, counted, inside, delivered⟩ := delivers_of_readTable done
  have whole := contents_of_longer longer delivered
  obtain ⟨later, doneToo, deliveredToo⟩ :=
    readTable_of_append table granted addressable counted inside whole
  exact ⟨later, doneToo, deliveredToo.contents_eq whole⟩

theorem readStream_persists (longer : right.contents = left.contents ++ more) :
    Persists (readStream reservation header left) (readStream reservation header right) := by
  refine .check_bind ?_
  intro failure final failed
  split at failed
  · cases failed
    cases final
  · cases failed
    cases final
  · next stream leftLater filled =>
    obtain ⟨whole, sized, -⟩ := ByteSource.contents_of_fill_complete filled
    rw [whole, List.append_assoc] at longer
    obtain ⟨rightLater, filledToo, -⟩ := fill_of_append longer
    rw [sized] at filledToo
    simp only [filledToo]
    rcases bind_eq_error_iff.mp failed with uncounted | ⟨total, counted, failed⟩
    · rw [uncounted]
      rfl
    · rw [counted]
      split at failed
      · cases failed
      · next other =>
        cases failed
        exact if_neg other

theorem readStream_of_longer (longer : right.contents = left.contents ++ more)
    {stream : Bytes} {leftLater : ByteSource}
    (done : readStream reservation header left = .ok (stream, leftLater)) :
    ∃ later, readStream reservation header right = .ok (stream, later) ∧
      later.contents = leftLater.contents ++ more := by
  obtain ⟨granted, sized, delivered, gates, decoded, inside, counted⟩ :=
    delivers_of_readStream done
  have whole := contents_of_longer longer delivered
  obtain ⟨later, doneToo, deliveredToo⟩ :=
    readStream_of_append granted sized decoded inside counted whole
  exact ⟨later, doneToo, deliveredToo.contents_eq whole⟩

/-- Bytes behind the stream stay too many. -/
theorem checkEnd_persists (longer : right.contents = left.contents ++ more) :
    Persists (checkEnd left) (checkEnd right) := by
  intro failure final failed
  unfold checkEnd at failed
  split at failed
  · next extra leftLater filled =>
    obtain ⟨whole, sized, -⟩ := ByteSource.contents_of_fill_complete filled
    rw [whole, List.append_assoc] at longer
    obtain ⟨later, filledToo, -⟩ := fill_of_append longer
    rw [sized] at filledToo
    rw [checkEnd, filledToo]
    exact failed
  · cases failed
  · cases failed
    cases final

/-- What is wrong finally with the bytes of a source is wrong with more bytes behind them. -/
theorem read_persists (longer : right.contents = left.contents ++ more) (lanes : Lanes)
    (reservation : Reservation) (length : Option UInt64) :
    Persists (read lanes reservation length left) (read lanes reservation length right) := by
  -- What the shorter source delivers, the longer one does, and it stays longer by the same bytes.
  refine (readHeader_persists longer).bind ?_
  rintro ⟨layout, header, afterHeader⟩ done
  obtain ⟨-, valid, -, -⟩ := delivers_of_readHeader done
  have addressable := (Header.check_eq_ok_iff.mp valid).1
  obtain ⟨afterHeaderToo, doneToo, longer⟩ := readHeader_of_longer longer done
  refine ⟨_, doneToo, .check_bind ?_⟩
  refine (readTable_persists longer).bind ?_
  rintro ⟨inputs, afterInputs⟩ done
  obtain ⟨afterInputsToo, doneToo, longer⟩ := readTable_of_longer longer addressable done
  refine ⟨_, doneToo, (readTable_persists longer).bind ?_⟩
  rintro ⟨outputs, afterOutputs⟩ done
  obtain ⟨afterOutputsToo, doneToo, longer⟩ := readTable_of_longer longer addressable done
  refine ⟨_, doneToo, (readStream_persists longer).bind ?_⟩
  rintro ⟨stream, afterStream⟩ done
  obtain ⟨afterStreamToo, doneToo, longer⟩ := readStream_of_longer longer done
  refine ⟨_, doneToo, (checkEnd_persists longer).last ?_⟩
  intro _ failure final failed
  rcases bind_eq_error_iff.mp failed with refused | ⟨⟨⟩, -, failed⟩
  · obtain rfl := failure_of_reserve refused
    cases final
  · cases failed

end Longer

/-- The source has fewer than `most` bytes, and if it breaks, the failure is its own. -/
structure RunsOut (source : ByteSource) (most : Nat) (failure : LoadFailure) : Prop where
  short : source.contents.length < most
  own : ∀ cause, source.failure = some cause → cause.kind ≠ .unexpectedEnd →
    failure = .unreadable cause

/-- The result only fails finally, or for want of `most` bytes. -/
def FailsWithin {α : Type} (source : ByteSource) (most : Nat) (result : Except LoadFailure α) :
    Prop :=
  ∀ failure, result = .error failure → failure.Final ∨ RunsOut source most failure

namespace FailsWithin

variable {α β : Type} {source later : ByteSource} {most rest : Nat}

theorem bind {step : Except LoadFailure α} {next : α → Except LoadFailure β}
    (first : FailsWithin source most step)
    (steps : ∀ value, step = .ok value → FailsWithin source most (next value)) :
    FailsWithin source most (step >>= next) := by
  intro failure failed
  rcases bind_eq_error_iff.mp failed with here | ⟨value, done, later⟩
  · exact first failure here
  · exact steps value done failure later

/-- What fails for want of bytes behind some others fails for want of bytes. -/
theorem behind {bytes : Bytes} {result : Except LoadFailure α} (rest : Nat)
    (delivered : source.Delivers bytes later) (fits : bytes.length + rest ≤ most)
    (fails : FailsWithin later rest result) : FailsWithin source most result := by
  intro failure failed
  refine (fails failure failed).imp_right fun ⟨short, own⟩ => ⟨?_, ?_⟩
  · rw [delivered.contents, List.length_append]
    omega
  · rw [← delivered.failure]
    exact own

theorem mono {result : Except LoadFailure α} (fits : rest ≤ most)
    (fails : FailsWithin source rest result) : FailsWithin source most result := by
  intro failure failed
  exact (fails failure failed).imp_right fun ⟨short, own⟩ => ⟨Nat.lt_of_lt_of_le short fits, own⟩

theorem of_final {result : Except LoadFailure α}
    (final : ∀ failure, result = .error failure → failure.Final) :
    FailsWithin source most result :=
  fun failure failed => .inl (final failure failed)

end FailsWithin

section Within

variable {source later : ByteSource} {header : Header} {reservation : Reservation} {most : Nat}

theorem runsOut_of_sound (short : source.contents.length < most) (sound : source.failure = none)
    (failure : LoadFailure) : RunsOut source most failure := by
  refine ⟨short, ?_⟩
  intro cause broken
  cases sound.symm.trans broken

theorem runsOut_of_short {bytes : Bytes} (filled : source.fill most = (.short bytes, later))
    (failure : LoadFailure) : RunsOut source most failure := by
  obtain ⟨rfl, short, sound⟩ := ByteSource.contents_of_fill_short filled
  exact runsOut_of_sound short sound failure

theorem runsOut_of_failed {cause : IoFailure} {failure : LoadFailure}
    (filled : source.fill most = (.failed cause, later))
    (own : cause.kind ≠ .unexpectedEnd → failure = .unreadable cause) :
    RunsOut source most failure := by
  obtain ⟨short, broken⟩ := ByteSource.contents_of_fill_failed filled
  refine ⟨short, ?_⟩
  intro other brokenToo
  obtain rfl := Option.some.inj (broken.symm.trans brokenToo)
  exact own

theorem readPart_within {part : Section} {count : Nat} :
    FailsWithin source count (readPart part count source) := by
  intro failure failed
  right
  unfold readPart at failed
  split at failed
  · cases failed
  · next filled => exact runsOut_of_short filled failure
  · next filled =>
    refine runsOut_of_failed filled fun notEnd => ?_
    rw [if_neg notEnd] at failed
    exact (Except.error.inj failed).symm

theorem readHeader_within : FailsWithin source 48 (readHeader source) := by
  refine (readPart_within.mono (by omega)).bind ?_
  rintro ⟨leading, middle⟩ first
  obtain ⟨delivered, four⟩ := delivers_of_readPart first
  have sizes := (Layout.announced leading).headerSize_bounded
  refine (readPart_within.behind _ delivered (by omega)).bind ?_
  rintro ⟨others, later⟩ -
  apply FailsWithin.of_final
  intro failure failed
  simp only at failed
  split at failed
  · cases failed
    trivial
  · cases failed

theorem checkLength_within {layout : Layout} {length : Option UInt64} :
    FailsWithin source most (checkLength layout header length) := by
  apply FailsWithin.of_final
  intro failure failed
  unfold checkLength at failed
  split at failed
  · cases failed
  · split at failed
    · cases failed
      trivial
    · split at failed
      · cases failed
      · cases failed
        trivial

theorem reserve_within {buffer : Buffer} {count : UInt64} {size : Nat} (early : buffer ≠ .ram) :
    FailsWithin source most (reserve reservation buffer count size) := by
  apply FailsWithin.of_final
  intro failure failed
  obtain rfl := failure_of_reserve failed
  cases buffer with
  | ram => exact early rfl
  | table => trivial
  | opcodes => trivial

theorem checkEntries_within {table : Table} {memory : UInt64} {index : Nat}
    {addresses : List UInt64} :
    FailsWithin source most (checkEntries table memory index addresses) := by
  apply FailsWithin.of_final
  intro failure failed
  induction addresses generalizing index with
  | nil => cases failed
  | cons address addresses ih =>
    unfold checkEntries at failed
    split at failed
    · exact ih failed
    · cases failed
      trivial

theorem countGates_within {memory : UInt64} {count : Nat} {items : List (Except Malformed Gate)} :
    FailsWithin source most (countGates memory count items) := by
  apply FailsWithin.of_final
  intro failure failed
  induction items generalizing count with
  | nil => cases failed
  | cons item items ih =>
    cases item with
    | error cause =>
      cases failed
      trivial
    | ok gate =>
      simp only [countGates] at failed
      split at failed
      · cases failed
        trivial
      · exact ih failed

/-- A table takes as many bytes as it has entries of the declared width. -/
theorem readEntries_within {table : Table} (remaining : Nat) (entries : Array UInt64) :
    FailsWithin source (remaining * header.widths.address)
      (readEntries table header remaining entries source) := by
  induction remaining using group_induction generalizing entries source with
  | done =>
    intro failure failed
    rw [readEntries] at failed
    cases failed
  | group remaining some ih =>
    have cut : min remaining entriesPerRead * header.widths.address +
        (remaining - min remaining entriesPerRead) * header.widths.address =
          remaining * header.widths.address := by
      rw [← Nat.add_mul]
      congr 1
      omega
    rw [readEntries_of_ne_zero table header some]
    refine (readPart_within.mono (cut ▸ Nat.le_add_right _ _)).bind ?_
    rintro ⟨group, later⟩ read
    obtain ⟨delivered, sized⟩ := delivers_of_readPart read
    refine checkEntries_within.bind ?_
    rintro ⟨⟩ -
    exact (ih _).behind _ delivered (Nat.le_of_eq (sized ▸ cut))

theorem readTable_within {table : Table} {count : UInt64} :
    FailsWithin source (count.toNat * header.widths.address)
      (readTable reservation table header count source) :=
  .bind (reserve_within (by simp)) fun _ _ => readEntries_within count.toNat #[]

theorem readStream_within : FailsWithin source header.streamSize.toNat
    (readStream reservation header source) := by
  refine .bind (reserve_within (by simp)) ?_
  rintro ⟨⟩ -
  intro failure failed
  split at failed
  · next filled =>
    cases failed
    exact .inr (runsOut_of_failed filled fun _ => rfl)
  · next filled => exact .inr (runsOut_of_short filled failure)
  · revert failure
    refine countGates_within.bind fun count _ => .of_final fun failure failed => ?_
    split at failed
    · cases failed
    · cases failed
      trivial

theorem checkEnd_within : FailsWithin source 1 (checkEnd source) := by
  intro failure failed
  unfold checkEnd at failed
  split at failed
  · cases failed
    exact .inl trivial
  · cases failed
  · next filled =>
    cases failed
    exact .inr (runsOut_of_failed filled fun _ => rfl)

/-- Loading fails finally, or for want of as many bytes as a header can declare. -/
theorem read_within (lanes : Lanes) (reservation : Reservation) (length : Option UInt64)
    (source : ByteSource) :
    FailsWithin source (UInt64.size + 48) (read lanes reservation length source) := by
  refine (readHeader_within.mono (by omega)).bind ?_
  rintro ⟨layout, header, afterHeader⟩ done
  obtain ⟨-, valid, -, headerDelivered⟩ := delivers_of_readHeader done
  have small : header.bodyLength < UInt64.size := (Header.check_eq_ok_iff.mp valid).2.2.2.2
  have body : header.bodyLength = header.inputCount.toNat * header.widths.address +
      header.outputCount.toNat * header.widths.address + header.streamSize.toNat := by
    rw [Header.bodyLength, Nat.add_mul]
  have front : (header.text layout).length ≤ 48 := by
    rw [Header.length_text]
    exact layout.headerSize_bounded.2
  -- The body takes what the header declares, part by part, and its end is looked for behind it.
  refine .behind (header.bodyLength + 1) headerDelivered (by omega) ?_
  refine checkLength_within.bind fun _ _ => ?_
  refine (readTable_within.mono (by omega)).bind ?_
  rintro ⟨inputs, afterInputs⟩ done
  obtain ⟨-, counted, -, delivered⟩ := delivers_of_readTable done
  refine .behind (header.outputCount.toNat * header.widths.address + header.streamSize.toNat + 1)
    delivered (by rw [Field.length_allDigits, counted]; omega) ?_
  refine (readTable_within.mono (by omega)).bind ?_
  rintro ⟨outputs, afterOutputs⟩ done
  obtain ⟨-, counted, -, delivered⟩ := delivers_of_readTable done
  refine .behind (header.streamSize.toNat + 1) delivered
    (by rw [Field.length_allDigits, counted]; omega) ?_
  refine (readStream_within.mono (by omega)).bind ?_
  rintro ⟨stream, afterStream⟩ done
  obtain ⟨-, sized, delivered, -⟩ := delivers_of_readStream done
  refine .behind 1 delivered (by omega) ?_
  refine checkEnd_within.bind fun _ ended => ?_
  obtain ⟨empty, sound⟩ := checkEnd_eq_ok_iff.mp ended
  intro failure _
  exact .inr (runsOut_of_sound (by simp [empty]) sound failure)

end Within

/-- Loading fails in this way from every stream that begins with these bytes and comes to a good
end. -/
def Decides (lanes : Lanes) (reservation : Reservation) (length : Option UInt64) (served : Bytes)
    (failure : LoadFailure) : Prop :=
  ∀ whole : ByteSource, whole.failure = none → served <+: whole.contents →
    read lanes reservation length whole = .error failure

section Broken

variable {lanes : Lanes} {reservation : Reservation} {length : Option UInt64}
  {failing : ByteSource} {cause : IoFailure} {failure : LoadFailure}

theorem read_of_broken (lanes : Lanes) (reservation : Reservation) (length : Option UInt64)
    (broken : failing.failure = some cause) :
    ∃ failure, read lanes reservation length failing = .error failure := by
  cases loaded : read lanes reservation length failing with
  | error failure => exact ⟨failure, rfl⟩
  | ok circuit => cases broken.symm.trans (accepted_of_read loaded).ended

theorem decides_of_final (final : failure.Final)
    (failed : read lanes reservation length failing = .error failure) :
    Decides lanes reservation length failing.contents failure := by
  rintro whole - ⟨more, longer⟩
  exact read_persists longer.symm lanes reservation length failure final failed

/-- What the served bytes decide does not depend on where the stream ends. -/
theorem Decides.final {served : Bytes} (decides : Decides lanes reservation length served failure) :
    failure.Final := by
  -- A stream longer than any descriptor cannot run out of bytes.
  have longer : served <+:
      (ByteSource.ofBytes (served ++ List.replicate (UInt64.size + 48) 0)).contents := by
    rw [ByteSource.contents_ofBytes]
    exact List.prefix_append _ _
  have long := decides _ (ByteSource.failure_ofBytes _) longer
  rcases read_within _ _ _ _ failure long with final | ⟨short, -⟩
  · exact final
  · rw [ByteSource.contents_ofBytes, List.length_append, List.length_replicate] at short
    omega

theorem Decides.read_eq (decides : Decides lanes reservation length failing.contents failure) :
    read lanes reservation length failing = .error failure := by
  have longer : failing.contents = (ByteSource.ofBytes failing.contents).contents ++ [] := by simp
  have alone := decides (ByteSource.ofBytes failing.contents) (ByteSource.failure_ofBytes _)
    ⟨[], by simp⟩
  exact read_persists longer lanes reservation length failure decides.final alone

end Broken

/-- A stream that breaks never loads, and no failure is made up. It is reported as unreadable, with
the failure it met, or with the failure that every stream has that begins with the bytes it served.
It is the latter exactly if there is such a failure, so what the served bytes decide is reported. -/
theorem broken_streams_invent_nothing (lanes : Lanes) (reservation : Reservation)
    (length : Option UInt64) {failing : ByteSource} {cause : IoFailure}
    (broken : failing.failure = some cause) (notEnd : cause.kind ≠ .unexpectedEnd) :
    ∃ failure, read lanes reservation length failing = .error failure ∧
      (∀ whole : ByteSource, whole.failure = none → failing.contents <+: whole.contents →
        failure = .unreadable cause ∨ read lanes reservation length whole = .error failure) ∧
      ∀ other, Decides lanes reservation length failing.contents other ↔
        other = failure ∧ failure ≠ .unreadable cause := by
  obtain ⟨failure, failed⟩ := read_of_broken lanes reservation length broken
  refine ⟨failure, failed, ?_⟩
  rcases read_within _ _ _ _ failure failed with final | ⟨-, own⟩
  · have decides := decides_of_final final failed
    refine ⟨fun whole sound front => .inr (decides whole sound front), fun found => ⟨?_, ?_⟩⟩
    · intro decidesToo
      exact ⟨Except.error.inj (decidesToo.read_eq.symm.trans failed), final.ne_unreadable⟩
    · rintro ⟨rfl, -⟩
      exact decides
  · obtain rfl := own cause broken notEnd
    refine ⟨fun _ _ _ => .inl rfl, fun found => ⟨?_, ?_⟩⟩
    · intro decides
      obtain rfl := Except.error.inj (decides.read_eq.symm.trans failed)
      exact absurd decides.final id
    · rintro ⟨-, other⟩
      exact absurd rfl other

/-- All bytes of the inverter decide nothing, so a stream that breaks behind them is unreadable. A
table that names a cell outside the memory is refused although the stream breaks behind it. -/
theorem broken_inverter_is_unreadable :
    let cause : IoFailure := .device .other "connection reset"
    let broken (bytes : Bytes) : ByteSource :=
      { ByteSource.ofBytes bytes with failure := some cause }
    read .eight Reservation.standard none (broken inverter) = .error (.unreadable cause) ∧
      (∀ other, ¬Decides .eight Reservation.standard none inverter other) ∧
      Decides .eight Reservation.standard none (inverter.take 40 ++ [7, 0])
        (.addressOutOfRange .input 0 7 2) := by
  intro cause broken
  have stopped : ∀ bytes, ∃ failure,
      read .eight Reservation.standard none (broken bytes) = .error failure ∧
        ∀ other, Decides .eight Reservation.standard none bytes other ↔
          other = failure ∧ failure ≠ .unreadable cause := by
    intro bytes
    obtain ⟨failure, failed, -, decided⟩ := broken_streams_invent_nothing .eight
      Reservation.standard none (show (broken bytes).failure = some cause from rfl) (by decide)
    have served : (broken bytes).contents = bytes := ByteSource.contents_ofBytes bytes
    rw [served] at decided
    exact ⟨failure, failed, decided⟩
  have lost : read .eight Reservation.standard none (broken inverter) =
      .error (.unreadable cause) := by cbv
  refine ⟨lost, ?_, ?_⟩
  · intro other decides
    obtain ⟨failure, failed, decided⟩ := stopped inverter
    obtain rfl := Except.error.inj (failed.symm.trans lost)
    exact ((decided other).mp decides).2 rfl
  · obtain ⟨failure, failed, decided⟩ := stopped (inverter.take 40 ++ [7, 0])
    have known : read .eight Reservation.standard none (broken (inverter.take 40 ++ [7, 0])) =
        .error (.addressOutOfRange .input 0 7 2) := by cbv
    obtain rfl := Except.error.inj (failed.symm.trans known)
    exact (decided _).mpr ⟨rfl, by simp⟩

end Circuit

end Bitslice
