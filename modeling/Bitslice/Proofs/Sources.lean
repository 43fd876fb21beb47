import Bitslice.Stream.Source

/-!
# What a source delivers

Only the contents of a source and the way it ends decide what filling answers;
how the contents are cut into pieces, and where interruptions stand, does not
matter (`ByteSource.fill_eq_outcome`).
-/

namespace Bitslice

/-- The answer to a request for `count` more bytes that the contents and the end of a source
determine. -/
def Filled.ofContents (collected : Bytes) (count : Nat) (contents : Bytes)
    (failure : Option IoFailure) : Filled :=
  if count ≤ contents.length then .complete (collected ++ contents.take count)
  else
    match failure with
    | none => .short (collected ++ contents)
    | some cause => .failed cause

namespace ByteSource

section Contents

variable {deliveries : List Delivery} {failure : Option IoFailure}

@[simp] theorem contents_nil : contents ⟨[], failure⟩ = [] := rfl

@[simp] theorem contents_interruption :
    contents ⟨.interruption :: deliveries, failure⟩ = contents ⟨deliveries, failure⟩ := rfl

@[simp] theorem contents_piece (first : UInt8) (rest : Bytes) :
    contents ⟨.piece first rest :: deliveries, failure⟩ =
      first :: rest ++ contents ⟨deliveries, failure⟩ := rfl

@[simp] theorem contents_putBack (left : Bytes) :
    contents ⟨putBack left deliveries, failure⟩ = left ++ contents ⟨deliveries, failure⟩ := by
  cases left <;> rfl

@[simp] theorem contents_ofBytes (bytes : Bytes) : (ofBytes bytes).contents = bytes := by
  cases bytes with
  | nil => rfl
  | cons first rest => simp [ofBytes]

@[simp] theorem failure_ofBytes (bytes : Bytes) : (ofBytes bytes).failure = none := by
  cases bytes <;> rfl

end Contents

section Requests

variable {count : Nat} {source later : ByteSource}

/-- No request changes how a source ends. -/
theorem failure_of_read {answer : Answer} (answered : source.read count = (answer, later)) :
    later.failure = source.failure := by
  unfold read at answered
  split at answered
  · split at answered <;> (obtain rfl := (Prod.mk.inj answered).2; rfl)
  · obtain rfl := (Prod.mk.inj answered).2
    rfl
  · obtain rfl := (Prod.mk.inj answered).2
    rfl

theorem contents_of_read_interrupted (answered : source.read count = (.interrupted, later)) :
    later.contents = source.contents := by
  obtain ⟨deliveries, failure⟩ := source
  unfold read at answered
  split at answered
  · split at answered <;> cases answered
  · next same =>
    obtain rfl := (Prod.mk.inj answered).2
    simp only at same
    simp [same]
  · cases answered

theorem contents_of_read_failed {cause : IoFailure}
    (answered : source.read count = (.failed cause, later)) :
    source.contents = [] ∧ source.failure = some cause ∧ later.contents = [] := by
  obtain ⟨deliveries, failure⟩ := source
  unfold read at answered
  split at answered
  · next ended =>
    simp only at ended
    subst ended
    split at answered
    · cases answered
    · next cause' broken =>
      obtain ⟨same, rfl⟩ := Prod.mk.inj answered
      obtain rfl := Answer.failed.inj same
      exact ⟨rfl, broken, rfl⟩
  · cases answered
  · cases answered

/-- An answer without a byte means that the source has come to a good end. -/
theorem contents_of_read_end (answered : source.read (count + 1) = (.bytes [], later)) :
    source.contents = [] ∧ source.failure = none ∧ later.contents = [] := by
  obtain ⟨deliveries, failure⟩ := source
  unfold read at answered
  split at answered
  · next ended =>
    simp only at ended
    subst ended
    split at answered
    · next sound =>
      obtain rfl := (Prod.mk.inj answered).2
      exact ⟨rfl, sound, rfl⟩
    · cases answered
  · cases answered
  · simp at answered

/-- The bytes of an answer are the front of the contents, and no more than were asked for. -/
theorem contents_of_read_bytes {bytes : Bytes}
    (answered : source.read count = (.bytes bytes, later)) :
    source.contents = bytes ++ later.contents ∧ bytes.length ≤ count := by
  obtain ⟨deliveries, failure⟩ := source
  unfold read at answered
  split at answered
  · next ended =>
    simp only at ended
    subst ended
    split at answered
    · obtain ⟨same, rfl⟩ := Prod.mk.inj answered
      obtain rfl := Answer.bytes.inj same
      simp
    · cases answered
  · cases answered
  · next first rest deliveries same =>
    obtain ⟨taken, rfl⟩ := Prod.mk.inj answered
    obtain rfl := Answer.bytes.inj taken
    simp only at same
    subst same
    simp only [contents_piece, contents_putBack, List.length_take]
    exact ⟨by rw [← List.append_assoc, List.take_append_drop], Nat.min_le_left _ _⟩

/-- Filling answers what the contents and the end of the source determine, takes the bytes it
answers off the front of the contents, and changes nothing about the end. -/
theorem fillFrom_spec (collected : Array UInt8) (count : Nat) (source : ByteSource) :
    (source.fillFrom collected count).1 =
        Filled.ofContents collected.toList count source.contents source.failure ∧
      (source.fillFrom collected count).2.contents = source.contents.drop count ∧
      (source.fillFrom collected count).2.failure = source.failure := by
  fun_induction fillFrom collected count source with
  | case1 => simp [Filled.ofContents]
  | case2 collected source count next interrupted ih =>
    rw [contents_of_read_interrupted interrupted, failure_of_read interrupted] at ih
    exact ih
  | case3 collected source count cause next failed =>
    obtain ⟨empty, broken, after⟩ := contents_of_read_failed failed
    simp [Filled.ofContents, empty, broken, after, failure_of_read failed]
  | case4 collected source count next ended =>
    obtain ⟨empty, sound, after⟩ := contents_of_read_end ended
    simp [Filled.ofContents, empty, sound, after, failure_of_read ended]
  | case5 collected source count bytes next read nonempty ih =>
    obtain ⟨whole, bounded⟩ := contents_of_read_bytes read
    rw [failure_of_read read] at ih
    obtain ⟨answer, after, ending⟩ := ih
    refine ⟨?_, ?_, ending⟩
    · rw [answer, whole]
      simp only [Filled.ofContents, List.length_append, List.take_append]
      have taken : bytes.take (count + 1) = bytes := List.take_of_length_le bounded
      by_cases enough : count + 1 - bytes.length ≤ next.contents.length
      · rw [if_pos enough, if_pos (by omega), taken]
        simp
      · rw [if_neg enough, if_neg (by omega)]
        simp
    · rw [after, whole, List.drop_append, List.drop_eq_nil_of_le bounded, List.nil_append]

theorem fill_eq_outcome (count : Nat) (source : ByteSource) :
    (source.fill count).1 = Filled.ofContents [] count source.contents source.failure :=
  (fillFrom_spec #[] count source).1

@[simp] theorem contents_fill (count : Nat) (source : ByteSource) :
    (source.fill count).2.contents = source.contents.drop count :=
  (fillFrom_spec #[] count source).2.1

@[simp] theorem failure_fill (count : Nat) (source : ByteSource) :
    (source.fill count).2.failure = source.failure :=
  (fillFrom_spec #[] count source).2.2

/-- A source with enough contents delivers them. -/
theorem fill_of_le (enough : count ≤ source.contents.length) :
    source.fill count = (.complete (source.contents.take count), (source.fill count).2) := by
  have answer := fill_eq_outcome count source
  simp only [Filled.ofContents, if_pos enough, List.nil_append] at answer
  rw [← answer]

/-- What has been delivered whole stood in front of the contents. -/
theorem contents_of_fill_complete {bytes : Bytes}
    (filled : source.fill count = (.complete bytes, later)) :
    source.contents = bytes ++ later.contents ∧ bytes.length = count ∧
      later.failure = source.failure := by
  have answer := fill_eq_outcome count source
  have after := contents_fill count source
  have ending := failure_fill count source
  rw [filled] at answer after ending
  unfold Filled.ofContents at answer
  split at answer
  · next enough =>
    obtain rfl := Filled.complete.inj answer
    refine ⟨?_, by simp [enough], ending⟩
    rw [after, List.nil_append, List.take_append_drop]
  · split at answer <;> cases answer

/-- Too few bytes are delivered only by a source that comes to a good end. -/
theorem contents_of_fill_short {bytes : Bytes}
    (filled : source.fill count = (.short bytes, later)) :
    source.contents = bytes ∧ bytes.length < count ∧ source.failure = none := by
  have answer := fill_eq_outcome count source
  rw [filled] at answer
  unfold Filled.ofContents at answer
  split at answer
  · cases answer
  · next missing =>
    split at answer
    · next sound =>
      obtain rfl := Filled.short.inj answer
      exact ⟨rfl, Nat.lt_of_not_le missing, sound⟩
    · cases answer

/-- Filling fails only with the failure of the source, for want of bytes. -/
theorem contents_of_fill_failed {cause : IoFailure}
    (filled : source.fill count = (.failed cause, later)) :
    source.contents.length < count ∧ source.failure = some cause := by
  have answer := fill_eq_outcome count source
  rw [filled] at answer
  unfold Filled.ofContents at answer
  split at answer
  · cases answer
  · next missing =>
    split at answer
    · cases answer
    · next cause' broken =>
      obtain rfl := Filled.failed.inj answer
      exact ⟨Nat.lt_of_not_le missing, broken⟩

end Requests

end ByteSource

end Bitslice
