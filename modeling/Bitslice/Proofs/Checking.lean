import Bitslice.Proofs.Announcing
import Bitslice.Proofs.Interleaving
import Mathlib.Algebra.Group.Nat.Defs

/-!
# Checking headers in 64-bit words

The check of a header counts with numbers of any size. `Header.checkInWords`
makes it with words, whose sums and products give nothing where they would need
more than 64 bits. Because all widths are positive, a step gives nothing only
where the last result would be too large as well, so both checks come to the
same. Together with the header language this makes encoding and decoding inverse
to each other, between the valid headers of a layout and the texts that decode.
-/

namespace Bitslice

/-- A field of `width` bytes has 256 values for each byte. -/
theorem Field.capacity_eq_pow (width : Nat) : capacity width = 256 ^ width := by
  induction width with
  | zero => rfl
  | succ width ih => rw [capacity, ih, Nat.pow_succ, Nat.mul_comm]

namespace Words

/-- The sum of two words, unless it needs more than 64 bits. -/
def sum? (left right : UInt64) : Option UInt64 :=
  if left.toBitVec.uaddOverflow right.toBitVec then none else some (left + right)

/-- The product of two words, unless it needs more than 64 bits. -/
def product? (left right : UInt64) : Option UInt64 :=
  if left.toBitVec.umulOverflow right.toBitVec then none else some (left * right)

/-- The largest value of a field: all bits of a word, or one less than a power of two. -/
def largest (width : Nat) : UInt64 :=
  if 8 ≤ width then ~~~0 else (1 <<< UInt64.ofNat (8 * width)) - 1

/-- A size, or its overflow under the given name. -/
def orOverflow (what : String) : Option UInt64 → Except Malformed UInt64
  | none => .error (.overflow what)
  | some size => .ok size

section Exact

variable {left right result : UInt64}

theorem sum?_eq_some_iff :
    sum? left right = some result ↔ result.toNat = left.toNat + right.toNat := by
  have bounded := result.toNat_lt
  unfold sum?
  simp only [BitVec.uaddOverflow, UInt64.toNat_toBitVec, decide_eq_true_eq]
  split
  · next large =>
    simp only [reduceCtorEq, false_iff]
    omega
  · next small =>
    rw [Option.some.injEq, ← UInt64.toNat_inj, UInt64.toNat_add, Nat.mod_eq_of_lt (by omega),
      eq_comm]

theorem product?_eq_some_iff :
    product? left right = some result ↔ result.toNat = left.toNat * right.toNat := by
  have bounded := result.toNat_lt
  unfold product?
  simp only [BitVec.umulOverflow, UInt64.toNat_toBitVec, decide_eq_true_eq]
  split
  · next large =>
    simp only [reduceCtorEq, false_iff]
    omega
  · next small =>
    rw [Option.some.injEq, ← UInt64.toNat_inj, UInt64.toNat_mul, Nat.mod_eq_of_lt (by omega),
      eq_comm]

/-- A word that is there exactly where a number has 64 bits is the checked size. -/
theorem orOverflow_eq {what : String} {word : Option UInt64} {size : Nat}
    (exact : ∀ result, word = some result ↔ result.toNat = size) :
    orOverflow what word = Header.checkedSize what size := by
  unfold Header.checkedSize
  split
  · next small =>
    rw [(exact (UInt64.ofNat size)).mpr (UInt64.toNat_ofNat_of_lt' small)]
    rfl
  · next large =>
    have missing : word = none := by
      refine Option.eq_none_iff_forall_ne_some.mpr fun result found => large ?_
      rw [← (exact result).mp found]
      exact result.toNat_lt
    rw [missing]
    rfl

theorem toNat_largest {width : Nat} (bounded : width ≤ 8) :
    (largest width).toNat = Field.capacity width - 1 := by
  have each : ∀ width < 9, (largest width).toNat = Field.capacity width - 1 := by decide
  exact each width (Nat.lt_succ_of_le bounded)

end Exact

end Words

namespace Widths

variable (widths : Widths)

/-- The check of a memory in words: the last address has room in its field. -/
def checkInWords (memory : UInt64) : Except Malformed Unit :=
  if 0 < memory ∧ Words.largest widths.address < memory - 1 then
    .error (.memoryTooLarge memory widths.address)
  else .ok ()

theorem checkInWords_eq (memory : UInt64) :
    widths.checkInWords memory = widths.checkAddressing memory := by
  have large : (0 < memory ∧ Words.largest widths.address < memory - 1) ↔
      ¬memory.toNat ≤ Field.capacity widths.address := by
    have positive : 0 < Field.capacity widths.address :=
      Field.lt_capacity_of_lt widths.address_bounded.1 (by decide)
    rw [UInt64.lt_iff_toNat_lt, UInt64.lt_iff_toNat_lt,
      Words.toNat_largest widths.address_bounded.2]
    by_cases some : 0 < memory.toNat
    · have least : (1 : UInt64) ≤ memory := UInt64.le_iff_toNat_le.mpr some
      rw [UInt64.toNat_sub_of_le _ _ least]
      simp only [UInt64.toNat_zero, UInt64.toNat_one]
      omega
    · simp only [UInt64.toNat_zero]
      omega
  unfold checkInWords checkAddressing
  by_cases fits : memory.toNat ≤ Field.capacity widths.address
  · rw [if_neg (mt large.mp (not_not_intro fits)), if_pos fits]
  · rw [if_pos (large.mpr fits), if_neg fits]

/-- No record size comes near the limit of a word. -/
theorem toNat_records :
    (UInt64.ofNat widths.opcode + UInt64.ofNat widths.address).toNat =
        widths.opcode + widths.address ∧
      (UInt64.ofNat widths.opcode + 3 * UInt64.ofNat widths.address).toNat =
        widths.opcode + 3 * widths.address := by
  obtain ⟨opcode, address, opcodeBounded, addressBounded⟩ := widths
  simp only [UInt64.toNat_add, UInt64.toNat_mul, UInt64.toNat_ofNat', UInt64.reduceToNat]
  omega

end Widths

namespace Header

/-- The size of the body, step by step in words. -/
def bodyInWords (header : Header) : Except Malformed UInt64 :=
  Words.orOverflow "descriptor body"
    ((Words.sum? header.inputCount header.outputCount).bind fun entries =>
      (Words.product? entries (UInt64.ofNat header.widths.address)).bind fun tables =>
        Words.sum? tables header.streamSize)

/-- The check of the stream in words. -/
def streamInWords (header : Header) : Except Malformed Unit :=
  let opcode := UInt64.ofNat header.widths.opcode
  let address := UInt64.ofNat header.widths.address
  match Words.product? header.gateCount (opcode + address),
      Words.product? header.gateCount (opcode + 3 * address) with
  | some least, some greatest =>
    if least ≤ header.streamSize ∧ header.streamSize ≤ greatest then .ok ()
    else .error (.streamSize header.gateCount header.streamSize)
  | _, _ => .error (.overflow "opcode stream")

/-- The check of a header in words. -/
def checkInWords (header : Header) : Except Malformed Unit := do
  header.widths.checkInWords header.memory
  header.streamInWords
  let _ ← header.bodyInWords
  .ok ()

variable (header : Header)

/-- If the whole body has 64 bits, so has every part of it that is counted on the way. -/
theorem bodyInWords_eq : header.bodyInWords = header.bodySize := by
  obtain ⟨inputs, outputs, gates, stream, memory, widths⟩ := header
  have width : (UInt64.ofNat widths.address).toNat = widths.address := by
    have bounded := widths.address_bounded
    exact UInt64.toNat_ofNat_of_lt' (by rw [UInt64.size]; omega)
  have positive := widths.address_bounded.1
  apply Words.orOverflow_eq
  intro result
  simp only [Option.bind_eq_some_iff, Words.sum?_eq_some_iff, Words.product?_eq_some_iff, width]
  constructor
  · rintro ⟨entries, counted, tables, sized, total⟩
    rw [total, sized, counted]
  · intro total
    have bounded := result.toNat_lt
    have entries : inputs.toNat + outputs.toNat ≤
        (inputs.toNat + outputs.toNat) * widths.address := Nat.le_mul_of_pos_right _ positive
    have entriesSmall : (UInt64.ofNat (inputs.toNat + outputs.toNat)).toNat =
        inputs.toNat + outputs.toNat :=
      UInt64.toNat_ofNat_of_lt' (by rw [UInt64.size]; omega)
    have tablesSmall : (UInt64.ofNat ((inputs.toNat + outputs.toNat) * widths.address)).toNat =
        (inputs.toNat + outputs.toNat) * widths.address :=
      UInt64.toNat_ofNat_of_lt' (by rw [UInt64.size]; omega)
    exact ⟨_, entriesSmall, _, by rw [tablesSmall, entriesSmall], by rw [total, tablesSmall]⟩

/-- The longest stream overflows whenever the shortest does, so it alone decides. -/
theorem streamInWords_eq : header.streamInWords = header.checkStream := by
  obtain ⟨least, greatest⟩ := header.widths.toNat_records
  have ordered : header.leastStream ≤ header.greatestStream :=
    Nat.mul_le_mul_left _ (by omega)
  unfold streamInWords checkStream checkedSize
  by_cases small : header.greatestStream < UInt64.size
  · have leastFound := Words.product?_eq_some_iff.mpr
      ((UInt64.toNat_ofNat_of_lt' (Nat.lt_of_le_of_lt ordered small)).trans
        (congrArg (header.gateCount.toNat * ·) least.symm))
    have greatestFound := Words.product?_eq_some_iff.mpr
      ((UInt64.toNat_ofNat_of_lt' small).trans
        (congrArg (header.gateCount.toNat * ·) greatest.symm))
    simp only [leastFound, greatestFound, if_pos small, UInt64.le_iff_toNat_le,
      UInt64.toNat_ofNat_of_lt' small, UInt64.toNat_ofNat_of_lt' (Nat.lt_of_le_of_lt ordered small)]
    rfl
  · have missing : Words.product? header.gateCount
        (UInt64.ofNat header.widths.opcode + 3 * UInt64.ofNat header.widths.address) = none := by
      refine Option.eq_none_iff_forall_ne_some.mpr fun result found => small ?_
      rw [greatestStream, ← greatest, ← Words.product?_eq_some_iff.mp found]
      exact result.toNat_lt
    simp only [missing, if_neg small]
    cases Words.product? header.gateCount
      (UInt64.ofNat header.widths.opcode + UInt64.ofNat header.widths.address) <;> rfl

theorem checkInWords_eq : header.checkInWords = header.check := by
  rw [checkInWords, check, Widths.checkInWords_eq, streamInWords_eq, bodyInWords_eq]

/-- A header that counts a list of gates can only be refused for its memory. -/
theorem check_eq_ok_iff_of_gates {header : Header} {gates : List Gate}
    (counted : header.gateCount.toNat = gates.length)
    (sized : header.streamSize.toNat = Gate.recordSizes header.widths gates)
    (small : header.bodyLength < 2 ^ 60) :
    header.check = .ok () ↔ header.memory.toNat ≤ Field.capacity header.widths.address := by
  obtain ⟨least, greatest⟩ := GateStream.length_flatMap_record header.widths gates
  rw [Gate.length_records, ← counted, ← sized] at least greatest
  constructor
  · intro checked
    exact (check_eq_ok_iff.mp checked).1
  · intro addressable
    exact check_eq_ok_of_small addressable least greatest small

/-- Headers and their texts determine each other, and the check is exact. In either layout, the
headers it can carry are the ones that can be encoded. A valid one is read back whatever follows its
text, and whatever is read is a valid header whose text stood in front. Made in words, the check
comes to the same result, whatever overflows on the way, and it accepts exactly the headers whose
memory can be addressed, whose stream can hold so many records and whose sizes have 64 bits, counted
without a limit. Counts that belong to a list of gates, in a body below `2 ^ 60` bytes, always pass
these bounds. -/
theorem header_codec_is_exact (layout : Layout) :
    (∀ header : Header, (∃ bytes, header.encode layout = .ok bytes) ↔
      (layout = .fixed → header.widths = Widths.fixed)) ∧
      (∀ (header : Header) (bytes rest : Bytes), header.check = .ok () →
        header.encode layout = .ok bytes → decode layout (bytes ++ rest) = .ok header) ∧
      (∀ (bytes : Bytes) (header : Header), decode layout bytes = .ok header →
        header.check = .ok () ∧ header.encode layout = .ok (bytes.take layout.headerSize)) ∧
      (∀ header : Header, header.checkInWords = header.check ∧
        (header.check = .ok () ↔
          header.memory.toNat ≤ 256 ^ header.widths.address ∧
            header.gateCount.toNat * (header.widths.opcode + 3 * header.widths.address) < 2 ^ 64 ∧
            header.gateCount.toNat * (header.widths.opcode + header.widths.address) ≤
              header.streamSize.toNat ∧
            header.streamSize.toNat ≤
              header.gateCount.toNat * (header.widths.opcode + 3 * header.widths.address) ∧
            (header.inputCount.toNat + header.outputCount.toNat) * header.widths.address +
              header.streamSize.toNat < 2 ^ 64)) ∧
      ∀ (header : Header) (gates : List Gate), header.gateCount.toNat = gates.length →
        header.streamSize.toNat = Gate.recordSizes header.widths gates →
        (header.inputCount.toNat + header.outputCount.toNat) * header.widths.address +
          header.streamSize.toNat < 2 ^ 60 →
        (header.check = .ok () ↔ header.memory.toNat ≤ 256 ^ header.widths.address) := by
  refine ⟨?_, ?_, ?_, ?_, ?_⟩
  · intro header
    exact exists_encode_iff
  · intro header bytes rest valid encoded
    obtain ⟨carried, rfl⟩ := encode_eq_ok_iff.mp encoded
    exact decode_eq_ok_iff.mpr ⟨valid, carried, rest, rfl⟩
  · intro bytes header decoded
    obtain ⟨valid, carried, rest, rfl⟩ := decode_eq_ok_iff.mp decoded
    exact ⟨valid, encode_eq_ok_iff.mpr ⟨carried, List.take_left' (length_text header layout)⟩⟩
  · intro header
    refine ⟨header.checkInWords_eq, ?_⟩
    rw [check_eq_ok_iff, Field.capacity_eq_pow]
    exact Iff.rfl
  · intro header gates counted sized small
    rw [← Field.capacity_eq_pow]
    exact check_eq_ok_iff_of_gates counted sized small

/-- The header of a single conjunction, with more bytes behind it. -/
theorem conjunction_header_is_exact :
    let header : Header := ⟨2, 1, 1, 4, 3, ⟨1, 1, by decide, by decide⟩⟩
    Gate.recordSizes header.widths [⟨.and, 0, 1, 2⟩] = 4 ∧ header.checkInWords = .ok () ∧
      ∃ bytes, header.encode .selfDescribing = .ok bytes ∧
        decode .selfDescribing (bytes ++ [0, 1, 2]) = .ok header ∧
        (bytes ++ [0, 1, 2]).take 48 = bytes := by
  intro header
  obtain ⟨-, readsBack, found, exact, bounds⟩ := header_codec_is_exact .selfDescribing
  have valid : header.check = .ok () :=
    (bounds header [⟨.and, 0, 1, 2⟩] rfl rfl (by decide)).mpr (by decide)
  obtain ⟨bytes, encoded⟩ : ∃ bytes, header.encode .selfDescribing = .ok bytes := ⟨_, rfl⟩
  have decoded := readsBack header bytes [0, 1, 2] valid encoded
  have front := (found _ _ decoded).2
  refine ⟨rfl, (exact header).1.trans valid, bytes, encoded, decoded, ?_⟩
  exact Except.ok.inj (front.symm.trans encoded)

end Header

end Bitslice
