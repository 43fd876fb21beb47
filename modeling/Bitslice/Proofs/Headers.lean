import Bitslice.Descriptor.Header
import Bitslice.Proofs.Fields

/-!
# The header language

`Header.text` is the text of a header in a layout. Encoding writes it, and
decoding accepts exactly the texts of headers that pass their own check, with
anything behind them (`Header.decode_eq_ok_iff`).
-/

namespace Bitslice

section Sequenced

variable {ε α β : Type} {step : Except ε α} {next : α → Except ε β} {result : β}

/-- Steps in sequence succeed exactly when each of them does. -/
theorem bind_eq_ok_iff :
    (step >>= next) = .ok result ↔ ∃ value, step = .ok value ∧ next value = .ok result := by
  cases step with
  | error cause => simp [bind, Except.bind]
  | ok value => simp [bind, Except.bind]

/-- Steps in sequence fail as the first of them does that fails. -/
theorem bind_eq_error_iff {cause : ε} :
    (step >>= next) = .error cause ↔
      step = .error cause ∨ ∃ value, step = .ok value ∧ next value = .error cause := by
  cases step with
  | error cause => simp [bind, Except.bind]
  | ok value => simp [bind, Except.bind]

/-- A check and a step behind it succeed exactly when both do. -/
theorem check_bind_eq_ok_iff {check : Except ε Unit} {next : Unit → Except ε β} :
    (check >>= next) = .ok result ↔ check = .ok () ∧ next () = .ok result := by
  cases check with
  | error cause => simp [bind, Except.bind]
  | ok value => simp [bind, Except.bind]

end Sequenced

theorem Widths.ofCounts_eq_ok_iff {opcode address : Nat} {widths : Widths} :
    ofCounts opcode address = .ok widths ↔ opcode = widths.opcode ∧ address = widths.address := by
  constructor
  · intro accepted
    unfold ofCounts at accepted
    split at accepted
    · split at accepted
      · cases accepted
        exact ⟨rfl, rfl⟩
      · cases accepted
    · cases accepted
  · rintro ⟨rfl, rfl⟩
    rw [ofCounts, dif_pos widths.opcode_bounded, dif_pos widths.address_bounded]

theorem Widths.checkAddressing_eq_ok_iff {widths : Widths} {memory : UInt64} :
    widths.checkAddressing memory = .ok () ↔ memory.toNat ≤ Field.capacity widths.address := by
  unfold checkAddressing
  split
  · next addressable => simp [addressable]
  · next large => simp [large]

/-- Only the first four bytes announce a layout. -/
theorem Layout.announced_append {first : Bytes} (four : first.length = 4) (rest : Bytes) :
    announced (first ++ rest) = announced first := by
  rw [announced, List.take_left' four, announced, List.take_of_length_le (Nat.le_of_eq four)]

theorem Layout.headerSize_bounded (layout : Layout) :
    4 ≤ layout.headerSize ∧ layout.headerSize ≤ 48 := by
  cases layout <;> decide

namespace Header

/-- The bytes in front of the five counts. -/
def leading (layout : Layout) (widths : Widths) : Bytes :=
  match layout with
  | .fixed => []
  | .selfDescribing => Layout.magic ++
      [Layout.version, UInt8.ofNat widths.opcode, UInt8.ofNat widths.address, 0]

/-- The text of a header in a layout. -/
def text (header : Header) (layout : Layout) : Bytes :=
  leading layout header.widths ++ Field.allDigits 8 header.counts

/-- The fixed layout carries no widths other than its own. -/
def Carried (header : Header) (layout : Layout) : Prop :=
  layout = .fixed → header.widths = Widths.fixed

/-- The bytes of both tables and the stream, as a number of any size. -/
def bodyLength (header : Header) : Nat :=
  (header.inputCount.toNat + header.outputCount.toNat) * header.widths.address +
    header.streamSize.toNat

@[simp] theorem length_text (header : Header) (layout : Layout) :
    (header.text layout).length = layout.headerSize := by
  cases layout <;> simp [text, leading, counts, Layout.magic, Layout.headerSize]

theorem encode_eq_ok_iff {header : Header} {layout : Layout} {bytes : Bytes} :
    header.encode layout = .ok bytes ↔ header.Carried layout ∧ bytes = header.text layout := by
  cases layout with
  | selfDescribing => simp [encode, Carried, text, leading, Field.allDigits, eq_comm]
  | fixed =>
    unfold encode
    simp only [Carried, text, leading, Field.allDigits, List.nil_append, forall_const]
    split
    · next own => simp [own, eq_comm]
    · next other => simp [other]

theorem checkedSize_eq_ok_iff {what : String} {size : Nat} {checked : UInt64} :
    checkedSize what size = .ok checked ↔ size < UInt64.size ∧ checked = UInt64.ofNat size := by
  unfold checkedSize
  split
  · next small => simp [small, eq_comm]
  · next large => simp [large]

/-- What a header has to satisfy, on exact integers. -/
theorem check_eq_ok_iff {header : Header} :
    header.check = .ok () ↔
      header.memory.toNat ≤ Field.capacity header.widths.address ∧
        header.greatestStream < UInt64.size ∧
        header.leastStream ≤ header.streamSize.toNat ∧
        header.streamSize.toNat ≤ header.greatestStream ∧
        header.bodyLength < UInt64.size := by
  have stream : header.checkStream = .ok () ↔ header.greatestStream < UInt64.size ∧
      header.leastStream ≤ header.streamSize.toNat ∧
      header.streamSize.toNat ≤ header.greatestStream := by
    simp only [checkStream, bind_eq_ok_iff, checkedSize_eq_ok_iff]
    split
    · next possible => simp [possible]
    · next impossible => simp [impossible]
  rw [check, check_bind_eq_ok_iff, check_bind_eq_ok_iff, bind_eq_ok_iff,
    Widths.checkAddressing_eq_ok_iff, stream]
  simp [bodySize, checkedSize_eq_ok_iff, bodyLength, and_assoc]

/-- The longest stream of some records is at most three times the shortest. -/
theorem greatestStream_le (header : Header) : header.greatestStream ≤ 3 * header.leastStream := by
  rw [greatestStream, leastStream, Nat.mul_left_comm]
  exact Nat.mul_le_mul_left _ (by omega)

/-- With a body below `2 ^ 60` bytes, a stream of a possible size overflows nothing. -/
theorem check_eq_ok_of_small {header : Header}
    (addressable : header.memory.toNat ≤ Field.capacity header.widths.address)
    (least : header.leastStream ≤ header.streamSize.toNat)
    (greatest : header.streamSize.toNat ≤ header.greatestStream)
    (small : header.bodyLength < 1 <<< 60) : header.check = .ok () := by
  have threefold := header.greatestStream_le
  have stream : header.streamSize.toNat ≤ header.bodyLength := Nat.le_add_left _ _
  refine check_eq_ok_iff.mpr ⟨addressable, ?_, least, greatest, ?_⟩
  · rw [UInt64.size]
    omega
  · rw [UInt64.size]
    omega

/-- The first eight bytes declare widths exactly when they are the text of these widths. -/
theorem declaredWidths_eq_ok_iff {bytes : Bytes} {widths : Widths} :
    declaredWidths bytes = .ok widths ↔ bytes = leading .selfDescribing widths := by
  constructor
  · intro declared
    unfold declaredWidths at declared
    split at declared
    · next m0 m1 m2 m3 version opcode address reserved =>
      split at declared
      · cases declared
      · next sameMagic =>
        split at declared
        · cases declared
        · next sameVersion =>
          obtain ⟨found, counted, unused⟩ := bind_eq_ok_iff.mp declared
          split at unused
          · cases unused
          · next reservedZero =>
            obtain rfl := Except.ok.inj unused
            obtain ⟨opcodes, addresses⟩ := Widths.ofCounts_eq_ok_iff.mp counted
            simp only [ne_eq, Decidable.not_not] at sameMagic sameVersion reservedZero
            rw [leading, ← sameMagic, ← sameVersion, ← opcodes, ← addresses, reservedZero]
            simp
    · cases declared
  · rintro rfl
    obtain ⟨opcode, address, opcodeBounded, addressBounded⟩ := widths
    have opcodeSmall : opcode < UInt8.size := by rw [UInt8.size]; omega
    have addressSmall : address < UInt8.size := by rw [UInt8.size]; omega
    simp [leading, Layout.magic, declaredWidths, UInt8.toNat_ofNat_of_lt' opcodeSmall,
      UInt8.toNat_ofNat_of_lt' addressSmall, Widths.ofCounts, opcodeBounded, addressBounded, bind,
      Except.bind]

theorem splitWidths_eq_ok_iff {layout : Layout} {bytes counts : Bytes} {widths : Widths} :
    splitWidths layout bytes = .ok (widths, counts) ↔
      (layout = .fixed → widths = Widths.fixed) ∧ bytes = leading layout widths ++ counts := by
  cases layout with
  | fixed =>
    simp only [splitWidths, leading, Except.ok.injEq, Prod.mk.injEq, List.nil_append, forall_const]
    exact and_congr eq_comm Iff.rfl
  | selfDescribing =>
    simp only [splitWidths, bind_eq_ok_iff, Except.ok.injEq, Prod.mk.injEq]
    constructor
    · rintro ⟨found, declared, rfl, rfl⟩
      refine ⟨fun impossible => Layout.noConfusion impossible, ?_⟩
      rw [← declaredWidths_eq_ok_iff.mp declared, List.take_append_drop]
    · rintro ⟨-, rfl⟩
      have eight : (leading .selfDescribing widths).length = 8 := by
        simp [leading, Layout.magic]
      refine ⟨widths, ?_, rfl, List.drop_left' eight⟩
      rw [List.take_left' eight]
      exact declaredWidths_eq_ok_iff.mpr rfl

/-- A count is read back from its place. -/
theorem countAt_allDigits (numbers : List UInt64) (rest : Bytes) (index : Nat)
    (inside : index < numbers.length) :
    countAt (Field.allDigits 8 numbers ++ rest) index = numbers[index] := by
  induction numbers generalizing index with
  | nil => cases inside
  | cons number numbers ih =>
    obtain _ | index := index
    · have fits : number.toNat < Field.capacity 8 := number.toNat_lt
      rw [countAt, Nat.mul_zero, List.drop_zero, Field.allDigits_cons, List.append_assoc,
        Field.decode_digits_append (Nat.le_refl 8) fits, List.getElem_cons_zero]
    · have later := ih index (Nat.lt_of_succ_lt_succ inside)
      rw [countAt] at later
      have skip : 8 * (index + 1) = (Field.digits 8 number.toNat).length + 8 * index := by
        rw [Field.length_digits]
        omega
      rw [countAt, skip, Field.allDigits_cons, List.append_assoc, List.drop_length_add_append,
        later, List.getElem_cons_succ]

/-- Counts are written with the bytes they were read from. -/
theorem allDigits_countAt {bytes : Bytes} {count : Nat} (sized : 8 * count ≤ bytes.length) :
    Field.allDigits 8 ((List.range count).map (countAt bytes)) = bytes.take (8 * count) := by
  induction count with
  | zero => rfl
  | succ count ih =>
    have before : 8 * count ≤ bytes.length := by omega
    have last : Field.digits 8 (countAt bytes count).toNat = (bytes.drop (8 * count)).take 8 := by
      apply Field.digits_decode (Nat.le_refl 8)
      rw [List.length_drop]
      omega
    rw [List.range_succ, List.map_append, Field.allDigits_append, ih before, List.map_singleton,
      Field.allDigits_cons, Field.allDigits_nil, List.append_nil, last, Nat.mul_succ, List.take_add]

/-- Decoding accepts exactly the text of a header that passes its own check, whatever follows. -/
theorem decode_eq_ok_iff {layout : Layout} {bytes : Bytes} {header : Header} :
    decode layout bytes = .ok header ↔
      header.check = .ok () ∧ header.Carried layout ∧
        ∃ rest, bytes = header.text layout ++ rest := by
  constructor
  · intro decoded
    unfold decode at decoded
    split at decoded
    · cases decoded
    · next sized =>
      obtain ⟨⟨widths, counts⟩, split, checked⟩ := bind_eq_ok_iff.mp decoded
      obtain ⟨accepted, same⟩ := check_bind_eq_ok_iff.mp checked
      obtain rfl := Except.ok.inj same
      obtain ⟨carried, rfl⟩ := splitWidths_eq_ok_iff.mp split
      have enough : 8 * 5 ≤ counts.length := by
        cases layout <;> simp [leading, Layout.magic, Layout.headerSize] at sized <;> omega
      refine ⟨accepted, carried, counts.drop (8 * 5), ?_⟩
      have written := allDigits_countAt enough
      rw [text, List.append_assoc]
      refine congrArg (leading layout widths ++ ·) ?_
      calc counts = counts.take (8 * 5) ++ counts.drop (8 * 5) :=
            (List.take_append_drop _ _).symm
        _ = _ := by rw [← written]; rfl
  · rintro ⟨accepted, carried, rest, rfl⟩
    have sized : ¬(header.text layout ++ rest).length < layout.headerSize := by simp
    have split : splitWidths layout (header.text layout ++ rest) =
        .ok (header.widths, Field.allDigits 8 header.counts ++ rest) :=
      splitWidths_eq_ok_iff.mpr ⟨carried, by rw [text, List.append_assoc]⟩
    have count := countAt_allDigits header.counts rest
    have five : header.counts.length = 5 := rfl
    unfold decode
    rw [if_neg sized, split]
    refine bind_eq_ok_iff.mpr ⟨_, rfl, ?_⟩
    simp only
    rw [count 0 (by omega), count 1 (by omega), count 2 (by omega), count 3 (by omega),
      count 4 (by omega)]
    exact check_bind_eq_ok_iff.mpr ⟨accepted, rfl⟩

/-- The text of a header is that of no other header in the same layout, whatever follows. -/
theorem text_inj {layout : Layout} {header other : Header} {rest otherRest : Bytes}
    (carried : header.Carried layout) (otherCarried : other.Carried layout)
    (same : header.text layout ++ rest = other.text layout ++ otherRest) :
    header = other ∧ rest = otherRest := by
  have sizes : (header.text layout).length = (other.text layout).length := by
    rw [length_text, length_text]
  obtain ⟨texts, rests⟩ := List.append_inj same sizes
  have splits (found : Header) (carried : found.Carried layout) :
      splitWidths layout (found.text layout) =
        .ok (found.widths, Field.allDigits 8 found.counts) :=
    splitWidths_eq_ok_iff.mpr ⟨carried, rfl⟩
  have both := splits other otherCarried
  rw [← texts, splits header carried] at both
  obtain ⟨widths, digits⟩ := Prod.mk.inj (Except.ok.inj both)
  have read (found : Header) :
      Field.splitMany? 8 5 (Field.allDigits 8 found.counts) = some (found.counts, []) :=
    (Field.splitMany?_eq_some_iff (Nat.le_refl 8)).mpr
      ⟨rfl, fun count _ => count.toNat_lt, (List.append_nil _).symm⟩
  have counts : header.counts = other.counts := by
    have both := read other
    rw [← digits, read header] at both
    exact (Prod.mk.inj (Option.some.inj both)).1
  obtain ⟨_, _, _, _, _, _⟩ := header
  obtain ⟨_, _, _, _, _, _⟩ := other
  simp only [Header.counts, List.cons.injEq, and_true] at counts
  obtain ⟨rfl, rfl, rfl, rfl, rfl⟩ := counts
  obtain rfl := widths
  exact ⟨rfl, rests⟩

/-- The self-describing layout is announced by its magic bytes. -/
theorem announced_text_selfDescribing (header : Header) (rest : Bytes) :
    Layout.announced (header.text .selfDescribing ++ rest) = .selfDescribing := by
  simp [Layout.announced, text, leading, Layout.magic]

/-- The fixed layout is announced unless the lowest half of the input count spells the magic
bytes. -/
theorem announced_text_fixed_iff (header : Header) (rest : Bytes) :
    Layout.announced (header.text .fixed ++ rest) = .fixed ↔
      header.inputCount.toNat % UInt32.size ≠ Field.value Layout.magic := by
  have front : (header.text .fixed ++ rest).take 4 = Field.digits 4 header.inputCount.toNat := by
    rw [text, leading, List.nil_append, counts, Field.allDigits_cons, List.append_assoc,
      List.take_append_of_le_length (by simp), Field.take_digits (by decide)]
  have spelled : Field.digits 4 header.inputCount.toNat = Layout.magic ↔
      header.inputCount.toNat % UInt32.size = Field.value Layout.magic := by
    constructor
    · intro same
      rw [← same, Field.value_digits_eq_mod]
      rfl
    · intro same
      apply Field.eq_of_value_eq (by simp [Layout.magic])
      rw [Field.value_digits_eq_mod]
      exact same
  unfold Layout.announced
  rw [front]
  by_cases same : Field.digits 4 header.inputCount.toNat = Layout.magic
  · rw [if_pos same]
    exact ⟨nofun, fun distinct => absurd (spelled.mp same) distinct⟩
  · rw [if_neg same]
    exact ⟨fun _ => mt spelled.mpr same, fun _ => rfl⟩

end Header

end Bitslice
