import Bitslice.Proofs.Canonical

/-!
# What a known length decides

A length that is known beforehand is compared with the one that the header
declares, right behind the header and before any buffer is asked for. So it
refuses descriptors and does nothing else (`Circuit.read_some_of_readHeader`),
and a header that declares more than there is costs no memory.
-/

namespace Bitslice

theorem Header.descriptorSize_of_check {header : Header} (valid : header.check = .ok ())
    (layout : Layout) : header.descriptorSize layout =
      checkedSize "descriptor" (header.bodyLength + layout.headerSize) := by
  obtain ⟨-, -, -, -, small⟩ := check_eq_ok_iff.mp valid
  have body : header.bodySize = .ok (UInt64.ofNat header.bodyLength) :=
    checkedSize_eq_ok_iff.mpr ⟨small, rfl⟩
  rw [descriptorSize, body]
  simp only [bind, Except.bind, UInt64.toNat_ofNat_of_lt' small]

namespace Circuit

/-- The source begins with a header that can be read, in the layout that it announces. -/
def Declares (source : ByteSource) (header : Header) : Prop :=
  Header.decode (Layout.announced source.contents) source.contents = .ok header

/-- The bytes of the descriptor that begins with a header, counted without a limit. -/
def declaredLength (source : ByteSource) (header : Header) : Nat :=
  header.bodyLength + (Layout.announced source.contents).headerSize

/-- How a known length is refused: it is not the declared one, or that is beyond 64 bits. -/
inductive RefusesLength (declared : Nat) (length : UInt64) : LoadFailure → Prop
  | overflow (large : UInt64.size ≤ declared) :
    RefusesLength declared length (.header (.overflow "descriptor"))
  | mismatch {expected : UInt64} (exact : expected.toNat = declared) (other : length ≠ expected) :
    RefusesLength declared length (.sizeMismatch expected length)

/-- Loading gets as far as asking for a buffer, so that some environment can refuse one. -/
def AsksForBuffers (lanes : Lanes) (length : Option UInt64) (source : ByteSource) : Prop :=
  ∃ reservation buffer count,
    read lanes reservation length source = .error (.allocation buffer count)

section Lengths

variable {header : Header} {layout : Layout} {source later : ByteSource} {length : UInt64}
  {failure : LoadFailure}

theorem checkLength_eq_error_iff (valid : header.check = .ok ()) :
    checkLength layout header (some length) = .error failure ↔
      RefusesLength (header.bodyLength + layout.headerSize) length failure := by
  simp only [checkLength, Header.descriptorSize_of_check valid, Header.checkedSize]
  by_cases small : header.bodyLength + layout.headerSize < UInt64.size
  · have declared := UInt64.toNat_ofNat_of_lt' small
    simp only [if_pos small]
    constructor
    · intro refused
      split at refused
      · cases refused
      · next other =>
        cases refused
        exact .mismatch declared other
    · rintro (large | ⟨same, other⟩)
      · exact absurd small (Nat.not_lt.mpr large)
      · obtain rfl := UInt64.toNat_inj.mp (same.trans declared.symm)
        rw [if_neg other]
  · simp only [if_neg small]
    constructor
    · intro refused
      cases refused
      exact .overflow (Nat.le_of_not_lt small)
    · rintro (large | ⟨same, -⟩)
      · rfl
      · exact absurd (same ▸ UInt64.toNat_lt_size _) small

theorem declares_iff : Declares source header ↔
    ∃ later, readHeader source = .ok (Layout.announced source.contents, header, later) := by
  constructor
  · intro declares
    obtain ⟨valid, carried, rest, whole⟩ := Header.decode_eq_ok_iff.mp declares
    obtain ⟨later, read, -⟩ := readHeader_of_append valid carried rfl whole
    exact ⟨later, read⟩
  · rintro ⟨later, read⟩
    obtain ⟨-, valid, carried, delivered⟩ := delivers_of_readHeader read
    exact Header.decode_eq_ok_iff.mpr ⟨valid, carried, _, delivered.contents⟩

theorem failure_of_readPart {part : Section} {count : Nat}
    (failed : readPart part count source = .error failure) :
    failure = .truncated part ∨ ∃ cause, failure = .unreadable cause := by
  unfold readPart at failed
  split at failed
  · cases failed
  · cases failed
    exact .inl rfl
  · next cause _ _ =>
    split at failed
    · cases failed
      exact .inl rfl
    · cases failed
      exact .inr ⟨cause, rfl⟩

/-- No buffer is asked for before the header is read. -/
theorem failure_of_readHeader (failed : readHeader source = .error failure) :
    failure = .truncated .header ∨ (∃ cause, failure = .unreadable cause) ∨
      ∃ cause, failure = .header cause := by
  rcases bind_eq_error_iff.mp failed with first | ⟨⟨leading, middle⟩, -, failed⟩
  · exact (failure_of_readPart first).imp_right .inl
  · rcases bind_eq_error_iff.mp failed with second | ⟨⟨others, later⟩, -, failed⟩
    · exact (failure_of_readPart second).imp_right .inl
    · simp only at failed
      split at failed
      · next cause _ =>
        cases failed
        exact .inr (.inr ⟨cause, rfl⟩)
      · cases failed

variable {lanes : Lanes} {reservation : Reservation}

theorem read_of_unread {known : Option UInt64} (failed : readHeader source = .error failure) :
    read lanes reservation known source = .error failure := by
  rw [read, failed]
  rfl

/-- Behind the header, a known length is checked once, and then plays no role any more. -/
theorem read_some_of_readHeader (parsed : readHeader source = .ok (layout, header, later)) :
    read lanes reservation (some length) source =
      checkLength layout header (some length) >>= fun _ => read lanes reservation none source := by
  rw [read, read, parsed]
  rfl

/-- A known length is accepted exactly if it is the one that the header declares. -/
theorem read_some_of_declared (declares : Declares source header)
    (declared : length.toNat = declaredLength source header) :
    read lanes reservation (some length) source = read lanes reservation none source := by
  obtain ⟨later, parsed⟩ := declares_iff.mp declares
  have agrees : checkLength (Layout.announced source.contents) header (some length) = .ok () :=
    checkLength_eq_ok_iff.mpr fun actual same => Option.some.inj same ▸ declared
  rw [read_some_of_readHeader parsed, agrees]
  rfl

theorem exists_refusesLength (declares : Declares source header)
    (other : length.toNat ≠ declaredLength source header) :
    ∃ failure, RefusesLength (declaredLength source header) length failure ∧
      ∀ (lanes : Lanes) (reservation : Reservation),
        read lanes reservation (some length) source = .error failure := by
  obtain ⟨later, parsed⟩ := declares_iff.mp declares
  obtain ⟨-, valid, -, -⟩ := delivers_of_readHeader parsed
  cases checked : checkLength (Layout.announced source.contents) header (some length) with
  | ok => exact absurd (checkLength_eq_ok_iff.mp checked length rfl) other
  | error failure =>
    refine ⟨failure, (checkLength_eq_error_iff valid).mp checked, ?_⟩
    intro lanes reservation
    rw [read_some_of_readHeader parsed, checked]
    rfl

/-- Without a known length, every header that can be read leads to asking for a buffer. -/
theorem asksForBuffers_of_declares (lanes : Lanes) (declares : Declares source header) :
    AsksForBuffers lanes none source := by
  obtain ⟨later, parsed⟩ := declares_iff.mp declares
  refine ⟨fun _ _ => false, .table .input, header.inputCount, ?_⟩
  rw [read, parsed]
  rfl

theorem asksForBuffers_iff : AsksForBuffers lanes (some length) source ↔
    ∃ header, Declares source header ∧ length.toNat = declaredLength source header := by
  constructor
  · rintro ⟨reservation, buffer, count, refused⟩
    cases parsed : readHeader source with
    | error failure =>
      rw [read_of_unread parsed] at refused
      cases refused
      rcases failure_of_readHeader parsed with other | ⟨cause, other⟩ | ⟨cause, other⟩
      all_goals cases other
    | ok value =>
      obtain ⟨layout, header, later⟩ := value
      obtain ⟨rfl, -⟩ := delivers_of_readHeader parsed
      have declares := declares_iff.mpr ⟨later, parsed⟩
      refine ⟨header, declares, ?_⟩
      refine Decidable.byContradiction fun other => ?_
      obtain ⟨failure, refuses, fails⟩ := exists_refusesLength declares other
      cases (fails lanes reservation).symm.trans refused
      cases refuses
  · rintro ⟨header, declares, declared⟩
    obtain ⟨reservation, buffer, count, refused⟩ := asksForBuffers_of_declares lanes declares
    exact ⟨reservation, buffer, count, (read_some_of_declared declares declared).trans refused⟩

theorem Sound.length_text {circuit : Circuit lanes} {gates : List Gate}
    (sound : circuit.Sound gates) (layout : Layout) :
    (circuit.text layout).length = circuit.header.bodyLength + layout.headerSize := by
  rw [text, List.length_append, List.length_append, List.length_append, Header.length_text,
    Field.length_allDigits, Field.length_allDigits, sound.inputsCounted, sound.outputsCounted,
    sound.streamSized, Header.bodyLength, Nat.add_mul]
  omega

/-- A circuit that loads declares the length of its own text, so only that one is accepted. -/
theorem read_some_eq_ok_iff {circuit : Circuit lanes} :
    read lanes reservation (some length) source = .ok circuit ↔
      length.toNat = source.contents.length ∧
        read lanes reservation none source = .ok circuit := by
  have sized : ∀ {known : Option UInt64}, Accepted reservation known source circuit →
      source.contents.length = declaredLength source circuit.header := by
    rintro known ⟨⟨gates, sound⟩, -, -, whole, -, -, -⟩
    rw [congrArg List.length whole, sound.length_text, declaredLength]
  simp only [read_eq_ok_iff]
  constructor
  · intro accepted
    refine ⟨?_, { accepted with lengthAgrees := rfl }⟩
    rw [sized accepted]
    exact checkLength_eq_ok_iff.mp accepted.lengthAgrees length rfl
  · rintro ⟨same, accepted⟩
    rw [sized accepted] at same
    exact { accepted with
      lengthAgrees := checkLength_eq_ok_iff.mpr fun actual known => Option.some.inj known ▸ same }

end Lengths

/-- A known length only refuses, and does so first. A descriptor loads with a known length exactly
if this is its length and it loads without, as the same circuit. If there is no header, the length
is not looked at. If there is one, a length that it declares changes nothing, and any other is
refused for it, as one that is different or as one that has no 64 bits, whatever the environment
grants. So buffers are asked for exactly when the known length is the declared one, which covers
what is in the tables and the stream. -/
theorem known_length_only_refuses (lanes : Lanes) (length : UInt64) (source : ByteSource) :
    (∀ (reservation : Reservation) (circuit : Circuit lanes),
      read lanes reservation (some length) source = .ok circuit ↔
        length.toNat = source.contents.length ∧
          read lanes reservation none source = .ok circuit) ∧
      ((∀ header, ¬Declares source header) → ∃ failure,
        ∀ reservation known, read lanes reservation known source = .error failure) ∧
      (∀ header, Declares source header →
        (length.toNat = declaredLength source header →
          ∀ reservation, read lanes reservation (some length) source =
            read lanes reservation none source) ∧
        (length.toNat ≠ declaredLength source header →
          ∃ failure, RefusesLength (declaredLength source header) length failure ∧
            ∀ reservation, read lanes reservation (some length) source = .error failure)) ∧
      (AsksForBuffers lanes (some length) source ↔ ∃ header, Declares source header ∧
        length.toNat = declaredLength source header) ∧
      ∀ header, Declares source header → AsksForBuffers lanes (some length) source →
        header.inputCount.toNat + header.outputCount.toNat + header.streamSize.toNat ≤
          length.toNat := by
  refine ⟨?_, ?_, ?_, asksForBuffers_iff, ?_⟩
  · intro reservation circuit
    exact read_some_eq_ok_iff
  · intro undeclared
    cases parsed : readHeader source with
    | error failure => exact ⟨failure, fun _ _ => read_of_unread parsed⟩
    | ok value =>
      obtain ⟨layout, header, later⟩ := value
      obtain ⟨rfl, -⟩ := delivers_of_readHeader parsed
      exact absurd (declares_iff.mpr ⟨later, parsed⟩) (undeclared header)
  · intro header declares
    refine ⟨fun declared _ => read_some_of_declared declares declared, fun other => ?_⟩
    obtain ⟨failure, refuses, fails⟩ := exists_refusesLength declares other
    exact ⟨failure, refuses, fails lanes⟩
  · intro header declares asks
    obtain ⟨other, declaresToo, declared⟩ := asksForBuffers_iff.mp asks
    obtain rfl := Except.ok.inj (declares.symm.trans declaresToo)
    have tables := Nat.le_mul_of_pos_right (header.inputCount.toNat + header.outputCount.toNat)
      header.widths.address_bounded.1
    rw [declared, declaredLength, Header.bodyLength]
    omega

/-- The inverter loads with its own length. A header that declares almost `2 ^ 64` bytes asks for
buffers if nothing is known about its length, and for none if its length is known. -/
theorem overlong_header_is_refused :
    let header : Header := ⟨9223372036854775807, 0, 0, 0, 1, Widths.fixed⟩
    let source := ByteSource.ofBytes (header.text .fixed)
    read .eight Reservation.standard (some 49) (ByteSource.ofBytes inverter) =
        .ok (inverterLoaded .eight) ∧
      AsksForBuffers .eight none source ∧ ¬AsksForBuffers .eight (some 40) source ∧
      ∀ reservation, read .eight reservation (some 40) source =
        .error (.header (.overflow "descriptor")) := by
  intro header source
  have announced : Layout.announced source.contents = .fixed := by
    rw [ByteSource.contents_ofBytes]
    decide
  have declares : Declares source header := by
    rw [Declares, announced, ByteSource.contents_ofBytes]
    exact Header.decode_eq_ok_iff.mpr ⟨Header.check_eq_ok_iff.mpr (by decide), fun _ => rfl, [],
      (List.append_nil _).symm⟩
  obtain ⟨accepts, -⟩ := known_length_only_refuses .eight 49 (ByteSource.ofBytes inverter)
  obtain ⟨-, -, refuses, asks, -⟩ := known_length_only_refuses .eight 40 source
  have other : (40 : UInt64).toNat ≠ declaredLength source header := by
    rw [declaredLength, announced]
    decide
  refine ⟨?_, ?_, ?_, ?_⟩
  · refine (accepts _ _).mpr ⟨?_, read_inverter .eight⟩
    rw [ByteSource.contents_ofBytes]
    rfl
  · exact asksForBuffers_of_declares .eight declares
  · intro asked
    obtain ⟨found, declaresToo, declared⟩ := asks.mp asked
    obtain rfl := Except.ok.inj (declares.symm.trans declaresToo)
    exact other declared
  · intro reservation
    obtain ⟨failure, refused, fails⟩ := (refuses header declares).2 other
    cases refused with
    | overflow large => exact fails reservation
    | @mismatch expected exact _ =>
      rw [declaredLength, announced] at exact
      exact absurd (exact ▸ expected.toNat_lt_size) (by decide)

end Circuit

end Bitslice
