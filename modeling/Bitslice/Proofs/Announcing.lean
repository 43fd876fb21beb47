import Bitslice.Proofs.Loading

/-!
# The layout that a header announces

A reader takes the layout of a header from its first four bytes. The
self-describing layout puts its magic bytes there, the fixed one the lower half
of its input count. So a header is read back in the layout it was written in
unless that half happens to spell the magic bytes (`Header.Misleads`), and a
header that misleads is refused where nothing follows it.
-/

namespace Bitslice.Header

/-- In this layout the header begins with the magic bytes of the other one. -/
def Misleads (header : Header) (layout : Layout) : Prop :=
  layout = .fixed ∧ header.inputCount.toNat % UInt32.size = Field.value Layout.magic

theorem announced_text_iff (header : Header) (layout : Layout) (rest : Bytes) :
    Layout.announced (header.text layout ++ rest) = layout ↔ ¬header.Misleads layout := by
  cases layout with
  | selfDescribing => simp [announced_text_selfDescribing, Misleads]
  | fixed => simp [announced_text_fixed_iff, Misleads]

theorem exists_encode_iff {header : Header} {layout : Layout} :
    (∃ bytes, header.encode layout = .ok bytes) ↔ header.Carried layout := by
  simp [encode_eq_ok_iff]

/-- A header that misleads has too few bytes for the layout that it announces. -/
theorem Misleads.refused {header : Header} {layout : Layout} (misleads : header.Misleads layout) :
    Layout.announced (header.text layout) = .selfDescribing ∧
      decode .selfDescribing (header.text layout) =
        .error (.shortHeader Layout.selfDescribing.headerSize layout.headerSize) := by
  obtain ⟨rfl, spelled⟩ := misleads
  constructor
  · have other : Layout.announced (header.text .fixed ++ []) ≠ .fixed :=
      mt (header.announced_text_fixed_iff []).mp (not_not_intro spelled)
    rw [List.append_nil] at other
    cases announced : Layout.announced (header.text .fixed) with
    | fixed => exact absurd announced other
    | selfDescribing => rfl
  · have short : (header.text .fixed).length < Layout.selfDescribing.headerSize := by
      rw [length_text]
      decide
    rw [decode, if_pos short, length_text]

/-- Headers are read back in the layout that they announce. Every valid header can be written in the
self-describing layout, and in the fixed one if it has the widths of that. Whatever follows it, it
then announces the layout it was written in, and loading reads exactly this header in this layout,
unless it misleads. One that misleads is refused where nothing follows it, so no header alone is
ever read as another one. -/
theorem announced_layout_reads_back {header : Header} (valid : header.check = .ok ()) :
    (∃ bytes, header.encode .selfDescribing = .ok bytes) ∧
      ((∃ bytes, header.encode .fixed = .ok bytes) ↔ header.widths = Widths.fixed) ∧
      ∀ layout bytes, header.encode layout = .ok bytes →
        (∀ other, decode (Layout.announced bytes) bytes = .ok other ↔
          other = header ∧ ¬header.Misleads layout) ∧
        (¬header.Misleads layout → ∀ rest,
          Layout.announced (bytes ++ rest) = layout ∧
            decode layout (bytes ++ rest) = .ok header ∧
            ∀ source : ByteSource, source.contents = bytes ++ rest →
              ∃ later, Circuit.readHeader source = .ok (layout, header, later) ∧
                later.contents = rest) ∧
        (header.Misleads layout → Layout.announced bytes = .selfDescribing ∧
          decode .selfDescribing bytes = .error (.shortHeader 48 40)) := by
  refine ⟨exists_encode_iff.mpr nofun, ?_, ?_⟩
  · rw [exists_encode_iff]
    exact ⟨fun carried => carried rfl, fun own _ => own⟩
  · intro layout bytes encoded
    obtain ⟨carried, rfl⟩ := encode_eq_ok_iff.mp encoded
    have readBack : ∀ rest, decode layout (header.text layout ++ rest) = .ok header :=
      fun rest => decode_eq_ok_iff.mpr ⟨valid, carried, rest, rfl⟩
    refine ⟨?_, ?_, ?_⟩
    · intro other
      by_cases misleads : header.Misleads layout
      · obtain ⟨announced, refused⟩ := misleads.refused
        simp [announced, refused, misleads]
      · have announced := (header.announced_text_iff layout []).mpr misleads
        have read := readBack []
        rw [List.append_nil] at announced read
        simp [announced, read, misleads, eq_comm]
    · intro leads rest
      have announced := (header.announced_text_iff layout rest).mpr leads
      refine ⟨announced, readBack rest, ?_⟩
      intro source whole
      rw [← whole] at announced
      obtain ⟨later, read, delivered⟩ :=
        Circuit.readHeader_of_append valid carried announced whole
      exact ⟨later, read, delivered.contents_eq whole⟩
    · intro misleads
      obtain ⟨announced, refused⟩ := misleads.refused
      obtain ⟨rfl, -⟩ := misleads
      exact ⟨announced, refused⟩

/-- A header of two inputs in the fixed layout, with a stream behind it. -/
theorem two_inputs_read_back :
    let header : Header := ⟨2, 1, 1, 7, 3, Widths.fixed⟩
    let bytes := header.text .fixed ++ [0, 0, 1, 0, 2, 0]
    header.check = .ok () ∧ Layout.announced bytes = .fixed ∧
      ∃ later, Circuit.readHeader (ByteSource.ofBytes bytes) = .ok (.fixed, header, later) ∧
        later.contents = [0, 0, 1, 0, 2, 0] := by
  intro header bytes
  have valid : header.check = .ok () := check_eq_ok_iff.mpr (by decide)
  have leads : ¬header.Misleads .fixed := by
    rintro ⟨-, spelled⟩
    revert spelled
    decide
  obtain ⟨-, -, written⟩ := announced_layout_reads_back valid
  obtain ⟨-, read, -⟩ := written .fixed (header.text .fixed)
    (encode_eq_ok_iff.mpr ⟨fun _ => rfl, rfl⟩)
  obtain ⟨announced, -, loads⟩ := read leads [0, 0, 1, 0, 2, 0]
  exact ⟨valid, announced, loads _ (ByteSource.contents_ofBytes _)⟩

/-- A valid header whose input count spells the magic bytes announces the layout it was not written
in, and is not read back. -/
theorem magic_input_count_is_refused :
    let header : Header := ⟨1953186630, 0, 0, 0, 1, Widths.fixed⟩
    header.check = .ok () ∧ ∃ bytes, header.encode .fixed = .ok bytes ∧
      Layout.announced bytes = .selfDescribing ∧
      decode (Layout.announced bytes) bytes ≠ .ok header := by
  intro header
  have misleads : header.Misleads .fixed := ⟨rfl, by decide⟩
  obtain ⟨announced, refused⟩ := misleads.refused
  refine ⟨check_eq_ok_iff.mpr (by decide), header.text .fixed,
    encode_eq_ok_iff.mpr ⟨fun _ => rfl, rfl⟩, announced, ?_⟩
  rw [announced, refused]
  exact nofun

end Bitslice.Header
