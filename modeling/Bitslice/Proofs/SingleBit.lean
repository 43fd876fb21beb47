import Bitslice.Gate

/-!
# Evaluation of a single instance

A gate list is evaluated here for one instance alone, on a memory of single
bits. Nothing is packed and nothing can fail, so this is what running a circuit
is measured against.
-/

namespace Bitslice

/-- Of the items with a property, if there are any, one is the last. -/
theorem exists_last {α : Type} {holds : α → Prop} {list : List α}
    (present : ∃ item ∈ list, holds item) :
    ∃ (number : Nat) (item : α), list[number]? = some item ∧ holds item ∧
      ∀ (later : Nat) (other : α), number < later → list[later]? = some other → ¬holds other := by
  induction list with
  | nil =>
    obtain ⟨item, member, -⟩ := present
    cases member
  | cons first list ih =>
    by_cases again : ∃ other ∈ list, holds other
    · obtain ⟨number, item, found, property, last⟩ := ih again
      refine ⟨number + 1, item, found, property, ?_⟩
      rintro (_ | later) other behind
      · cases behind
      · exact last later other (Nat.lt_of_succ_lt_succ behind)
    · obtain ⟨other, member, property⟩ := present
      rcases List.mem_cons.mp member with rfl | member
      · refine ⟨0, other, rfl, property, ?_⟩
        rintro (_ | later) another behind found
        · cases behind
        · exact fun holdsToo => again ⟨another, List.mem_of_getElem? found, holdsToo⟩
      · exact absurd ⟨other, member, property⟩ again

/-- A memory of single bits, by address. -/
abbrev Cells := UInt64 → Bool

namespace Cells

/-- Every bit is zero. -/
def zero : Cells :=
  fun _ => false

/-- The memory with one bit replaced. -/
def set (cells : Cells) (address : UInt64) (bit : Bool) : Cells :=
  fun other => if other = address then bit else cells other

/-- Stores bits one after the other, so a later one wins over an earlier one in the same cell. -/
def store (cells : Cells) : List (UInt64 × Bool) → Cells
  | [] => cells
  | (address, bit) :: later => store (cells.set address bit) later

/-- A cleared memory into which the wires of an instance were stored in the order of their table. -/
def ofInputs (table : List UInt64) (bit : Nat → Bool) : Cells :=
  zero.store (table.zip ((List.range table.length).map bit))

theorem set_same (cells : Cells) (address : UInt64) (bit : Bool) :
    cells.set address bit address = bit :=
  if_pos rfl

theorem set_other (cells : Cells) {address other : UInt64} (bit : Bool) (apart : other ≠ address) :
    cells.set address bit other = cells other :=
  if_neg apart

theorem store_of_not_mem (cells : Cells) {pairs : List (UInt64 × Bool)} {address : UInt64}
    (unlisted : address ∉ pairs.map Prod.fst) : cells.store pairs address = cells address := by
  induction pairs generalizing cells with
  | nil => rfl
  | cons pair pairs ih =>
    rw [List.map_cons, List.mem_cons, not_or] at unlisted
    obtain ⟨here, later⟩ := unlisted
    rw [store, ih _ later, set_other _ _ here]

/-- A cell holds the last bit that was stored into it. -/
theorem store_of_last (cells : Cells) {pairs : List (UInt64 × Bool)} {number : Nat}
    {address : UInt64} {bit : Bool} (stored : pairs[number]? = some (address, bit))
    (last : ∀ later pair, number < later → pairs[later]? = some pair → pair.1 ≠ address) :
    cells.store pairs address = bit := by
  induction pairs generalizing cells number with
  | nil => cases stored
  | cons pair pairs ih =>
    cases number with
    | zero =>
      obtain rfl : pair = (address, bit) := Option.some.inj stored
      have unlisted : address ∉ pairs.map Prod.fst := by
        intro listed
        obtain ⟨other, member, same⟩ := List.mem_map.mp listed
        obtain ⟨index, found⟩ := List.getElem?_of_mem member
        exact last (index + 1) other (Nat.succ_pos index) found same
      rw [store, store_of_not_mem _ unlisted, set_same]
    | succ number =>
      apply ih (cells.set pair.1 pair.2) stored
      intro later other behind found
      exact last (later + 1) other (Nat.succ_lt_succ behind) found

/-- Zero bits stored into a cleared memory leave it cleared. -/
theorem zero_store {pairs : List (UInt64 × Bool)} (zeros : ∀ pair ∈ pairs, pair.2 = false) :
    zero.store pairs = zero := by
  induction pairs with
  | nil => rfl
  | cons pair pairs ih =>
    obtain ⟨address, bit⟩ := pair
    obtain rfl : bit = false := zeros (address, bit) (.head _)
    have unchanged : zero.set address false = zero := by
      ext other
      by_cases same : other = address
      · rw [same, set_same]
        rfl
      · exact set_other zero false same
    rw [store, unchanged, ih fun other member => zeros other (.tail _ member)]

/-- Only the wires of the table count. -/
theorem ofInputs_congr {table : List UInt64} {left right : Nat → Bool}
    (same : ∀ wire < table.length, left wire = right wire) :
    ofInputs table left = ofInputs table right := by
  have wires : (List.range table.length).map left = (List.range table.length).map right :=
    List.map_congr_left fun wire listed => same wire (List.mem_range.mp listed)
  rw [ofInputs, ofInputs, wires]

end Cells

/-- What evaluating gates for one instance leaves behind. -/
structure Evaluation where
  /-- The memory afterwards. -/
  cells : Cells
  /-- The bit that each gate wrote, in order. -/
  written : List Bool

namespace Gate

/-- The bit that the gate writes; a random gate writes the fresh one. -/
def bit (gate : Gate) (cells : Cells) (fresh : Bool) : Bool :=
  match gate.operator with
  | .xor => cells gate.first ^^ cells gate.second
  | .and => cells gate.first && cells gate.second
  | .or => cells gate.first || cells gate.second
  | .not => !cells gate.first
  | .random => fresh

/-- The number of random gates met once this gate has run. -/
def drawnAfter (gate : Gate) (drawn : Nat) : Nat :=
  if gate.operator = .random then drawn + 1 else drawn

/-- Evaluates gates in order. `fresh` lists the random bits, of which `drawn` are used up. -/
def evaluateBits (fresh : Nat → Bool) (drawn : Nat) (cells : Cells) : List Gate → Evaluation
  | [] => ⟨cells, []⟩
  | gate :: later =>
    let bit := gate.bit cells (fresh drawn)
    let rest := evaluateBits fresh (gate.drawnAfter drawn) (cells.set gate.destination bit) later
    ⟨rest.cells, bit :: rest.written⟩

@[simp] theorem length_written (fresh : Nat → Bool) (drawn : Nat) (cells : Cells)
    (gates : List Gate) : (evaluateBits fresh drawn cells gates).written.length = gates.length := by
  induction gates generalizing drawn cells with
  | nil => rfl
  | cons gate gates ih => rw [evaluateBits, List.length_cons, List.length_cons, ih]

/-- Without a random gate the random bits do not matter. -/
theorem evaluateBits_of_not_random {gates : List Gate}
    (drawless : ∀ gate ∈ gates, gate.operator ≠ .random) (left right : Nat → Bool)
    (leftDrawn rightDrawn : Nat) (cells : Cells) :
    evaluateBits left leftDrawn cells gates = evaluateBits right rightDrawn cells gates := by
  induction gates generalizing leftDrawn rightDrawn cells with
  | nil => rfl
  | cons gate gates ih =>
    have here : gate.bit cells (left leftDrawn) = gate.bit cells (right rightDrawn) := by
      have operator := drawless gate (.head _)
      unfold bit
      split
      · rfl
      · rfl
      · rfl
      · rfl
      · contradiction
    have later := ih (fun other member => drawless other (.tail _ member))
      (gate.drawnAfter leftDrawn) (gate.drawnAfter rightDrawn)
      (cells.set gate.destination (gate.bit cells (right rightDrawn)))
    rw [evaluateBits, evaluateBits, here, later]

end Gate

end Bitslice
