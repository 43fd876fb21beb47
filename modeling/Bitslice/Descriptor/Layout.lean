import Bitslice.Field

/-!
# Descriptor layouts

A self-describing descriptor starts with four magic bytes and names its
widths. Anything else is read in the fixed layout, whose widths are given.
-/

namespace Bitslice

/-- The two ways a descriptor can start. -/
inductive Layout where
  /-- Five 64-bit fields; tags of one byte and addresses of two. -/
  | fixed
  /-- Magic bytes, version and widths before the five fields. -/
  | selfDescribing
  deriving DecidableEq, Repr

namespace Layout

/-- The first bytes of a self-describing descriptor, `FCkt`. -/
def magic : Bytes :=
  [70, 67, 107, 116]

/-- The only version of the self-describing layout. -/
def version : UInt8 :=
  1

/-- The layout that the first four bytes of a descriptor announce. -/
def announced (bytes : Bytes) : Layout :=
  if bytes.take 4 = magic then .selfDescribing else .fixed

/-- The number of header bytes. -/
def headerSize : Layout → Nat
  | fixed => 40
  | selfDescribing => 48

end Layout

end Bitslice
