import Bitslice.Field

/-!
# Hexadecimal text

Bytes are written as two lowercase digits each, in order.
-/

namespace Bitslice.Hex

/-- The digit of a number below sixteen. -/
def digit (number : Nat) : Char :=
  if number < 10 then Char.ofNat (48 + number) else Char.ofNat (87 + number)

/-- The two digits of a byte, high half first. -/
def ofByte (byte : UInt8) : List Char :=
  [digit (byte.toNat / 16), digit (byte.toNat % 16)]

/-- The text of a byte sequence. -/
def ofBytes (bytes : Bytes) : String :=
  String.ofList (bytes.flatMap ofByte)

end Bitslice.Hex
