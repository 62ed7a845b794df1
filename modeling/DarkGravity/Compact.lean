import DarkGravity.Bytes
import DarkGravity.Text.Hex

/-!
# Compact targets

A target is a natural number that a block hash must not exceed. A compact word packs one into 32
bits: the top byte is its size in bytes, the low 23 bits are its leading digits in base 256, and
the bit between them is a sign that no target sets. `decode` refuses words that are negative or do
not fit 256 bits, `encode` keeps the three leading bytes, and `truncate` keeps what a word with a
given size byte could express.
-/

namespace DarkGravity

/-- A threshold for block hashes. -/
abbrev Target := Nat

namespace Compact

open Bytes (weight)

/-- What the sign bit counts in a word. -/
def signWeight : Nat := 0x800000

/-- The number of bytes of the target, from the top byte of the word. -/
def sizeByte (bits : UInt32) : Nat := bits.toNat / weight 3

/-- The low 23 bits. -/
def mantissa (bits : UInt32) : Nat := bits.toNat % signWeight

/-- The bit above the mantissa. -/
def sign (bits : UInt32) : Bool := bits.toNat / signWeight % 2 = 1

/-- Why a word has no target. -/
inductive Error where
  /-- The sign bit is set on a mantissa that is not zero. -/
  | negative (bits : UInt32)
  /-- The target would need more than 256 bits. -/
  | overflow (bits : UInt32)
  deriving DecidableEq, Repr

/-- The word at fault. -/
def Error.bits : Error → UInt32
  | .negative bits => bits
  | .overflow bits => bits

/-- A word as eight digits behind the mark of the base. -/
def wordText (bits : UInt32) : String := "0x" ++ Hex.ofNatPadded 8 bits.toNat

/-- The wording of a fault. -/
def Error.message : Error → String
  | .negative bits => "compact target " ++ wordText bits ++ " is negative"
  | .overflow bits => "compact target " ++ wordText bits ++ " overflows 256 bits"

/-- Whether a mantissa on a size byte would reach past 256 bits. -/
def exceeds (size mantissa : Nat) : Bool :=
  34 < size || (0xff < mantissa && 33 < size) || (0xffff < mantissa && 32 < size)

/-- The target of a word. The sign is looked at before the size. -/
def decode (bits : UInt32) : Except Error Target :=
  let size := sizeByte bits
  let word := mantissa bits
  if word ≠ 0 ∧ sign bits then .error (.negative bits)
  else if word ≠ 0 ∧ exceeds size word then .error (.overflow bits)
  else if size ≤ 3 then .ok (word / weight (3 - size))
  else .ok (word * weight (size - 3))

/-- The number of bits of a number; zero has none. -/
def bitLength (n : Nat) : Nat := if n = 0 then 0 else n.log2 + 1

/-- The number of bytes of a number; zero has none. -/
def byteLength (n : Nat) : Nat := (bitLength n + 7) / 8

/-- The word of a target: its three leading bytes, or two behind a zero byte where the sign bit
would be set. A size past 255 bytes loses its high bits. -/
def encode (target : Target) : UInt32 :=
  if target = 0 then 0
  else
    let size := byteLength target
    let word := if size ≤ 3 then target * weight (3 - size) else target / weight (size - 3)
    -- a leading byte that would set the sign bit moves down behind a zero byte
    if signWeight ≤ word then UInt32.ofNat ((size + 1) * weight 3 + word / 256)
    else UInt32.ofNat (size * weight 3 + word)

/-- The part of a target inside the three-byte window that the size byte of a word names. -/
def truncate (target : Target) (bits : UInt32) : Target :=
  let size := sizeByte bits
  if size ≤ 3 then target % weight size
  else target / weight (size - 3) % weight 3 * weight (size - 3)

end Compact

end DarkGravity
