/-!
# Hexadecimal text

Bytes are written as two lower-case digits each, and digits of either case are read. `decode`
reads the bytes of a text of any even length and `decodeExactly` those of a text of one given
length; `decodeSpaced?` lets blanks stand among the digits of such a text. Text is looked at as the
bytes of its encoding, so a character outside ASCII counts with all its bytes and is reported by the
first of them.
-/

namespace DarkGravity

namespace Text

/-- The bytes that encode a text. -/
def bytes (text : String) : List UInt8 :=
  text.toList.flatMap String.utf8EncodeChar

/-- A byte shown as the character of that code point between single quotes. Controls, blanks that
are not printed, the quote and the backslash are escaped. -/
def quotedByte (b : UInt8) : String :=
  let shown : List Char :=
    if b = 0x00 then ['\\', '0']
    else if b = 0x09 then ['\\', 't']
    else if b = 0x0a then ['\\', 'n']
    else if b = 0x0d then ['\\', 'r']
    else if b = 0x27 then ['\\', '\'']
    else if b = 0x5c then ['\\', '\\']
    else if b < 0x20 || (0x7f ≤ b && b ≤ 0xa0) || b = 0xad then
      ['\\', 'u', '{'] ++ Nat.toDigits 16 b.toNat ++ ['}']
    else [Char.ofNat b.toNat]
  String.ofList (['\''] ++ shown ++ ['\''])

end Text

namespace Hex

/-- The lower-case digit of a value below 16. -/
def digit (n : Nat) : Char :=
  if n < 10 then Char.ofNat (48 + n) else Char.ofNat (87 + n)

/-- The value of a digit of either case, given by its code. -/
def value? (code : Nat) : Option Nat :=
  if 0x30 ≤ code && code ≤ 0x39 then some (code - 0x30)
  else if 0x61 ≤ code && code ≤ 0x66 then some (code - 0x57)
  else if 0x41 ≤ code && code ≤ 0x46 then some (code - 0x37)
  else none

theorem value?_digit : ∀ n < 16, value? (digit n).toNat = some n := by
  decide

/-- The two digits of a byte, high half first. -/
def ofByte (b : UInt8) : List Char :=
  [digit (b.toNat / 16), digit (b.toNat % 16)]

/-- Bytes as text, two digits each. -/
def ofBytes (bytes : List UInt8) : String :=
  String.ofList (bytes.flatMap ofByte)

/-- A number in lower case without leading zeros; zero is one digit. -/
def ofNat (n : Nat) : String :=
  String.ofList (Nat.toDigits 16 n)

/-- A number in lower case, filled with zeros on the left to at least `width` digits. -/
def ofNatPadded (width n : Nat) : String :=
  let digits := Nat.toDigits 16 n
  String.ofList (List.replicate (width - digits.length) '0' ++ digits)

/-- The number that digits stand for, most significant first; `none` if one is no digit. -/
def toNat? (text : String) : Option Nat :=
  text.toList.foldlM (fun n c => (value? c.toNat).map (16 * n + ·)) 0

/-- Why a text names no bytes. -/
inductive Error where
  | oddLength
  | wrongLength
  | badDigit (byte : UInt8) (position : Nat)
  deriving DecidableEq, Repr

/-- The wording of a fault. -/
def Error.message : Error → String
  | .oddLength => "Odd number of digits"
  | .wrongLength => "Invalid string length"
  | .badDigit byte position =>
    "Invalid character " ++ Text.quotedByte byte ++ " at position " ++ toString position

/-- Reads two digits at a time; `position` is the index of the first of them in the whole text. -/
def decodePairs : Nat → List UInt8 → Except Error (List UInt8)
  | _, [] => .ok []
  | _, [_] => .error .oddLength
  | position, hi :: lo :: rest =>
    match value? hi.toNat with
    | none => .error (.badDigit hi position)
    | some h =>
      match value? lo.toNat with
      | none => .error (.badDigit lo (position + 1))
      | some l => (decodePairs (position + 2) rest).map (UInt8.ofNat (16 * h + l) :: ·)

/-- Two digits are read for every byte. -/
theorem length_of_decodePairs {position : Nat} {text bytes : List UInt8}
    (h : decodePairs position text = .ok bytes) : text.length = 2 * bytes.length := by
  fun_induction decodePairs position text generalizing bytes with
  | case1 => cases h; rfl
  | case2 => cases h
  | case3 => cases h
  | case4 => cases h
  | case5 position hi lo rest hv hh lv hl ih =>
    cases hr : decodePairs (position + 2) rest with
    | error e => rw [hr] at h; cases h
    | ok out =>
      rw [hr] at h
      cases h
      have := ih hr
      simp only [List.length_cons]
      omega

/-- The bytes that a text of digits names. -/
def decode (text : String) : Except Error (List UInt8) :=
  let digits := Text.bytes text
  if digits.length % 2 = 1 then .error .oddLength else decodePairs 0 digits

/-- The `n` bytes that a text of `2 * n` digits names. An odd length is reported before a wrong one,
and a wrong length before a bad digit. -/
def decodeExactly (n : Nat) (text : String) :
    Except Error { bytes : List UInt8 // bytes.length = n } :=
  let digits := Text.bytes text
  if digits.length % 2 = 1 then .error .oddLength
  else if hn : digits.length = 2 * n then
    match h : decodePairs 0 digits with
    | .ok bytes => .ok ⟨bytes, by have := length_of_decodePairs h; omega⟩
    | .error e => .error e
  else .error .wrongLength

/-- Whether a byte is a blank that may stand among digits. -/
def isGap (b : UInt8) : Bool := b = 0x20 || b = 0x0d || b = 0x0a || b = 0x09

/-- The bytes that the values of digits form two by two. A last digit alone forms none. -/
def pairUp : List Nat → List UInt8
  | high :: low :: rest => UInt8.ofNat (16 * high + low) :: pairUp rest
  | _ => []

/-- The `n` bytes that a text of `2 * n` digits and blanks names. The digits form bytes as if there
were no blanks, and the bytes that are missing at the end are zero. -/
def decodeSpaced? (n : Nat) (text : String) : Option { bytes : List UInt8 // bytes.length = n } :=
  let digits := Text.bytes text
  if digits.length = 2 * n then
    ((digits.filter fun b => !isGap b).mapM fun b => value? b.toNat).map fun values =>
      ⟨(pairUp values ++ List.replicate n 0).take n, by simp⟩
  else none

end Hex

end DarkGravity
