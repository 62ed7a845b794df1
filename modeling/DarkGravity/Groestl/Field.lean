/-!
# Bytes as elements of the field of 256 elements

Multiplication is that of polynomials over two elements modulo x⁸ + x⁴ + x³ + x + 1. The
substitution box of the cipher is inversion in this field followed by an affine map.
-/

namespace DarkGravity.Groestl

/-- The product with x. -/
def double (a : UInt8) : UInt8 :=
  (a <<< 1) ^^^ (if a &&& 0x80 = 0 then 0 else 0x1b)

/-- The product of `a` with the lowest `n` coefficients of `b`. -/
def mulBits : Nat → UInt8 → UInt8 → UInt8
  | 0, _, _ => 0
  | n + 1, a, b => (if b &&& 1 = 0 then 0 else a) ^^^ mulBits n (double a) (b >>> 1)

/-- The product in the field. -/
def mul (a b : UInt8) : UInt8 := mulBits 8 a b

/-- The product of `acc` with the next `n` repeated squares of `a`. -/
def mulSquares : Nat → UInt8 → UInt8 → UInt8
  | 0, _, acc => acc
  | n + 1, a, acc => mulSquares n (mul a a) (mul acc (mul a a))

/-- The inverse, which is the power 254; zero is sent to itself. -/
def inverse (a : UInt8) : UInt8 := mulSquares 7 a 1

/-- Rotates the bits of a byte to the left. -/
def rotate (a : UInt8) (n : UInt8) : UInt8 := (a <<< n) ||| (a >>> (8 - n))

/-- The substitution box. -/
def substitute (a : UInt8) : UInt8 :=
  let i := inverse a
  i ^^^ rotate i 1 ^^^ rotate i 2 ^^^ rotate i 3 ^^^ rotate i 4 ^^^ 0x63

end DarkGravity.Groestl
