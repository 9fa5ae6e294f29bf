/-!
Arithmetic modulo a number, for the signature schemes.
-/

namespace Mrtd.Modular

/-- Squares and multiplies along the binary digits of the exponent, lowest first; the first
argument bounds their number. -/
def powLoop (modulus : Nat) : Nat → Nat → Nat → Nat → Nat
  | 0, _, _, acc => acc
  | bound + 1, base, exponent, acc =>
      if exponent = 0 then acc
      else
        powLoop modulus bound (base * base % modulus) (exponent / 2)
          (if exponent % 2 = 1 then acc * base % modulus else acc)

/-- A power modulo a number. -/
def pow (modulus base exponent : Nat) : Nat :=
  powLoop modulus (exponent.log2 + 1) (base % modulus) exponent (1 % modulus)

/-- The inverse modulo a prime. -/
def inverse (prime n : Nat) : Nat :=
  pow prime n (prime - 2)

/-- A difference modulo a number, of operands below it. -/
def sub (modulus a b : Nat) : Nat :=
  (a + modulus - b) % modulus

/-- The binary digits of a number from the highest of the given width on. -/
def bits (width n : Nat) : List Bool :=
  (List.range width).map fun i => n.testBit (width - 1 - i)

end Mrtd.Modular
