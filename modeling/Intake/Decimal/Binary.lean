/-!
The exact value of a binary floating point number: a natural number times a power of two. Every
decimal text of this library is made from it in natural number arithmetic.
-/
namespace Intake.Decimal

/-- The number `mantissa * 2 ^ exponent`. `tight` says that the next smaller number is only half
as far away as the next larger one. -/
structure Binary where
  mantissa : Nat
  exponent : Int
  tight : Bool

namespace Binary

def ofBits (bits : Nat) : Binary :=
  let fraction : Nat := bits % Nat.pow 2 52
  let biased : Nat := bits / Nat.pow 2 52 % Nat.pow 2 11
  if biased = 0 then ⟨fraction, -1074, false⟩
  else ⟨Nat.pow 2 52 + fraction, Int.subNatNat biased 1075, fraction == 0 && biased != 1⟩

def ofFloat (x : Float) : Binary :=
  ofBits x.toBits.toNat

def num (b : Binary) : Nat := b.mantissa * Nat.pow 2 b.exponent.toNat

def den (b : Binary) : Nat := Nat.pow 2 (-b.exponent).toNat

end Binary

def isNegative (x : Float) : Bool :=
  Nat.pow 2 63 ≤ x.toBits.toNat

end Intake.Decimal
