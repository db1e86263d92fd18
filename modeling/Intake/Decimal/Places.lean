import Intake.Decimal.Layout

/-!
Numbers with a fixed count of digits after the point. The exact binary value is rounded to the
nearest such number, and a tie goes to the even last digit.
-/
namespace Intake.Decimal

def roundHalfEven (num den : Nat) : Nat :=
  let q := num / den
  match compare (2 * (num % den)) den with
  | .lt => q
  | .gt => q + 1
  | .eq => Tie.toEven.pick q

def fixedFinite (places : Nat) (x : Float) : String :=
  let b := Binary.ofFloat x
  let n := roundHalfEven (b.num * Nat.pow 10 places) b.den
  let ds := Nat.toDigits 10 n
  let ds := List.replicate (places + 1 - ds.length) '0' ++ ds
  let before := ds.length - places
  (if isNegative x then "-" else "") ++
    String.ofList (ds.take before) ++ "." ++ String.ofList (ds.drop before)

def fixed (places : Nat) (x : Float) : String :=
  (special x).getD (fixedFinite places x)

end Intake.Decimal
