import Intake.Decimal.Shortest

/-!
How the shortest digits of a number are set out: with a point among them, or with an exponent.
-/
namespace Intake.Decimal

structure Layout where
  /-- The exponents of the first digit for which the number is written without an exponent. -/
  positional : Int → Bool
  /-- What follows a number that has no digit after the point. -/
  whole : String
  tie : Tie

/-- Digits with the point after the first `before` of them; zeros fill what is missing. -/
def Layout.point (l : Layout) (ds : List Char) (before : Int) : String :=
  if before ≤ 0 then
    "0." ++ String.ofList (List.replicate (-before).toNat '0' ++ ds)
  else if (ds.length : Int) ≤ before then
    String.ofList (ds ++ List.replicate (before - ds.length).toNat '0') ++ l.whole
  else
    String.ofList (ds.take before.toNat) ++ "." ++ String.ofList (ds.drop before.toNat)

def scientific (ds : List Char) (e : Int) : String :=
  String.ofList (ds.take 1) ++
    (if ds.length = 1 then "" else "." ++ String.ofList (ds.drop 1)) ++
    "e" ++ (if 0 ≤ e then "+" else "-") ++ toString e.natAbs

def Layout.finite (l : Layout) (x : Float) : String :=
  let d := shortest l.tie (.ofFloat x)
  let ds := Nat.toDigits 10 d.digits
  let before := d.exponent + ds.length
  let sign := if isNegative x then "-" else ""
  sign ++ if l.positional (before - 1) then l.point ds before else scientific ds (before - 1)

def special (x : Float) : Option String :=
  if x.isNaN then some "NaN"
  else if x.isInf then some (if isNegative x then "-inf" else "inf")
  else none

def Layout.write (l : Layout) (x : Float) : String :=
  (special x).getD (l.finite x)

/-- Numbers in running text: never an exponent, and no point without digits after it. A tie goes
away from zero. -/
def plain : Layout := ⟨fun _ => true, "", .up⟩

/-- Numbers as data: from `1e-5` to just below `1e16` without an exponent, and always told apart
from an integer. A tie goes to the even digit. -/
def data : Layout := ⟨fun e => -5 ≤ e && e ≤ 15, ".0", .toEven⟩

end Intake.Decimal
