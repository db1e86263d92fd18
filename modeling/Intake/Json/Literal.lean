import Intake.Json.Fault

/-!
The value of a written number. A whole number of up to sixty-four bits is an integer; any other
number is a significand of up to sixty-four bits, scaled by a power of ten in floating point.
-/
namespace Intake.Json

/-- A number as it is written; digits are in order, and the exponent comes with its sign. -/
structure Literal where
  negative : Bool
  whole : List Nat
  fraction : List Nat
  exponent : Option (Bool × List Nat)
  plain : Bool

namespace Literal

/-- As many digits as sixty-four bits hold, and the count of those that are left out. -/
def takeWhole (s : Nat) : List Nat → Nat × Nat
  | [] => (s, 0)
  | d :: ds => if s * 10 + d < Nat.pow 2 64 then takeWhole (s * 10 + d) ds else (s, ds.length + 1)

def takeFraction (s : Nat) : List Nat → Nat × Nat
  | [] => (s, 0)
  | d :: ds =>
    if s * 10 + d < Nat.pow 2 64 then
      let (t, n) := takeFraction (s * 10 + d) ds
      (t, n + 1)
    else (s, 0)

/-- The exponent, or nothing where it leaves thirty-one bits. -/
def takeExponent (e : Nat) : List Nat → Option Nat
  | [] => some e
  | d :: ds => if e * 10 + d < Nat.pow 2 31 then takeExponent (e * 10 + d) ds else none

def powerOfTen (n : Nat) : Float := Float.ofScientific 1 false n

/-- Division by a power of ten, in steps that a floating point number can hold. -/
def scaleDown (f : Float) (e : Nat) : Float :=
  if e ≤ 308 then f / powerOfTen e
  else if f == 0.0 then f
  else scaleDown (f / powerOfTen 308) (e - 308)
termination_by e

def scale (significand : Nat) (e : Int) : Except Fault Float :=
  let f := Float.ofNat significand
  if e < 0 then .ok (scaleDown f (-e).toNat)
  else if e ≤ 308 then
    let g := f * powerOfTen e.toNat
    if g.isInf then .error .numberTooLarge else .ok g
  else if f == 0.0 then .ok f
  else .error .numberTooLarge

def real (l : Literal) : Except Fault Float := do
  let (s, dropped) := takeWhole 0 l.whole
  let (t, taken) := takeFraction s l.fraction
  let base : Int := (dropped : Int) - taken
  let f ←
    match l.exponent with
    | none => scale t base
    | some (down, ds) =>
      match takeExponent 0 ds with
      | some e => scale t (if down then base - (e : Int) else base + (e : Int))
      | none => if t ≠ 0 && !down then .error .numberTooLarge else .ok 0.0
  return if l.negative then -f else f

def number (l : Literal) : Except Fault Number :=
  let n : Nat := l.whole.foldl (fun s d => s * 10 + d) 0
  if l.plain && !l.negative && n < Nat.pow 2 64 then .ok (.integer n)
  else if l.plain && l.negative && 0 < n && n ≤ Nat.pow 2 63 then .ok (.integer (-n))
  else l.real.map .real

end Literal

end Intake.Json
