import Intake.Decimal.Binary

/-!
The fewest decimal digits that read back as the same binary number. The grid of the points with
`n` significant digits is tried for `n = 1, 2, …`; on each grid only the two neighbours of the
value can lie among the reals that round to it.
-/
namespace Intake.Decimal

structure Digits where
  digits : Nat
  exponent : Int

inductive Tie where
  | toEven
  | up

def Tie.pick (tie : Tie) (below : Nat) : Nat :=
  match tie with
  | .toEven => if below % 2 = 0 then below else below + 1
  | .up => below + 1

def decimalLength (n : Nat) : Nat := (Nat.toDigits 10 n).length

def magnitude (num den : Nat) : Int :=
  if den ≤ num then decimalLength (num / den) - 1
  else -(decimalLength ((den + num - 1) / num - 1) : Int)

/-- The digits on the grid of multiples of `10 ^ e` for a point that reads back as `b`, if there is
one: of two the nearer. All is compared in quarters of the last binary place. -/
def onGrid (tie : Tie) (b : Binary) (e : Int) : Option Digits :=
  let point := 4 * b.den * Nat.pow 10 e.toNat
  let quarter := Nat.pow 2 b.exponent.toNat * Nat.pow 10 (-e).toNat
  let value := 4 * b.mantissa * quarter
  let low := (4 * b.mantissa - if b.tight then 1 else 2) * quarter
  let high := (4 * b.mantissa + 2) * quarter
  let inside := fun d =>
    if b.mantissa % 2 = 0 then low ≤ d * point && d * point ≤ high
    else low < d * point && d * point < high
  let below := value / point
  match inside below, inside (below + 1) with
  | false, false => none
  | true, false => some ⟨below, e⟩
  | false, true => some ⟨below + 1, e⟩
  | true, true =>
    match compare (2 * value) ((2 * below + 1) * point) with
    | .lt => some ⟨below, e⟩
    | .gt => some ⟨below + 1, e⟩
    | .eq => some ⟨tie.pick below, e⟩

def Digits.trim (d : Digits) : Digits :=
  if _h : d.digits % 10 = 0 ∧ d.digits ≠ 0 then Digits.trim ⟨d.digits / 10, d.exponent + 1⟩
  else d
termination_by d.digits
decreasing_by omega

/-- The digits of a finite number; zero is one digit. Seventeen digits always suffice. -/
def shortest (tie : Tie) (b : Binary) : Digits :=
  if b.mantissa = 0 then ⟨0, 0⟩
  else
    let top := magnitude b.num b.den
    match (List.range 17).findSome? fun (n : Nat) => onGrid tie b (top - n) with
    | some d => d.trim
    | none => ⟨0, 0⟩

end Intake.Decimal
