/-!
Numbers from decimal text: a sign, digits with a point among them, and an exponent. The result is
the float nearest to what is written.
-/
namespace Intake.Decimal

def digitsOf (cs : List Char) : Nat :=
  cs.foldl (fun n c => n * 10 + (c.toNat - '0'.toNat)) 0

def exponentOf : List Char → Int
  | '-' :: cs => -(digitsOf cs : Int)
  | '+' :: cs => digitsOf cs
  | cs => digitsOf cs

def readUnsigned (cs : List Char) : Float :=
  let whole := cs.takeWhile Char.isDigit
  let rest := cs.dropWhile Char.isDigit
  let (fraction, rest) :=
    match rest with
    | '.' :: r => (r.takeWhile Char.isDigit, r.dropWhile Char.isDigit)
    | _ => ([], rest)
  let scale := exponentOf (rest.drop 1) - fraction.length
  Float.ofScientific (digitsOf (whole ++ fraction)) (decide (scale < 0)) scale.natAbs

def read (s : String) : Float :=
  if s == "NaN" then 0.0 / 0.0
  else if s == "inf" then 1.0 / 0.0
  else if s == "-inf" then -1.0 / 0.0
  else
    match s.toList with
    | '-' :: cs => -(readUnsigned cs)
    | '+' :: cs => readUnsigned cs
    | cs => readUnsigned cs

end Intake.Decimal
