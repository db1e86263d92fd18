/-!
Spans of time in nanoseconds, written in the largest unit of which they hold at least one.
-/
namespace Intake

structure Duration where
  nanoseconds : Nat
deriving DecidableEq

namespace Duration

def seconds (n : Nat) : Duration := ⟨n * 1000000000⟩

def milliseconds (n : Nat) : Duration := ⟨n * 1000000⟩

def isZero (d : Duration) : Bool := d.nanoseconds == 0

/-- The digits of `part` out of `10 ^ places`, without zeros at the end. -/
def decimals (places part : Nat) : String :=
  let ds := Nat.toDigits 10 part
  let ds := List.replicate (places - ds.length) '0' ++ ds
  match (ds.reverse.dropWhile (· == '0')).reverse with
  | [] => ""
  | ds => "." ++ String.ofList ds

def inUnit (n places : Nat) (unit : String) : String :=
  toString (n / Nat.pow 10 places) ++ decimals places (n % Nat.pow 10 places) ++ unit

def text (d : Duration) : String :=
  let n := d.nanoseconds
  if 1000000000 ≤ n then inUnit n 9 "s"
  else if 1000000 ≤ n then inUnit n 6 "ms"
  else if 1000 ≤ n then inUnit n 3 "µs"
  else toString n ++ "ns"

end Duration

end Intake
