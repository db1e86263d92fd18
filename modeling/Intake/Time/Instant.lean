import Intake.Text.Blank

/-!
Moments in coordinated universal time, and their text as RFC 3339 has it. Reading allows blanks
around the parts of the date and of the time, and any offset; writing always gives universal time.
-/
namespace Intake

/-- Seconds since the start of 1970, and nanoseconds, of which a leap second has a second more. -/
structure Instant where
  seconds : Int
  nanos : Nat
deriving DecidableEq

namespace Instant

def epoch : Instant := ⟨0, 0⟩

def toSeconds (t : Instant) : Float :=
  Float.ofInt t.seconds + Float.ofNat t.nanos / 1.0e9

inductive Fault where
  | invalid
  | short
  | long
  | range
  /-- The moment itself lies outside the range of dates, though its local date does not. -/
  | impossible

def Fault.message : Fault → String
  | .invalid => "input contains invalid characters"
  | .short => "premature end of input"
  | .long => "trailing input"
  | .range => "input is out of range"
  | .impossible => "no possible date and time matching input"

def isLeap (year : Int) : Bool :=
  year % 4 == 0 && (year % 100 != 0 || year % 400 == 0)

def daysIn (year : Int) (month : Nat) : Nat :=
  match month with
  | 2 => if isLeap year then 29 else 28
  | 4 | 6 | 9 | 11 => 30
  | _ => 31

/-- Days from the start of 1970. The year is counted from March, so that a leap day is its last. -/
def daysFromCivil (year : Int) (month day : Nat) : Int :=
  let y := if month ≤ 2 then year - 1 else year
  let era := y.fdiv 400
  let yearOfEra := y - era * 400
  let fromMarch : Int := if month ≤ 2 then month + 9 else month - 3
  let dayOfYear := (153 * fromMarch + 2) / 5 + day - 1
  let dayOfEra := yearOfEra * 365 + yearOfEra / 4 - yearOfEra / 100 + dayOfYear
  era * 146097 + dayOfEra - 719468

def civilFromDays (days : Int) : Int × Nat × Nat :=
  let z := days + 719468
  let era := z.fdiv 146097
  let dayOfEra := z - era * 146097
  let yearOfEra := (dayOfEra - dayOfEra / 1460 + dayOfEra / 36524 - dayOfEra / 146096) / 365
  let dayOfYear := dayOfEra - (365 * yearOfEra + yearOfEra / 4 - yearOfEra / 100)
  let fromMarch := (5 * dayOfYear + 2) / 153
  let day := dayOfYear - (153 * fromMarch + 2) / 5 + 1
  let month := if fromMarch < 10 then fromMarch + 3 else fromMarch - 9
  let year := yearOfEra + era * 400 + (if month ≤ 2 then 1 else 0)
  (year, month.toNat, day.toNat)

def firstYear : Int := -262143

def lastYear : Int := 262142

def firstSecond : Int := daysFromCivil firstYear 1 1 * 86400

def lastSecond : Int := daysFromCivil (lastYear + 1) 1 1 * 86400 - 1

abbrev Reader (α : Type) := List Char → Except Fault (α × List Char)

def isDigit (c : Char) : Bool := '0' ≤ c && c ≤ '9'

def valueOf (ds : List Char) : Nat :=
  ds.foldl (fun n c => n * 10 + (c.toNat - 48)) 0

/-- One digit or more, up to `most`; the value has to fit in sixty-three bits. -/
def number (most : Option Nat) : Reader Nat := fun cs =>
  let all := cs.takeWhile isDigit
  let ds := match most with
    | some m => all.take m
    | none => all
  match ds, cs with
  | [], [] => .error .short
  | [], _ => .error .invalid
  | ds, cs =>
    let n := valueOf ds
    if n < Nat.pow 2 63 then .ok (n, cs.drop ds.length) else .error .range

def skipBlanks (cs : List Char) : List Char := cs.dropWhile Text.isBlank

def mark (c : Char) : Reader Unit
  | [] => .error .short
  | d :: cs => if d = c then .ok ((), cs) else .error .invalid

def part (least greatest : Nat) : Reader Nat := fun cs => do
  let (n, cs) ← number (some 2) (skipBlanks cs)
  if least ≤ n && n ≤ greatest then .ok (n, cs) else .error .range

def year : Reader Int := fun cs => do
  let (y, cs) ← (match skipBlanks cs with
    | '-' :: cs => do
      let (n, cs) ← number none cs
      .ok (-(n : Int), cs)
    | '+' :: cs => do
      let (n, cs) ← number none cs
      .ok ((n : Int), cs)
    | cs => do
      let (n, cs) ← number (some 4) cs
      .ok ((n : Int), cs))
  if -2147483648 ≤ y && y < 2147483648 then .ok (y, cs) else .error .range

def fraction : Reader Nat
  | '.' :: cs => do
    let (n, rest) ← number (some 9) cs
    let used := cs.length - rest.length
    .ok (n * Nat.pow 10 (9 - used), rest.dropWhile isDigit)
  | cs => .ok (0, cs)

/-- Two digits of an offset, of which the first is at most `first`. -/
def twoDigits (first : Char) : Reader Nat
  | a :: b :: cs =>
    if isDigit a && isDigit b then
      if a ≤ first then .ok (valueOf [a, b], cs) else .error .range
    else .error .invalid
  | [a] => .error (if a.utf8Size < 2 then .short else .invalid)
  | [] => .error .short

/-- Seconds east of Greenwich. -/
def offset : Reader Int
  | 'Z' :: cs | 'z' :: cs => .ok (0, cs)
  | c :: cs => do
    if ([c] ++ cs.take 2).map Char.toLower = ['u', 't', 'c'] then .ok (0, cs.drop 2)
    else
      let sign : Int ← match c with
        | '+' => .ok 1
        | '-' | '−' => .ok (-1)
        | _ => .error .invalid
      let (hours, cs) ← twoDigits '9' cs
      let cs := cs.dropWhile fun c => c = ':' || Text.isBlank c
      let (minutes, cs) ← twoDigits '5' cs
      .ok (sign * ((hours : Int) * 3600 + (minutes : Int) * 60), cs)
  | [] => .error .short

def separator : Reader Unit
  | 't' :: cs | 'T' :: cs | ' ' :: cs => .ok ((), cs)
  | [] => .error .short
  | _ => .error .invalid

def parseChars (cs : List Char) : Except Fault Instant := do
  let (y, cs) ← year cs
  let ((), cs) ← mark '-' (skipBlanks cs)
  let (month, cs) ← part 1 12 cs
  let ((), cs) ← mark '-' (skipBlanks cs)
  let (day, cs) ← part 1 31 cs
  let ((), cs) ← separator cs
  let (hour, cs) ← part 0 23 cs
  let ((), cs) ← mark ':' (skipBlanks cs)
  let (minute, cs) ← part 0 59 cs
  let ((), cs) ← mark ':' (skipBlanks cs)
  let (second, cs) ← part 0 60 cs
  let (nanos, cs) ← fraction cs
  let (shift, cs) ← offset (skipBlanks cs)
  if !(skipBlanks cs).isEmpty then .error .long
  if !(firstYear ≤ y && y ≤ lastYear && day ≤ daysIn y month) then .error .range
  if !(-86400 < shift && shift < 86400) then .error .range
  let leap := second = 60
  let time : Int := hour * 3600 + minute * 60 + (if leap then 59 else second : Nat)
  let seconds := daysFromCivil y month day * 86400 + time - shift
  if !(firstSecond ≤ seconds && seconds ≤ lastSecond) then .error .impossible
  return ⟨seconds, if leap then nanos + 1000000000 else nanos⟩

def parse (s : String) : Except Fault Instant :=
  parseChars s.toList

def padded (width n : Nat) : String :=
  let ds := Nat.toDigits 10 n
  String.ofList (List.replicate (width - ds.length) '0' ++ ds)

def yearText (y : Int) : String :=
  if 0 ≤ y && y ≤ 9999 then padded 4 y.toNat
  else (if y < 0 then "-" else "+") ++ padded 4 y.natAbs

/-- Nothing, or as many groups of three digits as the fraction needs. -/
def fractionText (nanos : Nat) : String :=
  if nanos = 0 then ""
  else if nanos % 1000000 = 0 then "." ++ padded 3 (nanos / 1000000)
  else if nanos % 1000 = 0 then "." ++ padded 6 (nanos / 1000)
  else "." ++ padded 9 nanos

def text (t : Instant) : String :=
  let days := t.seconds.fdiv 86400
  let time := (t.seconds - days * 86400).toNat
  let (y, month, day) := civilFromDays days
  let leap := 1000000000 ≤ t.nanos
  let second := time % 60 + (if leap then 1 else 0)
  yearText y ++ "-" ++ padded 2 month ++ "-" ++ padded 2 day ++ "T" ++
    padded 2 (time / 3600) ++ ":" ++ padded 2 (time / 60 % 60) ++ ":" ++ padded 2 second ++
    fractionText (if leap then t.nanos - 1000000000 else t.nanos) ++ "Z"

end Instant

end Intake
