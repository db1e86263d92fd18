import Intake.Text.Quoted

/-!
Identifiers of 128 bits. They are read in four forms, of any case: thirty-two digits; the same in
five groups; the groups in braces; the groups as a URN. They are written in groups of small digits.
-/
namespace Intake

structure Uuid where
  value : BitVec 128
deriving DecidableEq

namespace Uuid

def zero : Uuid := ⟨0⟩

inductive Fault where
  | character (c : Char) (index : Nat)
  | textLength (bytes : Nat)
  | groupCount (count : Nat)
  | groupLength (group expected length : Nat)

def Fault.message : Fault → String
  | .character c index =>
    "invalid character: found `" ++ c.toString ++ "` at " ++ toString index
  | .textLength bytes => "invalid length: found " ++ toString bytes
  | .groupCount count => "invalid group count: expected 5, found " ++ toString count
  | .groupLength group expected length =>
    "invalid group length in group " ++ toString group ++ ": expected " ++ toString expected ++
      ", found " ++ toString length

def digit? (c : Char) : Option Nat :=
  if '0' ≤ c && c ≤ '9' then some (c.toNat - 48)
  else if 'a' ≤ c && c ≤ 'f' then some (c.toNat - 87)
  else if 'A' ≤ c && c ≤ 'F' then some (c.toNat - 55)
  else none

def ofDigits (cs : List Char) : Option Uuid := do
  let ds ← cs.mapM digit?
  if ds.length = 32 then some ⟨BitVec.ofNat 128 (ds.foldl (fun n d => n * 16 + d) 0)⟩ else none

def pieces {α : Type} : List Nat → List α → List (List α)
  | [], xs => [xs]
  | n :: ns, xs => xs.take n :: pieces ns (xs.drop n)

def ofGroups (cs : List Char) : Option Uuid :=
  match pieces [8, 1, 4, 1, 4, 1, 4, 1] cs with
  | [a, ['-'], b, ['-'], c, ['-'], d, ['-'], e] => ofDigits (a ++ b ++ c ++ d ++ e)
  | _ => none

def urn : List Char := "urn:uuid:".toList

/-- What is left of a text without braces or the prefix of a URN, if it has either, and how much was
before it. -/
def unwrap? (cs : List Char) : Option (List Char × Nat) :=
  if cs.head? = some '\x7b' && cs.getLast? = some '\x7d' && 2 ≤ cs.length then
    some ((cs.drop 1).dropLast, 1)
  else if (cs.take 9).map Char.toLower = urn then some (cs.drop 9, 9)
  else none

def parse? (cs : List Char) : Option Uuid :=
  match unwrap? cs with
  | some (inner, _) => ofGroups inner
  | none => if cs.length = 32 then ofDigits cs else ofGroups cs

/-- The first character that is neither a digit nor a hyphen, with its place in bytes. -/
def strange (index : Nat) : List Char → Option (Char × Nat)
  | [] => none
  | c :: cs =>
    if c = '-' || (digit? c).isSome then strange (index + c.utf8Size) cs else some (c, index)

def hyphens (index : Nat) : List Char → List Nat
  | [] => []
  | c :: cs => if c = '-' then index :: hyphens (index + 1) cs else hyphens (index + 1) cs

/-- Each group with its number, its right length, and the place where it starts. -/
def groups : List (Nat × Nat × Nat) := [(0, 8, 0), (1, 4, 9), (2, 4, 14), (3, 4, 19)]

/-- What is wrong with the digits and hyphens of a text of the given size, when so much of it was
before them. Unless they have to be in groups, digits without hyphens are taken for thirty-two of
which some are missing or too many. What is not in the first four groups is in the last one. -/
def explainDigits (grouped : Bool) (before size : Nat) (cs : List Char) : Fault :=
  match strange before cs with
  | some (c, index) => .character c index
  | none =>
    let marks := hyphens 0 cs
    if marks.isEmpty && !grouped then .textLength size
    else if marks.length ≠ 4 then .groupCount (marks.length + 1)
    else
      match (groups.zip marks).find? fun ((_, size, start), mark) => mark ≠ start + size with
      | some ((group, size, start), mark) => .groupLength group size (mark - start)
      | none => .groupLength 4 12 (size - 24)

def longest : Nat := 45

def groupsSize : Nat := 36

/-- Why a text that is not an identifier is refused. A text longer than every form is not looked into.
One of the size of the groups is taken for them, even if it starts with a brace. What has this size
between braces or after a prefix is a text of its own; for other sizes, places are those in the
whole text. -/
def explain (s : String) : Fault :=
  let size := s.utf8ByteSize
  if longest < size then .textLength size
  else if size = groupsSize then explainDigits true 0 size s.toList
  else
    match unwrap? s.toList with
    | some (inner, before) =>
      if (String.ofList inner).utf8ByteSize = groupsSize then explainDigits true 0 groupsSize inner
      else explainDigits true before size inner
    | none => explainDigits false 0 size s.toList

def parse (s : String) : Except Fault Uuid :=
  match parse? s.toList with
  | some u => .ok u
  | none => .error (explain s)

def text (u : Uuid) : String :=
  let ds := Text.hexDigits 32 u.value.toNat
  String.ofList ("-".toList.intercalate (pieces [8, 4, 4, 4] ds))

end Uuid

end Intake
