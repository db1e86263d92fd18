import Intake.Decimal.Layout
import Intake.Json.Basic
import Intake.Text.Quoted

/-!
JSON data as text without blanks.
-/
namespace Intake.Json

def escaped (c : Char) : List Char :=
  match c with
  | '"' => ['\\', '"']
  | '\\' => ['\\', '\\']
  | '\n' => ['\\', 'n']
  | '\r' => ['\\', 'r']
  | '\t' => ['\\', 't']
  | '\x08' => ['\\', 'b']
  | '\x0c' => ['\\', 'f']
  | _ => if c.toNat < 32 then ['\\', 'u'] ++ Text.hexDigits 4 c.toNat else [c]

def printText (s : String) : String :=
  String.ofList ('"' :: s.toList.flatMap escaped ++ ['"'])

def Number.print : Number → String
  | .integer n => toString n
  | .real x => Decimal.data.write x

mutual

def print : Json → String
  | .null => "null"
  | .bool b => if b then "true" else "false"
  | .number n => n.print
  | .text s => printText s
  | .list items => "[" ++ ",".intercalate (printItems items) ++ "]"
  | .object members => "\x7b" ++ ",".intercalate (printMembers members) ++ "\x7d"

def printItems : List Json → List String
  | [] => []
  | v :: rest => print v :: printItems rest

def printMembers : List (String × Json) → List String
  | [] => []
  | (n, v) :: rest => (printText n ++ ":" ++ print v) :: printMembers rest

end

end Intake.Json
