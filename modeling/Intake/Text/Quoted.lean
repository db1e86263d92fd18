import Intake.Text.Shown

/-!
Text between quotation marks, with every character that would not be seen written by name or by
number, and the bracketed forms that hold such texts.
-/
namespace Intake.Text

def hexDigit (n : Nat) : Char :=
  if n < 10 then Char.ofNat (48 + n) else Char.ofNat (87 + n)

def hexDigits : Nat → Nat → List Char
  | 0, _ => []
  | count + 1, n => hexDigits count (n / 16) ++ [hexDigit (n % 16)]

/-- Base sixteen in small letters without leading zeros; eight digits hold every code point. -/
def hex (n : Nat) : List Char :=
  match (hexDigits 8 n).dropWhile (· == '0') with
  | [] => ['0']
  | cs => cs

def quotedChar (c : Char) : List Char :=
  match c with
  | '"' => ['\\', '"']
  | '\\' => ['\\', '\\']
  | '\n' => ['\\', 'n']
  | '\r' => ['\\', 'r']
  | '\t' => ['\\', 't']
  | _ =>
    if c.toNat = 0 then ['\\', '0']
    else if (32 ≤ c.toNat && c.toNat < 127) || isShown c then [c]
    else ['\\', 'u', '\x7b'] ++ hex c.toNat ++ ['\x7d']

def quoted (s : String) : String :=
  String.ofList ('"' :: s.toList.flatMap quotedChar ++ ['"'])

def bracketed (xs : List String) : String :=
  "[" ++ ", ".intercalate xs ++ "]"

def quotedOption : Option String → String
  | some s => "Some(" ++ quoted s ++ ")"
  | none => "None"

/-- A named list of fields; `hidden` says that there are fields that are not shown. -/
def fields (name : String) (shown : List (String × String)) (hidden : Bool) : String :=
  name ++ " \x7b " ++ ", ".intercalate (shown.map fun f => f.1 ++ ": " ++ f.2) ++
    (if hidden then ", .. \x7d" else " \x7d")

end Intake.Text
