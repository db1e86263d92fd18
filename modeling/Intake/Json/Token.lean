import Intake.Json.Literal

/-!
The tokens of a JSON text. A token is kept in two ways: what it means to a reader that wants its
value, and what it means to one that only passes over it, which is content with less.
-/
namespace Intake.Json

/-- What a reader of the value gets, and where a reader that skips it stops. Text that cannot even
be skipped ends there. -/
structure Reading (α : Type) where
  value : Except Fault α
  skipped : Option Fault

inductive Scalar where
  | null
  | bool (b : Bool)
  | number (n : Number)

inductive Token where
  | openList
  | closeList
  | openObject
  | closeObject
  | colon
  | comma
  | scalar (r : Reading Scalar)
  | text (r : Reading String)
  | stray

inductive TextPart where
  | plain
  | escape
  /-- `count` digits of a code unit are read; `high` is the surrogate before it. -/
  | unit (high : Option Nat) (count value : Nat)
  | afterHigh (high : Nat)
  | escapeAfterHigh (high : Nat)

/-- A text being read: the characters so far, last one first, or the first fault. -/
structure TextState where
  chars : Except Fault (List Char)
  part : TextPart

inductive NumberPart where
  | sign
  | zero
  | whole
  | point
  | fraction
  | mark
  | markSign
  | exponent

/-- A number being read; its digits stand last one first. -/
structure NumberState where
  part : NumberPart
  literal : Literal

inductive Scan where
  | between
  | text (s : TextState)
  | number (s : NumberState)
  | word (left : List Char) (meaning : Scalar)

structure Move where
  tokens : List Token
  next : Option Scan

def Move.go (s : Scan) : Move := ⟨[], some s⟩

def Move.emit (t : Token) : Move := ⟨[t], some .between⟩

def Move.stop (t : Token) : Move := ⟨[t], none⟩

def Reading.ended (α : Type) (f : Fault) : Reading α := ⟨.error f, some f⟩

def isGap (c : Char) : Bool :=
  c == ' ' || c == '\n' || c == '\t' || c == '\r'

def digit? (c : Char) : Option Nat :=
  if '0' ≤ c && c ≤ '9' then some (c.toNat - 48) else none

def hexDigit? (c : Char) : Option Nat :=
  if '0' ≤ c && c ≤ '9' then some (c.toNat - 48)
  else if 'a' ≤ c && c ≤ 'f' then some (c.toNat - 87)
  else if 'A' ≤ c && c ≤ 'F' then some (c.toNat - 55)
  else none

def NumberState.push (s : NumberState) (part : NumberPart) (d : Nat) : NumberState :=
  let l := s.literal
  match part, l.exponent with
  | .exponent, some (down, ds) => ⟨part, { l with exponent := some (down, d :: ds) }⟩
  | .fraction, _ => ⟨part, { l with fraction := d :: l.fraction }⟩
  | _, _ => ⟨part, { l with whole := d :: l.whole }⟩

def NumberState.start (negative : Bool) : NumberState :=
  ⟨.sign, ⟨negative, [], [], none, true⟩⟩

def NumberState.first (s : NumberState) (d : Nat) : NumberState :=
  s.push (if d = 0 then .zero else .whole) d

def NumberState.mark (s : NumberState) : NumberState :=
  ⟨.mark, { s.literal with exponent := some (false, []), plain := false }⟩

def NumberState.finish (s : NumberState) : Token :=
  let l := s.literal
  let l : Literal := { l with
    whole := l.whole.reverse
    fraction := l.fraction.reverse
    exponent := l.exponent.map fun (down, ds) => (down, ds.reverse) }
  .scalar ⟨l.number.map .number, none⟩

def NumberState.isOpen (s : NumberState) : Bool :=
  match s.part with
  | .sign | .point | .mark | .markSign => true
  | _ => false

def NumberState.extend (s : NumberState) (c : Char) : Option NumberState :=
  match s.part, digit? c with
  | .sign, some d => some (s.first d)
  | .whole, some d => some (s.push .whole d)
  | .point, some d => some (s.push .fraction d)
  | .fraction, some d => some (s.push .fraction d)
  | .mark, some d => some (s.push .exponent d)
  | .markSign, some d => some (s.push .exponent d)
  | .exponent, some d => some (s.push .exponent d)
  | .zero, none | .whole, none =>
    if c == '.' then some ⟨.point, { s.literal with plain := false }⟩
    else if c == 'e' || c == 'E' then some s.mark
    else none
  | .fraction, none => if c == 'e' || c == 'E' then some s.mark else none
  | .mark, none =>
    if c == '+' then some { s with part := .markSign }
    else if c == '-' then
      some ⟨.markSign, { s.literal with exponent := some (true, []) }⟩
    else none
  | _, _ => none

def begin (c : Char) : Move :=
  if isGap c then .go .between
  else match c with
    | '[' => .emit .openList
    | ']' => .emit .closeList
    | '\x7b' => .emit .openObject
    | '\x7d' => .emit .closeObject
    | ':' => .emit .colon
    | ',' => .emit .comma
    | '"' => .go (.text ⟨.ok [], .plain⟩)
    | 'n' => .go (.word ['u', 'l', 'l'] .null)
    | 't' => .go (.word ['r', 'u', 'e'] (.bool true))
    | 'f' => .go (.word ['a', 'l', 's', 'e'] (.bool false))
    | '-' => .go (.number (.start true))
    | _ =>
      match digit? c with
      | some d => .go (.number ((NumberState.start false).first d))
      | none => .stop .stray

/-- A fault that only matters to a reader of the value: the first one stays. -/
def TextState.note (s : TextState) (f : Fault) : TextState :=
  { s with chars := s.chars.bind fun _ => .error f }

def TextState.add (s : TextState) (c : Char) : TextState :=
  ⟨s.chars.map (c :: ·), .plain⟩

def TextState.broken (s : TextState) (f : Fault) : Token :=
  .text ⟨(s.note f).chars.map fun _ => "", some f⟩

def TextState.finish (s : TextState) : Token :=
  .text ⟨s.chars.map fun cs => String.ofList cs.reverse, none⟩

def TextState.escaped (s : TextState) (c : Char) : Move :=
  match c with
  | '"' => .go (.text (s.add '"'))
  | '\\' => .go (.text (s.add '\\'))
  | '/' => .go (.text (s.add '/'))
  | 'b' => .go (.text (s.add '\x08'))
  | 'f' => .go (.text (s.add '\x0c'))
  | 'n' => .go (.text (s.add '\n'))
  | 'r' => .go (.text (s.add '\r'))
  | 't' => .go (.text (s.add '\t'))
  | 'u' => .go (.text { s with part := .unit none 0 0 })
  | _ => .stop (s.broken .badEscape)

def TextState.plainChar (s : TextState) (c : Char) : Move :=
  match c with
  | '"' => ⟨[s.finish], some .between⟩
  | '\\' => .go (.text { s with part := .escape })
  | _ =>
    if c.toNat < 32 then .stop (s.broken .controlCharacter) else .go (.text (s.add c))

/-- A code unit is complete; a high surrogate waits for the low one. -/
def TextState.codeUnit (s : TextState) (high : Option Nat) (n : Nat) : TextState :=
  match high with
  | none =>
    if 0xDC00 ≤ n && n ≤ 0xDFFF then { s.note .surrogateAlone with part := .plain }
    else if 0xD800 ≤ n && n ≤ 0xDBFF then { s with part := .afterHigh n }
    else s.add (Char.ofNat n)
  | some h =>
    if 0xDC00 ≤ n && n ≤ 0xDFFF then
      s.add (Char.ofNat ((h - 0xD800) * 0x400 + (n - 0xDC00) + 0x10000))
    else { s.note .surrogateAlone with part := .plain }

def bytesOf (cs : List Char) : Nat :=
  cs.foldl (fun n c => n + c.utf8Size) 0

def TextState.step (s : TextState) (c : Char) (rest : List Char) : Move :=
  match s.part with
  | .plain => s.plainChar c
  | .escape => s.escaped c
  | .unit high count value =>
    match hexDigit? c with
    | some d =>
      if count = 3 then .go (.text (s.codeUnit high (value * 16 + d)))
      else .go (.text { s with part := .unit high (count + 1) (value * 16 + d) })
    | none =>
      -- four bytes are taken before any of them is looked at
      if count + bytesOf (c :: rest.take 3) < 4 then .stop (s.broken .endInText)
      else .stop (s.broken .badEscape)
  | .afterHigh high =>
    if c == '\\' then .go (.text { s with part := .escapeAfterHigh high })
    else (s.note .surrogateCut).plainChar c
  | .escapeAfterHigh high =>
    if c == 'u' then .go (.text { s with part := .unit (some high) 0 0 })
    else (s.note .surrogateCut).escaped c

def Scan.step (c : Char) (rest : List Char) : Scan → Move
  | .between => begin c
  | .text s => s.step c rest
  | .number s =>
    match s.extend c with
    | some s => .go (.number s)
    | none =>
      if s.isOpen || (match s.part with | .zero => (digit? c).isSome | _ => false) then
        .stop (.scalar (.ended Scalar .badNumber))
      else
        let m := begin c
        ⟨s.finish :: m.tokens, m.next⟩
  | .word left meaning =>
    match left with
    | [] => .stop .stray
    | l :: left =>
      if c != l then .stop (.scalar (.ended Scalar .badWord))
      else if left.isEmpty then .emit (.scalar ⟨.ok meaning, none⟩)
      else .go (.word left meaning)

def Scan.atEnd : Scan → List Token
  | .between => []
  | .text s => [s.broken .endInText]
  | .number s =>
    if s.isOpen then [.scalar ⟨.error .endInValue, some .badNumber⟩] else [s.finish]
  | .word _ _ => [.scalar (.ended Scalar .endInValue)]

def scan : Scan → List Char → List Token
  | s, [] => s.atEnd
  | s, c :: cs =>
    let m := s.step c cs
    match m.next with
    | some s => m.tokens ++ scan s cs
    | none => m.tokens

/-- The tokens of a text up to the first place that cannot be passed over. -/
def tokens (s : String) : List Token :=
  scan .between s.toList

end Intake.Json
