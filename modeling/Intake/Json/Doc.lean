import Intake.Json.Token

/-!
JSON text as it stands: members in their order, repeated names kept, and each fault of the text at
the place where a reader would come upon it. Whether a fault matters depends on who reads.
-/
namespace Intake.Json

/-- Where a list or an object stops: at its bracket, or before it, with the fault that a reader of
what is inside or one that skips it finds. -/
inductive Ending where
  | closed
  | cut (read skipped : Fault)

inductive Doc where
  | scalar (r : Reading Scalar)
  | text (r : Reading String)
  | list (items : List Doc) (ending : Ending)
  | object (members : List (Reading String × Doc)) (ending : Ending)
  | absent (fault : Fault)

namespace Doc

/-- A container that is not yet closed. What is inside stands last one first. -/
inductive Frame where
  | list (items : List Doc)
  | object (members : List (Reading String × Doc)) (name : Reading String)

def Frame.add (d : Doc) : Frame → Frame
  | .list items => .list (d :: items)
  | .object members name => .object ((name, d) :: members) name

def Frame.close (ending : Ending) : Frame → Doc
  | .list items => .list items.reverse ending
  | .object members _ => .object members.reverse ending

/-- The whole document when nothing after `d` can be reached. -/
def abandon (d : Doc) : List Frame → Doc
  | [] => d
  | f :: frames => abandon ((f.add d).close .closed) frames

inductive Due where
  | value
  | firstItem
  | item
  | firstName
  | name
  | colon
  | more

/-- Where the text stands: containers from the innermost outwards. -/
structure Place where
  due : Due
  frames : List Frame

inductive Step where
  | done (d : Doc)
  | abandoned (d : Doc)
  | go (p : Place)

def settle (d : Doc) : List Frame → Step
  | [] => .done d
  | f :: frames => .go ⟨.more, f.add d :: frames⟩

def cutAll (read skipped : Fault) : List Frame → Step
  | [] => .abandoned (.absent read)
  | f :: frames => .abandoned (abandon (f.close (.cut read skipped)) frames)

def stopWith (d : Doc) (frames : List Frame) : Step :=
  .abandoned (abandon d frames)

def onValue (frames : List Frame) : Token → Step
  | .scalar r => if r.skipped.isNone then settle (.scalar r) frames else stopWith (.scalar r) frames
  | .text r => if r.skipped.isNone then settle (.text r) frames else stopWith (.text r) frames
  | .openList => .go ⟨.firstItem, .list [] :: frames⟩
  | .openObject => .go ⟨.firstName, .object [] ⟨.ok "", none⟩ :: frames⟩
  | _ => stopWith (.absent .noValue) frames

def onName (r : Reading String) : List Frame → Step
  | .object members _ :: frames =>
    match r.skipped, r.value with
    | none, _ => .go ⟨.colon, .object members r :: frames⟩
    | some f, .error g => cutAll g f (.object members r :: frames)
    | some f, .ok _ => cutAll f f (.object members r :: frames)
  | frames => stopWith (.absent .noValue) frames

def closeTop : List Frame → Step
  | [] => .abandoned (.absent .noValue)
  | f :: frames => settle (f.close .closed) frames

def step (p : Place) (t : Token) : Step :=
  match p.due, t with
  | .value, t => onValue p.frames t
  | .firstItem, .closeList => closeTop p.frames
  | .firstItem, t => onValue p.frames t
  | .item, .closeList => cutAll .commaAtEnd .noValue p.frames
  | .item, t => onValue p.frames t
  | .firstName, .closeObject => closeTop p.frames
  | .firstName, .text r => onName r p.frames
  | .firstName, _ => cutAll .nameNotText .nameNotText p.frames
  | .name, .closeObject => cutAll .commaAtEnd .nameNotText p.frames
  | .name, .text r => onName r p.frames
  | .name, _ => cutAll .nameNotText .nameNotText p.frames
  | .colon, .colon => .go ⟨.value, p.frames⟩
  | .colon, _ => stopWith (.absent .noColon) p.frames
  | .more, t =>
    match p.frames, t with
    | .list _ :: _, .comma => .go ⟨.item, p.frames⟩
    | .list _ :: _, .closeList => closeTop p.frames
    | .list _ :: _, _ => cutAll .noCommaInList .noCommaInList p.frames
    | .object _ _ :: _, .comma => .go ⟨.name, p.frames⟩
    | .object _ _ :: _, .closeObject => closeTop p.frames
    | frames, _ => cutAll .noCommaInObject .noCommaInObject frames

def atEnd (p : Place) : Step :=
  match p.due with
  | .value | .item => stopWith (.absent .endInValue) p.frames
  | .firstItem => cutAll .endInList .endInList p.frames
  | .firstName => cutAll .endInObject .endInObject p.frames
  | .name => cutAll .endInValue .endInObject p.frames
  | .colon => stopWith (.absent .endInObject) p.frames
  | .more =>
    match p.frames with
    | .list _ :: _ => cutAll .endInList .endInList p.frames
    | frames => cutAll .endInObject .endInObject frames

structure Whole where
  doc : Doc
  trailing : Bool

def Step.finish : Step → Whole
  | .done d => ⟨d, false⟩
  | .abandoned d => ⟨d, false⟩
  | .go _ => ⟨.absent .endInValue, false⟩

def build (p : Place) : List Token → Whole
  | [] => (atEnd p).finish
  | t :: rest =>
    match step p t with
    | .done d => ⟨d, !rest.isEmpty⟩
    | .abandoned d => ⟨d, false⟩
    | .go p => build p rest

def ofText (s : String) : Whole :=
  build ⟨.value, []⟩ (tokens s)

mutual

def ofJson : Json → Doc
  | .null => .scalar ⟨.ok .null, none⟩
  | .bool b => .scalar ⟨.ok (.bool b), none⟩
  | .number n => .scalar ⟨.ok (.number n), none⟩
  | .text s => .text ⟨.ok s, none⟩
  | .list items => .list (ofItems items) .closed
  | .object members => .object (ofMembers members) .closed

def ofItems : List Json → List Doc
  | [] => []
  | v :: rest => ofJson v :: ofItems rest

def ofMembers : List (String × Json) → List (Reading String × Doc)
  | [] => []
  | (n, v) :: rest => (⟨.ok n, none⟩, ofJson v) :: ofMembers rest

end

end Doc

end Intake.Json
