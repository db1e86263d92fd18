/-!
Free-form JSON data. Numbers keep the difference between integers and floating point numbers, and
the members of an object keep their order; `Json.normal` is the form in which they are sorted and
no name repeats.
-/
namespace Intake

inductive Json.Number where
  | integer (n : Int)
  | real (x : Float)

inductive Json where
  | null
  | bool (b : Bool)
  | number (n : Json.Number)
  | text (s : String)
  | list (items : List Json)
  | object (members : List (String × Json))

namespace Json

instance : Inhabited Json := ⟨.null⟩

def nat (n : Nat) : Json := .number (.integer n)

/-- A number that is not finite has no JSON form and becomes null. -/
def real (x : Float) : Json :=
  if x.isFinite then .number (.real x) else .null

def given (name : String) : Option Json → List (String × Json)
  | some v => [(name, v)]
  | none => []

def get? (name : String) : Json → Option Json
  | .object members => members.lookup name
  | _ => none

def text? : Json → Option String
  | .text s => some s
  | _ => none

/-- Members in the order of their names, where a new value replaces the one of the same name. -/
def put (name : String) (value : Json) : List (String × Json) → List (String × Json)
  | [] => [(name, value)]
  | (n, v) :: rest =>
    if name < n then (name, value) :: (n, v) :: rest
    else if name = n then (name, value) :: rest
    else (n, v) :: put name value rest

def sorted (members : List (String × Json)) : List (String × Json) :=
  members.foldl (fun found m => put m.1 m.2 found) []

mutual

/-- Members sorted by name at every depth; of equal names the last one stays. -/
def normal : Json → Json
  | .null => .null
  | .bool b => .bool b
  | .number n => .number n
  | .text s => .text s
  | .list items => .list (normalItems items)
  | .object members => .object (sorted (normalMembers members))

def normalItems : List Json → List Json
  | [] => []
  | v :: rest => normal v :: normalItems rest

def normalMembers : List (String × Json) → List (String × Json)
  | [] => []
  | (n, v) :: rest => (n, normal v) :: normalMembers rest

end

end Json

end Intake
