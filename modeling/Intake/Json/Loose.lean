import Intake.Decimal.Read
import Intake.Json.Record

/-!
Looking into data whose shape is known. What is missing or of another type counts as empty.
-/
namespace Intake.Json

def string (v : Json) : String := v.text?.getD ""

def count : Json → Nat
  | .number (.integer n) => n.toNat
  | _ => 0

def float : Json → Float
  | .number (.integer n) => Float.ofInt n
  | .number (.real x) => x
  | .text s => Decimal.read s
  | _ => 0.0

def readAs {α : Type} (dec : Decoder α) (fallback : α) (v : Json) : α :=
  (decodeData dec v).toOption.getD fallback

def isTrue : Json → Bool
  | .bool b => b
  | _ => false

def items : Json → List Json
  | .list vs => vs
  | _ => []

def members : Json → List (String × Json)
  | .object ms => ms
  | _ => []

def has (name : String) (v : Json) : Bool := (v.get? name).isSome

def valueOf (name : String) (v : Json) : Json := (v.get? name).getD .null

def stringOf (name : String) (v : Json) : String := (v.valueOf name).string

def countOf (name : String) (v : Json) : Nat := (v.valueOf name).count

def itemsOf (name : String) (v : Json) : List Json := (v.valueOf name).items

def item? (i : Nat) (v : Json) : Option Json := v.items[i]?

def stringAt (i : Nat) (v : Json) : String := ((v.item? i).getD .null).string

def countAt (i : Nat) (v : Json) : Nat := ((v.item? i).getD .null).count

end Intake.Json
