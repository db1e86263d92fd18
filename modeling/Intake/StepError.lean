import Intake.Text.Blank

/-!
Errors of sources, steps and collaborators: a message, and what led to it.
-/
namespace Intake

/-- The outermost message first, then the deeper causes. -/
structure StepError where
  message : String
  causes : List String
  /-- The calls that led to the error, if they were captured when it was made. -/
  backtrace : Option String
deriving DecidableEq

namespace StepError

def ofMessage (message : String) : StepError := ⟨message, [], none⟩

def messages (e : StepError) : List String := e.message :: e.causes

def text (e : StepError) : String := ": ".intercalate e.messages

def indented (s : String) : String := "\n    ".intercalate (s.splitOn "\n")

def chained (e : StepError) : String :=
  match e.causes with
  | [] => e.message
  | [c] => e.message ++ "\n\nCaused by:\n    " ++ indented c
  | cs =>
    e.message ++ "\n\nCaused by:" ++
      String.join (cs.zipIdx.map fun (c, i) => "\n    " ++ toString i ++ ": " ++ indented c)

/-- A captured backtrace stands under all of them, without the blank at its end. -/
def detailed (e : StepError) : String :=
  match e.backtrace with
  | none => e.chained
  | some calls => e.chained ++ "\n\nStack backtrace:\n" ++ Text.trimEnd calls

end StepError

inductive Payload where
  | text (s : String)
  | unreadable
deriving DecidableEq

def Payload.message : Payload → String
  | .text s => s
  | .unreadable => "unknown panic payload"

inductive Reply where
  | done
  | failed (error : StepError)
  | panicked (payload : Payload)
deriving DecidableEq

end Intake
