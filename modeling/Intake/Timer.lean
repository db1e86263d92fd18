import Intake.Error
import Intake.Log

/-!
The timer of progress reports. It is started at most once and stopped at most once. Its ticks come
from a thread of their own, and the surroundings need not grant it one.
-/
namespace Intake

inductive Timer.Phase where
  | idle
  | running
  | stopped
deriving DecidableEq

structure Timer where
  name : String
  interval : Duration
  phase : Timer.Phase
  /-- Why no thread can be spawned for the timer, if none can. -/
  spawnFault : Option String

namespace Timer

def create (name : String) (interval : Duration) (spawnFault : Option String) :
    Except TimerError Timer :=
  if interval.isZero then .error (.zeroInterval name) else .ok ⟨name, interval, .idle, spawnFault⟩

def isRunning (t : Timer) : Bool := t.phase == .running

/-- A timer that gets no thread stays idle. -/
def start (t : Timer) : Except TimerError Timer :=
  match t.phase, t.spawnFault with
  | .idle, none => .ok { t with phase := .running }
  | .idle, some reason => .error (.spawnFailed t.name reason)
  | .running, _ | .stopped, _ => .error (.alreadyStarted t.name)

/-- The timer once it is stopped, and whether that has stopped it while it ran. It is never started
again, even if it did not run. -/
def stop (t : Timer) : Timer × Bool := ({ t with phase := .stopped }, t.isRunning)

def intervalMillis (t : Timer) : Nat := t.interval.nanoseconds / 1000000 % Nat.pow 2 64

def startEntry (t : Timer) : Log.Entry :=
  ⟨.debug, "Timer started", [("timer", .text t.name), ("interval_ms", .count t.intervalMillis)]⟩

def stopEntry (t : Timer) : Log.Entry := ⟨.debug, "Timer stopped", [("timer", .text t.name)]⟩

def describe (t : Timer) : String :=
  Text.fields "RepeatedTimer" [("name", Text.quoted t.name), ("interval", t.interval.text),
    ("running", if t.isRunning then "true" else "false")] false

end Timer

end Intake
