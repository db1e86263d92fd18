import Intake.Pipeline.Source
import Intake.Run.Route

/-!
Draining a source: its items are drawn and routed one by one, until it stops.
-/
namespace Intake

/-- The state of the source and of the stations between two pulls. -/
structure Progress (ρ : Type) where
  source : Status
  stations : List (Station ρ)

structure Drained (ρ : Type) where
  progress : Progress ρ
  stop : Stop
  effects : List Effect

variable {ρ : Type} [Record ρ]

def Pull.call (name : String) (p : Pull ρ) : List Effect :=
  .pulled name (p.drawn.toOption.map Item.key) :: p.actions.map (Action.effect 0 name)

/-- What a pull does before its item is routed. -/
def Pull.effects (name : String) (p : Pull ρ) : List Effect :=
  p.call name ++
    match p.drawn with
    | .ok item => [.noted 0 name item.note]
    | .error _ => []

def Pull.notes (p : Pull ρ) : List Note :=
  match p.drawn with
  | .ok item => notesOf p.actions ++ [item.note]
  | .error _ => notesOf p.actions

/-- Only records are routed; the other items are just noted. -/
def Item.enter (seconds : Float) (stations : List (Station ρ)) : Item ρ → Routed ρ
  | .record r => route seconds stations r
  | _ => ⟨stations, none, []⟩

/-- Takes the pulls in order; `rest` is how the source stops after the last of them. -/
def drain (seconds : Float) (name : String) (rest : Stop) :
    List (Pull ρ) → Progress ρ → Drained ρ
  | [], g => ⟨g, rest, [.pulled name none]⟩
  | p :: ps, g =>
    let source := g.source.noteAll p.notes
    match p.drawn with
    | .error stop => ⟨⟨source, g.stations⟩, stop, p.effects name⟩
    | .ok item =>
      let q := item.enter seconds g.stations
      let d := drain seconds name rest ps ⟨source, q.stations⟩
      ⟨d.progress, d.stop, p.effects name ++ (q.effects ++ d.effects)⟩

def Source.drain (seconds : Float) (s : Source ρ) (g : Progress ρ) : Drained ρ :=
  Intake.drain seconds s.name s.rest s.pulls g

end Intake
