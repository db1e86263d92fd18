import Intake.Run.Station

/-!
The way of a record from station to station, up to the first that does not pass one on.
-/
namespace Intake

structure Routed (ρ : Type) where
  stations : List (Station ρ)
  /-- The record that leaves the last station. -/
  left : Option ρ
  effects : List Effect

variable {ρ : Type} [Record ρ]

def route (seconds : Float) : List (Station ρ) → ρ → Routed ρ
  | [], r => ⟨[], some r, []⟩
  | s :: rest, r =>
    let p := s.process seconds r
    match p.next with
    | none => ⟨p.station :: rest, none, p.effects⟩
    | some r' =>
      let q := route seconds rest r'
      ⟨p.station :: q.stations, q.left, p.effects ++ q.effects⟩

end Intake
