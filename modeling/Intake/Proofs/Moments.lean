import Intake.Proofs.RunEnd

/-!
The moments of a run between two pulls. Each is reached from the one before by taking one item, and
the run ends with the first pull that gives none; the loop comes by these moments and by no other.
-/
namespace Intake

variable {ρ : Type}

section Splitting

variable {α : Type} {marked : α → Bool} {xs ys before after : List α} {e : α}

theorem split_front (unmarked : ∀ x ∈ xs, marked x = false) (here : marked e = true)
    (same : xs ++ ys = before ++ e :: after) :
    ∃ rest, before = xs ++ rest ∧ ys = rest ++ e :: after := by
  rcases List.append_eq_append_iff.mp same with ⟨rest, rfl, rfl⟩ | ⟨rest, rfl, tail⟩
  · exact ⟨rest, rfl, rfl⟩
  · cases rest with
    | nil => exact ⟨[], (List.append_nil _).symm.trans (List.append_nil _).symm, tail.symm⟩
    | cons f rest =>
      obtain ⟨rfl, _⟩ := List.cons_eq_cons.mp tail
      have inside : e ∈ before ++ e :: rest := List.mem_append_right _ List.mem_cons_self
      rw [unmarked e inside] at here
      cases here

theorem split_back (unmarked : ∀ y ∈ ys, marked y = false) (here : marked e = true)
    (same : xs ++ ys = before ++ e :: after) :
    ∃ rest, after = rest ++ ys ∧ xs = before ++ e :: rest := by
  rcases List.append_eq_append_iff.mp same with ⟨rest, rfl, tail⟩ | ⟨rest, rfl, tail⟩
  · have inside : e ∈ ys := by
      rw [tail]
      exact List.mem_append_right _ List.mem_cons_self
    rw [unmarked e inside] at here
    cases here
  · cases rest with
    | nil =>
      have inside : e ∈ ys := by
        rw [← List.nil_append ys, ← tail]
        exact List.mem_cons_self
      rw [unmarked e inside] at here
      cases here
    | cons f rest =>
      obtain ⟨rfl, rfl⟩ := List.cons_eq_cons.mp tail
      exact ⟨rest, rfl, rfl⟩

end Splitting

/-- A run between two pulls: what has been drawn, what has left the last station, and what has been
done. -/
structure Moment (ρ : Type) where
  items : List (Item ρ)
  left : List ρ
  progress : Progress ρ
  trace : List Effect

theorem Source.pull_eq (s : Source ρ) (n : Nat) (p : Pull ρ) (ps : List (Pull ρ))
    (drop : s.pulls.drop n = p :: ps) : s.pull n = p ∧ s.pulls.drop (n + 1) = ps := by
  have at_n : s.pulls[n]? = some p := by
    rw [← List.head?_drop, drop]
    rfl
  have tail : s.pulls.drop (n + 1) = (s.pulls.drop n).tail := by rw [List.tail_drop]
  exact ⟨by rw [pull, at_n]; rfl, by rw [tail, drop]; rfl⟩

theorem Source.pull_rest (s : Source ρ) (n : Nat) (drop : s.pulls.drop n = []) :
    s.pull n = ⟨[], .error s.rest⟩ := by
  have at_n : s.pulls[n]? = none := by
    rw [← List.head?_drop, drop]
    rfl
  rw [pull, at_n]
  rfl

variable [Record ρ]

def Moment.take (seconds : Float) (source : String) (p : Pull ρ) (item : Item ρ) (m : Moment ρ) :
    Moment ρ :=
  let q := item.enter seconds m.progress.stations
  { items := m.items ++ [item]
    left := m.left ++ q.left.toList
    progress := ⟨m.progress.source.noteAll p.notes, q.stations⟩
    trace := m.trace ++ (p.effects source ++ q.effects) }

/-- The run has come to this moment after so many pulls. -/
inductive Source.Reaches (s : Source ρ) (seconds : Float) (g : Progress ρ) :
    Nat → Moment ρ → Prop
  | start : Reaches s seconds g 0 ⟨[], [], g, []⟩
  | next {n : Nat} {m : Moment ρ} {item : Item ρ} :
    Reaches s seconds g n m → (s.pull n).drawn = .ok item →
      Reaches s seconds g (n + 1) (m.take seconds s.name (s.pull n) item)

namespace Source

variable {s t : Source ρ} {seconds : Float} {g : Progress ρ} {n k : Nat} {m m' : Moment ρ}

theorem Reaches.length (reached : s.Reaches seconds g n m) : m.items.length = n := by
  induction reached with
  | start => rfl
  | next _ _ ih => simp [Moment.take, ih]

theorem Reaches.pulls (reached : s.Reaches seconds g n m) : pullsIn m.trace = n := by
  induction reached with
  | start => rfl
  | @next n m item _ _ ih =>
    have entered := (enter_handling seconds m.progress.stations item).pulls
    simp only [Moment.take, pullsIn_append, ih, pull_pulls, entered, Nat.add_zero]

theorem Reaches.unique (one : s.Reaches seconds g n m) (other : s.Reaches seconds g n m') :
    m = m' := by
  induction one generalizing m' with
  | start =>
    cases other
    rfl
  | next _ drawn ih =>
    cases other with
    | next before drawn' =>
      rw [drawn] at drawn'
      cases drawn'
      rw [ih before]

theorem Reaches.fixtures (reached : s.Reaches seconds g n m) :
    fixtures m.progress.stations = fixtures g.stations := by
  induction reached with
  | start => rfl
  | next _ _ ih => simp only [Moment.take, enter_fixtures, ih]

/-- A source that answers the first pulls in the same way brings the run to the same moment. -/
theorem Reaches.agree (name : t.name = s.name) (same : ∀ i, i < n → t.pull i = s.pull i)
    (reached : s.Reaches seconds g n m) : t.Reaches seconds g n m := by
  induction reached with
  | start => exact .start
  | @next n m item _ drawn ih =>
    have last := same n (Nat.lt_succ_self n)
    have earlier := ih fun i less => same i (Nat.lt_succ_of_lt less)
    have taken : t.Reaches seconds g (n + 1) (m.take seconds t.name (t.pull n) item) :=
      earlier.next (by rw [last, drawn])
    rw [name, last] at taken
    exact taken

theorem reaches_of_items (items : ∀ i, i < n → ∃ item, (s.pull i).drawn = .ok item) :
    ∃ m, s.Reaches seconds g n m := by
  induction n with
  | zero => exact ⟨_, .start⟩
  | succ n ih =>
    obtain ⟨m, reached⟩ := ih fun i less => items i (Nat.lt_succ_of_lt less)
    obtain ⟨item, drawn⟩ := items n (Nat.lt_succ_self n)
    exact ⟨_, reached.next drawn⟩

theorem Reaches.resumes (reached : s.Reaches seconds g n m) :
    let d := Intake.drain seconds s.name s.rest (s.pulls.drop n) m.progress
    s.drain seconds g = ⟨d.progress, d.stop, m.trace ++ d.effects⟩ := by
  induction reached with
  | start => rfl
  | @next n m item _ drawn ih =>
    cases drop : s.pulls.drop n with
    | nil =>
      rw [s.pull_rest n drop] at drawn
      cases drawn
    | cons p ps =>
      obtain ⟨here, later⟩ := s.pull_eq n p ps drop
      rw [here] at drawn
      rw [drop] at ih
      rw [ih, later]
      simp only [Intake.drain, drawn, here, Moment.take, List.append_assoc]

theorem drain_stop {stop : Stop} (drawn : (s.pull n).drawn = .error stop) (g : Progress ρ) :
    Intake.drain seconds s.name s.rest (s.pulls.drop n) g =
      ⟨⟨g.source.noteAll (s.pull n).notes, g.stations⟩, stop, (s.pull n).effects s.name⟩ := by
  cases drop : s.pulls.drop n with
  | nil =>
    rw [s.pull_rest n drop] at drawn ⊢
    cases drawn
    rfl
  | cons p ps =>
    obtain ⟨here, _⟩ := s.pull_eq n p ps drop
    rw [here] at drawn ⊢
    simp only [Intake.drain, drawn]

theorem reaches_end {stop : Stop} (stops : s.StopsAfter k stop) (seconds : Float)
    (g : Progress ρ) :
    ∃ m, s.Reaches seconds g k m ∧
      s.drain seconds g =
        ⟨⟨m.progress.source.noteAll (s.pull k).notes, m.progress.stations⟩, stop,
          m.trace ++ (s.pull k).effects s.name⟩ := by
  obtain ⟨m, reached⟩ : ∃ m, s.Reaches seconds g k m := reaches_of_items stops.1
  have resumed := reached.resumes
  rw [drain_stop stops.2] at resumed
  exact ⟨m, reached, resumed⟩

theorem drain_moment (rest : List (Pull ρ)) (reached : s.Reaches seconds g n m)
    (left : s.pulls.drop n = rest) {before after : List Effect} {name : String}
    {key : Option String}
    (split : (Intake.drain seconds s.name s.rest rest m.progress).effects =
      before ++ .pulled name key :: after) :
    ∃ k m', s.Reaches seconds g k m' ∧ m'.trace = m.trace ++ before := by
  -- on the pulls that are left: the pull in question is the first of them, or comes later
  induction rest generalizing n m before with
  | nil =>
    cases before with
    | nil => exact ⟨n, m, reached, (List.append_nil _).symm⟩
    | cons e before =>
      simp [Intake.drain] at split
  | cons p ps ih =>
    cases before with
    | nil => exact ⟨n, m, reached, (List.append_nil _).symm⟩
    | cons e before =>
      obtain ⟨here, later⟩ := s.pull_eq n p ps left
      obtain ⟨tail, effects, routing, _⟩ := pull_first s.name p
      have quiet := routing.handling
      cases drawn : p.drawn with
      | error stop =>
        simp only [Intake.drain, drawn, effects, List.cons_append, List.cons.injEq] at split
        have inside : .pulled name key ∈ tail := by
          rw [split.2]
          exact List.mem_append_right _ List.mem_cons_self
        cases (quiet _ inside).2
      | ok item =>
        have entered := enter_handling seconds m.progress.stations item
        simp only [Intake.drain, drawn, effects, List.cons_append, List.cons.injEq] at split
        obtain ⟨rfl, remaining⟩ := split
        rw [← List.append_assoc] at remaining
        obtain ⟨found, rfl, others⟩ := split_front
          (fun f member => ((quiet.append entered) f member).2) rfl remaining
        have taken : s.Reaches seconds g (n + 1) (m.take seconds s.name (s.pull n) item) :=
          reached.next (by rw [here, drawn])
        rw [here] at taken
        obtain ⟨k, m', reached', trace⟩ := ih taken later others
        refine ⟨k, m', reached', ?_⟩
        rw [trace]
        simp [Moment.take, effects, drawn]

/-- Whatever is done up to a pull is what was done up to the moment before it. -/
theorem moment_of_split {before after : List Effect} {name : String} {key : Option String}
    (split : (s.drain seconds g).effects = before ++ .pulled name key :: after) :
    ∃ k m, s.Reaches seconds g k m ∧ m.trace = before :=
  drain_moment s.pulls .start rfl split

end Source

end Intake
