import Intake.Json.Token
import Mathlib.Data.List.Basic

/-!
The tokens of a text. A token whose value can be read can also be passed over; and gaps where the
text pauses do not change the tokens.
-/
namespace Intake.Json

section Soundness

/-- Whoever can read the value can pass over it. -/
def Reading.Sound {α : Type} (r : Reading α) : Prop := ∀ a, r.value = .ok a → r.skipped = none

def Token.Sound : Token → Prop
  | .scalar r => r.Sound
  | .text r => r.Sound
  | _ => True

def Move.Sound (m : Move) : Prop := ∀ t ∈ m.tokens, t.Sound

theorem Reading.sound_of_skipped {α : Type} {r : Reading α} (skipped : r.skipped = none) :
    r.Sound :=
  fun _ _ => skipped

theorem Reading.ended_sound {α : Type} (f : Fault) : (ended α f).Sound := by
  simp [Sound, ended]

theorem Token.ended_sound (f : Fault) : (Token.scalar (.ended Scalar f)).Sound :=
  Reading.ended_sound f

theorem Move.go_sound (s : Scan) : (go s).Sound := by
  simp [Sound, go]

theorem Move.emit_sound {t : Token} (sound : t.Sound) : (emit t).Sound := by
  simpa [Sound, emit] using sound

theorem Move.stop_sound {t : Token} (sound : t.Sound) : (stop t).Sound := by
  simpa [Sound, stop] using sound

namespace TextState

variable (s : TextState) (c : Char)

theorem finish_sound : s.finish.Sound := Reading.sound_of_skipped rfl

theorem broken_sound (f : Fault) : (s.broken f).Sound := by
  intro a read
  cases chars : s.chars <;> simp [note, chars, Except.bind, Except.map] at read

theorem escaped_sound : (s.escaped c).Sound := by
  unfold escaped
  split <;> first
    | exact Move.go_sound _
    | exact Move.stop_sound (s.broken_sound _)

theorem plainChar_sound : (s.plainChar c).Sound := by
  unfold plainChar
  split
  · exact Move.emit_sound s.finish_sound
  · exact Move.go_sound _
  · split
    · exact Move.stop_sound (s.broken_sound _)
    · exact Move.go_sound _

theorem step_sound (rest : List Char) : (s.step c rest).Sound := by
  unfold step
  split
  · exact s.plainChar_sound c
  · exact s.escaped_sound c
  · split
    · split <;> exact Move.go_sound _
    · split <;> exact Move.stop_sound (s.broken_sound _)
  · split
    · exact Move.go_sound _
    · exact plainChar_sound _ c
  · split
    · exact Move.go_sound _
    · exact escaped_sound _ c

end TextState

theorem NumberState.finish_sound (s : NumberState) : s.finish.Sound :=
  Reading.sound_of_skipped rfl

theorem begin_sound (c : Char) : (begin c).Sound := by
  unfold begin
  split
  · exact Move.go_sound _
  · split <;> try first
      | exact Move.go_sound _
      | exact Move.emit_sound trivial
    split
    · exact Move.go_sound _
    · exact Move.stop_sound trivial

namespace Scan

theorem step_sound (s : Scan) (c : Char) (rest : List Char) : (s.step c rest).Sound := by
  cases s with
  | between => exact begin_sound c
  | text s => exact s.step_sound c rest
  | number s =>
    rw [step]
    split
    · exact Move.go_sound _
    · exact iteInduction (fun _ => Move.stop_sound (Token.ended_sound _)) fun _ =>
        List.forall_mem_cons.mpr ⟨s.finish_sound, begin_sound c⟩
  | word left meaning =>
    simp only [step]
    split
    · exact Move.stop_sound trivial
    · split
      · exact Move.stop_sound (Token.ended_sound _)
      · split
        · exact Move.emit_sound (Reading.sound_of_skipped rfl)
        · exact Move.go_sound _

theorem atEnd_sound (s : Scan) : ∀ t ∈ s.atEnd, t.Sound := by
  cases s with
  | between => simp [atEnd]
  | text s => exact List.forall_mem_singleton.mpr (s.broken_sound _)
  | number s =>
    simp only [atEnd]
    split
    · exact List.forall_mem_singleton.mpr (by simp [Token.Sound, Reading.Sound])
    · exact List.forall_mem_singleton.mpr s.finish_sound
  | word left meaning => exact List.forall_mem_singleton.mpr (Token.ended_sound _)

end Scan

theorem scan_sound (s : Scan) (cs : List Char) : ∀ t ∈ scan s cs, t.Sound := by
  induction cs generalizing s with
  | nil => exact s.atEnd_sound
  | cons c cs ih =>
    intro t among
    simp only [scan] at among
    split at among
    · obtain now | later := List.mem_append.mp among
      · exact s.step_sound c cs t now
      · exact ih _ t later
    · exact s.step_sound c cs t among

end Soundness

section Gaps

/-- Where a reader of these characters stands, unless one of them stops it. -/
def Scan.through : Scan → List Char → Option Scan
  | s, [] => some s
  | s, c :: cs => (s.step c []).next.bind fun s => s.through cs

/-- No token goes on here: the last one is complete, or it is a number, and what follows it is
neither part of it nor another digit. -/
def Scan.Pauses : Scan → List Char → Prop
  | .between, _ => True
  | .number s, [] => s.isOpen = false
  | .number s, c :: _ => s.isOpen = false ∧ s.extend c = none ∧ digit? c = none
  | _, _ => False

/-- Texts that differ in gaps where they pause, and nowhere else. -/
inductive Respaced : String → String → Prop
  | widened {s s' : String} (before gap after : List Char) {pause : Scan}
      (narrow : s.toList = before ++ after) (wide : s'.toList = before ++ gap ++ after)
      (reached : Scan.between.through before = some pause) (pauses : pause.Pauses after)
      (blank : ∀ c ∈ gap, isGap c = true) : Respaced s s'
  | symm {s s' : String} : Respaced s s' → Respaced s' s
  | trans {s s' s'' : String} : Respaced s s' → Respaced s' s'' → Respaced s s''

/-- What follows is looked at only to tell why the reader stops. -/
theorem TextState.step_rest {s : TextState} {c : Char} {s' : Scan} {rest : List Char}
    (goes : (s.step c rest).next = some s') (rest' : List Char) :
    s.step c rest' = s.step c rest := by
  simp only [step] at goes ⊢
  split
  · rfl
  · rfl
  · split
    · rfl
    · rename_i part _ digit
      simp only [part, digit] at goes
      split at goes <;> cases goes
  · rfl
  · rfl

theorem Scan.step_rest {s s' : Scan} {c : Char} {rest : List Char}
    (goes : (s.step c rest).next = some s') (rest' : List Char) :
    s.step c rest' = s.step c rest := by
  cases s with
  | text s => exact TextState.step_rest goes rest'
  | _ => rfl

theorem scan_append {s s' : Scan} {before : List Char} (reached : s.through before = some s') :
    ∃ ts, ∀ after, scan s (before ++ after) = ts ++ scan s' after := by
  induction before generalizing s with
  | nil => exact ⟨[], fun after => by rw [← Option.some.inj reached]; rfl⟩
  | cons c before ih =>
    obtain ⟨next, goes, reached⟩ := Option.bind_eq_some_iff.mp reached
    obtain ⟨ts, later⟩ := ih reached
    refine ⟨(s.step c []).tokens ++ ts, fun after => ?_⟩
    simp only [List.cons_append, scan, Scan.step_rest goes, goes, later, List.append_assoc]

theorem begin_gap {c : Char} (blank : isGap c = true) : begin c = .go .between := by
  unfold begin
  rw [if_pos blank]

theorem digit?_gap {c : Char} (blank : isGap c = true) : digit? c = none := by
  simp only [isGap, Bool.or_eq_true, beq_iff_eq] at blank
  rcases blank with ((rfl | rfl) | rfl) | rfl <;> rfl

theorem NumberState.extend_gap {s : NumberState} {c : Char} (complete : s.isOpen = false)
    (blank : isGap c = true) : s.extend c = none := by
  have apart : c ≠ '.' ∧ c ≠ 'e' ∧ c ≠ 'E' := by
    simp only [isGap, Bool.or_eq_true, beq_iff_eq] at blank
    rcases blank with ((rfl | rfl) | rfl) | rfl <;> decide
  cases part : s.part <;> simp_all [isOpen, extend, digit?_gap blank]

theorem scan_between_gap {gap : List Char} (blank : ∀ c ∈ gap, isGap c = true)
    (after : List Char) : scan .between (gap ++ after) = scan .between after := by
  induction gap with
  | nil => rfl
  | cons c gap ih =>
    obtain ⟨first, blank⟩ := List.forall_mem_cons.mp blank
    simp only [List.cons_append, scan, Scan.step, begin_gap first, Move.go, List.nil_append,
      ih blank]

theorem scan_number {s : NumberState} {after : List Char}
    (pauses : (Scan.number s).Pauses after) :
    scan (.number s) after = s.finish :: scan .between after := by
  cases after with
  | nil =>
    have complete : s.isOpen = false := pauses
    simp [scan, Scan.atEnd, complete]
  | cons c after =>
    obtain ⟨complete, apart, noDigit⟩ := pauses
    have move : (Scan.number s).step c after = ⟨s.finish :: (begin c).tokens, (begin c).next⟩ := by
      cases part : s.part <;> simp [Scan.step, apart, complete, noDigit, part]
    rw [scan, move, scan, Scan.step]
    dsimp only
    split <;> rfl

theorem scan_pause {s : Scan} {gap after : List Char} (pauses : s.Pauses after)
    (blank : ∀ c ∈ gap, isGap c = true) : scan s (gap ++ after) = scan s after := by
  cases s with
  | between => exact scan_between_gap blank after
  | number s =>
    have paused : (Scan.number s).Pauses (gap ++ after) := by
      cases gap with
      | nil => exact pauses
      | cons c gap =>
        have complete : s.isOpen = false := by
          cases after with
          | nil => exact pauses
          | cons c after => exact pauses.1
        have first := blank c List.mem_cons_self
        exact ⟨complete, NumberState.extend_gap complete first, digit?_gap first⟩
    rw [scan_number paused, scan_number pauses, scan_between_gap blank]
  | text s => exact pauses.elim
  | word left meaning => exact pauses.elim

theorem Respaced.tokens_eq {s s' : String} (respaced : Respaced s s') : tokens s' = tokens s := by
  induction respaced with
  | widened before gap after narrow wide reached pauses blank =>
    obtain ⟨ts, later⟩ := scan_append reached
    rw [tokens, tokens, narrow, wide, List.append_assoc, later, later, scan_pause pauses blank]
  | symm _ ih => exact ih.symm
  | trans _ _ first second => exact second.trans first

end Gaps

end Intake.Json
