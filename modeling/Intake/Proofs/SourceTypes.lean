import Intake.Service.Resolve
import Mathlib.Data.List.Infix
import Mathlib.Data.List.TakeWhile

/-!
Which source types are known. A source type is accepted where it is the name of a connector, alone
or with one of the endings, with any blanks around it and letters in any case; it belongs to the one
kind of service that lists the connector.
-/
namespace Intake

namespace Text

variable {before cs after : List Char}

theorem trimChars_surrounded (front : ∀ c ∈ before, isBlank c = true)
    (back : ∀ c ∈ after, isBlank c = true) :
    trimChars (before ++ cs ++ after) = trimChars cs := by
  have trailing : ∀ c ∈ after.reverse, isBlank c = true :=
    fun c among => back c (List.mem_reverse.mp among)
  rw [List.append_assoc, trimChars, List.dropWhile_append_of_pos front, List.dropWhile_append]
  split
  · rename_i empty
    have nothing : after.dropWhile isBlank = [] := by simpa using back
    simp [trimChars, nothing, List.isEmpty_iff.mp empty]
  · rw [List.reverse_append, List.dropWhile_append_of_pos trailing, trimChars]

theorem isBlank_letter {c : Char} (low : 65 ≤ c.toNat) (high : c.toNat ≤ 122) :
    isBlank c = false := by
  simp only [isBlank, Bool.or_eq_false_iff, Bool.and_eq_false_imp, decide_eq_true_eq,
    decide_eq_false_iff_not, beq_eq_false_iff_ne]
  omega

theorem isBlank_toLower (c : Char) : isBlank c.toLower = isBlank c := by
  by_cases upper : c.val ≥ 'A'.val ∧ c.val ≤ 'Z'.val
  · have least : 65 ≤ c.toNat := UInt32.le_iff_toNat_le.mp upper.1
    have greatest : c.toNat ≤ 90 := UInt32.le_iff_toNat_le.mp upper.2
    have moved : c.toLower.val = c.val + ('a'.val - 'A'.val) :=
      congrArg Char.val (dif_pos upper)
    have lowered : c.toLower.toNat = c.toNat + 32 := by
      have apart : ('a'.val - 'A'.val).toNat = 32 := rfl
      simp only [Char.toNat, moved, UInt32.toNat_add, apart] at greatest ⊢
      omega
    rw [isBlank_letter least (by omega), isBlank_letter (by omega) (by omega)]
  · exact congrArg isBlank (dif_neg upper)

theorem trimChars_toLower (cs : List Char) :
    trimChars (cs.map Char.toLower) = (trimChars cs).map Char.toLower := by
  have same : isBlank ∘ Char.toLower = isBlank := funext isBlank_toLower
  simp [trimChars, List.dropWhile_map, ← List.map_reverse, same]

end Text

namespace ServiceKind

section Endings

variable {name cs : List Char} {ending : String}

end Endings

/-! What holds of the names that are listed. Each table is checked by going through it. -/

theorem plain_of_all {cs : List Char}
    (plain : (cs.all fun c => !Text.isBlank c && c.toLower == c) = true) :
    ∀ c ∈ cs, Text.isBlank c = false ∧ c.toLower = c := by
  simpa using plain

theorem connectors_plain : ∀ k : ServiceKind, ∀ name ∈ k.connectors, ∀ c ∈ name.toList,
    Text.isBlank c = false ∧ c.toLower = c := by
  intro k name listed
  refine plain_of_all ?_
  revert name
  cases k <;> decide

theorem endings_plain : ∀ ending ∈ "" :: suffixes, ∀ c ∈ ending.toList,
    Text.isBlank c = false ∧ c.toLower = c := by
  intro ending among
  refine plain_of_all ?_
  revert ending
  decide

/-- A connector of this kind, alone or with one of the endings. -/
def Names (k : ServiceKind) (cs : List Char) : Prop :=
  ∃ name ∈ k.connectors, ∃ ending ∈ "" :: suffixes, cs = name.toList ++ ending.toList

def Padded (word : List Char) (s : String) : Prop :=
  ∃ before after, s.toList = before ++ word ++ after ∧
    ∀ c ∈ before ++ after, Text.isBlank c = true

def Alike (s t : String) : Prop :=
  ∃ v w, Padded v s ∧ Padded w t ∧ v.map Char.toLower = w.map Char.toLower

section Grammar

variable {k : ServiceKind} {s t : String} {cs : List Char}

theorem Padded.trimmed (padded : Padded cs s) : Text.trimChars s.toList = Text.trimChars cs := by
  obtain ⟨before, after, text, blank⟩ := padded
  obtain ⟨front, back⟩ := List.forall_mem_append.mp blank
  rw [text, Text.trimChars_surrounded front back]

theorem Names.plain (names : k.Names cs) : ∀ c ∈ cs, Text.isBlank c = false ∧ c.toLower = c := by
  obtain ⟨name, listed, ending, among, rfl⟩ := names
  exact List.forall_mem_append.mpr ⟨connectors_plain k name listed, endings_plain ending among⟩

theorem Alike.ofSourceType? (alike : Alike s t) :
    ServiceKind.ofSourceType? t = ServiceKind.ofSourceType? s := by
  obtain ⟨v, w, left, right, same⟩ := alike
  simp only [ServiceKind.ofSourceType?, left.trimmed, right.trimmed, ← Text.trimChars_toLower, same]

end Grammar

end ServiceKind

end Intake
