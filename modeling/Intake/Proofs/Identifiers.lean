import Intake.Uuid
import Mathlib.Algebra.Group.Nat.Defs
import Mathlib.Data.List.Basic

/-!
The text of an identifier is read as the identifier itself.
-/
namespace Intake

namespace Text

theorem hexDigits_length (count n : Nat) : (hexDigits count n).length = count := by
  induction count generalizing n with
  | zero => rfl
  | succ count ih => rw [hexDigits, List.length_append, ih, List.length_singleton]

theorem mem_hexDigits {c : Char} {count n : Nat} (among : c ∈ hexDigits count n) :
    ∃ d < 16, c = hexDigit d := by
  induction count generalizing n with
  | zero => cases among
  | succ count ih =>
    obtain among | among := List.mem_append.mp among
    · exact ih among
    · exact ⟨n % 16, Nat.mod_lt n (by decide), List.mem_singleton.mp among⟩

end Text

namespace Uuid

open Text (hexDigit hexDigits)

theorem digit?_hexDigit : ∀ d < 16, digit? (hexDigit d) = some d := by decide

theorem hexDigit_plain : ∀ d < 16, hexDigit d ≠ '\x7b' ∧ (hexDigit d).toLower ≠ 'u' := by decide

/-- So many digits say what a number is below the power of sixteen. -/
theorem mapM_hexDigits (count n : Nat) :
    ∃ ds, (hexDigits count n).mapM digit? = some ds ∧ ds.length = count ∧
      ds.foldl (fun n d => n * 16 + d) 0 = n % 16 ^ count := by
  induction count generalizing n with
  | zero => exact ⟨[], rfl, rfl, (Nat.mod_one n).symm⟩
  | succ count ih =>
    obtain ⟨ds, read, length, value⟩ := ih (n / 16)
    refine ⟨ds ++ [n % 16], ?_, ?_, ?_⟩
    · have last := digit?_hexDigit (n % 16) (Nat.mod_lt n (by decide))
      simp [hexDigits, List.mapM_append, read, last]
    · rw [List.length_append, length, List.length_singleton]
    · rw [List.foldl_append, value, List.foldl_cons, List.foldl_nil, Nat.pow_succ',
        Nat.mod_mul]
      omega

theorem ofDigits_hexDigits (u : Uuid) : ofDigits (hexDigits 32 u.value.toNat) = some u := by
  obtain ⟨ds, read, length, value⟩ := mapM_hexDigits 32 u.value.toNat
  have small : u.value.toNat % 16 ^ 32 = u.value.toNat := Nat.mod_eq_of_lt u.value.isLt
  simp only [ofDigits, read, Option.bind_eq_bind, Option.bind_some, length, if_true, value, small,
    BitVec.ofNat_toNat, BitVec.setWidth_eq]

theorem pieces_append {n : Nat} {piece : List Char} (length : piece.length = n) (ns : List Nat)
    (rest : List Char) : pieces (n :: ns) (piece ++ rest) = piece :: pieces ns rest := by
  rw [pieces, List.take_left' length, List.drop_left' length]

theorem ofGroups_hyphened {a b c d e : List Char} (la : a.length = 8) (lb : b.length = 4)
    (lc : c.length = 4) (ld : d.length = 4) :
    ofGroups (a ++ (['-'] ++ (b ++ (['-'] ++ (c ++ (['-'] ++ (d ++ (['-'] ++ e)))))))) =
      ofDigits (a ++ b ++ c ++ d ++ e) := by
  have hyphen : ['-'].length = 1 := rfl
  rw [ofGroups, pieces_append la, pieces_append hyphen, pieces_append lb, pieces_append hyphen,
    pieces_append lc, pieces_append hyphen, pieces_append ld, pieces_append hyphen]
  rfl

theorem text_toList (u : Uuid) :
    let ds := hexDigits 32 u.value.toNat
    u.text.toList = ds.take 8 ++ (['-'] ++ ((ds.drop 8).take 4 ++ (['-'] ++
      ((ds.drop 12).take 4 ++ (['-'] ++ ((ds.drop 16).take 4 ++ (['-'] ++ ds.drop 20))))))) := by
  intro ds
  rw [text, String.toList_ofList]
  simp [pieces, List.intercalate, ds, List.drop_drop]

theorem unwrap?_text (u : Uuid) : unwrap? u.text.toList = none := by
  have first : ∃ d < 16, ∃ rest, u.text.toList = hexDigit d :: rest := by
    rw [text_toList]
    cases digits : hexDigits 32 u.value.toNat with
    | nil =>
      have length := Text.hexDigits_length 32 u.value.toNat
      rw [digits] at length
      cases length
    | cons c cs =>
      obtain ⟨d, small, rfl⟩ := Text.mem_hexDigits (digits ▸ List.mem_cons_self : c ∈ _)
      exact ⟨d, small, _, rfl⟩
  obtain ⟨d, small, rest, begins⟩ := first
  obtain ⟨noBrace, noPrefix⟩ := hexDigit_plain d small
  rw [begins, unwrap?, if_neg, if_neg]
  · intro same
    exact noPrefix (List.cons.inj same).1
  · simp [noBrace]

theorem parse_text (u : Uuid) : parse u.text = .ok u := by
  let ds := hexDigits 32 u.value.toNat
  have length : ds.length = 32 := Text.hexDigits_length 32 _
  have after (i n j : Nat) (sum : i + n = j) :
      (ds.drop i).take n ++ ds.drop j = ds.drop i := by
    rw [← sum, ← List.drop_drop, List.take_append_drop]
  have whole : ds.take 8 ++ (ds.drop 8).take 4 ++ (ds.drop 12).take 4 ++ (ds.drop 16).take 4 ++
      ds.drop 20 = ds := by
    rw [List.append_assoc, List.append_assoc, List.append_assoc, after 16 4 20 rfl,
      after 12 4 16 rfl, after 8 4 12 rfl, List.take_append_drop]
  have grouped : ofGroups u.text.toList = some u := by
    rw [text_toList, ofGroups_hyphened, whole, ofDigits_hexDigits] <;> simp [length, ds]
  have size : u.text.toList.length ≠ 32 := by
    rw [text_toList]
    simp [length, ds]
  rw [parse, parse?, unwrap?_text, if_neg size, grouped]

end Uuid

end Intake
