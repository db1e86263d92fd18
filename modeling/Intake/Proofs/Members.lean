import Intake.Json.Basic

/-!
Sorting the members of an object keeps what can be found in it: under each name the value that was
given last.
-/
namespace Intake.Json

theorem lookup_member (name other : String) (value : Json) (rest : List (String × Json)) :
    ((name, value) :: rest).lookup other =
      if other = name then some value else rest.lookup other := by
  by_cases same : other = name
  · simp [same]
  · have apart : (other == name) = false := beq_eq_false_iff_ne.mpr same
    simp [List.lookup_cons, apart, same]

theorem lookup_put (name other : String) (value : Json) (members : List (String × Json)) :
    (put name value members).lookup other =
      if other = name then some value else members.lookup other := by
  induction members with
  | nil => exact lookup_member name other value []
  | cons m rest ih =>
    obtain ⟨n, v⟩ := m
    unfold put
    split
    · exact lookup_member name other value _
    · split
      · rename_i known
        rw [lookup_member, lookup_member, ← known]
        by_cases same : other = name <;> simp [same]
      · rename_i unknown
        rw [lookup_member, lookup_member, ih]
        by_cases here : other = n
        · have different : n ≠ name := fun same => unknown same.symm
          simp [here, different]
        · simp [here]

theorem lookup_foldl_put (name : String) (members found : List (String × Json)) :
    (members.foldl (fun found m => put m.1 m.2 found) found).lookup name =
      (members.reverse ++ found).lookup name := by
  induction members generalizing found with
  | nil => rfl
  | cons m rest ih =>
    rw [List.foldl_cons, ih, List.lookup_append, lookup_put, List.reverse_cons,
      List.append_assoc, List.lookup_append, List.singleton_append, lookup_member]

theorem normalMembers_eq (members : List (String × Json)) :
    normalMembers members = members.map fun m => (m.1, m.2.normal) := by
  induction members with
  | nil => rfl
  | cons m rest ih =>
    obtain ⟨n, v⟩ := m
    rw [normalMembers, ih, List.map_cons]

theorem lookup_map_normal (name : String) (members : List (String × Json)) :
    (members.map fun m => (m.1, m.2.normal)).lookup name = (members.lookup name).map normal := by
  induction members with
  | nil => rfl
  | cons m rest ih =>
    obtain ⟨n, v⟩ := m
    rw [List.map_cons, lookup_member, lookup_member, ih]
    by_cases here : name = n <;> simp [here]

theorem get?_normal (name : String) (members : List (String × Json)) :
    (normal (.object members)).get? name = (members.reverse.lookup name).map normal := by
  rw [normal, get?, sorted, lookup_foldl_put, List.append_nil, normalMembers_eq,
    ← List.map_reverse, lookup_map_normal]

end Intake.Json
