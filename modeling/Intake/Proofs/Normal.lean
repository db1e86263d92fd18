import Intake.Json.Decode
import Intake.Proofs.Members
import Mathlib.Data.String.Basic

/-!
The normal form of free-form data. It is reached in one step, its objects have their names in order
and no name twice, and it is what a reader makes of data that was read before.
-/
namespace Intake.Json

def Rising (members : List (String × Json)) : Prop := members.Pairwise fun a b => a.1 < b.1

section Members

variable {name : String} {value : Json} {members : List (String × Json)}

theorem mem_put {m : String × Json} (among : m ∈ put name value members) :
    m = (name, value) ∨ m ∈ members := by
  induction members with
  | nil => exact .inl (List.mem_singleton.mp among)
  | cons first rest ih =>
    rw [put] at among
    split at among
    · exact List.mem_cons.mp among
    · split at among
      · exact (List.mem_cons.mp among).imp_right (List.mem_cons_of_mem first)
      · obtain rfl | among := List.mem_cons.mp among
        · exact .inr List.mem_cons_self
        · exact (ih among).imp_right (List.mem_cons_of_mem first)

theorem put_rising (rising : Rising members) : Rising (put name value members) := by
  induction members with
  | nil => exact List.pairwise_singleton _ _
  | cons first rest ih =>
    obtain ⟨below, rising⟩ := List.pairwise_cons.mp rising
    rw [put]
    split
    · rename_i before
      refine List.pairwise_cons.mpr ⟨?_, List.pairwise_cons.mpr ⟨below, rising⟩⟩
      intro m among
      obtain rfl | among := List.mem_cons.mp among
      · exact before
      · exact lt_trans before (below m among)
    · rename_i notBefore
      split
      · rename_i same
        exact List.pairwise_cons.mpr ⟨fun m among => same ▸ below m among, rising⟩
      · rename_i differ
        refine List.pairwise_cons.mpr ⟨fun m among => ?_, ih rising⟩
        obtain rfl | among := mem_put among
        · exact lt_of_le_of_ne (not_lt.mp notBefore) (Ne.symm differ)
        · exact below m among

theorem foldl_put_rising (found : List (String × Json)) (rising : Rising found) :
    Rising (members.foldl (fun found m => put m.1 m.2 found) found) := by
  induction members generalizing found with
  | nil => exact rising
  | cons m rest ih => exact ih _ (put_rising rising)

theorem sorted_rising (members : List (String × Json)) : Rising (sorted members) :=
  foldl_put_rising [] .nil

theorem put_last (last : ∀ m ∈ members, m.1 < name) :
    put name value members = members ++ [(name, value)] := by
  induction members with
  | nil => rfl
  | cons first rest ih =>
    obtain ⟨before, last⟩ := List.forall_mem_cons.mp last
    rw [put, if_neg (lt_asymm before), if_neg (ne_of_gt before), ih last, List.cons_append]

theorem foldl_put_of_rising (found : List (String × Json)) (rising : Rising (found ++ members)) :
    members.foldl (fun found m => put m.1 m.2 found) found = found ++ members := by
  induction members generalizing found with
  | nil => exact (List.append_nil found).symm
  | cons m rest ih =>
    have last : ∀ x ∈ found, x.1 < m.1 := fun x among =>
      (List.pairwise_append.mp rising).2.2 x among m List.mem_cons_self
    rw [List.append_cons] at rising
    rw [List.foldl_cons, put_last last, ih _ rising, ← List.append_cons]

theorem sorted_of_rising (rising : Rising members) : sorted members = members :=
  foldl_put_of_rising [] rising

theorem put_perm (unused : name ∉ members.map Prod.fst) :
    (put name value members).Perm ((name, value) :: members) := by
  induction members with
  | nil => exact .refl _
  | cons first rest ih =>
    obtain ⟨apart, unused⟩ := not_or.mp (List.mem_cons.not.mp unused)
    rw [put, if_neg apart]
    split
    · exact .refl _
    · exact ((ih unused).cons first).trans (.swap _ _ _)

theorem foldl_put_perm (found : List (String × Json))
    (distinct : ((members ++ found).map Prod.fst).Nodup) :
    (members.foldl (fun found m => put m.1 m.2 found) found).Perm (members ++ found) := by
  induction members generalizing found with
  | nil => exact .refl _
  | cons m rest ih =>
    rw [List.cons_append, List.map_cons, List.nodup_cons] at distinct
    have unused : m.1 ∉ found.map Prod.fst := fun among => distinct.1 (by simp_all)
    have moved : (rest ++ put m.1 m.2 found).Perm (m :: rest ++ found) :=
      ((put_perm unused).append_left rest).trans List.perm_middle
    exact (ih _ ((moved.map Prod.fst).nodup_iff.mpr (List.nodup_cons.mpr distinct))).trans moved

theorem sorted_perm (distinct : (members.map Prod.fst).Nodup) : (sorted members).Perm members := by
  have all := foldl_put_perm [] (by rwa [List.append_nil])
  rwa [List.append_nil] at all

/-- The order of the members does not matter where no name is there twice. -/
theorem sorted_eq_of_perm {members' : List (String × Json)}
    (distinct : (members.map Prod.fst).Nodup) (perm : members.Perm members') :
    sorted members = sorted members' := by
  have distinct' := (perm.map Prod.fst).nodup_iff.mp distinct
  exact List.Perm.eq_of_pairwise (fun _ _ _ _ below above => (lt_asymm below above).elim)
    (sorted_rising _) (sorted_rising _)
    ((sorted_perm distinct).trans (perm.trans (sorted_perm distinct').symm))

theorem put_map (f : Json → Json) :
    (put name value members).map (Prod.map id f) =
      put name (f value) (members.map (Prod.map id f)) := by
  induction members with
  | nil => rfl
  | cons first rest ih =>
    simp only [put, List.map_cons, Prod.map_fst, Prod.map_snd, id_eq]
    split
    · rfl
    · split
      · rfl
      · rw [List.map_cons, ih]
        rfl

theorem foldl_put_map (f : Json → Json) (found : List (String × Json)) :
    (members.foldl (fun found m => put m.1 m.2 found) found).map (Prod.map id f) =
      (members.map (Prod.map id f)).foldl (fun found m => put m.1 m.2 found)
        (found.map (Prod.map id f)) := by
  induction members generalizing found with
  | nil => rfl
  | cons m rest ih => rw [List.foldl_cons, ih, put_map, List.map_cons, List.foldl_cons]; rfl

theorem put_isEmpty : (put name value members).isEmpty = false := by
  cases members with
  | nil => rfl
  | cons first rest =>
    rw [put]
    split
    · rfl
    · split <;> rfl

theorem foldl_put_isEmpty (found : List (String × Json)) :
    (members.foldl (fun found m => put m.1 m.2 found) found).isEmpty =
      (found.isEmpty && members.isEmpty) := by
  induction members generalizing found with
  | nil => exact (Bool.and_true _).symm
  | cons m rest ih => rw [List.foldl_cons, ih, put_isEmpty, List.isEmpty_cons]; simp

theorem sorted_isEmpty (members : List (String × Json)) :
    (sorted members).isEmpty = members.isEmpty :=
  foldl_put_isEmpty []

theorem lookup_of_rising (rising : Rising members) (among : (name, value) ∈ members) :
    members.lookup name = some value := by
  induction members with
  | nil => cases among
  | cons first rest ih =>
    obtain ⟨below, rising⟩ := List.pairwise_cons.mp rising
    rw [lookup_member]
    obtain rfl | later := List.mem_cons.mp among
    · rw [if_pos rfl]
    · rw [if_neg (ne_of_gt (below _ later)), ih rising later]

end Members

theorem normalMembers_sorted (members : List (String × Json)) :
    normalMembers (sorted members) = sorted (normalMembers members) := by
  rw [normalMembers_eq, normalMembers_eq]
  exact foldl_put_map normal []

mutual

theorem normal_normal : ∀ v : Json, v.normal.normal = v.normal
  | .null => rfl
  | .bool _ => rfl
  | .number _ => rfl
  | .text _ => rfl
  | .list items => by rw [normal, normal, normalItems_normal items]
  | .object members => by
    rw [normal, normal, normalMembers_sorted, normalMembers_normal members,
      sorted_of_rising (sorted_rising _)]

theorem normalItems_normal : ∀ items : List Json,
    normalItems (normalItems items) = normalItems items
  | [] => rfl
  | v :: rest => by rw [normalItems, normalItems, normal_normal v, normalItems_normal rest]

theorem normalMembers_normal : ∀ members : List (String × Json),
    normalMembers (normalMembers members) = normalMembers members
  | [] => rfl
  | (n, v) :: rest => by
    rw [normalMembers, normalMembers, normal_normal v, normalMembers_normal rest]

end

mutual

/-- Data that was read before is read again as its normal form. -/
theorem read_ofJson : ∀ v : Json, (Doc.ofJson v).read .data = .ok v.normal
  | .null => rfl
  | .bool _ => rfl
  | .number _ => rfl
  | .text _ => rfl
  | .list items => by
    simp only [Doc.ofJson, Doc.read, Setting.enter, bind, Except.bind, readItems_ofItems items]
    rfl
  | .object members => by
    simp only [Doc.ofJson, Doc.read, Setting.enter, bind, Except.bind,
      readMembers_ofMembers members]
    rfl

theorem readItems_ofItems : ∀ items : List Json,
    readItems .data (Doc.ofItems items) = .ok (normalItems items)
  | [] => rfl
  | v :: rest => by
    rw [Doc.ofItems, readItems, read_ofJson v, readItems_ofItems rest]
    rfl

theorem readMembers_ofMembers : ∀ members : List (String × Json),
    readMembers .data (Doc.ofMembers members) = .ok (normalMembers members)
  | [] => rfl
  | (n, v) :: rest => by
    rw [Doc.ofMembers, readMembers, read_ofJson v, readMembers_ofMembers rest]
    rfl

end

end Intake.Json
