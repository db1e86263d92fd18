import Intake.Json.Record
import Intake.Proofs.Normal

/-!
Reading records from data. Where every field of a record finds a value that it takes, the members
pass their checks in whatever order they stand, and the record is read.
-/
namespace Intake.Json

theorem mem_of_lookup {α β : Type} [BEq α] [LawfulBEq α] {key : α} {value : β}
    {entries : List (α × β)} (found : entries.lookup key = some value) :
    (key, value) ∈ entries := by
  obtain ⟨before, after, rfl, _⟩ := List.lookup_eq_some_iff.mp found
  exact List.mem_append_right before List.mem_cons_self

theorem lookup_of_mem {α β : Type} [BEq α] [LawfulBEq α] {key : α} {value : β}
    {entries : List (α × β)} (distinct : (entries.map Prod.fst).Nodup)
    (among : (key, value) ∈ entries) : entries.lookup key = some value := by
  obtain ⟨before, after, rfl⟩ := List.append_of_mem among
  refine List.lookup_eq_some_iff.mpr ⟨before, after, rfl, fun entry earlier => ?_⟩
  rw [List.map_append, List.nodup_append] at distinct
  have differ := distinct.2.2 entry.1 (List.mem_map_of_mem earlier) key (by simp)
  simpa using Ne.symm differ

theorem lookup_reverse_of_mem {α β : Type} [BEq α] [LawfulBEq α] {key : α} {value : β}
    {entries : List (α × β)} (distinct : (entries.map Prod.fst).Nodup)
    (among : (key, value) ∈ entries) : entries.reverse.lookup key = some value := by
  refine lookup_of_mem ?_ (List.mem_reverse.mpr among)
  rw [List.map_reverse]
  exact List.pairwise_reverse.mpr (distinct.imp Ne.symm)

theorem memberNamed_ofMembers (name : String) (members : List (String × Json)) :
    memberNamed (Doc.ofMembers members) name = (members.lookup name).map Doc.ofJson := by
  induction members with
  | nil => rfl
  | cons m rest ih =>
    obtain ⟨n, v⟩ := m
    rw [lookup_member, Doc.ofMembers, memberNamed, List.find?_cons]
    by_cases here : name = n
    · simp [here]
    · have apart : (n == name) = false := beq_false_of_ne (Ne.symm here)
      simp only [apart, here, if_false]
      exact ih

theorem checkMembers_ofMembers {fields : List (String × Decoder Unit)} {other : Decoder Unit}
    {s : Setting} (members : List (String × Json)) (seen : List String) (rising : Rising members)
    (fresh : ∀ m ∈ members, m.1 ∉ seen)
    (checks : ∀ m ∈ members, ∀ check, (m.1, check) ∈ fields → check s (Doc.ofJson m.2) = .ok ())
    (others : ∀ m ∈ members, other s (Doc.ofJson m.2) = .ok ()) :
    checkMembers fields other s seen (Doc.ofMembers members) = .ok () := by
  induction members generalizing seen with
  | nil => rfl
  | cons m rest ih =>
    obtain ⟨n, v⟩ := m
    obtain ⟨below, rising⟩ := List.pairwise_cons.mp rising
    obtain ⟨unseen, fresh⟩ := List.forall_mem_cons.mp fresh
    obtain ⟨first, checks⟩ := List.forall_mem_cons.mp checks
    obtain ⟨passedOver, others⟩ := List.forall_mem_cons.mp others
    rw [Doc.ofMembers, checkMembers]
    simp only [bind, Except.bind]
    cases known : fields.lookup n with
    | none =>
      simp only [passedOver]
      exact ih seen rising fresh checks others
    | some check =>
      simp only [if_neg unseen, first check (mem_of_lookup known)]
      refine ih (n :: seen) rising (fun m among again => ?_) checks others
      obtain rfl | again := List.mem_cons.mp again
      · exact lt_irrefl _ (below m among)
      · exact fresh m among again

mutual

theorem skip_ofJson : ∀ v : Json, (Doc.ofJson v).skip = .ok ()
  | .null => rfl
  | .bool _ => rfl
  | .number _ => rfl
  | .text _ => rfl
  | .list items => by
    simp only [Doc.ofJson, Doc.skip, skipItems_ofItems items]
    rfl
  | .object members => by
    simp only [Doc.ofJson, Doc.skip, skipMembers_ofMembers members]
    rfl

theorem skipItems_ofItems : ∀ items : List Json, skipItems (Doc.ofItems items) = .ok ()
  | [] => rfl
  | v :: rest => by
    simp only [Doc.ofItems, skipItems, skip_ofJson v, skipItems_ofItems rest]
    rfl

theorem skipMembers_ofMembers : ∀ members : List (String × Json),
    skipMembers (Doc.ofMembers members) = .ok ()
  | [] => rfl
  | (n, v) :: rest => by
    simp only [Doc.ofMembers, skipMembers, skip_ofJson v, skipMembers_ofMembers rest]
    rfl

end

def Lookup.ofNormal (members : List (String × Json)) : Lookup :=
  ⟨.data, fun name => (members.reverse.lookup name).map fun v => Doc.ofJson v.normal, .missingField⟩

@[simp]
theorem Lookup.ofNormal_find (members : List (String × Json)) (name : String) :
    (ofNormal members).find name =
      (members.reverse.lookup name).map fun v => Doc.ofJson v.normal := rfl

theorem Lookup.ofNormal_find_of_mem {members : List (String × Json)} {name : String} {v : Json}
    (distinct : (members.map Prod.fst).Nodup) (among : (name, v) ∈ members) :
    (ofNormal members).find name = some (Doc.ofJson v.normal) := by
  rw [ofNormal_find, lookup_reverse_of_mem distinct among, Option.map_some]

@[simp]
theorem lookup_given (name other : String) (o : Option Json) :
    (given name o).reverse.lookup other = if other = name then o else none := by
  cases o with
  | none => simp [given]
  | some v => exact lookup_member name other v []

namespace Shape

variable {α β : Type}

/-- The fields make up this value, and what is found for them passes their checks. -/
structure Accepts (shape : Shape α) (l : Lookup) (a : α) : Prop where
  build : shape.build l = .ok a
  checks : ∀ field ∈ shape.fields, ∀ d, l.find field.1 = some d → field.2 l.setting d = .ok ()

namespace Accepts

variable {l : Lookup} {name : String} {dec : Decoder α} {a fallback : α} {d : Doc}

theorem constant : (constant a).Accepts l a := ⟨rfl, nofun⟩

theorem checking (found : l.find name = some d) (read : dec l.setting d = .ok a) :
    ∀ field ∈ [(name, Shape.checking dec)], ∀ d, l.find field.1 = some d →
      field.2 l.setting d = .ok () := by
  intro field among d' found'
  rw [List.mem_singleton] at among
  rw [among] at found' ⊢
  cases found.symm.trans found'
  simp only [Shape.checking, read]
  rfl

theorem required (found : l.find name = some d) (read : dec l.setting d = .ok a) :
    (required name dec).Accepts l a := by
  refine ⟨?_, checking found read⟩
  simp only [Shape.required, found]
  exact read

theorem defaulted (found : l.find name = some d) (read : dec l.setting d = .ok a) :
    (defaulted name dec fallback).Accepts l a := by
  refine ⟨?_, checking found read⟩
  simp only [Shape.defaulted, found]
  exact read

theorem absent (missing : l.find name = none) :
    (Shape.defaulted name dec fallback).Accepts l fallback := by
  refine ⟨?_, ?_⟩
  · simp only [Shape.defaulted, missing]
  · intro field among d found
    rw [List.mem_singleton.mp among, missing] at found
    cases found

theorem field {f : Shape (α → β)} {g : α → β} {x : Shape α} (first : f.Accepts l g)
    (next : x.Accepts l a) : (f <*> x).Accepts l (g a) := by
  refine ⟨?_, ?_⟩
  · change (do let g ← f.build l; return g (← x.build l)) = _
    rw [first.build, next.build]
    rfl
  · intro field among
    obtain among | among := List.mem_append.mp among
    · exact first.checks field among
    · exact next.checks field among

end Accepts

end Shape

namespace Decode

theorem any_normal (v : Json) : any .data (Doc.ofJson v.normal) = .ok v.normal := by
  rw [any, read_ofJson, normal_normal]

theorem text_normal (s : String) : text .data (Doc.ofJson (Json.text s).normal) = .ok s := rfl

theorem bool_normal (b : Bool) : bool .data (Doc.ofJson (Json.bool b).normal) = .ok b := rfl

theorem nat_normal (n : Nat) : nat .data (Doc.ofJson (Json.nat n).normal) = .ok n := by
  simp [Json.nat, normal, Doc.ofJson, nat]

theorem real_normal {x : Float} (finite : x.isFinite = true) :
    real .data (Doc.ofJson (Json.real x).normal) = .ok x := by
  rw [Json.real, if_pos finite]
  rfl

end Decode

theorem Decode.option_normal {α : Type} {dec : Decoder α} {v : Json} {a : α}
    (something : v ≠ .null) (read : dec .data (Doc.ofJson v.normal) = .ok a) :
    Decode.option dec .data (Doc.ofJson v.normal) = .ok (some a) := by
  cases v with
  | null => exact absurd rfl something
  | _ =>
    simp only [normal, Doc.ofJson] at read ⊢
    simp only [Decode.option, read]
    rfl

theorem Decode.list_normal {α : Type} {dec : Decoder α} {write : α → Json} {as : List α}
    (read : ∀ a ∈ as, dec .data (Doc.ofJson (write a).normal) = .ok a) :
    Decode.list dec .data (Doc.ofJson (normal (.list (as.map write)))) = .ok as := by
  have items : Decode.items dec .data (Doc.ofItems (normalItems (as.map write))) = .ok as := by
    induction as with
    | nil => rfl
    | cons a rest ih =>
      obtain ⟨first, later⟩ := List.forall_mem_cons.mp read
      simp only [List.map_cons, normalItems, Doc.ofItems, Decode.items, first, ih later, bind,
        Except.bind]
      rfl
  simp only [normal, Doc.ofJson, Decode.list, Setting.enter, items, bind, Except.bind]
  rfl

theorem Shape.Accepts.optional {α β : Type} {l : Lookup} {name : String} {dec : Decoder α}
    {given : Option β} {write : β → Json} {readBack : β → α} (data : l.setting = .data)
    (found : l.find name = given.map fun b => Doc.ofJson (write b).normal)
    (something : ∀ b, write b ≠ .null)
    (read : ∀ b, dec .data (Doc.ofJson (write b).normal) = .ok (readBack b)) :
    (optional name dec).Accepts l (given.map readBack) := by
  cases given with
  | none => exact absent found
  | some b =>
    refine defaulted found ?_
    rw [data]
    exact Decode.option_normal (something b) (read b)

theorem lookupMembers_normal (members : List (String × Json)) :
    lookupMembers .data (Doc.ofMembers (sorted (normalMembers members))) = .ofNormal members := by
  rw [lookupMembers, Lookup.ofNormal]
  congr 1
  funext n
  have inNormal := get?_normal n members
  rw [normal, get?] at inNormal
  rw [memberNamed_ofMembers, inNormal, Option.map_map]
  rfl

theorem Shape.Accepts.checked {α : Type} {shape : Shape α} {a : α}
    {members : List (String × Json)} (other : Decoder Unit) (rising : Rising members)
    (accepts : shape.Accepts (lookupMembers .data (Doc.ofMembers members)) a)
    (others : ∀ v, other .data (Doc.ofJson v) = .ok ()) :
    checkMembers shape.fields other .data [] (Doc.ofMembers members) = .ok () := by
  refine checkMembers_ofMembers members [] rising (fun _ _ => List.not_mem_nil) ?_
    fun m _ => others m.2
  intro m among check known
  refine accepts.checks _ known _ ?_
  exact (memberNamed_ofMembers _ _).trans
    (congrArg (Option.map Doc.ofJson) (lookup_of_rising rising among))

/-- A record is read from the normal form of what was written for it. -/
theorem Decode.record_normal {α : Type} {name : String} {shape : Shape α} {a : α}
    {members : List (String × Json)} (accepts : shape.Accepts (.ofNormal members) a) :
    Decode.record name shape .data (Doc.ofJson (normal (.object members))) = .ok a := by
  rw [← lookupMembers_normal] at accepts
  have checked := accepts.checked (fun _ d => d.skip) (sorted_rising _) skip_ofJson
  simp only [normal, Doc.ofJson, Decode.record, Setting.enter, bind, Except.bind, checked,
    accepts.build]
  rfl

section Flattened

theorem lookup_filter (keep : String → Bool) (name : String) (members : List (String × Json)) :
    (members.filter fun m => keep m.1).lookup name =
      if keep name then members.lookup name else none := by
  induction members with
  | nil => simp
  | cons m rest ih =>
    obtain ⟨n, v⟩ := m
    by_cases here : name = n
    · subst here
      cases kept : keep name <;> simp [kept, ih]
    · have apart : (name == n) = false := beq_false_of_ne here
      cases kept : keep n <;> simp [List.lookup_cons, kept, apart, ih]

theorem filter_ofMembers (keep : String → Bool) {keepDoc : Reading String × Doc → Bool}
    (same : ∀ n d, keepDoc (⟨.ok n, none⟩, d) = keep n) (members : List (String × Json)) :
    (Doc.ofMembers members).filter keepDoc = Doc.ofMembers (members.filter fun m => keep m.1) := by
  induction members with
  | nil => rfl
  | cons m rest ih =>
    obtain ⟨n, v⟩ := m
    cases kept : keep n <;> simp [Doc.ofMembers, same, kept, ih]

variable {α β : Type} {name : String} {own : Shape (β → α)} {inner : Shape β} {make : β → α} {b : β}
  {members : List (String × Json)}

/-- A record that holds an inner one is read from the normal form of what was written for both, as
long as they share no name. -/
theorem Decode.flattened_normal
    (apart : ∀ name ∈ inner.fields.map Prod.fst, name ∉ own.fields.map Prod.fst)
    (outer : own.Accepts (.ofNormal members) make)
    (within : ∀ l : Lookup, l.setting = .data →
      (∀ field ∈ inner.fields, l.find field.1 = (Lookup.ofNormal members).find field.1) →
      inner.Accepts l b) :
    Decode.flattened name own inner .data (Doc.ofJson (normal (.object members))) =
      .ok (make b) := by
  rw [← lookupMembers_normal] at outer within
  generalize inOrder : sorted (normalMembers members) = ms at outer within
  have rising : Rising ms := inOrder ▸ sorted_rising _
  let keep (n : String) := (inner.fields.lookup n).isSome && (own.fields.lookup n).isNone
  have readable (v : Json) : Shape.checking any .data (Doc.ofJson v) = .ok () := by
    simp only [Shape.checking, any, read_ofJson]
    rfl
  -- the inner record finds its members among those that the outer one has left
  have found : inner.Accepts
      (lookupMembers .data (Doc.ofMembers (ms.filter fun m => keep m.1))) b := by
    refine within _ rfl fun field among => ?_
    have left : keep field.1 = true := by
      have listed : (inner.fields.lookup field.1).isSome = true := by
        rw [Option.isSome_iff_ne_none, Ne, List.lookup_eq_none_iff]
        exact fun absent => by simpa using absent field among
      have free : own.fields.lookup field.1 = none := by
        rw [List.lookup_eq_none_iff]
        intro other owned
        have differ := apart field.1 (List.mem_map_of_mem among)
        simpa using fun same => differ (List.mem_map.mpr ⟨other, owned, Eq.symm same⟩)
      simp [keep, free, listed]
    change memberNamed _ _ = memberNamed _ _
    rw [memberNamed_ofMembers, memberNamed_ofMembers, lookup_filter, if_pos left]
  have outside := outer.checked (Shape.checking any) rising readable
  have inside := found.checked (fun _ _ => .ok ()) (List.Pairwise.filter _ rising) fun _ => rfl
  simp only [normal, inOrder, Doc.ofJson, Decode.flattened, Setting.enter, bind, Except.bind,
    Ending.read, outside, outer.build]
  rw [filter_ofMembers keep fun _ _ => rfl]
  simp only [inside, found.build]
  rfl

end Flattened

end Intake.Json
