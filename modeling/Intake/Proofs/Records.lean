import Intake.Proofs.Coincidence

/-!
Records in text and in data. The fields of a record are found alike in both, whether it is written
as an object, in any order and with other members among them, or as a list.
-/
namespace Intake.Json

section Objects

theorem lookup_kept (fields : List (String × (Json → Json))) (name : String)
    (members : List (String × Json)) :
    (members.filterMap fun m => (fields.lookup m.1).map fun keep => (m.1, keep m.2)).lookup name =
      (fields.lookup name).bind fun keep => (members.lookup name).map keep := by
  induction members with
  | nil => simp
  | cons m rest ih =>
    obtain ⟨n, v⟩ := m
    rw [lookup_member, List.filterMap_cons]
    by_cases here : name = n
    · subst here
      cases known : fields.lookup name with
      | none => simpa [known] using ih
      | some keep => simp
    · cases known : fields.lookup n with
      | none => simpa [here] using ih
      | some keep => simpa [here, lookup_member] using ih

theorem memberNamed_cons {m : Reading String × Doc} {n : String} (named : m.1.value = .ok n)
    (rest : List (Reading String × Doc)) (name : String) :
    memberNamed (m :: rest) name = if n = name then some m.2 else memberNamed rest name := by
  simp only [memberNamed, List.find?_cons, named]
  by_cases here : n = name
  · simp [here]
  · simp [here, beq_false_of_ne here]

theorem memberNamed_of_unnamed {members : List (Reading String × Doc)} {name : String}
    (unnamed : name ∉ namesOf members) : memberNamed members name = none := by
  rw [memberNamed, Option.map_eq_none_iff, List.find?_eq_none]
  intro m among
  cases value : m.1.value with
  | error f => simp
  | ok n =>
    have named : n ∈ namesOf members :=
      List.mem_filterMap.mpr ⟨m, among, by rw [value, toOption_ok]⟩
    have apart : n ≠ name := fun same => unnamed (same ▸ named)
    simpa using apart

theorem memberNamed_holds {levels : Nat} {members : List (Reading String × Doc)}
    {ms : List (String × Json)} (held : List.Forall₂ (HoldsMember levels) members ms)
    (name : String) :
    memberNamed members name = none ∧ ms.lookup name = none ∨
      ∃ d v, memberNamed members name = some d ∧ ms.lookup name = some v ∧ d.Holds levels v := by
  induction held with
  | nil => exact .inl ⟨rfl, rfl⟩
  | @cons m p members ms first _ ih =>
    rw [memberNamed_cons (congrArg Reading.value first.name), lookup_member]
    by_cases here : p.1 = name
    · exact .inr ⟨m.2, p.2, if_pos here, if_pos here.symm, first.value⟩
    · rwa [if_neg here, if_neg (Ne.symm here)]

def Checked (checks : List (String × Decoder Unit)) (s : Setting)
    (members : List (Reading String × Doc)) : Prop :=
  ∀ name check d, checks.lookup name = some check → memberNamed members name = some d →
    check s d = .ok ()

variable {checks : List (String × Decoder Unit)} {other : Decoder Unit} {s : Setting}

theorem checked_cons {m : Reading String × Doc} {n : String} (named : m.1.value = .ok n)
    {rest : List (Reading String × Doc)} (unnamed : n ∉ namesOf rest) :
    Checked checks s (m :: rest) ↔
      (∀ check, checks.lookup n = some check → check s m.2 = .ok ()) ∧ Checked checks s rest := by
  have absent := memberNamed_of_unnamed unnamed
  simp only [Checked, memberNamed_cons named]
  constructor
  · intro all
    refine ⟨fun check known => all n check m.2 known (if_pos rfl), ?_⟩
    intro name check d known found
    have apart : n ≠ name := by
      rintro rfl
      cases absent.symm.trans found
    exact all name check d known (by rwa [if_neg apart])
  · rintro ⟨first, later⟩ name check d known found
    split at found
    · rename_i here
      subst here
      cases found
      exact first check known
    · exact later name check d known found

section Step

variable {m : Reading String × Doc} {rest : List (Reading String × Doc)} {n : String}
  {seen : List String}

theorem checkMembers_unknown (value : m.1.value = .ok n) (unknown : checks.lookup n = none) :
    checkMembers checks other s seen (m :: rest) = .ok () ↔
      other s m.2 = .ok () ∧ checkMembers checks other s seen rest = .ok () := by
  rw [checkMembers, value]
  simp only [bind, Except.bind, unknown]
  exact seq_eq_ok

theorem checkMembers_known {check : Decoder Unit} (value : m.1.value = .ok n)
    (known : checks.lookup n = some check) (fresh : n ∉ seen) :
    checkMembers checks other s seen (m :: rest) = .ok () ↔
      check s m.2 = .ok () ∧ checkMembers checks other s (n :: seen) rest = .ok () := by
  rw [checkMembers, value]
  simp only [bind, Except.bind, known, if_neg fresh]
  exact seq_eq_ok

end Step

/-- The order of the members does not matter to their checks. -/
theorem checkMembers_ok {members : List (Reading String × Doc)} (seen : List String)
    (named : ∀ m ∈ members, ∃ n, m.1.value = .ok n) (fresh : ∀ n ∈ namesOf members, n ∉ seen)
    (distinct : (namesOf members).Nodup) (others : ∀ m ∈ members, other s m.2 = .ok ()) :
    checkMembers checks other s seen members = .ok () ↔ Checked checks s members := by
  induction members generalizing seen with
  | nil => simp [checkMembers, Checked, memberNamed]
  | cons m rest ih =>
    obtain ⟨⟨n, value⟩, named⟩ := List.forall_mem_cons.mp named
    obtain ⟨passedOver, others⟩ := List.forall_mem_cons.mp others
    have names : namesOf (m :: rest) = n :: namesOf rest := by
      simp [namesOf, value, toOption_ok]
    rw [names] at fresh distinct
    obtain ⟨unseen, fresh⟩ := List.forall_mem_cons.mp fresh
    obtain ⟨unnamed, distinct⟩ := List.nodup_cons.mp distinct
    rw [checked_cons value unnamed]
    cases known : checks.lookup n with
    | none =>
      rw [checkMembers_unknown value known, ih seen named fresh distinct others]
      simp [passedOver]
    | some check =>
      -- the name counts as seen from here on, and does not come again
      have fresh' : ∀ n' ∈ namesOf rest, n' ∉ n :: seen := by
        intro n' among
        simpa using ⟨ne_of_mem_of_not_mem among unnamed, fresh n' among⟩
      rw [checkMembers_known value known unseen, ih (n :: seen) named fresh' distinct others]
      simp

theorem checkMembers_start {members : List (Reading String × Doc)} {ms : List (String × Json)}
    (named : List.Forall₂ (fun m p => m.1.value = .ok p.1) members ms)
    (distinct : (ms.map Prod.fst).Nodup) (others : ∀ m ∈ members, other s m.2 = .ok ()) :
    checkMembers checks other s [] members = .ok () ↔ Checked checks s members := by
  rw [← namesOf_eq named] at distinct
  refine checkMembers_ok [] (fun m among => ?_) (fun _ _ => List.not_mem_nil) distinct others
  obtain ⟨p, _, value⟩ := exists_of_forall₂ named among
  exact ⟨p.1, value⟩

theorem forall₂_ofMembers (ms : List (String × Json)) :
    List.Forall₂ (fun m p => m.1.value = .ok p.1 ∧ m.2 = .ofJson p.2) (Doc.ofMembers ms) ms := by
  induction ms with
  | nil => exact .nil
  | cons p rest ih => exact .cons ⟨rfl, rfl⟩ ih

theorem lookup_sorted {ms : List (String × Json)} (distinct : (ms.map Prod.fst).Nodup)
    (name : String) : (sorted ms).lookup name = ms.lookup name := by
  rw [sorted, lookup_foldl_put, List.append_nil]
  cases found : ms.lookup name with
  | none =>
    rw [List.lookup_eq_none_iff] at found ⊢
    exact fun m among => found m (List.mem_reverse.mp among)
  | some v => exact lookup_reverse_of_mem distinct (mem_of_lookup found)

theorem rising_of_normal {ms : List (String × Json)}
    (normal : (Json.object ms).normal = .object ms) : Rising ms := by
  rw [Json.normal] at normal
  exact Json.object.inj normal ▸ sorted_rising _

theorem lookup_normal {ms : List (String × Json)} (normal : (Json.object ms).normal = .object ms)
    {name : String} {v : Json} (found : ms.lookup name = some v) : v.normal = v := by
  have inNormal := get?_normal name ms
  rw [normal, get?, found] at inNormal
  obtain ⟨w, _, rfl⟩ := Option.map_eq_some_iff.mp inNormal.symm
  exact normal_normal w

variable {fields : List (String × (Json → Json))} {levels : Nat}
  {members : List (Reading String × Doc)} {ms ms' : List (String × Json)}

theorem lookupMembers_alike (unique : (fields.map Prod.fst).Nodup)
    (held : List.Forall₂ (HoldsMember levels) members ms) (distinct : (ms.map Prod.fst).Nodup)
    (normal : (Json.object ms').normal = .object ms')
    (kept : only fields (.object ms') = only fields (.object (sorted ms))) :
    Lookup.Alike fields levels (lookupMembers (.text levels) members)
      (lookupMembers .data (Doc.ofMembers ms')) := by
  refine ⟨rfl, rfl, fun (name, keep) among => ?_⟩
  have same : (ms'.lookup name).map keep = (ms.lookup name).map keep := by
    have lookups := congrArg (List.lookup name) (Json.object.inj kept)
    rwa [lookup_kept, lookup_kept, lookup_of_mem unique among, Option.bind_some, Option.bind_some,
      lookup_sorted distinct] at lookups
  obtain ⟨unnamed, absent⟩ | ⟨d, v, named, found, holds⟩ := memberNamed_holds held name
  · rw [absent, Option.map_none, Option.map_eq_none_iff] at same
    exact .none unnamed ((memberNamed_ofMembers name ms').trans (by rw [same, Option.map_none]))
  · rw [found, Option.map_some, Option.map_eq_some_iff] at same
    obtain ⟨v', found', kept⟩ := same
    exact .some named ((memberNamed_ofMembers name ms').trans (by rw [found', Option.map_some]))
      ⟨lookup_normal normal found', v, holds, kept⟩

variable {α : Type} {shape : Shape α}

theorem Checked.alike {members' : List (Reading String × Doc)} (coincides : shape.Coincides fields)
    (alike : Lookup.Alike fields levels (lookupMembers (.text levels) members)
      (lookupMembers .data members')) :
    Checked shape.fields (.text levels) members ↔ Checked shape.fields .data members' := by
  have each (name : String) (check : Decoder Unit) (known : shape.fields.lookup name = some check) :
      (∀ d, memberNamed members name = some d → check (.text levels) d = .ok ()) ↔
        ∀ d, memberNamed members' name = some d → check .data d = .ok () := by
    obtain ⟨field, among, rfl, same⟩ := exists_of_forall₂ coincides.checks (mem_of_lookup known)
    have here : FoundAlike field.2 levels (memberNamed members field.1)
        (memberNamed members' field.1) := alike.found field among
    cases here with
    | none first second => simp [first, second]
    | some first second alike =>
      simp only [first, second, Option.some.injEq, forall_eq']
      rw [← toOption_eq_some, same levels _ _ alike, toOption_eq_some]
  constructor
  · intro checked name check d known
    exact (each name check known).mp (fun d => checked name check d known) d
  · intro checked name check d known
    exact (each name check known).mpr (fun d => checked name check d known) d

theorem toOption_record_object {name : String} {s t : Setting} (entered : s.enter = .ok t)
    (members : List (Reading String × Doc)) :
    (Decode.record name shape s (.object members .closed)).toOption =
      (checkMembers shape.fields (fun _ d => d.skip) t [] members).toOption.bind fun _ =>
        (shape.build (lookupMembers t members)).toOption := by
  simp only [Decode.record, entered, toOption_bind, toOption_ok, Option.bind_some, Ending.read]

theorem passed_alike (coincides : shape.Coincides fields)
    (alike : Lookup.Alike fields levels (lookupMembers (.text levels) members)
      (lookupMembers .data (Doc.ofMembers ms')))
    (held : List.Forall₂ (HoldsMember levels) members ms) (distinct : (ms.map Prod.fst).Nodup)
    (distinct' : (ms'.map Prod.fst).Nodup) :
    checkMembers shape.fields (fun _ d => d.skip) (.text levels) [] members = .ok () ↔
      checkMembers shape.fields (fun _ d => d.skip) .data [] (Doc.ofMembers ms') = .ok () := by
  have others : ∀ m ∈ members, m.2.skip = .ok () := fun m among => by
    obtain ⟨p, _, _, value⟩ := exists_of_forall₂ held among
    exact value.sound.skip value.read
  have others' : ∀ m ∈ Doc.ofMembers ms', m.2.skip = .ok () := fun m among => by
    obtain ⟨p, _, _, value⟩ := exists_of_forall₂ (forall₂_ofMembers ms') among
    rw [value, skip_ofJson]
  have named := held.imp fun _ _ held => congrArg Reading.value held.name
  have named' := (forall₂_ofMembers ms').imp fun _ _ held => held.1
  rw [checkMembers_start named distinct others, checkMembers_start named' distinct' others']
  exact Checked.alike coincides alike

theorem record_object (name : String) (coincides : shape.Coincides fields)
    (unique : (fields.map Prod.fst).Nodup)
    (held : List.Forall₂ (HoldsMember levels) members ms) (distinct : (ms.map Prod.fst).Nodup)
    (normal : (Json.object ms').normal = .object ms')
    (kept : only fields (.object ms') = only fields (.object (sorted ms))) :
    (Decode.record name shape (.text (levels + 1)) (.object members .closed)).toOption =
      (Decode.record name shape .data (.ofJson (.object ms'))).toOption := by
  have alike := lookupMembers_alike unique held distinct normal kept
  have distinct' : (ms'.map Prod.fst).Nodup :=
    List.pairwise_map.mpr ((rising_of_normal normal).imp ne_of_lt)
  have passed : (checkMembers shape.fields (fun _ d => d.skip) (.text levels) [] members).toOption =
      (checkMembers shape.fields (fun _ d => d.skip) .data [] (Doc.ofMembers ms')).toOption := by
    refine Option.ext fun _ => ?_
    rw [toOption_eq_some, toOption_eq_some]
    exact passed_alike coincides alike held distinct distinct'
  rw [toOption_record_object (t := .text levels) rfl, Doc.ofJson,
    toOption_record_object (t := .data) rfl, passed, coincides.build levels _ _ alike]

end Objects

section Lists

theorem keepItems_length (keeps : List (Json → Json)) (vs : List Json) :
    (keepItems keeps vs).length = vs.length := by
  fun_induction keepItems keeps vs with
  | case1 keep keeps v rest ih => simp [ih]
  | case2 => rfl

theorem keepItems_getElem? {keeps : List (Json → Json)} {keep : Json → Json} {i : Nat}
    (listed : keeps[i]? = some keep) (vs : List Json) :
    (keepItems keeps vs)[i]? = vs[i]?.map keep := by
  fun_induction keepItems keeps vs generalizing i with
  | case1 first keeps v rest ih =>
    cases i with
    | zero => simp_all
    | succ i => simpa using ih (by simpa using listed)
  | case2 keeps vs short =>
    cases keeps with
    | nil => simp at listed
    | cons first keeps =>
      cases vs with
      | nil => simp
      | cons v rest => exact (short _ _ _ _ rfl rfl).elim

theorem ofItems_eq (vs : List Json) : Doc.ofItems vs = vs.map Doc.ofJson := by
  induction vs with
  | nil => rfl
  | cons v rest ih => rw [Doc.ofItems, ih, List.map_cons]

theorem items_holds {levels : Nat} {items : List Doc} {vs : List Json}
    (held : List.Forall₂ (Doc.Holds levels) items vs) (i : Nat) :
    items[i]? = none ∧ vs[i]? = none ∨
      ∃ d v, items[i]? = some d ∧ vs[i]? = some v ∧ d.Holds levels v := by
  induction held generalizing i with
  | nil => exact .inl ⟨rfl, rfl⟩
  | cons first _ ih =>
    cases i with
    | zero => exact .inr ⟨_, _, rfl, rfl, first⟩
    | succ i => exact ih i

theorem items_normal {vs : List Json} (normal : (Json.list vs).normal = .list vs) :
    ∀ v ∈ vs, v.normal = v := by
  rw [Json.normal, normalItems_eq] at normal
  intro v among
  rw [← Json.list.inj normal] at among
  obtain ⟨w, _, rfl⟩ := List.mem_map.mp among
  exact normal_normal w

theorem lookupItems_find (s : Setting) (names : List String) (items : List Doc)
    (short : Nat → Fault) (name : String) :
    (lookupItems s names items .closed short).find name = items[names.idxOf name]? := by
  simp only [lookupItems]
  split <;> simp_all

variable {fields : List (String × (Json → Json))} {levels : Nat} {items : List Doc}
  {vs vs' : List Json}

theorem getElem?_idxOf (unique : (fields.map Prod.fst).Nodup) {name : String} {keep : Json → Json}
    (among : (name, keep) ∈ fields) :
    (fields.map Prod.snd)[(fields.map Prod.fst).idxOf name]? = some keep := by
  obtain ⟨i, inside, here⟩ := List.mem_iff_getElem.mp among
  have inside' : i < (fields.map Prod.fst).length := by simpa using inside
  have place : (fields.map Prod.fst).idxOf name = i := by
    have named : (fields.map Prod.fst)[i] = name := by simp [here]
    rw [← named, unique.idxOf_getElem]
  simp [place, here, inside]

theorem lookupItems_alike (unique : (fields.map Prod.fst).Nodup)
    (held : List.Forall₂ (Doc.Holds levels) items vs)
    (normal : (Json.list vs').normal = .list vs')
    (kept : only fields (.list vs') = only fields (.list vs)) (short : Nat → Fault) :
    Lookup.Alike fields levels
      (lookupItems (.text levels) (fields.map Prod.fst) items .closed short)
      (lookupItems .data (fields.map Prod.fst) (Doc.ofItems vs') .closed short) := by
  refine ⟨rfl, rfl, fun (name, keep) among => ?_⟩
  have listed := getElem?_idxOf unique among
  generalize place : (fields.map Prod.fst).idxOf name = i at listed
  have same : vs'[i]?.map keep = vs[i]?.map keep := by
    have items := congrArg (fun vs => vs[i]?) (Json.list.inj kept)
    simpa only [keepItems_getElem? listed] using items
  have text : (lookupItems (.text levels) (fields.map Prod.fst) items .closed short).find name =
      items[i]? := by rw [lookupItems_find, place]
  have data : (lookupItems .data (fields.map Prod.fst) (Doc.ofItems vs') .closed short).find name =
      vs'[i]?.map Doc.ofJson := by rw [lookupItems_find, place, ofItems_eq, List.getElem?_map]
  obtain ⟨past, absent⟩ | ⟨d, v, item, found, holds⟩ := items_holds held i
  · rw [absent, Option.map_none, Option.map_eq_none_iff] at same
    exact .none (text.trans past) (data.trans (by rw [same, Option.map_none]))
  · rw [found, Option.map_some, Option.map_eq_some_iff] at same
    obtain ⟨v', found', kept⟩ := same
    exact .some (text.trans item) (data.trans (by rw [found', Option.map_some]))
      ⟨items_normal normal v' (List.mem_of_getElem? found'), v, holds, kept⟩

variable {α : Type} {shape : Shape α}

theorem Shape.Coincides.names (coincides : shape.Coincides fields) :
    shape.fields.map (·.1) = fields.map Prod.fst := by
  have named := coincides.checks.imp fun _ _ same => same.1
  rwa [← List.forall₂_map_right_iff, ← List.forall₂_map_left_iff, List.forall₂_eq_eq_eq] at named

theorem toOption_record_list {name : String} {s t : Setting} (entered : s.enter = .ok t)
    (items : List Doc) :
    (Decode.record name shape s (.list items .closed)).toOption =
      (shape.build (lookupItems t (shape.fields.map (·.1)) items .closed fun present =>
        .wrongLength present (sizeText name shape.fields.length))).toOption.bind fun a =>
          (afterFields t shape.fields.length items .closed).toOption.bind fun _ => some a := by
  simp only [Decode.record, entered, toOption_bind, toOption_ok, Option.bind_some]
  rfl

/-- The number of values is the same, so there are too many in both or in neither. -/
theorem afterFields_alike {size : Nat} (same : items.length = vs'.length) :
    (afterFields (.text levels) size items .closed).toOption =
      (afterFields .data size (Doc.ofItems vs') .closed).toOption := by
  simp only [afterFields, same, ofItems_eq, List.length_map]
  split <;> rfl

theorem record_list (name : String) (coincides : shape.Coincides fields)
    (unique : (fields.map Prod.fst).Nodup)
    (held : List.Forall₂ (Doc.Holds levels) items vs)
    (normal : (Json.list vs').normal = .list vs')
    (kept : only fields (.list vs') = only fields (.list vs)) :
    (Decode.record name shape (.text (levels + 1)) (.list items .closed)).toOption =
      (Decode.record name shape .data (.ofJson (.list vs'))).toOption := by
  have same : items.length = vs'.length := by
    have lengths := congrArg List.length (Json.list.inj kept)
    rw [keepItems_length, keepItems_length] at lengths
    rw [held.length_eq, lengths]
  rw [toOption_record_list (t := .text levels) rfl, Doc.ofJson,
    toOption_record_list (t := .data) rfl, coincides.names,
    coincides.build levels _ _ (lookupItems_alike unique held normal kept _),
    afterFields_alike same]

end Lists

theorem only_atom {fields : List (String × (Json → Json))} {v v' : Json} (isAtom : v.isAtom = true)
    (kept : only fields v' = only fields v) : v' = v := by
  cases v with
  | list _ => cases isAtom
  | object _ => cases isAtom
  | _ => cases v' <;> first | exact kept | cases kept

/-- A record is read alike from a text and from data, if its fields are. -/
theorem Coincides.record {α : Type} {shape : Shape α} {fields : List (String × (Json → Json))}
    (name : String) (coincides : shape.Coincides fields) (unique : (fields.map Prod.fst).Nodup) :
    Coincides (Decode.record name shape) (only fields) := by
  rintro levels d v ⟨normal, read, holds, kept⟩
  cases holds.form with
  | atom isAtom held =>
    obtain rfl := only_atom isAtom kept
    subst held
    cases v with
    | list _ => cases isAtom
    | object _ => cases isAtom
    | _ => rfl
  | list held =>
    cases v with
    | list vs => exact record_list name coincides unique held normal kept
    | _ => cases kept
  | object held distinct =>
    cases v with
    | object ms => exact record_object name coincides unique held distinct normal kept
    | _ => cases kept

end Intake.Json
