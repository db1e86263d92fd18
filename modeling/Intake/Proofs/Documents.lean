import Intake.Json.Decode
import Intake.Proofs.Normal
import Intake.Proofs.Tokens
import Mathlib.Data.List.Forall2
import Mathlib.Data.List.Perm.Basic

/-!
Documents of a text. What can be read of one can be passed over; and where no object repeats a name,
data does not depend on the order of the members.
-/
namespace Intake.Json

namespace Doc

section Soundness

/-- Whoever can read a name or a value in the document can pass over it. -/
inductive Sound : Doc → Prop
  | scalar {r : Reading Scalar} : r.Sound → Sound (.scalar r)
  | text {r : Reading String} : r.Sound → Sound (.text r)
  | list {items : List Doc} {ending : Ending} :
      (∀ d ∈ items, Sound d) → Sound (.list items ending)
  | object {members : List (Reading String × Doc)} {ending : Ending} :
      (∀ m ∈ members, m.1.Sound) → (∀ m ∈ members, Sound m.2) → Sound (.object members ending)
  | absent (f : Fault) : Sound (.absent f)

inductive Frame.Sound : Frame → Prop
  | list {items : List Doc} : (∀ d ∈ items, d.Sound) → Sound (.list items)
  | object {members : List (Reading String × Doc)} {name : Reading String} :
      (∀ m ∈ members, m.1.Sound) → (∀ m ∈ members, m.2.Sound) → name.Sound →
        Sound (.object members name)

def Step.Sound : Step → Prop
  | .done d => d.Sound
  | .abandoned d => d.Sound
  | .go p => ∀ f ∈ p.frames, f.Sound

variable {d : Doc} {f : Frame} {frames : List Frame}

theorem Frame.Sound.add (value : d.Sound) (sound : f.Sound) : (f.add d).Sound := by
  cases sound with
  | list items => exact .list (List.forall_mem_cons.mpr ⟨value, items⟩)
  | object names values name =>
    exact .object (List.forall_mem_cons.mpr ⟨name, names⟩)
      (List.forall_mem_cons.mpr ⟨value, values⟩) name

theorem Frame.Sound.close (ending : Ending) (sound : f.Sound) : (f.close ending).Sound := by
  cases sound with
  | list items => exact .list fun d among => items d (List.mem_reverse.mp among)
  | object names values name =>
    exact .object (fun m among => names m (List.mem_reverse.mp among))
      fun m among => values m (List.mem_reverse.mp among)

theorem abandon_sound (value : d.Sound) (sound : ∀ f ∈ frames, f.Sound) :
    (abandon d frames).Sound := by
  induction frames generalizing d with
  | nil => exact value
  | cons f frames ih =>
    obtain ⟨first, sound⟩ := List.forall_mem_cons.mp sound
    exact ih ((first.add value).close .closed) sound

theorem settle_sound (value : d.Sound) (sound : ∀ f ∈ frames, f.Sound) :
    (settle d frames).Sound := by
  cases frames with
  | nil => exact value
  | cons f frames =>
    obtain ⟨first, sound⟩ := List.forall_mem_cons.mp sound
    exact List.forall_mem_cons.mpr ⟨first.add value, sound⟩

theorem stopWith_sound (value : d.Sound) (sound : ∀ f ∈ frames, f.Sound) :
    (stopWith d frames).Sound :=
  abandon_sound value sound

theorem cutAll_sound (read skipped : Fault) (sound : ∀ f ∈ frames, f.Sound) :
    (cutAll read skipped frames).Sound := by
  cases frames with
  | nil => exact .absent read
  | cons f frames =>
    obtain ⟨first, sound⟩ := List.forall_mem_cons.mp sound
    exact abandon_sound (first.close _) sound

theorem closeTop_sound (sound : ∀ f ∈ frames, f.Sound) : (closeTop frames).Sound := by
  cases frames with
  | nil => exact .absent _
  | cons f frames =>
    obtain ⟨first, sound⟩ := List.forall_mem_cons.mp sound
    exact settle_sound (first.close _) sound

theorem onValue_sound {t : Token} (token : t.Sound) (sound : ∀ f ∈ frames, f.Sound) :
    (onValue frames t).Sound := by
  cases t with
  | scalar r =>
    exact iteInduction (fun _ => settle_sound (.scalar token) sound)
      fun _ => stopWith_sound (.scalar token) sound
  | text r =>
    exact iteInduction (fun _ => settle_sound (.text token) sound)
      fun _ => stopWith_sound (.text token) sound
  | openList => exact List.forall_mem_cons.mpr ⟨.list (by simp), sound⟩
  | openObject =>
    exact List.forall_mem_cons.mpr ⟨.object (by simp) (by simp) fun _ _ => rfl, sound⟩
  | _ => exact stopWith_sound (.absent _) sound

theorem onName_sound {r : Reading String} (name : r.Sound) (sound : ∀ f ∈ frames, f.Sound) :
    (onName r frames).Sound := by
  unfold onName
  split
  · obtain ⟨first, sound⟩ := List.forall_mem_cons.mp sound
    cases first with
    | object names values _ =>
      have named := List.forall_mem_cons.mpr ⟨Frame.Sound.object names values name, sound⟩
      split
      · exact named
      · exact cutAll_sound _ _ named
      · exact cutAll_sound _ _ named
  · exact stopWith_sound (.absent _) sound

theorem step_sound {p : Place} {t : Token} (token : t.Sound) (sound : ∀ f ∈ p.frames, f.Sound) :
    (step p t).Sound := by
  unfold step
  split
  · exact onValue_sound token sound
  · exact closeTop_sound sound
  · exact onValue_sound token sound
  · exact cutAll_sound _ _ sound
  · exact onValue_sound token sound
  · exact closeTop_sound sound
  · exact onName_sound token sound
  · exact cutAll_sound _ _ sound
  · exact cutAll_sound _ _ sound
  · exact onName_sound token sound
  · exact cutAll_sound _ _ sound
  · exact sound
  · exact stopWith_sound (.absent _) sound
  · split <;> first
      | exact sound
      | exact closeTop_sound sound
      | exact cutAll_sound _ _ sound

theorem atEnd_sound {p : Place} (sound : ∀ f ∈ p.frames, f.Sound) : (atEnd p).Sound := by
  unfold atEnd
  split <;> try first
    | exact stopWith_sound (.absent _) sound
    | exact cutAll_sound _ _ sound
  split <;> exact cutAll_sound _ _ sound

theorem Step.finish_sound {s : Step} (sound : s.Sound) : s.finish.doc.Sound := by
  cases s with
  | go p => exact .absent _
  | _ => exact sound

theorem build_sound (p : Place) (ts : List Token) (tokens : ∀ t ∈ ts, t.Sound)
    (sound : ∀ f ∈ p.frames, f.Sound) : (build p ts).doc.Sound := by
  induction ts generalizing p with
  | nil => exact Step.finish_sound (atEnd_sound sound)
  | cons t ts ih =>
    obtain ⟨first, tokens⟩ := List.forall_mem_cons.mp tokens
    have kept := step_sound first sound
    rw [build]
    split
    · rename_i d stepped
      rwa [stepped] at kept
    · rename_i d stepped
      rwa [stepped] at kept
    · rename_i next stepped
      rw [stepped] at kept
      exact ih next tokens kept

theorem ofText_sound (s : String) : (ofText s).doc.Sound :=
  build_sound _ _ (scan_sound _ _) (by simp)

end Soundness

end Doc

section Distinct

def namesOf (members : List (Reading String × Doc)) : List String :=
  members.filterMap fun m => m.1.value.toOption

mutual

def Doc.distinct : Doc → Bool
  | .list items _ => distinctItems items
  | .object members _ => decide (namesOf members).Nodup && distinctMembers members
  | .scalar _ | .text _ | .absent _ => true

def distinctItems : List Doc → Bool
  | [] => true
  | d :: rest => d.distinct && distinctItems rest

def distinctMembers : List (Reading String × Doc) → Bool
  | [] => true
  | (_, d) :: rest => d.distinct && distinctMembers rest

end

theorem distinctItems_iff (items : List Doc) :
    distinctItems items = true ↔ ∀ d ∈ items, d.distinct = true := by
  induction items with
  | nil => simp [distinctItems]
  | cons d rest ih => simp [distinctItems, ih]

theorem distinctMembers_iff (members : List (Reading String × Doc)) :
    distinctMembers members = true ↔ ∀ m ∈ members, m.2.distinct = true := by
  induction members with
  | nil => simp [distinctMembers]
  | cons m rest ih => simp [distinctMembers, ih]

theorem Doc.distinct_list {items : List Doc} {ending : Ending} :
    (Doc.list items ending).distinct = true ↔ ∀ d ∈ items, d.distinct = true := by
  rw [distinct, distinctItems_iff]

theorem Doc.distinct_object {members : List (Reading String × Doc)} {ending : Ending} :
    (Doc.object members ending).distinct = true ↔
      (namesOf members).Nodup ∧ ∀ m ∈ members, m.2.distinct = true := by
  rw [distinct, Bool.and_eq_true, decide_eq_true_eq, distinctMembers_iff]

end Distinct

section Reading

theorem bind_eq_ok {ε α β : Type} {x : Except ε α} {f : α → Except ε β} {b : β} :
    (x >>= f) = .ok b ↔ ∃ a, x = .ok a ∧ f a = .ok b := by
  cases x <;> simp [bind, Except.bind]

theorem seq_eq_ok {ε β : Type} {x : Except ε Unit} {y : Except ε β} {b : β} :
    (x >>= fun _ => y) = .ok b ↔ x = .ok () ∧ y = .ok b := by
  cases x <;> simp [bind, Except.bind]

theorem exists_of_forall₂ {α β : Type} {R : α → β → Prop} {as : List α} {bs : List β}
    (related : List.Forall₂ R as bs) {a : α} (among : a ∈ as) : ∃ b ∈ bs, R a b := by
  induction related with
  | nil => cases among
  | cons first _ ih =>
    obtain rfl | later := List.mem_cons.mp among
    · exact ⟨_, List.mem_cons_self, first⟩
    · obtain ⟨b, inside, related⟩ := ih later
      exact ⟨b, List.mem_cons_of_mem _ inside, related⟩

theorem Ending.read_eq_ok {ending : Ending} : ending.read = .ok () ↔ ending = .closed := by
  cases ending <;> simp [read]

theorem container_ok {α : Type} {s : Setting} {inside : Setting → Except Fault α} {ending : Ending}
    {make : α → Json} {v : Json} :
    (do
      let xs ← inside (← s.enter)
      ending.read
      return make xs) = Except.ok v ↔
      ∃ t xs, s.enter = .ok t ∧ inside t = .ok xs ∧ ending = .closed ∧ v = make xs := by
  constructor
  · intro read
    obtain ⟨t, entered, read⟩ := bind_eq_ok.mp read
    obtain ⟨xs, content, read⟩ := bind_eq_ok.mp read
    obtain ⟨closed, made⟩ := seq_eq_ok.mp read
    exact ⟨t, xs, entered, content, Ending.read_eq_ok.mp closed, (Except.ok.inj made).symm⟩
  · rintro ⟨t, xs, entered, content, rfl, rfl⟩
    simp only [entered, content, bind, Except.bind]
    rfl

theorem Doc.read_list {s : Setting} {items : List Doc} {ending : Ending} {v : Json} :
    (Doc.list items ending).read s = .ok v ↔
      ∃ t vs, s.enter = .ok t ∧ readItems t items = .ok vs ∧ ending = .closed ∧ v = .list vs := by
  rw [read]
  exact container_ok

theorem Doc.read_object {s : Setting} {members : List (Reading String × Doc)} {ending : Ending}
    {v : Json} :
    (Doc.object members ending).read s = .ok v ↔
      ∃ t ms, s.enter = .ok t ∧ readMembers t members = .ok ms ∧ ending = .closed ∧
        v = .object (sorted ms) := by
  rw [read]
  exact container_ok

theorem readItems_ok {s : Setting} {items : List Doc} {vs : List Json} :
    readItems s items = .ok vs ↔ List.Forall₂ (fun d v => d.read s = .ok v) items vs := by
  induction items generalizing vs with
  | nil => cases vs <;> simp [readItems]
  | cons d rest ih =>
    rw [readItems, List.forall₂_cons_left_iff]
    constructor
    · intro read
      obtain ⟨v, first, read⟩ := bind_eq_ok.mp read
      obtain ⟨vs, later, read⟩ := bind_eq_ok.mp read
      exact ⟨v, vs, first, ih.mp later, (Except.ok.inj read).symm⟩
    · rintro ⟨v, vs, first, later, rfl⟩
      simp only [first, ih.mpr later, bind, Except.bind]
      rfl

theorem readMembers_ok {s : Setting} {members : List (Reading String × Doc)}
    {ms : List (String × Json)} :
    readMembers s members = .ok ms ↔
      List.Forall₂ (fun m p => m.1.value = .ok p.1 ∧ m.2.read s = .ok p.2) members ms := by
  induction members generalizing ms with
  | nil => cases ms <;> simp [readMembers]
  | cons m rest ih =>
    obtain ⟨name, d⟩ := m
    rw [readMembers, List.forall₂_cons_left_iff]
    constructor
    · intro read
      obtain ⟨n, named, read⟩ := bind_eq_ok.mp read
      obtain ⟨v, first, read⟩ := bind_eq_ok.mp read
      obtain ⟨ms, later, read⟩ := bind_eq_ok.mp read
      exact ⟨(n, v), ms, ⟨named, first⟩, ih.mp later, (Except.ok.inj read).symm⟩
    · rintro ⟨⟨n, v⟩, ms, ⟨named, first⟩, later, rfl⟩
      dsimp only at named first
      simp only [named, first, ih.mpr later, bind, Except.bind]
      rfl

theorem skipItems_ok (items : List Doc) :
    skipItems items = .ok () ↔ ∀ d ∈ items, d.skip = .ok () := by
  induction items with
  | nil => simp [skipItems]
  | cons d rest ih => simp [skipItems, seq_eq_ok, ih]

theorem skipMembers_ok (members : List (Reading String × Doc)) :
    skipMembers members = .ok () ↔ ∀ m ∈ members, m.1.skip = .ok () ∧ m.2.skip = .ok () := by
  induction members with
  | nil => simp [skipMembers]
  | cons m rest ih => simp [skipMembers, seq_eq_ok, ih, and_assoc]

theorem Doc.Sound.skip {d : Doc} (sound : d.Sound) {s : Setting} {v : Json}
    (read : d.read s = .ok v) : d.skip = .ok () := by
  induction sound generalizing s v with
  | scalar sound =>
    obtain ⟨sc, value, _⟩ := bind_eq_ok.mp read
    rw [Doc.skip, Reading.skip, sound sc value]
  | text sound =>
    obtain ⟨t, value, _⟩ := bind_eq_ok.mp read
    rw [Doc.skip, Reading.skip, sound t value]
  | list sound ih =>
    obtain ⟨t, vs, entered, inside, rfl, rfl⟩ := Doc.read_list.mp read
    rw [Doc.skip, seq_eq_ok, skipItems_ok]
    refine ⟨fun d among => ?_, rfl⟩
    obtain ⟨v, _, read⟩ := exists_of_forall₂ (readItems_ok.mp inside) among
    exact ih d among read
  | object names sound ih =>
    obtain ⟨t, ms, entered, inside, rfl, rfl⟩ := Doc.read_object.mp read
    rw [Doc.skip, seq_eq_ok, skipMembers_ok]
    refine ⟨fun m among => ?_, rfl⟩
    obtain ⟨p, _, named, read⟩ := exists_of_forall₂ (readMembers_ok.mp inside) among
    exact ⟨by rw [Reading.skip, names m among p.1 named], ih m among read⟩
  | absent f => cases read

theorem normalItems_eq (items : List Json) : normalItems items = items.map normal := by
  induction items with
  | nil => rfl
  | cons v rest ih => rw [normalItems, ih, List.map_cons]

theorem normalItems_of_forall {items : List Json} (normal : ∀ v ∈ items, v.normal = v) :
    normalItems items = items := by
  rw [normalItems_eq, List.map_congr_left normal, List.map_id']

theorem normalMembers_of_forall {members : List (String × Json)}
    (normal : ∀ m ∈ members, m.2.normal = m.2) : normalMembers members = members := by
  have same : ∀ m ∈ members, (m.1, m.2.normal) = m := fun m among =>
    Prod.ext rfl (normal m among)
  rw [normalMembers_eq, List.map_congr_left same, List.map_id']

theorem Doc.Sound.read_normal {d : Doc} (sound : d.Sound) {s : Setting} {v : Json}
    (read : d.read s = .ok v) : v.normal = v := by
  induction sound generalizing s v with
  | scalar _ =>
    obtain ⟨sc, _, read⟩ := bind_eq_ok.mp read
    cases sc <;> (cases read; rfl)
  | text _ =>
    obtain ⟨t, _, read⟩ := bind_eq_ok.mp read
    cases read
    rfl
  | list _ ih =>
    obtain ⟨t, vs, _, inside, rfl, rfl⟩ := Doc.read_list.mp read
    have items : ∀ v ∈ vs, v.normal = v := fun v among => by
      obtain ⟨d, among, read⟩ := exists_of_forall₂ (readItems_ok.mp inside).flip among
      exact ih d among read
    rw [normal, normalItems_of_forall items]
  | object _ _ ih =>
    obtain ⟨t, ms, _, inside, rfl, rfl⟩ := Doc.read_object.mp read
    have members : ∀ p ∈ ms, p.2.normal = p.2 := fun p among => by
      obtain ⟨m, among, _, read⟩ := exists_of_forall₂ (readMembers_ok.mp inside).flip among
      exact ih m among read
    rw [normal, normalMembers_sorted, normalMembers_of_forall members,
      sorted_of_rising (sorted_rising ms)]
  | absent f => cases read

theorem namesOf_eq {members : List (Reading String × Doc)} {ms : List (String × Json)}
    (named : List.Forall₂ (fun m p => m.1.value = .ok p.1) members ms) :
    namesOf members = ms.map Prod.fst := by
  induction named with
  | nil => rfl
  | cons first _ ih => simp [namesOf, first, Except.toOption, ← ih]

end Reading

section Holding

/-- The document is sound, repeats no name, and so many containers may open around its data. -/
structure Doc.Holds (levels : Nat) (d : Doc) (v : Json) : Prop where
  sound : d.Sound
  distinct : d.distinct = true
  read : d.read (.text levels) = .ok v

structure HoldsMember (levels : Nat) (m : Reading String × Doc) (p : String × Json) : Prop where
  name : m.1 = ⟨.ok p.1, none⟩
  value : m.2.Holds levels p.2

def isAtom : Json → Bool
  | .list _ | .object _ => false
  | _ => true

inductive Doc.Form : Nat → Doc → Json → Prop
  | atom {levels : Nat} {d : Doc} {v : Json} : v.isAtom = true → d = ofJson v → Form levels d v
  | list {levels : Nat} {items : List Doc} {vs : List Json} :
      List.Forall₂ (Holds levels) items vs → Form (levels + 1) (.list items .closed) (.list vs)
  | object {levels : Nat} {members : List (Reading String × Doc)} {ms : List (String × Json)} :
      List.Forall₂ (HoldsMember levels) members ms → (ms.map Prod.fst).Nodup →
        Form (levels + 1) (.object members .closed) (.object (sorted ms))

theorem Setting.enter_text {levels : Nat} {t : Setting} (entered : (text levels).enter = .ok t) :
    ∃ inner, levels = inner + 1 ∧ t = .text inner := by
  cases levels with
  | zero => cases entered
  | succ inner => exact ⟨inner, rfl, (Except.ok.inj entered).symm⟩

theorem Doc.Holds.form {levels : Nat} {d : Doc} {v : Json} (holds : d.Holds levels v) :
    d.Form levels v := by
  obtain ⟨sound, distinct, read⟩ := holds
  cases sound with
  | @scalar r sound =>
    obtain ⟨sc, value, read⟩ := bind_eq_ok.mp read
    -- a reading that is sound and has a value has no fault
    have whole : r = ⟨.ok sc, none⟩ := by rw [← value, ← sound sc value]
    subst whole
    cases sc <;> (cases read; exact .atom rfl rfl)
  | @text r sound =>
    obtain ⟨t, value, read⟩ := bind_eq_ok.mp read
    have whole : r = ⟨.ok t, none⟩ := by rw [← value, ← sound t value]
    subst whole
    cases read
    exact .atom rfl rfl
  | list sound =>
    obtain ⟨t, vs, entered, inside, rfl, rfl⟩ := Doc.read_list.mp read
    obtain ⟨inner, rfl, rfl⟩ := Setting.enter_text entered
    have whole := (List.forall₂_and_left _ _).mpr ⟨sound, (List.forall₂_and_left _ _).mpr
      ⟨Doc.distinct_list.mp distinct, readItems_ok.mp inside⟩⟩
    exact .list (whole.imp fun d v held => ⟨held.1, held.2.1, held.2.2⟩)
  | object names sound =>
    obtain ⟨t, ms, entered, inside, rfl, rfl⟩ := Doc.read_object.mp read
    obtain ⟨inner, rfl, rfl⟩ := Setting.enter_text entered
    obtain ⟨apart, distinct⟩ := Doc.distinct_object.mp distinct
    have whole := (List.forall₂_and_left _ _).mpr ⟨names, (List.forall₂_and_left _ _).mpr
      ⟨sound, (List.forall₂_and_left _ _).mpr ⟨distinct, readMembers_ok.mp inside⟩⟩⟩
    rw [namesOf_eq ((readMembers_ok.mp inside).imp fun _ _ held => held.1)] at apart
    refine .object (whole.imp fun m p held => ?_) apart
    obtain ⟨name, sound, distinct, value, read⟩ := held
    exact ⟨by rw [← value, ← name p.1 value], sound, distinct, read⟩
  | absent f => cases read

end Holding

section Shuffling

/-- The members of some objects, at any depth, stand in another order. -/
inductive Doc.Shuffled : Doc → Doc → Prop
  | refl (d : Doc) : Shuffled d d
  | trans {d d' d'' : Doc} : Shuffled d d' → Shuffled d' d'' → Shuffled d d''
  | members {members members' : List (Reading String × Doc)} {ending : Ending} :
      members.Perm members' → Shuffled (.object members ending) (.object members' ending)
  | item {before after : List Doc} {ending : Ending} {d d' : Doc} : Shuffled d d' →
      Shuffled (.list (before ++ d :: after) ending) (.list (before ++ d' :: after) ending)
  | member {before after : List (Reading String × Doc)} {ending : Ending} {name : Reading String}
      {d d' : Doc} : Shuffled d d' →
      Shuffled (.object (before ++ (name, d) :: after) ending)
        (.object (before ++ (name, d') :: after) ending)

theorem forall₂_replace {α β : Type} {R : α → β → Prop} {before after : List α} {a a' : α}
    {bs : List β} (stronger : ∀ b, R a b → R a' b)
    (related : List.Forall₂ R (before ++ a :: after) bs) :
    List.Forall₂ R (before ++ a' :: after) bs := by
  induction before generalizing bs with
  | nil =>
    cases related with
    | cons first later => exact .cons (stronger _ first) later
  | cons x before ih =>
    cases related with
    | cons first later => exact .cons first (ih later)

/-- In whatever order the members stand, the same data is read, and no name is repeated. -/
theorem Doc.Shuffled.kept {d d' : Doc} (shuffled : d.Shuffled d') {s : Setting} {v : Json}
    (distinct : d.distinct = true) (read : d.read s = .ok v) :
    d'.distinct = true ∧ d'.read s = .ok v := by
  induction shuffled generalizing s v with
  | refl d => exact ⟨distinct, read⟩
  | trans _ _ first second =>
    obtain ⟨distinct, read⟩ := first distinct read
    exact second distinct read
  | members perm =>
    obtain ⟨apart, distinct⟩ := Doc.distinct_object.mp distinct
    obtain ⟨t, ms, entered, inside, closed, rfl⟩ := Doc.read_object.mp read
    -- the data is shuffled in the same way, and sorting it undoes that where no name is repeated
    obtain ⟨ms', inside', perm'⟩ := List.perm_comp_forall₂ perm.symm (readMembers_ok.mp inside)
    refine ⟨Doc.distinct_object.mpr ⟨(perm.filterMap _).nodup_iff.mp apart,
        fun m among => distinct m (perm.mem_iff.mpr among)⟩,
      Doc.read_object.mpr ⟨t, ms', entered, readMembers_ok.mpr inside', closed, ?_⟩⟩
    rw [namesOf_eq ((readMembers_ok.mp inside).imp fun _ _ held => held.1)] at apart
    rw [sorted_eq_of_perm apart perm'.symm]
  | @item before after ending d d' _ ih =>
    have distinct := Doc.distinct_list.mp distinct
    obtain ⟨t, vs, entered, inside, closed, rfl⟩ := Doc.read_list.mp read
    have inside := readItems_ok.mp inside
    have here : d.distinct = true := distinct d (by simp)
    have inside' : List.Forall₂ _ (before ++ d' :: after) vs :=
      forall₂_replace (a := d) (fun v read => (ih here read).2) inside
    refine ⟨Doc.distinct_list.mpr ?_,
      Doc.read_list.mpr ⟨t, vs, entered, readItems_ok.mpr inside', closed, rfl⟩⟩
    obtain ⟨v, _, read⟩ := exists_of_forall₂ inside (a := d) (by simp)
    simp only [List.forall_mem_append, List.forall_mem_cons] at distinct ⊢
    exact ⟨distinct.1, (ih here read).1, distinct.2.2⟩
  | @member before after ending name d d' _ ih =>
    obtain ⟨apart, distinct⟩ := Doc.distinct_object.mp distinct
    obtain ⟨t, ms, entered, inside, closed, rfl⟩ := Doc.read_object.mp read
    have inside := readMembers_ok.mp inside
    have here : d.distinct = true := distinct (name, d) (by simp)
    have inside' : List.Forall₂ _ (before ++ (name, d') :: after) ms :=
      forall₂_replace (a := (name, d)) (fun p held => ⟨held.1, (ih here held.2).2⟩) inside
    refine ⟨Doc.distinct_object.mpr ⟨?_, ?_⟩,
      Doc.read_object.mpr ⟨t, ms, entered, readMembers_ok.mpr inside', closed, rfl⟩⟩
    · simpa [namesOf, List.filterMap_cons] using apart
    · obtain ⟨p, _, _, read⟩ := exists_of_forall₂ inside (a := (name, d)) (by simp)
      simp only [List.forall_mem_append, List.forall_mem_cons] at distinct ⊢
      exact ⟨distinct.1, (ih here read).1, distinct.2.2⟩

end Shuffling

end Intake.Json
