import Intake.Proofs.Agreement

/-!
Filling in the connection is an override that happens once. What is configured is looked at first,
then the flag, and only then is the catalog asked. A search that fails leaves the source as it was,
and after one that has found a connection there is nothing left to search for.
-/
namespace Intake

def Effect.lookup? : Effect → Option (ServiceKind × String)
  | .lookedUp kind name => some (kind, name)
  | _ => none

def lookupsIn (trace : List Effect) : List (ServiceKind × String) :=
  trace.filterMap Effect.lookup?

theorem lookupsIn_logged (entries : List Log.Entry) : lookupsIn (entries.map .logged) = [] :=
  (logs_inner entries).view _ fun e h => by cases e <;> first | rfl | cases h

/-- The catalog knows the service, with a connection that has something in it. -/
def Catalog.Stores (catalog : Catalog) (kind : ServiceKind) (name : String) (c : Connection) :
    Prop :=
  ∃ service, catalog.lookup kind name = .ok (some service) ∧ service.connection = some c ∧
    c.isEmpty = false

theorem usableConnection_some {found : Option Service} {c : Connection} :
    usableConnection found = some c ↔
      ∃ service, found = some service ∧ service.connection = some c ∧ c.isEmpty = false := by
  rw [usableConnection, Option.filter_eq_some_iff, Option.bind_eq_some_iff]
  constructor
  · rintro ⟨⟨service, here, known⟩, full⟩
    exact ⟨service, here, known, by simpa using full⟩
  · rintro ⟨service, here, known, full⟩
    exact ⟨⟨service, here, known⟩, by simpa using full⟩

theorem Catalog.stores_iff {catalog : Catalog} {kind : ServiceKind} {name : String}
    {found : Option Service} (answered : catalog.lookup kind name = .ok found) (c : Connection) :
    catalog.Stores kind name c ↔ usableConnection found = some c := by
  simp [Catalog.Stores, answered, usableConnection_some]

/-- The catalog has been asked for this one service, and its answer decides. -/
structure Answered (catalog : Catalog) (source : Config.Source) (kind : ServiceKind)
    (r : Resolved) : Prop where
  asked : lookupsIn r.effects = [(kind, source.serviceName)]
  found : r.result = .ok .fromCatalog ↔ ∃ c, catalog.Stores kind source.serviceName c
  filled : ∀ c, catalog.Stores kind source.serviceName c →
    r.source = { source with connection := some c }
  failed : ∀ e, r.result = .error (.lookupFailed source.serviceName
      catalog.config.secretsManagerProvider e) ↔
    catalog.lookup kind source.serviceName = .error e
  missing : r.result = .error (.connectionNotFound source.serviceName) ↔
    (∃ found, catalog.lookup kind source.serviceName = .ok found) ∧
      ∀ c, ¬ catalog.Stores kind source.serviceName c
  unchanged : r.result ≠ .ok .fromCatalog → r.source = source
  decided : r.result = .ok .fromCatalog ∨
    r.result = .error (.connectionNotFound source.serviceName) ∨
    ∃ e, r.result = .error (.lookupFailed source.serviceName
      catalog.config.secretsManagerProvider e)

structure Searched (catalog : Catalog) (source : Config.Source) (kind : ServiceKind)
    (r : Resolved) : Prop where
  provided : source.hasConnection = true →
    r.result = .ok .alreadyProvided ∧ r.source = source ∧ lookupsIn r.effects = []
  forced : source.hasConnection = false → catalog.config.forceEntityOverwriting = true →
    r.result = .ok .overwriteForced ∧ r.source = source ∧ lookupsIn r.effects = []
  answered : source.hasConnection = false → catalog.config.forceEntityOverwriting = false →
    Answered catalog source kind r

section Searching

variable {catalog : Catalog} {source : Config.Source} {kind : ServiceKind}

theorem resolve_provided (catalog : Catalog) (kind : ServiceKind)
    (filled : source.hasConnection = true) :
    ∃ entry, resolve catalog source kind = ⟨source, .ok .alreadyProvided, [.logged entry]⟩ :=
  ⟨_, by rw [resolve, if_pos filled]⟩

theorem resolve_forced (kind : ServiceKind) (unfilled : source.hasConnection = false)
    (force : catalog.config.forceEntityOverwriting = true) :
    ∃ entry, resolve catalog source kind = ⟨source, .ok .overwriteForced, [.logged entry]⟩ :=
  ⟨_, by rw [resolve, if_neg (by simp [unfilled]), if_pos force]⟩

section Asking

variable (unfilled : source.hasConnection = false)
  (allowed : catalog.config.forceEntityOverwriting = false)

include unfilled allowed

theorem resolve_failed {e : StepError}
    (answer : catalog.lookup kind source.serviceName = .error e) :
    ∃ logs : List Log.Entry, resolve catalog source kind =
      ⟨source,
        .error (.lookupFailed source.serviceName catalog.config.secretsManagerProvider e),
        .lookedUp kind source.serviceName :: logs.map .logged⟩ := by
  simp only [resolve, unfilled, allowed, answer, Bool.false_eq_true, if_false]
  exact ⟨[_, _], rfl⟩

variable {found : Option Service} (answer : catalog.lookup kind source.serviceName = .ok found)

include answer

theorem resolve_found {c : Connection} (usable : usableConnection found = some c) :
    ∃ logs : List Log.Entry, resolve catalog source kind =
      ⟨{ source with connection := some c }, .ok .fromCatalog,
        .lookedUp kind source.serviceName :: logs.map .logged⟩ := by
  simp only [resolve, unfilled, allowed, answer, usable, Bool.false_eq_true, if_false]
  exact ⟨[_], rfl⟩

theorem resolve_missing (unusable : usableConnection found = none) :
    ∃ logs : List Log.Entry, resolve catalog source kind =
      ⟨source, .error (.connectionNotFound source.serviceName),
        .lookedUp kind source.serviceName :: logs.map .logged⟩ := by
  simp only [resolve, unfilled, allowed, answer, unusable, Bool.false_eq_true, if_false]
  exact ⟨[], rfl⟩

end Asking

theorem lookupsIn_asked (kind : ServiceKind) (name : String) (logs : List Log.Entry) :
    lookupsIn (.lookedUp kind name :: logs.map .logged) = [(kind, name)] :=
  congrArg ((kind, name) :: ·) (lookupsIn_logged logs)

theorem resolve_answered (unfilled : source.hasConnection = false)
    (allowed : catalog.config.forceEntityOverwriting = false) :
    Answered catalog source kind (resolve catalog source kind) := by
  cases answer : catalog.lookup kind source.serviceName with
  | error e =>
    obtain ⟨logs, same⟩ := resolve_failed unfilled allowed answer
    have nothing : ∀ c, ¬ catalog.Stores kind source.serviceName c := by
      rintro c ⟨service, known, _⟩
      rw [answer] at known
      cases known
    rw [same]
    refine ⟨lookupsIn_asked _ _ logs, ?_, fun c stored => absurd stored (nothing c), ?_, ?_,
      fun _ => rfl, .inr (.inr ⟨e, rfl⟩)⟩ <;> simp [answer, nothing, eq_comm]
  | ok found =>
    have stores := Catalog.stores_iff answer
    -- a service without a connection counts as one that is not there
    cases usable : usableConnection found with
    | some c =>
      obtain ⟨logs, same⟩ := resolve_found unfilled allowed answer usable
      have stored : ∀ d, catalog.Stores kind source.serviceName d ↔ c = d := by
        simp [stores, usable]
      rw [same]
      refine ⟨lookupsIn_asked _ _ logs, ?_, ?_, ?_, ?_, fun other => absurd rfl other, .inl rfl⟩
      · simp [stored]
      · intro d known
        rw [(stored d).mp known]
      · simp [answer]
      · simp [stored]
    | none =>
      obtain ⟨logs, same⟩ := resolve_missing unfilled allowed answer usable
      have nothing : ∀ c, ¬ catalog.Stores kind source.serviceName c := by simp [stores, usable]
      rw [same]
      refine ⟨lookupsIn_asked _ _ logs, ?_, fun c stored => absurd stored (nothing c), ?_, ?_,
        fun _ => rfl, .inr (.inl rfl)⟩ <;> simp [answer, nothing]

theorem resolve_searched (catalog : Catalog) (source : Config.Source) (kind : ServiceKind) :
    Searched catalog source kind (resolve catalog source kind) where
  provided := by
    intro filled
    obtain ⟨entry, same⟩ := resolve_provided catalog kind filled
    rw [same]
    exact ⟨rfl, rfl, rfl⟩
  forced := by
    intro unfilled force
    obtain ⟨entry, same⟩ := resolve_forced kind unfilled force
    rw [same]
    exact ⟨rfl, rfl, rfl⟩
  answered := resolve_answered

end Searching

/-- One search for each of these kinds, every time for what the earlier ones have left. -/
def resolveAll (catalog : Catalog) (source : Config.Source) : List ServiceKind → List Resolved
  | [] => []
  | kind :: rest =>
    let r := resolve catalog source kind
    r :: resolveAll catalog r.source rest

def sourceAfter (catalog : Catalog) (source : Config.Source) (kinds : List ServiceKind) :
    Config.Source :=
  kinds.foldl (fun s kind => (resolve catalog s kind).source) source

def Resolved.isOverride (r : Resolved) : Bool :=
  match r.result with
  | .ok .fromCatalog => true
  | _ => false

theorem Resolved.isOverride_iff {r : Resolved} :
    r.isOverride = true ↔ r.result = .ok .fromCatalog := by
  unfold isOverride
  split <;> simp_all

section Sequences

variable {catalog : Catalog} {source : Config.Source}

theorem resolveAll_append (before after : List ServiceKind) :
    resolveAll catalog source (before ++ after) =
      resolveAll catalog source before ++
        resolveAll catalog (sourceAfter catalog source before) after := by
  induction before generalizing source with
  | nil => rfl
  | cons kind rest ih => exact congrArg (resolve catalog source kind :: ·) ih

theorem resolveAll_length (kinds : List ServiceKind) :
    (resolveAll catalog source kinds).length = kinds.length := by
  induction kinds generalizing source with
  | nil => rfl
  | cons kind rest ih => exact congrArg (· + 1) ih

theorem resolveAll_steady (steady : ∀ kind, (resolve catalog source kind).source = source)
    (kinds : List ServiceKind) :
    resolveAll catalog source kinds = kinds.map (resolve catalog source) := by
  induction kinds with
  | nil => rfl
  | cons kind rest ih => rw [resolveAll, steady, ih, List.map_cons]

theorem sourceAfter_frame (kinds : List ServiceKind) :
    sourceAfter catalog source kinds =
      { source with connection := (sourceAfter catalog source kinds).connection } := by
  induction kinds generalizing source with
  | nil => rfl
  | cons kind rest ih =>
    have first : (resolve catalog source kind).source = _ :=
      (resolve_frame catalog source kind).1
    have later : sourceAfter catalog source (kind :: rest) =
        sourceAfter catalog (resolve catalog source kind).source rest := rfl
    rw [later, ih, first]

theorem resolveAll_provided (filled : source.hasConnection = true) (kinds : List ServiceKind) :
    ∀ r ∈ resolveAll catalog source kinds,
      r.result = .ok .alreadyProvided ∧ r.source = source ∧ lookupsIn r.effects = [] := by
  have searched := fun kind => (resolve_searched catalog source kind).provided filled
  rw [resolveAll_steady fun kind => (searched kind).2.1]
  exact List.forall_mem_map.mpr fun kind _ => searched kind

theorem resolve_fills {kind : ServiceKind}
    (overrides : (resolve catalog source kind).result = .ok .fromCatalog) :
    (resolve catalog source kind).source.hasConnection = true := by
  obtain ⟨provided, forced, answered⟩ := resolve_searched catalog source kind
  cases filled : source.hasConnection with
  | true => rw [(provided filled).2.1, filled]
  | false =>
    cases force : catalog.config.forceEntityOverwriting with
    | true =>
      rw [(forced filled force).1] at overrides
      cases overrides
    | false =>
      have answer := answered filled force
      obtain ⟨c, stored⟩ := answer.found.mp overrides
      have full : c.isEmpty = false := by
        obtain ⟨_, _, _, full⟩ := stored
        exact full
      rw [answer.filled c stored]
      simp [Config.Source.hasConnection, full]

theorem resolveAll_later {kinds : List ServiceKind} {before after : List Resolved} {r : Resolved}
    (split : resolveAll catalog source kinds = before ++ r :: after)
    (overrides : r.result = .ok .fromCatalog) :
    ∀ t ∈ after, t.result = .ok .alreadyProvided ∧ t.source = r.source ∧
      lookupsIn t.effects = [] := by
  induction kinds generalizing source before with
  | nil => cases before <;> cases split
  | cons kind rest ih =>
    cases before with
    | nil =>
      obtain ⟨rfl, rfl⟩ := List.cons_eq_cons.mp split
      exact resolveAll_provided (resolve_fills overrides) rest
    | cons first before =>
      obtain ⟨_, later⟩ := List.cons_eq_cons.mp split
      exact ih later

theorem resolveAll_once (kinds : List ServiceKind) :
    (resolveAll catalog source kinds).countP Resolved.isOverride ≤ 1 := by
  induction kinds generalizing source with
  | nil => exact Nat.zero_le 1
  | cons kind rest ih =>
    cases override : (resolve catalog source kind).isOverride with
    | false =>
      rw [resolveAll, List.countP_cons_of_neg (by simp [override])]
      exact ih
    | true =>
      have filled := resolve_fills (Resolved.isOverride_iff.mp override)
      have none : (resolveAll catalog (resolve catalog source kind).source rest).countP
          Resolved.isOverride = 0 := by
        refine List.countP_eq_zero.mpr fun r member => ?_
        simp [Resolved.isOverride, (resolveAll_provided filled rest r member).1]
      exact Nat.le_of_eq ((List.countP_cons_of_pos override).trans (congrArg (· + 1) none))

end Sequences

/-- What a list of searches comes to, one after the other for the same source. -/
structure OverriddenOnce (catalog : Catalog) (source : Config.Source) (kinds : List ServiceKind) :
    Prop where
  each : ∀ before kind after, kinds = before ++ kind :: after →
    let s := sourceAfter catalog source before
    (resolveAll catalog source kinds)[before.length]? = some (resolve catalog s kind) ∧
      Searched catalog s kind (resolve catalog s kind)
  frame : sourceAfter catalog source kinds =
    { source with connection := (sourceAfter catalog source kinds).connection }
  once : (resolveAll catalog source kinds).countP Resolved.isOverride ≤ 1
  later : ∀ before r after, resolveAll catalog source kinds = before ++ r :: after →
    r.result = .ok .fromCatalog →
    ∀ t ∈ after, t.result = .ok .alreadyProvided ∧ t.source = r.source ∧ lookupsIn t.effects = []
  /-- What is configured, or else the flag, keeps the catalog from being asked at all. -/
  untroubled : source.hasConnection = true ∨ catalog.config.forceEntityOverwriting = true →
    ∀ r ∈ resolveAll catalog source kinds, r.source = source ∧ lookupsIn r.effects = []

/-- For every source, every catalog and all its answers. -/
theorem resolveAll_overrides_once (catalog : Catalog) (source : Config.Source)
    (kinds : List ServiceKind) : OverriddenOnce catalog source kinds where
  each := by
    rintro before kind after rfl s
    refine ⟨?_, resolve_searched catalog s kind⟩
    rw [resolveAll_append, List.getElem?_append_right (Nat.le_of_eq (resolveAll_length before)),
      resolveAll_length, Nat.sub_self]
    rfl
  frame := sourceAfter_frame kinds
  once := resolveAll_once kinds
  later := fun _ _ _ => resolveAll_later
  untroubled := by
    intro kept
    have left : ∀ kind, (resolve catalog source kind).source = source ∧
        lookupsIn (resolve catalog source kind).effects = [] := by
      intro kind
      obtain ⟨provided, forced, _⟩ := resolve_searched catalog source kind
      cases filled : source.hasConnection with
      | true => exact (provided filled).2
      | false => exact (forced filled (kept.resolve_left (by simp [filled]))).2
    rw [resolveAll_steady fun kind => (left kind).1]
    exact List.forall_mem_map.mpr fun kind _ => left kind

def patchyCatalog : Catalog where
  config := .default
  lookup := fun kind name =>
    match kind with
    | .dashboard => .error (.ofMessage "connection refused")
    | .database => .ok (some ⟨name, kind, some ⟨.object []⟩⟩)
    | .pipeline => .ok (some ⟨name, kind, some (.ofType "Airflow")⟩)
    | _ => .ok none
  onClose := .done

theorem resolveAll_overrides_once_patchy :
    let source : Config.Source := ⟨"airflow", "jobs", none, .null⟩
    let kinds : List ServiceKind := [.dashboard, .database, .search, .pipeline, .pipeline]
    let searches := resolveAll patchyCatalog source kinds
    searches.map (fun r => lookupsIn r.effects) =
        [[(.dashboard, "jobs")], [(.database, "jobs")], [(.search, "jobs")],
          [(.pipeline, "jobs")], []] ∧
      searches.countP Resolved.isOverride ≤ 1 ∧
      ∃ r, searches[4]? = some r ∧ r.result = .ok .alreadyProvided ∧
        r.source = { source with connection := some (.ofType "Airflow") } := by
  intro source kinds searches
  have overridden := resolveAll_overrides_once patchyCatalog source kinds
  obtain ⟨last, searched⟩ := overridden.each kinds.dropLast .pipeline [] rfl
  obtain ⟨result, same, _⟩ := searched.provided rfl
  exact ⟨rfl, overridden.once, _, last, result, same⟩

end Intake
