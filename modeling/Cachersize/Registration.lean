import Cachersize.Concurrent.Runs
import Cachersize.Dummy

/-! Static initialisation of a program that links some backends: `Backend.cpp` defines
the two maps of `CacheFactory`, each backend's file registers in both of them. -/
namespace Cachersize

open Concurrent

abbrev BackendFunction (J β : Type) := List (Event J β) → J → Except StdString (Option β)

/-- A `CACHERSIZE_REGISTER_BACKEND` of some translation unit: the name with the two
functions of its `BackendType`. -/
structure BackendRegistration (J β : Type) where
  backend_name : StdString
  create : BackendFunction J β
  openExisting : BackendFunction J β

/-- The dynamic initialisers of the program that matter here. -/
inductive Initialiser (J β : Type) where
  | create_fn
  | open_fn
  | registration (backend : BackendRegistration J β)

/-- The static members of `CacheFactory`, `none` until their constructor has run. -/
structure StaticStorage (J β : Type) where
  create_fn : Option (Finmap fun _ : StdString => BackendFunction J β) := none
  open_fn : Option (Finmap fun _ : StdString => BackendFunction J β) := none

namespace StaticStorage

variable {J β : Type}

/-- One initialiser. Its effect is undefined, here `none`, when it uses a map that is
not constructed yet. -/
def initialise (storage : StaticStorage J β) : Initialiser J β → Option (StaticStorage J β)
  | .create_fn => some { storage with create_fn := some ∅ }
  | .open_fn => some { storage with open_fn := some ∅ }
  | .registration backend => do
    let create_fn ← storage.create_fn
    let open_fn ← storage.open_fn
    return {
      create_fn := some (create_fn.insert backend.backend_name backend.create)
      open_fn := some (open_fn.insert backend.backend_name backend.openExisting) }

def run : List (Initialiser J β) → StaticStorage J β → Option (StaticStorage J β)
  | [], storage => some storage
  | initialiser :: rest, storage => (storage.initialise initialiser).bind (run rest)

end StaticStorage

/-- The orders that the language allows: the definitions of one translation unit are
initialised from top to bottom, those of different ones in any order. -/
structure InitialisationOrder (backends : List (BackendRegistration J β))
    (order : List (Initialiser J β)) : Prop where
  all : order.Perm (.create_fn :: .open_fn :: backends.map .registration)
  unit : List.Sublist [.create_fn, .open_fn] order

/-- The two maps bind the same names, each to the functions of its own backend type. -/
structure Registered (backends : List (BackendRegistration J β)) (factory : CacheFactory J β) : Prop where
  create_fn : ∀ name f, factory.create_fn.lookup name = some f ↔
    ∃ backend ∈ backends, backend.backend_name = name ∧ backend.create = f
  open_fn : ∀ name f, factory.open_fn.lookup name = some f ↔
    ∃ backend ∈ backends, backend.backend_name = name ∧ backend.openExisting = f

/-- Both functions of the factory know no such type, or both reach the same class. -/
def Agree (backends : List (BackendRegistration J β)) (factory : CacheFactory J β)
    (cache_type : StdString) : Prop :=
  (∀ history config, factory.createCache cache_type history config = .ok none ∧
      factory.openCache cache_type history config = .ok none) ∧
    (∀ backend ∈ backends, backend.backend_name ≠ cache_type) ∨
  ∃ backend ∈ backends, backend.backend_name = cache_type ∧ ∀ history config,
    factory.createCache cache_type history config = backend.create history config ∧
      factory.openCache cache_type history config = backend.openExisting history config

/-- No registration is initialised before the two maps are. -/
def RegistersLast (order : List (Initialiser J β)) : Prop :=
  ∀ before backend after, order = before ++ .registration backend :: after →
    .create_fn ∈ before ∧ .open_fn ∈ before

/-- What a registration is to achieve. -/
def RegistersAll (backends : List (BackendRegistration J β)) (order : List (Initialiser J β)) : Prop :=
  ∃ factory : CacheFactory J β,
    StaticStorage.run order {} = some ⟨some factory.create_fn, some factory.open_fn⟩ ∧
    Registered backends factory ∧ ∀ cache_type, Agree backends factory cache_type

namespace StaticStorage

variable {J β : Type} {order before : List (Initialiser J β)} {storage start : StaticStorage J β}

theorem run_repeats : Repeats (initialise (J := J) (β := β)) run := ⟨fun _ => rfl, fun _ _ _ => rfl⟩

theorem run_append (first second : List (Initialiser J β)) (storage : StaticStorage J β) :
    run (first ++ second) storage = (run first storage).bind (run second) :=
  run_repeats.append first second storage

private theorem run_snoc (before : List (Initialiser J β)) (initialiser : Initialiser J β)
    (storage : StaticStorage J β) :
    run (before ++ [initialiser]) storage = (run before storage).bind (·.initialise initialiser) :=
  run_repeats.snoc before initialiser storage

private theorem registration_constructed {backend : BackendRegistration J β} {after : StaticStorage J β}
    (initialised : storage.initialise (.registration backend) = some after) :
    storage.create_fn.isSome ∧ storage.open_fn.isSome := by
  simp only [initialise, Option.bind_eq_bind, Option.bind_eq_some_iff] at initialised
  obtain ⟨create_fn, created, open_fn, opened, -⟩ := initialised
  simp [created, opened]

private theorem constructed_of_run (ran : run order {} = some storage) :
    (storage.create_fn.isSome → .create_fn ∈ order) ∧ (storage.open_fn.isSome → .open_fn ∈ order) := by
  induction order using List.reverseRecOn generalizing storage with
  | nil =>
    cases ran
    simp
  | append_singleton before initialiser ih =>
    rw [run_snoc, Option.bind_eq_some_iff] at ran
    obtain ⟨middle, earlier, initialised⟩ := ran
    have known := ih earlier
    cases initialiser with
    | create_fn =>
      cases initialised
      exact ⟨by simp, fun opened => List.mem_append_left _ (known.2 opened)⟩
    | open_fn =>
      cases initialised
      exact ⟨fun created => List.mem_append_left _ (known.1 created), by simp⟩
    | registration backend =>
      obtain ⟨created, opened⟩ := registration_constructed initialised
      exact ⟨fun _ => List.mem_append_left _ (known.1 created),
        fun _ => List.mem_append_left _ (known.2 opened)⟩

private theorem registersLast_of_run (ran : run order {} = some storage) : RegistersLast order := by
  intro before backend after split
  rw [split, run_append, Option.bind_eq_some_iff] at ran
  obtain ⟨middle, earlier, remaining⟩ := ran
  obtain ⟨later, initialised, -⟩ := Option.bind_eq_some_iff.mp remaining
  obtain ⟨created, opened⟩ := registration_constructed initialised
  have known := constructed_of_run earlier
  exact ⟨known.1 created, known.2 opened⟩

def registrations (order : List (Initialiser J β)) : List (BackendRegistration J β) :=
  order.filterMap fun initialiser => match initialiser with
    | .registration backend => some backend
    | _ => none

/-- A map after some registrations: the entry of a name is the last one made for it. -/
def table (f : BackendRegistration J β → BackendFunction J β) (backends : List (BackendRegistration J β)) :
    Finmap fun _ : StdString => BackendFunction J β :=
  (backends.reverse.map fun backend => Sigma.mk backend.backend_name (f backend)).toFinmap

private theorem table_snoc (f : BackendRegistration J β → BackendFunction J β)
    (backends : List (BackendRegistration J β)) (backend : BackendRegistration J β) :
    table f (backends ++ [backend]) = (table f backends).insert backend.backend_name (f backend) := by
  rw [table, List.reverse_append, List.reverse_singleton, List.singleton_append, List.map_cons,
    Finmap.toFinmap_cons, table]

private theorem lookup_table {f : BackendRegistration J β → BackendFunction J β}
    {backends : List (BackendRegistration J β)}
    (distinct : (backends.map (·.backend_name)).Nodup) (name : StdString) (found : BackendFunction J β) :
    (table f backends).lookup name = some found ↔
      ∃ backend ∈ backends, backend.backend_name = name ∧ f backend = found := by
  have keys : (backends.reverse.map fun backend =>
      (Sigma.mk backend.backend_name (f backend) : Sigma fun _ : StdString => BackendFunction J β)).NodupKeys := by
    rw [List.NodupKeys, List.keys, List.map_map, List.map_reverse, List.nodup_reverse]
    exact distinct
  rw [table, Finmap.dlookup_list_toFinmap, ← Option.mem_def, List.mem_dlookup_iff keys]
  simp

private theorem registersLast_initial {rest : List (Initialiser J β)}
    (last : RegistersLast (before ++ rest)) :
    RegistersLast before :=
  fun first backend after split => last first backend (after ++ rest) (by simp [split])

/-- Nothing is registered before a constructor that is yet to run. -/
theorem registrations_nil (last : RegistersLast before)
    (missing : .create_fn ∉ before ∨ .open_fn ∉ before) : registrations before = [] := by
  rw [registrations, List.filterMap_eq_nil_iff]
  intro initialiser member
  cases initialiser with
  | create_fn | open_fn => rfl
  | registration backend =>
    obtain ⟨first, after, split⟩ := List.append_of_mem member
    obtain ⟨created, opened⟩ := last first backend after split
    rcases missing with absent | absent
    · exact absurd (by simp [split, created]) absent
    · exact absurd (by simp [split, opened]) absent

private theorem registrations_snoc (before : List (Initialiser J β)) (initialiser : Initialiser J β) :
    registrations (before ++ [initialiser]) = registrations before ++ registrations [initialiser] :=
  List.filterMap_append

private theorem run_of_registersLast (last : RegistersLast order) (once : order.Nodup) :
    ∃ storage, run order {} = some storage ∧
      (.create_fn ∈ order → storage.create_fn = some (table (·.create) (registrations order))) ∧
      (.open_fn ∈ order → storage.open_fn = some (table (·.openExisting) (registrations order))) := by
  induction order using List.reverseRecOn with
  | nil => exact ⟨{}, rfl, by simp, by simp⟩
  | append_singleton before initialiser ih =>
    obtain ⟨onceBefore, -, apart⟩ := List.nodup_append.mp once
    have earlier := registersLast_initial last
    have new : initialiser ∉ before := fun member => apart initialiser member initialiser (by simp) rfl
    obtain ⟨middle, ran, created, opened⟩ := ih earlier onceBefore
    rw [run_snoc, ran, Option.bind_some, registrations_snoc]
    cases initialiser with
    | create_fn =>
      refine ⟨{ middle with create_fn := some ∅ }, rfl, fun _ => ?_, fun member => ?_⟩
      · rw [registrations_nil earlier (.inl new)]
        rfl
      · have before : .open_fn ∈ before := by simpa using member
        simpa [registrations] using opened before
    | open_fn =>
      refine ⟨{ middle with open_fn := some ∅ }, rfl, fun member => ?_, fun _ => ?_⟩
      · have before : .create_fn ∈ before := by simpa using member
        simpa [registrations] using created before
      · rw [registrations_nil earlier (.inr new)]
        rfl
    | registration backend =>
      obtain ⟨createdBefore, openedBefore⟩ := last before backend [] rfl
      have single : registrations [.registration backend] = [backend] := rfl
      refine ⟨{
        create_fn := some ((table (·.create) (registrations before)).insert backend.backend_name
          backend.create)
        open_fn := some ((table (·.openExisting) (registrations before)).insert backend.backend_name
          backend.openExisting) }, ?_, ?_, ?_⟩
      · simp [initialise, created createdBefore, opened openedBefore]
      · intro _
        rw [single, table_snoc]
      · intro _
        rw [single, table_snoc]

end StaticStorage

section Orders

variable {J β : Type} {backends : List (BackendRegistration J β)} {order : List (Initialiser J β)}

/-- Two maps that bind the same backends give the two calls the same answer. -/
theorem Registered.agree {factory : CacheFactory J β} (registered : Registered backends factory)
    (cache_type : StdString) : Agree backends factory cache_type := by
  by_cases known : ∃ backend ∈ backends, backend.backend_name = cache_type
  · obtain ⟨backend, member, named⟩ := known
    have created := (registered.create_fn cache_type backend.create).mpr ⟨backend, member, named, rfl⟩
    have opened := (registered.open_fn cache_type backend.openExisting).mpr
      ⟨backend, member, named, rfl⟩
    refine .inr ⟨backend, member, named, fun history config => ?_⟩
    rw [CacheFactory.createCache, CacheFactory.openCache, created, opened]
    exact ⟨rfl, rfl⟩
  · push Not at known
    have uncreated : factory.create_fn.lookup cache_type = none := by
      rw [Option.eq_none_iff_forall_ne_some]
      intro f found
      obtain ⟨backend, member, named, -⟩ := (registered.create_fn cache_type f).mp found
      exact known backend member named
    have unopened : factory.open_fn.lookup cache_type = none := by
      rw [Option.eq_none_iff_forall_ne_some]
      intro f found
      obtain ⟨backend, member, named, -⟩ := (registered.open_fn cache_type f).mp found
      exact known backend member named
    refine .inl ⟨fun history config => ?_, known⟩
    rw [CacheFactory.createCache, CacheFactory.openCache, uncreated, unopened]
    exact ⟨rfl, rfl⟩

private theorem InitialisationOrder.registrations (allowed : InitialisationOrder backends order) :
    (StaticStorage.registrations order).Perm backends := by
  have same := allowed.all.filterMap fun initialiser => match initialiser with
    | .registration backend => some backend
    | _ => none
  simpa [StaticStorage.registrations, List.filterMap_map, Function.comp_def] using same

theorem InitialisationOrder.nodup (allowed : InitialisationOrder backends order)
    (distinct : (backends.map (·.backend_name)).Nodup) : order.Nodup := by
  have injective : Function.Injective (Initialiser.registration (J := J) (β := β)) := by
    intro first second same
    cases same
    rfl
  have apart := (List.Nodup.of_map _ distinct).map injective
  rw [allowed.all.nodup_iff]
  simpa using apart

/-- In each order that the language allows, the backends are all registered, under their
own names in both maps, if and only if `Backend.cpp` is initialised before them. -/
theorem registers_all_iff (distinct : (backends.map (·.backend_name)).Nodup)
    (allowed : InitialisationOrder backends order) :
    RegistersAll backends order ↔ RegistersLast order := by
  constructor
  · intro registers
    obtain ⟨factory, ran, -⟩ := registers
    exact StaticStorage.registersLast_of_run ran
  · intro last
    obtain ⟨storage, ran, created, opened⟩ :=
      StaticStorage.run_of_registersLast last (allowed.nodup distinct)
    have both : .create_fn ∈ order ∧ .open_fn ∈ order :=
      ⟨allowed.unit.subset (by simp), allowed.unit.subset (by simp)⟩
    have same := allowed.registrations
    have names : ((StaticStorage.registrations order).map (·.backend_name)).Nodup :=
      (same.map _).nodup_iff.mpr distinct
    let factory : CacheFactory J β := {
      create_fn := StaticStorage.table (·.create) (StaticStorage.registrations order)
      open_fn := StaticStorage.table (·.openExisting) (StaticStorage.registrations order) }
    have registered : Registered backends factory := by
      constructor
      · intro name f
        rw [StaticStorage.lookup_table names]
        simp only [same.mem_iff]
      · intro name f
        rw [StaticStorage.lookup_table names]
        simp only [same.mem_iff]
    refine ⟨factory, ?_, registered, registered.agree⟩
    rw [ran, ← created both.1, ← opened both.2]

end Orders

namespace DummyCache

variable {J : Type}

/-- `CACHERSIZE_REGISTER_BACKEND(dummy, DummyCache)` -/
def registration : BackendRegistration J (DummyCache J) where
  backend_name := lit "dummy"
  create := fun _ config => .ok (some (create config))
  openExisting := fun _ config => .ok (some (openExisting config))

/-- The linker may have `DummyBackend.cpp` initialised first. -/
def dummyFirst : List (Initialiser Unit (DummyCache Unit)) :=
  [.registration registration, .create_fn, .open_fn]

/-- Then its registration uses a map that is not constructed. -/
theorem premature_registration : InitialisationOrder [registration] dummyFirst ∧
    StaticStorage.run dummyFirst {} = none ∧ ¬ RegistersAll [registration] dummyFirst := by
  refine ⟨⟨?_, List.sublist_cons_self _ _⟩, rfl, ?_⟩
  · have swapped : ([.registration registration] ++ [.create_fn, .open_fn] :
        List (Initialiser Unit (DummyCache Unit))).Perm _ := List.perm_append_comm
    exact swapped
  · intro registers
    obtain ⟨factory, ran, -⟩ := registers
    cases ran

def mirror : BackendRegistration J (DummyCache J) := { registration with backend_name := lit "mirror" }

def dummyLast : List (Initialiser Unit (DummyCache Unit)) :=
  [.create_fn, .open_fn, .registration mirror, .registration registration]

/-- In this order both names reach their backends. -/
theorem timely_registration : RegistersAll [registration, mirror] dummyLast ∧
    StaticStorage.run dummyLast {} = some
      ⟨some ((Finmap.singleton (lit "mirror") mirror.create).insert (lit "dummy") registration.create),
        some ((Finmap.singleton (lit "mirror") mirror.openExisting).insert (lit "dummy")
          registration.openExisting)⟩ := by
  have allowed : InitialisationOrder [registration, mirror] dummyLast :=
    ⟨((List.Perm.swap _ _ []).cons _).cons _, List.sublist_append_left [_, _] [_, _]⟩
  have distinct : (List.map (·.backend_name)
      [(registration : BackendRegistration Unit (DummyCache Unit)), mirror]).Nodup := by decide
  refine ⟨(registers_all_iff distinct allowed).mpr ?_, rfl⟩
  intro before backend after split
  match before with
  | [] => cases split
  | [_] => cases split
  | first :: second :: _ =>
    have heads := (List.cons.inj split).1
    have seconds := (List.cons.inj (List.cons.inj split).2).1
    simp [← heads, ← seconds]

end DummyCache

end Cachersize
