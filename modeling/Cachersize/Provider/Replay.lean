import Cachersize.Concurrent.Justified
import Cachersize.Provider.Paths

/-! The log of a provider tells its whole past: the registry is a replay of the
bindings made and ended, and every lookup and every new object agrees with it. -/
namespace Cachersize.ProviderImpl

open Concurrent

variable {J β : Type}

abbrev Log (J β : Type) := List (Nat × Event J β)

def rebind (registry : Registry β) : Event J β → Registry β
  | .bound cache_id cache => registry.insert cache_id cache
  | .erased cache_id => registry.erase cache_id
  | _ => registry

/-- The registry that the events of a log lead to. -/
def bindings (log : Log J β) : Registry β :=
  log.foldl (fun registry entry => rebind registry entry.2) ∅

def isBuilt : Event J β → Bool
  | .built .. => true
  | _ => false

def builds (log : Log J β) : Nat := log.countP fun entry => isBuilt entry.2

/-- What an event says of the log before it. -/
def Accurate (before : Log J β) (entry : Nat × Event J β) : Prop :=
  match entry.2 with
  | .lookedUp cache_id found => found = (bindings before).lookup cache_id
  | .built _ _ _ (.ok (some cache)) => cache.address = builds before
  | _ => True

@[simp] theorem bindings_nil : bindings ([] : Log J β) = ∅ := rfl

@[simp] theorem bindings_snoc (log : Log J β) (entry : Nat × Event J β) :
    bindings (log ++ [entry]) = rebind (bindings log) entry.2 := by
  simp [bindings]

@[simp] theorem builds_nil : builds ([] : Log J β) = 0 := rfl

@[simp] theorem builds_snoc (log : Log J β) (entry : Nat × Event J β) :
    builds (log ++ [entry]) = builds log + if isBuilt entry.2 then 1 else 0 := by
  simp [builds, List.countP_cons]

/-- The provider's state and its log tell the same story. -/
structure Replays (s : State J β) : Prop where
  registry : s.shared.m_backends = bindings s.log
  allocated : s.shared.allocated = builds s.log
  accurate : Justified Accurate s.log

variable {runtime : Runtime J β} {thread : Nat}

theorem justified_emits {P : Log J β → Nat × Event J β → Prop} {log : Log J β} {op : Op J β}
    {answer : op.Answer} (earlier : Justified P log)
    (last : ∀ event ∈ emits op answer, P log (thread, event)) :
    Justified P (log ++ (emits op answer).map (Prod.mk thread)) := by
  cases op with
  | lock | unlock | count | index => simpa [emits] using earlier
  | _ => exact earlier.snoc (last _ (List.mem_singleton_self _))

theorem Replays.exec {op : Op J β} {s : State J β} {answer : op.Answer} {shared : ProviderImpl β}
    {events : List (Event J β)} (replays : Replays s)
    (answered : exec runtime thread op s = some (answer, shared, events)) :
    Replays (s.extend thread shared events) := by
  obtain ⟨registry, allocated, accurate⟩ := replays
  cases op with
  | lock =>
    obtain ⟨-, rfl, rfl⟩ := exec_lock answered
    exact ⟨by simpa using registry, by simpa using allocated, by simpa using accurate⟩
  | index cache_id =>
    obtain ⟨-, rfl, rfl⟩ := exec_index answered
    exact ⟨by simpa using registry, by simpa using allocated, by simpa using accurate⟩
  | factory operation backend_name config =>
    cases answered
    refine ⟨by simpa [rebind] using registry, by simpa [isBuilt] using allocated, ?_⟩
    apply accurate.snoc
    cases runtime.factory.perform operation backend_name (Event.calls s.log) config with
    | error what => trivial
    | ok made =>
      cases made with
      | none => trivial
      | some object => exact allocated
  | find cache_id =>
    cases answered
    refine ⟨by simpa [rebind] using registry, by simpa [isBuilt] using allocated, ?_⟩
    exact accurate.snoc (congrArg (Finmap.lookup cache_id) registry)
  | finish call =>
    cases answered
    cases call <;>
    · refine ⟨by simpa [rebind, Event.ended] using registry,
        by simpa [isBuilt, Event.ended] using allocated, ?_⟩
      exact accurate.snoc trivial
  | unlock | count _ =>
    cases answered
    exact ⟨by simpa using registry, by simpa using allocated, by simpa using accurate⟩
  | m_token | assign _ _ | erase _ | start _ | respond _ =>
    cases answered
    refine ⟨by simp [rebind, registry], by simpa [isBuilt] using allocated, ?_⟩
    exact accurate.snoc trivial

theorem Replays.received {s : State J β} (replays : Replays s) (thread : Nat) (request : Request) :
    Replays (s.extend thread s.shared [.received request]) where
  registry := by simpa [rebind] using replays.registry
  allocated := by simpa [isBuilt] using replays.allocated
  accurate := replays.accurate.snoc trivial

theorem Replays.step {before after : Provider J β} {action : Action Request StdString}
    (replays : Replays before.global) (stepped : (system runtime).step before action = some after) :
    Replays after.global := by
  rcases System.step_cases stepped with ⟨actor, request, -, -, rfl⟩ |
    ⟨actor, request, op, next, answer, shared, events, -, -, answered, rfl⟩ | ⟨change, -, rfl⟩
  · exact replays.received actor request
  · exact replays.exec answered
  · exact ⟨replays.registry, replays.allocated, replays.accurate⟩

theorem serve_replays {m_token : StdString} {actions : List (Action Request StdString)}
    {pool : Provider J β} (served : serve runtime m_token actions = some pool) :
    Replays pool.global :=
  System.run_induction (fun pool => Replays pool.global) (fun _ _ _ _ replays => replays.step)
    ⟨rfl, rfl, Justified.nil⟩ served

/-- A binding in the registry was made by some request, and the events of the log
after it leave it in place. -/
theorem bound_of_lookup {log : Log J β} {cache_id : UUID} {cache : Backend β}
    (found : (bindings log).lookup cache_id = some cache) :
    ∃ binder, (binder, .bound cache_id cache) ∈ log := by
  induction log using List.reverseRecOn with
  | nil => simp at found
  | append_singleton log entry ih =>
    obtain ⟨actor, event⟩ := entry
    have earlier : (bindings log).lookup cache_id = some cache →
        ∃ binder, (binder, .bound cache_id cache) ∈ log ++ [(actor, event)] := fun old => by
      obtain ⟨binder, member⟩ := ih old
      exact ⟨binder, List.mem_append_left _ member⟩
    rw [bindings_snoc] at found
    cases event with
    | bound other made =>
      by_cases same : cache_id = other
      · subst other
        simp only [rebind, Finmap.lookup_insert, Option.some.injEq] at found
        exact ⟨actor, by simp [found]⟩
      · exact earlier (by simpa [rebind, Finmap.lookup_insert_of_ne _ same] using found)
    | erased other =>
      by_cases same : cache_id = other
      · subst other
        simp [rebind] at found
      · exact earlier (by simpa [rebind, Finmap.lookup_erase_ne same] using found)
    | _ => exact earlier found

/-- The id was not bound in `m_backends` when the thread looked it up. -/
def LookupMissed (thread : Nat) (cache_id : UUID) (log : Log J β) : Prop :=
  ∃ before found after, log = before ++ (thread, .lookedUp cache_id found) :: after ∧
    cache_id ∉ bindings before

theorem lookupMissed_iff {log : Log J β} (accurate : Justified Accurate log) (thread : Nat)
    (cache_id : UUID) :
    LookupMissed thread cache_id log ↔ .lookedUp cache_id none ∈ Global.own thread log := by
  rw [Global.mem_own]
  constructor
  · intro missed
    obtain ⟨before, found, after, split, unbound⟩ := missed
    have looked : found = (bindings before).lookup cache_id := accurate before _ after split
    rw [Finmap.lookup_eq_none.mpr unbound] at looked
    simp [split, looked]
  · intro member
    obtain ⟨before, after, split, looked⟩ := accurate.of_mem member
    exact ⟨before, none, after, split, Finmap.lookup_eq_none.mp looked.symm⟩

theorem builds_lt_of_prefix {log before after : Log J β} {entry : Nat × Event J β}
    (split : log = before ++ entry :: after) (built : isBuilt entry.2 = true) :
    builds before < builds log := by
  have counted : builds log = builds before + (1 + after.countP fun entry => isBuilt entry.2) := by
    simp [split, builds, built, Nat.add_comm]
  omega

/-- Every object has one builder: an address determines the factory call. -/
theorem built_unique {log : Log J β} (accurate : Justified Accurate log)
    {first second : Nat} {operation operation' : FactoryCall} {name name' : StdString}
    {config config' : J} {cache cache' : Backend β}
    (one : (first, .built operation name config (.ok (some cache))) ∈ log)
    (two : (second, .built operation' name' config' (.ok (some cache'))) ∈ log)
    (address : cache.address = cache'.address) : first = second ∧ cache = cache' := by
  rcases entries_trichotomy one two with same | ⟨before, after, split, early⟩ |
    ⟨before, after, split, early⟩
  · cases same
    exact ⟨rfl, rfl⟩
  all_goals
    obtain ⟨initial, rest, splitEarly⟩ := List.append_of_mem early
    have late := accurate before _ after split
    rw [split] at accurate
    have soon := accurate.initial initial _ rest splitEarly
    have fewer := builds_lt_of_prefix splitEarly rfl
    simp only [Accurate] at late soon
    omega

end Cachersize.ProviderImpl
