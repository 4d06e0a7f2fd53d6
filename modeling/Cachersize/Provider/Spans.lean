import Cachersize.Provider.Bindings
import Cachersize.Provider.Bounded
import Cachersize.Provider.Changes

/-! How long a binding lasts: from the one step that makes it to the one that ends it. -/
namespace Cachersize.ProviderImpl

open Concurrent

variable {J β : Type}

/-- The error that a request which names a cache can be refused with. -/
inductive Refusal (runtime : Runtime J β) (cache_id : UUID) : Request → StdString → Prop where
  | rejected (removes : Removes request token cache_id) :
      Refusal runtime cache_id request (lit "Invalid security token")
  | removeMissed (removes : Removes request token cache_id) :
      Refusal runtime cache_id request (notFound runtime cache_id)
  | missed (finds : Finds request cache_id failed) :
      Refusal runtime cache_id request (notFoundWithUuid runtime cache_id)

/-- The request was answered with such an error, and has reached no backend. -/
def Refused (runtime : Runtime J β) (cache_id : UUID) (request : Request) (events : List (Event J β)) : Prop :=
  (∃ response, responses events = [response] ∧ response.success = false ∧
    Refusal runtime cache_id request response.error) ∧ ∀ call, .started call ∉ events

variable {runtime : Runtime J β} {m_token : StdString}
variable {actions : List (Action Request StdString)} {pool : Provider J β}
variable {thread : Nat} {request : Request} {program : Handler J β Unit}

theorem answered_exit {response : Response} (served : serve runtime m_token actions = some pool)
    (present : pool.threads thread = some ⟨request, program⟩)
    (waits : request.procedure.response_disabled = false)
    (responded : (thread, .responded response) ∈ pool.global.log) :
    Exit runtime request (.ok ()) (Global.own thread pool.global.log) ∧
      responses (Global.own thread pool.global.log) = [response] := by
  have answered : response ∈ responses (Global.own thread pool.global.log) :=
    List.mem_filterMap.mpr ⟨_, Global.mem_own.mpr responded, rfl⟩
  obtain ⟨outcome, more, exit⟩ := eventual_exit served present
  cases outcome with
  | error what =>
    have silent := exit.silent
    rw [responses_append] at silent
    rw [(List.append_eq_nil_iff.mp silent).1] at answered
    cases answered
  | ok result =>
    obtain ⟨start, last, split, silent⟩ := exit.last waits
    obtain ⟨first, isFirst⟩ : ∃ first, (responses (Global.own thread pool.global.log)).head? = some first := by
      cases listed : responses (Global.own thread pool.global.log) with
      | nil =>
        rw [listed] at answered
        cases answered
      | cons first rest => exact ⟨first, rfl⟩
    obtain ⟨rfl, own⟩ := own_of_responded split silent isFirst
    have single : responses (Global.own thread pool.global.log) = [first] := by
      rw [own, responses_append, silent]
      rfl
    rw [single] at answered
    cases List.mem_singleton.mp answered
    refine ⟨?_, single⟩
    rw [split, ← own] at exit
    exact exit

theorem Exit.erased {outcome : Except StdString Unit} {events : List (Event J β)} {cache_id : UUID}
    (exit : Exit runtime request outcome events) (member : .erased cache_id ∈ events) :
    ∃ token, Removes request token cache_id := by
  cases exit with
  | closed =>
    simp only [List.mem_cons, reduceCtorEq, Event.erased.injEq, List.not_mem_nil, false_or, or_false] at member
    subst member
    exact ⟨_, .closeCache⟩
  | destroyed =>
    simp only [List.mem_cons, reduceCtorEq, Event.erased.injEq, List.not_mem_nil, false_or, or_false] at member
    subst member
    exact ⟨_, .destroyCache⟩
  | _ => simp at member

theorem erased_by {cache_id : UUID} (served : serve runtime m_token actions = some pool)
    (erased : (thread, .erased cache_id) ∈ pool.global.log) :
    ∃ request program token, pool.threads thread = some ⟨request, program⟩ ∧
      Removes request token cache_id := by
  have own : .erased cache_id ∈ Global.own thread pool.global.log := Global.mem_own.mpr erased
  cases running : pool.threads thread with
  | none =>
    rw [System.own_vacant served running] at own
    cases own
  | some present =>
    obtain ⟨request, program⟩ := present
    obtain ⟨outcome, more, exit⟩ := eventual_exit served running
    obtain ⟨token, removes⟩ := exit.erased (List.mem_append_left more own)
    exact ⟨request, program, token, rfl, removes⟩

theorem Exit.changes_once {outcome : Except StdString Unit} {events : List (Event J β)}
    (exit : Exit runtime request outcome events) : (events.filter isBinding).length ≤ 1 := by
  cases exit <;> simp [isBinding, List.filter_cons]

theorem changes_once (served : serve runtime m_token actions = some pool) {one two : Event J β}
    (first : isBinding one = true) (second : isBinding two = true) :
    ¬ [(thread, one), (thread, two)].Sublist pool.global.log := by
  intro pair
  have own : [one, two].Sublist (Global.own thread pool.global.log) := by
    have kept := (pair.filter fun entry => entry.1 == thread).map Prod.snd
    simpa [Global.own] using kept
  have both := own.filter isBinding
  rw [List.filter_cons_of_pos first, List.filter_cons_of_pos second, List.filter_nil] at both
  cases running : pool.threads thread with
  | none =>
    rw [System.own_vacant served running] at own
    cases own
  | some present =>
    obtain ⟨request, program⟩ := present
    obtain ⟨outcome, more, exit⟩ := eventual_exit served running
    have once := exit.changes_once
    have twice := both.length_le
    rw [List.filter_append, List.length_append] at once
    simp only [List.length_cons, List.length_nil] at twice
    omega

variable {events : List (Event J β)} {cache_id : UUID} {token : StdString} {failed : StdString → Response}

theorem Exit.removal (exit : Exit runtime request (.ok ()) events) (removes : Removes request token cache_id) :
    Refused runtime cache_id request events ∨ .erased cache_id ∈ events := by
  cases exit with
  | @addRejected _ _ operation | @addUnparsable _ _ _ _ operation | @addThrew _ _ _ _ operation
  | @addUnknown _ _ _ _ operation | @added _ _ _ _ operation => cases operation <;> cases removes
  | removeRejected => exact .inl ⟨⟨_, rfl, rfl, .rejected removes⟩, by simp⟩
  | removeMissed other =>
    have same : ∀ {other_token other_id}, Removes request other_token other_id → other_id = cache_id := by
      intro _ _ again
      cases again <;> cases removes <;> rfl
    cases same other
    exact .inl ⟨⟨_, rfl, rfl, .removeMissed removes⟩, by simp⟩
  | closed | destroyed =>
    cases removes
    exact .inr (by simp)
  | missed finds => cases finds <;> cases removes
  | checked | saidHello | computed => cases removes

/-- A request that looks an id up is refused, or has found a backend. -/
theorem Exit.finding (exit : Exit runtime request (.ok ()) events) (finds : Finds request cache_id failed) :
    Refused runtime cache_id request events ∨ ∃ cache, .lookedUp cache_id (some cache) ∈ events := by
  cases exit with
  | @addRejected _ _ operation | @addUnparsable _ _ _ _ operation | @addThrew _ _ _ _ operation
  | @addUnknown _ _ _ _ operation | @added _ _ _ _ operation => cases operation <;> cases finds
  | removeRejected removes | removeMissed removes => cases removes <;> cases finds
  | closed | destroyed => cases finds
  | missed other =>
    cases other <;> cases finds
    · exact .inl ⟨⟨_, rfl, rfl, .missed .checkCache⟩, by simp⟩
    · exact .inl ⟨⟨_, rfl, rfl, .missed .sayHello⟩, by simp⟩
    · exact .inl ⟨⟨_, rfl, rfl, .missed .computeSum⟩, by simp⟩
  | checked | saidHello | computed =>
    cases finds
    exact .inr ⟨_, List.mem_cons_of_mem _ List.mem_cons_self⟩

def StartsFound (cache_id : UUID) (before : List (Event J β)) (event : Event J β) : Prop :=
  ∀ call, event = .started call → .lookedUp cache_id (some call.cache) ∈ before

/-- A request that looks an id up calls only what it has found. -/
theorem Exit.startsFound {outcome : Except StdString Unit} (exit : Exit runtime request outcome events)
    (finds : Finds request cache_id failed) : Justified (StartsFound cache_id) events := by
  have silent {events : List (Event J β)} (none : ∀ call, .started call ∉ events) :
      Justified (StartsFound cache_id) events := by
    rintro before event after rfl call rfl
    exact absurd (by simp) (none call)
  cases exit with
  | addRejected | addUnparsable | addEscaped | addThrew | addUnknown | added | removeRejected | removeMissed
  | closed | missed | checked => exact silent (by simp)
  | destroyed | destroyThrew => cases finds
  | saidHello | helloThrew =>
    cases finds
    exact (((Justified.nil.snoc (by simp [StartsFound])).snoc (by simp [StartsFound])).snoc
      (by simp [StartsFound, BackendCall.cache])).snoc (by simp [StartsFound])
  | computed =>
    cases finds
    exact ((((Justified.nil.snoc (by simp [StartsFound])).snoc (by simp [StartsFound])).snoc
      (by simp [StartsFound, BackendCall.cache])).snoc (by simp [StartsFound])).snoc (by simp [StartsFound])
  | computeThrew =>
    cases finds
    exact (((Justified.nil.snoc (by simp [StartsFound])).snoc (by simp [StartsFound])).snoc
      (by simp [StartsFound, BackendCall.cache])).snoc (by simp [StartsFound])

theorem Exit.starts_destroy {outcome : Except StdString Unit} (exit : Exit runtime request outcome events)
    (removes : Removes request token cache_id) {call : BackendCall β} (started : .started call ∈ events) :
    ∃ cache, call = .destroy cache := by
  cases exit with
  | destroyed | destroyThrew => exact ⟨_, by simpa using started⟩
  | saidHello | helloThrew | computed | computeThrew => cases removes
  | _ => simp at started

section InFlight

variable (served : serve runtime m_token actions = some pool)
variable (present : pool.threads thread = some ⟨request, program⟩)
include served present

theorem starts_found (finds : Finds request cache_id failed) {call : BackendCall β}
    (started : .started call ∈ Global.own thread pool.global.log) :
    .lookedUp cache_id (some call.cache) ∈ Global.own thread pool.global.log := by
  obtain ⟨outcome, more, exit⟩ := eventual_exit served present
  obtain ⟨before, after, split, found⟩ := (exit.startsFound finds).initial.of_mem started
  rw [split]
  exact List.mem_append_left _ (found call rfl)

theorem starts_destroy (removes : Removes request token cache_id) {call : BackendCall β}
    (started : .started call ∈ Global.own thread pool.global.log) : ∃ cache, call = .destroy cache := by
  obtain ⟨outcome, more, exit⟩ := eventual_exit served present
  exact exit.starts_destroy removes (List.mem_append_left more started)

end InFlight

/-- What is not bound stays so until something is bound to the id. -/
theorem unbound_until {log more : Log J β} {cache_id : UUID} (unbound : cache_id ∉ bindings log)
    (quiet : ∀ actor cache, (actor, .bound cache_id cache) ∉ more) : cache_id ∉ bindings (log ++ more) := by
  induction more using List.reverseRecOn with
  | nil => simpa using unbound
  | append_singleton more entry ih =>
    obtain ⟨actor, event⟩ := entry
    have earlier := ih fun other cache member => quiet other cache (List.mem_append_left _ member)
    rw [← List.append_assoc, bindings_snoc]
    cases event with
    | bound other made =>
      have different : cache_id ≠ other := by
        rintro rfl
        exact quiet actor made (by simp)
      simpa [rebind, different] using earlier
    | erased other =>
      intro member
      exact earlier (Finmap.mem_erase.mp member).2
    | _ => exact earlier

/-- A binding that is the only one of its id lasts while nothing erases it. -/
theorem bound_until {log : Log J β} {cache_id : UUID} {cache : Backend β} {binder : Nat}
    (bound : (binder, .bound cache_id cache) ∈ log)
    (unique : ∀ actor made, (actor, .bound cache_id made) ∈ log → made = cache)
    (kept : ∀ actor, (actor, .erased cache_id) ∉ log) :
    (bindings log).lookup cache_id = some cache := by
  induction log using List.reverseRecOn with
  | nil => cases bound
  | append_singleton log entry ih =>
    obtain ⟨actor, event⟩ := entry
    rw [bindings_snoc]
    have earlier (old : (binder, .bound cache_id cache) ∈ log) :
        (bindings log).lookup cache_id = some cache :=
      ih old (fun other made member => unique other made (List.mem_append_left _ member))
        fun other member => kept other (List.mem_append_left _ member)
    have old (other : event ≠ .bound cache_id cache) : (binder, .bound cache_id cache) ∈ log := by
      rcases List.mem_append.mp bound with member | last
      · exact member
      · cases List.mem_singleton.mp last
        exact absurd rfl other
    cases event with
    | bound other made =>
      by_cases same : other = cache_id
      · subst same
        rw [unique actor made (by simp)]
        simp [rebind]
      · rw [rebind, Finmap.lookup_insert_of_ne _ (Ne.symm same)]
        exact earlier (old (by simp [same]))
    | erased other =>
      have different : cache_id ≠ other := by
        rintro rfl
        exact kept actor (by simp)
      rw [rebind, Finmap.lookup_erase_ne different]
      exact earlier (old (by simp))
    | _ => exact earlier (old (by simp))

end Cachersize.ProviderImpl
