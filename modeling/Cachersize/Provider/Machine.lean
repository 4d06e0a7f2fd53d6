import Cachersize.Provider.Handlers

/-! The provider as an interleaved system: the members of `ProviderImpl` that its
handlers share, and what each of their steps does to them. -/
namespace Cachersize

open Concurrent

abbrev Registry (β : Type) := Finmap fun _ : UUID => Backend β

/-- `m_backends_mtx` is the thread that holds the mutex. `allocated` counts the
factory calls, so that each object gets an address of its own. -/
structure ProviderImpl (β : Type) where
  m_token : StdString
  m_backends : Registry β
  m_backends_mtx : Option Nat
  allocated : Nat

namespace ProviderImpl

variable {J β : Type}

abbrev State (J β : Type) := Global (ProviderImpl β) (Event J β)

def empty (m_token : StdString) : ProviderImpl β :=
  { m_token, m_backends := ∅, m_backends_mtx := none, allocated := 0 }

/-- One step of the thread that handles a request. `lock` blocks while the mutex is
held; `index` is `operator[]` on a key that is present. -/
def exec (runtime : Runtime J β) (thread : Nat) :
    (op : Op J β) → State J β → Option (op.Answer × ProviderImpl β × List (Event J β))
  | .m_token, s => some (s.shared.m_token, s.shared, [.readToken s.shared.m_token])
  | .factory operation backend_name config, s =>
    let built := runtime.factory.perform operation backend_name (Event.calls s.log) config
    let outcome := built.map (Option.map (Backend.mk s.shared.allocated))
    some (outcome, { s.shared with allocated := s.shared.allocated + 1 },
      [.built operation backend_name config outcome])
  | .lock, s =>
    match s.shared.m_backends_mtx with
    | some _ => none
    | none => some ((), { s.shared with m_backends_mtx := some thread }, [])
  | .unlock, s => some ((), { s.shared with m_backends_mtx := none }, [])
  | .find cache_id, s =>
    let found := s.shared.m_backends.lookup cache_id
    some (found, s.shared, [.lookedUp cache_id found])
  | .count cache_id, s => some (if cache_id ∈ s.shared.m_backends then 1 else 0, s.shared, [])
  | .assign cache_id cache, s =>
    some ((), { s.shared with m_backends := s.shared.m_backends.insert cache_id cache },
      [.bound cache_id cache])
  | .index cache_id, s =>
    (s.shared.m_backends.lookup cache_id).map fun cache => (cache, s.shared, [])
  | .erase cache_id, s =>
    some ((), { s.shared with m_backends := s.shared.m_backends.erase cache_id }, [.erased cache_id])
  | .start call, s => some ((), s.shared, [.started call])
  | .finish call, s =>
    let outcome := runtime.perform (Event.calls s.log) call
    some (outcome, s.shared, [.ended call outcome])
  | .respond response, s => some ((), s.shared, [.responded response])

section Blocking

variable {runtime : Runtime J β} {thread : Nat} {s : State J β} {shared : ProviderImpl β}
variable {events : List (Event J β)}

/-- The mutex is taken only while it is free. -/
theorem exec_lock {answer : Unit}
    (answered : exec runtime thread .lock s = some (answer, shared, events)) :
    s.shared.m_backends_mtx = none ∧ events = [] ∧
      shared = { s.shared with m_backends_mtx := some thread } := by
  simp only [exec] at answered
  split at answered
  · cases answered
  · rename_i free
    cases answered
    exact ⟨free, rfl, rfl⟩

theorem exec_index {cache_id : UUID} {cache : Backend β}
    (answered : exec runtime thread (.index cache_id) s = some (cache, shared, events)) :
    s.shared.m_backends.lookup cache_id = some cache ∧ events = [] ∧ shared = s.shared := by
  obtain ⟨found, lookup, same⟩ := Option.map_eq_some_iff.mp answered
  cases same
  exact ⟨lookup, rfl, rfl⟩

end Blocking

/-- `Provider::setSecurityToken` is the only change from outside the handlers. -/
abbrev system (runtime : Runtime J β) : System (Op.Answer (J := J) (β := β)) StdString Unit
    (ProviderImpl β) Request StdString (Event J β) where
  body := handler runtime
  arrival := .received
  exec := exec runtime
  external := fun token provider => { provider with m_token := token }

abbrev Provider (J β : Type) :=
  Pool (Op.Answer (J := J) (β := β)) StdString Unit (ProviderImpl β) Request (Event J β)

/-- The provider's state after a run of requests that started with no caches. -/
def serve (runtime : Runtime J β) (m_token : StdString) (actions : List (Action Request StdString)) :
    Option (Provider J β) :=
  (system runtime).run actions ((system runtime).initial (empty m_token))

theorem serve_append {runtime : Runtime J β} {m_token : StdString}
    {first second : List (Action Request StdString)} {pool after : Provider J β}
    (served : serve runtime m_token first = some pool)
    (ran : (system runtime).run second pool = some after) :
    serve runtime m_token (first ++ second) = some after := by
  unfold serve at served ⊢
  rw [System.run_append, served, Option.bind_some, ran]

/-- The handler of a request has returned, or an exception has left it. -/
def Finished (pool : Provider J β) (thread : Nat) (request : Request)
    (outcome : Except StdString Unit) : Prop :=
  pool.threads thread = some ⟨request, Program.ofExcept outcome⟩

end ProviderImpl

end Cachersize
