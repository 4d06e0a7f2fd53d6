import Cachersize.Provider.Responses

/-! The answer to a request whose handler is not interrupted. -/
namespace Cachersize.ProviderImpl

open Concurrent

variable {J β : Type} (runtime : Runtime J β) {s : State J β} {thread : Nat}

/-- The response to a request that arrives now and is handled before anything else. -/
def reply (s : State J β) (thread : Nat) (request : Request) : Option Response := do
  let (_, after) ← (system runtime).solo thread (handler runtime request)
    (s.extend thread s.shared [.received request])
  (responses (Global.own thread after.log)).head?

theorem reply_served {m_token : StdString} {actions : List (Action Request StdString)}
    {pool : Provider J β} {request : Request} {response : Response}
    (served : serve runtime m_token actions = some pool) (vacant : pool.threads thread = none)
    (replied : reply runtime pool.global thread request = some response) :
    ∃ steps after outcome,
      serve runtime m_token (actions ++ .spawn thread request :: List.replicate steps (.step thread)) =
        some after ∧
      Finished after thread request outcome ∧
      (responses (Global.own thread after.global.log)).head? = some response := by
  obtain ⟨⟨outcome, state⟩, alone, responded⟩ := Option.bind_eq_some_iff.mp replied
  let arrived : Provider J β := ⟨pool.global.extend thread pool.global.shared [.received request],
    Function.update pool.threads thread (some ⟨request, handler runtime request⟩)⟩
  have spawned : (system runtime).step pool (.spawn thread request) = some arrived := by
    simp only [System.step, vacant, arrived]
  have present : arrived.threads thread = some ⟨request, handler runtime request⟩ := by
    simp [arrived]
  obtain ⟨steps, ran⟩ := System.run_solo present alone
  let after : Provider J β :=
    ⟨state, Function.update arrived.threads thread (some ⟨request, Program.ofExcept outcome⟩)⟩
  have continued : (system runtime).run (.spawn thread request :: List.replicate steps (.step thread))
      pool = some after := by
    rw [System.run, spawned, Option.bind_some, ran]
  exact ⟨steps, after, outcome, serve_append served continued, by simp [Finished, after], responded⟩

/-- While the mutex is free and the backends return, a `computeSum` is answered: with
the result of the backend that is bound to the id, or with a failure. -/
theorem computeSum_reply (free : s.shared.m_backends_mtx = none)
    (fresh : Global.own thread s.log = []) {x y : Int32}
    (returns : ∀ history cache, ∃ result, runtime.computeSum history cache x y = .ok result)
    (uninitialised : Int32) (cache_id : UUID) :
    ∃ result, reply runtime s thread (.computeSum uninitialised cache_id x y) = some (.int32 result) ∧
      match s.shared.m_backends.lookup cache_id with
      | none => result = ⟨false, notFoundWithUuid runtime cache_id, uninitialised⟩
      | some cache => ∃ history, runtime.computeSum history cache x y = .ok result := by
  cases found : s.shared.m_backends.lookup cache_id with
  | none =>
    refine ⟨_, ?_, rfl⟩
    simp [reply, handler, computeSum_eq, FIND_CACHE_eq, System.solo, exec, free, found, fresh,
      responses, failedInt32, Global.own_cons]
  | some cache =>
    obtain ⟨result, returned⟩ := returns (Event.calls s.log ++ Event.calls [(thread, .received
      (.computeSum uninitialised cache_id x y)), (thread, .lookedUp cache_id (some cache)),
        (thread, .started (.computeSum cache x y))]) cache
    refine ⟨result, ?_, _, returned⟩
    simp [reply, handler, computeSum_eq, FIND_CACHE_eq, System.solo, exec, free, found, fresh,
      responses, Runtime.perform, returned, Global.own_cons, Event.ended]

end Cachersize.ProviderImpl
