import Cachersize.Provider.Bindings
import Cachersize.Provider.Bounded
import Cachersize.Provider.Intrusion

/-! Who may change a provider, while its token changes: nothing is built, bound, erased or
destroyed but for a request whose token was good at a moment after its arrival. -/
namespace Cachersize.ProviderImpl

open Concurrent

variable {J β : Type}

def isPrivileged : Event J β → Bool
  | .built .. | .bound .. | .erased _ | .started (.destroy _) | .destroyed .. => true
  | _ => false

/-- The token once these actions have been taken: the last one that was set. -/
def tokenAfter (m_token : StdString) (actions : List (Action Request StdString)) : StdString :=
  actions.foldl (fun current action => match action with
    | .external token => token
    | _ => current) m_token

variable {runtime : Runtime J β} {m_token : StdString} {actions : List (Action Request StdString)}
variable {pool : Provider J β} {thread : Nat} {request : Request}

private theorem tokenAfter_snoc (m_token : StdString) (past : List (Action Request StdString))
    (action : Action Request StdString) : tokenAfter m_token (past ++ [action]) =
      match action with
      | .external token => token
      | _ => tokenAfter m_token past := by
  rw [tokenAfter, List.foldl_append]
  rfl

private theorem serve_token (served : serve runtime m_token actions = some pool) :
    pool.global.shared.m_token = tokenAfter m_token actions := by
  have start : ((system runtime).initial (empty m_token)).global.shared.m_token = tokenAfter m_token [] := rfl
  refine System.run_repeats.past_induction (fun pool past =>
    pool.global.shared.m_token = tokenAfter m_token past) ?_ start served
  intro action _ before later past current stepped
  rcases System.step_cases stepped with ⟨_, _, rfl, -, rfl⟩ | ⟨_, _, _, _, _, _, _, rfl, -, answered, rfl⟩ |
    ⟨token, rfl, rfl⟩
  · rw [tokenAfter_snoc, ← current]
    rfl
  · rw [tokenAfter_snoc, ← current]
    exact exec_token answered
  · rw [tokenAfter_snoc]

/-- A request either does nothing privileged, or reads the token first, finds it good, and
goes on. -/
theorem Exit.privileges {outcome : Except StdString Unit} {events : List (Event J β)}
    (exit : Exit runtime request outcome events) :
    (∀ event ∈ events, isPrivileged event = false) ∨
      ∃ token secret rest, request.token = some token ∧ ¬ InvalidToken secret token ∧
        events = .received request :: .readToken secret :: rest := by
  cases exit with
  | addRejected | removeRejected | missed | checked | saidHello | helloThrew | computed | computeThrew =>
    left
    simp [isPrivileged]
  | @addUnparsable _ _ _ _ operation _ _ valid | @addEscaped _ _ _ _ operation _ _ valid
  | @addThrew _ _ _ _ operation _ _ _ valid | @addUnknown _ _ _ _ operation _ _ valid
  | @added _ _ _ _ operation _ _ _ valid =>
    right
    cases operation <;> exact ⟨_, _, _, rfl, valid, rfl⟩
  | removeMissed removes valid =>
    right
    cases removes <;> exact ⟨_, _, _, rfl, valid, rfl⟩
  | closed valid | destroyed valid | destroyThrew valid =>
    right
    exact ⟨_, _, _, rfl, valid, rfl⟩

/-- What a thread needs before it does something privileged is in its own past. -/
theorem privileged_reads {before after : Log J β} {event : Event J β}
    (served : serve runtime m_token actions = some pool)
    (split : pool.global.log = before ++ (thread, event) :: after) (privileged : isPrivileged event = true) :
    ∃ request token secret start rest, before = start ++ (thread, .readToken secret) :: rest ∧
      Global.own thread start = [.received request] ∧ request.token = some token ∧
      ¬ InvalidToken secret token := by
  have own : Global.own thread pool.global.log =
      Global.own thread before ++ event :: Global.own thread after := by
    rw [split, Global.own_append, Global.own_cons, if_pos rfl]
  cases running : pool.threads thread with
  | none =>
    have silent := System.own_vacant served running
    rw [own] at silent
    simp at silent
  | some present =>
    obtain ⟨request, program⟩ := present
    obtain ⟨outcome, more, exit⟩ := eventual_exit served running
    rw [own, List.append_assoc] at exit
    rcases exit.privileges with harmless | ⟨token, secret, rest, carried, valid, first⟩
    · have never := harmless event (by simp)
      cases never.symm.trans privileged
    · -- The event is neither of the first two, so both are among those before it.
      match past : Global.own thread before with
      | [] =>
        rw [past] at first
        cases (List.cons.inj first).1
        cases privileged
      | [only] =>
        rw [past] at first
        cases (List.cons.inj (List.cons.inj first).2).1
        cases privileged
      | one :: two :: later =>
        rw [past] at first
        obtain ⟨rfl, tail⟩ := List.cons.inj first
        obtain ⟨rfl, -⟩ := List.cons.inj tail
        have reading : Global.own thread before = [.received request] ++ .readToken secret :: later := past
        obtain ⟨start, between, rfl, arrived, -⟩ := Global.own_split reading
        exact ⟨request, token, secret, start, between, rfl, arrived, carried, valid⟩

private theorem received_spawned (served : serve runtime m_token actions = some pool)
    (received : (thread, .received request) ∈ pool.global.log) : .spawn thread request ∈ actions := by
  obtain ⟨before, after, split⟩ := List.append_of_mem received
  obtain ⟨earlier, action, later, state, next, rfl, -, moment⟩ :=
    (singly runtime).moment served split (Nat.zero_le _)
  rcases moment.source with ⟨other, rfl, same, -⟩ | ⟨_, op, _, answer, _, -, -, answered, -⟩
  · cases same
    simp
  · have emitted := (exec_emits answered).1
    cases op with
    | finish call => cases call <;> cases emitted
    | _ => cases emitted

/-- The step that read the token found the one that was set last. -/
theorem token_moment {before after : Log J β} {secret : StdString}
    (served : serve runtime m_token actions = some pool)
    (split : pool.global.log = before ++ (thread, .readToken secret) :: after) :
    ∃ earlier later state, actions = earlier ++ .step thread :: later ∧
      serve runtime m_token earlier = some state ∧ state.global.log = before ∧
      secret = tokenAfter m_token earlier := by
  obtain ⟨earlier, action, later, state, next, rfl, log, moment⟩ :=
    (singly runtime).moment served split (Nat.zero_le _)
  rcases moment.source with ⟨_, -, impossible, -⟩ | ⟨_, op, _, answer, _, rfl, -, answered, -⟩
  · cases impossible
  · have emitted := (exec_emits answered).1
    cases op with
    | m_token =>
      cases emitted
      have read : secret = state.global.shared.m_token := (Prod.mk.inj (Option.some.inj answered)).1.symm
      exact ⟨earlier, later, state, rfl, moment.reached, log, read.trans (serve_token moment.reached)⟩
    | finish call => cases call <;> cases emitted
    | _ => cases emitted

/-- However often the token changes: whatever is built, bound, erased or destroyed is so for
an admin request, and at one moment, after its arrival and before the event, the token that
the provider had was empty or the one that the request carries. -/
theorem authorised {before after : Log J β} {event : Event J β}
    (served : serve runtime m_token actions = some pool)
    (split : pool.global.log = before ++ (thread, event) :: after) (privileged : isPrivileged event = true) :
    ∃ request token earlier later state, request.token = some token ∧
      actions = earlier ++ .step thread :: later ∧ .spawn thread request ∈ earlier ∧
      serve runtime m_token earlier = some state ∧ state.global.log <+: before ∧
      (tokenAfter m_token earlier = [] ∨ tokenAfter m_token earlier = token) := by
  obtain ⟨request, token, secret, start, rest, whole, arrived, carried, valid⟩ :=
    privileged_reads served split privileged
  have reading : pool.global.log =
      start ++ (thread, .readToken secret) :: (rest ++ (thread, event) :: after) := by
    simp [split, whole]
  obtain ⟨earlier, later, state, acted, reached, log, current⟩ := token_moment served reading
  have received : (thread, .received request) ∈ state.global.log := by
    rw [log]
    exact Global.mem_own.mp (by simp [arrived])
  refine ⟨request, token, earlier, later, state, carried, acted, received_spawned reached received, reached,
    ?_, ?_⟩
  · rw [log, whole]
    exact List.prefix_append _ _
  · rw [← current]
    by_contra bad
    obtain ⟨nonempty, other⟩ := not_or.mp bad
    exact valid ⟨List.length_pos_iff.mpr nonempty, other⟩

/-- The token changes while a request that has passed the test is on its way. -/
def tokenChanged : List (Action Request StdString) :=
  [.spawn 0 (.createCache UUID.clear (lit "old") (lit "dummy") (lit "{}")), .step 0, .external (lit "new")] ++
    List.replicate 5 (.step 0)

theorem tokenChanged_authorised : ∃ pool, serve DummyCache.sample (lit "old") tokenChanged = some pool ∧
    pool.global.shared.m_token = lit "new" ∧
    ∃ cache, (0, .bound UUID.clear cache) ∈ pool.global.log ∧
      ∃ request token earlier later, request.token = some token ∧ tokenChanged = earlier ++ .step 0 :: later ∧
        .spawn 0 request ∈ earlier ∧
        (tokenAfter (lit "old") earlier = [] ∨ tokenAfter (lit "old") earlier = token) := by
  obtain ⟨pool, served, current, cache, one, two, three, rest, split⟩ : ∃ pool,
      serve DummyCache.sample (lit "old") tokenChanged = some pool ∧
      pool.global.shared.m_token = lit "new" ∧ ∃ cache one two three rest,
        pool.global.log = [one, two, three] ++ (0, .bound UUID.clear cache) :: rest :=
    ⟨_, rfl, rfl, _, _, _, _, _, rfl⟩
  obtain ⟨request, token, earlier, later, -, carried, acted, arrived, -, -, good⟩ :=
    authorised served split rfl
  refine ⟨pool, served, current, cache, ?_, request, token, earlier, later, carried, acted, arrived, good⟩
  rw [split]
  simp

end Cachersize.ProviderImpl
