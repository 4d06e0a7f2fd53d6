import Cachersize.Concurrent.Moments
import Cachersize.Provider.Progress
import Cachersize.Provider.Responses

/-! No handler runs for long or does two things in one step, and the handlers never wait
for each other in a circle. -/
namespace Cachersize.ProviderImpl

open Concurrent

variable {J β : Type} (runtime : Runtime J β)

private theorem within_perform {op : Op J β} {next : op.Answer → Handler J β Unit} {bound : Nat}
    (later : ∀ answer, (next answer).Within bound) :
    (Program.perform op next : Handler J β Unit).Within (bound + 1) := later

private theorem within_done (bound : Nat) : (.done () : Handler J β Unit).Within bound := trivial

private theorem within_respond (response : Response) (bound : Nat) :
    (.perform (.respond response) .done : Handler J β Unit).Within (bound + 1) :=
  within_perform fun _ => within_done bound

private theorem within_token {token : StdString} {failed : Response} {rest : Handler J β Unit} {bound : Nat}
    (accepted : rest.Within (bound + 1)) :
    (Program.perform .m_token fun secret =>
      if InvalidToken secret token then .perform (.respond failed) .done else rest :
        Handler J β Unit).Within (bound + 2) := by
  apply within_perform
  intro secret
  by_cases invalid : InvalidToken secret token
  · rw [if_pos invalid]
    exact within_respond failed bound
  · rw [if_neg invalid]
    exact accepted

private theorem addCache_within (operation : FactoryCall) (cache_id : UUID)
    (token cache_type cache_config : StdString) :
    (addCache runtime operation cache_id token cache_type cache_config).Within 6 := by
  rw [addCache_eq]
  apply within_token
  cases runtime.parse cache_config with
  | error exception =>
    cases exception with
    | parse_error what => exact within_respond _ 4
    | other what => trivial
  | ok json_config =>
    apply within_perform
    intro built
    cases built with
    | error what => exact within_respond _ 3
    | ok made =>
      cases made with
      | none => exact within_respond _ 3
      | some backend =>
        exact within_perform fun _ => within_perform fun _ => within_perform fun _ => within_respond _ 0

private theorem closeCache_within (token : StdString) (cache_id : UUID) :
    (closeCache runtime token cache_id).Within 6 := by
  rw [closeCache_eq]
  refine within_token (within_perform fun _ => within_perform fun count => ?_)
  by_cases missing : count = 0
  · rw [if_pos missing]
    exact within_perform fun _ => within_perform fun _ => within_done 1
  · rw [if_neg missing]
    exact within_perform fun _ => within_perform fun _ => within_respond _ 0

/-- The longest path of all: it looks the backend up twice, and destroys it. -/
theorem destroyCache_within (token : StdString) (cache_id : UUID) :
    (destroyCache runtime token cache_id).Within 9 := by
  rw [destroyCache_eq]
  refine within_token (within_perform fun _ => within_perform fun count => ?_)
  by_cases missing : count = 0
  · rw [if_pos missing]
    exact within_perform fun _ => within_perform fun _ => within_done 4
  rw [if_neg missing]
  refine within_perform fun cache => within_perform fun _ => within_perform fun outcome => ?_
  cases outcome with
  | ok result => exact within_perform fun _ => within_perform fun _ => within_respond _ 0
  | error what => exact within_perform fun _ => trivial

private theorem FIND_CACHE_within (cache_id : UUID) (failed : StdString → Response)
    {body : Backend β → Handler J β Unit} (found : ∀ cache, (body cache).Within 3) :
    (FIND_CACHE runtime cache_id failed body).Within 6 := by
  rw [FIND_CACHE_eq]
  refine within_perform fun _ => within_perform fun lookedUp => ?_
  cases lookedUp with
  | none => exact within_perform fun _ => within_perform fun _ => within_done 2
  | some cache => exact within_perform fun _ => found cache

theorem handler_within (request : Request) : (handler runtime request).Within 9 := by
  cases request with
  | createCache => exact (addCache_within runtime .createCache _ _ _ _).mono (by decide)
  | openCache => exact (addCache_within runtime .openCache _ _ _ _).mono (by decide)
  | closeCache => exact (closeCache_within runtime _ _).mono (by decide)
  | destroyCache => exact destroyCache_within runtime _ _
  | checkCache => exact (FIND_CACHE_within runtime _ _ fun _ => within_respond _ 2).mono (by decide)
  | sayHello =>
    refine (FIND_CACHE_within runtime _ _ fun cache => ?_).mono (by decide)
    refine within_perform fun _ => within_perform fun outcome => ?_
    cases outcome <;> trivial
  | computeSum =>
    rw [handler, computeSum_eq]
    refine (FIND_CACHE_within runtime _ _ fun cache => ?_).mono (by decide)
    refine within_perform fun _ => within_perform fun outcome => ?_
    cases outcome with
    | ok result => exact within_respond _ 0
    | error what => trivial

theorem singly : Singly (system runtime) := by
  intro thread op before answer shared events answered
  obtain ⟨rfl, -⟩ := exec_emits answered
  cases op <;> simp [emits]

variable {runtime} {thread : Nat} {request : Request} {m_token : StdString}
variable {actions : List (Action Request StdString)} {pool : Provider J β}

/-- While a request is not finished, its thread can take a step, or the thread that holds
the mutex can. -/
theorem some_enabled {program : Handler J β Unit} (disciplined : Disciplined pool)
    (present : pool.threads thread = some ⟨request, program⟩)
    (unfinished : ∀ outcome, program ≠ Program.ofExcept outcome) :
    ∃ mover, ((system runtime).step pool (.step mover)).isSome := by
  have moves {mover : Nat} {tag : Request} {op : Op J β} {next : op.Answer → Handler J β Unit}
      {scope : Scope} (running : pool.threads mover = some ⟨tag, .perform op next⟩)
      (permitted : scope.Permits tag op) (accurate : scope.Matches mover pool.global.shared)
      (unlocked : pool.global.shared.m_backends_mtx = none ∨
        pool.global.shared.m_backends_mtx = some mover) :
      ∃ mover, ((system runtime).step pool (.step mover)).isSome := by
    obtain ⟨⟨answer, shared, events⟩, answered⟩ := exec_enabled runtime permitted accurate unlocked
    exact ⟨mover, by simp only [System.step, running, answered, Option.isSome_some]⟩
  obtain ⟨scope, follows, accurate⟩ := disciplined.follows thread request program present
  cases program with
  | done result => exact absurd rfl (unfinished (.ok result))
  | raise what => exact absurd rfl (unfinished (.error what))
  | perform op next =>
    cases held : pool.global.shared.m_backends_mtx with
    | none => exact moves present follows.1 accurate (.inl held)
    | some holder =>
      obtain ⟨⟨tag, rest⟩, running⟩ := Option.isSome_iff_exists.mp (disciplined.holder holder held)
      obtain ⟨own, ownFollows, ownAccurate⟩ := disciplined.follows holder tag rest running
      have inside : own ≠ .outside := by
        intro outside
        rw [outside] at ownAccurate
        exact ownAccurate held
      cases rest with
      | done | raise => exact absurd ownFollows inside
      | perform op next => exact moves running ownFollows.1 ownAccurate (.inr held)

/-- A handler that returned to a waiting caller has answered once, in the end. -/
theorem Exit.last {events : List (Event J β)} (exit : Exit runtime request (.ok ()) events)
    (waits : request.procedure.response_disabled = false) :
    ∃ start last, events = start ++ [.responded last] ∧ responses start = [] := by
  cases exit with
  | addRejected | addUnparsable | removeRejected | removeMissed | missed | checked =>
    exact ⟨[_, _], _, rfl, rfl⟩
  | addThrew | addUnknown | closed => exact ⟨[_, _, _], _, rfl, rfl⟩
  | added | computed => exact ⟨[_, _, _, _], _, rfl, rfl⟩
  | destroyed => exact ⟨[_, _, _, _, _], _, rfl, rfl⟩
  | saidHello => cases waits

theorem Exit.silent {what : StdString} {events : List (Event J β)}
    (exit : Exit runtime request (.error what) events) : responses events = [] := by
  cases exit <;> rfl

end Cachersize.ProviderImpl
