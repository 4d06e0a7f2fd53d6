import Cachersize.Network.Routing
import Cachersize.Dummy

/-! What a `CacheHandle` does over its whole life: it never drifts to another cache. -/
namespace Cachersize.Network

open Concurrent ProviderImpl

variable {J β : Type} {runtime : ProviderHandle → Runtime J β} {m_token : ProviderHandle → StdString}
variable {actions : List NetworkAction} {network after : Network J β}

/-- Some `makeCacheHandle` asked for this handle. -/
def Made (actions : List NetworkAction) (self : CacheHandleImpl) : Prop :=
  ∃ rpc object check, .makeCacheHandle rpc object self.m_ph self.m_cache_id check ∈ actions

/-- Every handle, in an object or in a call, is one that was asked for. -/
structure Provenance (actions : List NetworkAction) (network : Network J β) : Prop where
  handles : ∀ object self, network.handles object = ⟨some self⟩ → Made actions self
  sums : ∀ rpc self uninitialised x y result outcome,
    network.calls rpc = some (.computeSum self uninitialised x y result, outcome) → Made actions self
  checks : ∀ rpc object ph cache_id outcome,
    network.calls rpc = some (.makeCacheHandle object ph cache_id, outcome) → Made actions ⟨ph, cache_id⟩

theorem Provenance.sent {action : NetworkAction} {rpc : Nat} {call : RemoteCall}
    (provenance : Provenance actions network) (member : action ∈ actions)
    (sends : Sends network rpc action call) (outcome : Option (Except StdString Returned)) :
    Provenance actions
      { network with calls := Function.update network.calls rpc (some (call, outcome)) } where
  handles := provenance.handles
  sums := by
    intro other self uninitialised x y result ended called
    by_cases same : other = rpc
    · subst same
      cases sends with
      | computeSum found =>
        simp only [Function.update_self, Option.some.injEq, Prod.mk.injEq,
          RemoteCall.computeSum.injEq] at called
        obtain ⟨⟨rfl, -⟩, -⟩ := called
        exact provenance.handles _ _ found
      | admin | makeCacheHandle => simp at called
    · exact provenance.sums other self uninitialised x y result ended (by simpa [same] using called)
  checks := by
    intro other object ph cache_id ended called
    by_cases same : other = rpc
    · subst same
      cases sends with
      | makeCacheHandle =>
        simp only [Function.update_self, Option.some.injEq, Prod.mk.injEq,
          RemoteCall.makeCacheHandle.injEq] at called
        obtain ⟨⟨-, rfl, rfl⟩, -⟩ := called
        exact ⟨_, _, _, member⟩
      | admin | computeSum => simp at called
    · exact provenance.checks other object ph cache_id ended (by simpa [same] using called)

theorem Provenance.moves {action : NetworkAction} (provenance : Provenance actions network)
    (member : action ∈ actions) (moved : Moves runtime network action after) :
    Provenance actions after := by
  cases moved with
  | sent fresh sends => exact provenance.sent member sends none
  | @assigned object _ handle assigns =>
    refine ⟨fun other self held => ?_, provenance.sums, provenance.checks⟩
    by_cases same : other = object
    · subst same
      simp only [Function.update_self] at held
      cases assigns with
      | makeCacheHandle =>
        cases held
        exact ⟨_, _, _, member⟩
      | copyHandle => exact provenance.handles _ _ held
    · exact provenance.handles other self (by simpa [same] using held)
  | threw => exact provenance
  | served => exact ⟨provenance.handles, provenance.sums, provenance.checks⟩
  | @answered rpc call response called responded =>
    constructor
    · intro object self held
      cases call with
      | admin | computeSum => exact provenance.handles object self held
      | makeCacheHandle target ph cache_id =>
        have asked := provenance.checks _ _ _ _ _ called
        simp only [RemoteCall.handles] at held
        split at held
        · by_cases same : object = target
          · subst same
            simp only [Function.update_self, CacheHandle.mk.injEq, Option.some.injEq] at held
            exact held ▸ asked
          · exact provenance.handles object self (by simpa [same] using held)
        · exact provenance.handles object self held
    · intro other self uninitialised x y result ended found
      obtain ⟨outcome, before⟩ := (called_answered called other _).mp ⟨ended, found⟩
      exact provenance.sums other self uninitialised x y result outcome before
    · intro other object ph cache_id ended found
      obtain ⟨outcome, before⟩ := (called_answered called other _).mp ⟨ended, found⟩
      exact provenance.checks other object ph cache_id outcome before

theorem Provenance.run {memory : Nat → Int32}
    (ran : Network.run runtime actions (Network.initial runtime m_token memory) = some network) :
    Provenance actions network := by
  refine run_induction (Provenance actions)
    (fun _ member _ _ provenance moved => provenance.moves member moved) ⟨?_, ?_, ?_⟩ ran
  · intro object self held
    cases held
  · intro rpc self uninitialised x y result outcome called
    cases called
  · intro rpc object ph cache_id outcome called
    cases called

/-- What the objects hold after an action of a run that ends in `network`: the last
handle that was made for them or copied to them. -/
def given (network : Network J β) (contents : Nat → CacheHandle) : NetworkAction → Nat → CacheHandle
  | .makeCacheHandle _ object ph cache_id false => Function.update contents object ⟨some ⟨ph, cache_id⟩⟩
  | .copyHandle object other => Function.update contents object (contents other)
  | .answer rpc =>
    match network.calls rpc with
    | some (.makeCacheHandle object ph cache_id, some (.ok _)) =>
      Function.update contents object ⟨some ⟨ph, cache_id⟩⟩
    | _ => contents
  | _ => contents

def contents (network : Network J β) (past : List NetworkAction) : Nat → CacheHandle :=
  past.foldl network.given fun _ => ⟨none⟩

/-- The number and the call that an action sends, by what its object holds. -/
def sends (contents : Nat → CacheHandle) : NetworkAction → Option (Nat × RemoteCall)
  | .admin rpc call => some (rpc, .admin call)
  | .makeCacheHandle rpc object ph cache_id true => some (rpc, .makeCacheHandle object ph cache_id)
  | .computeSum rpc object uninitialised x y result =>
    (contents object).self.map fun self => (rpc, .computeSum self uninitialised x y result)
  | _ => none

@[simp] theorem contents_nil (network : Network J β) : network.contents [] = fun _ => ⟨none⟩ := rfl

@[simp] theorem contents_snoc (network : Network J β) (past : List NetworkAction) (action : NetworkAction) :
    network.contents (past ++ [action]) = network.given (network.contents past) action := by
  simp [contents]

private theorem contents_congr {past : List NetworkAction}
    (same : ∀ rpc, .answer rpc ∈ past → after.calls rpc = network.calls rpc) :
    after.contents past = network.contents past := by
  induction past using List.reverseRecOn with
  | nil => rfl
  | append_singleton past action ih =>
    rw [contents_snoc, contents_snoc, ih fun rpc member => same rpc (List.mem_append_left _ member)]
    cases action with
    | answer rpc => rw [given, given, same rpc (by simp)]
    | makeCacheHandle rpc object ph cache_id check => cases check <;> rfl
    | admin | copyHandle | computeSum | deliver | handle | setSecurityToken => rfl

/-- The objects hold what they were given, the calls are those that were sent with it,
and an answered call keeps its outcome. -/
structure Traced (network : Network J β) (past : List NetworkAction) : Prop where
  held : network.handles = network.contents past
  sent : ∀ rpc call, (∃ outcome, network.calls rpc = some (call, outcome)) ↔
    ∃ before action rest, past = before ++ action :: rest ∧
      sends (network.contents before) action = some (rpc, call)
  settled : ∀ rpc, .answer rpc ∈ past → ∃ call ended, network.calls rpc = some (call, some ended)

private theorem snoc_splits {past : List NetworkAction} {action : NetworkAction}
    (Holds : List NetworkAction → NetworkAction → Prop) :
    (∃ before other rest, past ++ [action] = before ++ other :: rest ∧ Holds before other) ↔
      (∃ before other rest, past = before ++ other :: rest ∧ Holds before other) ∨ Holds past action := by
  constructor
  · rintro ⟨before, other, rest, split, holds⟩
    rcases List.eq_nil_or_concat rest with rfl | ⟨rest, last, rfl⟩
    · obtain ⟨rfl, same⟩ := List.append_inj' split rfl
      cases same
      exact .inr holds
    · have ends : past ++ [action] = (before ++ other :: rest) ++ [last] := by simpa using split
      exact .inl ⟨before, other, rest, (List.append_inj' ends rfl).1, holds⟩
  · rintro (⟨before, other, rest, rfl, holds⟩ | holds)
    · exact ⟨before, other, rest ++ [action], by simp, holds⟩
    · exact ⟨past, action, [], rfl, holds⟩

private theorem Moves.given {action : NetworkAction} (moved : Moves runtime network action after) :
    after.handles = after.given network.handles action := by
  cases moved with
  | sent fresh sends => cases sends <;> rfl
  | assigned assigns => cases assigns <;> rfl
  | threw => rfl
  | served directs => cases directs <;> rfl
  | @answered rpc call response called responded =>
    simp only [Network.given, Function.update_self]
    cases call with
    | admin | computeSum => rfl
    | makeCacheHandle object ph cache_id =>
      cases success : response.success <;> simp [RemoteCall.returns, RemoteCall.handles, success]

theorem Moves.sends {action : NetworkAction} (moved : Moves runtime network action after) (rpc : Nat)
    (call : RemoteCall) : (∃ outcome, after.calls rpc = some (call, outcome)) ↔
      (∃ outcome, network.calls rpc = some (call, outcome)) ∨
        Network.sends network.handles action = some (rpc, call) := by
  cases moved with
  | @sent number _ sending fresh sends =>
    have same : Network.sends network.handles action = some (number, sending) := by
      cases sends with
      | admin | makeCacheHandle => rfl
      | computeSum found => simp [Network.sends, found]
    rw [same]
    by_cases here : rpc = number
    · subst here
      simp [fresh]
    · simp [here, Ne.symm here]
  | assigned assigns => cases assigns <;> simp [Network.sends]
  | threw empty => simp [Network.sends, empty]
  | served directs => cases directs <;> simp [Network.sends]
  | @answered other _ _ called responded =>
    rw [called_answered called rpc call]
    simp [Network.sends]

theorem Traced.moves {past : List NetworkAction} {action : NetworkAction} (traced : Traced network past)
    (moved : Moves runtime network action after) : Traced after (past ++ [action]) := by
  have same (rpc : Nat) (member : .answer rpc ∈ past) : after.calls rpc = network.calls rpc := by
    obtain ⟨call, ended, called⟩ := traced.settled rpc member
    rw [called, moved.returned called]
  have now : after.contents past = network.handles := (contents_congr same).trans traced.held.symm
  constructor
  · rw [contents_snoc, now]
    exact moved.given
  · intro rpc call
    rw [moved.sends, traced.sent, snoc_splits fun before other =>
      Network.sends (after.contents before) other = some (rpc, call), now]
    refine or_congr_left (exists_congr fun before => exists_congr fun other => exists_congr fun rest =>
      and_congr_right fun split => ?_)
    rw [contents_congr fun rpc member => same rpc (split ▸ List.mem_append_left _ member)]
  · intro rpc member
    rcases List.mem_append.mp member with earlier | last
    · obtain ⟨call, ended, called⟩ := traced.settled rpc earlier
      exact ⟨call, ended, moved.returned called⟩
    · cases List.mem_singleton.mp last
      cases moved with
      | sent fresh sends => cases sends
      | assigned assigns => cases assigns
      | served directs => cases directs
      | @answered _ call response called responded =>
        exact ⟨call, call.returns response, Function.update_self ..⟩

theorem Traced.run {memory : Nat → Int32}
    (ran : Network.run runtime actions (Network.initial runtime m_token memory) = some network) :
    Traced network actions := by
  have start : Traced (Network.initial (β := β) runtime m_token memory) [] :=
    ⟨rfl, fun rpc call => by simp [Network.initial], fun rpc member => by cases member⟩
  simpa using (run_repeats runtime).past_induction Traced
    (fun _ _ _ _ _ traced stepped => traced.moves (step_moves stepped)) start ran

/-- The ends of a `computeSum`: it ran once, on the backend that was bound to the id of
the handle, or nowhere because the id was not bound. -/
inductive SumEnds (runtime : ProviderHandle → Runtime J β) (network after : Network J β) (rpc : Nat)
    (self : CacheHandleImpl) (uninitialised x y : Int32) (result : Option Nat) : Prop where
  | executed (bound : network.BoundOnce binder self.m_ph self.m_cache_id cache)
      (once : ∀ ph, sums (Global.own rpc (network.providers ph).global.log) =
        if ph = self.m_ph then [.computedSum cache x y (.ok sum)] else [])
      (outcome : after.calls rpc = some (.computeSum self uninitialised x y result,
        some (if sum.m_success then .ok .void else .error sum.m_error)))
      (memory : after.memory = Client.delivered network.memory result sum)
  | notFound (never : ∀ ph, sums (Global.own rpc (network.providers ph).global.log) = [])
      (outcome : after.calls rpc = some (.computeSum self uninitialised x y result,
        some (.error (notFoundWithUuid (runtime self.m_ph) self.m_cache_id))))
      (memory : after.memory = network.memory)

/-- The ends of a `makeCacheHandle` with a check, by what `m_backends` held when its
request looked the id up. -/
inductive CheckEnds (runtime : ProviderHandle → Runtime J β) (network after : Network J β) (rpc object : Nat)
    (ph : ProviderHandle) (cache_id : UUID) : Prop where
  | made (split : (network.providers ph).global.log = before ++ (rpc, .lookedUp cache_id found) :: rest)
      (bound : cache_id ∈ bindings before)
      (outcome : after.calls rpc = some (.makeCacheHandle object ph cache_id,
        some (.ok (.cacheHandle ⟨some ⟨ph, cache_id⟩⟩))))
      (handle : after.handles object = ⟨some ⟨ph, cache_id⟩⟩)
  | threw (split : (network.providers ph).global.log = before ++ (rpc, .lookedUp cache_id found) :: rest)
      (unbound : cache_id ∉ bindings before)
      (outcome : after.calls rpc = some (.makeCacheHandle object ph cache_id,
        some (.error (notFoundWithUuid (runtime ph) cache_id))))
      (kept : after.handles = network.handles)

theorem step_answer {rpc : Nat} {call : RemoteCall} (called : network.calls rpc = some (call, none)) :
    network.step runtime (.answer rpc) = (network.received rpc call).map fun response => { network with
      calls := Function.update network.calls rpc (some (call, some (call.returns response)))
      handles := call.handles response network.handles
      memory := call.memory response network.memory } := by
  simp only [step, called]

/-- The calls that look an id up, on a provider whose backends return. -/
def Answerable (runtime : ProviderHandle → Runtime J β) : RemoteCall → Prop
  | .makeCacheHandle .. => True
  | .computeSum self _ x y _ =>
      ∀ history cache, ∃ sum, (runtime self.m_ph).computeSum history cache x y = .ok sum
  | .admin _ => False

private theorem exit_responds {request : Request} {call : RemoteCall} {outcome : Except StdString Unit}
    {events : List (Event J β)} (answerable : Answerable runtime call) (same : call.request = request)
    (exit : Exit (runtime call.ph) request outcome events) :
    ∃ response, (responses events).head? = some response := by
  cases call with
  | admin => cases answerable
  | makeCacheHandle object ph cache_id =>
    rcases exit.check same.symm with missed | ⟨cache, hit⟩
    · exact ⟨_, by rw [missed]; rfl⟩
    · exact ⟨_, by rw [hit]; rfl⟩
  | computeSum self uninitialised x y result =>
    rcases exit.sum same.symm with missed | ⟨cache, sum, computed⟩ | ⟨cache, what, ⟨history, threw⟩, -⟩
    · exact ⟨_, by rw [missed]; rfl⟩
    · exact ⟨_, by rw [computed]; rfl⟩
    · obtain ⟨sum, returned⟩ := answerable history cache
      cases threw.symm.trans returned

namespace Sound

variable {rpc : Nat} (sound : Sound runtime m_token network)
include sound

theorem responding {call : RemoteCall} {outcome : Option (Except StdString Returned)}
    {response : Response} (called : network.calls rpc = some (call, outcome))
    (received : network.received rpc call = some response) :
    ∃ program, (network.providers call.ph).threads rpc = some ⟨call.request, program⟩ := by
  apply sound.present called
  intro silent
  rw [Network.received, silent] at received
  cases received

private theorem sum_ends {self : CacheHandleImpl} {uninitialised x y : Int32} {result : Option Nat}
    (distinct : network.DrawsDistinct)
    (called : network.calls rpc = some (.computeSum self uninitialised x y result, none))
    (stepped : network.step runtime (.answer rpc) = some after) :
    SumEnds runtime network after rpc self uninitialised x y result := by
  rw [step_answer called] at stepped
  obtain ⟨response, received, rfl⟩ := Option.map_eq_some_iff.mp stepped
  obtain ⟨program, present⟩ := sound.responding called received
  obtain ⟨actions, served⟩ := sound.served self.m_ph
  have elsewhere (ph : ProviderHandle) (other : ph ≠ self.m_ph) :
      sums (Global.own rpc (network.providers ph).global.log) = [] := by
    rw [sound.elsewhere called other]
    rfl
  rcases sum_responded served present received with ⟨rfl, none⟩ | ⟨cache, sum, rfl, once, found⟩
  · refine .notFound (fun ph => ?_) (Function.update_self ..) rfl
    by_cases here : ph = self.m_ph
    · rw [here, none]
    · exact elsewhere ph here
  · obtain ⟨binder, bound⟩ := sound.found_bound distinct found
    refine .executed bound (fun ph => ?_) (Function.update_self ..) rfl
    by_cases here : ph = self.m_ph
    · rw [if_pos here, here, once]
    · rw [if_neg here, elsewhere ph here]

private theorem check_ends {object : Nat} {ph : ProviderHandle} {cache_id : UUID}
    (called : network.calls rpc = some (.makeCacheHandle object ph cache_id, none))
    (stepped : network.step runtime (.answer rpc) = some after) :
    CheckEnds runtime network after rpc object ph cache_id := by
  rw [step_answer called] at stepped
  obtain ⟨response, received, rfl⟩ := Option.map_eq_some_iff.mp stepped
  obtain ⟨program, present⟩ := sound.responding called received
  obtain ⟨actions, served⟩ := sound.served ph
  obtain ⟨found, lookedUp, same⟩ := check_responded served present received
  obtain ⟨before, rest, split, looked⟩ :=
    (serve_replays served).accurate.of_mem (Global.mem_own.mp lookedUp)
  have looked : found = (bindings before).lookup cache_id := looked
  cases found with
  | none =>
    subst same
    exact .threw split (Finmap.lookup_eq_none.mp looked.symm) (Function.update_self ..) rfl
  | some cache =>
    subst same
    exact .made split (Finmap.mem_of_lookup_eq_some looked.symm) (Function.update_self ..)
      (Function.update_self ..)

private theorem run_handled {ph : ProviderHandle} {schedule : List Nat} {provider : ProviderImpl.Provider J β}
    (ran : (system (runtime ph)).run (schedule.map .step) (network.providers ph) = some provider) :
    Network.run runtime (schedule.map .handle) network =
      some { network with providers := Function.update network.providers ph provider } := by
  induction schedule generalizing network with
  | nil =>
    cases ran
    simp [Network.run]
  | cons actor rest ih =>
    obtain ⟨middle, stepped, remaining⟩ := Option.bind_eq_some_iff.mp ran
    have called : ∃ call outcome, network.calls actor = some (call, outcome) ∧ call.ph = ph := by
      rcases System.step_cases stepped with ⟨_, _, spawned, -⟩ |
        ⟨thread, _, _, _, _, _, _, same, running, -⟩ | ⟨_, changed, -⟩
      · cases spawned
      · cases same
        obtain ⟨call, outcome, found, target, -⟩ := sound.threads ph _ _ running
        exact ⟨call, outcome, found, target⟩
      · cases changed
    obtain ⟨call, outcome, found, rfl⟩ := called
    have handled : network.step runtime (.handle actor) =
        some { network with providers := Function.update network.providers call.ph middle } := by
      simp only [Network.step, found, onProvider, stepped, Option.map_some]
    have continued := ih (sound.moves (step_moves handled)) (by simpa using remaining)
    rw [List.map_cons, Network.run, handled, Option.bind_some, continued]
    simp

private theorem answered_of_present {call : RemoteCall} {program : Handler J β Unit}
    (called : network.calls rpc = some (call, none)) (answerable : Answerable runtime call)
    (present : (network.providers call.ph).threads rpc = some ⟨call.request, program⟩) :
    ∃ more later, Network.run runtime more network = some later ∧
      later.calls rpc = some (call, none) ∧ (later.step runtime (.answer rpc)).isSome := by
  obtain ⟨actions, served⟩ := sound.served call.ph
  obtain ⟨schedule, provider, outcome, ran, finished⟩ := finishes_scheduled served present
  have exit := finished_exit (serve_append served ran) finished
  obtain ⟨response, responded⟩ := exit_responds answerable rfl exit
  let later : Network J β :=
    { network with providers := Function.update network.providers call.ph provider }
  have received : later.received rpc call = some response := by
    simpa [Network.received, later] using responded
  have still : later.calls rpc = some (call, none) := called
  refine ⟨_, later, sound.run_handled ran, still, ?_⟩
  rw [step_answer still, received]
  rfl

/-- From every state, a call under way can be brought to its end. -/
theorem answered {call : RemoteCall} (called : network.calls rpc = some (call, none))
    (answerable : Answerable runtime call) :
    ∃ more later, Network.run runtime more network = some later ∧
      later.calls rpc = some (call, none) ∧ (later.step runtime (.answer rpc)).isSome := by
  cases running : (network.providers call.ph).threads rpc with
  | some thread =>
    obtain ⟨same, _, found, -, tag⟩ := sound.threads call.ph rpc thread running
    cases called.symm.trans found
    obtain ⟨request, program⟩ := thread
    cases tag
    exact sound.answered_of_present called answerable running
  | none =>
    let provider : ProviderImpl.Provider J β :=
      ⟨(network.providers call.ph).global.extend rpc (network.providers call.ph).global.shared
          [.received call.request],
        Function.update (network.providers call.ph).threads rpc
          (some ⟨call.request, handler (runtime call.ph) call.request⟩)⟩
    let arrived : Network J β :=
      { network with providers := Function.update network.providers call.ph provider }
    have delivered : network.step runtime (.deliver rpc) = some arrived := by
      simp only [Network.step, called, onProvider, System.step, running, Option.map_some, arrived,
        provider]
    have present : (arrived.providers call.ph).threads rpc =
        some ⟨call.request, handler (runtime call.ph) call.request⟩ := by simp [arrived, provider]
    have soundArrived := sound.moves (step_moves delivered)
    obtain ⟨more, later, ran, still, answered⟩ :=
      soundArrived.answered_of_present called answerable present
    refine ⟨.deliver rpc :: more, later, ?_, still, answered⟩
    rw [Network.run, delivered, Option.bind_some, ran]

/-- At any time, a call has run on at most the backend bound to the id of its handle. -/
theorem sum_ran {self : CacheHandleImpl} {uninitialised x y : Int32} {result : Option Nat}
    {outcome : Option (Except StdString Returned)} (distinct : network.DrawsDistinct)
    (called : network.calls rpc = some (.computeSum self uninitialised x y result, outcome))
    (ph : ProviderHandle) :
    sums (Global.own rpc (network.providers ph).global.log) = [] ∨
      ph = self.m_ph ∧ ∃ binder cache ended, network.BoundOnce binder ph self.m_cache_id cache ∧
        sums (Global.own rpc (network.providers ph).global.log) = [.computedSum cache x y ended] := by
  by_cases here : ph = self.m_ph
  · subst here
    by_cases silent : Global.own rpc (network.providers self.m_ph).global.log = []
    · left
      rw [silent]
      rfl
    · obtain ⟨program, present⟩ := sound.present called silent
      obtain ⟨actions, served⟩ := sound.served self.m_ph
      rcases sum_in_flight served present with none | ⟨cache, ended, once, found⟩
      · exact .inl none
      · obtain ⟨binder, bound⟩ := sound.found_bound distinct found
        exact .inr ⟨rfl, binder, cache, ended, bound, once⟩
  · left
    rw [sound.elsewhere called here]
    rfl

end Sound

/-- What holds of every handle in every state of the network: an object holds the last
handle that was made for it or copied to it, and its calls are sent with that one; its
calls reach the one backend that was bound to its id on its provider, once, or fail
because the id is not bound there; a checked `makeCacheHandle` succeeds exactly if the
id was bound at its lookup, an unchecked one always; and calls get answered. -/
structure Steady (runtime : ProviderHandle → Runtime J β) (actions : List NetworkAction)
    (network : Network J β) : Prop where
  held : network.handles = network.contents actions
  sent : ∀ rpc call, (∃ outcome, network.calls rpc = some (call, outcome)) ↔
    ∃ before action rest, actions = before ++ action :: rest ∧
      sends (network.contents before) action = some (rpc, call)
  made : ∀ rpc self uninitialised x y result outcome,
    network.calls rpc = some (.computeSum self uninitialised x y result, outcome) → Made actions self
  ran : ∀ rpc self uninitialised x y result outcome ph,
    network.calls rpc = some (.computeSum self uninitialised x y result, outcome) →
      sums (Global.own rpc (network.providers ph).global.log) = [] ∨
        ph = self.m_ph ∧ ∃ binder cache ended, network.BoundOnce binder ph self.m_cache_id cache ∧
          sums (Global.own rpc (network.providers ph).global.log) = [.computedSum cache x y ended]
  ends : ∀ rpc self uninitialised x y result after,
    network.calls rpc = some (.computeSum self uninitialised x y result, none) →
      network.step runtime (.answer rpc) = some after →
      SumEnds runtime network after rpc self uninitialised x y result
  checks : ∀ rpc object ph cache_id after,
    network.calls rpc = some (.makeCacheHandle object ph cache_id, none) →
      network.step runtime (.answer rpc) = some after →
      CheckEnds runtime network after rpc object ph cache_id
  unchecked : ∀ rpc object ph cache_id,
    network.step runtime (.makeCacheHandle rpc object ph cache_id false) = some { network with
      handles := Function.update network.handles object ⟨some ⟨ph, cache_id⟩⟩ }
  answered : ∀ rpc call, network.calls rpc = some (call, none) → Answerable runtime call →
    ∃ more later, Network.run runtime more network = some later ∧
      later.calls rpc = some (call, none) ∧ (later.step runtime (.answer rpc)).isSome

/-- Handles never drift to another cache, in any run of any number of clients,
administrators and providers in which no id is drawn twice. -/
theorem handles_never_drift {memory : Nat → Int32}
    (ran : Network.run runtime actions (Network.initial runtime m_token memory) = some network)
    (distinct : network.DrawsDistinct) : Steady runtime actions network := by
  have sound := Sound.run ran
  have traced := Traced.run ran
  constructor
  · exact traced.held
  · exact traced.sent
  · exact (Provenance.run ran).sums
  · intro rpc self uninitialised x y result outcome ph called
    exact sound.sum_ran distinct called ph
  · intro rpc self uninitialised x y result after called stepped
    exact sound.sum_ends distinct called stepped
  · intro rpc object ph cache_id after called stepped
    exact sound.check_ends called stepped
  · intro rpc object ph cache_id
    rfl
  · intro rpc call called answerable
    exact sound.answered called answerable

/-- A cache is created, and a copy of its handle is used after the handle was given to
another cache. -/
def copiedHandle (ph : ProviderHandle) : List NetworkAction :=
  .admin 0 (.createCache ph UUID.clear (lit "dummy") (lit "{}") []) :: .deliver 0 ::
    List.replicate 6 (.handle 0) ++
  [.answer 0, .makeCacheHandle 1 0 ph UUID.clear true, .deliver 1] ++ List.replicate 4 (.handle 1) ++
  [.answer 1, .copyHandle 1 0, .makeCacheHandle 2 0 ⟨lit "elsewhere", 1⟩ UUID.clear false,
    .computeSum 2 1 0 1 2 (some 7), .deliver 2] ++ List.replicate 6 (.handle 2) ++ [.answer 2]

theorem copiedHandle_steady : ∃ network,
    Network.run (fun _ => DummyCache.sample) (copiedHandle ⟨lit "na+sm", 0⟩)
      (Network.initial (fun _ => DummyCache.sample) (fun _ => []) fun _ => 0) = some network ∧
    network.memory 7 = 3 ∧
    Steady (fun _ => DummyCache.sample) (copiedHandle ⟨lit "na+sm", 0⟩) network := by
  obtain ⟨network, ran, sum, check, used, rest⟩ : ∃ network,
      Network.run (fun _ => DummyCache.sample) (copiedHandle ⟨lit "na+sm", 0⟩)
        (Network.initial (fun _ => DummyCache.sample) (fun _ => []) fun _ => 0) = some network ∧
      network.memory 7 = 3 ∧
      (∃ outcome, network.calls 1 = some (.makeCacheHandle 0 ⟨lit "na+sm", 0⟩ UUID.clear, outcome)) ∧
      (∃ outcome, network.calls 2 = some (.computeSum ⟨⟨lit "na+sm", 0⟩, UUID.clear⟩ 0 1 2 (some 7),
        outcome)) ∧
      ∀ rpc, network.calls (rpc + 3) = none := ⟨_, rfl, rfl, ⟨_, rfl⟩, ⟨_, rfl⟩, fun _ => rfl⟩
  refine ⟨network, ran, sum, handles_never_drift ran (.of_only 0 ?_)⟩
  intro rpc call outcome cache_id called drawn
  match rpc with
  | 0 => rfl
  | 1 =>
    obtain ⟨_, check⟩ := check
    cases check.symm.trans called
    cases drawn
  | 2 =>
    obtain ⟨_, used⟩ := used
    cases used.symm.trans called
    cases drawn
  | rpc + 3 => cases (rest rpc).symm.trans called

end Cachersize.Network
