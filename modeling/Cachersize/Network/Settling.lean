import Cachersize.Network.Handles
import Cachersize.Network.Observed
import Cachersize.Provider.Bounded
import Mathlib.Algebra.BigOperators.Group.Finset.Basic
import Mathlib.Algebra.Order.BigOperators.Group.Finset

/-! Calls come to an end: once no new ones are made, every schedule of the network stops,
and what is unanswered then stays so because an exception left its handler. -/
namespace Cachersize

open Concurrent ProviderImpl

namespace NetworkAction

def serves : NetworkAction → Option Nat
  | deliver rpc | handle rpc | answer rpc => some rpc
  | _ => none

def starts : NetworkAction → Option Nat
  | admin rpc _ | computeSum rpc .. => some rpc
  | makeCacheHandle rpc _ _ _ check => if check then some rpc else none
  | _ => none

end NetworkAction

namespace Network

variable {J β : Type} {runtime : ProviderHandle → Runtime J β} {m_token : ProviderHandle → StdString}
variable {actions past : List NetworkAction} {network after : Network J β} {rpc : Nat}

/-- No call can be brought forward. -/
def Quiet (runtime : ProviderHandle → Runtime J β) (network : Network J β) : Prop :=
  ∀ action, action.serves ≠ none → network.step runtime action = none

def spent (rpc : Nat) (past : List NetworkAction) : Nat := (past.filterMap NetworkAction.serves).count rpc

def owed (outcome : Option (Except StdString Returned)) : Nat := if outcome.isSome then 0 else 1

/-- Eleven steps are enough for a call: one to deliver it, nine to handle it, one to
answer it. -/
structure Budgeted (network : Network J β) (past : List NetworkAction) : Prop where
  unsent : ∀ rpc, network.calls rpc = none → spent rpc past = 0
  started : ∀ rpc call outcome, network.calls rpc = some (call, outcome) →
    rpc ∈ past.filterMap NetworkAction.starts
  waiting : ∀ rpc call outcome, network.calls rpc = some (call, outcome) →
    (network.providers call.ph).threads rpc = none → spent rpc past + owed outcome ≤ 1
  running : ∀ rpc call outcome request program, network.calls rpc = some (call, outcome) →
    (network.providers call.ph).threads rpc = some ⟨request, program⟩ →
    ∃ bound, program.Within bound ∧ spent rpc past + bound + owed outcome ≤ 11

@[simp] theorem spent_append (rpc : Nat) (first second : List NetworkAction) :
    spent rpc (first ++ second) = spent rpc first + spent rpc second := by
  simp [spent]

private theorem spent_of_starts {action : NetworkAction} (idle : action.serves = none) (rpc : Nat) :
    spent rpc [action] = 0 := by
  simp [spent, idle]

private theorem spent_of_serves {action : NetworkAction} {served : Nat} (serves : action.serves = some served)
    (rpc : Nat) : spent rpc [action] = if rpc = served then 1 else 0 := by
  by_cases same : rpc = served
  · simp [spent, serves, same]
  · simp [spent, serves, same, Ne.symm same]

private theorem sends_starts {action : NetworkAction} {call : RemoteCall}
    (sends : Sends network rpc action call) :
    action.serves = none ∧ action.starts = some rpc := by
  cases sends <;> exact ⟨rfl, rfl⟩

namespace Budgeted

theorem initial (memory : Nat → Int32) : Budgeted (Network.initial runtime m_token memory) [] where
  unsent _ _ := rfl
  started := by simp [Network.initial]
  waiting := by simp [Network.initial]
  running := by simp [Network.initial]

/-- An action on no call that the network knows of spends nothing. -/
theorem idle (budgeted : Budgeted network past) {action : NetworkAction} (idle : action.serves = none)
    (calls : after.calls = network.calls) (providers : ∀ ph rpc,
      (after.providers ph).threads rpc = (network.providers ph).threads rpc) :
    Budgeted after (past ++ [action]) where
  unsent := by
    intro rpc fresh
    rw [spent_append, spent_of_starts idle]
    exact budgeted.unsent rpc (calls ▸ fresh)
  started := by
    intro rpc call outcome called
    rw [List.filterMap_append]
    exact List.mem_append_left _ (budgeted.started rpc call outcome (calls ▸ called))
  waiting := by
    intro rpc call outcome called vacant
    rw [spent_append, spent_of_starts idle]
    exact budgeted.waiting rpc call outcome (calls ▸ called) (providers call.ph rpc ▸ vacant)
  running := by
    intro rpc call outcome request program called present
    rw [spent_append, spent_of_starts idle]
    exact budgeted.running rpc call outcome request program (calls ▸ called) (providers call.ph rpc ▸ present)

/-- A step of the handler of a call, for which there was room. -/
theorem served (budgeted : Budgeted network past) {action : NetworkAction} {call : RemoteCall}
    {outcome : Option (Except StdString Returned)} {request : Request} {program : Handler J β Unit}
    {provider : ProviderImpl.Provider J β} {bound : Nat} (serves : action.serves = some rpc)
    (called : network.calls rpc = some (call, outcome))
    (threads : provider.threads =
      Function.update (network.providers call.ph).threads rpc (some ⟨request, program⟩))
    (within : program.Within bound) (room : spent rpc past + 1 + bound + owed outcome ≤ 11) :
    Budgeted { network with providers := Function.update network.providers call.ph provider }
      (past ++ [action]) := by
  have others {other : Nat} (apart : other ≠ rpc) : spent other (past ++ [action]) = spent other past := by
    rw [spent_append, spent_of_serves serves, if_neg apart, Nat.add_zero]
  have untouched {other : Nat} (apart : other ≠ rpc) (ph : ProviderHandle) :
      (Function.update network.providers call.ph provider ph).threads other =
        (network.providers ph).threads other := by
    by_cases here : ph = call.ph
    · subst here
      simp [threads, apart]
    · simp [here]
  constructor
  · intro other fresh
    have apart : other ≠ rpc := by
      intro same
      rw [same, called] at fresh
      cases fresh
    rw [others apart]
    exact budgeted.unsent other fresh
  · intro other found ended present
    rw [List.filterMap_append]
    exact List.mem_append_left _ (budgeted.started other found ended present)
  · intro other found ended present vacant
    have apart : other ≠ rpc := by
      intro same
      subst same
      cases called.symm.trans present
      simp [threads] at vacant
    rw [others apart]
    rw [untouched apart] at vacant
    exact budgeted.waiting other found ended present vacant
  · intro other found ended tag rest present running
    by_cases same : other = rpc
    · subst same
      cases called.symm.trans present
      simp only [Function.update_self, threads, Option.some.injEq, Thread.mk.injEq] at running
      obtain ⟨-, rfl⟩ := running
      refine ⟨bound, within, ?_⟩
      rw [spent_append, spent_of_serves serves, if_pos rfl]
      exact room
    · rw [others same]
      rw [untouched same] at running
      exact budgeted.running other found ended tag rest present running

theorem sent (budgeted : Budgeted network past) (sound : Sound runtime m_token network)
    {action : NetworkAction} {call : RemoteCall} (fresh : network.calls rpc = none)
    (sends : Sends network rpc action call) :
    Budgeted { network with calls := Function.update network.calls rpc (some (call, none)) }
      (past ++ [action]) := by
  obtain ⟨idle, starts⟩ := sends_starts sends
  have same (other : Nat) : spent other (past ++ [action]) = spent other past := by
    rw [spent_append, spent_of_starts idle, Nat.add_zero]
  have vacant (ph : ProviderHandle) (thread : Thread _ _ _ _) :
      (network.providers ph).threads rpc ≠ some thread := by
    intro running
    obtain ⟨_, _, called, -⟩ := sound.threads ph rpc thread running
    cases fresh.symm.trans called
  constructor
  · intro other unsent
    have apart : other ≠ rpc := by
      intro here
      simp [here] at unsent
    rw [same]
    exact budgeted.unsent other (by simpa [apart] using unsent)
  · intro other found ended called
    rw [List.filterMap_append]
    by_cases here : other = rpc
    · simp [here, starts]
    · exact List.mem_append_left _ (budgeted.started other found ended (by simpa [here] using called))
  · intro other found ended called free
    rw [same]
    by_cases here : other = rpc
    · subst here
      simp only [Function.update_self, Option.some.injEq, Prod.mk.injEq] at called
      rw [budgeted.unsent other fresh, ← called.2]
      decide
    · exact budgeted.waiting other found ended (by simpa [here] using called) free
  · intro other found ended request program called running
    rw [same]
    by_cases here : other = rpc
    · subst here
      exact absurd running (vacant _ _)
    · exact budgeted.running other found ended request program (by simpa [here] using called) running

theorem answered (budgeted : Budgeted network past) (sound : Sound runtime m_token network)
    {call : RemoteCall} {response : Response} {ended : Except StdString Returned}
    (called : network.calls rpc = some (call, none)) (responded : network.received rpc call = some response)
    (calls : after.calls = Function.update network.calls rpc (some (call, some ended)))
    (providers : after.providers = network.providers) :
    Budgeted after (past ++ [.answer rpc]) := by
  have serves : (NetworkAction.answer rpc).serves = some rpc := rfl
  have others {other : Nat} (apart : other ≠ rpc) :
      spent other (past ++ [.answer rpc]) = spent other past := by
    rw [spent_append, spent_of_serves serves, if_neg apart, Nat.add_zero]
  obtain ⟨program, present⟩ := sound.responding called responded
  constructor
  · intro other unsent
    rw [calls] at unsent
    have apart : other ≠ rpc := by
      intro here
      simp [here] at unsent
    rw [others apart]
    exact budgeted.unsent other (by simpa [apart] using unsent)
  · intro other found outcome foundCalled
    obtain ⟨earlier, before⟩ :=
      (called_answered called other found).mp ⟨outcome, by rw [← foundCalled, calls]⟩
    rw [List.filterMap_append]
    exact List.mem_append_left _ (budgeted.started other found earlier before)
  · intro other found outcome foundCalled free
    rw [calls] at foundCalled
    rw [providers] at free
    have apart : other ≠ rpc := by
      intro here
      subst here
      rw [Function.update_self] at foundCalled
      cases foundCalled
      cases present.symm.trans free
    rw [others apart]
    exact budgeted.waiting other found outcome (by simpa [apart] using foundCalled) free
  · intro other found outcome request rest foundCalled running
    rw [calls] at foundCalled
    rw [providers] at running
    by_cases here : other = rpc
    · subst here
      rw [Function.update_self] at foundCalled
      cases foundCalled
      obtain ⟨bound, within, room⟩ := budgeted.running other call none request rest called running
      refine ⟨bound, within, ?_⟩
      rw [spent_append, spent_of_serves serves, if_pos rfl]
      simp only [owed, Option.isSome_none, Option.isSome_some, Bool.false_eq_true, ↓reduceIte] at room ⊢
      omega
    · rw [others here]
      exact budgeted.running other found outcome request rest (by simpa [here] using foundCalled) running

theorem moves (budgeted : Budgeted network past) (sound : Sound runtime m_token network)
    {action : NetworkAction} (moved : Moves runtime network action after) :
    Budgeted after (past ++ [action]) := by
  cases moved with
  | sent fresh sends => exact budgeted.sent sound fresh sends
  | assigned assigns =>
    refine budgeted.idle ?_ rfl fun _ _ => rfl
    cases assigns <;> rfl
  | threw => exact budgeted.idle rfl rfl fun _ _ => rfl
  | @served ph _ change provider directs stepped =>
    rcases System.step_cases stepped with ⟨actor, request, rfl, vacant, rfl⟩ |
      ⟨actor, request, op, next, answer, shared, events, rfl, running, -, rfl⟩ | ⟨token, rfl, rfl⟩
    · cases directs with
      | deliver called target =>
        subst target
        have unspent := budgeted.waiting _ _ _ called vacant
        exact budgeted.served rfl called rfl (handler_within _ _) (by omega)
    · cases directs
      obtain ⟨call, outcome, called, rfl, -⟩ := sound.threads ph actor _ running
      obtain ⟨bound, within, room⟩ := budgeted.running actor call outcome _ _ called running
      obtain ⟨less, rfl, later⟩ := within.pos
      exact budgeted.served rfl called rfl (later answer) (by omega)
    · cases directs
      refine budgeted.idle rfl rfl fun other thread => ?_
      by_cases here : other = ph
      · subst here
        simp
      · simp [here]
  | answered called responded => exact budgeted.answered sound called responded rfl rfl

theorem run {memory : Nat → Int32}
    (ran : Network.run runtime actions (Network.initial runtime m_token memory) = some network) :
    Budgeted network actions := by
  suffices Sound runtime m_token network ∧ Budgeted network ([] ++ actions) from this.2
  refine (run_repeats runtime).past_induction
    (fun network past => Sound runtime m_token network ∧ Budgeted network past) ?_
    ⟨.initial memory, initial memory⟩ ran
  intro action _ before later past holds stepped
  obtain ⟨sound, budgeted⟩ := holds
  have moved := step_moves stepped
  exact ⟨sound.moves moved, budgeted.moves sound moved⟩

private theorem spent_le (budgeted : Budgeted network past) (rpc : Nat) : spent rpc past ≤ 11 := by
  cases called : network.calls rpc with
  | none => rw [budgeted.unsent rpc called]; decide
  | some present =>
    obtain ⟨call, outcome⟩ := present
    cases running : (network.providers call.ph).threads rpc with
    | none =>
      have unspent := budgeted.waiting rpc call outcome called running
      omega
    | some thread =>
      obtain ⟨request, program⟩ := thread
      obtain ⟨bound, -, room⟩ := budgeted.running rpc call outcome request program called running
      omega

private theorem serves_starts (budgeted : Budgeted network past)
    (served : rpc ∈ past.filterMap NetworkAction.serves) : rpc ∈ past.filterMap NetworkAction.starts := by
  cases called : network.calls rpc with
  | none =>
    have unspent := budgeted.unsent rpc called
    exact absurd served (List.count_eq_zero.mp unspent)
  | some present => exact budgeted.started rpc present.1 present.2 called

end Budgeted

/-- A list of few different elements, none of which comes often, is short. -/
theorem length_le_of_counts {list names : List Nat} {bound : Nat} (few : ∀ name, list.count name ≤ bound)
    (known : ∀ name ∈ list, name ∈ names) : list.length ≤ bound * names.length := by
  have total : ∑ name ∈ list.toFinset, list.count name = list.length :=
    List.sum_toFinset_count_eq_length list
  have within : list.toFinset ⊆ names.toFinset := by
    intro name member
    exact List.mem_toFinset.mpr (known name (List.mem_toFinset.mp member))
  calc list.length = ∑ name ∈ list.toFinset, list.count name := total.symm
    _ ≤ list.toFinset.card * bound := Finset.sum_le_card_nsmul _ _ _ fun name _ => few name
    _ ≤ names.length * bound :=
      Nat.mul_le_mul_right bound ((Finset.card_le_card within).trans names.toFinset_card_le)
    _ = bound * names.length := Nat.mul_comm _ _

private theorem step_deliver {call : RemoteCall} {outcome : Option (Except StdString Returned)}
    (called : network.calls rpc = some (call, outcome)) :
    network.step runtime (.deliver rpc) = network.onProvider runtime call.ph (.spawn rpc call.request) := by
  simp only [step, called]

private theorem step_handle {call : RemoteCall} {outcome : Option (Except StdString Returned)}
    (called : network.calls rpc = some (call, outcome)) :
    network.step runtime (.handle rpc) = network.onProvider runtime call.ph (.step rpc) := by
  simp only [step, called]

/-- No provider can receive a call or go on with one. -/
def Unserved (runtime : ProviderHandle → Runtime J β) (network : Network J β) : Prop :=
  ∀ rpc, network.step runtime (.deliver rpc) = none ∧ network.step runtime (.handle rpc) = none

theorem Quiet.unserved (quiet : Quiet runtime network) : Unserved runtime network := by
  intro rpc
  have undelivered := quiet (.deliver rpc) (by simp [NetworkAction.serves])
  have unhandled := quiet (.handle rpc) (by simp [NetworkAction.serves])
  exact ⟨undelivered, unhandled⟩

/-- Where providers have nothing to do, every handler has ended. -/
theorem Sound.finished (sound : Sound runtime m_token network) (unserved : Unserved runtime network)
    {call : RemoteCall} {outcome : Option (Except StdString Returned)}
    (called : network.calls rpc = some (call, outcome)) :
    ∃ ended, Finished (network.providers call.ph) rpc call.request ended := by
  obtain ⟨actions, served⟩ := sound.served call.ph
  cases running : (network.providers call.ph).threads rpc with
  | none =>
    have undelivered := (unserved rpc).1
    rw [step_deliver called, onProvider, System.step, running] at undelivered
    cases undelivered
  | some thread =>
    obtain ⟨same, _, found, -, tag⟩ := sound.threads call.ph rpc thread running
    cases called.symm.trans found
    obtain ⟨request, program⟩ := thread
    cases tag
    by_contra unfinished
    have waiting : ∀ ended, program ≠ Program.ofExcept ended := by
      intro ended same
      subst same
      exact unfinished ⟨ended, running⟩
    obtain ⟨mover, moves⟩ := some_enabled (serve_disciplined served) running waiting
    obtain ⟨provider, stepped⟩ := Option.isSome_iff_exists.mp moves
    obtain ⟨other, ended, calledOther, target⟩ : ∃ other ended,
        network.calls mover = some (other, ended) ∧ other.ph = call.ph := by
      rcases System.step_cases stepped with ⟨_, _, same, -⟩ |
        ⟨actor, tag, _, _, _, _, _, same, present, -⟩ | ⟨_, same, -⟩
      · cases same
      · cases same
        obtain ⟨other, ended, calledOther, target, -⟩ := sound.threads call.ph _ _ present
        exact ⟨other, ended, calledOther, target⟩
      · cases same
    have unhandled := (unserved mover).2
    rw [step_handle calledOther, onProvider, target, stepped] at unhandled
    cases unhandled

/-- A call whose handler returned can be answered, and one whose handler was left by an
exception never was. -/
theorem Sound.answered_iff (sound : Sound runtime m_token network) (quiet : Quiet runtime network)
    {call : RemoteCall} {outcome : Option (Except StdString Returned)} {ended : Except StdString Unit}
    {past : List (HistoryEvent (ProviderHandle × Request) Response)}
    (witnessed : Witnessed runtime m_token network past)
    (called : network.calls rpc = some (call, outcome))
    (finished : Finished (network.providers call.ph) rpc call.request ended) :
    outcome.isSome ↔ ended = .ok () := by
  obtain ⟨actions, served⟩ := sound.served call.ph
  have exit := finished_exit served finished
  cases ended with
  | ok result =>
    obtain ⟨start, last, split, silent⟩ := exit.last (request_waits call)
    have single : responses (Global.own rpc (network.providers call.ph).global.log) = [last] := by
      rw [split, responses_append, silent]
      rfl
    refine iff_of_true ?_ rfl
    by_contra pending
    rw [Option.not_isSome_iff_eq_none] at pending
    subst pending
    have unanswered := quiet (.answer rpc) (by simp [NetworkAction.serves])
    rw [step_answer called, received, single] at unanswered
    cases unanswered
  | error what =>
    refine iff_of_false (fun answered => ?_) (by simp)
    obtain ⟨result, rfl⟩ := Option.isSome_iff_exists.mp answered
    obtain ⟨response, -, member⟩ := witnessed.returned rpc call result called
    obtain ⟨found, calledFound, logged⟩ := witnessed.responded rpc response member
    cases called.symm.trans calledFound
    have responded := mem_responses.mpr (Global.mem_own.mpr logged)
    rw [exit.silent] at responded
    cases responded

/-- No deadlock and no livelock. The steps that bring calls forward are at most eleven
times as many as the calls, in every run. Where no such step is possible, every handler
has ended, and the calls without an answer are those whose handler an exception left. -/
theorem calls_settle {memory : Nat → Int32}
    (ran : run runtime actions (initial runtime m_token memory) = some network) :
    (actions.filterMap NetworkAction.serves).length ≤
        11 * (actions.filterMap NetworkAction.starts).length ∧
      (Quiet runtime network → ∀ rpc call outcome, network.calls rpc = some (call, outcome) →
        ∃ ended, Finished (network.providers call.ph) rpc call.request ended ∧
          (outcome.isSome ↔ ended = .ok ())) := by
  have budgeted := Budgeted.run ran
  have witnessed := witnessed_run ran
  refine ⟨length_le_of_counts budgeted.spent_le fun _ => budgeted.serves_starts, ?_⟩
  intro quiet rpc call outcome called
  obtain ⟨ended, finished⟩ := witnessed.sound.finished quiet.unserved called
  exact ⟨ended, finished, witnessed.sound.answered_iff quiet witnessed called finished⟩

/-- A cache is created, and its `destroy` throws. -/
def destroyBusy : List NetworkAction :=
  [.admin 0 (.createCache ⟨lit "na+sm", 0⟩ UUID.clear (lit "dummy") (lit "{}") []), .deliver 0] ++
    List.replicate 6 (.handle 0) ++
  [.answer 0, .admin 1 (.destroyCache ⟨lit "na+sm", 0⟩ UUID.clear []), .deliver 1] ++
    List.replicate 7 (.handle 1)

/-- Nothing is left to do, and the administrator still waits. -/
theorem destroyBusy_settled : ∃ network,
    run (fun _ => faulty) destroyBusy (initial (fun _ => faulty) (fun _ => []) fun _ => 0) =
      some network ∧
    Quiet (fun _ => faulty) network ∧
    (∃ call, network.calls 0 = some (call, some (.ok (.uuid UUID.clear)))) ∧
    ∃ call ended, network.calls 1 = some (call, none) ∧
      Finished (network.providers call.ph) 1 call.request ended ∧ ended ≠ .ok () := by
  obtain ⟨network, ran, quiet, created, call, waiting⟩ : ∃ network,
      run (fun _ => faulty) destroyBusy (initial (fun _ => faulty) (fun _ => []) fun _ => 0) =
        some network ∧
      Quiet (fun _ => faulty) network ∧
      (∃ call, network.calls 0 = some (call, some (.ok (.uuid UUID.clear)))) ∧
      ∃ call, network.calls 1 = some (call, none) := by
    refine ⟨_, rfl, fun action serves => ?_, ⟨_, rfl⟩, ⟨_, rfl⟩⟩
    cases action with
    | deliver rpc | handle rpc | answer rpc => match rpc with | 0 | 1 | _ + 2 => rfl
    | admin | makeCacheHandle | copyHandle | computeSum | setSecurityToken => exact absurd rfl serves
  obtain ⟨ended, finished, answered⟩ := (calls_settle ran).2 quiet 1 call none waiting
  refine ⟨network, ran, quiet, created, call, ended, waiting, finished, fun returned => ?_⟩
  have impossible := answered.mpr returned
  cases impossible

end Network

end Cachersize
