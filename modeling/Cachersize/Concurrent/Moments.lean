import Cachersize.Concurrent.System
import Mathlib.Data.List.Induction

/-! Every entry of a log has its moment: the step of the run that emitted it, the state
which it was taken in, and the state which it led to. -/
namespace Cachersize.Concurrent

variable {Op : Type} {Ret : Op → Type} {ε α σ τ κ E : Type}

theorem Global.own_split {thread : Nat} {event : E} {first second : List E} {log : List (Nat × E)}
    (split : own thread log = first ++ event :: second) :
    ∃ before after, log = before ++ (thread, event) :: after ∧ own thread before = first ∧
      own thread after = second := by
  obtain ⟨entries, others, filtered, rfl, mapped⟩ := List.map_eq_append_iff.mp split
  obtain ⟨before, rest, rfl, rfl, later⟩ := List.filter_eq_append_iff.mp filtered
  obtain ⟨⟨actor, _⟩, tail, rfl, rfl, rfl⟩ := List.map_eq_cons_iff.mp mapped
  obtain ⟨between, after, rfl, silent, own, rfl⟩ := List.filter_eq_cons_iff.mp later
  cases beq_iff_eq.mp own
  refine ⟨before ++ between, after, by simp, ?_, rfl⟩
  rw [Global.own_append, Global.own, Global.own, List.filter_eq_nil_iff.mpr silent]
  simp

def Singly (sys : System Ret ε α σ τ κ E) : Prop :=
  ∀ thread op before answer shared events, sys.exec thread op before = some (answer, shared, events) →
    events.length ≤ 1

/-- After these earlier actions, the action leads from one state to the next and emits the
entry. -/
structure Moment (sys : System Ret ε α σ τ κ E) (start : Pool Ret ε α σ τ E) (entry : Nat × E)
    (earlier : List (Action τ κ)) (action : Action τ κ) (state next : Pool Ret ε α σ τ E) : Prop where
  reached : sys.run earlier start = some state
  stepped : sys.step state action = some next
  logged : next.global.log = state.global.log ++ [entry]

variable {sys : System Ret ε α σ τ κ E} {start pool after : Pool Ret ε α σ τ E}
variable {actions : List (Action τ κ)}

theorem Singly.step (singly : Singly sys) {action : Action τ κ} (stepped : sys.step pool action = some after) :
    after.global.log = pool.global.log ∨ ∃ entry, after.global.log = pool.global.log ++ [entry] := by
  rcases System.step_cases stepped with ⟨thread, tag, -, -, rfl⟩ |
    ⟨thread, tag, op, next, answer, shared, events, -, -, answered, rfl⟩ | ⟨change, -, rfl⟩
  · exact .inr ⟨_, rfl⟩
  · have few := singly _ _ _ _ _ _ answered
    match events with
    | [] => exact .inl (by simp)
    | [event] => exact .inr ⟨(thread, event), rfl⟩
    | _ :: _ :: _ => simp at few
  · exact .inl rfl

theorem Singly.moment (singly : Singly sys) (ran : sys.run actions start = some pool)
    {before after : List (Nat × E)} {entry : Nat × E} (split : pool.global.log = before ++ entry :: after)
    (new : start.global.log.length ≤ before.length) :
    ∃ earlier action later state next, actions = earlier ++ action :: later ∧ state.global.log = before ∧
      Moment sys start entry earlier action state next := by
  induction actions using List.reverseRecOn generalizing pool after with
  | nil =>
    cases ran
    rw [split, List.length_append, List.length_cons] at new
    omega
  | append_singleton past last ih =>
    rw [System.run_append] at ran
    obtain ⟨state, reached, rest⟩ := Option.bind_eq_some_iff.mp ran
    have stepped : sys.step state last = some pool := by simpa [System.run] using rest
    have extended (older : ∃ earlier action later state next, past = earlier ++ action :: later ∧
        state.global.log = before ∧ Moment sys start entry earlier action state next) :
        ∃ earlier action later state next, past ++ [last] = earlier ++ action :: later ∧
          state.global.log = before ∧ Moment sys start entry earlier action state next := by
      obtain ⟨earlier, action, later, state, next, rfl, found⟩ := older
      exact ⟨earlier, action, later ++ [last], state, next, by simp, found⟩
    rcases singly.step stepped with same | ⟨final, grown⟩
    · rw [same] at split
      exact extended (ih reached split)
    · rw [grown] at split
      rcases List.eq_nil_or_concat after with rfl | ⟨initial, other, rfl⟩
      · obtain ⟨rfl, only⟩ := List.append_inj' split rfl
        cases List.singleton_inj.mp only
        exact ⟨past, last, [], state, pool, rfl, rfl, reached, stepped, grown⟩
      · have whole : state.global.log ++ [final] = (before ++ entry :: initial) ++ [other] := by
          simpa using split
        exact extended (ih reached (List.append_inj' whole rfl).1)

/-- Only the thread itself adds to its events, and only as its own step or arrival. -/
theorem Moment.source {earlier : List (Action τ κ)} {action : Action τ κ} {state next : Pool Ret ε α σ τ E}
    {thread : Nat} {event : E} (moment : Moment sys start (thread, event) earlier action state next) :
    (∃ tag, action = .spawn thread tag ∧ event = sys.arrival tag ∧ state.threads thread = none) ∨
    ∃ tag op rest answer shared, action = .step thread ∧ state.threads thread = some ⟨tag, .perform op rest⟩ ∧
      sys.exec thread op state.global = some (answer, shared, [event]) ∧
      next = ⟨state.global.extend thread shared [event],
        Function.update state.threads thread (some ⟨tag, rest answer⟩)⟩ := by
  have logged := moment.logged
  rcases System.step_cases moment.stepped with ⟨actor, tag, acted, vacant, same⟩ |
    ⟨actor, tag, op, rest, answer, shared, events, acted, running, answered, same⟩ | ⟨change, -, same⟩
  · rw [same, Global.extend_log] at logged
    cases List.singleton_inj.mp (List.append_cancel_left logged)
    exact .inl ⟨tag, acted, rfl, vacant⟩
  · rw [same, Global.extend_log] at logged
    have single := List.append_cancel_left logged
    match events with
    | [] => cases single
    | [only] =>
      cases List.singleton_inj.mp single
      exact .inr ⟨tag, op, rest, answer, shared, acted, running, answered, same⟩
    | _ :: _ :: _ => simp at single
  · rw [same] at logged
    have longer := congrArg List.length logged
    simp at longer

end Cachersize.Concurrent
