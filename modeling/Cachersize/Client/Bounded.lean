import Cachersize.Client.Session

/-! No operation of a client takes more than a few steps. -/
namespace Cachersize

open Concurrent

private theorem deliver_within (holder result : Option Nat) (response : RequestResult Int32) :
    (deliver holder result response).Within 1 := by
  unfold deliver
  split
  · cases result with
    | none => trivial
    | some target => exact fun _ => trivial
  · trivial

namespace AsyncRequest

private theorem m_wait_callback_within (result : Option Nat) (impl : Nat) :
    (m_wait_callback result impl).Within 2 :=
  fun response => deliver_within (some impl) result response

private theorem wait_within (this : Owner) : (wait this).Within 7 := by
  intro self
  cases self with
  | none => trivial
  | some impl =>
    intro waited
    cases waited with
    | true => trivial
    | false =>
      intro result
      exact (m_wait_callback_within result impl).bind 2 fun _ _ _ => trivial

private theorem waitIfUnique_within (this : Owner) : (waitIfUnique this).Within 9 := by
  intro self
  cases self with
  | none => trivial
  | some impl =>
    intro unique
    cases unique with
    | true => exact wait_within this
    | false => trivial

private theorem noexcept_within {body : ClientProgram Unit} {bound : Nat} (within : body.Within bound) :
    (noexcept body).Within bound := by
  apply within.attempt.bind 0
  intro outcome
  cases outcome <;> trivial

private theorem destruct_within (this : Owner) : (destruct this).Within 10 := by
  exact (noexcept_within (waitIfUnique_within this)).bind 1 fun _ _ => trivial

private theorem copyAssign_within (this other : Owner) : (copyAssign this other).Within 12 := by
  unfold copyAssign
  simp only [perform, Program.call_bind]
  intro self otherSelf
  by_cases same : this = other ∨ self = otherSelf
  · simp only [same, ↓reduceIte]
    trivial
  · simp only [same, ↓reduceIte]
    exact (waitIfUnique_within this).bind 1 fun _ _ => trivial

private theorem moveAssign_within (this other : Owner) : (moveAssign this other).Within 13 := by
  unfold moveAssign
  simp only [perform, Program.call_bind]
  intro self otherSelf
  by_cases same : this = other ∨ self = otherSelf
  · simp only [same, ↓reduceIte]
    trivial
  · simp only [same, ↓reduceIte]
    exact (waitIfUnique_within this).bind 2 fun _ _ _ => trivial

end AsyncRequest

private theorem computeSum_within (handle : CacheHandle) (x y : Int32) (result req : Option Nat) :
    (handle.computeSum x y result req).Within 27 := by
  obtain ⟨self⟩ := handle
  cases self with
  | none => trivial
  | some self =>
    cases req with
    | none => exact fun response => (deliver_within none result response).mono (by decide)
    | some req =>
      intro rpc _ _
      have assigns := (AsyncRequest.moveAssign_within (.named req) .temporary).attempt
      refine assigns.bind 11 fun outcome => (AsyncRequest.destruct_within .temporary).bind 1 fun _ _ => ?_
      cases outcome <;> trivial

theorem ClientAction.within (action : ClientAction) : action.program.Within 27 := by
  cases action with
  | construct this => trivial
  | copyConstruct this other => exact fun _ => trivial
  | moveConstruct this other => exact fun _ _ => trivial
  | copyAssign this other => exact (AsyncRequest.copyAssign_within _ _).mono (by decide)
  | moveAssign this other => exact (AsyncRequest.moveAssign_within _ _).mono (by decide)
  | destruct this => exact (AsyncRequest.destruct_within _).mono (by decide)
  | wait this => exact (AsyncRequest.wait_within _).mono (by decide)
  | computeSum handle x y result req => exact computeSum_within handle x y result req
  | completed this arrived =>
    intro self
    cases self with
    | none => trivial
    | some impl => exact fun _ => trivial

end Cachersize
