import Cachersize.Client.Effects
import Cachersize.Concurrent.Runs

/-! Single-threaded client programs: any sequence of operations on `AsyncRequest`
objects and of `computeSum` calls, whose exceptions the program catches. -/
namespace Cachersize

open Concurrent Memory

inductive ClientAction where
  | construct (this : Nat)
  | copyConstruct (this other : Nat)
  | moveConstruct (this other : Nat)
  | copyAssign (this other : Nat)
  | moveAssign (this other : Nat)
  | destruct (this : Nat)
  | wait (this : Nat)
  | completed (this : Nat) (arrived : Bool)
  | computeSum (handle : CacheHandle) (x y : Int32) (result req : Option Nat)
  deriving DecidableEq

namespace ClientAction

def program : ClientAction → ClientProgram Unit
  | construct _ => return ()
  | copyConstruct this other => AsyncRequest.copyConstruct (.named this) (.named other)
  | moveConstruct this other => AsyncRequest.moveConstruct (.named this) (.named other)
  | copyAssign this other => AsyncRequest.copyAssign (.named this) (.named other)
  | moveAssign this other => AsyncRequest.moveAssign (.named this) (.named other)
  | destruct this => AsyncRequest.destruct (.named this)
  | wait this => AsyncRequest.wait (.named this)
  | completed this arrived => do
    let _ ← AsyncRequest.completed (.named this) arrived
    return ()
  | computeSum handle x y result req => handle.computeSum x y result req

/-- Constructors make an object where there is none. All other operations are on
objects that live. -/
def Possible (objects : Finset Nat) : ClientAction → Prop
  | construct this => this ∉ objects
  | copyConstruct this other | moveConstruct this other => this ∉ objects ∧ other ∈ objects
  | copyAssign this other | moveAssign this other => this ∈ objects ∧ other ∈ objects
  | destruct this | wait this | completed this _ => this ∈ objects
  | computeSum _ _ _ _ req => ∀ this ∈ req, this ∈ objects

instance (objects : Finset Nat) (action : ClientAction) : Decidable (action.Possible objects) := by
  cases action <;> unfold Possible <;> infer_instance

def objects (before : Finset Nat) : ClientAction → Finset Nat
  | construct this | copyConstruct this _ | moveConstruct this _ => insert this before
  | destruct this => before.erase this
  | _ => before

end ClientAction

/-- Everything that an operation can do, and how it ends. -/
inductive Effect (answers : Nat → RequestResult Int32) (client : Client) :
    ClientAction → Except Thrown Unit → Client → Prop where
  | constructed : Effect answers client (.construct this) (.ok ()) client
  | copied :
      Effect answers client (.copyConstruct this other) (.ok ())
        (client.assign (.named this) (client.pointers.lookup (.named other)))
  | moved :
      Effect answers client (.moveConstruct this other) (.ok ())
        ((client.assign (.named this) (client.pointers.lookup (.named other))).assign (.named other)
          none)
  | unassigned (assigns : action = .copyAssign this other ∨ action = .moveAssign this other)
      (same : this = other ∨
        client.pointers.lookup (.named this) = client.pointers.lookup (.named other)) :
      Effect answers client action (.ok ()) client
  | copyAssigned (different : client.pointers.lookup (.named this) ≠
        client.pointers.lookup (.named other))
      (settled : client.settle answers (.named this) = (.ok (), middle)) :
      Effect answers client (.copyAssign this other) (.ok ())
        (middle.assign (.named this) (client.pointers.lookup (.named other)))
  | moveAssigned (different : client.pointers.lookup (.named this) ≠
        client.pointers.lookup (.named other))
      (settled : client.settle answers (.named this) = (.ok (), middle)) :
      Effect answers client (.moveAssign this other) (.ok ())
        ((middle.assign (.named this) (client.pointers.lookup (.named other))).assign (.named other)
          none)
  | assignThrew (assigns : action = .copyAssign this other ∨ action = .moveAssign this other)
      (different : client.pointers.lookup (.named this) ≠ client.pointers.lookup (.named other))
      (settled : client.settle answers (.named this) = (.error thrown, middle)) :
      Effect answers client action (.error thrown) middle
  | destructed (settled : client.settle answers (.named this) = (.ok (), middle)) :
      Effect answers client (.destruct this) (.ok ()) (middle.assign (.named this) none)
  | terminated (settled : client.settle answers (.named this) = (.error thrown, middle)) :
      Effect answers client (.destruct this) (.error .terminate) middle
  | waited (found : client.pointers.lookup (.named this) = some impl) :
      Effect answers client (.wait this) (client.await answers impl).1 (client.await answers impl).2
  | waitedEmpty (empty : client.pointers.lookup (.named this) = none) :
      Effect answers client (.wait this)
        (.error (.exception (lit "Invalid cachersize::AsyncRequest object"))) client
  | polled (found : client.pointers.lookup (.named this) = some impl) :
      Effect answers client (.completed this arrived) (.ok ()) (client.record (.polled impl))
  | polledEmpty (empty : client.pointers.lookup (.named this) = none) :
      Effect answers client (.completed this arrived)
        (.error (.exception (lit "Invalid cachersize::AsyncRequest object"))) client
  | invalid :
      Effect answers client (.computeSum ⟨none⟩ x y result req)
        (.error (.exception (lit "Invalid cachersize::CacheHandle object"))) client
  | called :
      Effect answers client (.computeSum ⟨some handle⟩ x y result none)
        ((deliver none result (answers client.sent)).execute (Client.exec answers)
          { client.record (.sent client.sent handle x y) with sent := client.sent + 1 }).1
        ((deliver none result (answers client.sent)).execute (Client.exec answers)
          { client.record (.sent client.sent handle x y) with sent := client.sent + 1 }).2
  | issued (settled : (client.issue handle x y result).settle answers (.named req) = (.ok (), middle)) :
      Effect answers client (.computeSum ⟨some handle⟩ x y result (some req)) (.ok ())
        (((middle.assign (.named req) (some client.created)).assign .temporary none).assign
          .async_request_impl none)
  | lost (settled : (client.issue handle x y result).settle answers (.named req) =
        (.error thrown, middle)) :
      Effect answers client (.computeSum ⟨some handle⟩ x y result (some req)) (.error thrown)
        ((middle.assign .temporary none).assign .async_request_impl none)

/-- Between operations no temporary is left, requests in use have been created, and
only live objects hold one. -/
structure Client.Formed (client : Client) (objects : Finset Nat) : Prop where
  temporary : client.pointers.lookup .temporary = none
  async_request_impl : client.pointers.lookup .async_request_impl = none
  born : ∀ owner impl, client.pointers.lookup owner = some impl → impl < client.created
  dead : ∀ object, object ∉ objects → client.pointers.lookup (.named object) = none

namespace Client.Formed

variable {answers : Nat → RequestResult Int32} {client : Client} {objects : Finset Nat}

theorem assign (formed : client.Formed objects) {this : Nat} {target : Option Nat}
    (born : ∀ impl, target = some impl → impl < client.created) (live : target ≠ none → this ∈ objects) :
    (client.assign (.named this) target).Formed objects where
  temporary := by
    rw [assign_pointers, SharedPtrs.lookup_assign_of_ne (by simp), formed.temporary]
  async_request_impl := by
    rw [assign_pointers, SharedPtrs.lookup_assign_of_ne (by simp), formed.async_request_impl]
  born := by
    intro owner impl found
    by_cases here : owner = .named this
    · rw [here, assign_pointers, SharedPtrs.lookup_assign] at found
      exact born impl found
    · rw [assign_pointers, SharedPtrs.lookup_assign_of_ne here] at found
      exact formed.born owner impl found
  dead := by
    intro object gone
    by_cases here : object = this
    · subst here
      rw [assign_pointers, SharedPtrs.lookup_assign]
      by_contra some
      exact gone (live some)
    · have different : Owner.named object ≠ .named this := by simpa using here
      rw [assign_pointers, SharedPtrs.lookup_assign_of_ne different]
      exact formed.dead object gone

theorem transfer (formed : client.Formed objects) {this : Nat} (other : Nat) (live : this ∈ objects) :
    ((client.assign (.named this) (client.pointers.lookup (.named other))).assign (.named other)
      none).Formed objects := by
  have taken := formed.assign (formed.born (.named other)) fun _ => live
  exact taken.assign (by simp) (by simp)

theorem destroyed (formed : client.Formed objects) (this : Nat) :
    (client.assign (.named this) none).Formed (objects.erase this) := by
  have cleared : (client.assign (.named this) none).Formed objects := formed.assign (by simp) (by simp)
  refine { cleared with dead := fun object gone => ?_ }
  by_cases here : object = this
  · rw [here, assign_pointers, SharedPtrs.lookup_assign]
  · exact cleared.dead object fun member => gone (Finset.mem_erase.mpr ⟨here, member⟩)

theorem mono {larger : Finset Nat} (formed : client.Formed objects) (grows : objects ⊆ larger) :
    client.Formed larger :=
  { formed with dead := fun object gone => formed.dead object fun member => gone (grows member) }

private theorem of_pointers {other : Client} (formed : client.Formed objects)
    (pointers : other.pointers = client.pointers) (created : client.created ≤ other.created) :
    other.Formed objects where
  temporary := pointers ▸ formed.temporary
  async_request_impl := pointers ▸ formed.async_request_impl
  born := fun owner impl found =>
    lt_of_lt_of_le (formed.born owner impl (pointers ▸ found)) created
  dead := fun object gone => pointers ▸ formed.dead object gone

theorem settled (formed : client.Formed objects) {owner : Owner} {outcome : Except Thrown Unit}
    {middle : Client} (settled : client.settle answers owner = (outcome, middle)) :
    middle.Formed objects := by
  obtain ⟨pointers, created⟩ := settle_kept settled
  exact formed.of_pointers pointers (le_of_eq created.symm)

section Issue

variable {middle : Client} {handle : CacheHandleImpl} {x y : Int32} {result : Option Nat} {req : Nat}

/-- After the temporaries of a call are gone, only `*req` has changed. -/
theorem issued_pointers (formed : client.Formed objects)
    (kept : middle.pointers = (client.issue handle x y result).pointers) (target : Option Nat) :
    (((middle.assign (.named req) target).assign .temporary none).assign
      .async_request_impl none).pointers = client.pointers.assign (.named req) target := by
  apply Finmap.ext_lookup
  intro owner
  simp only [assign_pointers, kept]
  cases owner with
  | async_request_impl =>
    rw [SharedPtrs.lookup_assign, SharedPtrs.lookup_assign_of_ne (by simp), formed.async_request_impl]
  | temporary =>
    rw [SharedPtrs.lookup_assign_of_ne (by simp), SharedPtrs.lookup_assign,
      SharedPtrs.lookup_assign_of_ne (by simp), formed.temporary]
  | named object =>
    rw [SharedPtrs.lookup_assign_of_ne (by simp), SharedPtrs.lookup_assign_of_ne (by simp)]
    by_cases here : Owner.named object = .named req
    · rw [here, SharedPtrs.lookup_assign, SharedPtrs.lookup_assign]
    · rw [SharedPtrs.lookup_assign_of_ne here, SharedPtrs.lookup_assign_of_ne here, issue_named]

theorem lost_pointers (formed : client.Formed objects)
    (kept : middle.pointers = (client.issue handle x y result).pointers) :
    ((middle.assign .temporary none).assign .async_request_impl none).pointers = client.pointers := by
  apply Finmap.ext_lookup
  intro owner
  simp only [assign_pointers, kept]
  cases owner with
  | async_request_impl => rw [SharedPtrs.lookup_assign, formed.async_request_impl]
  | temporary =>
    rw [SharedPtrs.lookup_assign_of_ne (by simp), SharedPtrs.lookup_assign, formed.temporary]
  | named object =>
    rw [SharedPtrs.lookup_assign_of_ne (by simp), SharedPtrs.lookup_assign_of_ne (by simp), issue_named]

end Issue

end Client.Formed

/-- An operation that does not end the program leaves a well-formed state. -/
theorem Effect.formed {answers : Nat → RequestResult Int32} {client after : Client}
    {objects : Finset Nat} {action : ClientAction} {outcome : Except Thrown Unit}
    (effect : Effect answers client action outcome after) (formed : client.Formed objects)
    (possible : action.Possible objects) (continues : outcome ≠ .error .terminate) :
    after.Formed (action.objects objects) := by
  cases effect with
  | constructed => exact formed.mono (Finset.subset_insert _ _)
  | @copied this other =>
    have live := Finset.mem_insert_self this objects
    exact (formed.mono (Finset.subset_insert this objects)).assign (formed.born _) fun _ => live
  | @moved this other =>
    exact (formed.mono (Finset.subset_insert this objects)).transfer other (Finset.mem_insert_self _ _)
  | unassigned assigns =>
    rcases assigns with rfl | rfl <;> exact formed
  | copyAssigned different settled =>
    have settledFormed := formed.settled settled
    rw [← (Client.settle_kept settled).1]
    exact settledFormed.assign (settledFormed.born _) fun _ => possible.1
  | @moveAssigned this other _ different settled =>
    rw [← (Client.settle_kept settled).1]
    exact (formed.settled settled).transfer other possible.1
  | assignThrew assigns different settled =>
    rcases assigns with rfl | rfl <;> exact formed.settled settled
  | @destructed this _ settled => exact (formed.settled settled).destroyed this
  | terminated => exact absurd rfl continues
  | waited found =>
    exact formed.of_pointers (Client.await_pointers _) (le_of_eq (Client.await_created _).symm)
  | polled found => exact formed.of_pointers rfl (le_refl _)
  | waitedEmpty | polledEmpty | invalid => exact formed
  | called =>
    rw [execute_deliver]
    split
    · refine formed.of_pointers (Client.write_pointers _ _ _) ?_
      rw [Client.write_created]
      exact le_refl client.created
    · exact formed.of_pointers rfl (le_refl _)
  | @issued handle x y result req middle settled =>
    obtain ⟨pointers, created⟩ := Client.settle_kept settled
    have larger : { client with created := client.created + 1 }.Formed objects :=
      formed.of_pointers rfl (Nat.le_succ _)
    have born : ∀ impl, some client.created = some impl → impl < client.created + 1 := by
      intro impl same
      cases same
      exact Nat.lt_succ_self _
    have assigned : (({ client with created := client.created + 1 } : Client).assign (.named req)
        (some client.created)).Formed objects := larger.assign born fun _ => possible req rfl
    exact assigned.of_pointers (formed.issued_pointers pointers _) (by simp [created, Client.issue])
  | lost settled =>
    obtain ⟨pointers, created⟩ := Client.settle_kept settled
    exact formed.of_pointers (formed.lost_pointers pointers) (by simp [created, Client.issue])

/-- The live `AsyncRequest` objects of a client, and whether `std::terminate` ended it. -/
structure Session where
  client : Client
  objects : Finset Nat
  terminated : Bool

namespace Session

variable (answers : Nat → RequestResult Int32)

def initial (memory : Nat → Int32) : Session where
  client := {
    pointers := ∅
    impls := fun _ => { m_async_response := 0, m_wait_callback := none }
    created := 0
    sent := 0
    memory := memory
    trace := [] }
  objects := ∅
  terminated := false

def outcome (session : Session) (action : ClientAction) : Except Thrown Unit × Client :=
  action.program.execute (Client.exec answers) session.client

def step (session : Session) (action : ClientAction) : Option Session :=
  if session.terminated = false ∧ action.Possible session.objects then
    some {
      client := (session.outcome answers action).2
      objects := action.objects session.objects
      terminated := (session.outcome answers action).1 = .error .terminate }
  else none

def run : List ClientAction → Session → Option Session
  | [], session => some session
  | action :: rest, session => (session.step answers action).bind (run rest)

variable {answers} {session after : Session} {action : ClientAction}

theorem step_eq (stepped : session.step answers action = some after) :
    session.terminated = false ∧ action.Possible session.objects ∧
      after.client = (session.outcome answers action).2 ∧
      after.objects = action.objects session.objects ∧
      after.terminated = decide ((session.outcome answers action).1 = .error .terminate) := by
  unfold step at stepped
  split at stepped
  · rename_i possible
    cases stepped
    exact ⟨possible.1, possible.2, rfl, rfl, rfl⟩
  · cases stepped

private theorem assignment_effect {this other : Nat} {target : Client → Client}
    (assigns : action = .copyAssign this other ∨ action = .moveAssign this other)
    (executed : session.outcome answers action =
      if Owner.named this = .named other ∨ session.client.pointers.lookup (.named this) =
          session.client.pointers.lookup (.named other) then (.ok (), session.client)
      else match session.client.settle answers (.named this) with
        | (.ok _, after) => (.ok (), target after)
        | (.error thrown, after) => (.error thrown, after))
    (assigned : ∀ middle, session.client.pointers.lookup (.named this) ≠
        session.client.pointers.lookup (.named other) →
      session.client.settle answers (.named this) = (.ok (), middle) →
      Effect answers session.client action (.ok ()) (target middle)) :
    Effect answers session.client action (session.outcome answers action).1
      (session.outcome answers action).2 := by
  rw [executed]
  by_cases same : Owner.named this = .named other ∨ session.client.pointers.lookup (.named this) =
      session.client.pointers.lookup (.named other)
  · rw [if_pos same]
    exact .unassigned assigns (same.imp_left Owner.named.inj)
  · rw [if_neg same]
    have different := (not_or.mp same).2
    cases settled : session.client.settle answers (.named this) with
    | mk outcome middle =>
      cases outcome with
      | ok _ => exact assigned middle different settled
      | error thrown => exact .assignThrew assigns different settled

theorem outcome_effect (formed : session.client.Formed session.objects) (action : ClientAction) :
    Effect answers session.client action (session.outcome answers action).1
      (session.outcome answers action).2 := by
  cases action with
  | construct this => exact .constructed
  | copyConstruct this other => exact .copied
  | moveConstruct this other =>
    have cleared : ((session.client.assign (.named this)
        (session.client.pointers.lookup (.named other))).assign (.named other)
        none).pointers.lookup (.named other) = none := by simp
    have executed : session.outcome answers (.moveConstruct this other) =
        (.ok (), (session.client.assign (.named this)
          (session.client.pointers.lookup (.named other))).assign (.named other) none) :=
      congrArg (Prod.mk (Except.ok ())) (Client.assign_none cleared)
    rw [executed]
    exact .moved
  | copyAssign this other =>
    exact assignment_effect (.inl rfl) (AsyncRequest.execute_copyAssign answers _ _ _)
      fun _ different settled => .copyAssigned different settled
  | moveAssign this other =>
    exact assignment_effect (.inr rfl) (AsyncRequest.execute_moveAssign answers _ _ _)
      fun _ different settled => .moveAssigned different settled
  | destruct this =>
    have executed : session.outcome answers (.destruct this) = _ :=
      AsyncRequest.execute_destruct answers session.client (.named this)
    rw [executed]
    cases settled : session.client.settle answers (.named this) with
    | mk outcome middle =>
      cases outcome with
      | ok _ => exact .destructed settled
      | error thrown => exact .terminated settled
  | wait this =>
    have executed : session.outcome answers (.wait this) = _ :=
      AsyncRequest.execute_wait answers session.client (.named this)
    rw [executed]
    cases found : session.client.pointers.lookup (.named this) with
    | none => exact .waitedEmpty found
    | some impl => exact .waited found
  | completed this arrived =>
    cases found : session.client.pointers.lookup (.named this) with
    | none =>
      have executed : session.outcome answers (.completed this arrived) =
          (.error (.exception (lit "Invalid cachersize::AsyncRequest object")), session.client) := by
        simp [outcome, ClientAction.program, AsyncRequest.completed, Client.exec, found]
      rw [executed]
      exact .polledEmpty found
    | some impl =>
      have executed : session.outcome answers (.completed this arrived) =
          (.ok (), session.client.record (.polled impl)) := by
        simp [outcome, ClientAction.program, AsyncRequest.completed, Client.exec, found, Program.call]
      rw [executed]
      exact .polled found
  | computeSum handle x y result req =>
    obtain ⟨self⟩ := handle
    cases self with
    | none => exact .invalid
    | some handle =>
      cases req with
      | none => exact .called
      | some req =>
        have executed : session.outcome answers (.computeSum ⟨some handle⟩ x y result (some req)) = _ :=
          execute_computeSum answers session.client (formed.born _) formed.temporary
        rw [executed]
        cases settled : (session.client.issue handle x y result).settle answers (.named req) with
        | mk outcome middle =>
          cases outcome with
          | ok _ => exact .issued settled
          | error thrown => exact .lost settled

theorem run_repeats (answers : Nat → RequestResult Int32) :
    Repeats (fun session action => step answers session action) (run answers) :=
  ⟨fun _ => rfl, fun _ _ _ => rfl⟩

/-- A property kept by every step of a run holds at its end. -/
theorem run_induction {actions : List ClientAction} (Holds : Session → Prop)
    (keeps : ∀ action ∈ actions, ∀ before after, Holds before →
      before.step answers action = some after → Holds after)
    (start : Holds session) (ran : run answers actions session = some after) : Holds after :=
  (run_repeats answers).induction Holds keeps start ran

/-- Every action of a run meets a condition on the client that it starts with. -/
abbrev Throughout (answers : Nat → RequestResult Int32) (Meets : Client → ClientAction → Prop)
    (actions : List ClientAction) (session : Session) : Prop :=
  Concurrent.Throughout (fun session action => step answers session action)
    (fun session action => Meets session.client action) actions session

/-- A run keeps what single steps keep exactly under a condition, if all of them meet it. -/
theorem throughout_iff {Valid : Session → Prop} {actions : List ClientAction} (Good : Session → Prop)
    {Meets : Client → ClientAction → Prop}
    (keeps : ∀ action before later, Valid before → before.step answers action = some later →
      Valid later ∧ (Good later ↔ Good before ∧ Meets before.client action))
    (start : Valid session) (ran : run answers actions session = some after) :
    Good after ↔ Good session ∧ Throughout answers Meets actions session :=
  ((run_repeats answers).throughout_iff Good keeps start ran).2

theorem step_extends (stepped : session.step answers action = some after) :
    session.client.Extends after.client := by
  obtain ⟨-, -, client, -⟩ := step_eq stepped
  rw [client]
  exact Client.Extends.execute answers action.program session.client

/-- The state of a session that has not been terminated is well formed. -/
def Formed (session : Session) : Prop :=
  session.terminated = false → session.client.Formed session.objects

theorem initial_formed (memory : Nat → Int32) : (initial memory).Formed := by
  intro _
  refine ⟨rfl, rfl, ?_, fun _ _ => rfl⟩
  intro owner impl found
  cases found

theorem Formed.step (formed : session.Formed) (stepped : session.step answers action = some after) :
    after.Formed := by
  obtain ⟨running, possible, client, objects, terminated⟩ := step_eq stepped
  intro continues
  rw [client, objects]
  have formedBefore := formed running
  refine (outcome_effect formedBefore action).formed formedBefore possible fun same => ?_
  simp [terminated, same] at continues

/-- What a step of a run does, with what held before it. -/
theorem step_effect (formed : session.Formed) (stepped : session.step answers action = some after) :
    session.client.Formed session.objects ∧ action.Possible session.objects ∧
      Effect answers session.client action (session.outcome answers action).1 after.client := by
  obtain ⟨running, possible, client, -⟩ := step_eq stepped
  have formedBefore := formed running
  refine ⟨formedBefore, possible, ?_⟩
  rw [client]
  exact outcome_effect formedBefore action

end Session

end Cachersize
