import Cachersize.Concurrent.Linearizability
import Mathlib.Data.List.Dedup
import Mathlib.Data.List.Induction
import Mathlib.Logic.Function.Basic

/-! Linearizability is local: if every object of a family is linearizable, then so is the
family as one object. Each operation gets a point in real time at which it may take
effect, and the points order the operations of all objects. -/
namespace Cachersize.Concurrent

variable {K τ ρ A α : Type}

def sooner (one two : Nat × α) : Bool := decide (one.1 ≤ two.1)

private theorem sooner_trans (one two three : Nat × α) (first : sooner one two) (second : sooner two three) :
    sooner one three := by
  simp only [sooner, decide_eq_true_eq] at *
  exact Nat.le_trans first second

private theorem sooner_total (one two : Nat × α) : sooner one two || sooner two one := by
  simpa [sooner] using Nat.le_total one.1 two.1

section Points

variable (arrival : α → Nat)

/-- The least points at which some elements can take effect, one after the other and
none before its own arrival. -/
def points : Nat → List α → List (Nat × α)
  | _, [] => []
  | now, element :: rest => (max now (arrival element), element) :: points (max now (arrival element)) rest

private theorem points_map (now : Nat) (list : List α) : (points arrival now list).map Prod.snd = list := by
  induction list generalizing now with
  | nil => rfl
  | cons element rest ih => rw [points, List.map_cons, ih]

private theorem points_from {now : Nat} {list : List α} {point : Nat × α}
    (member : point ∈ points arrival now list) : now ≤ point.1 ∧ arrival point.2 ≤ point.1 := by
  induction list generalizing now with
  | nil => cases member
  | cons element rest ih =>
    rcases List.mem_cons.mp member with rfl | later
    · exact ⟨Nat.le_max_left _ _, Nat.le_max_right _ _⟩
    · obtain ⟨above, arrived⟩ := ih later
      exact ⟨Nat.le_trans (Nat.le_max_left _ _) above, arrived⟩

private theorem points_sorted (now : Nat) (list : List α) :
    (points arrival now list).Pairwise (sooner · ·) := by
  induction list generalizing now with
  | nil => exact .nil
  | cons element rest ih =>
    refine .cons (fun point member => ?_) (ih _)
    simpa [sooner] using (points_from arrival member).1

/-- A point is the start, or the arrival of an element that does not come later. -/
theorem points_cause {now : Nat} {list : List α} {point : Nat × α}
    (member : point ∈ points arrival now list) :
    point.1 = now ∨ ∃ cause ∈ list, point.1 = arrival cause ∧
      (cause = point.2 ∨ [cause, point.2].Sublist list) := by
  induction list generalizing now with
  | nil => cases member
  | cons element rest ih =>
    rcases List.mem_cons.mp member with rfl | later
    · rcases Nat.le_total (arrival element) now with early | late
      · exact .inl (Nat.max_eq_left early)
      · exact .inr ⟨element, List.mem_cons_self, Nat.max_eq_right late, .inl rfl⟩
    · have below : point.2 ∈ rest := by
        rw [← points_map arrival (max now (arrival element)) rest]
        exact List.mem_map_of_mem later
      rcases ih later with start | ⟨cause, present, same, order⟩
      · rcases Nat.le_total (arrival element) now with early | late
        · exact .inl (start.trans (Nat.max_eq_left early))
        · refine .inr ⟨element, List.mem_cons_self, start.trans (Nat.max_eq_right late), .inr ?_⟩
          exact (List.singleton_sublist.mpr below).cons_cons element
      · refine .inr ⟨cause, List.mem_cons_of_mem _ present, same, order.imp_right fun pair => ?_⟩
        exact pair.trans (List.sublist_cons_self element rest)

private theorem pair_of_sooner {list : List (Nat × α)} (sorted : list.Pairwise (sooner · ·))
    {one two : Nat × α}
    (first : one ∈ list) (second : two ∈ list) (less : one.1 < two.1) : [one, two].Sublist list := by
  induction sorted with
  | nil => cases first
  | @cons head rest below _ ih =>
    rcases List.mem_cons.mp first with rfl | firstRest
    · rcases List.mem_cons.mp second with rfl | secondRest
      · exact absurd less (Nat.lt_irrefl _)
      · exact (List.singleton_sublist.mpr secondRest).cons_cons one
    · rcases List.mem_cons.mp second with rfl | secondRest
      · have above : two.1 ≤ one.1 := by simpa [sooner] using below one firstRest
        exact absurd less (Nat.not_lt.mpr above)
      · exact (ih firstRest secondRest).cons head

end Points

/-- Two elements of a list stand in one order or the other. -/
theorem pair_or_pair {list : List α} {one two : α} (first : one ∈ list) (second : two ∈ list)
    (different : one ≠ two) : [one, two].Sublist list ∨ [two, one].Sublist list := by
  induction list with
  | nil => cases first
  | cons head rest ih =>
    rcases List.mem_cons.mp first with rfl | firstRest
    · rcases List.mem_cons.mp second with rfl | secondRest
      · exact absurd rfl different
      · exact .inl ((List.singleton_sublist.mpr secondRest).cons_cons one)
    · rcases List.mem_cons.mp second with rfl | secondRest
      · exact .inr ((List.singleton_sublist.mpr firstRest).cons_cons two)
      · exact (ih firstRest secondRest).imp (List.Sublist.cons head) (List.Sublist.cons head)

private theorem not_pair_and_pair {list : List α} (distinct : list.Nodup) {one two : α}
    (forth : [one, two].Sublist list) : ¬ [two, one].Sublist list := by
  induction list with
  | nil => cases forth
  | cons head rest ih =>
    intro back
    obtain ⟨fresh, distinctRest⟩ := List.nodup_cons.mp distinct
    cases forth with
    | cons _ forthRest =>
      cases back with
      | cons _ backRest => exact ih distinctRest forthRest backRest
      | cons_cons _ backRest => exact fresh (forthRest.subset (by simp))
    | cons_cons _ forthRest =>
      have behind : two ∈ rest := forthRest.subset List.mem_cons_self
      cases back with
      | cons _ backRest => exact fresh (backRest.subset (by simp))
      | cons_cons _ backRest => exact fresh behind

theorem mem_filterMap_unique {β : Type} {f : α → Option β} {list : List α} {entry : α} {value : β}
    (gives : f entry = some value) (unique : ∀ other, f other = some value → other = entry) :
    value ∈ list.filterMap f ↔ entry ∈ list := by
  constructor
  · intro member
    obtain ⟨other, present, same⟩ := List.mem_filterMap.mp member
    exact unique other same ▸ present
  · intro present
    exact List.mem_filterMap.mpr ⟨entry, present, gives⟩

namespace HistoryEvent

def invokes (thread : Nat) : HistoryEvent τ ρ → Bool
  | invoke other _ => other == thread
  | respond _ _ => false

end HistoryEvent

/-- What had happened when a thread invoked its operation. -/
def earlier (history : List (HistoryEvent τ ρ)) (thread : Nat) : List (HistoryEvent τ ρ) :=
  history.takeWhile fun event => !event.invokes thread

/-- Every thread invokes one operation at most, and answers after it. -/
structure Sequenced (history : List (HistoryEvent τ ρ)) : Prop where
  once : ∀ thread request request',
    ¬ [.invoke thread request, .invoke thread request'].Sublist history
  after : ∀ thread request response,
    ¬ [.respond thread response, .invoke thread request].Sublist history

namespace Sequenced

variable {history : List (HistoryEvent τ ρ)} {thread : Nat} {request : τ} {response : ρ}

theorem nil : Sequenced ([] : List (HistoryEvent τ ρ)) where
  once := by simp
  after := by simp

/-- A thread that has not been heard of invokes an operation. -/
theorem invoke (sequenced : Sequenced history) (fresh : ∀ other, .invoke thread other ∉ history)
    (silent : ∀ answer, .respond thread answer ∉ history) (request : τ) :
    Sequenced (history ++ [.invoke thread request]) where
  once := by
    intro other first second pair
    rcases pair_sublist_concat.mp pair with before | ⟨member, same⟩
    · exact sequenced.once other first second before
    · cases same
      exact fresh first member
  after := by
    intro other first answer pair
    rcases pair_sublist_concat.mp pair with before | ⟨member, same⟩
    · exact sequenced.after other first answer before
    · cases same
      exact silent answer member

theorem respond (sequenced : Sequenced history) (thread : Nat) (response : ρ) :
    Sequenced (history ++ [.respond thread response]) where
  once := by
    intro other first second pair
    rcases pair_sublist_concat.mp pair with before | ⟨-, same⟩
    · exact sequenced.once other first second before
    · cases same
  after := by
    intro other first answer pair
    rcases pair_sublist_concat.mp pair with before | ⟨-, same⟩
    · exact sequenced.after other first answer before
    · cases same

end Sequenced

section Earlier

variable {history : List (HistoryEvent τ ρ)} {thread : Nat} {request : τ}

/-- An invocation splits a history into what was earlier and the rest. -/
theorem earlier_split (invoked : .invoke thread request ∈ history) :
    ∃ request' rest, history = earlier history thread ++ .invoke thread request' :: rest := by
  induction history with
  | nil => cases invoked
  | cons event history ih =>
    cases here : event.invokes thread with
    | true =>
      cases event with
      | invoke other request' =>
        have same : other = thread := by simpa [HistoryEvent.invokes] using here
        subst same
        exact ⟨request', history, by simp [earlier, HistoryEvent.invokes]⟩
      | respond => cases here
    | false =>
      have later : .invoke thread request ∈ history := by
        rcases List.mem_cons.mp invoked with same | later
        · rw [← same] at here
          simp [HistoryEvent.invokes] at here
        · exact later
      obtain ⟨request', rest, split⟩ := ih later
      refine ⟨request', rest, ?_⟩
      rw [earlier, List.takeWhile_cons_of_pos (by simp [here]), List.cons_append]
      exact congrArg (event :: ·) split

private theorem earlier_split_once (sequenced : Sequenced history)
    (invoked : .invoke thread request ∈ history) :
    ∃ rest, history = earlier history thread ++ .invoke thread request :: rest := by
  obtain ⟨request', rest, split⟩ := earlier_split invoked
  rw [split] at invoked
  rcases List.mem_append.mp invoked with before | after
  · have pair : [.invoke thread request, .invoke thread request'].Sublist
        (earlier history thread ++ .invoke thread request' :: rest) :=
      (List.singleton_sublist.mpr before).append (List.singleton_sublist.mpr List.mem_cons_self)
    rw [← split] at pair
    exact absurd pair (sequenced.once thread request request')
  · rcases List.mem_cons.mp after with same | later
    · cases same
      exact ⟨rest, split⟩
    · have pair : [.invoke thread request', .invoke thread request].Sublist
          (earlier history thread ++ .invoke thread request' :: rest) :=
        ((List.singleton_sublist.mpr later).cons_cons _).trans (List.sublist_append_right _ _)
      rw [← split] at pair
      exact absurd pair (sequenced.once thread request' request)

/-- What an event precedes in a history, read off the part that is earlier. -/
theorem mem_earlier_iff (sequenced : Sequenced history) (invoked : .invoke thread request ∈ history)
    (event : HistoryEvent τ ρ) :
    event ∈ earlier history thread ↔ [event, .invoke thread request].Sublist history := by
  obtain ⟨rest, split⟩ := earlier_split_once sequenced invoked
  constructor
  · intro member
    rw [split]
    exact (List.singleton_sublist.mpr member).append (List.singleton_sublist.mpr List.mem_cons_self)
  · intro pair
    rw [split] at pair
    obtain ⟨left, right, parts, first, second⟩ := List.sublist_append_iff.mp pair
    match left with
    | [] =>
      -- both events would be in the rest, where the thread is not invoked again
      rw [List.nil_append] at parts
      rw [← parts] at second
      have tail := second.tail
      simp only [List.tail_cons] at tail
      have again : [.invoke thread request, .invoke thread request].Sublist history := by
        rw [split]
        exact (tail.cons_cons _).trans (List.sublist_append_right _ _)
      exact absurd again (sequenced.once thread request request)
    | head :: left =>
      rw [List.cons_append] at parts
      cases (List.cons.inj parts).1
      exact first.subset List.mem_cons_self

/-- Of two threads, what is earlier for the first to arrive is so for the other one. -/
theorem earlier_mono {other : Nat}
    (arrived : (earlier history thread).length ≤ (earlier history other).length) :
    earlier history thread ⊆ earlier history other :=
  (List.prefix_of_prefix_length_le (List.takeWhile_prefix _) (List.takeWhile_prefix _) arrived).subset

end Earlier

/-- A request to a family goes to one of its objects. -/
inductive Product (apply : K → Operation τ ρ → A → A → Prop) [DecidableEq K] :
    Operation (K × τ) ρ → (K → A) → (K → A) → Prop where
  | at (applied : apply key ⟨thread, request, response⟩ (before key) after) :
      Product apply ⟨thread, (key, request), response⟩ before (Function.update before key after)

def Operation.tag (key : K) (operation : Operation τ ρ) : Operation (K × τ) ρ :=
  ⟨operation.thread, (key, operation.request), operation.response⟩

def project [DecidableEq K] (key : K) (order : List (Operation (K × τ) ρ)) : List (Operation τ ρ) :=
  order.filterMap fun operation =>
    if operation.request.1 = key then
      some ⟨operation.thread, operation.request.2, operation.response⟩
    else none

/-- Each object of the family has an order for its own operations, with the answers
of the history that all objects share. -/
structure Locally (apply : K → Operation τ ρ → A → A → Prop) (first last : K → A)
    (history : List (HistoryEvent (K × τ) ρ)) (order : K → List (Operation τ ρ)) : Prop where
  distinct : ∀ key, ((order key).map (·.thread)).Nodup
  received : ∀ key, ∀ operation ∈ order key,
    .invoke operation.thread (key, operation.request) ∈ history
  answered : ∀ thread response, .respond thread response ∈ history →
    ∃ key request, ⟨thread, request, response⟩ ∈ order key
  legal : ∀ key, Sequential (apply key) (first key) (order key) (last key)
  realTime : ∀ key earlier later response request,
    [.respond earlier response, .invoke later (key, request)].Sublist history →
    earlier ∈ (order key).map (·.thread) → later ∈ (order key).map (·.thread) →
    [earlier, later].Sublist ((order key).map (·.thread))

section Family

variable [DecidableEq K] {apply : K → Operation τ ρ → A → A → Prop} {first last : K → A}
variable {history : List (HistoryEvent (K × τ) ρ)} {order : K → List (Operation τ ρ)}

@[simp] theorem project_append (key : K) (one two : List (Operation (K × τ) ρ)) :
    project key (one ++ two) = project key one ++ project key two :=
  List.filterMap_append

private theorem project_tag (key other : K) (list : List (Operation τ ρ)) :
    project key (list.map (Operation.tag other)) = if other = key then list else [] := by
  by_cases same : other = key
  · subst same
    simp [project, List.filterMap_map, Function.comp_def, Operation.tag]
  · simp [project, List.filterMap_map, Operation.tag, same]

@[simp] theorem project_same (key : K) (thread : Nat) (request : τ) (response : ρ) :
    project key [⟨thread, (key, request), response⟩] = [⟨thread, request, response⟩] := by
  simp [project]

private theorem project_other {key other : K} (different : other ≠ key) (thread : Nat) (request : τ)
    (response : ρ) : project key [⟨thread, (other, request), response⟩] = [] := by
  simp [project, different]

omit [DecidableEq K] in
private theorem sequential_nil {apply : Operation τ ρ → A → A → Prop} {start final : A}
    (legal : Sequential apply start [] final) : start = final := by
  generalize empty : ([] : List (Operation τ ρ)) = list at legal
  cases legal with
  | nil => rfl
  | snoc => simp at empty

omit [DecidableEq K] in
private theorem sequential_concat {apply : Operation τ ρ → A → A → Prop} {start final : A}
    {list : List (Operation τ ρ)} {operation : Operation τ ρ}
    (legal : Sequential apply start (list ++ [operation]) final) :
    ∃ middle, Sequential apply start list middle ∧ apply operation middle final := by
  generalize whole : list ++ [operation] = longer at legal
  cases legal with
  | nil => simp at whole
  | snoc initial applied =>
    obtain ⟨rfl, same⟩ := List.append_inj' whole rfl
    cases same
    exact ⟨_, initial, applied⟩

/-- An order of all operations is legal for the family if its parts are legal for
the objects. -/
theorem sequential_product (whole : List (Operation (K × τ) ρ))
    (legal : ∀ key, Sequential (apply key) (first key) (project key whole) (last key)) :
    Sequential (Product apply) first whole last := by
  induction whole using List.reverseRecOn generalizing last with
  | nil =>
    have same : first = last := funext fun key => sequential_nil (legal key)
    rw [same]
    exact .nil
  | append_singleton whole operation ih =>
    obtain ⟨thread, ⟨key, request⟩, response⟩ := operation
    have here : Sequential (apply key) (first key) (project key whole ++ [⟨thread, request, response⟩])
        (last key) := by
      simpa using legal key
    obtain ⟨middle, initial, applied⟩ := sequential_concat here
    have parts : ∀ other, Sequential (apply other) (first other) (project other whole)
        (Function.update last key middle other) := by
      intro other
      by_cases same : other = key
      · subst same
        rw [Function.update_self]
        exact initial
      · rw [Function.update_of_ne same]
        have there := legal other
        rw [project_append, project_other (Ne.symm same), List.append_nil] at there
        exact there
    have step : Product apply ⟨thread, (key, request), response⟩ (Function.update last key middle)
        (Function.update (Function.update last key middle) key (last key)) := .at (by simpa using applied)
    rw [Function.update_idem, Function.update_eq_self] at step
    exact .snoc (ih parts) step

omit [DecidableEq K] in
private theorem thread_tag (key : K) (list : List (Operation τ ρ)) :
    (list.map (Operation.tag key)).map (·.thread) = list.map (·.thread) := by
  simp [Function.comp_def, Operation.tag]

variable (history order) in
def timed (key : K) : List (Nat × Operation (K × τ) ρ) :=
  points (fun operation => (earlier history operation.thread).length) 0 ((order key).map (Operation.tag key))

variable (history order) in
def merged (keys : List K) : List (Nat × Operation (K × τ) ρ) :=
  (keys.flatMap (timed history order)).mergeSort sooner

variable (history order) in
omit [DecidableEq K] in
private theorem timed_map (key : K) :
    (timed history order key).map Prod.snd = (order key).map (Operation.tag key) :=
  points_map _ _ _

omit [DecidableEq K] in
private theorem merged_sorted (keys : List K) : (merged history order keys).Pairwise (sooner · ·) :=
  List.pairwise_mergeSort sooner_trans sooner_total _

variable (history order) in
omit [DecidableEq K] in
private theorem merged_perm (keys : List K) : ((merged history order keys).map Prod.snd).Perm
    (keys.flatMap fun key => (order key).map (Operation.tag key)) := by
  have same : (keys.flatMap fun key => (order key).map (Operation.tag key)) =
      (keys.flatMap (timed history order)).map Prod.snd := by
    rw [List.map_flatMap]
    exact congrArg (keys.flatMap ·) (funext fun key => (timed_map history order key).symm)
  rw [same]
  exact (List.mergeSort_perm _ _).map Prod.snd

omit [DecidableEq K] in
private theorem timed_sublist {keys : List K} {key : K} (member : key ∈ keys) :
    (timed history order key).Sublist (merged history order keys) := by
  refine List.sublist_mergeSort sooner_trans sooner_total (points_sorted _ _ _) ?_
  exact List.sublist_flatten_of_mem (List.mem_map_of_mem member)

private theorem project_flatMap {keys : List K} (distinct : keys.Nodup) (key : K) :
    project key (keys.flatMap fun key => (order key).map (Operation.tag key)) =
      if key ∈ keys then order key else [] := by
  induction keys with
  | nil => rfl
  | cons head rest ih =>
    obtain ⟨fresh, distinctRest⟩ := List.nodup_cons.mp distinct
    rw [List.flatMap_cons, project_append, project_tag, ih distinctRest]
    by_cases here : head = key
    · subst here
      simp [fresh]
    · simp [here, Ne.symm here]

variable (history) in
/-- The merged order has the order of each object in it. -/
theorem project_merged {keys : List K} (distinct : keys.Nodup)
    (complete : ∀ key, key ∉ keys → order key = []) (key : K) :
    project key ((merged history order keys).map Prod.snd) = order key := by
  have parts : project key (keys.flatMap fun key => (order key).map (Operation.tag key)) = order key := by
    rw [project_flatMap distinct]
    by_cases member : key ∈ keys
    · rw [if_pos member]
    · rw [if_neg member, complete key member]
  have same : (project key ((merged history order keys).map Prod.snd)).length = (order key).length := by
    have perm := (merged_perm history order keys).filterMap fun operation =>
      if operation.request.1 = key then
        some (⟨operation.thread, operation.request.2, operation.response⟩ : Operation τ ρ)
      else none
    exact perm.length_eq.trans (congrArg List.length parts)
  have kept : (order key).Sublist (project key ((merged history order keys).map Prod.snd)) := by
    by_cases member : key ∈ keys
    · have within : ((order key).map (Operation.tag key)).Sublist
          ((merged history order keys).map Prod.snd) := by
        rw [← timed_map history]
        exact (timed_sublist member).map Prod.snd
      have projected := within.filterMap fun operation =>
        if operation.request.1 = key then
          some (⟨operation.thread, operation.request.2, operation.response⟩ : Operation τ ρ)
        else none
      have own := project_tag key key (order key)
      rw [if_pos rfl] at own
      rw [← own]
      exact projected
    · rw [complete key member]
      exact List.nil_sublist _
  exact (kept.eq_of_length same.symm).symm

namespace Locally

variable (locally : Locally apply first last history order) (sequenced : Sequenced history)
include locally sequenced

omit [DecidableEq K] in
/-- An operation that was answered before another one was invoked has the earlier point. -/
theorem point_lt {key other : K} {answered invoked : Nat × Operation (K × τ) ρ} {response : ρ}
    {request : K × τ} (one : answered ∈ timed history order key) (two : invoked ∈ timed history order other)
    (pair : [.respond answered.2.thread response, .invoke invoked.2.thread request].Sublist history) :
    answered.1 < invoked.1 := by
  have ahead : .respond answered.2.thread response ∈ earlier history invoked.2.thread :=
    (mem_earlier_iff sequenced (pair.subset (by simp)) _).mpr pair
  have arrived : (earlier history invoked.2.thread).length ≤ invoked.1 := (points_from _ two).2
  refine Nat.lt_of_lt_of_le ?_ arrived
  rcases points_cause _ one with start | ⟨cause, member, same, order_⟩
  · rw [start]
    exact List.length_pos_of_mem ahead
  · -- otherwise the cause, which took effect no later, would have been invoked after the answer
    rw [same]
    by_contra late
    obtain ⟨operation, own, rfl⟩ := List.mem_map.mp member
    have invokedCause := locally.received key operation own
    have behind : [.respond answered.2.thread response,
        .invoke operation.thread (key, operation.request)].Sublist history :=
      (mem_earlier_iff sequenced invokedCause _).mp (earlier_mono (Nat.not_lt.mp late) ahead)
    rcases order_ with itself | before
    · rw [← itself] at behind
      exact sequenced.after _ _ _ behind
    · have first := before.map (·.thread)
      rw [thread_tag] at first
      have member : answered.2.thread ∈ (order key).map (·.thread) := first.subset (by simp)
      have second := locally.realTime key _ _ response operation.request behind member
        (List.mem_map_of_mem own)
      exact not_pair_and_pair (locally.distinct key) second first

omit [DecidableEq K] in
theorem apart {one two : K} (different : one ≠ two) :
    ((order one).map (·.thread)).Disjoint ((order two).map (·.thread)) := by
  intro thread first second
  obtain ⟨operation, member, rfl⟩ := List.mem_map.mp first
  obtain ⟨other, memberOther, same⟩ := List.mem_map.mp second
  have invoked := locally.received one operation member
  have invokedOther := locally.received two other memberOther
  rw [show other.thread = operation.thread from same] at invokedOther
  rcases pair_or_pair invoked invokedOther (by simp [different]) with pair | pair
  · exact sequenced.once _ _ _ pair
  · exact sequenced.once _ _ _ pair

/-- Linearizability is local. -/
theorem linearizes : ∃ whole, Linearizes (Product apply) first last history whole ∧
    ∀ key, project key whole = order key := by
  let keys := (history.filterMap fun event => match event with
    | .invoke _ request => some request.1
    | .respond _ _ => none).dedup
  have keyed {key : K} {operation : Operation τ ρ} (member : operation ∈ order key) : key ∈ keys :=
    List.mem_dedup.mpr (List.mem_filterMap.mpr ⟨_, locally.received key operation member, rfl⟩)
  have complete : ∀ key, key ∉ keys → order key = [] := by
    intro key absent
    rw [List.eq_nil_iff_forall_not_mem]
    exact fun operation member => absent (keyed member)
  have perm := merged_perm history order keys
  have parts := project_merged history (List.nodup_dedup _) complete
  have whole_of {operation : Operation (K × τ) ρ}
      (member : operation ∈ (merged history order keys).map Prod.snd) :
      ∃ key own, own ∈ order key ∧ own.tag key = operation := by
    obtain ⟨key, -, present⟩ := List.mem_flatMap.mp (perm.mem_iff.mp member)
    obtain ⟨own, ownMember, same⟩ := List.mem_map.mp present
    exact ⟨key, own, ownMember, same⟩
  have timed_of {key : K} {operation : Operation τ ρ} (member : operation ∈ order key) :
      ∃ point, (point, operation.tag key) ∈ timed history order key := by
    have present : operation.tag key ∈ (timed history order key).map Prod.snd := by
      rw [timed_map]
      exact List.mem_map_of_mem member
    obtain ⟨⟨point, _⟩, found, rfl⟩ := List.mem_map.mp present
    exact ⟨point, found⟩
  refine ⟨(merged history order keys).map Prod.snd, ⟨?_, ?_, ?_, ?_, ?_⟩, parts⟩
  · rw [(perm.map (·.thread)).nodup_iff, List.map_flatMap, List.nodup_flatMap]
    constructor
    · intro key _
      rw [thread_tag]
      exact locally.distinct key
    · refine (List.nodup_dedup _).imp fun {one two} different => ?_
      simp only [Function.onFun, thread_tag]
      exact locally.apart sequenced different
  · intro operation member
    obtain ⟨key, own, present, rfl⟩ := whole_of member
    exact locally.received key own present
  · intro thread response member
    obtain ⟨key, request, present⟩ := locally.answered thread response member
    refine ⟨(key, request), perm.mem_iff.mpr (List.mem_flatMap.mpr ⟨key, keyed present, ?_⟩)⟩
    exact List.mem_map.mpr ⟨_, present, rfl⟩
  · apply sequential_product _
    intro key
    rw [parts]
    exact locally.legal key
  · intro earlier later response request pair member
    obtain ⟨operation, present, rfl⟩ := List.mem_map.mp member
    obtain ⟨other, second, ownLater, rfl⟩ := whole_of present
    obtain ⟨key, asked, ownEarlier⟩ := locally.answered earlier response (pair.subset (by simp))
    obtain ⟨point, one⟩ := timed_of ownEarlier
    obtain ⟨pointLater, two⟩ := timed_of ownLater
    have less := locally.point_lt sequenced one two pair
    have inMerged := pair_of_sooner (merged_sorted keys) ((timed_sublist (keyed ownEarlier)).subset one)
      ((timed_sublist (keyed ownLater)).subset two) less
    exact (inMerged.map Prod.snd).map (·.thread)

end Locally

end Family

end Cachersize.Concurrent
