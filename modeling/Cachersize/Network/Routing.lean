import Cachersize.Network.Calls
import Cachersize.Provider.Bindings

/-! Where calls end up: a handle reaches the backend that was bound to its id, or none. -/
namespace Cachersize.Network

open Concurrent ProviderImpl

variable {J β : Type} {runtime : ProviderHandle → Runtime J β} {m_token : ProviderHandle → StdString}
variable {network after : Network J β}

/-- No two calls draw the same id. -/
def DrawsDistinct (network : Network J β) : Prop :=
  ∀ rpc rpc' call call' outcome outcome' cache_id,
    network.calls rpc = some (call, outcome) → network.calls rpc' = some (call', outcome') →
    call.request.generated = some cache_id → call'.request.generated = some cache_id → rpc = rpc'

theorem DrawsDistinct.of_only (creator : Nat) (only : ∀ rpc call outcome cache_id,
    network.calls rpc = some (call, outcome) → call.request.generated = some cache_id → rpc = creator) :
    network.DrawsDistinct := by
  intro rpc rpc' call call' outcome outcome' cache_id called called' drawn drawn'
  exact (only _ _ _ _ called drawn).trans (only _ _ _ _ called' drawn').symm

/-- Every provider is in a state that it reaches by itself, and handles only calls that
name it. -/
structure Sound (runtime : ProviderHandle → Runtime J β) (m_token : ProviderHandle → StdString)
    (network : Network J β) : Prop where
  served : ∀ ph, ∃ actions, serve (runtime ph) (m_token ph) actions = some (network.providers ph)
  threads : ∀ ph rpc thread, (network.providers ph).threads rpc = some thread →
    ∃ call outcome, network.calls rpc = some (call, outcome) ∧ call.ph = ph ∧ thread.tag = call.request

namespace Sound

theorem initial (memory : Nat → Int32) :
    Sound runtime m_token (Network.initial runtime m_token memory) where
  served := fun ph => ⟨[], rfl⟩
  threads := by
    intro ph rpc thread present
    cases present

theorem serve {ph : ProviderHandle} {action : NetworkAction} {change : Action Request StdString}
    {provider : ProviderImpl.Provider J β} (sound : Sound runtime m_token network)
    (directs : Directs network ph action change)
    (stepped : (system (runtime ph)).step (network.providers ph) change = some provider) :
    Sound runtime m_token
      { network with providers := Function.update network.providers ph provider } where
  served := by
    intro other
    by_cases same : other = ph
    · subst same
      obtain ⟨actions, served⟩ := sound.served other
      have ran : (system (runtime other)).run [change] (network.providers other) = some provider := by
        simp [System.run, stepped]
      exact ⟨actions ++ [change], by simpa using serve_append served ran⟩
    · simpa [same] using sound.served other
  threads := by
    intro other rpc thread present
    by_cases same : other = ph
    · subst same
      simp only [Function.update_self] at present
      rcases System.step_cases stepped with ⟨actor, request, spawned, -, rfl⟩ |
        ⟨actor, request, op, next, answer, shared, events, -, running, -, rfl⟩ | ⟨token, -, rfl⟩
      · by_cases here : rpc = actor
        · subst here
          have arrived : thread = ⟨request, handler (runtime other) request⟩ := by
            simpa using present.symm
          cases directs with
          | deliver called target =>
            cases spawned
            exact ⟨_, _, called, target, by rw [arrived]⟩
          | handle | setSecurityToken => cases spawned
        · exact sound.threads other rpc thread (by simpa [here] using present)
      · by_cases here : rpc = actor
        · subst here
          obtain ⟨call, outcome, called, target, tag⟩ := sound.threads other rpc _ running
          have moved : thread = ⟨request, next answer⟩ := by simpa using present.symm
          exact ⟨call, outcome, called, target, by rw [moved]; exact tag⟩
        · exact sound.threads other rpc thread (by simpa [here] using present)
      · exact sound.threads other rpc thread present
    · simp only [Function.update_of_ne same] at present
      exact sound.threads other rpc thread present

theorem moves {action : NetworkAction} (sound : Sound runtime m_token network)
    (moved : Moves runtime network action after) : Sound runtime m_token after := by
  cases moved with
  | @sent rpc _ call fresh sends =>
    refine ⟨sound.served, fun ph other thread present => ?_⟩
    obtain ⟨earlier, outcome, called, rest⟩ := sound.threads ph other thread present
    have apart : other ≠ rpc := by
      rintro rfl
      rw [fresh] at called
      cases called
    exact ⟨earlier, outcome, by simp [apart, called], rest⟩
  | assigned | threw => exact ⟨sound.served, sound.threads⟩
  | served directs stepped => exact sound.serve directs stepped
  | @answered rpc call response called responded =>
    refine ⟨sound.served, fun ph other thread present => ?_⟩
    obtain ⟨earlier, outcome, found, rest⟩ := sound.threads ph other thread present
    obtain ⟨later, still⟩ := (called_answered called other earlier).mpr ⟨outcome, found⟩
    exact ⟨earlier, later, still, rest⟩

theorem run {actions : List NetworkAction} {memory : Nat → Int32}
    (ran : Network.run runtime actions (Network.initial runtime m_token memory) = some network) :
    Sound runtime m_token network :=
  run_induction (Sound runtime m_token) (fun _ _ _ _ sound moved => sound.moves moved) (initial memory) ran

/-- A call leaves no trace on the providers that it does not name. -/
theorem elsewhere (sound : Sound runtime m_token network) {rpc : Nat} {call : RemoteCall}
    {outcome : Option (Except StdString Returned)} (called : network.calls rpc = some (call, outcome))
    {ph : ProviderHandle} (other : ph ≠ call.ph) :
    Global.own rpc (network.providers ph).global.log = [] := by
  obtain ⟨actions, served⟩ := sound.served ph
  cases running : (network.providers ph).threads rpc with
  | none => exact System.own_vacant served running
  | some thread =>
    obtain ⟨same, _, found, target, -⟩ := sound.threads ph rpc thread running
    cases called.symm.trans found
    exact absurd target.symm other

theorem present (sound : Sound runtime m_token network) {rpc : Nat} {call : RemoteCall}
    {outcome : Option (Except StdString Returned)} (called : network.calls rpc = some (call, outcome))
    (active : Global.own rpc (network.providers call.ph).global.log ≠ []) :
    ∃ program, (network.providers call.ph).threads rpc = some ⟨call.request, program⟩ := by
  obtain ⟨actions, served⟩ := sound.served call.ph
  cases running : (network.providers call.ph).threads rpc with
  | none => exact absurd (System.own_vacant served running) active
  | some thread =>
    obtain ⟨same, _, found, -, tag⟩ := sound.threads call.ph rpc thread running
    cases called.symm.trans found
    obtain ⟨request, program⟩ := thread
    cases tag
    exact ⟨program, rfl⟩

end Sound

/-- The call `binder` drew the id, and its handler bound the backend to it, which it had
built. Nothing else was ever bound to the id, nor the backend to another id. -/
structure BoundOnce (network : Network J β) (binder : Nat) (ph : ProviderHandle) (cache_id : UUID)
    (cache : Backend β) : Prop where
  drawn : ∃ call outcome, network.calls binder = some (call, outcome) ∧ call.ph = ph ∧
    call.request.generated = some cache_id
  bound : (binder, .bound cache_id cache) ∈ (network.providers ph).global.log
  built : ∃ operation name config,
    (binder, .built operation name config (.ok (some cache))) ∈ (network.providers ph).global.log
  unique : ∀ other_ph other made,
    (other, .bound cache_id made) ∈ (network.providers other_ph).global.log →
      other_ph = ph ∧ other = binder ∧ made = cache
  unshared : ∀ other other_id, (other, .bound other_id cache) ∈ (network.providers ph).global.log →
    other = binder ∧ other_id = cache_id

/-- While no id is drawn twice, every binding is the only one of its id. -/
theorem Sound.boundOnce (sound : Sound runtime m_token network) (distinct : network.DrawsDistinct)
    {binder : Nat} {ph : ProviderHandle} {cache_id : UUID} {cache : Backend β}
    (bound : (binder, .bound cache_id cache) ∈ (network.providers ph).global.log) :
    network.BoundOnce binder ph cache_id cache := by
  have drawn {other_ph : ProviderHandle} {other : Nat} {other_id : UUID} {made : Backend β}
      (binding : (other, .bound other_id made) ∈ (network.providers other_ph).global.log) :
      ∃ call outcome, network.calls other = some (call, outcome) ∧ call.ph = other_ph ∧
        call.request.generated = some other_id ∧
        ∀ third_id third, (other, .bound third_id third) ∈ (network.providers other_ph).global.log →
          third = made := by
    obtain ⟨actions, served⟩ := sound.served other_ph
    obtain ⟨request, program, running, generated, once⟩ := bound_by served binding
    obtain ⟨call, outcome, called, target, tag⟩ := sound.threads other_ph other _ running
    cases tag
    exact ⟨call, outcome, called, target, generated, once⟩
  obtain ⟨actions, served⟩ := sound.served ph
  have guarded := serve_guarded served
  obtain ⟨call, outcome, called, target, generated, once⟩ := drawn bound
  refine ⟨⟨call, outcome, called, target, generated⟩, bound, guarded.built _ _ _ bound, ?_, ?_⟩
  · intro other_ph other made binding
    obtain ⟨call', outcome', called', target', generated', -⟩ := drawn binding
    have same : other = binder := distinct _ _ _ _ _ _ _ called' called generated' generated
    subst same
    cases called.symm.trans called'
    have here : other_ph = ph := target'.symm.trans target
    subst here
    exact ⟨rfl, rfl, once _ _ binding⟩
  · intro other other_id binding
    obtain ⟨_, _, _, one⟩ := guarded.built _ _ _ bound
    obtain ⟨_, _, _, two⟩ := guarded.built _ _ _ binding
    have same := (built_unique guarded.replays.accurate two one rfl).1
    subst same
    exact ⟨rfl, guarded.once _ _ _ _ _ binding bound⟩

/-- A lookup finds what the call that drew the id has bound to it. -/
theorem Sound.found_bound (sound : Sound runtime m_token network) (distinct : network.DrawsDistinct)
    {rpc : Nat} {ph : ProviderHandle} {cache_id : UUID} {cache : Backend β}
    (found : .lookedUp cache_id (some cache) ∈ Global.own rpc (network.providers ph).global.log) :
    ∃ binder, network.BoundOnce binder ph cache_id cache := by
  obtain ⟨actions, served⟩ := sound.served ph
  obtain ⟨before, rest, split, looked⟩ :=
    (serve_replays served).accurate.of_mem (Global.mem_own.mp found)
  obtain ⟨binder, bound⟩ := bound_of_lookup (Eq.symm looked)
  refine ⟨binder, sound.boundOnce distinct ?_⟩
  rw [split]
  exact List.mem_append_left _ bound

end Cachersize.Network
