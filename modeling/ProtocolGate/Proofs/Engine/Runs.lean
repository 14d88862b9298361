import ProtocolGate.Proofs.Engine.Events
import ProtocolGate.Proofs.Registry

/-!
Runs of an engine: a session under any operations, whether they succeed or fail. The history of a
run is the list of its events, and what every step keeps holds after every run.
-/

namespace ProtocolGate

namespace Engine

/-- What a configuration fixes for the whole life of an engine: how texts are canonicalised, how
rules are compiled, the bounds of the registry, and that new states get the mark of the engine. -/
structure Configured (config : Config) (engine : Engine) : Prop where
  same : engine.config = config
  context : engine.context = (newContext config).holding engine.context.held
  ignoreCase : engine.registry.ignoreCase = config.caseFold
  limits : engine.registry.limits = (newRegistry config engine.zeroTrust).limits
  stamp : engine.registry.zeroTrust = engine.zeroTrust

theorem create_configured (config : Config) : Configured config (create config) :=
  ⟨rfl, rfl, rfl, rfl, rfl⟩

theorem start_configured (engine : Engine) (zeroTrust : Bool) :
    Configured engine.config (engine.start zeroTrust).2 := by
  unfold start
  dsimp only
  split
  · exact ⟨rfl, rfl, rfl, rfl, rfl⟩
  · rename_i state registry registered
    obtain ⟨_, _, _, _, _, _, _, _, _, rfl⟩ := Registry.register_ok registered
    exact ⟨rfl, rfl, rfl, rfl, rfl⟩

theorem Configured.holding {config : Config} {engine : Engine}
    (configured : Configured config engine) (text : Text) :
    Configured config (engine.holding text) := by
  refine ⟨configured.same, ?_, configured.ignoreCase, configured.limits, configured.stamp⟩
  have context := configured.context
  simp only [Engine.holding] at context ⊢
  rw [context]
  rfl

theorem Step.configured {config : Config} {engine after : Engine} {event : Event}
    (step : Step engine event after) (before : Configured config engine) :
    Configured config after := by
  obtain rfl := before.same
  cases step with
  | started outcome | startRefused outcome =>
      have same := congrArg Prod.snd outcome
      dsimp only at same
      rw [← same]
      exact engine.start_configured _
  | stopped => exact create_configured engine.config
  | registered _ registered =>
      obtain ⟨_, _, _, _, _, _, _, _, _, rfl⟩ := Registry.register_ok registered
      exact ⟨rfl, before.context, before.ignoreCase, before.limits, before.stamp⟩
  | declared _ declared =>
      obtain ⟨_, _, _, _, _, _, _, rfl⟩ := Registry.addTransition_ok declared
      exact ⟨rfl, before.context, before.ignoreCase, before.limits, before.stamp⟩
  | scanned => exact ⟨rfl, before.context, before.ignoreCase, before.limits, before.stamp⟩

theorem Step.started_or_live {engine after : Engine} {event : Event}
    (step : Step engine event after) :
    (∃ zeroTrust, after = (engine.start zeroTrust).2) ∨ engine.initialized = true := by
  cases step with
  | started outcome | startRefused outcome => exact .inl ⟨_, (congrArg Prod.snd outcome).symm⟩
  | stopped live => exact .inr live
  | registered live _ => exact .inr live
  | declared live _ => exact .inr live
  | scanned live _ _ => exact .inr live

end Engine

namespace Session

def new (config : Config) : Session where
  engine := .create config

def history (session : Session) : List Operation → List Event
  | [] => []
  | operation :: later => session.events operation ++ (session.perform operation).2.history later

theorem run_path (session : Session) (operations : List Operation) :
    session.engine.Path (session.history operations) (session.run operations).engine := by
  induction operations generalizing session with
  | nil => exact .done
  | cons operation later ih =>
      exact (session.perform_path operation).append (ih (session.perform operation).2)

theorem history_append (session : Session) (earlier later : List Operation) :
    session.history (earlier ++ later) =
      session.history earlier ++ (session.run earlier).history later := by
  induction earlier generalizing session with
  | nil => rfl
  | cons operation earlier ih =>
      rw [List.cons_append, history, history, ih, List.append_assoc]
      rfl

/-- The sessions of a configuration: a new engine, and what operations make of it. -/
inductive Reachable (config : Config) : Session → Prop
  | created : Reachable config { engine := .create config }
  | performed {session} (operation : Operation) : Reachable config session →
      Reachable config (session.perform operation).2

theorem Reachable.run {config : Config} {session : Session} (reachable : Reachable config session)
    (operations : List Operation) : Reachable config (session.run operations) := by
  induction operations generalizing session with
  | nil => exact reachable
  | cons operation later ih => exact ih (.performed operation reachable)

theorem reachable_run (config : Config) (operations : List Operation) :
    Reachable config ((new config).run operations) :=
  Reachable.run .created operations

theorem Reachable.invariant {config : Config} {session : Session}
    (reachable : Reachable config session) (holds : Engine → Prop)
    (created : holds (.create config))
    (holding : ∀ engine text, engine.initialized = true → holds engine →
      holds (engine.holding text))
    (step : ∀ engine event after, engine.Step event after → holds engine → holds after) :
    holds session.engine := by
  induction reachable with
  | created => exact created
  | @performed session operation _ ih =>
      have path := session.perform_path operation
      exact path.invariant [] (fun _ engine => holds engine) (fun _ => holding) (fun _ => step) ih

theorem Reachable.configured {config : Config} {session : Session}
    (reachable : Reachable config session) : session.engine.Configured config :=
  reachable.invariant (Engine.Configured config) (Engine.create_configured config)
    (fun _ text _ configured => configured.holding text)
    fun _ _ _ step configured => step.configured configured

end Session

end ProtocolGate
