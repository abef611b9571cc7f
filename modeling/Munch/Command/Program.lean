import Munch.Command.Help
import Munch.Command.Run

/-!
# What the program leaves behind

The program either runs the command that its arguments lead to, or stops. In both cases it leaves an
exit code and what is on the two streams.
-/

namespace Munch.Command

structure Exit where
  code : Nat
  stdout : String
  stderr : String
deriving DecidableEq, Repr

def Stop.exit (s : Stop) : Exit := ⟨s.exitCode, s.stdout, s.stderr⟩

/-- What an outcome leaves behind, with the log lines up to a level. -/
def Outcome.exit (o : Outcome) (level : Log.Level) : Exit := ⟨o.exitCode, o.stdout, o.stderr level⟩

/-- Runs the program on its arguments, without its name. -/
def program [Footprint] {m : Type → Type} [Monad m] (host : Host m)
    (environment : String → Option String) (as : List String) : m Exit :=
  match Arguments.parse environment as with
  | .error stop => pure stop.exit
  | .ok a => do pure ((← a.run host).exit (logLevel a.verbosity))

end Munch.Command
