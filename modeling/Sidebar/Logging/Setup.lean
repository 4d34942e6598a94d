import Sidebar.Logging.Directives
/-!
# Setting up logging

`init` and `is_initialized` in `crates/panelkit-core/src/logging.rs`.

Logging is set up once, from the filter directives of a logging configuration; setting it up
again keeps the first directives and succeeds.
-/

namespace Sidebar

/-- The version of the toolkit. -/
def version : String := "0.1.0"

/-- Whether logging is set up, and with which directives. -/
structure LogSetup where
  directives : Option String := none
  deriving DecidableEq, Repr

namespace LogSetup

/-- Whether logging is set up. -/
def isInitialized (s : LogSetup) : Bool := s.directives.isSome

/-- Sets logging up from a configuration unless it is set up already. -/
def init (s : LogSetup) (l : LoggingConfig) : LogSetup :=
  match s.directives with
  | some _ => s
  | none => ⟨some l.filterDirectives⟩

end LogSetup

end Sidebar
