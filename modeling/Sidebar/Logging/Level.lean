import Sidebar.Text.Lowercase
/-!
# Log levels and categories

`LogLevel` (`parse`, `as_str`) and `LogCategory` in `crates/panelkit-core/src/logging.rs`.

Five levels, ordered from the most verbose: trace, debug, info, warn, error. A name is read
by lower-casing it with the Unicode mapping and comparing it with the five names, so the
letters of a name may be in any case. Three categories of messages each have a target name
and a configuration key.
-/

namespace Sidebar

/-- How important a log message is, from the most verbose to the most severe. -/
inductive LogLevel where
  | trace
  | debug
  | info
  | warn
  | error
  deriving DecidableEq, Repr, Inhabited

namespace LogLevel

/-- All levels, in increasing order. -/
def all : List LogLevel := [.trace, .debug, .info, .warn, .error]

/-- The lower-case name of a level. -/
def name : LogLevel → String
  | .trace => "trace"
  | .debug => "debug"
  | .info => "info"
  | .warn => "warn"
  | .error => "error"

/-- The position of a level in the order, from 0 for trace to 4 for error. -/
def rank : LogLevel → Nat
  | .trace => 0
  | .debug => 1
  | .info => 2
  | .warn => 3
  | .error => 4

instance : Ord LogLevel := ⟨fun a b => compare a.rank b.rank⟩

/-- The level whose name equals `s` lower-cased, if any. -/
def parse (s : String) : Option LogLevel :=
  let lowered := Text.lowercase s
  all.find? (·.name = lowered)

end LogLevel

/-- The parts of the toolkit that log. -/
inductive LogCategory where
  | core
  | widgets
  | layout
  deriving DecidableEq, Repr, Inhabited

namespace LogCategory

/-- All categories, in the order filter directives list them. -/
def all : List LogCategory := [.core, .widgets, .layout]

/-- The target name under which a category logs. -/
def target : LogCategory → String
  | .core => "panelkit::core"
  | .widgets => "panelkit::widgets"
  | .layout => "panelkit::layout"

/-- The key of a category in the configured level table. -/
def key : LogCategory → String
  | .core => "core"
  | .widgets => "widgets"
  | .layout => "layout"

end LogCategory

end Sidebar
