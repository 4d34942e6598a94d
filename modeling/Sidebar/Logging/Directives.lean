import Sidebar.Logging.Level
import Sidebar.Config.Basic
/-!
# Filter directives

`filter_directives` in `crates/panelkit-core/src/logging.rs`.

The directives that select what is logged: first the default level, then one
`target=level` entry for each category, in the order core, widgets, layout, whose configured
level name is a level. A default level name that is no level means `info`; a category whose
name is missing or no level gets no entry. Level names are written in lower case.
-/

namespace Sidebar

/-- The directive of one category, if its configured level name is a level. -/
def LoggingConfig.categoryDirective (l : LoggingConfig) (c : LogCategory) : Option String :=
  (l.categoryLevels.get? c.key).bind LogLevel.parse |>.map fun lv => c.target ++ "=" ++ lv.name

/-- The filter directives of a logging configuration, separated by commas. -/
def LoggingConfig.filterDirectives (l : LoggingConfig) : String :=
  let default := (LogLevel.parse l.defaultLevel).getD .info
  ",".intercalate (default.name :: LogCategory.all.filterMap l.categoryDirective)

end Sidebar
