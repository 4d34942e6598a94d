import Sidebar.Json.Error
/-!
# Failures of the toolkit

`PanelError` and `PanelError::is_recoverable` in `crates/panelkit-core/src/error.rs`.

Widgets and layouts never fail; failures come from the surroundings: a configuration that
cannot be read or parsed, and setting up logging. Only a failure to initialise cannot be
recovered from.
-/

namespace Sidebar

/-- Why a file could not be read as text. -/
inductive ReadFailure where
  | notFound
  | isDirectory
  | invalidUtf8
  /-- A name longer than a file system allows for one component. -/
  | nameTooLong
  deriving DecidableEq, Repr

/-- The text of a read failure, as the operating system words it. -/
def ReadFailure.message : ReadFailure → String
  | .notFound => "No such file or directory (os error 2)"
  | .isDirectory => "Is a directory (os error 21)"
  | .invalidUtf8 => "stream did not contain valid UTF-8"
  | .nameTooLong => "File name too long (os error 36)"

/-- A failure of the toolkit. -/
inductive Failure where
  | configuration (message : String)
  | initialization (message : String)
  | io (e : ReadFailure)
  | serialization (e : Json.Error)
  deriving DecidableEq, Repr

namespace Failure

/-- The text of a failure: its kind, then what went wrong. -/
def message : Failure → String
  | .configuration m => "Configuration error: " ++ m
  | .initialization m => "Initialization error: " ++ m
  | .io e => "IO error: " ++ e.message
  | .serialization e => "Serialization error: " ++ e.message

/-- Whether the toolkit can go on after the failure: all but a failed initialisation. -/
def recoverable : Failure → Bool
  | .initialization _ => false
  | _ => true

end Failure

end Sidebar
