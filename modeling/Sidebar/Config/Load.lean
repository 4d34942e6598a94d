import Sidebar.Config.Json
import Sidebar.Failure
import Sidebar.Text.Utf8
/-!
# Loading a configuration file

`PanelConfig::load` in `crates/panelkit-core/src/config.rs`.

A configuration file is read whole as UTF-8 text and parsed. A name longer than 255 bytes,
the most a file system allows for one component, cannot name anything and fails before the
file is looked up; a file that is missing, a directory, or not UTF-8 is a read failure; a
parse error becomes a configuration failure that names the path as given. A byte order mark
is not skipped.
-/

namespace Sidebar

/-- What a path names in the file system. -/
inductive FileEntry where
  | missing
  | directory
  | file (bytes : ByteArray)

namespace Config

/-- The configuration parsed from text, a parse error as a failure. -/
def parseText (input : String) : Except Failure Config :=
  (parse input).mapError .serialization

/-- The most bytes a file name may have. -/
def nameLimit : Nat := 255

/-- Whether `path` has more bytes than a file name may have: such a path names nothing, and
nothing can be made under it. -/
def nameTooLong (path : String) : Bool := decide (nameLimit < Text.utf8Length path.toList)

/-- The configuration in the file at `path`, a plain file name, given what it names. -/
def load (path : String) (entry : FileEntry) : Except Failure Config :=
  if nameTooLong path then .error (.io .nameTooLong)
  else
    match entry with
    | .missing => .error (.io .notFound)
    | .directory => .error (.io .isDirectory)
    | .file bytes =>
      match String.fromUTF8? bytes with
      | none => .error (.io .invalidUtf8)
      | some text =>
        (parse text).mapError fun e =>
          .configuration ("failed to parse " ++ path ++ ": " ++ (Failure.serialization e).message)

end Config

end Sidebar
