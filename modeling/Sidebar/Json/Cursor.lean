import Sidebar.Json.Error
import Sidebar.Text.Utf8
/-!
# Reading position

The reading position of `serde_json::from_str`, as `PanelConfig::from_json_str` calls it.

A reader works on the characters left to read and returns the characters after what it
took. `Rest cs` is such a remainder: never longer than `cs`, which is what makes the loops
over members and items end. A `Fault` records its point as the number of UTF-8 bytes left
after it: `Fault.here` at the current point, `Fault.next` one byte further, after a byte that
was looked at or taken.
-/

namespace Sidebar
namespace Json

/-- The bytes of UTF-8 that a list of characters takes. -/
def byteLength (cs : List Char) : Nat := Text.utf8Length cs

namespace Fault

/-- A problem at the point where `cs` is left to read. -/
def here (p : Problem) (cs : List Char) : Fault := ⟨p, byteLength cs⟩

/-- A problem one byte past the point where `cs` is left to read, or at the end. -/
def next (p : Problem) (cs : List Char) : Fault := ⟨p, byteLength cs - 1⟩

end Fault

theorem length_le_self (cs : List Char) : cs.length ≤ cs.length := Nat.le_refl _

/-- What is left of `cs` after a reader took a prefix. -/
abbrev Rest (cs : List Char) := { r : List Char // r.length ≤ cs.length }

namespace Rest

/-- Nothing taken. -/
def refl (cs : List Char) : Rest cs := ⟨cs, length_le_self cs⟩

/-- A remainder of a shorter text is a remainder of a longer one. -/
def widen {cs ds : List Char} (h : cs.length ≤ ds.length) (r : Rest cs) : Rest ds :=
  ⟨r.1, Nat.le_trans r.2 h⟩

/-- What is left after two readers, one after the other. -/
def trans {cs : List Char} (a : Rest cs) (b : Rest a.1) : Rest cs := ⟨b.1, Nat.le_trans b.2 a.2⟩

end Rest

/-- What is left of `cs` after a reader took at least one character. -/
abbrev Shorter (cs : List Char) := { r : List Char // r.length < cs.length }

/-- A result read from a shorter text, as a result of a longer one. -/
def widen {α : Type} {cs ds : List Char} (h : cs.length ≤ ds.length) :
    Except Fault (α × Rest cs) → Except Fault (α × Rest ds)
  | .ok (a, r) => .ok (a, r.widen h)
  | .error f => .error f

theorem length_le_cons (c : Char) (cs : List Char) : cs.length ≤ (c :: cs).length :=
  Nat.le_succ _

/-- The white space of JSON: space, line feed, tab and carriage return. -/
def isBlank (c : Char) : Bool := c = ' ' || c = '\n' || c = '\t' || c = '\r'

/-- The text after its leading white space. -/
def skipBlank (cs : List Char) : Rest cs :=
  ⟨cs.dropWhile isBlank, (List.dropWhile_suffix isBlank).length_le⟩

/-- The value of a decimal digit. -/
def digitValue (c : Char) : Option Nat :=
  if '0' ≤ c ∧ c ≤ '9' then some (c.toNat - '0'.toNat) else none

/-- Whether a character is a decimal digit. -/
def isDigit (c : Char) : Bool := (digitValue c).isSome

/-- The text after its leading digits. -/
def skipDigits (cs : List Char) : Rest cs :=
  ⟨cs.dropWhile isDigit, (List.dropWhile_suffix isDigit).length_le⟩

end Json
end Sidebar
