import Sidebar.Overflow
/-!
# Sizes, insets and alignment

`Size`, `EdgeInsets` (`horizontal`, `vertical`) and `Alignment` in
`crates/panelkit-core/src/types.rs`.

A `Size` is a width and a height in pixels, `Insets` are the four margins of a box, and an
`Alignment` places content along a line. Sums of opposite insets are checked: a total that
does not fit in 32 bits is an `Overflow`.
-/

namespace Sidebar

/-- A width and a height in pixels. -/
structure Size where
  width : UInt32
  height : UInt32
  deriving DecidableEq, Repr, Inhabited

namespace Size

/-- The size with no width and no height. -/
def zero : Size := ⟨0, 0⟩

/-- A size is empty when it has no area: one of its sides is zero. -/
def isEmpty (s : Size) : Bool := s.width == 0 || s.height == 0

end Size

/-- The margins on the four sides of a box, in pixels. -/
structure Insets where
  top : UInt32
  right : UInt32
  bottom : UInt32
  left : UInt32
  deriving DecidableEq, Repr, Inhabited

namespace Insets

/-- The same margin on every side. -/
def all (v : UInt32) : Insets := ⟨v, v, v, v⟩

/-- `vertical` above and below, `horizontal` left and right. -/
def symmetric (vertical horizontal : UInt32) : Insets := ⟨vertical, horizontal, vertical, horizontal⟩

/-- Left plus right. -/
def horizontal (i : Insets) : Except Overflow UInt32 := Checked.add32 i.left i.right

/-- Top plus bottom. -/
def vertical (i : Insets) : Except Overflow UInt32 := Checked.add32 i.top i.bottom

end Insets

/-- Where content sits along a line. -/
inductive Alignment where
  | leading
  | center
  | trailing
  deriving DecidableEq, Repr, Inhabited

end Sidebar
