import Sidebar.Geometry
import Sidebar.Color.Basic
/-!
# Panel borders

`Border` and `Border::insets` in `crates/panelkit-widgets/src/layout.rs`.

A panel has no border, a padding of given insets, or a coloured line of a given thickness.
Each border takes the space of `Border.insets` from every side of the panel.
-/

namespace Sidebar

/-- The frame around a panel. -/
inductive Border where
  /-- No border at all. -/
  | none
  /-- Empty space of the given insets. -/
  | padding (insets : Insets)
  /-- A line of the given colour and thickness on every side. -/
  | line (color : Color) (thickness : UInt32)

namespace Border

/-- The space the border takes on each side: nothing, the padding, or the line's thickness
on all four sides. -/
def insets : Border → Insets
  | .none => Insets.all 0
  | .padding i => i
  | .line _ t => Insets.all t

end Border

end Sidebar
