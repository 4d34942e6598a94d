/-!
# Font roles and typography

`FontRole`, `FontWeight`, `FontSpec` and `Typography::resolve` in
`crates/panelkit-core/src/theme.rs`.

A widget names a `FontRole`; a `Typography` gives each role a point size, and resolving a
role yields a size and a weight. Bold text uses the bold size and weight; normal and small
text use the normal weight.
-/

namespace Sidebar

/-- The role of a widget's text. -/
inductive FontRole where
  | normal
  | bold
  | small
  deriving DecidableEq, Repr, Inhabited

/-- How heavy the strokes of a font are. -/
inductive FontWeight where
  | normal
  | bold
  deriving DecidableEq, Repr, Inhabited

/-- The numeric weight of CSS and OpenType: 400 for normal, 700 for bold. -/
def FontWeight.numeric : FontWeight → Nat
  | .normal => 400
  | .bold => 700

/-- A concrete font: a point size and a weight. -/
structure FontSpec where
  size : UInt32
  weight : FontWeight
  deriving DecidableEq, Repr

/-- Point sizes for the three roles. -/
structure Typography where
  normalSize : UInt32 := 16
  boldSize : UInt32 := 16
  smallSize : UInt32 := 12
  deriving DecidableEq, Repr, Inhabited

namespace Typography

/-- The font for a role: its size from the table and the bold weight for the bold role
only. -/
def resolve (t : Typography) : FontRole → FontSpec
  | .normal => ⟨t.normalSize, .normal⟩
  | .bold => ⟨t.boldSize, .bold⟩
  | .small => ⟨t.smallSize, .normal⟩

end Typography

end Sidebar
