import Sidebar.Geometry
import Sidebar.Color.Basic
import Sidebar.Typography
/-!
# Widget specifications

`WidgetSpec`, `KindSpec` and the kinds of `crates/panelkit-widgets/src/spec.rs`.

A `WidgetSpec` is the frozen configuration of a widget: the fields every widget has
(`Appearance`) and a `KindSpec` with the fields of its kind alone. A button's action is named
by the counter it increments, so two widgets made from one specification share it.
-/

namespace Sidebar

/-- The five kinds of widget. -/
inductive WidgetKind where
  | label
  | button
  | textField
  | panel
  | richText
  deriving DecidableEq, Repr, Inhabited

namespace WidgetKind

/-- The lower-case name of a kind, with words joined by an underscore. -/
def name : WidgetKind → String
  | .label => "label"
  | .button => "button"
  | .textField => "text_field"
  | .panel => "panel"
  | .richText => "rich_text"

/-- The name of a kind in diagnostics, each word capitalised. -/
def title : WidgetKind → String
  | .label => "Label"
  | .button => "Button"
  | .textField => "TextField"
  | .panel => "Panel"
  | .richText => "RichText"

end WidgetKind

/-- What a button does when activated: it increments the counter of this name. -/
structure Action where
  counter : String
  deriving DecidableEq, Repr

/-- The fields of a text field: the placeholder, the preferred width in character columns
(0 sizes it to its content) and whether it can be edited. -/
structure FieldSpec where
  placeholder : String := ""
  columns : UInt64 := 0
  editable : Bool := true
  deriving DecidableEq, Repr

/-- The fields of a panel widget: an optional background and the padding inside it. -/
structure BoxSpec where
  background : Option Color := none
  padding : Insets := Insets.all 0
  deriving DecidableEq, Repr

/-- The fields of a rich text block: its markup (empty falls back to the widget's text), the
number of lines shown before scrolling (`none` sizes it to its content) and whether lines
wrap. -/
structure RichTextSpec where
  html : String := ""
  visibleLines : Option UInt64 := none
  wrap : Bool := true
  deriving DecidableEq, Repr

/-- The fields of one kind of widget. -/
inductive KindSpec where
  | label
  | button (onClick : Option Action)
  | textField (field : FieldSpec)
  | panel (box : BoxSpec)
  | richText (rich : RichTextSpec)
  deriving DecidableEq, Repr

namespace KindSpec

/-- The kind these fields belong to. -/
def kind : KindSpec → WidgetKind
  | .label => .label
  | .button _ => .button
  | .textField _ => .textField
  | .panel _ => .panel
  | .richText _ => .richText

/-- The fields of a kind, each at its default. -/
def blank : WidgetKind → KindSpec
  | .label => .label
  | .button => .button none
  | .textField => .textField {}
  | .panel => .panel {}
  | .richText => .richText {}

@[simp] theorem kind_blank (k : WidgetKind) : (blank k).kind = k := by
  cases k <;> rfl

end KindSpec

/-- The fields every widget has: its text, font role, colour, alignment, fixed size
(`none` sizes it to its content), whether it is enabled, and its tooltip. -/
structure Appearance where
  text : String := ""
  font : FontRole := .normal
  color : Color := Color.white
  alignment : Alignment := .leading
  size : Option Size := none
  enabled : Bool := true
  tooltip : Option String := none
  deriving DecidableEq, Repr

/-- The frozen configuration of a widget. -/
structure WidgetSpec where
  look : Appearance := {}
  kindSpec : KindSpec
  deriving DecidableEq, Repr

namespace WidgetSpec

/-- The specification of a kind with every field at its default. -/
def blank (k : WidgetKind) : WidgetSpec := { kindSpec := KindSpec.blank k }

/-- The kind of widget the specification describes. -/
def kind (s : WidgetSpec) : WidgetKind := s.kindSpec.kind

@[simp] theorem kind_blank (k : WidgetKind) : (blank k).kind = k := by
  simp [blank, kind]

end WidgetSpec

end Sidebar
