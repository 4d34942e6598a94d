import Sidebar.Widget.Instance
import Sidebar.Text.Quoted
import Sidebar.Binary32
/-!
# Diagnostic text of widgets

The `Debug` impls of `Widget` (`crates/panelkit-widgets/src/widget.rs`), `KindSpec` and
`ButtonKind` (`spec.rs`), and `Color` and `EdgeInsets` (`crates/panelkit-core/src/types.rs`).

Specifications and widgets are written as records: a type name followed by its fields
between braces, texts quoted with `Text.quoted`, optional values as `Some(…)` or `None`, and
colour channels in `Binary32.debugText`. A button's action is not data and is written as
the type of a callable.
-/

namespace Sidebar
namespace Debug

/-- A record: a name and its fields between braces. -/
def record (name : String) (fields : List (String × String)) : String :=
  name ++ " \x7b " ++ ", ".intercalate (fields.map fun (k, v) => k ++ ": " ++ v) ++ " \x7d"

/-- An optional value, written by `write` when present. -/
def option {α : Type} (write : α → String) : Option α → String
  | some a => "Some(" ++ write a ++ ")"
  | none => "None"

/-- A colour, channel by channel. -/
def color (c : Color) : String :=
  record "Color" [("r", c.r.debugText), ("g", c.g.debugText), ("b", c.b.debugText),
    ("a", c.a.debugText)]

/-- Insets, side by side. -/
def insets (i : Insets) : String :=
  record "EdgeInsets" [("top", toString i.top), ("right", toString i.right),
    ("bottom", toString i.bottom), ("left", toString i.left)]

/-- What stands for a button's action. -/
def callable : String := "Fn() + Send + Sync"

end Debug

/-- The diagnostic text of the fields of a kind. -/
def KindSpec.debugText : KindSpec → String
  | .label => "Label(LabelKind)"
  | .button a =>
    "Button(" ++ Debug.record "ButtonKind"
      [("on_click", Debug.option (fun _ => Text.quoted Debug.callable) a)] ++ ")"
  | .textField f =>
    "TextField(" ++ Debug.record "TextFieldKind" [("placeholder", Text.quoted f.placeholder),
      ("columns", toString f.columns), ("editable", toString f.editable)] ++ ")"
  | .panel p =>
    "Panel(" ++ Debug.record "PanelKind" [("background", Debug.option Debug.color p.background),
      ("padding", Debug.insets p.padding)] ++ ")"
  | .richText r =>
    "RichText(" ++ Debug.record "RichTextKind" [("html", Text.quoted r.html),
      ("visible_lines", Debug.option toString r.visibleLines), ("wrap", toString r.wrap)] ++ ")"

/-- The diagnostic text of a widget: its number, kind, current text and enabled state. -/
def Widget.debugText (w : Widget) : String :=
  Debug.record "Widget" [("id", "WidgetId(" ++ toString w.id ++ ")"), ("kind", w.kind.title),
    ("text", Text.quoted w.currentText), ("enabled", toString w.enabled)]

end Sidebar
