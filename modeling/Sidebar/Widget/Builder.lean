import Sidebar.Widget.Spec
import Sidebar.Config.Basic
/-!
# Building widget specifications

`WidgetBuilder` and its setters in `crates/panelkit-widgets/src/builder.rs`.

A specification is built from the blank one of its kind by setters applied in order; a later
setter of a field replaces an earlier one. The setters of `Appearance` exist for every kind;
the others exist for one kind only (`Setter.availableFor`), and `WidgetSpec.set?` gives `none`
for a setter that the specification's kind does not have. A chain of builder calls is
`WidgetSpec.setAll?`, from the blank specification of the builder's kind.
-/

namespace Sidebar

/-- One change to a specification under construction. -/
inductive Setter where
  | text (s : String)
  | font (role : FontRole)
  | color (c : Color)
  | align (a : Alignment)
  | size (width height : UInt32)
  | enabled (b : Bool)
  | tooltip (s : String)
  /-- Buttons: the action run on activation. -/
  | onClick (action : Action)
  /-- Text fields: the text shown while empty. -/
  | placeholder (s : String)
  /-- Text fields: the preferred width in character columns. -/
  | columns (n : UInt64)
  /-- Text fields: whether the text can be edited. -/
  | editable (b : Bool)
  /-- Panels: the background colour. -/
  | background (c : Color)
  /-- Panels: the padding inside the panel. -/
  | padding (i : Insets)
  /-- Rich text: the markup shown. -/
  | html (s : String)
  /-- Rich text: the number of lines shown before scrolling. -/
  | visibleLines (n : UInt64)
  /-- Rich text: whether lines wrap. -/
  | wrap (b : Bool)
  deriving Repr

namespace Setter

/-- The kind whose builder alone has the setter; `none` for the setters every kind has. -/
def kind? : Setter → Option WidgetKind
  | .onClick _ => some .button
  | .placeholder _ | .columns _ | .editable _ => some .textField
  | .background _ | .padding _ => some .panel
  | .html _ | .visibleLines _ | .wrap _ => some .richText
  | .text _ | .font _ | .color _ | .align _ | .size .. | .enabled _ | .tooltip _ => none

/-- Whether the builder of kind `k` has the setter. -/
def availableFor (x : Setter) (k : WidgetKind) : Bool := x.kind?.all (· == k)

end Setter

namespace WidgetSpec

/-- The specification after one setter, or `none` when its kind has no such setter. -/
def set? (s : WidgetSpec) : Setter → Option WidgetSpec
  | .text t => some { s with look.text := t }
  | .font r => some { s with look.font := r }
  | .color c => some { s with look.color := c }
  | .align a => some { s with look.alignment := a }
  | .size w h => some { s with look.size := some ⟨w, h⟩ }
  | .enabled b => some { s with look.enabled := b }
  | .tooltip t => some { s with look.tooltip := some t }
  | .onClick a =>
    match s.kindSpec with
    | .button _ => some { s with kindSpec := .button (some a) }
    | _ => none
  | .placeholder p =>
    match s.kindSpec with
    | .textField f => some { s with kindSpec := .textField { f with placeholder := p } }
    | _ => none
  | .columns n =>
    match s.kindSpec with
    | .textField f => some { s with kindSpec := .textField { f with columns := n } }
    | _ => none
  | .editable b =>
    match s.kindSpec with
    | .textField f => some { s with kindSpec := .textField { f with editable := b } }
    | _ => none
  | .background c =>
    match s.kindSpec with
    | .panel p => some { s with kindSpec := .panel { p with background := some c } }
    | _ => none
  | .padding i =>
    match s.kindSpec with
    | .panel p => some { s with kindSpec := .panel { p with padding := i } }
    | _ => none
  | .html t =>
    match s.kindSpec with
    | .richText r => some { s with kindSpec := .richText { r with html := t } }
    | _ => none
  | .visibleLines n =>
    match s.kindSpec with
    | .richText r => some { s with kindSpec := .richText { r with visibleLines := some n } }
    | _ => none
  | .wrap b =>
    match s.kindSpec with
    | .richText r => some { s with kindSpec := .richText { r with wrap := b } }
    | _ => none

/-- No setter changes the kind of a specification. -/
theorem kind_set? {s t : WidgetSpec} {x : Setter} (h : s.set? x = some t) : t.kind = s.kind := by
  cases x <;> simp only [set?] at h <;> (try split at h) <;> cases h <;>
    simp_all [kind, KindSpec.kind]

/-- The specification after the setters in order, as a chain of builder calls leaves it;
`none` when one of them is not a setter of its kind. -/
def setAll? (s : WidgetSpec) : List Setter → Option WidgetSpec
  | [] => some s
  | x :: xs => (s.set? x).bind (·.setAll? xs)

/-- A rich text block that shows the number of lines the configuration gives. -/
def richTextFor (c : Config) : WidgetSpec :=
  { kindSpec := .richText { visibleLines := some c.richText.visibleLines } }

end WidgetSpec

end Sidebar
