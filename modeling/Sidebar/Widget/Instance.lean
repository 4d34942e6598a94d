import Sidebar.Widget.Spec
import Sidebar.Widget.Markup
import Sidebar.Signal
/-!
# Widgets

`Widget` in `crates/panelkit-widgets/src/widget.rs`: `from_spec`, `text`, `set_text`,
`on_text_change`, `set_enabled`, and the action of a button (`on_click`, `builder.rs`).

A `Widget` is made from a specification and keeps it unchanged. Its text and its enabled
state start from the specification and then change on their own; changes of the text are
announced to the subscribers of its text signal. Each widget carries a number that tells it
apart from every other widget made before it.
-/

namespace Sidebar

/-- A widget: its number, the specification it was made from, and its current text and
enabled state. -/
structure Widget where
  id : Nat
  spec : WidgetSpec
  text : Signal String
  enabled : Bool

namespace Widget

/-- A new widget with number `id`, with the text and enabled state of `spec`. -/
def ofSpec (id : Nat) (spec : WidgetSpec) : Widget :=
  { id, spec, text := { value := spec.look.text }, enabled := spec.look.enabled }

/-- The kind of the widget. -/
def kind (w : Widget) : WidgetKind := w.spec.kind

/-- The text the widget shows now. -/
def currentText (w : Widget) : String := w.text.value

/-- Sets the text and runs its subscribers; the entries they logged come with the widget.
`none` when the changes they start nest too deeply. -/
def setText (w : Widget) (t : String) : Option (Widget × Array (String × String)) :=
  (w.text.set t).map fun r => ({ w with text := r.signal }, r.log)

/-- Adds a subscriber to the changes of the text. -/
def onTextChange (w : Widget) (sub : Subscriber String) : Widget :=
  { w with text := w.text.subscribe sub }

/-- Enables or disables the widget. -/
def setEnabled (w : Widget) (b : Bool) : Widget := { w with enabled := b }

/-- The action that activating the widget runs: only an enabled button with an action has
one. -/
def activate (w : Widget) : Option Action :=
  match w.spec.kindSpec with
  | .button (some a) => if w.enabled then some a else none
  | _ => none

/-- A call made on a widget. -/
inductive Call where
  | setText (t : String)
  | setEnabled (b : Bool)
  | onTextChange (sub : Subscriber String)
  | activate

/-- Makes a call: the widget after it, the entries its text subscribers logged, and the action
it ran, if it ran one; `none` when the text changes it starts nest too deeply. -/
def call (w : Widget) : Call → Option (Widget × Array (String × String) × Option Action)
  | .setText t => (w.setText t).map fun (w', log) => (w', log, none)
  | .setEnabled b => some (w.setEnabled b, #[], none)
  | .onTextChange sub => some (w.onTextChange sub, #[], none)
  | .activate => some (w, #[], w.activate)

/-- The document a rich text block shows: its markup, or its current text when it has no
markup. Other kinds show none. -/
def markup (w : Widget) : Option String :=
  match w.spec.kindSpec with
  | .richText r => some (Markup.document (if r.html.isEmpty then w.currentText else r.html))
  | _ => none

/-- The font of the widget's role in a typography. -/
def resolvedFont (w : Widget) (t : Typography) : FontSpec := t.resolve w.spec.look.font

@[simp] theorem currentText_ofSpec (id : Nat) (s : WidgetSpec) :
    (ofSpec id s).currentText = s.look.text := rfl

theorem activate_eq_some {w : Widget} {a : Action} :
    w.activate = some a ↔ w.spec.kindSpec = .button (some a) ∧ w.enabled = true := by
  unfold activate
  split <;> simp_all [and_comm]

end Widget

end Sidebar
