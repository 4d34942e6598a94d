import Sidebar.Panel.Strategy
import Sidebar.Widget.Builder
/-!
# Assembling a panel

A session of building a panel through a `LayoutStrategy` (`crates/panelkit-widgets/src/layout.rs`)
with widgets from `WidgetBuilder` (`builder.rs`): `add`, `add_with_hint`, `add_all`, `add_gap`
and `add_separator` on the strategy, `set_text`, `set_enabled`, `on_text_change` and
`activate` on the widgets of its panel, and `build` and `get_panel` for handles on it.

An `Assembly` is a strategy being filled together with what its widgets did: the handle on its
panel taken when it was created, the number of widgets made so far, which numbers the next one,
and a `Tally` of the actions that buttons ran. Widgets are numbered from 1 in the order they are
made, and copies are all made before the first of them is added. Every addition is a call on the
strategy, and a widget changed in a slot is stored back through the strategy's own handle. Work
on a slot asks that the slot hold a widget; a change that fails leaves the assembly as it was,
except that a slot placed before an overflow stays placed.
-/

namespace Sidebar

/-- How many times each action ran, by counter name, in the order of first run. -/
structure Tally where
  counts : List (String × Nat) := []

namespace Tally

/-- How many times the counter was incremented. -/
def get (t : Tally) (name : String) : Nat := ((t.counts.lookup name).getD 0)

/-- The tally with the named counter one higher. -/
def bump (t : Tally) (name : String) : Tally :=
  match t.counts.lookup name with
  | some n => ⟨t.counts.map fun (k, v) => if k == name then (k, n + 1) else (k, v)⟩
  | none => ⟨t.counts ++ [(name, 1)]⟩

end Tally

/-- Why a change to an assembly failed. -/
inductive AssemblyFault where
  /-- A count did not fit in its word. -/
  | overflow (e : Overflow)
  /-- The slot does not exist or holds something other than a widget. -/
  | noWidget (slot : Nat)
  /-- Changes of a text started one another too deeply. -/
  | tooDeep

/-- A strategy being filled, the handle on its panel taken when it was created, the number of
widgets made and the actions run. -/
structure Assembly where
  strategy : Strategy
  early : Nat
  made : Nat := 0
  tally : Tally := {}

namespace Assembly

/-- A new strategy filling the layout's panel, with a handle on that panel taken at once. -/
def start (l : Layout) : Assembly :=
  { strategy := (Strategy.create l).getPanel.1, early := (Strategy.create l).getPanel.2 }

/-- The layout being filled, as the strategy's own handle reads it. A strategy whose handle
names no panel, which `Strategy.create` never makes, reads as an empty stack. -/
def layout (a : Assembly) : Layout := a.strategy.layout?.getD (Layout.stack 0 .none)

/-- The panel being filled. -/
def panel (a : Assembly) : Panel := a.layout.panel

/-- A new widget from a specification, with the next number. -/
def make (a : Assembly) (spec : WidgetSpec) : Assembly × Widget :=
  ({ a with made := a.made + 1 }, Widget.ofSpec (a.made + 1) spec)

/-- The assembly after a call on its strategy, with the overflow that stopped the call, if one
did. -/
def withCall (a : Assembly) (c : Strategy.Call) : Assembly × Option Overflow :=
  ({ a with strategy := (a.strategy.call c).1 }, (a.strategy.call c).2.2)

/-- The call that adds a widget, with the hint if there is one. -/
def addCall (w : Widget) : Option PlacementHint → Strategy.Call
  | none => .add w
  | some hint => .addWithHint w hint

/-- Makes `n` widgets from one specification, in order. -/
def makeCopies (a : Assembly) (spec : WidgetSpec) : Nat → Assembly × List Widget
  | 0 => (a, [])
  | n + 1 =>
    let (a, w) := a.make spec
    let (a, ws) := makeCopies a spec n
    (a, w :: ws)

/-- Makes a widget from each specification in order, up to the first that failed. -/
def makeEach {ε : Type} (a : Assembly) : List (Except ε WidgetSpec) → Assembly × Except ε (List Widget)
  | [] => (a, .ok [])
  | .error e :: _ => (a, .error e)
  | .ok spec :: rest =>
    let (a, w) := a.make spec
    match makeEach a rest with
    | (a, .ok ws) => (a, .ok (w :: ws))
    | (a, .error e) => (a, .error e)

/-- Adds widgets one call each, in order, with the hint, until one addition overflows. -/
def addWidgets (a : Assembly) (hint : Option PlacementHint) : List Widget → Assembly × Option Overflow
  | [] => (a, none)
  | w :: rest =>
    match a.withCall (addCall w hint) with
    | (a, none) => addWidgets a hint rest
    | (a, some e) => (a, some e)

/-- Makes `n` widgets from one specification, then adds them with the hint until one
addition overflows; every copy is made, whether or not it is added. -/
def addCopies (a : Assembly) (spec : WidgetSpec) (hint : Option PlacementHint) (n : Nat) :
    Assembly × Option Overflow :=
  let (a, ws) := a.makeCopies spec n
  a.addWidgets hint ws

/-- Makes a widget from each specification in order, then adds them all in one call, until one
addition overflows; a specification that failed stops the making and adds nothing. -/
def addAll {ε : Type} (a : Assembly) (specs : List (Except ε WidgetSpec)) :
    Assembly × Except ε (Option Overflow) :=
  match a.makeEach specs with
  | (a, .ok ws) =>
    let (a, e) := a.withCall (.addAll ws)
    (a, .ok e)
  | (a, .error e) => (a, .error e)

/-- Requests blank space of `size` pixels. -/
def addGap (a : Assembly) (size : UInt32) : Assembly × Option Overflow :=
  a.withCall (.addGap size)

/-- Appends a divider. -/
def addSeparator (a : Assembly) : Assembly × Option Overflow :=
  a.withCall .addSeparator

/-- The widget in a slot. -/
def widget (a : Assembly) (slot : Nat) : Except AssemblyFault Widget :=
  match a.panel.widgetAt? slot with
  | some w => .ok w
  | none => .error (.noWidget slot)

/-- The assembly with the widget in a slot replaced, through the strategy's own handle. -/
def putWidget (a : Assembly) (slot : Nat) (w : Widget) : Assembly :=
  let store (l : Layout) : Layout × Option Overflow :=
    ({ l with panel := l.panel.setWidget slot w }, none)
  { a with strategy := (a.strategy.apply store).1 }

/-- Sets the text of the widget in a slot; the entries its subscribers logged come with
it. -/
def setText (a : Assembly) (slot : Nat) (t : String) :
    Except AssemblyFault (Assembly × Array (String × String)) := do
  match (← a.widget slot).setText t with
  | some (w, log) => pure (a.putWidget slot w, log)
  | none => throw .tooDeep

/-- Enables or disables the widget in a slot. -/
def setEnabled (a : Assembly) (slot : Nat) (b : Bool) : Except AssemblyFault Assembly := do
  pure (a.putWidget slot ((← a.widget slot).setEnabled b))

/-- Subscribes to the text changes of the widget in a slot. -/
def subscribe (a : Assembly) (slot : Nat) (sub : Subscriber String) :
    Except AssemblyFault Assembly := do
  pure (a.putWidget slot ((← a.widget slot).onTextChange sub))

/-- Activates the widget in a slot, running its action if it has one; says whether one
ran. -/
def activate (a : Assembly) (slot : Nat) : Except AssemblyFault (Assembly × Bool) := do
  match (← a.widget slot).activate with
  | some act => pure ({ a with tally := a.tally.bump act.counter }, true)
  | none => pure (a, false)

/-- The numbers of the panel's widgets, in slot order. -/
def ids (a : Assembly) : List Nat := a.panel.widgets.map (·.id)

/-- Whether `build` and then `get_panel` hand out handles on one panel, the one the handle taken
at creation names. The handles are dropped after the comparison. -/
def samePanel (a : Assembly) : Bool :=
  match a.strategy.call .build with
  | (s, some built, _) =>
    match s.call .getPanel with
    | (s, some got, _) =>
      s.panels.sameCell? built got == some true && s.panels.sameCell? built a.early == some true
    | _ => false
  | _ => false

theorem made_makeCopies (a : Assembly) (s : WidgetSpec) (n : Nat) :
    (a.makeCopies s n).1.made = a.made + n := by
  induction n generalizing a with
  | zero => rfl
  | succ n ih =>
    simp only [makeCopies, make]
    rw [ih]
    simp only []
    omega

theorem length_makeCopies (a : Assembly) (s : WidgetSpec) (n : Nat) :
    (a.makeCopies s n).2.length = n := by
  induction n generalizing a with
  | zero => rfl
  | succ n ih =>
    simp only [makeCopies, make, List.length_cons]
    rw [ih]

end Assembly

end Sidebar
