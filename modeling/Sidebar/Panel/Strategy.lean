import Sidebar.Panel.Layout
import Sidebar.Shared
/-!
# Strategies and the panels they hand out

`LayoutStrategy` (`build`, `get_panel`, `add_all`) and `PanelRef` in
`crates/panelkit-widgets/src/layout.rs`, with the impls of `grid.rs` and `stack.rs`.

A strategy owns one panel from its creation on and never hands out a copy of it: `build` and
`getPanel` return a new handle on that same panel, so a panel read through a handle taken early
shows every slot appended since. The panels live in a `Shared` store; the strategy fills its
own through the handle it was created with and keeps to itself whether its grid has grown past
the declared rows.

Each appending call runs one step of the strategy's `Layout` on the panel behind its handle and
stores the panel back. An overflow of a grid's growth check stops the call that made it and
every call after it; the slot placed before the check stays.
-/

namespace Sidebar

/-- A layout strategy: the store of panels that handles name, the handle of the panel it fills,
and whether its grid has grown past the declared rows. -/
structure Strategy where
  panels : Shared Panel
  own : Nat
  grewPastRows : Bool := false

namespace Strategy

/-- A call a consumer makes on a strategy. -/
inductive Call where
  /-- Appends a widget. -/
  | add (w : Widget)
  /-- Appends a widget with a placement hint the strategy may use. -/
  | addWithHint (w : Widget) (hint : PlacementHint)
  /-- Appends several widgets in order. -/
  | addAll (ws : List Widget)
  /-- Requests blank space of `size` pixels. -/
  | addGap (size : UInt32)
  /-- Appends a divider. -/
  | addSeparator
  /-- Finishes assembling; hands out the panel as `getPanel` does. -/
  | build
  /-- Hands out the panel being assembled. -/
  | getPanel

/-- A strategy filling the layout's panel, behind the first handle of a new store. -/
def create (l : Layout) : Strategy :=
  { panels := Shared.start l.panel, own := 0, grewPastRows := l.grewPastRows }

/-- The layout being filled, read through the strategy's own handle. -/
def layout? (s : Strategy) : Option Layout :=
  (s.panels.get? s.own).map fun panel => { panel, grewPastRows := s.grewPastRows }

/-- Runs a step of the layout on the strategy's panel and stores the panel back through the
strategy's handle. A strategy whose handle names no panel (`create` makes none) is left as it
is. -/
def apply (s : Strategy) (step : Layout → Layout × Option Overflow) :
    Strategy × Option Overflow :=
  match s.layout? with
  | none => (s, none)
  | some l =>
    let r := step l
    ({ s with panels := (s.panels.modify? s.own fun _ => r.1.panel).getD s.panels,
              grewPastRows := r.1.grewPastRows }, r.2)

/-- Appends the widgets in order, until one addition overflows. -/
def addAll (s : Strategy) : List Widget → Strategy × Option Overflow
  | [] => (s, none)
  | w :: ws =>
    match s.apply (·.add w none) with
    | (s, none) => addAll s ws
    | (s, some e) => (s, some e)

/-- A new handle on the strategy's panel, and its number. -/
def getPanel (s : Strategy) : Strategy × Nat :=
  match s.panels.clone? s.own with
  | some (panels, h) => ({ s with panels }, h)
  | none => (s, s.own)

/-- The outcome of a call that appends: it returns no handle. -/
def placed (r : Strategy × Option Overflow) : Strategy × Option Nat × Option Overflow :=
  (r.1, none, r.2)

/-- Makes a call: the strategy after it, the handle it returned if it returns one, and the
overflow that stopped it, if one did. -/
def call (s : Strategy) : Call → Strategy × Option Nat × Option Overflow
  | .add w => placed (s.apply (·.add w none))
  | .addWithHint w hint => placed (s.apply (·.add w (some hint)))
  | .addAll ws => placed (s.addAll ws)
  | .addGap size => placed (s.apply (·.addGap size))
  | .addSeparator => placed (s.apply Layout.addSeparator)
  | .build | .getPanel => (s.getPanel.1, some s.getPanel.2, none)

/-- Makes the calls in order until one overflows: the strategy after them, the handles they
returned, in order, and the overflow that stopped them, if one did. -/
def run (s : Strategy) : List Call → Strategy × List Nat × Option Overflow
  | [] => (s, [], none)
  | c :: cs =>
    match s.call c with
    | (s, h, none) =>
      let r := s.run cs
      (r.1, h.toList ++ r.2.1, r.2.2)
    | (s, h, some e) => (s, h.toList, some e)

end Strategy

end Sidebar
