import Sidebar.Panel.Basic
import Sidebar.Config.Basic
/-!
# Layouts

`GridLayoutBuilder` and the appending of `GridLayoutStrategy`
(`crates/panelkit-widgets/src/grid.rs`) and of `VerticalStackStrategy` (`stack.rs`).

A `Layout` owns one panel from its creation on and appends widgets, gaps and separators to
it in call order.

- A grid drops placement hints, turns every gap into one filler cell whatever its size, and
  watches for the first time its slots outgrow the declared `rows × columns`. That product is
  taken in 64 bits after each slot is appended, as long as no growth has been seen; a product
  that does not fit is an `Overflow`, and the slot stays appended.
- A stack keeps hints and turns a gap into a spacer of exactly its size.

`GridShape` collects the settings of a grid before it is made: without a border the grid is
padded on every side by the shape's default padding.
-/

namespace Sidebar

/-- A panel being assembled, with whether the grid's growth past its declared rows has been
seen. -/
structure Layout where
  panel : Panel
  grewPastRows : Bool := false

namespace Layout

/-- Whether `len` slots are more than the declared `rows × columns` of a grid; only a grid
with both counts declared is checked. -/
def outgrows (rows columns : UInt64) (len : Nat) : Except Overflow Bool :=
  if 0 < rows && 0 < columns then
    (Checked.mul64 rows columns).map fun capacity => capacity.toNat < len
  else pure false

/-- Appends a slot, then checks a grid for growth past its declared rows. -/
def place (l : Layout) (cell : Cell) (hint : Option PlacementHint) : Layout × Option Overflow :=
  match l.panel.arrangement with
  | .stack _ => ({ l with panel := l.panel.push cell hint }, none)
  | .grid rows columns _ _ =>
    let panel := l.panel.push cell none
    if l.grewPastRows then ({ l with panel }, none)
    else
      match outgrows rows columns panel.len with
      | .error e => ({ l with panel }, some e)
      | .ok grew => ({ panel, grewPastRows := grew }, none)

/-- Appends a widget with an optional placement hint. -/
def add (l : Layout) (w : Widget) (hint : Option PlacementHint) : Layout × Option Overflow :=
  l.place (.widget w) hint

/-- Requests blank space of `size` pixels. -/
def addGap (l : Layout) (size : UInt32) : Layout × Option Overflow :=
  match l.panel.arrangement with
  | .grid .. => l.place .filler none
  | .stack _ => l.place (.spacer size) none

/-- Appends a divider. -/
def addSeparator (l : Layout) : Layout × Option Overflow := l.place .separator none

/-- How faithfully the layout keeps requested gap sizes. -/
def gapFidelity (l : Layout) : GapFidelity := l.panel.arrangement.gapFidelity

/-- A stack with the given spacing and border. -/
def stack (spacing : UInt32) (border : Border) : Layout :=
  { panel := { arrangement := .stack spacing, border } }

/-- A stack with the given spacing and a padding of 10 on every side. -/
def stackSpaced (spacing : UInt32) : Layout := stack spacing (.padding (Insets.all 10))

/-- Placing a slot appends exactly one, whatever else happens. -/
@[simp] theorem len_place (l : Layout) (c : Cell) (h : Option PlacementHint) :
    (l.place c h).1.panel.len = l.panel.len + 1 := by
  unfold place
  split
  · simp
  · dsimp only
    split
    · simp
    · split <;> simp

end Layout

/-- The settings of a grid before it is made. -/
structure GridShape where
  rows : UInt64 := 0
  columns : UInt64 := 3
  horizontalGap : UInt32 := 5
  verticalGap : UInt32 := 5
  border : Option Border := none
  defaultPadding : UInt32 := 10


namespace GridShape

/-- The grid's layout, padded by the default padding when no border was given. -/
def build (g : GridShape) : Layout :=
  { panel := { arrangement := .grid g.rows g.columns g.horizontalGap g.verticalGap,
               border := g.border.getD (.padding (Insets.all g.defaultPadding)) } }

/-- A grid of the given rows and columns with the default gaps and padding. -/
def sized (rows columns : UInt64) : GridShape := { rows, columns }

/-- A grid of the given rows whose columns, gaps and padding come from the configuration. -/
def ofConfig (c : Config) (rows : UInt64) : GridShape :=
  { rows, columns := c.grid.columns, horizontalGap := c.grid.horizontalGap,
    verticalGap := c.grid.verticalGap, defaultPadding := c.grid.padding }

end GridShape

end Sidebar
