import Sidebar.Widget.Instance
import Sidebar.Border
import Sidebar.Overflow
/-!
# Panels

`PlacementHint`, `GapFidelity`, `Cell`, `Slot`, `LayoutKind` and `Panel` with its queries in
`crates/panelkit-widgets/src/layout.rs`.

A `Panel` is a sequence of slots inside a border, arranged as a grid or as a vertical stack.
A slot holds a widget, a separator, a filler cell of the grid's cell size or a spacer of an
exact height, and may carry a placement hint.

A grid places its slots row by row. It has the declared number of columns; with none
declared, the declared rows decide how wide it gets (`⌈len / rows⌉`, at least one), and with
neither it is one column wide. It never has fewer rows than declared and grows past them as
slots are added. A stack has one column and a row per slot.
-/

namespace Sidebar

/-- How a slot asks to be placed across the available width. -/
inductive PlacementHint where
  | align (a : Alignment)
  /-- Stretch across the available width. -/
  | fill
  deriving DecidableEq, Repr

/-- What a slot holds. -/
inductive Cell where
  | widget (w : Widget)
  /-- A visual divider. -/
  | separator
  /-- A blank cell of the grid's uniform cell size. -/
  | filler
  /-- Blank space of an exact height in pixels. -/
  | spacer (height : UInt32)

/-- One entry of a panel. -/
structure Slot where
  cell : Cell
  hint : Option PlacementHint := none

/-- How the slots of a panel are arranged. -/
inductive Arrangement where
  /-- A grid with declared rows and columns (0 for either lets it be derived) and the gaps
  between columns and between rows. -/
  | grid (rows columns : UInt64) (horizontalGap verticalGap : UInt32)
  /-- A vertical stack with fixed spacing between consecutive slots. -/
  | stack (spacing : UInt32)
  deriving DecidableEq, Repr

/-- How faithfully an arrangement keeps the size of a requested gap. -/
inductive GapFidelity where
  /-- A gap takes exactly the requested number of pixels. -/
  | exact
  /-- A gap becomes one blank cell, whatever its requested size. -/
  | singleCell
  deriving DecidableEq, Repr

/-- The gap fidelity of an arrangement: a grid has cells of one size only. -/
def Arrangement.gapFidelity : Arrangement → GapFidelity
  | .grid .. => .singleCell
  | .stack _ => .exact

/-- The rounded-up quotient of two numbers. -/
def divCeil (a b : Nat) : Nat := (a + b - 1) / b

/-- A container of placed widgets. -/
structure Panel where
  arrangement : Arrangement
  border : Border
  slots : Array Slot := #[]

namespace Panel

/-- The panel with one more slot at the end. -/
def push (p : Panel) (cell : Cell) (hint : Option PlacementHint) : Panel :=
  { p with slots := p.slots.push ⟨cell, hint⟩ }

/-- The number of slots, fillers, spacers and separators included. -/
def len (p : Panel) : Nat := p.slots.size

/-- Whether the panel has no slot. -/
def isEmpty (p : Panel) : Bool := p.slots.isEmpty

/-- The widgets in slot order. -/
def widgets (p : Panel) : List Widget :=
  p.slots.toList.filterMap fun s => match s.cell with
    | .widget w => some w
    | _ => none

/-- The number of slots holding a widget. -/
def widgetCount (p : Panel) : Nat := p.widgets.length

/-- The number of filler cells. -/
def fillerCount (p : Panel) : Nat :=
  p.slots.toList.countP fun s => match s.cell with
    | .filler => true
    | _ => false

/-- The number of separators. -/
def separatorCount (p : Panel) : Nat :=
  p.slots.toList.countP fun s => match s.cell with
    | .separator => true
    | _ => false

/-- The widget in slot `i`, if that slot holds one. -/
def widgetAt? (p : Panel) (i : Nat) : Option Widget :=
  match p.slots[i]? with
  | some ⟨.widget w, _⟩ => some w
  | _ => none

/-- The panel with the widget in slot `i` replaced; the slot keeps its hint. -/
def setWidget (p : Panel) (i : Nat) (w : Widget) : Panel :=
  { p with slots := p.slots.modify i fun s => { s with cell := .widget w } }

/-- The slot of the first widget whose current text is `t`. -/
def findText? (p : Panel) (t : String) : Option Nat :=
  p.slots.toList.findIdx? fun s => match s.cell with
    | .widget w => w.currentText == t
    | _ => false

/-- The total height of the spacers, summed in slot order in 32 bits. -/
def spacerHeight (p : Panel) : Except Overflow UInt32 :=
  Checked.sum32 (p.slots.toList.map fun s => match s.cell with
    | .spacer h => h
    | _ => 0)

/-- The columns the arrangement uses. -/
def effectiveColumns (p : Panel) : Nat :=
  match p.arrangement with
  | .grid rows columns _ _ =>
    if 0 < columns.toNat then columns.toNat
    else if 0 < rows.toNat then max (divCeil p.len rows.toNat) 1
    else 1
  | .stack _ => 1

/-- The rows the arrangement uses: at least the declared rows of a grid and as many as its
slots need; one per slot in a stack. -/
def effectiveRows (p : Panel) : Nat :=
  match p.arrangement with
  | .grid rows _ _ _ => max (divCeil p.len p.effectiveColumns) rows.toNat
  | .stack _ => p.len

/-- The row and column of slot `i`, if there is such a slot. -/
def gridPosition? (p : Panel) (i : Nat) : Option (Nat × Nat) :=
  if i < p.len then some (i / p.effectiveColumns, i % p.effectiveColumns) else none

theorem effectiveColumns_pos (p : Panel) : 0 < p.effectiveColumns := by
  unfold effectiveColumns
  split
  · split
    · assumption
    · split <;> omega
  · exact Nat.one_pos

@[simp] theorem len_push (p : Panel) (c : Cell) (h : Option PlacementHint) :
    (p.push c h).len = p.len + 1 := by
  simp [push, len]

end Panel

end Sidebar
