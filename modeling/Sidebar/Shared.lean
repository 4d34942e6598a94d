/-!
# Shared cells

The cells shared by clones of `ConfigManager` (`crates/panelkit-core/src/config.rs`), `Signal`
(`state.rs`) and `PanelRef` (`crates/panelkit-widgets/src/layout.rs`), and their `ptr_eq`.

Several handles may share one value: `Shared α` holds cells of values and handles, each
naming one cell. A clone of a handle names the same cell, so a change through either is seen
through both; a fresh handle names a new cell of its own. Handles are numbered from 0 in the
order they were made.
-/

namespace Sidebar

/-- Cells of values and the handles that name them. -/
structure Shared (α : Type) where
  cells : Array α
  handles : Array Nat

namespace Shared

/-- One handle, numbered 0, on a cell holding `a`. -/
def start {α : Type} (a : α) : Shared α := ⟨#[a], #[0]⟩

/-- The cell a handle names. -/
def cellOf? {α : Type} (m : Shared α) (h : Nat) : Option Nat := m.handles[h]?

/-- The value seen through a handle. -/
def get? {α : Type} (m : Shared α) (h : Nat) : Option α := do
  let i ← m.cellOf? h
  m.cells[i]?

/-- Applies a change to the value a handle names. -/
def modify? {α : Type} (m : Shared α) (h : Nat) (f : α → α) : Option (Shared α) := do
  let i ← m.cellOf? h
  let a ← m.cells[i]?
  pure { m with cells := m.cells.set! i (f a) }

/-- A new handle naming the same cell as `h`, and its number. -/
def clone? {α : Type} (m : Shared α) (h : Nat) : Option (Shared α × Nat) := do
  let i ← m.cellOf? h
  pure ({ m with handles := m.handles.push i }, m.handles.size)

/-- A new handle on a new cell holding `a`, and its number. -/
def fresh {α : Type} (m : Shared α) (a : α) : Shared α × Nat :=
  (⟨m.cells.push a, m.handles.push m.cells.size⟩, m.handles.size)

/-- Whether two handles name the same cell. -/
def sameCell? {α : Type} (m : Shared α) (h k : Nat) : Option Bool := do
  let i ← m.cellOf? h
  let j ← m.cellOf? k
  pure (i == j)

/-- The value seen through every handle, in handle order. -/
def values {α : Type} (m : Shared α) : List α :=
  m.handles.toList.filterMap fun i => m.cells[i]?

end Shared

end Sidebar
