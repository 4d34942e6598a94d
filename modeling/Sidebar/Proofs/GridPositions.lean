import Sidebar.Panel.Basic
/-!
# Where the slots of a panel sit

`Panel::grid_position` and `Panel::effective_columns` in `crates/panelkit-widgets/src/layout.rs`.

Every panel has at least one effective column, so no query about it divides by zero, whatever
rows and columns a grid declares and however many slots it holds. The slot at index `i` sits
at row `i / columns` and column `i % columns` of the effective grid: the slots fill it row by
row, each inside the `effectiveRows × effectiveColumns` rectangle and no two in one cell
(`gridPosition?_row_major`). An index past the last slot has no position. On a stack the
columns are one and the slot at `i` sits at `(i, 0)`.

The one fact the bound on rows needs is that an index below `n` divided by `b` stays below
`n` divided by `b` rounded up (`div_lt_divCeil`); the grid takes the larger of that and its
declared rows, the stack has a row per slot.
-/

namespace Sidebar

/-- An index below `n`, divided by `b`, stays below `n / b` rounded up. -/
theorem div_lt_divCeil {i n b : Nat} (hi : i < n) (hb : 0 < b) : i / b < divCeil n b := by
  unfold divCeil
  calc i / b < i / b + 1 := Nat.lt_succ_self _
    _ = (i + b) / b := (Nat.add_div_right i hb).symm
    _ ≤ (n + b - 1) / b := Nat.div_le_div_right (by omega)

namespace Panel

variable (p : Panel)

theorem gridPosition?_of_lt {i : Nat} (hi : i < p.len) :
    p.gridPosition? i = some (i / p.effectiveColumns, i % p.effectiveColumns) := by
  simp [gridPosition?, hi]

theorem gridPosition?_eq_none_iff {i : Nat} : p.gridPosition? i = none ↔ p.len ≤ i := by
  unfold gridPosition?
  split
  · rename_i hi
    simp only [reduceCtorEq, false_iff]
    omega
  · rename_i hi
    simp only [true_iff]
    omega

/-- A position read back: slot `i` exists, and its row and column are the quotient and the
remainder of `i` by the effective columns. -/
theorem gridPosition?_eq_some_iff {i r c : Nat} :
    p.gridPosition? i = some (r, c) ↔
      i < p.len ∧ r = i / p.effectiveColumns ∧ c = i % p.effectiveColumns := by
  unfold gridPosition?
  split
  · rename_i hi
    simp only [Option.some.injEq, Prod.mk.injEq, hi, true_and]
    exact ⟨fun h => ⟨h.1.symm, h.2.symm⟩, fun h => ⟨h.1.symm, h.2.symm⟩⟩
  · rename_i hi
    simp only [reduceCtorEq, false_iff]
    exact fun h => hi h.1

/-- The row of every slot lies inside the effective rows. -/
theorem div_lt_effectiveRows {i : Nat} (hi : i < p.len) :
    i / p.effectiveColumns < p.effectiveRows := by
  have hrow := div_lt_divCeil hi p.effectiveColumns_pos
  unfold effectiveRows
  split
  · exact Nat.lt_of_lt_of_le hrow (Nat.le_max_left _ _)
  · rename_i spacing harr
    have hcols : p.effectiveColumns = 1 := by simp [effectiveColumns, harr]
    rw [hcols, Nat.div_one]
    exact hi

/-- **Slots fill the effective grid row by row.** Every panel has a positive number of
effective columns. An index has a position exactly when a slot is there; the position `(r, c)`
of slot `i` satisfies `r * columns + c = i` with `c` below the effective columns and `r` below
the effective rows, so two slots never share a cell; on a stack the slot at `i` sits at
`(i, 0)`. -/
theorem gridPosition?_row_major :
    0 < p.effectiveColumns ∧
    (∀ i, (p.gridPosition? i = none ↔ p.len ≤ i) ∧
      ∀ r c, p.gridPosition? i = some (r, c) →
        r * p.effectiveColumns + c = i ∧ c < p.effectiveColumns ∧ r < p.effectiveRows) ∧
    (∀ i j x, p.gridPosition? i = some x → p.gridPosition? j = some x → i = j) ∧
    (∀ spacing, p.arrangement = .stack spacing →
      ∀ i < p.len, p.gridPosition? i = some (i, 0)) := by
  have hpos := p.effectiveColumns_pos
  refine ⟨hpos, fun i => ⟨p.gridPosition?_eq_none_iff, fun r c h => ?_⟩, ?_, ?_⟩
  · obtain ⟨hi, rfl, rfl⟩ := p.gridPosition?_eq_some_iff.1 h
    exact ⟨Nat.div_add_mod' i _, Nat.mod_lt i hpos, p.div_lt_effectiveRows hi⟩
  · rintro i j ⟨r, c⟩ hi hj
    obtain ⟨-, hri, hci⟩ := p.gridPosition?_eq_some_iff.1 hi
    obtain ⟨-, hrj, hcj⟩ := p.gridPosition?_eq_some_iff.1 hj
    -- both indices are `r * columns + c`
    calc i = i / p.effectiveColumns * p.effectiveColumns + i % p.effectiveColumns :=
          (Nat.div_add_mod' i _).symm
      _ = j / p.effectiveColumns * p.effectiveColumns + j % p.effectiveColumns := by
          rw [← hri, ← hci, hrj, hcj]
      _ = j := Nat.div_add_mod' j _
  · intro spacing harr i hi
    have hcols : p.effectiveColumns = 1 := by simp [effectiveColumns, harr]
    rw [p.gridPosition?_of_lt hi, hcols, Nat.div_one, Nat.mod_one]

end Panel

end Sidebar
