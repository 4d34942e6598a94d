import Sidebar.Shared
/-!
# Laws of shared cells

The cells shared by clones of `ConfigManager`, `Signal` and `PanelRef`, and their `ptr_eq`.

Handles that name one cell read one value. A change made through a handle that reads a value
succeeds, leaves every handle on its cell and is seen through every handle naming that cell; a
clone of such a handle succeeds, becomes the next handle and names the same cell, and leaves the
cells and the other handles as they were. Two handles name one cell exactly when `sameCell?`
says `true`.
-/

namespace Sidebar
namespace Shared

variable {α : Type} {m m' : Shared α} {j k : Nat} {a : α}

/-- Handles naming one cell of stores with the same cells read one value. -/
theorem get?_eq_of_cellOf?_eq (hc : m'.cells = m.cells) (hj : m'.cellOf? j = m.cellOf? k) :
    m'.get? j = m.get? k := by
  simp only [get?, hj, hc]

/-- A handle that reads a value names the cell holding it. -/
theorem cellOf?_of_get? (hk : m.get? k = some a) :
    ∃ i, m.cellOf? k = some i ∧ m.cells[i]? = some a := by
  simpa only [get?, Option.bind_eq_bind, Option.bind_eq_some_iff] using hk

/-- `sameCell?` says `true` exactly when both handles name one cell. -/
theorem sameCell?_eq_true_iff :
    m.sameCell? j k = some true ↔ ∃ i, m.cellOf? j = some i ∧ m.cellOf? k = some i := by
  unfold sameCell?
  cases m.cellOf? j with
  | none => simp
  | some i =>
    cases m.cellOf? k with
    | none => simp
    | some i' =>
      simp only [Option.bind_eq_bind, Option.bind_some, Option.pure_def, Option.some.injEq,
        beq_iff_eq, exists_eq_left']
      exact eq_comm

/-- A handle naming the cell of a handle that reads a value is the same cell for `sameCell?`. -/
theorem sameCell?_of_cellOf?_eq (hj : m.cellOf? j = m.cellOf? k) (hk : m.get? k = some a) :
    m.sameCell? j k = some true := by
  obtain ⟨i, hi, -⟩ := cellOf?_of_get? hk
  exact sameCell?_eq_true_iff.2 ⟨i, hj.trans hi, hi⟩

/-- Handles that `sameCell?` pairs name one cell. -/
theorem cellOf?_eq_of_sameCell? (h : m.sameCell? j k = some true) : m.cellOf? j = m.cellOf? k := by
  obtain ⟨i, hj, hk⟩ := sameCell?_eq_true_iff.1 h
  rw [hj, hk]

/-- **A change through a handle is seen through that handle.** Changing the value that a handle
reads succeeds, leaves every handle on its cell, and the handle then reads the changed value. -/
theorem modify?_of_get? (hk : m.get? k = some a) (f : α → α) :
    ∃ m', m.modify? k f = some m' ∧ m'.handles = m.handles ∧ m'.get? k = some (f a) := by
  obtain ⟨i, hi, ha⟩ := cellOf?_of_get? hk
  have hlt : i < m.cells.size := (Array.getElem?_eq_some_iff.1 ha).1
  refine ⟨{ m with cells := m.cells.set! i (f a) }, ?_, rfl, ?_⟩
  · simp only [modify?, hi, ha, Option.bind_eq_bind, Option.bind_some, Option.pure_def]
  · simp only [get?, cellOf?] at hi ⊢
    simp [hi, Array.getElem?_setIfInBounds_self_of_lt hlt]

/-- **A clone names the cell of the handle it was made from.** Cloning a handle that reads a value
succeeds and gives the next handle; the cells stay, and every older handle keeps its cell. -/
theorem clone?_of_get? (hk : m.get? k = some a) :
    ∃ m', m.clone? k = some (m', m.handles.size) ∧ m'.cells = m.cells ∧
      m'.cellOf? m.handles.size = m.cellOf? k ∧
      ∀ j i, m.cellOf? j = some i → m'.cellOf? j = some i := by
  obtain ⟨i, hi, -⟩ := cellOf?_of_get? hk
  refine ⟨{ m with handles := m.handles.push i }, ?_, rfl, ?_, fun j i' hj => ?_⟩
  · simp only [clone?, hi, Option.bind_eq_bind, Option.bind_some, Option.pure_def]
  · simp only [cellOf?] at hi ⊢
    rw [hi, Array.getElem?_push_size]
  · simp only [cellOf?] at hj ⊢
    have hlt : j < m.handles.size := (Array.getElem?_eq_some_iff.1 hj).1
    rw [Array.getElem?_push_lt hlt, ← hj, Array.getElem?_eq_getElem hlt]

/-- **A change through a handle is seen through every handle naming its cell, and through no
other.** The handles and the number of cells stay; a handle reads the changed value exactly when
it names the cell of the handle changed through. -/
theorem get?_modify? {f : α → α} (hm : m.modify? k f = some m') (j : Nat) :
    m'.handles = m.handles ∧ m'.cells.size = m.cells.size ∧
      m'.get? j = if m.cellOf? j = m.cellOf? k then (m.get? j).map f else m.get? j := by
  simp only [modify?, Option.bind_eq_bind, Option.bind_eq_some_iff, Option.pure_def,
    Option.some.injEq] at hm
  obtain ⟨i, hi, b, hb, rfl⟩ := hm
  have hlt : i < m.cells.size := (Array.getElem?_eq_some_iff.1 hb).1
  refine ⟨rfl, by simp, ?_⟩
  show ((m.cellOf? j).bind fun i' => (m.cells.set! i (f b))[i']?) = _
  simp only [get?, hi]
  cases hj : m.cellOf? j with
  | none => simp
  | some i' =>
    by_cases hii : i = i'
    · subst hii
      have hb' : m.cells[i] = b := by simpa [Array.getElem?_eq_getElem hlt] using hb
      simp [hb', hlt]
    · have hne : some i' ≠ some i := fun h => hii (Option.some.inj h).symm
      simp [hne, Array.getElem?_setIfInBounds, hii]

/-- A handle that reads nothing cannot be changed through. -/
theorem modify?_eq_none (hk : m.get? k = none) (f : α → α) : m.modify? k f = none := by
  simp only [get?, Option.bind_eq_bind, Option.bind_eq_none_iff] at hk
  simp only [modify?, Option.bind_eq_bind, Option.bind_eq_none_iff, Option.pure_def,
    reduceCtorEq, imp_false]
  intro i hi a ha
  exact absurd ha (by simp [hk i hi])

/-- A clone names the cell of its source, as the next handle; the cells and the older handles
stay. -/
theorem cellOf?_clone? {n : Nat} (hm : m.clone? k = some (m', n)) (j : Nat) :
    m'.cells = m.cells ∧ n = m.handles.size ∧
      m'.cellOf? j = if j = m.handles.size then m.cellOf? k else m.cellOf? j := by
  simp only [clone?, Option.bind_eq_bind, Option.bind_eq_some_iff, Option.pure_def,
    Option.some.injEq, Prod.mk.injEq] at hm
  obtain ⟨i, hi, rfl, rfl⟩ := hm
  refine ⟨rfl, rfl, ?_⟩
  simp only [cellOf?] at hi ⊢
  rw [Array.getElem?_push]
  split <;> simp [hi]

/-- A clone adds one handle. -/
theorem size_handles_clone? {n : Nat} (hm : m.clone? k = some (m', n)) :
    m'.handles.size = m.handles.size + 1 := by
  simp only [clone?, Option.bind_eq_bind, Option.bind_eq_some_iff, Option.pure_def,
    Option.some.injEq, Prod.mk.injEq] at hm
  obtain ⟨i, -, rfl, -⟩ := hm
  simp

/-- A handle that names no cell has no clone. -/
theorem clone?_eq_none (hk : m.cellOf? k = none) : m.clone? k = none := by
  simp [clone?, hk]

/-- A fresh handle is the next handle and names a new cell, the next one; every other handle
keeps its cell. -/
theorem cellOf?_fresh (a : α) (j : Nat) :
    (m.fresh a).2 = m.handles.size ∧ (m.fresh a).1.cells = m.cells.push a ∧
      (m.fresh a).1.cellOf? j = if j = m.handles.size then some m.cells.size else m.cellOf? j := by
  simp [fresh, cellOf?, Array.getElem?_push]

/-- Where every handle names a cell that exists, a fresh handle reads its value and every other
handle reads what it read. -/
theorem get?_fresh (hcells : ∀ j i, m.cellOf? j = some i → i < m.cells.size) (a : α) (j : Nat) :
    (m.fresh a).1.get? j = if j = m.handles.size then some a else m.get? j := by
  obtain ⟨-, hc, hj⟩ := cellOf?_fresh (m := m) a j
  simp only [get?, hj, hc]
  split
  · simp
  · cases hi : m.cellOf? j with
    | none => rfl
    | some i => simp [Array.getElem?_push_lt (hcells j i hi)]

/-- Handles that name one cell read one value. -/
theorem get?_eq_of_sameCell? (h : m.sameCell? j k = some true) : m.get? j = m.get? k :=
  get?_eq_of_cellOf?_eq rfl (cellOf?_eq_of_sameCell? h)

/-- A change through any handle keeps which handles name one cell. -/
theorem sameCell?_modify? {f : α → α} {h : Nat} (hm : m.modify? h f = some m') (j k : Nat) :
    m'.sameCell? j k = m.sameCell? j k := by
  simp only [sameCell?, cellOf?, (get?_modify? hm 0).1]

/-- **A clone reads the value of its source and names its cell.** -/
theorem sameCell?_clone? (hk : m.get? k = some a) :
    ∃ m', m.clone? k = some (m', m.handles.size) ∧ m'.get? m.handles.size = some a ∧
      m'.sameCell? m.handles.size k = some true := by
  obtain ⟨m', hm, hcells, hnew, hold⟩ := clone?_of_get? hk
  obtain ⟨i, hi, -⟩ := cellOf?_of_get? hk
  have hget : m'.get? m.handles.size = some a :=
    (get?_eq_of_cellOf?_eq hcells hnew).trans hk
  exact ⟨m', hm, hget, sameCell?_of_cellOf?_eq ((hnew.trans hi).trans (hold k i hi).symm)
    ((get?_eq_of_cellOf?_eq hcells ((hold k i hi).trans hi.symm)).trans hk)⟩

/-- **A fresh handle names a cell of its own.** It reads its value and shares its cell with no
handle that reads a value. -/
theorem sameCell?_fresh (hj : m.get? j = some a) (b : α) :
    (m.fresh b).1.sameCell? j (m.fresh b).2 = some false ∧
      (m.fresh b).1.get? (m.fresh b).2 = some b := by
  obtain ⟨i, hi, ha⟩ := cellOf?_of_get? hj
  have hlt : i < m.cells.size := (Array.getElem?_eq_some_iff.1 ha).1
  have hjlt : j < m.handles.size := (Array.getElem?_eq_some_iff.1 hi).1
  obtain ⟨hn, hc, -⟩ := cellOf?_fresh (m := m) b j
  have hj' := (cellOf?_fresh (m := m) b j).2.2
  have hn' := (cellOf?_fresh (m := m) b m.handles.size).2.2
  rw [if_neg (Nat.ne_of_lt hjlt), hi] at hj'
  rw [if_pos rfl] at hn'
  refine ⟨?_, ?_⟩
  · simp [sameCell?, hn, hj', hn', Nat.ne_of_lt hlt]
  · simp [get?, hn, hn', hc]

end Shared
end Sidebar
