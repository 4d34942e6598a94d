import Sidebar.Proofs.GridGrowth
import Sidebar.Proofs.GridPositions
/-!
# Appending a slot keeps the slots in place

`Panel::push` in `crates/panelkit-widgets/src/layout.rs`, as `GridLayoutStrategy` (`grid.rs`)
and `VerticalStackStrategy` (`stack.rs`) call it.

Every call of a strategy that appends places its cells one at a time through `Layout.place`,
which appends one slot to the panel whatever the growth check finds (`Layout.panel_place`).
This module follows what one appended slot does to the effective grid
(`place_keeps_positions`): the rows and the columns never shrink, and the columns change in one
regime only, a grid with rows but no columns declared whose slots fill a positive whole number
of its columns (`Panel.ColumnsFull`). There the next slot opens a new column, and the slots
already placed move; everywhere else every slot keeps its row and column.

The arithmetic is one fact about rounding up: one more item needs one more row of `b` exactly
when the items filled their rows (`divCeil_succ`).
-/

namespace Sidebar

theorem divCeil_mono {n m : Nat} (h : n ≤ m) (b : Nat) : divCeil n b ≤ divCeil m b :=
  Nat.div_le_div_right (by omega)

/-- Rounding up a multiple of `b` gives the multiplier back. -/
theorem divCeil_mul_self {b : Nat} (hb : 0 < b) (k : Nat) : divCeil (b * k) b = k := by
  unfold divCeil
  rw [show b * k + b - 1 = (b - 1) + b * k by omega, Nat.add_mul_div_left _ _ hb,
    Nat.div_eq_of_lt (by omega), Nat.zero_add]

/-- The rows of `b` that hold `n` hold exactly `n` when `b` divides `n`, and more otherwise. -/
theorem divCeil_mul_eq_iff {n b : Nat} (hb : 0 < b) : divCeil n b * b = n ↔ b ∣ n := by
  constructor
  · intro h
    exact ⟨divCeil n b, by rw [Nat.mul_comm]; exact h.symm⟩
  · rintro ⟨k, rfl⟩
    rw [divCeil_mul_self hb, Nat.mul_comm]

/-- **One more item needs one more row exactly when the rows were full.** -/
theorem divCeil_succ {b : Nat} (hb : 0 < b) (n : Nat) :
    divCeil (n + 1) b = if b ∣ n then divCeil n b + 1 else divCeil n b := by
  have hfit : n ≤ divCeil n b * b := le_divCeil_mul n hb
  -- one more row of `b` always holds one more item
  have hle : divCeil (n + 1) b ≤ divCeil n b + 1 :=
    (divCeil_le_iff hb).2 (by rw [Nat.succ_mul]; omega)
  have hge : divCeil n b ≤ divCeil (n + 1) b := divCeil_mono (Nat.le_succ n) b
  split
  · rename_i hdvd
    -- the rows were full, so they do not hold one more
    have hfull : divCeil n b * b = n := (divCeil_mul_eq_iff hb).2 hdvd
    have hnot : ¬divCeil (n + 1) b ≤ divCeil n b := fun h => by
      have := (divCeil_le_iff hb).1 h
      omega
    omega
  · rename_i hdvd
    have hroom : n + 1 ≤ divCeil n b * b := by
      have hne : divCeil n b * b ≠ n := fun h => hdvd ((divCeil_mul_eq_iff hb).1 h)
      omega
    exact Nat.le_antisymm ((divCeil_le_iff hb).2 hroom) hge

theorem divCeil_pos {n b : Nat} (hb : 0 < b) (hn : 0 < n) : 0 < divCeil n b :=
  Nat.pos_of_ne_zero fun h0 => by
    have := (divCeil_le_iff hb).1 (Nat.le_of_eq h0)
    omega

/-- The columns of a grid with `R > 0` rows and no columns declared, `⌈n / R⌉` but at least one,
grow with one more slot exactly when the `n` slots fill a positive whole number of columns. -/
theorem max_divCeil_succ {R : Nat} (hR : 0 < R) (n : Nat) :
    (0 < n ∧ R ∣ n → max (divCeil (n + 1) R) 1 = max (divCeil n R) 1 + 1) ∧
    (¬(0 < n ∧ R ∣ n) → max (divCeil (n + 1) R) 1 = max (divCeil n R) 1) := by
  refine ⟨fun hnd => ?_, fun hnot => ?_⟩
  · obtain ⟨hn, hd⟩ := hnd
    have hpos := divCeil_pos hR hn
    rw [divCeil_succ hR, if_pos hd]
    omega
  · by_cases hn : 0 < n
    · rw [divCeil_succ hR, if_neg fun hd => hnot ⟨hn, hd⟩]
    · -- no slot yet: one column before and after the first
      have h0 : n = 0 := by omega
      subst h0
      have hzero : divCeil 0 R = 0 := by simpa using divCeil_mul_self hR 0
      rw [divCeil_succ hR, if_pos (Nat.dvd_zero R), hzero]
      omega

namespace Panel

/-- The panel is a grid with rows but no columns declared whose slots fill a positive whole
number of its columns: the next slot needs a new column. -/
def ColumnsFull (p : Panel) : Prop :=
  ∃ R hg vg, p.arrangement = .grid R 0 hg vg ∧ 0 < R.toNat ∧ 0 < p.len ∧ R.toNat ∣ p.len

/-- Only a grid with rows but no columns declared can have its columns full. -/
theorem not_columnsFull {p : Panel}
    (h : ∀ R hg vg, p.arrangement = .grid R 0 hg vg → R.toNat = 0) : ¬p.ColumnsFull := by
  rintro ⟨R, hg, vg, harr, hR, -⟩
  have := h R hg vg harr
  omega

variable (p : Panel) (c : Cell) (h : Option PlacementHint)

@[simp] theorem arrangement_push : (p.push c h).arrangement = p.arrangement := rfl

/-- **The columns after one more slot.** They grow by one when the grid's columns are full,
and stay as they are otherwise. -/
theorem effectiveColumns_push :
    (p.ColumnsFull ∧ (p.push c h).effectiveColumns = p.effectiveColumns + 1) ∨
    (¬p.ColumnsFull ∧ (p.push c h).effectiveColumns = p.effectiveColumns) := by
  cases harr : p.arrangement with
  | stack spacing =>
    refine .inr ⟨not_columnsFull fun _ _ _ h' => by simp [harr] at h', ?_⟩
    simp [effectiveColumns, harr]
  | grid R C hg vg =>
    have harr' : (p.push c h).arrangement = .grid R C hg vg := harr
    by_cases hC : 0 < C.toNat
    · -- declared columns: never full, never changed
      refine .inr ⟨not_columnsFull fun _ _ _ h' => ?_, ?_⟩
      · simp only [harr, Arrangement.grid.injEq] at h'
        simp [h'.2.1] at hC
      · rw [effectiveColumns_of_columns harr' hC, effectiveColumns_of_columns harr hC]
    · have hC0 : C.toNat = 0 := by omega
      have hC' : C = 0 := UInt64.toNat_inj.1 hC0
      by_cases hR : 0 < R.toNat
      · -- columns derived from the rows: full when the slots fill whole columns
        have hfull : p.ColumnsFull ↔ 0 < p.len ∧ R.toNat ∣ p.len := by
          constructor
          · rintro ⟨R', _, _, h', _, hn, hd⟩
            simp only [harr, Arrangement.grid.injEq] at h'
            exact h'.1 ▸ ⟨hn, hd⟩
          · exact fun hn => ⟨R, hg, vg, hC' ▸ harr, hR, hn⟩
        rw [effectiveColumns_of_rows harr' hC0 hR, effectiveColumns_of_rows harr hC0 hR, len_push,
          hfull]
        by_cases hn : 0 < p.len ∧ R.toNat ∣ p.len
        · exact .inl ⟨hn, (max_divCeil_succ hR p.len).1 hn⟩
        · exact .inr ⟨hn, (max_divCeil_succ hR p.len).2 hn⟩
      · refine .inr ⟨not_columnsFull fun _ _ _ h' => ?_, ?_⟩
        · simp only [harr, Arrangement.grid.injEq] at h'
          rw [← h'.1]
          omega
        · rw [effectiveColumns_of_neither harr' hC0 (by omega),
            effectiveColumns_of_neither harr hC0 (by omega)]

theorem effectiveColumns_le_push : p.effectiveColumns ≤ (p.push c h).effectiveColumns := by
  rcases effectiveColumns_push p c h with ⟨-, hcols⟩ | ⟨-, hcols⟩ <;> omega

/-- The columns change exactly when they were full. -/
theorem effectiveColumns_push_ne_iff :
    (p.push c h).effectiveColumns ≠ p.effectiveColumns ↔ p.ColumnsFull := by
  rcases effectiveColumns_push p c h with ⟨hfull, hcols⟩ | ⟨hfull, hcols⟩
  · exact ⟨fun _ => hfull, fun _ => by omega⟩
  · exact ⟨fun hne => absurd hcols hne, fun h' => absurd h' hfull⟩

/-- **The rows never shrink.** With rows but no columns declared, a grid keeps its declared rows;
otherwise its columns stay, and the same columns hold fewer slots in no more rows. -/
theorem effectiveRows_le_push : p.effectiveRows ≤ (p.push c h).effectiveRows := by
  cases harr : p.arrangement with
  | stack spacing => simp [effectiveRows, harr]
  | grid R C hg vg =>
    have harr' : (p.push c h).arrangement = .grid R C hg vg := harr
    by_cases hrows : C.toNat = 0 ∧ 0 < R.toNat
    · have hnew := effectiveRows_of_rows harr' hrows.1 hrows.2
      have hold := effectiveRows_of_rows harr hrows.1 hrows.2
      omega
    · have hnot : ¬p.ColumnsFull := not_columnsFull fun _ _ _ h' => by
        simp only [harr, Arrangement.grid.injEq] at h'
        obtain ⟨rfl, rfl, -, -⟩ := h'
        exact Nat.eq_zero_of_not_pos fun hR' => hrows ⟨rfl, hR'⟩
      have hcols : (p.push c h).effectiveColumns = p.effectiveColumns := by
        rcases effectiveColumns_push p c h with ⟨hfull, -⟩ | ⟨-, hcols⟩
        · exact absurd hfull hnot
        · exact hcols
      have hmono := divCeil_mono (Nat.le_add_right p.len 1) p.effectiveColumns
      rw [effectiveRows_grid harr', effectiveRows_grid harr, hcols, len_push]
      omega

/-- With its columns unchanged, a panel keeps the row and column of every slot it had. -/
theorem gridPosition?_push (hcols : (p.push c h).effectiveColumns = p.effectiveColumns)
    {i : Nat} (hi : i < p.len) : (p.push c h).gridPosition? i = p.gridPosition? i := by
  have hi' : i < (p.push c h).len := by rw [len_push]; omega
  rw [gridPosition?_of_lt _ hi', gridPosition?_of_lt _ hi, hcols]

end Panel

namespace Layout

/-- **Appending a slot keeps the slots in place.** For every panel being assembled, grid or
stack, and every cell placed on it, with any hint and whatever the growth check finds: the
effective rows and columns never decrease; when the columns stay, every slot already there keeps
its row and column; and the columns change exactly for a grid with rows `R > 0` but no columns
declared whose old slot count is a positive multiple of `R`. -/
theorem place_keeps_positions (l : Layout) (c : Cell) (hint : Option PlacementHint) :
    l.panel.effectiveRows ≤ (l.place c hint).1.panel.effectiveRows ∧
    l.panel.effectiveColumns ≤ (l.place c hint).1.panel.effectiveColumns ∧
    ((l.place c hint).1.panel.effectiveColumns = l.panel.effectiveColumns →
      ∀ i < l.panel.len, (l.place c hint).1.panel.gridPosition? i = l.panel.gridPosition? i) ∧
    ((l.place c hint).1.panel.effectiveColumns ≠ l.panel.effectiveColumns ↔
      ∃ R hg vg, l.panel.arrangement = .grid R 0 hg vg ∧ 0 < R.toNat ∧ 0 < l.panel.len ∧
        R.toNat ∣ l.panel.len) := by
  rw [panel_place]
  exact ⟨Panel.effectiveRows_le_push .., Panel.effectiveColumns_le_push ..,
    fun hcols _ hi => Panel.gridPosition?_push _ _ _ hcols hi,
    Panel.effectiveColumns_push_ne_iff ..⟩

end Layout

end Sidebar
