import Mathlib.Order.Bounds.Defs
import Sidebar.Proofs.StrategyRuns
/-!
# How far a grid grows

`Panel::effective_columns` and `Panel::effective_rows` in
`crates/panelkit-widgets/src/layout.rs`, and the growth check of `GridLayoutStrategy` (`grid.rs`).

A grid with declared rows `R` and columns `C` is as wide as declared when `C > 0`; with no
columns declared but rows, it takes the fewest columns (at least one) in which `R` rows hold
its slots; with neither, one column. It then takes the fewest rows, never fewer than `R`, in
which those columns hold its slots (`grid_extent`). Both are rounded-up quotients, and the one
fact about rounding up that the proofs need is that `⌈n / b⌉ ≤ r` exactly when `r` rows of
`b` hold `n` (`divCeil_le_iff`). From it, a grid with only rows declared never grows past them:
its columns already make room for every slot in `R` rows.

A grid strategy watches for the first slot that makes its grid grow past the declared rows,
by comparing the slots with the product `R × C` after each slot it places. That product is
taken in 64 bits: when both counts are declared and the product does not fit, the first slot
placed stops the run with an overflow. Otherwise no call ever overflows, and after every run the
strategy's flag says exactly whether its panel has more rows than declared
(`grid_flag_tracks_growth`), although the flag is computed from the declared columns and the
rows from the effective ones. The proof carries the flag along the run as "the slots outnumber
`R × C`" (`Outgrown`), one placed slot at a time.
-/

namespace Sidebar

/-- **Rounding up finds the fewest rows:** `⌈n / b⌉ ≤ r` exactly when `r` rows of `b` hold
`n`. -/
theorem divCeil_le_iff {n b r : Nat} (hb : 0 < b) : divCeil n b ≤ r ↔ n ≤ r * b := by
  unfold divCeil
  rw [Nat.div_le_iff_le_mul_add_pred hb, Nat.mul_comm b r]
  omega

theorem le_divCeil_mul (n : Nat) {b : Nat} (hb : 0 < b) : n ≤ divCeil n b * b :=
  (divCeil_le_iff hb).1 (Nat.le_refl _)

/-- The fewest rows of `b`, at least `m`, that hold `n` are `max ⌈n / b⌉ m`. -/
theorem max_divCeil_isLeast (n m : Nat) {b : Nat} (hb : 0 < b) :
    IsLeast {r | m ≤ r ∧ n ≤ r * b} (max (divCeil n b) m) := by
  refine ⟨⟨Nat.le_max_right _ _, ?_⟩, fun r ⟨hm, hn⟩ => ?_⟩
  · exact Nat.le_trans (le_divCeil_mul n hb) (Nat.mul_le_mul_right b (Nat.le_max_left _ _))
  · exact Nat.max_le.2 ⟨(divCeil_le_iff hb).2 hn, hm⟩

namespace Panel

variable {p : Panel} {R C : UInt64} {hg vg : UInt32}

theorem effectiveColumns_of_columns (harr : p.arrangement = .grid R C hg vg)
    (hC : 0 < C.toNat) : p.effectiveColumns = C.toNat := by
  simp [effectiveColumns, harr, hC]

theorem effectiveColumns_of_rows (harr : p.arrangement = .grid R C hg vg) (hC : C.toNat = 0)
    (hR : 0 < R.toNat) : p.effectiveColumns = max (divCeil p.len R.toNat) 1 := by
  simp [effectiveColumns, harr, hC, hR]

theorem effectiveColumns_of_neither (harr : p.arrangement = .grid R C hg vg)
    (hC : C.toNat = 0) (hR : R.toNat = 0) : p.effectiveColumns = 1 := by
  simp [effectiveColumns, harr, hC, hR]

theorem effectiveRows_grid (harr : p.arrangement = .grid R C hg vg) :
    p.effectiveRows = max (divCeil p.len p.effectiveColumns) R.toNat := by
  simp only [effectiveRows, harr]

/-- The rows of a grid are the fewest, at least the declared ones, in which its columns hold
its slots. -/
theorem effectiveRows_isLeast (harr : p.arrangement = .grid R C hg vg) :
    IsLeast {r | R.toNat ≤ r ∧ p.len ≤ r * p.effectiveColumns} p.effectiveRows := by
  rw [effectiveRows_grid harr]
  exact max_divCeil_isLeast _ _ p.effectiveColumns_pos

/-- **A grid with only rows declared never grows past them.** Its columns are the fewest in
which the declared rows hold every slot, so those rows hold them all. -/
theorem effectiveRows_of_rows (harr : p.arrangement = .grid R C hg vg) (hC : C.toNat = 0)
    (hR : 0 < R.toNat) : p.effectiveRows = R.toNat := by
  have hcols := effectiveColumns_of_rows harr hC hR
  -- `R` rows of `⌈len / R⌉` columns, and so of the wider effective columns, hold every slot
  have hfit : p.len ≤ R.toNat * p.effectiveColumns := by
    calc p.len ≤ divCeil p.len R.toNat * R.toNat := le_divCeil_mul p.len hR
      _ = R.toNat * divCeil p.len R.toNat := Nat.mul_comm _ _
      _ ≤ R.toNat * p.effectiveColumns := by
          rw [hcols]
          exact Nat.mul_le_mul_left _ (Nat.le_max_left _ _)
  rw [effectiveRows_grid harr]
  exact Nat.max_eq_right ((divCeil_le_iff p.effectiveColumns_pos).2 hfit)

/-- A grid with declared columns grows past its declared rows exactly when its slots
outnumber `rows × columns`. -/
theorem lt_effectiveRows_iff (harr : p.arrangement = .grid R C hg vg) (hC : 0 < C.toNat) :
    R.toNat < p.effectiveRows ↔ R.toNat * C.toNat < p.len := by
  rw [effectiveRows_grid harr, effectiveColumns_of_columns harr hC]
  have h : divCeil p.len C.toNat ≤ R.toNat ↔ p.len ≤ R.toNat * C.toNat := divCeil_le_iff hC
  omega

/-- **The extent of a grid.** For every grid of declared rows `R` and columns `C` holding `n`
slots: the columns are `C` when declared; otherwise the fewest `c ≥ 1` with `R * c ≥ n` when
rows are declared, and one when neither is. The rows are the fewest `r ≥ R` with
`r * columns ≥ n`, so never fewer than declared. A grid with only rows declared keeps exactly
them, and one with columns declared grows past its rows exactly when `n > R * C`. -/
theorem grid_extent (R C : UInt64) (hg vg : UInt32) (border : Border) (slots : Array Slot) :
    let p : Panel := { arrangement := .grid R C hg vg, border, slots }
    (0 < C.toNat → p.effectiveColumns = C.toNat) ∧
    (C.toNat = 0 → 0 < R.toNat → IsLeast {c | 1 ≤ c ∧ p.len ≤ R.toNat * c} p.effectiveColumns) ∧
    (C.toNat = 0 → R.toNat = 0 → p.effectiveColumns = 1) ∧
    IsLeast {r | R.toNat ≤ r ∧ p.len ≤ r * p.effectiveColumns} p.effectiveRows ∧
    R.toNat ≤ p.effectiveRows ∧
    (C.toNat = 0 → 0 < R.toNat → p.effectiveRows = R.toNat) ∧
    (0 < C.toNat → (R.toNat < p.effectiveRows ↔ R.toNat * C.toNat < p.len)) := by
  intro p
  have harr : p.arrangement = .grid R C hg vg := rfl
  refine ⟨effectiveColumns_of_columns harr, fun hC hR => ?_, effectiveColumns_of_neither harr,
    effectiveRows_isLeast harr, (effectiveRows_isLeast harr).1.1, effectiveRows_of_rows harr,
    lt_effectiveRows_iff harr⟩
  -- the columns are the fewest rows of `R`, at least one, holding every slot, read sideways
  rw [effectiveColumns_of_rows harr hC hR]
  have h := max_divCeil_isLeast p.len 1 hR
  simp only [Nat.mul_comm _ R.toNat] at h
  exact h

end Panel

namespace Layout

/-- The declared `rows × columns` of a grid with both counts declared does not fit in 64
bits. -/
def CapacityOverflows (rows columns : UInt64) : Prop :=
  0 < rows.toNat ∧ 0 < columns.toNat ∧ UInt64.size ≤ rows.toNat * columns.toNat

/-- `n` slots outnumber the declared `rows × columns` of a grid with both counts declared: the
growth a grid strategy watches for. -/
def Outgrown (rows columns : UInt64) (n : Nat) : Prop :=
  0 < rows.toNat ∧ 0 < columns.toNat ∧ rows.toNat * columns.toNat < n

variable {R C : UInt64} {hg vg : UInt32}

theorem Outgrown.succ {n : Nat} (h : Outgrown R C n) : Outgrown R C (n + 1) :=
  ⟨h.1, h.2.1, Nat.lt_succ_of_lt h.2.2⟩

/-- When the declared capacity fits, the growth check answers whether the slots outgrow it. -/
theorem outgrows_of_fits (hfit : ¬CapacityOverflows R C) (n : Nat) :
    ∃ b, outgrows R C n = .ok b ∧ (b = true ↔ Outgrown R C n) := by
  unfold outgrows Checked.mul64
  by_cases hpos : 0 < R.toNat ∧ 0 < C.toNat
  · have hlt : R.toNat * C.toNat < Nat.pow 2 64 := by
      have : ¬UInt64.size ≤ R.toNat * C.toNat := fun h => hfit ⟨hpos.1, hpos.2, h⟩
      exact Nat.lt_of_not_le this
    have hmul : (R * C).toNat = R.toNat * C.toNat := by
      rw [UInt64.toNat_mul]
      exact Nat.mod_eq_of_lt hlt
    have hcond : (0 < R && 0 < C) = true := by simp [UInt64.lt_iff_toNat_lt, hpos]
    refine ⟨decide ((R * C).toNat < n), by rw [if_pos hcond, if_pos hlt]; rfl, ?_⟩
    simp [Outgrown, hpos, hmul]
  · have hcond : ¬(0 < R && 0 < C) = true := by simpa [UInt64.lt_iff_toNat_lt] using hpos
    refine ⟨false, by rw [if_neg hcond]; rfl, ?_⟩
    simp only [Bool.false_eq_true, false_iff]
    exact fun h => hpos ⟨h.1, h.2.1⟩

/-- When the declared capacity does not fit, the growth check overflows, whatever the count. -/
theorem outgrows_of_overflows (hover : CapacityOverflows R C) (n : Nat) :
    outgrows R C n = .error .multiply := by
  have hge : ¬R.toNat * C.toNat < Nat.pow 2 64 := Nat.not_lt_of_le hover.2.2
  have hcond : (0 < R && 0 < C) = true := by simp [UInt64.lt_iff_toNat_lt, hover.1, hover.2.1]
  unfold outgrows Checked.mul64
  rw [if_pos hcond, if_neg hge]
  rfl

variable {l : Layout}

/-- Once growth has been seen, placing a slot checks nothing and keeps the flag. -/
theorem place_of_grewPastRows (c : Cell) (hint : Option PlacementHint)
    (hl : l.grewPastRows = true) :
    (l.place c hint).2 = none ∧ (l.place c hint).1.grewPastRows = true := by
  unfold place
  split
  · exact ⟨rfl, hl⟩
  · simp [hl]

/-- **Placing a slot on a grid whose capacity fits** never overflows, and the flag is set
afterwards when it was set before or the slots now outnumber the capacity. -/
theorem place_fits (c : Cell) (hint : Option PlacementHint)
    (harr : l.panel.arrangement = .grid R C hg vg) (hfit : ¬CapacityOverflows R C) :
    (l.place c hint).2 = none ∧
      ((l.place c hint).1.grewPastRows = true ↔
        l.grewPastRows = true ∨ Outgrown R C (l.panel.len + 1)) := by
  obtain ⟨b, hb, hbo⟩ := outgrows_of_fits hfit (l.panel.len + 1)
  cases hl : l.grewPastRows
  · simp [place, harr, hl, hb, hbo]
  · simp [place, harr, hl]

/-- Placing a slot on a grid whose capacity does not fit overflows, until growth is seen. -/
theorem place_overflows (c : Cell) (hint : Option PlacementHint)
    (harr : l.panel.arrangement = .grid R C hg vg) (hover : CapacityOverflows R C)
    (hl : l.grewPastRows = false) :
    (l.place c hint).2 = some .multiply := by
  simp [place, harr, hl, outgrows_of_overflows hover]

/-- A gap places the cell it becomes. -/
theorem addGap_eq_place (l : Layout) (size : UInt32) :
    l.addGap size = l.place (l.panel.arrangement.gapCell size) none := by
  unfold addGap
  split <;> rename_i harr <;> simp [harr, Arrangement.gapCell]

end Layout

namespace Strategy

open Layout

variable {s : Strategy} {hs : List Nat} {q : Panel}

/-- The layout a strategy reads carries the strategy's flag. -/
theorem grewPastRows_of_layout? {l : Layout} (hl : s.layout? = some l) :
    l.grewPastRows = s.grewPastRows := by
  simp only [Strategy.layout?, Option.map_eq_some_iff] at hl
  obtain ⟨_, _, rfl⟩ := hl
  rfl

/-- A step run by a strategy leaves the flag and the overflow of the step on its layout. -/
theorem apply_of_layout? {l : Layout} (hl : s.layout? = some l)
    (step : Layout → Layout × Option Overflow) :
    (s.apply step).1.grewPastRows = (step l).1.grewPastRows ∧ (s.apply step).2 = (step l).2 := by
  simp [Strategy.apply, hl]

@[simp] theorem grewPastRows_getPanel (s : Strategy) : s.getPanel.1.grewPastRows = s.grewPastRows := by
  unfold getPanel
  split <;> rfl

/-! ### Once seen, growth stays seen -/

/-- A step that places a slot keeps a flag that is set, and then does not overflow. -/
theorem apply_place_of_grewPastRows (step : Layout → Layout × Option Overflow)
    (hs : s.grewPastRows = true) (hstep : ∀ l : Layout, ∃ c hint, step l = l.place c hint) :
    (s.apply step).2 = none ∧ (s.apply step).1.grewPastRows = true := by
  cases hl : s.layout? with
  | none => simp [Strategy.apply, hl, hs]
  | some l =>
    obtain ⟨c, hint, hc⟩ := hstep l
    obtain ⟨hflag, hover⟩ := apply_of_layout? hl step
    have hkept := place_of_grewPastRows c hint ((grewPastRows_of_layout? hl).trans hs)
    rw [hc] at hflag hover
    exact ⟨hover.trans hkept.1, hflag.trans hkept.2⟩

/-- Every call keeps a flag that is set. -/
theorem grewPastRows_call (hs : s.grewPastRows = true) (call : Call) :
    (s.call call).1.grewPastRows = true := by
  -- each appending call is placing steps; `build` and `getPanel` only hand out a handle
  cases call with
  | add w => exact (apply_place_of_grewPastRows _ hs fun l => ⟨_, _, rfl⟩).2
  | addWithHint w h => exact (apply_place_of_grewPastRows _ hs fun l => ⟨_, _, rfl⟩).2
  | addGap size =>
    exact (apply_place_of_grewPastRows _ hs fun l => ⟨_, _, addGap_eq_place l size⟩).2
  | addSeparator => exact (apply_place_of_grewPastRows _ hs fun l => ⟨_, _, rfl⟩).2
  | build | getPanel => simpa [Strategy.call] using hs
  | addAll ws =>
    simp only [Strategy.call, placed]
    induction ws generalizing s with
    | nil => exact hs
    | cons w ws ih =>
      obtain ⟨hnone, hkept⟩ := apply_place_of_grewPastRows (·.add w none) hs
        fun l => ⟨_, _, rfl⟩
      rcases happ : s.apply (·.add w none) with ⟨s₁, e⟩
      rw [happ] at hnone hkept
      cases hnone
      simp only [Strategy.addAll, happ]
      exact ih hkept

/-- **Once set, the flag is never cleared,** along any run. -/
theorem grewPastRows_run (hs : s.grewPastRows = true) (cs : List Call) :
    (s.run cs).1.grewPastRows = true := by
  induction cs generalizing s with
  | nil => exact hs
  | cons call cs ih =>
    have h₁ := grewPastRows_call hs call
    rcases hc : s.call call with ⟨s₁, k, _ | e⟩
    · rw [hc] at h₁
      simp only [Strategy.run, hc]
      exact ih h₁
    · rw [hc] at h₁
      simpa [Strategy.run, hc] using h₁

/-! ### A grid whose capacity fits -/

section Fits

variable {R C : UInt64} {hg vg : UInt32}

/-- **A placing step keeps the flag telling growth.** On a grid whose capacity fits, a step
that places one slot does not overflow, and when the flag told whether the slots outnumbered
`R × C` before, it tells it after. -/
theorem apply_place_fits (step : Layout → Layout × Option Overflow) {c : Cell}
    {hint : Option PlacementHint} (h : Shows s hs q) (harr : q.arrangement = .grid R C hg vg)
    (hfit : ¬CapacityOverflows R C) (hflag : s.grewPastRows = true ↔ Outgrown R C q.len)
    (hstep : step ⟨q, s.grewPastRows⟩ = Layout.place ⟨q, s.grewPastRows⟩ c hint) :
    (s.apply step).2 = none ∧
      ((s.apply step).1.grewPastRows = true ↔ Outgrown R C (q.len + 1)) := by
  obtain ⟨hflag', hover'⟩ := apply_of_layout? h.layout? step
  obtain ⟨hnone, hgrew⟩ := place_fits (l := ⟨q, s.grewPastRows⟩) c hint harr hfit
  rw [hstep] at hflag' hover'
  refine ⟨hover'.trans hnone, ?_⟩
  rw [hflag', hgrew, hflag]
  exact ⟨fun h' => h'.elim Outgrown.succ id, .inr⟩

/-- Adding widgets one by one on such a grid keeps the flag telling growth. -/
theorem addAll_fits (h : Shows s hs q) (harr : q.arrangement = .grid R C hg vg)
    (hfit : ¬CapacityOverflows R C) (hflag : s.grewPastRows = true ↔ Outgrown R C q.len)
    (ws : List Widget) :
    (s.addAll ws).2 = none ∧
      ((s.addAll ws).1.grewPastRows = true ↔ Outgrown R C (q.len + ws.length)) := by
  induction ws generalizing s q with
  | nil => exact ⟨rfl, hflag⟩
  | cons w ws ih =>
    obtain ⟨hnone, hflag₁⟩ := apply_place_fits (·.add w none) h harr hfit hflag rfl
    have h₁ := h.apply (·.add w none)
    rw [panel_add, Arrangement.keptHint_none] at h₁
    have harr₁ : (q.push (.widget w) none).arrangement = .grid R C hg vg := harr
    rcases happ : s.apply (·.add w none) with ⟨s₁, e⟩
    rw [happ] at hnone hflag₁ h₁
    cases hnone
    rw [← Panel.len_push q (.widget w) none] at hflag₁
    obtain ⟨hnone', hflag'⟩ := ih h₁ harr₁ hflag₁
    simp only [Strategy.addAll, happ, List.length_cons, Panel.len_push] at hnone' hflag' ⊢
    exact ⟨hnone', by rw [hflag', Nat.add_assoc, Nat.add_comm 1]⟩

/-- **Each call on such a grid keeps the flag telling growth** and does not overflow. -/
theorem call_fits (h : Shows s hs q) (harr : q.arrangement = .grid R C hg vg)
    (hfit : ¬CapacityOverflows R C) (hflag : s.grewPastRows = true ↔ Outgrown R C q.len)
    (call : Call) :
    (s.call call).2.2 = none ∧ ((s.call call).1.grewPastRows = true ↔
      Outgrown R C (q.len + (call.slots q.arrangement).length)) := by
  cases call with
  | add w => exact apply_place_fits _ h harr hfit hflag rfl
  | addWithHint w hint => exact apply_place_fits _ h harr hfit hflag rfl
  | addGap size => exact apply_place_fits _ h harr hfit hflag (addGap_eq_place _ size)
  | addSeparator => exact apply_place_fits _ h harr hfit hflag rfl
  | addAll ws => simpa [Strategy.call, placed, Call.slots] using addAll_fits h harr hfit hflag ws
  | build | getPanel => simpa [Strategy.call, Call.slots] using hflag

/-- **Along every run on such a grid** no call overflows and the flag tells whether the slots
outnumber `R × C`. -/
theorem run_fits (h : Shows s hs q) (harr : q.arrangement = .grid R C hg vg)
    (hfit : ¬CapacityOverflows R C) (hflag : s.grewPastRows = true ↔ Outgrown R C q.len)
    (cs : List Call) :
    (s.run cs).2.2 = none ∧ ((s.run cs).1.grewPastRows = true ↔
      Outgrown R C (q.len + (cs.flatMap (Call.slots q.arrangement)).length)) := by
  induction cs generalizing s hs q with
  | nil => exact ⟨rfl, by simpa [Strategy.run] using hflag⟩
  | cons call cs ih =>
    obtain ⟨hnone, hflag₁⟩ := call_fits h harr hfit hflag call
    obtain ⟨q₁, h₁, happ₁⟩ := h.call call hnone
    rcases hc : s.call call with ⟨s₁, k, e⟩
    rw [hc] at hnone hflag₁ h₁
    cases hnone
    -- the panel after the call has the call's slots appended and the same arrangement
    have hlen : q₁.len = q.len + (call.slots q.arrangement).length := by
      simp only [Panel.len, ← Array.length_toList, happ₁.slots, List.length_append]
    rw [← hlen] at hflag₁
    obtain ⟨hnone', hflag'⟩ := ih h₁ (happ₁.arrangement.trans harr) hflag₁
    rw [happ₁.arrangement, hlen] at hflag'
    simp only [Strategy.run, hc, List.flatMap_cons, List.length_append] at hnone' hflag' ⊢
    exact ⟨hnone', by rw [hflag', Nat.add_assoc]⟩

end Fits

/-! ### A grid whose capacity does not fit -/

section Overflows

variable {R C : UInt64} {hg vg : UInt32}

/-- A placing step on a grid whose capacity does not fit overflows, its slot placed, until
growth is seen. -/
theorem apply_place_overflows (step : Layout → Layout × Option Overflow) {c : Cell}
    {hint : Option PlacementHint} (h : Shows s hs q) (harr : q.arrangement = .grid R C hg vg)
    (hover : CapacityOverflows R C) (hflag : s.grewPastRows = false)
    (hstep : step ⟨q, s.grewPastRows⟩ = Layout.place ⟨q, s.grewPastRows⟩ c hint) :
    (s.apply step).2 = some .multiply ∧
      ∃ q', Shows (s.apply step).1 hs q' ∧ Panel.Appended q [⟨c, q.arrangement.keptHint hint⟩] q' := by
  obtain ⟨-, hover'⟩ := apply_of_layout? h.layout? step
  have h₁ := h.apply step
  rw [hstep] at hover' h₁
  rw [panel_place] at h₁
  exact ⟨hover'.trans (place_overflows (l := ⟨q, s.grewPastRows⟩) c hint harr hover hflag), _, h₁,
    Panel.appended_push q c _⟩

/-- **On such a grid, the first slot a call places overflows.** A call that places no slot
leaves the panel and the flag as they were; any other places its first slot and stops. -/
theorem call_overflows (h : Shows s hs q) (harr : q.arrangement = .grid R C hg vg)
    (hover : CapacityOverflows R C) (hflag : s.grewPastRows = false) (call : Call) :
    ((s.call call).2.2 = if call.slots q.arrangement = [] then none else some .multiply) ∧
      ∃ q', Shows (s.call call).1 (hs ++ (s.call call).2.1.toList) q' ∧
        Panel.Appended q ((call.slots q.arrangement).take 1) q' ∧
        (call.slots q.arrangement = [] → (s.call call).1.grewPastRows = false) := by
  cases call <;>
    simp only [Strategy.call, placed, Option.toList, List.append_nil, Call.slots,
      List.take_succ_cons, List.take_zero, reduceCtorEq, if_false, false_implies, and_true]
  case add w =>
    simpa only [Arrangement.keptHint_none] using
      apply_place_overflows (·.add w none) h harr hover hflag rfl
  case addWithHint w hint => exact apply_place_overflows _ h harr hover hflag rfl
  case addGap size =>
    simpa only [Arrangement.keptHint_none] using
      apply_place_overflows (·.addGap size) h harr hover hflag (addGap_eq_place _ size)
  case addSeparator =>
    simpa only [Arrangement.keptHint_none] using
      apply_place_overflows Layout.addSeparator h harr hover hflag rfl
  case build | getPanel =>
    exact ⟨rfl, q, h.getPanel, Panel.Appended.refl q, fun _ => by simpa using hflag⟩
  case addAll ws =>
    cases ws with
    | nil => exact ⟨rfl, q, h, Panel.Appended.refl q, fun _ => hflag⟩
    | cons w ws =>
      obtain ⟨he, q', h', happ⟩ :=
        apply_place_overflows (·.add w none) h harr hover hflag rfl
      rcases happ₁ : s.apply (·.add w none) with ⟨s₁, e⟩
      rw [happ₁] at he h'
      cases he
      simp only [Strategy.addAll, happ₁, List.map_cons, List.take_succ_cons, List.take_zero,
        reduceCtorEq, if_false, false_implies, and_true]
      rw [Arrangement.keptHint_none] at happ
      exact ⟨trivial, q', h', happ⟩

/-- **Along every run on such a grid** the first slot placed overflows and stops the run, and
the panel then holds that slot after the ones it started with. -/
theorem run_overflows (h : Shows s hs q) (harr : q.arrangement = .grid R C hg vg)
    (hover : CapacityOverflows R C) (hflag : s.grewPastRows = false) (cs : List Call) :
    ((s.run cs).2.2 =
        if cs.flatMap (Call.slots q.arrangement) = [] then none else some .multiply) ∧
      ∃ q', Shows (s.run cs).1 (hs ++ (s.run cs).2.1) q' ∧
        Panel.Appended q ((cs.flatMap (Call.slots q.arrangement)).take 1) q' := by
  induction cs generalizing s hs q with
  | nil => exact ⟨rfl, q, by simpa [Strategy.run] using h, Panel.Appended.refl q⟩
  | cons call cs ih =>
    obtain ⟨he, q₁, h₁, happ₁, hkept⟩ := call_overflows h harr hover hflag call
    rcases hc : s.call call with ⟨s₁, k, e⟩
    rw [hc] at he h₁ hkept
    by_cases hnil : call.slots q.arrangement = []
    · -- the call placed nothing: the panel is unchanged and the run goes on
      rw [if_pos hnil] at he
      subst he
      rw [hnil, List.take_nil] at happ₁
      obtain ⟨he', q', h', happ'⟩ := ih h₁ (happ₁.arrangement.trans harr) (hkept hnil)
      rw [happ₁.arrangement] at he' happ'
      simp only [Strategy.run, hc, List.flatMap_cons, hnil, List.nil_append, List.append_assoc]
        at he' h' ⊢
      exact ⟨he', q', h', happ₁.trans happ'⟩
    · -- the call placed its first slot and stopped the run
      rw [if_neg hnil] at he
      subst he
      have hne : call.slots q.arrangement ++ cs.flatMap (Call.slots q.arrangement) ≠ [] := by
        simp [hnil]
      obtain ⟨x, xs, hx⟩ := List.exists_cons_of_ne_nil hnil
      simp only [Strategy.run, hc, List.flatMap_cons, if_neg hne]
      refine ⟨trivial, q₁, h₁, ?_⟩
      rw [hx] at happ₁ ⊢
      simpa using happ₁

end Overflows

/-- On a grid, the slots outnumber the declared `R × C` exactly when the grid has grown past
its declared rows: the flag's arithmetic and the rows' arithmetic agree in every regime of
columns. -/
theorem outgrown_iff {R C : UInt64} {hg vg : UInt32} {p : Panel}
    (harr : p.arrangement = .grid R C hg vg) :
    Outgrown R C p.len ↔ 0 < R.toNat ∧ R.toNat < p.effectiveRows := by
  by_cases hC : 0 < C.toNat
  · rw [Panel.lt_effectiveRows_iff harr hC]
    exact ⟨fun h => ⟨h.1, h.2.2⟩, fun h => ⟨h.1, hC, h.2⟩⟩
  · -- no columns declared: nothing is checked, and the rows never grow
    have hC0 : C.toNat = 0 := Nat.eq_zero_of_not_pos hC
    refine ⟨fun h => absurd h.2.1 hC, fun ⟨hR, hgrow⟩ => ?_⟩
    rw [Panel.effectiveRows_of_rows harr hC0 hR] at hgrow
    exact absurd hgrow (Nat.lt_irrefl _)

/-- **The growth flag of a grid strategy.** For every grid strategy of declared rows `R` and
columns `C` and every run of calls: when both are declared and `R × C` does not fit in 64 bits,
the first slot placed stops the run with the multiplication overflow, the panel holding that
slot alone, and a run that places none does not overflow. Otherwise no call overflows, and after
the run the flag is set exactly when `R > 0` and the panel has grown past `R` rows. Once set,
the flag is never cleared. -/
theorem grid_flag_tracks_growth (g : GridShape) (cs : List Call) :
    let r := (create g.build).run cs
    let placed := cs.flatMap (Call.slots g.build.panel.arrangement)
    (0 < g.rows.toNat ∧ 0 < g.columns.toNat ∧ UInt64.size ≤ g.rows.toNat * g.columns.toNat →
      r.2.2.map Overflow.message =
          (if placed = [] then none else some "attempt to multiply with overflow") ∧
        ∃ q, r.1.panels.get? r.1.own = some q ∧ q.slots.toList = placed.take 1) ∧
    (¬(0 < g.rows.toNat ∧ 0 < g.columns.toNat ∧ UInt64.size ≤ g.rows.toNat * g.columns.toNat) →
      r.2.2 = none ∧ ∃ q, r.1.panels.get? r.1.own = some q ∧
        (r.1.grewPastRows = true ↔ 0 < g.rows.toNat ∧ g.rows.toNat < q.effectiveRows)) ∧
    ∀ (s : Strategy) (ds : List Call), s.grewPastRows = true →
      (s.run ds).1.grewPastRows = true := by
  intro r placed
  have h₀ := shows_create g.build
  have harr : g.build.panel.arrangement =
      .grid g.rows g.columns g.horizontalGap g.verticalGap := rfl
  refine ⟨fun hover => ?_, fun hfit => ?_, fun s ds hs => grewPastRows_run hs ds⟩
  · obtain ⟨he, q, hq, happ⟩ := run_overflows h₀ harr hover rfl cs
    refine ⟨?_, q, hq.own, ?_⟩
    · rw [he]
      split <;> rfl
    · rw [happ.slots]
      rfl
  · -- the grid starts empty with the flag clear, and the flag tracks the slots from there
    have hflag₀ : (create g.build).grewPastRows = true ↔ Outgrown g.rows g.columns 0 :=
      ⟨fun h => absurd h Bool.false_ne_true, fun h => absurd h.2.2 (Nat.not_lt_zero _)⟩
    obtain ⟨he, hflag⟩ := run_fits h₀ harr hfit hflag₀ cs
    obtain ⟨q, hq, happ⟩ := h₀.run cs he
    have hlen : q.len = g.build.panel.len + placed.length := by
      simp only [Panel.len, ← Array.length_toList, happ.slots, List.length_append]
      rfl
    refine ⟨he, q, hq.own, ?_⟩
    rw [hflag, ← hlen]
    exact outgrown_iff (happ.arrangement.trans harr)

end Strategy

end Sidebar
