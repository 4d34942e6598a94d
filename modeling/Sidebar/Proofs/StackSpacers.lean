import Sidebar.Proofs.StrategyRuns
/-!
# The spacer height of a stack

`VerticalStackStrategy::spacer_height` and `add_gap` in `crates/panelkit-widgets/src/stack.rs`.

A stack turns every gap into a spacer of exactly the requested height, and its spacer height
adds the heights of its slots in slot order, in 32 bits, with 0 for a widget or a separator. The
partial sums of such an addition only grow, so it fails exactly when the exact total does not
fit (`Checked.sum32_eq`).

A stack never checks its growth, so no call on a stack strategy overflows (`Shows.run_stack`),
and the slots of a run are the slots its calls append. The spacer height read after any calls
is therefore the total of the gaps asked for when it fits in 32 bits, and the failed addition
otherwise (`spacerHeight_stack`).
-/

namespace Sidebar

namespace Checked

/-- The exact sum of 32-bit words, as a number. -/
def wordSum : List UInt32 → Nat
  | [] => 0
  | x :: xs => x.toNat + wordSum xs

@[simp] theorem wordSum_nil : wordSum [] = 0 := rfl

@[simp] theorem wordSum_cons (x : UInt32) (xs : List UInt32) :
    wordSum (x :: xs) = x.toNat + wordSum xs := rfl

@[simp] theorem wordSum_append (xs ys : List UInt32) :
    wordSum (xs ++ ys) = wordSum xs + wordSum ys := by
  induction xs with
  | nil => simp
  | cons x xs ih => simp only [List.cons_append, wordSum_cons, ih]; omega

/-- Words that are all 0 add up to 0. -/
@[simp] theorem wordSum_map_zero {α : Type} (xs : List α) : wordSum (xs.map fun _ => 0) = 0 := by
  induction xs with
  | nil => rfl
  | cons x xs ih => simpa using ih

/-- **Adding words to an accumulator fails exactly when the exact total does not fit.** The
partial sums only grow, so one of them reaches `2 ^ 32` exactly when the last one does. -/
theorem foldlM_add32 (xs : List UInt32) (acc : UInt32) :
    xs.foldlM add32 acc =
      if acc.toNat + wordSum xs < Nat.pow 2 32 then .ok (UInt32.ofNat (acc.toNat + wordSum xs))
      else .error .add := by
  induction xs generalizing acc with
  | nil =>
    have hlt : acc.toNat < Nat.pow 2 32 := acc.toNat_lt
    simp only [List.foldlM_nil, wordSum_nil, Nat.add_zero, if_pos hlt, UInt32.ofNat_toNat]
    rfl
  | cons x xs ih =>
    by_cases hfit : acc.toNat + x.toNat < Nat.pow 2 32
    · -- the first addition fits: continue from the sum, which is exact
      have hstep : add32 acc x = .ok (acc + x) := add32_eq_ok.2 ⟨hfit, rfl⟩
      have hsum : (acc + x).toNat = acc.toNat + x.toNat := add32_ok_toNat hstep
      have htotal : (acc + x).toNat + wordSum xs = acc.toNat + wordSum (x :: xs) := by
        rw [hsum, wordSum_cons]
        omega
      simp only [List.foldlM_cons, hstep, bind, Except.bind, ih, htotal]
    · -- the first addition fails, and so does the total, which is larger
      have hstep : add32 acc x = .error .add := by simp [add32, hfit]
      have hover : ¬ acc.toNat + wordSum (x :: xs) < Nat.pow 2 32 := by
        rw [wordSum_cons]
        omega
      simp only [List.foldlM_cons, hstep, bind, Except.bind, if_neg hover]

/-- **A 32-bit sum is the exact total when it fits, and an overflow otherwise.** -/
theorem sum32_eq (xs : List UInt32) :
    sum32 xs =
      if wordSum xs < Nat.pow 2 32 then .ok (UInt32.ofNat (wordSum xs)) else .error .add := by
  unfold sum32
  simpa using foldlM_add32 xs 0

end Checked

namespace Slot

/-- The height a slot adds to the spacer height: a spacer's own, 0 for anything else. -/
def height (s : Slot) : UInt32 :=
  match s.cell with
  | .spacer h => h
  | _ => 0

end Slot

theorem Panel.spacerHeight_eq (p : Panel) :
    p.spacerHeight = Checked.sum32 (p.slots.toList.map Slot.height) := rfl

namespace Layout

variable {l : Layout} {spacing : UInt32}

/-- A stack never checks its growth, so placing a cell on it never overflows. -/
theorem place_stack (h : l.panel.arrangement = .stack spacing) (c : Cell)
    (hint : Option PlacementHint) : (l.place c hint).2 = none := by
  simp only [place, h]

theorem addGap_stack (h : l.panel.arrangement = .stack spacing) (size : UInt32) :
    (l.addGap size).2 = none := by
  simp only [addGap, h]
  exact place_stack h _ none

end Layout

namespace Strategy

namespace Call

/-- The pixels a call asks for as a gap. -/
def gapSize : Call → Nat
  | .addGap size => size.toNat
  | _ => 0

/-- The pixels the calls ask for as gaps, in all. -/
def gapTotal : List Call → Nat
  | [] => 0
  | c :: cs => c.gapSize + gapTotal cs

/-- The widgets of `addAll` add no height. -/
theorem wordSum_height_widgets (ws : List Widget) :
    Checked.wordSum ((ws.map fun w => (⟨.widget w, none⟩ : Slot)).map Slot.height) = 0 := by
  induction ws with
  | nil => rfl
  | cons w ws ih =>
    rw [List.map_cons, List.map_cons, Checked.wordSum_cons, ih]
    rfl

/-- On a stack the slots of the calls add up to exactly the gaps they ask for: a spacer of its
size for each gap, and 0 for each widget and separator. -/
theorem wordSum_height_slots (spacing : UInt32) (cs : List Call) :
    Checked.wordSum ((cs.flatMap (slots (.stack spacing))).map Slot.height) = gapTotal cs := by
  induction cs with
  | nil => rfl
  | cons c cs ih =>
    rw [List.flatMap_cons, List.map_append, Checked.wordSum_append, ih, gapTotal]
    -- each call contributes its own gap; widgets and separators contribute nothing
    cases c with
    | addAll ws => rw [slots, wordSum_height_widgets]; rfl
    | addGap size => simp [slots, gapSize, Slot.height, Arrangement.gapCell]
    | add | addWithHint | addSeparator | build | getPanel => simp [slots, gapSize, Slot.height]

end Call

variable {s : Strategy} {hs : List Nat} {q : Panel} {spacing : UInt32}

/-- A step runs on the layout the strategy shows, and the strategy reports what it reports. -/
theorem Shows.apply_snd (h : Shows s hs q) (step : Layout → Layout × Option Overflow) :
    (s.apply step).2 = (step { panel := q, grewPastRows := s.grewPastRows }).2 := by
  simp [Strategy.apply, h.layout?]

/-- Widgets added one by one to a stack never overflow. -/
theorem Shows.addAll_stack (h : Shows s hs q) (hq : q.arrangement = .stack spacing)
    (ws : List Widget) : (s.addAll ws).2 = none := by
  induction ws generalizing s q with
  | nil => rfl
  | cons w ws ih =>
    have hnone : (s.apply (·.add w none)).2 = none := by
      rw [h.apply_snd]
      exact Layout.place_stack hq _ none
    -- the next widget is added to the stack the first one leaves
    have hnext := h.apply (·.add w none)
    rw [Layout.panel_add] at hnext
    rcases hstep : s.apply (·.add w none) with ⟨s₁, _ | e⟩
    · rw [hstep] at hnext
      simp only [Strategy.addAll, hstep]
      exact ih hnext hq
    · rw [hstep] at hnone
      cases hnone

/-- **No call on a stack overflows.** -/
theorem Shows.call_stack (h : Shows s hs q) (hq : q.arrangement = .stack spacing) (c : Call) :
    (s.call c).2.2 = none := by
  cases c <;> simp only [Strategy.call, placed]
  case add w | addWithHint w hint =>
    rw [h.apply_snd]
    exact Layout.place_stack hq _ _
  case addAll ws => exact h.addAll_stack hq ws
  case addGap size =>
    rw [h.apply_snd]
    exact Layout.addGap_stack hq size
  case addSeparator =>
    rw [h.apply_snd]
    exact Layout.place_stack hq _ none

/-- **No run on a stack overflows:** each call keeps the stack, and none overflows. -/
theorem Shows.run_stack (h : Shows s hs q) (hq : q.arrangement = .stack spacing) (cs : List Call) :
    (s.run cs).2.2 = none := by
  induction cs generalizing s hs q with
  | nil => rfl
  | cons c cs ih =>
    obtain ⟨q₁, h₁, happ₁⟩ := h.call c (h.call_stack hq c)
    rcases hc : s.call c with ⟨s₁, k, _ | e⟩
    · rw [hc] at h₁
      simp only [Strategy.run, hc]
      exact ih h₁ (happ₁.arrangement.trans hq)
    · have hnone := h.call_stack hq c
      rw [hc] at hnone
      cases hnone

/-- **The spacer height of a stack is the total of its gaps.** For every stack, with any spacing
and border, and any calls on its strategy: the calls all finish, and the spacer height of the
panel the strategy then holds is the total of the sizes asked for by gaps when it fits in 32
bits, widgets and separators adding nothing; otherwise the addition fails with `attempt to add
with overflow`. -/
theorem spacerHeight_stack (spacing : UInt32) (border : Border) (cs : List Call) :
    ∃ s hs q, (create (Layout.stack spacing border)).run cs = (s, hs, none) ∧
      s.panels.get? s.own = some q ∧
      q.spacerHeight.mapError Overflow.message =
        if Call.gapTotal cs < Nat.pow 2 32 then .ok (UInt32.ofNat (Call.gapTotal cs))
        else .error "attempt to add with overflow" := by
  have hstart := shows_create (Layout.stack spacing border)
  have hnone := hstart.run_stack rfl cs
  obtain ⟨q, hq, happ⟩ := hstart.run cs hnone
  rcases hrun : (create (Layout.stack spacing border)).run cs with ⟨s, hs, e⟩
  rw [hrun] at hnone hq
  cases hnone
  refine ⟨s, hs, q, rfl, hq.own, ?_⟩
  -- the panel holds exactly the slots of the calls
  have hslots : q.slots.toList = cs.flatMap (Call.slots (.stack spacing)) := happ.slots
  rw [Panel.spacerHeight_eq, hslots, Checked.sum32_eq, Call.wordSum_height_slots]
  split <;> rfl

end Strategy

end Sidebar
