import Sidebar.Panel.Strategy
import Sidebar.Proofs.Sharing
/-!
# What the handles of a strategy show

`LayoutStrategy` (`build`, `get_panel`) and `PanelRef` in `crates/panelkit-widgets/src/layout.rs`,
and `test_build_and_get_panel_are_the_same_panel` in
`crates/panelkit-widgets/tests/layout_strategies.rs`.

Both strategies keep one contract over any interleaving of calls. Every call that appends puts
its items at the end of the one panel the strategy owns, in call order: a widget as itself, a
separator as a separator, and a gap as one filler cell on a grid, whatever its size, or as a
spacer of exactly its size on a stack. A grid drops placement hints; a stack keeps the hint of
`addWithHint` and no other. Arrangement and border never change.

`build` and `getPanel` hand out handles on that same panel, never copies, so a handle taken at
any point of a run reads, at its end, every slot appended before and after it was taken
(`handles_show_calls`). The proof carries one invariant along the run (`Strategy.Shows`: the
strategy's own handle reads a panel and every handle handed out names that panel's cell), kept
by each call (`Shows.call`), and describes the panel by the slots appended to the one the
strategy started from (`Panel.Appended`). Its counts, its widgets and the search by text then
follow from the slot list alone.
-/

namespace Sidebar

namespace Arrangement

/-- The hint a slot keeps: a grid drops it, a stack keeps it. -/
def keptHint : Arrangement → Option PlacementHint → Option PlacementHint
  | .grid .., _ => none
  | .stack _, h => h

/-- The cell a gap of `size` pixels becomes: one filler on a grid, a spacer of exactly `size`
on a stack. -/
def gapCell : Arrangement → UInt32 → Cell
  | .grid .., _ => .filler
  | .stack _, size => .spacer size

end Arrangement

namespace Slot

/-- The widget a slot holds, if it holds one. -/
def widget? (s : Slot) : Option Widget :=
  match s.cell with
  | .widget w => some w
  | _ => none

/-- Whether a slot is a filler cell. -/
def isFiller (s : Slot) : Bool :=
  match s.cell with
  | .filler => true
  | _ => false

/-- Whether a slot is a separator. -/
def isSeparator (s : Slot) : Bool :=
  match s.cell with
  | .separator => true
  | _ => false

end Slot

namespace Layout

/-- **Placing a cell appends one slot:** the cell, with the hint on a stack and none on a
grid, whatever the growth check finds. -/
theorem panel_place (l : Layout) (c : Cell) (h : Option PlacementHint) :
    (l.place c h).1.panel = l.panel.push c (l.panel.arrangement.keptHint h) := by
  unfold place
  split
  · rename_i spacing harr
    simp only [harr, Arrangement.keptHint]
  · rename_i rows columns hgap vgap harr
    simp only [harr, Arrangement.keptHint]
    split
    · rfl
    · split <;> rfl

theorem panel_add (l : Layout) (w : Widget) (h : Option PlacementHint) :
    (l.add w h).1.panel = l.panel.push (.widget w) (l.panel.arrangement.keptHint h) :=
  panel_place l _ h

/-- A gap appends the cell it becomes on the arrangement, with no hint. -/
theorem panel_addGap (l : Layout) (size : UInt32) :
    (l.addGap size).1.panel = l.panel.push (l.panel.arrangement.gapCell size) none := by
  unfold addGap
  split
  · rename_i rows columns hgap vgap harr
    rw [panel_place, harr]
    rfl
  · rename_i spacing harr
    rw [panel_place, harr]
    rfl

theorem panel_addSeparator (l : Layout) :
    l.addSeparator.1.panel = l.panel.push .separator none := by
  unfold addSeparator
  rw [panel_place]
  cases l.panel.arrangement <;> rfl

end Layout

namespace Panel

/-- `q` is `p` with the slots `ss` appended: arrangement and border stay. -/
structure Appended (p : Panel) (ss : List Slot) (q : Panel) : Prop where
  arrangement : q.arrangement = p.arrangement
  border : q.border = p.border
  slots : q.slots.toList = p.slots.toList ++ ss

theorem Appended.refl (p : Panel) : Appended p [] p :=
  ⟨rfl, rfl, (List.append_nil _).symm⟩

theorem Appended.trans {p q r : Panel} {ss ts : List Slot} (h₁ : Appended p ss q)
    (h₂ : Appended q ts r) : Appended p (ss ++ ts) r :=
  ⟨h₂.arrangement.trans h₁.arrangement, h₂.border.trans h₁.border, by
    rw [h₂.slots, h₁.slots, List.append_assoc]⟩

theorem appended_push (p : Panel) (c : Cell) (h : Option PlacementHint) :
    Appended p [⟨c, h⟩] (p.push c h) :=
  ⟨rfl, rfl, by simp [push]⟩

theorem widgets_eq (p : Panel) : p.widgets = p.slots.toList.filterMap Slot.widget? := rfl

theorem fillerCount_eq (p : Panel) : p.fillerCount = p.slots.toList.countP Slot.isFiller := rfl

theorem separatorCount_eq (p : Panel) :
    p.separatorCount = p.slots.toList.countP Slot.isSeparator := rfl

/-- **Searching by text finds the first widget with that text.** The widget in the slot that
`findText?` gives is the first of the panel's widgets whose current text is `t`. -/
theorem findText?_bind_widgetAt? (p : Panel) (t : String) :
    (p.findText? t).bind p.widgetAt? = p.widgets.find? (·.currentText == t) := by
  rw [widgets_eq]
  unfold findText? widgetAt?
  simp only [← Array.getElem?_toList]
  -- the search and the read both walk the list of slots; induction on it
  generalize p.slots.toList = ss
  induction ss with
  | nil => rfl
  | cons s ss ih =>
    obtain ⟨c, h⟩ := s
    cases c with
    | widget w =>
      by_cases hw : (w.currentText == t) = true
      · simp [List.findIdx?_cons, Slot.widget?, hw]
      · simp only [List.findIdx?_cons, List.filterMap_cons, Slot.widget?, List.find?_cons, hw,
          Bool.false_eq_true, if_false, Option.bind_map, Function.comp_def,
          List.getElem?_cons_succ]
        exact ih
    | separator | filler | spacer _ =>
      simp only [List.findIdx?_cons, List.filterMap_cons, Slot.widget?, Bool.false_eq_true,
        if_false, Option.bind_map, Function.comp_def, List.getElem?_cons_succ]
      exact ih

end Panel

namespace Strategy.Call

/-- The slots a call appends to a panel arranged by `arr`, in order. -/
def slots (arr : Arrangement) : Call → List Slot
  | .add w => [⟨.widget w, none⟩]
  | .addWithHint w hint => [⟨.widget w, arr.keptHint (some hint)⟩]
  | .addAll ws => ws.map fun w => ⟨.widget w, none⟩
  | .addGap size => [⟨arr.gapCell size, none⟩]
  | .addSeparator => [⟨.separator, none⟩]
  | .build | .getPanel => []

/-- The widgets a call adds, in order. -/
def widgets : Call → List Widget
  | .add w | .addWithHint w _ => [w]
  | .addAll ws => ws
  | _ => []

/-- Whether a call asks for a gap. -/
def isGap : Call → Bool
  | .addGap _ => true
  | _ => false

/-- Whether a call appends a separator. -/
def isSeparator : Call → Bool
  | .addSeparator => true
  | _ => false

variable (arr : Arrangement) (cs : List Call)

/-- The widgets among the appended slots are the widgets the calls add. -/
theorem filterMap_widget?_slots :
    (cs.flatMap (slots arr)).filterMap Slot.widget? = cs.flatMap widgets := by
  induction cs with
  | nil => rfl
  | cons c cs ih =>
    rw [List.flatMap_cons, List.filterMap_append, ih, List.flatMap_cons]
    cases c <;> cases arr <;>
      simp [slots, widgets, Slot.widget?, Arrangement.gapCell, List.filterMap_cons,
        List.filterMap_map, Function.comp_def]

/-- The appended fillers are the gaps on a grid and none on a stack. -/
theorem countP_isFiller_slots :
    (cs.flatMap (slots arr)).countP Slot.isFiller =
      if arr.gapFidelity = .singleCell then cs.countP isGap else 0 := by
  induction cs with
  | nil => cases arr <;> rfl
  | cons c cs ih =>
    rw [List.flatMap_cons, List.countP_append, ih, Nat.add_comm]
    cases c <;> cases arr <;>
      simp [slots, isGap, Slot.isFiller, Arrangement.gapCell, Arrangement.gapFidelity,
        List.countP_cons]

/-- The appended separators are the separators asked for. -/
theorem countP_isSeparator_slots :
    (cs.flatMap (slots arr)).countP Slot.isSeparator = cs.countP isSeparator := by
  induction cs with
  | nil => rfl
  | cons c cs ih =>
    rw [List.flatMap_cons, List.countP_append, ih, Nat.add_comm]
    cases c <;> cases arr <;>
      simp [slots, isSeparator, Slot.isSeparator, Arrangement.gapCell, List.countP_cons]

/-- One slot is appended per widget, gap and separator. -/
theorem length_slots :
    (cs.flatMap (slots arr)).length =
      (cs.flatMap widgets).length + cs.countP isGap + cs.countP isSeparator := by
  induction cs with
  | nil => rfl
  | cons c cs ih =>
    rw [List.flatMap_cons, List.length_append, ih, List.flatMap_cons, List.length_append]
    cases c <;> simp [slots, widgets, isGap, isSeparator, List.countP_cons] <;> omega

end Strategy.Call

theorem Arrangement.keptHint_none (arr : Arrangement) : arr.keptHint none = none := by
  cases arr <;> rfl

namespace Strategy

variable {s : Strategy} {hs : List Nat} {q : Panel}

/-- The strategy's own handle reads `q`, and every handle in `hs` names the same panel. -/
structure Shows (s : Strategy) (hs : List Nat) (q : Panel) : Prop where
  own : s.panels.get? s.own = some q
  same : ∀ k ∈ hs, s.panels.sameCell? k s.own = some true

/-- Every handle handed out by a strategy that shows `q` reads `q`. -/
theorem Shows.get? (h : Shows s hs q) {k : Nat} (hk : k ∈ hs) : s.panels.get? k = some q :=
  (Shared.get?_eq_of_cellOf?_eq rfl (Shared.cellOf?_eq_of_sameCell? (h.same k hk))).trans h.own

theorem shows_create (l : Layout) : Shows (create l) [] l.panel :=
  ⟨rfl, fun _ hk => absurd hk List.not_mem_nil⟩

theorem Shows.layout? (h : Shows s hs q) :
    s.layout? = some { panel := q, grewPastRows := s.grewPastRows } := by
  simp [Strategy.layout?, h.own]

/-- **A step runs on the panel the strategy shows,** and the strategy then shows the panel the
step leaves, through the same handles. -/
theorem Shows.apply (h : Shows s hs q) (step : Layout → Layout × Option Overflow) :
    Shows (s.apply step).1 hs (step { panel := q, grewPastRows := s.grewPastRows }).1.panel := by
  obtain ⟨m', hm, hhandles, hget⟩ :=
    Shared.modify?_of_get? h.own fun _ => (step ⟨q, s.grewPastRows⟩).1.panel
  -- the change keeps every handle on its cell, so the handles handed out still share one
  have hcell : ∀ k, m'.cellOf? k = s.panels.cellOf? k := fun k => by
    simp only [Shared.cellOf?, hhandles]
  simp only [Strategy.apply, h.layout?, hm, Option.getD_some]
  refine ⟨hget, fun k hk => Shared.sameCell?_of_cellOf?_eq ?_ hget⟩
  rw [hcell, hcell]
  exact Shared.cellOf?_eq_of_sameCell? (h.same k hk)

/-- **A handle handed out names the strategy's panel,** and the handles before it keep theirs. -/
theorem Shows.getPanel (h : Shows s hs q) : Shows s.getPanel.1 (hs ++ [s.getPanel.2]) q := by
  obtain ⟨m', hm, hcells, hnew, hold⟩ := Shared.clone?_of_get? h.own
  obtain ⟨i, hi, -⟩ := Shared.cellOf?_of_get? h.own
  have hget : m'.get? s.own = some q :=
    (Shared.get?_eq_of_cellOf?_eq hcells ((hold s.own i hi).trans hi.symm)).trans h.own
  simp only [Strategy.getPanel, hm]
  refine ⟨hget, fun k hk => ?_⟩
  rcases List.mem_append.1 hk with hk | hk
  · obtain ⟨i', hk', ho⟩ := Shared.sameCell?_eq_true_iff.1 (h.same k hk)
    exact Shared.sameCell?_eq_true_iff.2 ⟨i', hold k i' hk', hold s.own i' ho⟩
  · rw [List.mem_singleton.1 hk]
    exact Shared.sameCell?_of_cellOf?_eq ((hnew.trans hi).trans (hold s.own i hi).symm) hget

/-- A step that appends one slot to the panel shown appends it to the panel the strategy then
shows. -/
theorem Shows.apply_push (h : Shows s hs q) (step : Layout → Layout × Option Overflow)
    {c : Cell} {hint : Option PlacementHint}
    (hstep : (step { panel := q, grewPastRows := s.grewPastRows }).1.panel = q.push c hint) :
    ∃ q', Shows (s.apply step).1 hs q' ∧ Panel.Appended q [⟨c, hint⟩] q' :=
  ⟨_, hstep ▸ h.apply step, Panel.appended_push q c hint⟩

/-- Adding widgets one by one appends them in order, when no addition overflows. -/
theorem Shows.addAll (h : Shows s hs q) (ws : List Widget) (he : (s.addAll ws).2 = none) :
    ∃ q', Shows (s.addAll ws).1 hs q' ∧
      Panel.Appended q (ws.map fun w => ⟨.widget w, none⟩) q' := by
  induction ws generalizing s q with
  | nil => exact ⟨q, h, Panel.Appended.refl q⟩
  | cons w ws ih =>
    obtain ⟨q₁, h₁, happ₁⟩ := h.apply_push (·.add w none) (by
      rw [Layout.panel_add, Arrangement.keptHint_none])
    rcases hstep : s.apply (·.add w none) with ⟨s₁, _ | e⟩
    · rw [hstep] at h₁
      simp only [Strategy.addAll, hstep] at he ⊢
      obtain ⟨q', h', happ'⟩ := ih h₁ he
      exact ⟨q', h', happ₁.trans happ'⟩
    · simp [Strategy.addAll, hstep] at he

/-- **Each call keeps the invariant.** A call that does not overflow appends its slots to the
panel shown, and the handle it returns, if it returns one, names that panel. -/
theorem Shows.call (h : Shows s hs q) (c : Call) (he : (s.call c).2.2 = none) :
    ∃ q', Shows (s.call c).1 (hs ++ (s.call c).2.1.toList) q' ∧
      Panel.Appended q (c.slots q.arrangement) q' := by
  -- a call is one step of the layout, `addAll` several, or a handle handed out
  cases c <;>
    simp only [Strategy.call, placed, Option.toList, List.append_nil, Call.slots] at he ⊢
  case add w => exact h.apply_push _ (by rw [Layout.panel_add, Arrangement.keptHint_none])
  case addWithHint w hint => exact h.apply_push _ (Layout.panel_add _ w _)
  case addAll ws => exact h.addAll ws he
  case addGap size => exact h.apply_push _ (Layout.panel_addGap _ size)
  case addSeparator => exact h.apply_push _ (Layout.panel_addSeparator _)
  case build | getPanel => exact ⟨q, h.getPanel, Panel.Appended.refl q⟩

/-- **The invariant holds along every run that does not overflow:** the panel shown at its end
is the panel shown at its start with the slots of every call appended, in call order. -/
theorem Shows.run (h : Shows s hs q) (cs : List Call) (he : (s.run cs).2.2 = none) :
    ∃ q', Shows (s.run cs).1 (hs ++ (s.run cs).2.1) q' ∧
      Panel.Appended q (cs.flatMap (Call.slots q.arrangement)) q' := by
  induction cs generalizing s hs q with
  | nil => exact ⟨q, by simpa [Strategy.run] using h, Panel.Appended.refl q⟩
  | cons c cs ih =>
    rcases hc : s.call c with ⟨s₁, k, _ | e⟩
    · obtain ⟨q₁, h₁, happ₁⟩ := h.call c (by rw [hc])
      rw [hc] at h₁
      simp only [Strategy.run, hc] at he ⊢
      obtain ⟨q', h', happ'⟩ := ih h₁ he
      rw [happ₁.arrangement] at happ'
      refine ⟨q', by simpa only [List.append_assoc] using h', ?_⟩
      rw [List.flatMap_cons]
      exact happ₁.trans happ'
    · simp [Strategy.run, hc] at he

/-- What a consumer reads from the panel `q` that the calls `cs` leave, starting from the panel
`p`: one slot per item in call order, the arrangement and border of `p`, and the counts, the
widgets and the search by text that follow. -/
structure AfterCalls (p : Panel) (cs : List Call) (q : Panel) : Prop where
  appended : Panel.Appended p (cs.flatMap (Call.slots p.arrangement)) q
  len : q.len = p.len + (cs.flatMap Call.widgets).length + cs.countP Call.isGap +
    cs.countP Call.isSeparator
  widgets : q.widgets = p.widgets ++ cs.flatMap Call.widgets
  widgetCount : q.widgetCount = p.widgetCount + (cs.flatMap Call.widgets).length
  fillerCount : q.fillerCount =
    p.fillerCount + if p.arrangement.gapFidelity = .singleCell then cs.countP Call.isGap else 0
  separatorCount : q.separatorCount = p.separatorCount + cs.countP Call.isSeparator
  findText : ∀ t, (q.findText? t).bind q.widgetAt? =
    (p.widgets ++ cs.flatMap Call.widgets).find? (·.currentText == t)

/-- The counts, widgets and search of a panel follow from the slots appended to it. -/
theorem afterCalls_of_appended {p q : Panel} {cs : List Call}
    (h : Panel.Appended p (cs.flatMap (Call.slots p.arrangement)) q) : AfterCalls p cs q := by
  have hwidgets : q.widgets = p.widgets ++ cs.flatMap Call.widgets := by
    rw [Panel.widgets_eq, Panel.widgets_eq, h.slots, List.filterMap_append,
      Call.filterMap_widget?_slots]
  refine ⟨h, ?_, hwidgets, ?_, ?_, ?_, fun t => ?_⟩
  · simp only [Panel.len, ← Array.length_toList, h.slots, List.length_append, Call.length_slots]
    omega
  · simp only [Panel.widgetCount, hwidgets, List.length_append]
  · rw [Panel.fillerCount_eq, Panel.fillerCount_eq, h.slots, List.countP_append,
      Call.countP_isFiller_slots]
  · rw [Panel.separatorCount_eq, Panel.separatorCount_eq, h.slots, List.countP_append,
      Call.countP_isSeparator_slots]
  · rw [Panel.findText?_bind_widgetAt?, hwidgets]

/-- **Every handle a strategy hands out shows every call, in call order.** For any layout, grid
or stack, and any calls that finish without an overflow, the strategy's own handle and every
handle that `build` and `getPanel` returned along the way name one panel and read it: the
starting panel with the slots of the calls appended in call order, its arrangement and border
unchanged, and the counts, widgets and search by text that follow. -/
theorem handles_show_calls (l : Layout) (cs : List Call) {s : Strategy} {hs : List Nat}
    (hrun : (create l).run cs = (s, hs, none)) :
    ∃ q, Shows s hs q ∧ (∀ k ∈ hs, s.panels.get? k = some q) ∧
      AfterCalls l.panel cs q := by
  obtain ⟨q, hq, happ⟩ := (shows_create l).run cs (by rw [hrun])
  rw [hrun, List.nil_append] at hq
  exact ⟨q, hq, fun k hk => hq.get? hk, afterCalls_of_appended happ⟩

/-- A stack read through the handle taken before anything was added shows the title, the spacer
and the separator added after it, as the handle `build` gives does. -/
theorem stack_handles_show_calls :
    let l := Layout.stackSpaced 4
    let cs := [.getPanel, .add (Widget.ofSpec 1 (WidgetSpec.blank .label)), .addGap 12,
      .addSeparator, .build]
    ∃ s hs, (create l).run cs = (s, hs, none) ∧
      ∃ q, Shows s hs q ∧ (∀ k ∈ hs, s.panels.get? k = some q) ∧
        AfterCalls l.panel cs q :=
  ⟨_, _, rfl, handles_show_calls _ _ rfl⟩

end Strategy

end Sidebar
