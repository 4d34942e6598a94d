import Sidebar.Widget.Instance
import Sidebar.Proofs.Notifications
/-!
# Widgets made from one specification

`WidgetSpec::instantiate` (`crates/panelkit-widgets/src/spec.rs`) and `WidgetBuilder::finalize`
of a clone (`builder.rs`), with the `Widget` each makes (`widget.rs`).

Widgets made from one specification share it and nothing else: each owns its text signal and
its enabled state. `Copies` makes widgets one after another from a specification and calls them
in any interleaving; a widget's number comes from the count of widgets made, and the actions
that activations run are collected in order.

After any run whose text changes all finish, every widget still holds the specification, the
widgets are numbered in the order they were made, and each widget is what the calls made on it
make of a new widget (`Copies.run_independent`): its enabled state is the last one set on it, or
the specification's; its text signal, with the entries logged on it, is what the text calls made
on it make of a new signal holding the specification's text, so its subscribers are those
subscribed on it and its text is the value the last change on it stored; and activating it runs
the specification's action exactly when it is a button with one and the widget is enabled.

The proof follows each widget through the run with the calls made on it so far (`Copies.Inv`),
from one lemma per call on a widget (`Widget.call_spec`).
-/

namespace Sidebar
namespace Widget

namespace Call

/-- The call a widget call makes on the widget's text signal, if it makes one. -/
def text? : Call → Option (Signal.Call String)
  | .setText t => some (.set t)
  | .onTextChange sub => some (.subscribe sub)
  | _ => none

/-- The enabled state a call sets, if it sets one. -/
def enabled? : Call → Option Bool
  | .setEnabled b => some b
  | _ => none

end Call

/-- Makes calls on a widget in order: the widget after them and the entries logged, in
order. -/
def runCalls (w : Widget) : List Call → Option (Widget × Array (String × String))
  | [] => some (w, #[])
  | c :: cs =>
    match w.call c with
    | none => none
    | some (w', log, _) => (w'.runCalls cs).map fun (w'', log') => (w'', log ++ log')

/-- **One call on a widget.** It keeps the widget's number and specification, sets the enabled
state it sets, makes its text call on the text signal, and runs the widget's action when it
activates. -/
theorem call_spec {w w' : Widget} {c : Call} {log : Array (String × String)} {a : Option Action}
    (h : w.call c = some (w', log, a)) :
    w'.id = w.id ∧ w'.spec = w.spec ∧ w'.enabled = (c.enabled?).getD w.enabled ∧
      (c.text?).elim (w'.text = w.text ∧ log = #[])
        (fun sc => Signal.Call.run w.text sc = some { signal := w'.text, log }) ∧
      a = (match c with | .activate => w.activate | _ => none) := by
  cases c with
  | setText t =>
    simp only [call, setText, Option.map_map, Option.map_eq_some_iff] at h
    obtain ⟨r, hr, hw⟩ := h
    simp only [Function.comp_apply, Prod.mk.injEq] at hw
    obtain ⟨rfl, rfl, rfl⟩ := hw
    simp [Call.enabled?, Call.text?, Signal.Call.run, Signal.Call.set, Signal.update, hr]
  | setEnabled b =>
    simp only [call, Option.some.injEq, Prod.mk.injEq] at h
    obtain ⟨rfl, rfl, rfl⟩ := h
    simp [setEnabled, Call.enabled?, Call.text?]
  | onTextChange sub =>
    simp only [call, Option.some.injEq, Prod.mk.injEq] at h
    obtain ⟨rfl, rfl, rfl⟩ := h
    simp [onTextChange, Call.enabled?, Call.text?, Signal.Call.run]
  | activate =>
    simp only [call, Option.some.injEq, Prod.mk.injEq] at h
    obtain ⟨rfl, rfl, rfl⟩ := h
    simp [Call.enabled?, Call.text?]

/-- Calls on a widget after others: the calls before, then the last one. -/
theorem runCalls_append_singleton (w : Widget) (cs : List Call) (c : Call) :
    w.runCalls (cs ++ [c]) = (w.runCalls cs).bind fun (w₁, log) =>
      (w₁.call c).map fun (w₂, log', _) => (w₂, log ++ log') := by
  induction cs generalizing w with
  | nil =>
    simp only [List.nil_append, runCalls, Option.bind_some, Array.empty_append]
    cases w.call c with
    | none => rfl
    | some r => simp
  | cons c₀ cs ih =>
    simp only [List.cons_append, runCalls]
    cases w.call c₀ with
    | none => rfl
    | some r =>
      obtain ⟨w₁, log₁, _⟩ := r
      simp only [ih]
      cases w₁.runCalls cs with
      | none => rfl
      | some r₂ =>
        obtain ⟨w₂, log₂⟩ := r₂
        simp only [Option.bind_some, Option.map_some]
        cases w₂.call c with
        | none => rfl
        | some r₃ => simp [Array.append_assoc]

/-- **Calls on a widget.** They keep its number and specification, its enabled state is the last
one they set, or the one it had, and its text signal with the entries logged is what their
text calls make of the signal it had. -/
theorem runCalls_spec {w w' : Widget} {cs : List Call} {log : Array (String × String)}
    (h : w.runCalls cs = some (w', log)) :
    w'.id = w.id ∧ w'.spec = w.spec ∧
      w'.enabled = ((cs.filterMap Call.enabled?).getLast?).getD w.enabled ∧
      Signal.runCalls w.text (cs.filterMap Call.text?) = some { signal := w'.text, log } := by
  induction cs generalizing w log with
  | nil =>
    simp only [runCalls, Option.some.injEq, Prod.mk.injEq] at h
    obtain ⟨rfl, rfl⟩ := h
    simp [Signal.runCalls]
  | cons c cs ih =>
    simp only [runCalls] at h
    cases hc : w.call c with
    | none => simp [hc] at h
    | some r =>
      obtain ⟨w₁, log₁, a⟩ := r
      rw [hc] at h
      obtain ⟨⟨w₂, log₂⟩, h₂, he⟩ := Option.map_eq_some_iff.1 h
      simp only [Prod.mk.injEq] at he
      obtain ⟨rfl, rfl⟩ := he
      obtain ⟨hid, hspec, hen, htext, -⟩ := call_spec hc
      obtain ⟨hid', hspec', hen', htext'⟩ := ih h₂
      refine ⟨hid'.trans hid, hspec'.trans hspec, ?_, ?_⟩
      · -- a later setting of the enabled state wins over this call's
        rw [hen', hen]
        cases c <;> simp [Call.enabled?, List.getLast?_cons, Option.getD]
      · cases hct : c.text? with
        | none =>
          rw [hct] at htext
          obtain ⟨htw, rfl⟩ := htext
          rw [List.filterMap_cons, hct, ← htw, htext']
          simp
        | some sc =>
          rw [hct] at htext
          rw [List.filterMap_cons, hct, Signal.runCalls, htext]
          simp [htext']

end Widget

/-- Widgets made one after another from one specification: the number of widgets made in all,
the widgets in the order they were made, the entries their text subscribers logged, each with
the place of the widget it was logged on, and the actions their activations ran, in order. -/
structure Copies where
  spec : WidgetSpec
  made : Nat
  widgets : List Widget := []
  log : List (Nat × String × String) := []
  ran : List Action := []

namespace Copies

/-- A step of a run of copies. -/
inductive Step where
  /-- A new widget from the specification, as `instantiate` or `finalize` of a clone of the
  builder makes it. -/
  | make
  /-- A call on the widget made at place `i`. -/
  | call (i : Nat) (c : Widget.Call)

/-- Makes a step: `none` when the text changes it starts nest too deeply. A call on a widget
that was not made does nothing. -/
def step (cp : Copies) : Step → Option Copies
  | .make =>
    some { cp with made := cp.made + 1, widgets := cp.widgets ++ [Widget.ofSpec (cp.made + 1) cp.spec] }
  | .call i c =>
    match cp.widgets[i]? with
    | none => some cp
    | some w =>
      (w.call c).map fun (w', log, a) =>
        { cp with widgets := cp.widgets.set i w', log := cp.log ++ log.toList.map (i, ·),
                  ran := cp.ran ++ a.toList }

/-- Makes the steps in order. -/
def run (cp : Copies) : List Step → Option Copies
  | [] => some cp
  | st :: rest => (cp.step st).bind (run · rest)

/-- The calls made on the widget at place `i`, in order, after it was made, when `n` widgets
were made before the steps. -/
def callsOn : Nat → List Step → Nat → List Widget.Call
  | _, [], _ => []
  | n, .make :: rest, i => callsOn (n + 1) rest i
  | n, .call j c :: rest, i => (if j = i ∧ i < n then [c] else []) ++ callsOn n rest i

/-- The entries logged on the widget at place `i`, in order. -/
def logOn (cp : Copies) (i : Nat) : List (String × String) :=
  cp.log.filterMap fun e => if e.1 = i then some e.2 else none

/-- Every widget of a run of copies is what the calls made on it so far make of a new widget
from the specification, numbered after the widgets made before it; the entries logged name
widgets that were made, and every action run is the specification's. -/
structure Inv (s : WidgetSpec) (n : Nat) (cp : Copies) (calls : Nat → List Widget.Call) :
    Prop where
  spec : cp.spec = s
  made : cp.made = n + cp.widgets.length
  own : ∀ i w, cp.widgets[i]? = some w →
    (Widget.ofSpec (n + i + 1) s).runCalls (calls i) = some (w, (cp.logOn i).toArray)
  unmade : ∀ i, cp.widgets.length ≤ i → calls i = []
  logged : ∀ e ∈ cp.log, e.1 < cp.widgets.length
  ran : ∀ a ∈ cp.ran, s.kindSpec = .button (some a)

theorem logOn_of_log {cp cp' : Copies} {j : Nat} {log : Array (String × String)}
    (h : cp'.log = cp.log ++ log.toList.map (j, ·)) (i : Nat) :
    cp'.logOn i = cp.logOn i ++ (if i = j then log.toList else []) := by
  simp only [logOn, h, List.filterMap_append, List.filterMap_map, Function.comp_def]
  congr 1
  by_cases hij : i = j
  · subst hij
    simp
  · simp [hij, Ne.symm hij]

/-- Nothing is logged on a place past every widget that entries name. -/
theorem logOn_eq_nil {cp : Copies} {n i : Nat} (h : ∀ e ∈ cp.log, e.1 < n) (hi : n ≤ i) :
    cp.logOn i = [] := by
  simp only [logOn, List.filterMap_eq_nil_iff]
  intro e he
  have := h e he
  simp only [ite_eq_right_iff, reduceCtorEq, imp_false]
  omega

/-- The start of a run: no widget made yet, `n` made before. -/
theorem inv_start (s : WidgetSpec) (n : Nat) :
    Inv s n { spec := s, made := n } (fun _ => []) where
  spec := rfl
  made := rfl
  own := by simp
  unmade := fun _ _ => rfl
  logged := by simp
  ran := by simp

variable {s : WidgetSpec} {n : Nat} {cp cp' : Copies} {calls : Nat → List Widget.Call}

/-- Making a widget keeps the invariant: the new widget has had no calls and nothing was logged
on its place. -/
theorem Inv.make (h : Inv s n cp calls) (hs : cp.step .make = some cp') :
    Inv s n cp' calls ∧ cp'.widgets.length = cp.widgets.length + 1 := by
  simp only [step, Option.some.injEq] at hs
  subst hs
  have hlen : (cp.widgets ++ [Widget.ofSpec (cp.made + 1) cp.spec]).length =
      cp.widgets.length + 1 := by simp
  refine ⟨⟨h.spec, ?_, fun i w hw => ?_, fun i hi => h.unmade i (by simp at hi; omega),
    fun e he => by have := h.logged e he; simp; omega, h.ran⟩, hlen⟩
  · show cp.made + 1 = n + (cp.widgets ++ _).length
    rw [hlen, h.made]
    omega
  · rcases Nat.lt_or_ge i cp.widgets.length with hi | hi
    · rw [List.getElem?_append_left hi] at hw
      exact h.own i w hw
    · -- the only place past the old widgets holds the new one
      rw [List.getElem?_append_right hi] at hw
      have hin : i = cp.widgets.length := by
        cases hk : i - cp.widgets.length with
        | zero => omega
        | succ k => simp [hk] at hw
      subst hin
      simp only [Nat.sub_self, List.getElem?_cons_zero, Option.some.injEq] at hw
      subst hw
      have hnil : cp.logOn cp.widgets.length = [] := logOn_eq_nil h.logged (Nat.le_refl _)
      rw [h.unmade _ (Nat.le_refl _), h.spec, h.made]
      show some _ = some (_, (cp.logOn _).toArray)
      rw [hnil]

/-- The action a call runs, on a widget made from the specification, is the
specification's. -/
theorem ran_of_call {w w' : Widget} {c : Widget.Call} {log : Array (String × String)}
    {a : Option Action} (hc : w.call c = some (w', log, a)) (hspec : w.spec = s) :
    ∀ act ∈ a.toList, s.kindSpec = .button (some act) := by
  obtain ⟨-, -, -, -, ha⟩ := Widget.call_spec hc
  intro act hact
  cases c with
  | activate =>
    have hw : w.activate = some act := by simpa [ha] using hact
    rw [← hspec]
    exact (Widget.activate_eq_some.1 hw).1
  | _ => simp [ha] at hact

/-- A call on a widget keeps the invariant: that widget's calls grow by the call and its log by
the entries logged, and every other widget is left as it was. A call on a place that holds no
widget does nothing. -/
theorem Inv.call {j : Nat} {c : Widget.Call} (h : Inv s n cp calls)
    (hs : cp.step (.call j c) = some cp') :
    Inv s n cp' (fun i => calls i ++ if j = i ∧ i < cp.widgets.length then [c] else []) ∧
      cp'.widgets.length = cp.widgets.length := by
  simp only [step] at hs
  cases hw : cp.widgets[j]? with
  | none =>
    rw [hw, Option.some.injEq] at hs
    subst hs
    have hj : cp.widgets.length ≤ j := List.getElem?_eq_none_iff.1 hw
    have hcalls : (fun i => calls i ++ if j = i ∧ i < cp.widgets.length then [c] else []) =
        calls := funext fun i => by
      have hno : ¬(j = i ∧ i < cp.widgets.length) := by omega
      simp [hno]
    rw [hcalls]
    exact ⟨h, rfl⟩
  | some w =>
    rw [hw] at hs
    obtain ⟨⟨w', log, a⟩, hc, hcp⟩ := Option.map_eq_some_iff.1 hs
    -- what the call changed: the widget called, the log and the actions run
    have hwidgets : cp'.widgets = cp.widgets.set j w' := by rw [← hcp]
    have hlog : cp'.log = cp.log ++ log.toList.map (j, ·) := by rw [← hcp]
    have hran : cp'.ran = cp.ran ++ a.toList := by rw [← hcp]
    have hmade : cp'.made = cp.made := by rw [← hcp]
    have hj : j < cp.widgets.length := (List.getElem?_eq_some_iff.1 hw).1
    have hown := h.own j w hw
    have hspec : w.spec = s := (Widget.runCalls_spec hown).2.1
    have hlen : cp'.widgets.length = cp.widgets.length := by simp [hwidgets]
    refine ⟨⟨by rw [← hcp, h.spec], by rw [hmade, hlen, h.made],
      fun i w'' hw'' => ?_, fun i hi => ?_, fun e he => ?_, fun act hact => ?_⟩, hlen⟩
    · rw [logOn_of_log hlog]
      rw [hwidgets] at hw''
      by_cases hij : i = j
      · -- the widget called: its calls and its log grow by this call's
        subst hij
        simp only [List.getElem?_set_self hj, Option.some.injEq] at hw''
        subst hw''
        simp only [hj, and_self, if_true]
        rw [Widget.runCalls_append_singleton, hown]
        simp [hc]
      · rw [List.getElem?_set_ne (Ne.symm hij)] at hw''
        simp only [hij, Ne.symm hij, false_and, if_false, List.append_nil]
        exact h.own i w'' hw''
    · rw [hlen] at hi
      have hno : ¬(j = i ∧ i < cp.widgets.length) := by omega
      simp [h.unmade i hi, hno]
    · rw [hlen]
      rw [hlog] at he
      rcases List.mem_append.1 he with he | he
      · exact h.logged e he
      · obtain ⟨_, -, rfl⟩ := List.mem_map.1 he
        exact hj
    · rw [hran] at hact
      rcases List.mem_append.1 hact with hact | hact
      · exact h.ran act hact
      · exact ran_of_call hc hspec act hact

/-- **A run keeps the invariant**, with each widget's calls grown by those the run makes on
it. -/
theorem Inv.run {steps : List Step} (h : Inv s n cp calls) (hr : cp.run steps = some cp') :
    Inv s n cp' (fun i => calls i ++ callsOn cp.widgets.length steps i) := by
  induction steps generalizing cp calls with
  | nil =>
    simp only [Copies.run, Option.some.injEq] at hr
    subst hr
    simpa [callsOn] using h
  | cons st rest ih =>
    obtain ⟨cp₁, hs, hr₁⟩ := Option.bind_eq_some_iff.1 hr
    cases st with
    | make =>
      obtain ⟨h₁, hlen⟩ := h.make hs
      have := ih h₁ hr₁
      rwa [hlen] at this
    | call j c =>
      obtain ⟨h₁, hlen⟩ := h.call hs
      have := ih h₁ hr₁
      rw [hlen] at this
      simpa [callsOn, List.append_assoc] using this

/-- Activating a widget changes nothing but the actions run, which grow by the one it runs, if
any. -/
theorem step_activate {i : Nat} {w : Widget} (hw : cp.widgets[i]? = some w) :
    cp.step (.call i .activate) = some { cp with ran := cp.ran ++ w.activate.toList } := by
  obtain ⟨hi, rfl⟩ := List.getElem?_eq_some_iff.1 hw
  simp [step, hw, Widget.call, List.set_getElem_self hi]

/-- What a run of copies says of its widgets. The specification is kept, by the run and by every
widget. The widgets are numbered in the order they were made, after those made before. Each
widget's enabled state is the last one set on it, or the specification's; its text signal, with
the entries logged on it, is what the text calls made on it make of a new signal holding the
specification's text, as `Signal.Notified` tells. Every action run is the specification's, and
activating a widget runs it exactly when the specification is a button with it and the widget
is enabled, and changes nothing else. -/
structure Independent (s : WidgetSpec) (n : Nat) (steps : List Step) (cp : Copies) : Prop where
  spec : cp.spec = s
  widgetSpec : ∀ w ∈ cp.widgets, w.spec = s
  ids : cp.widgets.map (·.id) = (List.range cp.widgets.length).map (n + · + 1)
  made : cp.made = n + cp.widgets.length
  enabled : ∀ i w, cp.widgets[i]? = some w →
    w.enabled = (((callsOn 0 steps i).filterMap Widget.Call.enabled?).getLast?).getD s.look.enabled
  text : ∀ i w, cp.widgets[i]? = some w →
    ∃ t, Signal.traceCalls { run := { signal := { value := s.look.text } } }
        ((callsOn 0 steps i).filterMap Widget.Call.text?) = some t ∧
      Signal.Notified { value := s.look.text } { signal := w.text, log := (cp.logOn i).toArray } t
  ran : ∀ a ∈ cp.ran, s.kindSpec = .button (some a)
  activate : ∀ i w, cp.widgets[i]? = some w →
    cp.step (.call i .activate) = some { cp with ran := cp.ran ++ w.activate.toList } ∧
      ∀ a, w.activate = some a ↔ s.kindSpec = .button (some a) ∧ w.enabled = true

/-- **Widgets made from one specification are independent.** After any run of copies whose text
changes all finish, each widget is what the calls made on it make of a new widget from the
specification, and of nothing else: see `Independent`. -/
theorem run_independent {s : WidgetSpec} {n : Nat} {steps : List Step} {cp : Copies}
    (h : ({ spec := s, made := n } : Copies).run steps = some cp) : Independent s n steps cp := by
  have hinv : Inv s n cp (callsOn 0 steps) := by simpa using (inv_start s n).run h
  -- each widget, from the calls made on it
  have hw : ∀ i w, cp.widgets[i]? = some w → w.id = n + i + 1 ∧ w.spec = s ∧
      w.enabled = (((callsOn 0 steps i).filterMap Widget.Call.enabled?).getLast?).getD
        s.look.enabled ∧
      Signal.runCalls { value := s.look.text } ((callsOn 0 steps i).filterMap Widget.Call.text?) =
        some { signal := w.text, log := (cp.logOn i).toArray } := fun i w hi =>
    Widget.runCalls_spec (hinv.own i w hi)
  refine ⟨hinv.spec, fun w hmem => ?_, ?_, hinv.made, fun i w hi => (hw i w hi).2.2.1,
    fun i w hi => Signal.exists_notified (hw i w hi).2.2.2, hinv.ran, fun i w hi => ?_⟩
  · obtain ⟨i, hi⟩ := List.mem_iff_getElem?.1 hmem
    exact (hw i w hi).2.1
  · refine List.ext_getElem (by simp) fun i h₁ h₂ => ?_
    simp only [List.getElem_map, List.getElem_range]
    exact (hw i _ (List.getElem?_eq_getElem _)).1
  · refine ⟨step_activate hi, fun a => ?_⟩
    rw [Widget.activate_eq_some, (hw i w hi).2.1]

/-- Two buttons from one specification: a subscriber on the first, a text set on the second,
the first disabled, then both activated. -/
theorem run_independent_button_pair :
    let s : WidgetSpec := { look := { text := "Clear" }, kindSpec := .button (some ⟨"clicks"⟩) }
    let steps : List Step := [.make, .make, .call 0 (.onTextChange ⟨"first", fun _ => []⟩),
      .call 1 (.setText "Other"), .call 0 (.setEnabled false), .call 0 .activate,
      .call 1 .activate]
    ∃ cp, ({ spec := s, made := 0 } : Copies).run steps = some cp ∧ Independent s 0 steps cp := by
  intro s steps
  obtain ⟨cp, h⟩ : ∃ cp, ({ spec := s, made := 0 } : Copies).run steps = some cp :=
    Option.isSome_iff_exists.1 (by decide)
  exact ⟨cp, h, run_independent h⟩

end Copies

end Sidebar
