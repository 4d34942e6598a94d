import Mathlib.Data.List.Induction
import Sidebar.Widget.Instance
import Sidebar.Widget.Builder
/-!
# The last call of each setter wins

The setters of `WidgetBuilder` in `crates/panelkit-widgets/src/builder.rs`.

A builder writes each field of a specification through one setter, and a later call of that
setter replaces an earlier one. So the specification that a chain of setter calls leaves is
determined field by field: each field holds the argument of the last call of its setter, or
its default when there was none (`lastCalls`). The font roles `normal`, `bold` and `small` are
calls of the font setter with that role, and the setters of a size, a tooltip, a background
and a number of visible lines store their argument as present.

`SpecField` names the sixteen fields that setters write and `Setter.value?` reads the
argument a setter gives a field, so every field is read by the one definition `lastValue?`.
The main statement is `last_call_wins`: along any chain of calls the builder of the kind has,
the specification is `lastCalls`, of that kind; two chains whose last calls agree field by
field give the same specification, so calls of distinct fields commute; and the widget made
from it starts with the text and the enabled state of the last calls.
-/

namespace Sidebar

/-- The fields of a specification that setters write. -/
inductive SpecField where
  | text
  | font
  | color
  | alignment
  | size
  | enabled
  | tooltip
  | onClick
  | placeholder
  | columns
  | editable
  | background
  | padding
  | html
  | visibleLines
  | wrap
  deriving DecidableEq, Repr

/-- The value a field's setter stores, without the `Option` of the optional fields. It is
reducible, so that a value is seen at its own type. -/
abbrev SpecField.Value : SpecField → Type
  | .text | .tooltip | .placeholder | .html => String
  | .font => FontRole
  | .color | .background => Color
  | .alignment => Alignment
  | .size => Size
  | .enabled | .editable | .wrap => Bool
  | .onClick => Action
  | .columns | .visibleLines => UInt64
  | .padding => Insets

namespace Setter

/-- The field a setter writes. -/
def field : Setter → SpecField
  | .text _ => .text
  | .font _ => .font
  | .color _ => .color
  | .align _ => .alignment
  | .size .. => .size
  | .enabled _ => .enabled
  | .tooltip _ => .tooltip
  | .onClick _ => .onClick
  | .placeholder _ => .placeholder
  | .columns _ => .columns
  | .editable _ => .editable
  | .background _ => .background
  | .padding _ => .padding
  | .html _ => .html
  | .visibleLines _ => .visibleLines
  | .wrap _ => .wrap

/-- The value a setter stores in field `f`, if it writes `f`. -/
def value? : (f : SpecField) → Setter → Option f.Value
  | .text, .text t => some t
  | .font, .font r => some r
  | .color, .color c => some c
  | .alignment, .align a => some a
  | .size, .size w h => some ⟨w, h⟩
  | .enabled, .enabled b => some b
  | .tooltip, .tooltip t => some t
  | .onClick, .onClick a => some a
  | .placeholder, .placeholder p => some p
  | .columns, .columns n => some n
  | .editable, .editable b => some b
  | .background, .background c => some c
  | .padding, .padding i => some i
  | .html, .html t => some t
  | .visibleLines, .visibleLines n => some n
  | .wrap, .wrap b => some b
  | _, _ => none

/-- A setter stores a value exactly in the field it writes. -/
theorem isSome_value?_iff (f : SpecField) (x : Setter) : (x.value? f).isSome ↔ x.field = f := by
  cases x <;> cases f <;> simp [value?, field]

/-- The last call among `xs` of the setter of field `f`. -/
def lastOf (f : SpecField) (xs : List Setter) : Option Setter :=
  (xs.filter (·.field == f)).getLast?

/-- The value stored in field `f` by the last call among `xs` of its setter. -/
def lastValue? (f : SpecField) (xs : List Setter) : Option f.Value :=
  (xs.filterMap (value? f)).getLast?

@[simp] theorem lastValue?_nil (f : SpecField) : lastValue? f [] = none := rfl

/-- A call appended to a chain gives its value to the field it writes and leaves the others. -/
@[simp] theorem lastValue?_append_singleton (f : SpecField) (xs : List Setter) (x : Setter) :
    lastValue? f (xs ++ [x]) = (x.value? f).or (lastValue? f xs) := by
  cases h : x.value? f <;> simp [lastValue?, h]

/-- The value a field holds is read off the last call of its setter. -/
theorem lastValue?_eq_bind (f : SpecField) (xs : List Setter) :
    lastValue? f xs = (lastOf f xs).bind (value? f) := by
  induction xs using List.reverseRecOn with
  | nil => rfl
  | append_singleton xs x ih =>
    rw [lastValue?_append_singleton, ih]
    by_cases hx : x.field = f
    · -- the appended call is the last of its field
      have hsome := (isSome_value?_iff f x).2 hx
      simp [lastOf, hx, Option.or_of_isSome hsome]
    · have hnone : x.value? f = none := by
        simpa using mt (isSome_value?_iff f x).1 hx
      simp [lastOf, hx, hnone]

/-- Two adjacent calls of distinct fields leave the last call of every field as it was. -/
theorem lastOf_swap {x y : Setter} (hxy : x.field ≠ y.field) (pre post : List Setter)
    (f : SpecField) : lastOf f (pre ++ y :: x :: post) = lastOf f (pre ++ x :: y :: post) := by
  -- at most one of the two calls writes `f`, so keeping the calls of `f` forgets their order
  have hpair : [y, x].filter (·.field == f) = [x, y].filter (·.field == f) := by
    by_cases hx : x.field = f <;> by_cases hy : y.field = f
    · exact absurd (hx.trans hy.symm) hxy
    all_goals simp [hx, hy]
  have hsplit : ∀ a b : Setter, pre ++ a :: b :: post = pre ++ [a, b] ++ post := by simp
  simp only [lastOf, hsplit, List.filter_append, hpair]

end Setter

open Setter

namespace WidgetSpec

/-- The specification that the builder of kind `k` gives after the calls `xs`, field by field:
each field holds the value of the last call of its setter, or its default when there was none.
The optional fields hold the value of the last call as present, or nothing. -/
def lastCalls (k : WidgetKind) (xs : List Setter) : WidgetSpec where
  look :=
    { text := (lastValue? .text xs).getD ({} : Appearance).text
      font := (lastValue? .font xs).getD ({} : Appearance).font
      color := (lastValue? .color xs).getD ({} : Appearance).color
      alignment := (lastValue? .alignment xs).getD ({} : Appearance).alignment
      size := lastValue? .size xs
      enabled := (lastValue? .enabled xs).getD ({} : Appearance).enabled
      tooltip := lastValue? .tooltip xs }
  kindSpec :=
    match k with
    | .label => .label
    | .button => .button (lastValue? .onClick xs)
    | .textField => .textField
        { placeholder := (lastValue? .placeholder xs).getD ({} : FieldSpec).placeholder
          columns := (lastValue? .columns xs).getD ({} : FieldSpec).columns
          editable := (lastValue? .editable xs).getD ({} : FieldSpec).editable }
    | .panel => .panel
        { background := lastValue? .background xs
          padding := (lastValue? .padding xs).getD ({} : BoxSpec).padding }
    | .richText => .richText
        { html := (lastValue? .html xs).getD ({} : RichTextSpec).html
          visibleLines := lastValue? .visibleLines xs
          wrap := (lastValue? .wrap xs).getD ({} : RichTextSpec).wrap }

theorem lastCalls_nil (k : WidgetKind) : lastCalls k [] = blank k := by
  cases k <;> rfl

@[simp] theorem kind_lastCalls (k : WidgetKind) (xs : List Setter) : (lastCalls k xs).kind = k := by
  cases k <;> rfl

/-- Specifications whose calls agree on the last call of every field are equal. -/
theorem lastCalls_congr (k : WidgetKind) {xs ys : List Setter}
    (h : ∀ f, lastOf f ys = lastOf f xs) : lastCalls k ys = lastCalls k xs := by
  have hv : ∀ f, lastValue? f ys = lastValue? f xs := fun f => by
    rw [lastValue?_eq_bind, lastValue?_eq_bind, h f]
  simp only [lastCalls, hv]

/-- **One more call.** A setter the builder has, called after `xs`, moves the specification to
the one of `xs` followed by it. -/
theorem set?_lastCalls {k : WidgetKind} {x : Setter} (hx : x.availableFor k = true)
    (xs : List Setter) : (lastCalls k xs).set? x = some (lastCalls k (xs ++ [x])) := by
  -- each setter against each kind: the kind-specific setters of other kinds are not available
  cases x <;> cases k <;>
    simp_all [availableFor, kind?, set?, lastCalls, value?]

/-- **A chain of calls, from any point.** The calls `xs`, each one the builder has, move the
specification of the calls `pre` to that of `pre ++ xs`. -/
theorem setAll?_lastCalls {k : WidgetKind} (pre : List Setter) {xs : List Setter}
    (hxs : ∀ x ∈ xs, x.availableFor k = true) :
    (lastCalls k pre).setAll? xs = some (lastCalls k (pre ++ xs)) := by
  induction xs generalizing pre with
  | nil => simp [setAll?]
  | cons x xs ih =>
    have hx := hxs x List.mem_cons_self
    have hrest : ∀ y ∈ xs, y.availableFor k = true := fun y hy => hxs y (List.mem_cons_of_mem x hy)
    rw [setAll?, set?_lastCalls hx, Option.bind_some, ih (pre ++ [x]) hrest, List.append_assoc,
      List.singleton_append]

theorem setAll?_blank {k : WidgetKind} {xs : List Setter}
    (hxs : ∀ x ∈ xs, x.availableFor k = true) :
    (blank k).setAll? xs = some (lastCalls k xs) := by
  simpa [lastCalls_nil] using setAll?_lastCalls [] hxs

/-- **The last call of each setter wins.** For every kind and every chain of calls of setters
its builder has, starting from the blank specification: the specification holds, field by
field, the value of the last call of the field's setter or the field's default, and has the
builder's kind. Another chain with the same last call of every field gives the same
specification; in particular two adjacent calls of distinct fields commute. The widget made
from the specification has it, and starts with its last text and enabled state. -/
theorem last_call_wins (k : WidgetKind) (xs : List Setter)
    (hxs : ∀ x ∈ xs, x.availableFor k = true) :
    (blank k).setAll? xs = some (lastCalls k xs) ∧ (lastCalls k xs).kind = k ∧
    (∀ ys : List Setter, (∀ y ∈ ys, y.availableFor k = true) → (∀ f, lastOf f ys = lastOf f xs) →
      (blank k).setAll? ys = (blank k).setAll? xs) ∧
    (∀ (pre post : List Setter) (x y : Setter), xs = pre ++ x :: y :: post →
      x.field ≠ y.field → (blank k).setAll? (pre ++ y :: x :: post) = (blank k).setAll? xs) ∧
    (∀ n : Nat, Widget.ofSpec n (lastCalls k xs) =
      { id := n, spec := lastCalls k xs, text := { value := (lastValue? .text xs).getD "" },
        enabled := (lastValue? .enabled xs).getD true }) := by
  have hbuilt := setAll?_blank hxs
  refine ⟨hbuilt, kind_lastCalls k xs, fun ys hys hlast => ?_, fun pre post x y hsplit hxy => ?_,
    fun n => rfl⟩
  · rw [hbuilt, setAll?_blank hys, lastCalls_congr k hlast]
  · -- the swapped chain is a permutation of the chain, so each of its calls is available
    have hperm : (pre ++ y :: x :: post).Perm xs :=
      hsplit ▸ (List.Perm.swap x y post).append_left pre
    have hswapped : ∀ z ∈ pre ++ y :: x :: post, z.availableFor k = true := fun z hz =>
      hxs z (hperm.subset hz)
    rw [hbuilt, setAll?_blank hswapped, lastCalls_congr k fun f => ?_]
    rw [hsplit]
    exact lastOf_swap hxy pre post f

/-- A button whose font is set twice and whose action is set twice, with its text between:
the later font and the later action win. -/
theorem last_call_wins_button :
    let xs := [.text "Clear", .font .bold, .onClick ⟨"first"⟩, .font .small, .onClick ⟨"second"⟩]
    (∀ x ∈ xs, x.availableFor .button = true) ∧
    ((blank .button).setAll? xs = some (lastCalls .button xs) ∧ (lastCalls .button xs).kind = .button ∧
    (∀ ys : List Setter, (∀ y ∈ ys, y.availableFor .button = true) →
      (∀ f, lastOf f ys = lastOf f xs) → (blank .button).setAll? ys = (blank .button).setAll? xs) ∧
    (∀ (pre post : List Setter) (x y : Setter), xs = pre ++ x :: y :: post →
      x.field ≠ y.field →
        (blank .button).setAll? (pre ++ y :: x :: post) = (blank .button).setAll? xs) ∧
    (∀ n : Nat, Widget.ofSpec n (lastCalls .button xs) =
      { id := n, spec := lastCalls .button xs, text := { value := (lastValue? .text xs).getD "" },
        enabled := (lastValue? .enabled xs).getD true })) :=
  ⟨by decide, last_call_wins .button _ (by decide)⟩

end WidgetSpec

end Sidebar
