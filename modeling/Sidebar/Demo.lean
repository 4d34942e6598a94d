import Sidebar.Panel.Assembly
/-!
# The sidebar demonstration

`demos/sidebar.rs`.

Assembles a plugin sidebar with the default configuration: a stack of a title, a gap, an
info block, a search field, a separator, a thin bar and a clear button, and a stats grid of
three name and value pairs separated by gaps. The clear button is found by its text and
activated once. The report lists the stack's widgets, one line each with the kind, the text
and the font size, in columns of 10 and 48 characters, and ends with the shape of the stats
grid and the number of clears.
-/

namespace Sidebar
namespace Demo

/-- The counter the clear button increments. -/
def clears : String := "clears"

/-- The text padded with spaces on the right to `width` characters. -/
def padRight (s : String) (width : Nat) : String :=
  s ++ String.ofList (List.replicate (width - s.length) ' ')

/-- The main stack of the sidebar. -/
def sidebar (c : Config) : Assembly :=
  let a := Assembly.start (Layout.stackSpaced 4)
  let (a, title) := a.make
    { look := { text := "Session Tracker", font := .bold, color := Color.brandOrange },
      kindSpec := .label }
  let (a, _) := a.withCall (.addWithHint title (.align .center))
  let (a, _) := a.addGap 8
  let info := WidgetSpec.richTextFor c
  let (a, _) := a.addCopies
    { info with look := { info.look with text := "Tracks kills and loot for the current session." } }
    none 1
  let (a, _) := a.addCopies
    { kindSpec := .textField { placeholder := "Filter items", columns := 16 } } none 1
  let (a, _) := a.addSeparator
  let (a, _) := a.addCopies
    { look := { size := some ⟨200, 4⟩ }, kindSpec := .panel { background := some Color.darkerGray } }
    none 1
  let (a, clear) := a.make
    { look := { text := "Clear", size := some ⟨200, 30⟩ }, kindSpec := .button (some ⟨clears⟩) }
  (a.withCall (.addWithHint clear .fill)).1

/-- The stats grid: each name in small light grey, a gap, and its value aligned to the
trailing edge. -/
def statsGrid (c : Config) : Assembly :=
  [("Kills", "0"), ("Deaths", "0"), ("Loot", "0 gp")].foldl
    (fun a (name, value) =>
      let (a, _) := a.addCopies
        { look := { text := name, font := .small, color := Color.lightGray }, kindSpec := .label }
        none 1
      let (a, _) := a.addGap 5
      (a.addCopies { look := { text := value, alignment := .trailing }, kindSpec := .label }
        none 1).1)
    (Assembly.start (GridShape.ofConfig c 0).build)

/-- The stack after its clear button was found and activated. -/
def activated (c : Config) : Assembly :=
  let a := sidebar c
  match a.panel.findText? "Clear" with
  | some slot =>
    match a.activate slot with
    | .ok (a, _) => a
    | .error _ => a
  | none => a

/-- One line of the report for a widget. -/
def line (c : Config) (w : Widget) : String :=
  padRight w.kind.name 10 ++ " " ++ padRight w.currentText 48 ++ " " ++
    toString (w.resolvedFont c.typography).size ++ "px\n"

/-- The report of the demonstration. -/
def report : String :=
  let c : Config := {}
  let a := activated c
  let grid := (statsGrid c).panel
  String.join (a.panel.widgets.map (line c)) ++
    "stats grid: " ++ toString grid.effectiveRows ++ " rows x " ++
    toString grid.effectiveColumns ++ " columns, clear pressed " ++
    toString (a.tally.get clears) ++ " time(s)\n"

end Demo
end Sidebar
