import Sidebar.Config.Basic
import Sidebar.Json.Schema
import Sidebar.Json.Write
/-!
# The configuration as JSON

`PanelConfig::from_json_str` and `PanelConfig::to_json_string` in
`crates/panelkit-core/src/config.rs`, with the field handling serde derives for them.

`Config.parse` reads a configuration from a JSON document and `Config.toJsonWith` writes one,
its category levels in the order the map they are kept in lists them; `Config.toJson` lists
them in key order.
Every record may be an object or an array of its fields in declaration order, and each
field present replaces its default: a nested record is read whole from its own defaults, and
the category levels are replaced by the object given, the last of repeated keys winning.
Sizes, gaps and padding are 32-bit unsigned integers, column and line counts 64-bit ones.
-/

namespace Sidebar
namespace Config

open Json

/-- A 32-bit unsigned integer. -/
def u32 : Reader UInt32 := (unsigned "u32" (Nat.pow 2 32 - 1)).map Nat.toUInt32

/-- A 64-bit unsigned integer, the size of a count. -/
def usize : Reader UInt64 := (unsigned "usize" (Nat.pow 2 64 - 1)).map Nat.toUInt64

/-- The point sizes of the font roles. -/
def typographyRecord : Record Typography where
  expected := "struct Typography"
  init := {}
  fields := [
    ⟨"normal_size", u32.map fun n t => { t with normalSize := n }⟩,
    ⟨"bold_size", u32.map fun n t => { t with boldSize := n }⟩,
    ⟨"small_size", u32.map fun n t => { t with smallSize := n }⟩]

/-- The grid defaults. -/
def gridRecord : Record GridDefaults where
  expected := "struct GridDefaults"
  init := {}
  fields := [
    ⟨"columns", usize.map fun n g => { g with columns := n }⟩,
    ⟨"horizontal_gap", u32.map fun n g => { g with horizontalGap := n }⟩,
    ⟨"vertical_gap", u32.map fun n g => { g with verticalGap := n }⟩,
    ⟨"padding", u32.map fun n g => { g with padding := n }⟩]

/-- The rich-text defaults. -/
def richTextRecord : Record RichTextDefaults where
  expected := "struct RichTextDefaults"
  init := {}
  fields := [⟨"visible_lines", usize.map fun n r => { r with visibleLines := n }⟩]

/-- The logging levels. -/
def loggingRecord : Record LoggingConfig where
  expected := "struct LoggingConfig"
  init := {}
  fields := [
    ⟨"default_level", text.map fun s l => { l with defaultLevel := s }⟩,
    ⟨"category_levels", (entries text).map fun es l => { l with categoryLevels := LevelTable.ofList es }⟩]

/-- The whole configuration. -/
def record : Record Config where
  expected := "struct PanelConfig"
  init := {}
  fields := [
    ⟨"logging", loggingRecord.read.map fun v c => { c with logging := v }⟩,
    ⟨"typography", typographyRecord.read.map fun v c => { c with typography := v }⟩,
    ⟨"grid", gridRecord.read.map fun v c => { c with grid := v }⟩,
    ⟨"rich_text", richTextRecord.read.map fun v c => { c with richText := v }⟩]

/-- The configuration of a JSON document. -/
def parse (input : String) : Except Json.Error Config := readDocument record.read input

/-- The configuration as a JSON value, fields in declaration order and the category levels as
the entries `levels`. A table held in a hash map is written in the map's own order, which is
not fixed: `levels` is that order, one arrangement of the table's entries. -/
def toJsonWith (levels : List (String × String)) (c : Config) : Value :=
  .object [
    ("logging", .object [
      ("default_level", .text c.logging.defaultLevel),
      ("category_levels", .object (levels.map fun (k, v) => (k, .text v)))]),
    ("typography", .object [
      ("normal_size", .nat c.typography.normalSize.toNat),
      ("bold_size", .nat c.typography.boldSize.toNat),
      ("small_size", .nat c.typography.smallSize.toNat)]),
    ("grid", .object [
      ("columns", .nat c.grid.columns.toNat),
      ("horizontal_gap", .nat c.grid.horizontalGap.toNat),
      ("vertical_gap", .nat c.grid.verticalGap.toNat),
      ("padding", .nat c.grid.padding.toNat)]),
    ("rich_text", .object [("visible_lines", .nat c.richText.visibleLines.toNat)])]

/-- The configuration as a JSON value, the category levels in key order. -/
def toJson (c : Config) : Value := toJsonWith c.logging.categoryLevels.entries c

/-- The configuration as indented JSON text, the category levels as the entries `levels`. -/
def renderWith (levels : List (String × String)) (c : Config) : String :=
  (toJsonWith levels c).pretty 0

/-- The configuration as indented JSON text, the category levels in key order. -/
def render (c : Config) : String := renderWith c.logging.categoryLevels.entries c

end Config
end Sidebar
