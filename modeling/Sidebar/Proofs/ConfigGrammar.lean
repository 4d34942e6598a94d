import Sidebar.Config.Json
import Sidebar.Proofs.ConfigText
import Sidebar.Proofs.RecordGrammar
/-!
# Which texts are configurations

`PanelConfig::from_json_str` in `crates/panelkit-core/src/config.rs`.

`Config.parse` is described here without the reader. `Config.rules` is the grammar of a
configuration, record by record and field by field: a size, gap, padding or count is an
integer literal within the range of its word (`wordRule`), the default level a string
(`stringRule`), the category levels an object of strings (`LevelsText`), and every record an
object or an array of its own fields, read from its own defaults (`recordRule`).

The main statement, `Config.parse_eq_ok_iff`: a text is read as the configuration `c` exactly
when it is one value that the grammar relates to `c`, followed only by white space. A number
with a minus sign is never an integer literal here, even a negative zero
(`Config.parse_refuses_negative_zero`).

Each field of the reader's records agrees with its rule (`Config.typography_agrees` and the
like), so that `takes_read_iff` applies at every depth. The category levels given are a table
that maps each key to the last level given for it (`LevelTable.get?_ofList`), and a table is
determined by the levels it gives its keys (`LevelTable.ext_get?`).
-/

namespace Sidebar

namespace Json

theorem takes_map_iff {α β : Type} {rd : Reader α} {g : α → β} {cs rest : List Char} {b : β} :
    Takes (rd.map g cs) b rest ↔ ∃ a, Takes (rd cs) a rest ∧ g a = b := by
  constructor
  · rintro ⟨r, hr, rfl⟩
    cases hx : rd cs with
    | error f =>
      rw [Reader.map, hx] at hr
      cases hr
    | ok p =>
      obtain ⟨a, r'⟩ := p
      rw [Reader.map, hx] at hr
      cases hr
      exact ⟨a, ⟨_, rfl, rfl⟩, rfl⟩
  · rintro ⟨a, ⟨r, hr, rfl⟩, rfl⟩
    refine ⟨r, ?_, rfl⟩
    rw [Reader.map, hr]
    rfl

theorem dropWhile_blank_of_blank {c : Char} {t : List Char} (hc : isBlank c = true) :
    (c :: t).dropWhile isBlank = t.dropWhile isBlank := by
  rw [List.dropWhile_cons, if_pos hc]

theorem Takes.unique {α : Type} {cs : List Char} {x : Except Fault (α × Rest cs)} {a b : α}
    {r r' : List Char} (ha : Takes x a r) (hb : Takes x b r') : a = b ∧ r = r' := by
  obtain ⟨p, rfl, rfl⟩ := ha
  obtain ⟨q, hq, rfl⟩ := hb
  cases hq
  exact ⟨rfl, rfl⟩

/-- The members of an object whose first key starts at `u` begin with a member there. -/
theorem Members.cons_of_quote {β : Type} {V : String → List Char → β → List Char → Prop}
    {cs u rest : List Char} {ms : List (String × β)} (h : Members V true cs ms rest)
    (hq : cs.dropWhile isBlank = '"' :: u) :
    ∃ m ms' mid, ms = m :: ms' ∧ Member V u m mid ∧ Members V false mid ms' rest := by
  cases h with
  | close hc =>
    rw [hq] at hc
    exact absurd (List.cons.inj hc).1 (by decide)
  | cons hkey hm hms =>
    cases hkey with
    | first hq' =>
      rw [hq] at hq'
      obtain ⟨-, rfl⟩ := List.cons.inj hq'
      exact ⟨_, _, _, rfl, hm, hms⟩

/-- A member whose key is written without escapes has that key, and its value follows the
colon. -/
theorem Member.key_eq {β : Type} {V : String → List Char → β → List Char → Prop}
    {u mid : List Char} {m : String × β} (h : Member V u m mid) {key : String} {w : List Char}
    (hu : u = escaped key.toList ++ '"' :: w) :
    m.1 = key ∧ ∃ v, w.dropWhile isBlank = ':' :: v ∧ V key v m.2 mid := by
  obtain ⟨w', v, hread, hcolon, hv⟩ := h
  obtain ⟨hkey, rfl⟩ := hread.unique (readString_escaped key w hu)
  exact ⟨hkey, v, hcolon, hkey ▸ hv⟩

section Rules

variable {σ : Type}

/-- A field whose value is an unsigned integer up to `bound`, which `set` puts into the
record. -/
def wordRule (name : String) (bound : Nat) (set : Nat → σ → σ) : FieldRule σ :=
  ⟨name, fun cs f rest => ∃ n, UnsignedText bound cs n rest ∧ f = set n⟩

/-- A field whose value is a string. -/
def stringRule (name : String) (set : String → σ → σ) : FieldRule σ :=
  ⟨name, fun cs f rest => ∃ s, StringText cs s rest ∧ f = set s⟩

/-- A field whose value is a record of its own, read from its own defaults. -/
def recordRule {τ : Type} (name : String) (rules : List (FieldRule τ)) (init : τ)
    (set : τ → σ → σ) : FieldRule σ :=
  ⟨name, fun cs f rest => ∃ v, RecordText rules init cs v rest ∧ f = set v⟩

theorem agrees_wordRule {τ : Type} (name expected : String) {bound : Nat} (hb : bound ≤ u64Max)
    (conv : Nat → τ) (set : τ → σ → σ) :
    Field.Agrees ⟨name, ((unsigned expected bound).map conv).map set⟩
      (wordRule name bound fun n => set (conv n)) := by
  refine ⟨rfl, fun cs f rest => ?_⟩
  simp only [wordRule, takes_map_iff, takes_unsigned_iff hb]
  constructor
  · rintro ⟨x, ⟨n, hn, rfl⟩, rfl⟩
    exact ⟨n, hn, rfl⟩
  · rintro ⟨n, hn, rfl⟩
    exact ⟨_, ⟨n, hn, rfl⟩, rfl⟩

theorem agrees_stringRule (name : String) (set : String → σ → σ) :
    Field.Agrees ⟨name, text.map set⟩ (stringRule name set) := by
  refine ⟨rfl, fun cs f rest => ?_⟩
  simp only [stringRule, takes_map_iff, takes_text_iff]
  constructor
  · rintro ⟨s, hs, rfl⟩
    exact ⟨s, hs, rfl⟩
  · rintro ⟨s, hs, rfl⟩
    exact ⟨s, hs, rfl⟩

theorem agrees_recordRule {τ : Type} {rec : Record τ} {rules : List (FieldRule τ)}
    (hagree : List.Forall₂ Field.Agrees rec.fields rules)
    (hvalues : ∀ rule ∈ rules, ValueRel rule.value) (name : String) (set : τ → σ → σ) :
    Field.Agrees ⟨name, rec.read.map set⟩ (recordRule name rules rec.init set) := by
  refine ⟨rfl, fun cs f rest => ?_⟩
  simp only [recordRule, takes_map_iff, takes_read_iff hagree hvalues]
  constructor
  · rintro ⟨v, hv, rfl⟩
    exact ⟨v, hv, rfl⟩
  · rintro ⟨v, hv, rfl⟩
    exact ⟨v, hv, rfl⟩

theorem valueRel_wordRule (name : String) (bound : Nat) (set : Nat → σ → σ) :
    ValueRel (wordRule name bound set).value where
  dropBlank cs f rest := by simp only [wordRule, UnsignedText, List.dropWhile_idempotent]
  opens := by
    rintro cs f rest ⟨n, ⟨hnum, -⟩, -⟩
    obtain ⟨c, t, hct, hc⟩ := hnum.head_isDigit
    exact ⟨c, t, hct, by rintro rfl; exact absurd hc (by decide)⟩

theorem valueRel_stringRule (name : String) (set : String → σ → σ) :
    ValueRel (stringRule name set).value where
  dropBlank cs f rest := by simp only [stringRule, StringText, List.dropWhile_idempotent]
  opens := by
    rintro cs f rest ⟨s, ⟨t, ht, -⟩, -⟩
    exact ⟨'"', t, ht, by decide⟩

theorem recordText_dropWhile {rules : List (FieldRule σ)} {init : σ} {cs rest : List Char}
    {st : σ} : RecordText rules init (cs.dropWhile isBlank) st rest ↔
      RecordText rules init cs st rest := by
  simp only [RecordText, ObjectText, ArrayText, List.dropWhile_idempotent]

theorem RecordText.opens {rules : List (FieldRule σ)} {init : σ} {cs rest : List Char} {st : σ}
    (h : RecordText rules init cs st rest) : ∃ c t, cs.dropWhile isBlank = c :: t ∧ c ≠ ']' := by
  rcases h with ⟨ms, ⟨t, ht, -⟩, -⟩ | ⟨fs, ⟨t, ht, -⟩, -⟩
  · exact ⟨'{', t, ht, by decide⟩
  · exact ⟨'[', t, ht, by decide⟩

theorem valueRel_recordRule {τ : Type} (name : String) (rules : List (FieldRule τ)) (init : τ)
    (set : τ → σ → σ) : ValueRel (recordRule name rules init set).value where
  dropBlank cs f rest := by simp only [recordRule, recordText_dropWhile]
  opens := by
    rintro cs f rest ⟨v, hv, -⟩
    exact hv.opens

end Rules

end Json

namespace Config

open Json

/-- Category levels as a value: an object of string values; the table maps exactly the keys
given, each to the last level given for it. -/
def LevelsText (cs : List Char) (t : LevelTable) (rest : List Char) : Prop :=
  ∃ ms, ObjectText (fun _ => StringText) cs ms rest ∧ ∀ k, t.get? k = ms.reverse.lookup k

/-- The point sizes: 32-bit unsigned integers. -/
def typographyRules : List (FieldRule Typography) := [
  wordRule "normal_size" (UInt32.size - 1) fun n t => { t with normalSize := n.toUInt32 },
  wordRule "bold_size" (UInt32.size - 1) fun n t => { t with boldSize := n.toUInt32 },
  wordRule "small_size" (UInt32.size - 1) fun n t => { t with smallSize := n.toUInt32 }]

/-- The grid defaults: a 64-bit count of columns, and 32-bit gaps and padding. -/
def gridRules : List (FieldRule GridDefaults) := [
  wordRule "columns" (UInt64.size - 1) fun n g => { g with columns := n.toUInt64 },
  wordRule "horizontal_gap" (UInt32.size - 1) fun n g => { g with horizontalGap := n.toUInt32 },
  wordRule "vertical_gap" (UInt32.size - 1) fun n g => { g with verticalGap := n.toUInt32 },
  wordRule "padding" (UInt32.size - 1) fun n g => { g with padding := n.toUInt32 }]

/-- The rich-text defaults: a 64-bit count of lines. -/
def richTextRules : List (FieldRule RichTextDefaults) := [
  wordRule "visible_lines" (UInt64.size - 1) fun n r => { r with visibleLines := n.toUInt64 }]

/-- The logging levels: a default level name, and the category levels, given whole. -/
def loggingRules : List (FieldRule LoggingConfig) := [
  stringRule "default_level" fun s l => { l with defaultLevel := s },
  ⟨"category_levels", fun cs f rest =>
    ∃ t, LevelsText cs t rest ∧ f = fun l => { l with categoryLevels := t }⟩]

/-- The configuration: four records, each read from its own defaults. -/
def rules : List (FieldRule Config) := [
  recordRule "logging" loggingRules {} fun v c => { c with logging := v },
  recordRule "typography" typographyRules {} fun v c => { c with typography := v },
  recordRule "grid" gridRules {} fun v c => { c with grid := v },
  recordRule "rich_text" richTextRules {} fun v c => { c with richText := v }]

/-- The entries of an object of strings, made a table, are the category levels it gives. -/
theorem takes_levels_iff {cs rest : List Char} {t : LevelTable} :
    (∃ es, Takes (entries text cs) es rest ∧ LevelTable.ofList es = t) ↔ LevelsText cs t rest := by
  simp only [takes_entries_iff takes_text_iff, LevelsText]
  constructor
  · rintro ⟨es, hobj, rfl⟩
    exact ⟨es, hobj, fun k => LevelTable.get?_ofList es k⟩
  · rintro ⟨ms, hobj, hget⟩
    exact ⟨ms, hobj, LevelTable.ext_get? fun k => by rw [LevelTable.get?_ofList, hget]⟩

theorem typography_agrees : List.Forall₂ Field.Agrees typographyRecord.fields typographyRules :=
  .cons (agrees_wordRule _ _ (by decide) _ _) (.cons (agrees_wordRule _ _ (by decide) _ _)
    (.cons (agrees_wordRule _ _ (by decide) _ _) .nil))

theorem grid_agrees : List.Forall₂ Field.Agrees gridRecord.fields gridRules :=
  .cons (agrees_wordRule _ _ (by decide) _ _) (.cons (agrees_wordRule _ _ (by decide) _ _)
    (.cons (agrees_wordRule _ _ (by decide) _ _) (.cons (agrees_wordRule _ _ (by decide) _ _) .nil)))

theorem richText_agrees : List.Forall₂ Field.Agrees richTextRecord.fields richTextRules :=
  .cons (agrees_wordRule _ _ (by decide) _ _) .nil

theorem logging_agrees : List.Forall₂ Field.Agrees loggingRecord.fields loggingRules := by
  refine .cons (agrees_stringRule _ _) (.cons ⟨rfl, fun cs f rest => ?_⟩ .nil)
  rw [takes_map_iff]
  constructor
  · rintro ⟨es, hes, rfl⟩
    exact ⟨_, takes_levels_iff.1 ⟨es, hes, rfl⟩, rfl⟩
  · rintro ⟨t, ht, rfl⟩
    obtain ⟨es, hes, rfl⟩ := takes_levels_iff.2 ht
    exact ⟨es, hes, rfl⟩

theorem typography_values : ∀ rule ∈ typographyRules, ValueRel rule.value := by
  simp only [typographyRules, List.mem_cons, List.not_mem_nil, or_false]
  rintro rule (rfl | rfl | rfl) <;> exact valueRel_wordRule _ _ _

theorem grid_values : ∀ rule ∈ gridRules, ValueRel rule.value := by
  simp only [gridRules, List.mem_cons, List.not_mem_nil, or_false]
  rintro rule (rfl | rfl | rfl | rfl) <;> exact valueRel_wordRule _ _ _

theorem richText_values : ∀ rule ∈ richTextRules, ValueRel rule.value := by
  simp only [richTextRules, List.mem_cons, List.not_mem_nil, or_false]
  rintro rule rfl
  exact valueRel_wordRule _ _ _

theorem logging_values : ∀ rule ∈ loggingRules, ValueRel rule.value := by
  simp only [loggingRules, List.mem_cons, List.not_mem_nil, or_false]
  rintro rule (rfl | rfl)
  · exact valueRel_stringRule _ _
  · -- the category levels start with an opening brace
    refine ⟨fun cs f rest => ?_, ?_⟩
    · simp only [LevelsText, ObjectText, List.dropWhile_idempotent]
    · rintro cs f rest ⟨t, ⟨ms, ⟨u, hu, -⟩, -⟩, -⟩
      exact ⟨'{', u, hu, by decide⟩

theorem agrees : List.Forall₂ Field.Agrees record.fields rules :=
  .cons (agrees_recordRule logging_agrees logging_values _ _)
    (.cons (agrees_recordRule typography_agrees typography_values _ _)
      (.cons (agrees_recordRule grid_agrees grid_values _ _)
        (.cons (agrees_recordRule richText_agrees richText_values _ _) .nil)))

theorem values : ∀ rule ∈ rules, ValueRel rule.value := by
  simp only [rules, List.mem_cons, List.not_mem_nil, or_false]
  rintro rule (rfl | rfl | rfl | rfl) <;> exact valueRel_recordRule _ _ _ _

/-- **A configuration text is read exactly when the grammar relates it to a configuration.**
The text is one value followed only by white space: an object or an array for the
configuration and, at any depth, for each of its records; integer literals without sign,
fraction or exponent within the range of their words; strings for level names, an object of
strings for the category levels; no known key twice and no more items than fields. The
configuration read is the defaults with every field given put in, records read from their own
defaults and the category levels replaced whole, the last of repeated keys winning; unknown
keys change nothing. -/
theorem parse_eq_ok_iff (input : String) (c : Config) :
    parse input = .ok c ↔ ∃ rest, RecordText rules {} input.toList c rest ∧ Blank rest := by
  rw [parse, readDocument_eq_ok_iff]
  exact exists_congr fun rest => and_congr_left' (takes_read_iff agrees values)

/-- A padding written as a negative zero is refused: the number after a minus sign is read as
a binary64 value, never as an unsigned integer, even when it is zero. -/
theorem parse_refuses_negative_zero :
    (parse "\x7b\"grid\": \x7b\"padding\": -0\x7d\x7d").toBool = false := by
  cases h : parse "\x7b\"grid\": \x7b\"padding\": -0\x7d\x7d" with
  | error e => rfl
  | ok c => ?_
  exfalso
  rw [parse, readDocument_eq_ok_iff] at h
  obtain ⟨rest, htext, -⟩ := h
  rw [takes_read_iff agrees values] at htext
  have hin : ("\x7b\"grid\": \x7b\"padding\": -0\x7d\x7d" : String).toList =
      '{' :: '"' :: (escaped "grid".toList ++ '"' :: ':' :: ' ' :: '{' :: '"' ::
        (escaped "padding".toList ++ '"' :: ':' :: ' ' :: '-' :: '0' :: ['}', '}'])) := by
    decide
  rw [hin] at htext
  rcases htext with ⟨ms, ⟨t, ht, hmembers⟩, -, -⟩ | ⟨fs, ⟨t, ht, -⟩, -⟩
  · rw [dropWhile_blank_cons rfl] at ht
    obtain ⟨-, rfl⟩ := List.cons.inj ht
    -- the first member is the grid, read as a record
    obtain ⟨m, ms', mid, rfl, hm, -⟩ := hmembers.cons_of_quote (dropWhile_blank_cons rfl)
    obtain ⟨-, v, hv, hgrid⟩ := hm.key_eq rfl
    rw [dropWhile_blank_cons rfl] at hv
    obtain ⟨-, rfl⟩ := List.cons.inj hv
    have hfind : rules.find? (·.name = "grid") =
        some (recordRule "grid" gridRules {} fun v c => { c with grid := v }) := rfl
    simp only [memberRule, hfind, recordRule] at hgrid
    obtain ⟨g, hg, -⟩ := hgrid
    rcases hg with ⟨ms₂, ⟨t₂, ht₂, hmembers₂⟩, -, -⟩ | ⟨fs₂, ⟨t₂, ht₂, -⟩, -⟩
    · rw [dropWhile_blank_of_blank rfl, dropWhile_blank_cons rfl] at ht₂
      obtain ⟨-, rfl⟩ := List.cons.inj ht₂
      -- the first member of the grid is its padding, read as a 32-bit word
      obtain ⟨m₂, ms₂', mid₂, rfl, hm₂, -⟩ := hmembers₂.cons_of_quote (dropWhile_blank_cons rfl)
      obtain ⟨-, v₂, hv₂, hpad⟩ := hm₂.key_eq rfl
      rw [dropWhile_blank_cons rfl] at hv₂
      obtain ⟨-, rfl⟩ := List.cons.inj hv₂
      have hfind₂ : gridRules.find? (·.name = "padding") =
          some (wordRule "padding" (UInt32.size - 1) fun n g => { g with padding := n.toUInt32 }) :=
        rfl
      simp only [memberRule, hfind₂, wordRule, UnsignedText] at hpad
      obtain ⟨n, ⟨hnum, -⟩, -⟩ := hpad
      rw [dropWhile_blank_of_blank rfl, dropWhile_blank_cons rfl] at hnum
      -- a minus sign is no digit
      exact not_unsignedNumeral_cons (by decide) hnum
    · rw [dropWhile_blank_of_blank rfl, dropWhile_blank_cons rfl] at ht₂
      exact absurd (List.cons.inj ht₂).1 (by decide)
  · rw [dropWhile_blank_cons rfl] at ht
    exact absurd (List.cons.inj ht).1 (by decide)

end Config

end Sidebar
