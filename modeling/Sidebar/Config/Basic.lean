import Sidebar.Typography
/-!
# The configuration record

`PanelConfig`, `LoggingConfig`, `GridDefaults` and `RichTextDefaults`, with their `Default`
impls, in `crates/panelkit-core/src/config.rs`.

A `Config` gathers what a host hands to the toolkit once: log levels, the point sizes of the
font roles, the defaults of grid layouts and of rich-text blocks. Every part has a default,
and a configuration read from JSON starts from the defaults.

The configured log level of each category is kept in a `LevelTable`: a map from category
keys to level names, stored sorted by key without repeats, so two tables are equal exactly
when they map the same keys to the same names.
-/

namespace Sidebar

/-- Entries whose keys strictly increase: sorted by key, each key once. -/
def SortedKeys (es : List (String × String)) : Prop := es.Pairwise fun a b => a.1 < b.1

theorem sortedKeys_nil : SortedKeys [] := List.Pairwise.nil

/-- Level names by category key, sorted by key, each key once. -/
structure LevelTable where
  entries : List (String × String)
  sorted : SortedKeys entries
  deriving DecidableEq, Repr

namespace LevelTable

/-- The table with no entries. -/
def empty : LevelTable := ⟨[], sortedKeys_nil⟩

/-- Entries with `key` set to `level`: the old entry of `key` is replaced, or a new one is
placed in key order. -/
def insertEntry (key level : String) : List (String × String) → List (String × String)
  | [] => [(key, level)]
  | (k, v) :: rest =>
    if key < k then (key, level) :: (k, v) :: rest
    else if key = k then (key, level) :: rest
    else (k, v) :: insertEntry key level rest

theorem mem_insertEntry {key level : String} {p : String × String} :
    ∀ {es : List (String × String)}, p ∈ insertEntry key level es → p = (key, level) ∨ p ∈ es
  | [], h => by simpa [insertEntry] using h
  | (k, v) :: rest, h => by
    by_cases hlt : key < k
    · simpa [insertEntry, hlt] using h
    by_cases heq : key = k
    · subst heq
      simp only [insertEntry, hlt, if_false, if_true, List.mem_cons] at h ⊢
      exact h.imp_right .inr
    · simp only [insertEntry, hlt, heq, if_false, List.mem_cons] at h ⊢
      rcases h with h | h
      · exact .inr (.inl h)
      · exact (mem_insertEntry h).imp_right .inr

/-- Setting a key keeps the keys sorted: the entry goes where its key belongs. -/
theorem sortedKeys_insertEntry (key level : String) :
    ∀ {es : List (String × String)}, SortedKeys es → SortedKeys (insertEntry key level es)
  | [], _ => List.pairwise_singleton _ _
  | (k, v) :: rest, h => by
    have hk : ∀ p ∈ rest, k < p.1 := (List.pairwise_cons.1 h).1
    have hrest : SortedKeys rest := (List.pairwise_cons.1 h).2
    by_cases hlt : key < k
    · simp only [insertEntry, hlt, if_true]
      refine List.Pairwise.cons (fun p hp => ?_) h
      rcases List.mem_cons.1 hp with rfl | hp
      · exact hlt
      · exact String.lt_trans hlt (hk p hp)
    by_cases heq : key = k
    · subst heq
      simp only [insertEntry, hlt, if_false, if_true]
      exact List.Pairwise.cons hk hrest
    · -- the new key lies past `k`, so `k` stays first
      have hgt : k < key := by
        rcases Std.lt_trichotomy key k with h' | h' | h'
        · exact absurd h' hlt
        · exact absurd h' heq
        · exact h'
      simp only [insertEntry, hlt, heq, if_false]
      refine List.Pairwise.cons (fun p hp => ?_) (sortedKeys_insertEntry key level hrest)
      rcases mem_insertEntry hp with rfl | hp
      · exact hgt
      · exact hk p hp

/-- The table with `key` mapped to `level`. -/
def insert (t : LevelTable) (key level : String) : LevelTable :=
  ⟨insertEntry key level t.entries, sortedKeys_insertEntry key level t.sorted⟩

/-- The level name of a key. -/
def get? (t : LevelTable) (key : String) : Option String := t.entries.lookup key

/-- The table of a list of entries, a later entry of a key replacing an earlier one. -/
def ofList (es : List (String × String)) : LevelTable :=
  es.foldl (fun t (k, v) => t.insert k v) empty

end LevelTable

/-- How much is logged: a default level name and level names by category key. -/
structure LoggingConfig where
  defaultLevel : String := "info"
  categoryLevels : LevelTable :=
    LevelTable.ofList [("core", "info"), ("widgets", "info"), ("layout", "warn")]
  deriving DecidableEq, Repr

/-- Defaults of grid layouts: the number of columns, the gaps between cells and the padding
on every side. -/
structure GridDefaults where
  columns : UInt64 := 3
  horizontalGap : UInt32 := 5
  verticalGap : UInt32 := 5
  padding : UInt32 := 10
  deriving DecidableEq, Repr

/-- Defaults of rich-text blocks: the number of lines shown. -/
structure RichTextDefaults where
  visibleLines : UInt64 := 6
  deriving DecidableEq, Repr

/-- The configuration of the toolkit. -/
structure Config where
  logging : LoggingConfig := {}
  typography : Typography := {}
  grid : GridDefaults := {}
  richText : RichTextDefaults := {}
  deriving DecidableEq, Repr

instance : Inhabited Config := ⟨{}⟩

end Sidebar
