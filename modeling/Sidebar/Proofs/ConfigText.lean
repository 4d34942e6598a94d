import Sidebar.Config.Json
import Sidebar.Proofs.JsonObjects
/-!
# Configurations read back from their text

`PanelConfig::to_json_string` and `PanelConfig::from_json_str` (`crates/panelkit-core/src/config.rs`).

Every configuration survives being written as indented JSON and read back
(`Config.parse_render`): whatever its level names and category keys, control characters and
quotes included, however many category entries it has, in whatever order they are written,
and whatever its sizes, gaps and counts up to the largest their words hold.

Each record of the configuration is read back from its fields by `reads_record`, each field
by its own reader. The category levels are read back as the list of entries written. A level
table keeps its keys distinct, so every arrangement of its entries gives each key the level
the table gives it (`LevelTable.lookup_perm`), and the table of that list is the table written
(`LevelTable.ofList_perm`).
-/

namespace Sidebar

namespace LevelTable

theorem eq_of_entries {t u : LevelTable} (h : t.entries = u.entries) : t = u := by
  cases t
  cases u
  cases h
  rfl

theorem lookup_cons_eq (k k' v : String) (es : List (String × String)) :
    ((k', v) :: es).lookup k = if k = k' then some v else es.lookup k := by
  by_cases h : k = k'
  · subst h
    rw [List.lookup_cons, beq_self_eq_true, if_pos rfl]
  · rw [List.lookup_cons, beq_eq_false_iff_ne.2 h, if_neg h]

theorem lookup_insertEntry (key level k : String) :
    ∀ es : List (String × String),
      (insertEntry key level es).lookup k = if k = key then some level else es.lookup k
  | [] => by simp [insertEntry]
  | (k', v) :: rest => by
    by_cases hlt : key < k'
    · simp [insertEntry, hlt, lookup_cons_eq]
    by_cases heq : key = k'
    · subst heq
      simp only [insertEntry, hlt, if_false, if_true, lookup_cons_eq]
      by_cases hk : k = key <;> simp [hk]
    · simp only [insertEntry, hlt, heq, if_false, lookup_cons_eq, lookup_insertEntry key level k rest]
      by_cases hk : k = key
      · subst hk
        simp [heq]
      · simp [hk]

theorem get?_insert (t : LevelTable) (key level k : String) :
    (t.insert key level).get? k = if k = key then some level else t.get? k :=
  lookup_insertEntry key level k t.entries

theorem get?_foldl_insert (k : String) :
    ∀ (es : List (String × String)) (t : LevelTable),
      (es.foldl (fun t (k, v) => t.insert k v) t).get? k = (es.reverse.lookup k).or (t.get? k)
  | [], t => rfl
  | (k', v) :: es, t => by
    rw [List.foldl_cons, get?_foldl_insert k es, get?_insert, List.reverse_cons, List.lookup_append,
      Option.or_assoc]
    congr 1
    by_cases hk : k = k' <;> simp [hk]

/-- **A table built from entries maps each key to its last entry.** -/
theorem get?_ofList (es : List (String × String)) (k : String) :
    (ofList es).get? k = es.reverse.lookup k := by
  rw [ofList, get?_foldl_insert]
  cases es.reverse.lookup k <;> rfl

theorem lookup_eq_none_of_lt {k : String} :
    ∀ {es : List (String × String)}, (∀ p ∈ es, k < p.1) → es.lookup k = none
  | [], _ => rfl
  | (k', v) :: rest, h => by
    have hne : k ≠ k' := fun heq => String.lt_irrefl k (heq ▸ h (k', v) List.mem_cons_self)
    simp [lookup_cons_eq, hne, lookup_eq_none_of_lt fun p hp => h p (List.mem_cons_of_mem _ hp)]

/-- Entries sorted by key are determined by the level they give each key. -/
theorem entries_eq_of_lookup :
    ∀ {es fs : List (String × String)}, SortedKeys es → SortedKeys fs →
      (∀ k, es.lookup k = fs.lookup k) → es = fs
  | [], [], _, _, _ => rfl
  | [], (k, v) :: fs, _, _, h => by
    have := h k
    simp at this
  | (k, v) :: es, [], _, _, h => by
    have := h k
    simp at this
  | (k, v) :: es, (k', v') :: fs, hes, hfs, h => by
    have hes' := List.pairwise_cons.1 hes
    have hfs' := List.pairwise_cons.1 hfs
    -- the first keys agree: the smaller one would be missing from the other list
    have hkk : k = k' := by
      rcases Std.lt_trichotomy k k' with hlt | heq | hgt
      · have hk := h k
        have hnone : fs.lookup k = none :=
          lookup_eq_none_of_lt fun p hp => String.lt_trans hlt (hfs'.1 p hp)
        have hne : k ≠ k' := fun heq => String.lt_irrefl k (heq ▸ hlt)
        simp [lookup_cons_eq, hne, hnone] at hk
      · exact heq
      · have hk := h k'
        have hnone : es.lookup k' = none :=
          lookup_eq_none_of_lt fun p hp => String.lt_trans hgt (hes'.1 p hp)
        have hne : k' ≠ k := fun heq => String.lt_irrefl k' (heq ▸ hgt)
        simp [lookup_cons_eq, hne, hnone] at hk
    subst hkk
    have hv : v = v' := by
      have := h k
      simpa [lookup_cons_eq] using this
    subst hv
    congr 1
    apply entries_eq_of_lookup hes'.2 hfs'.2
    intro key
    by_cases hk : key = k
    · subst hk
      rw [lookup_eq_none_of_lt hes'.1, lookup_eq_none_of_lt hfs'.1]
    · have := h key
      simpa [lookup_cons_eq, hk] using this

/-- **Two tables that give every key the same level are equal.** -/
theorem ext_get? {t u : LevelTable} (h : ∀ k, t.get? k = u.get? k) : t = u :=
  eq_of_entries (entries_eq_of_lookup t.sorted u.sorted h)

/-- The keys of a table are distinct: they strictly increase. -/
theorem nodup_keys (t : LevelTable) : (t.entries.map Prod.fst).Nodup := by
  have hsorted : t.entries.Pairwise fun a b => a.1 < b.1 := t.sorted
  refine List.pairwise_map.2 (hsorted.imp ?_)
  intro a b hlt heq
  exact String.lt_irrefl _ (heq ▸ hlt)

/-- **Entries with distinct keys give each key the same level in every order.** -/
theorem lookup_perm (k : String) {es fs : List (String × String)} (h : es.Perm fs)
    (hd : (es.map Prod.fst).Nodup) : es.lookup k = fs.lookup k := by
  induction h with
  | nil => rfl
  | cons e h ih =>
    obtain ⟨k', v⟩ := e
    rw [lookup_cons_eq, lookup_cons_eq, ih (List.nodup_cons.1 hd).2]
  | swap e f rest =>
    -- the only place where the order shows: the two keys swapped are distinct
    obtain ⟨k₁, v₁⟩ := e
    obtain ⟨k₂, v₂⟩ := f
    have hne : k₂ ≠ k₁ := fun heq => (List.nodup_cons.1 hd).1 (by simp [heq])
    rw [lookup_cons_eq, lookup_cons_eq, lookup_cons_eq, lookup_cons_eq]
    by_cases hk : k = k₂
    · subst hk
      simp [hne]
    · simp [hk]
  | trans h₁ _ ih₁ ih₂ =>
    exact (ih₁ hd).trans (ih₂ ((h₁.map Prod.fst).nodup_iff.1 hd))

/-- **The table of any arrangement of a table's entries is the table.** A map written in an
order of its own is read back as the same map. -/
theorem ofList_perm {es : List (String × String)} {t : LevelTable} (h : es.Perm t.entries) :
    ofList es = t := by
  have hrev : es.reverse.Perm t.entries := (List.reverse_perm es).trans h
  have hd : (es.reverse.map Prod.fst).Nodup := (hrev.map Prod.fst).nodup_iff.2 t.nodup_keys
  apply ext_get?
  intro k
  rw [get?_ofList, lookup_perm k hrev hd]
  rfl

end LevelTable

namespace Config

open Json

/-- A 32-bit word is read back from its decimal digits. -/
theorem reads_u32 {σ : Type} (x : UInt32) (set : UInt32 → σ → σ) :
    Reads (u32.map set) (.nat x.toNat) (set x) := by
  have hle : x.toNat ≤ Nat.pow 2 32 - 1 := by
    have := x.toNat_lt
    simp only [Nat.pow_eq] at *
    omega
  have h0 : Reads (unsigned "u32" (Nat.pow 2 32 - 1)) (.nat x.toNat) x.toNat :=
    reads_unsigned hle (by decide)
  have h := (h0.map Nat.toUInt32).map set
  rwa [Nat.toUInt32_eq, UInt32.ofNat_toNat] at h

/-- A 64-bit word is read back from its decimal digits. -/
theorem reads_usize {σ : Type} (x : UInt64) (set : UInt64 → σ → σ) :
    Reads (usize.map set) (.nat x.toNat) (set x) := by
  have hle : x.toNat ≤ Nat.pow 2 64 - 1 := by
    have := x.toNat_lt
    simp only [Nat.pow_eq] at *
    omega
  have h0 : Reads (unsigned "usize" (Nat.pow 2 64 - 1)) (.nat x.toNat) x.toNat :=
    reads_unsigned hle (Nat.le_refl _)
  have h := (h0.map Nat.toUInt64).map set
  rwa [Nat.toUInt64_eq, UInt64.ofNat_toNat] at h

/-- The point sizes are read back. -/
theorem reads_typography (t : Typography) :
    Reads typographyRecord.read (.object [("normal_size", .nat t.normalSize.toNat),
      ("bold_size", .nat t.boldSize.toNat), ("small_size", .nat t.smallSize.toNat)]) t := by
  have h := reads_record typographyRecord (typographyRecord.fields.zip
      [(.nat t.normalSize.toNat, fun x => { x with normalSize := t.normalSize }),
        (.nat t.boldSize.toNat, fun x => { x with boldSize := t.boldSize }),
        (.nat t.smallSize.toNat, fun x => { x with smallSize := t.smallSize })]) (a := t)
    rfl (by decide) (by
      intro w hw
      simp only [typographyRecord, List.zip_cons_cons, List.zip_nil_right, List.mem_cons,
        List.not_mem_nil, or_false] at hw
      rcases hw with rfl | rfl | rfl <;> dsimp only <;> exact reads_u32 _ _) (by cases t; rfl)
  exact h

/-- The grid defaults are read back. -/
theorem reads_grid (g : GridDefaults) :
    Reads gridRecord.read (.object [("columns", .nat g.columns.toNat),
      ("horizontal_gap", .nat g.horizontalGap.toNat), ("vertical_gap", .nat g.verticalGap.toNat),
      ("padding", .nat g.padding.toNat)]) g := by
  have h := reads_record gridRecord (gridRecord.fields.zip
      [(.nat g.columns.toNat, fun x => { x with columns := g.columns }),
        (.nat g.horizontalGap.toNat, fun x => { x with horizontalGap := g.horizontalGap }),
        (.nat g.verticalGap.toNat, fun x => { x with verticalGap := g.verticalGap }),
        (.nat g.padding.toNat, fun x => { x with padding := g.padding })]) (a := g)
    rfl (by decide) (by
      intro w hw
      simp only [gridRecord, List.zip_cons_cons, List.zip_nil_right, List.mem_cons,
        List.not_mem_nil, or_false] at hw
      rcases hw with rfl | rfl | rfl | rfl <;> dsimp only
      · exact reads_usize _ _
      all_goals exact reads_u32 _ _) (by cases g; rfl)
  exact h

/-- The rich-text defaults are read back. -/
theorem reads_richText (r : RichTextDefaults) :
    Reads richTextRecord.read (.object [("visible_lines", .nat r.visibleLines.toNat)]) r := by
  have h := reads_record richTextRecord (richTextRecord.fields.zip
      [(.nat r.visibleLines.toNat, fun x => { x with visibleLines := r.visibleLines })]) (a := r)
    rfl (by decide) (by
      intro w hw
      simp only [richTextRecord, List.zip_cons_cons, List.zip_nil_right, List.mem_cons,
        List.not_mem_nil, or_false] at hw
      rcases hw with rfl
      dsimp only
      exact reads_usize _ _) (by cases r; rfl)
  exact h

/-- Category entries are read back as they are written, in the order written. -/
theorem reads_levels (es : List (String × String)) :
    Reads (entries text) (.object (es.map fun e => (e.1, .text e.2))) es := by
  have h := reads_entries text (es.map fun e => (e.1, .text e.2, e.2)) (by
    intro w hw
    obtain ⟨e, -, rfl⟩ := List.mem_map.1 hw
    exact reads_text e.2)
  simpa [List.map_map, Function.comp_def] using h

section Levels

variable {levels : List (String × String)}

/-- The logging levels are read back from category entries in any order of the table's: the
table of the entries read is the table written. -/
theorem reads_logging (l : LoggingConfig) (h : levels.Perm l.categoryLevels.entries) :
    Reads loggingRecord.read (.object [("default_level", .text l.defaultLevel),
      ("category_levels", .object (levels.map fun e => (e.1, .text e.2)))]) l := by
  have hlevels := (reads_levels levels).map
    fun es (x : LoggingConfig) => { x with categoryLevels := LevelTable.ofList es }
  rw [LevelTable.ofList_perm h] at hlevels
  have hread := reads_record loggingRecord (loggingRecord.fields.zip
      [(.text l.defaultLevel, fun x => { x with defaultLevel := l.defaultLevel }),
        (.object (levels.map fun e => (e.1, .text e.2)),
          fun x => { x with categoryLevels := l.categoryLevels })]) (a := l)
    rfl (by decide) (by
      intro w hw
      simp only [loggingRecord, List.zip_cons_cons, List.zip_nil_right, List.mem_cons,
        List.not_mem_nil, or_false] at hw
      rcases hw with rfl | rfl <;> dsimp only
      · exact (reads_text _).map _
      · exact hlevels) (by cases l; rfl)
  exact hread

/-- The whole configuration is read back from the value it is written as, its category
levels in any order of the table's. -/
theorem reads_toJsonWith (c : Config) (h : levels.Perm c.logging.categoryLevels.entries) :
    Reads record.read (toJsonWith levels c) c := by
  have hread := reads_record record (record.fields.zip
      [(_, fun x => { x with logging := c.logging }),
        (_, fun x => { x with typography := c.typography }),
        (_, fun x => { x with grid := c.grid }),
        (_, fun x => { x with richText := c.richText })]) (a := c)
    rfl (by decide) (by
      intro w hw
      simp only [record, List.zip_cons_cons, List.zip_nil_right, List.mem_cons,
        List.not_mem_nil, or_false] at hw
      rcases hw with rfl | rfl | rfl | rfl <;> dsimp only
      · exact (reads_logging c.logging h).map _
      · exact (reads_typography c.typography).map _
      · exact (reads_grid c.grid).map _
      · exact (reads_richText c.richText).map _) (by cases c; rfl)
  exact hread

end Levels

/-- **Every configuration is read back from its text, whatever the order of its categories.**
Writing a configuration as indented JSON, its category levels in any order of the table's
entries (a hash map writes them in an order of its own), and reading the text gives the
configuration again, whatever its strings, its number of category entries and its words. -/
theorem parse_render (c : Config) (levels : List (String × String))
    (h : levels.Perm c.logging.categoryLevels.entries) : parse (renderWith levels c) = .ok c :=
  readDocument_pretty (reads_toJsonWith c h)

/-- The default configuration, its categories written in the order its defaults list them and
not in key order, is read back. -/
theorem parse_render_listed_order :
    [("core", "info"), ("widgets", "info"), ("layout", "warn")].Perm
        ({} : Config).logging.categoryLevels.entries ∧
      parse (renderWith [("core", "info"), ("widgets", "info"), ("layout", "warn")] {}) =
        .ok {} :=
  ⟨by decide, parse_render {} _ (by decide)⟩

end Config

end Sidebar
