import Sidebar.Logging.Directives
/-!
# The grammar of filter directives

`filter_directives` in `crates/panelkit-core/src/logging.rs`.

The filter directives of a logging configuration are the name of its default level, `info`
when the default level names none, followed for each category, in the order core, widgets,
layout, whose configured entry exists and names a level, by `,panelkit::`, the category's key,
`=` and that level's name (`filterDirectives_eq_directiveText`). Every text of that shape is
read back one way only (`directiveText_inj`): level names and category keys each start with
a letter no other one starts with, and each directive starts with a comma. So the directives
always match `LEVEL (",panelkit::" (core|widgets|layout) "=" LEVEL)*` and name each category at
most once, in that order.

A level name is read through the Unicode lower-case mapping, which lowers the ASCII capitals
as `Char.toLower` does (`Text.lowerChar_toLower`), so the directives do not change when the
ASCII letters of a level name change case, nor when entries under other keys change
(`filterDirectives_grammar`).
-/

namespace Sidebar

namespace Text

theorem toNat_toLower_of_upper {c : Char} (h : 0x41 ≤ c.toNat ∧ c.toNat ≤ 0x5A) :
    c.toLower.toNat = c.toNat + 32 := by
  unfold Char.toLower
  rw [dif_pos (by simp only [ge_iff_le, UInt32.le_iff_toNat_le, Char.toNat_val]; exact h)]
  have h32 : ('a'.val - 'A'.val).toNat = 32 := rfl
  simp only [← Char.toNat_val, UInt32.toNat_add, h32]
  rw [Char.toNat_val]
  omega

theorem toLower_of_not_upper {c : Char} (h : ¬(0x41 ≤ c.toNat ∧ c.toNat ≤ 0x5A)) :
    c.toLower = c := by
  unfold Char.toLower
  rw [dif_neg (by simp only [ge_iff_le, UInt32.le_iff_toNat_le, Char.toNat_val]; exact h)]

/-- No run of the lower-case table holds a small ASCII letter. -/
theorem lowerRuns_skip_small : ∀ r ∈ lowerRuns, r.hi < 0x61 ∨ 0x7A < r.lo := by
  decide +kernel

/-- A small ASCII letter lowers to itself. -/
theorem lowerChar_of_small {c : Char} (h : 0x61 ≤ c.toNat ∧ c.toNat ≤ 0x7A) :
    lowerChar c = [c] := by
  have hnone : lowerRuns.findSome? (·.image? c.toNat) = none := by
    rw [List.findSome?_eq_none_iff]
    intro r hr
    unfold CaseRun.image?
    rcases lowerRuns_skip_small r hr with hr' | hr' <;> rw [if_neg (by omega)]
  unfold lowerChar
  rw [if_neg (by omega), hnone]

/-- A capital ASCII letter lowers by the first run of the table, 32 code points up. -/
theorem lowerChar_of_capital {c : Char} (h : 0x41 ≤ c.toNat ∧ c.toNat ≤ 0x5A) :
    lowerChar c = [Char.ofNat (c.toNat + 32)] := by
  have hfirst : lowerRuns = ⟨0x41, 0x5A, 1, 32⟩ :: lowerRuns.tail := rfl
  have himage : CaseRun.image? ⟨0x41, 0x5A, 1, 32⟩ c.toNat = some (c.toNat + 32) := by
    simp only [CaseRun.image?, Nat.mod_one, and_true, if_pos h]
    exact congrArg some (by omega)
  unfold lowerChar
  rw [if_neg (by omega), hfirst, List.findSome?_cons, himage]

/-- **The Unicode lower-case mapping folds ASCII letters as `Char.toLower` does.** -/
theorem lowerChar_toLower (c : Char) : lowerChar c.toLower = lowerChar c := by
  by_cases hcap : 0x41 ≤ c.toNat ∧ c.toNat ≤ 0x5A
  · have hlow := toNat_toLower_of_upper hcap
    rw [lowerChar_of_small (by omega), lowerChar_of_capital hcap, ← hlow, Char.ofNat_toNat]
  · rw [toLower_of_not_upper hcap]

theorem lowercase_toLower (s : String) : lowercase s.toLower = lowercase s := by
  have hmap : s.toLower = s.map Char.toLower := rfl
  simp only [lowercase, hmap, String.toList_map, List.flatMap_map, lowerChar_toLower]

end Text

namespace LogLevel

theorem parse_toLower (s : String) : parse s.toLower = parse s := by
  simp only [parse, Text.lowercase_toLower]

/-- Level names that differ only in the case of ASCII letters name the same level. -/
theorem parse_eq_of_toLower {s t : String} (h : s.toLower = t.toLower) : parse s = parse t := by
  rw [← parse_toLower s, h, parse_toLower]

/-- No level name starts another one, so a name is read off the front of a text one way. -/
theorem name_append_inj {a b : LogLevel} {r r' : List Char}
    (h : a.name.toList ++ r = b.name.toList ++ r') : a = b ∧ r = r' := by
  cases a <;> cases b <;> simp [name] at h ⊢ <;> exact h

end LogLevel

namespace LogCategory

theorem target_eq (c : LogCategory) : c.target = "panelkit::" ++ c.key := by
  cases c <;> decide

/-- The directive of a category at a level: `,panelkit::`, the category's key, `=` and the
level's name. -/
def directive (c : LogCategory) (lv : LogLevel) : String :=
  ",panelkit::" ++ c.key ++ "=" ++ lv.name

theorem key_append_inj {c c' : LogCategory} {r r' : List Char}
    (h : c.key.toList ++ r = c'.key.toList ++ r') : c = c' ∧ r = r' := by
  cases c <;> cases c' <;> simp [key] at h ⊢ <;> exact h

/-- A directive is read off the front of a text one way: its category and its level. -/
theorem directive_append_inj {c c' : LogCategory} {lv lv' : LogLevel} {r r' : List Char}
    (h : (c.directive lv).toList ++ r = (c'.directive lv').toList ++ r') :
    c = c' ∧ lv = lv' ∧ r = r' := by
  simp only [directive, String.toList_append, List.append_assoc, List.append_cancel_left_eq] at h
  obtain ⟨rfl, h⟩ := key_append_inj h
  simp only [List.append_cancel_left_eq] at h
  obtain ⟨rfl, rfl⟩ := LogLevel.name_append_inj h
  exact ⟨rfl, rfl, rfl⟩

theorem directive_eq (c : LogCategory) (lv : LogLevel) :
    c.directive lv = "," ++ (c.target ++ "=" ++ lv.name) := by
  rw [target_eq, ← String.toList_inj]
  simp [directive, String.toList_append]

theorem directive_ne_nil (c : LogCategory) (lv : LogLevel) :
    ∃ r, (c.directive lv).toList = ',' :: r :=
  ⟨("panelkit::" ++ c.key ++ "=" ++ lv.name).toList, by simp [directive, String.toList_append]⟩

end LogCategory

/-- The text of a directive string of the grammar `LEVEL (",panelkit::" CATEGORY "=" LEVEL)*`:
the name of the default level `d`, then the directive of each category and level of `ds`, in
order. -/
def directiveText (d : LogLevel) (ds : List (LogCategory × LogLevel)) : String :=
  d.name ++ String.join (ds.map fun e => e.1.directive e.2)

/-- Directives joined are read back one by one. -/
theorem join_directives_inj {ds ds' : List (LogCategory × LogLevel)} :
    (String.join (ds.map fun e => e.1.directive e.2)).toList =
      (String.join (ds'.map fun e => e.1.directive e.2)).toList → ds = ds' := by
  induction ds generalizing ds' with
  | nil =>
    cases ds' with
    | nil => exact fun _ => rfl
    | cons e ds' =>
      obtain ⟨r, hr⟩ := e.1.directive_ne_nil e.2
      simp [String.join_cons, String.toList_append, hr]
  | cons e ds ih =>
    cases ds' with
    | nil =>
      obtain ⟨r, hr⟩ := e.1.directive_ne_nil e.2
      simp [String.join_cons, String.toList_append, hr]
    | cons e' ds' =>
      intro h
      simp only [List.map_cons, String.join_cons, String.toList_append] at h
      obtain ⟨hc, hlv, hrest⟩ := LogCategory.directive_append_inj h
      rw [ih hrest, Prod.ext hc hlv]

/-- **A directive string is read one way only.** -/
theorem directiveText_inj {d d' : LogLevel} {ds ds' : List (LogCategory × LogLevel)}
    (h : directiveText d ds = directiveText d' ds') : d = d' ∧ ds = ds' := by
  have hl := congrArg String.toList h
  simp only [directiveText, String.toList_append] at hl
  obtain ⟨rfl, hrest⟩ := LogLevel.name_append_inj hl
  exact ⟨rfl, join_directives_inj hrest⟩

/-- A text joined by a separator: the first piece, then each other piece after the separator. -/
theorem intercalate_cons_eq (s t : String) (l : List String) :
    s.intercalate (t :: l) = t ++ String.join (l.map (s ++ ·)) := by
  induction l generalizing t with
  | nil => simp [String.join_nil]
  | cons u l ih =>
    rw [String.intercalate_cons_cons, ih, List.map_cons, String.join_cons, String.append_assoc,
      String.append_assoc]

namespace LoggingConfig

/-- The level configured for a category: its entry, if it exists and names a level. -/
def levelOf? (l : LoggingConfig) (c : LogCategory) : Option LogLevel :=
  (l.categoryLevels.get? c.key).bind LogLevel.parse

/-- The level of a category is read from the lower-case form of its entry. -/
theorem levelOf?_eq_lower (l : LoggingConfig) (c : LogCategory) :
    l.levelOf? c = ((l.categoryLevels.get? c.key).map String.toLower).bind LogLevel.parse := by
  rw [levelOf?, Option.bind_map]
  congr 1
  funext s
  exact (LogLevel.parse_toLower s).symm

/-- The categories with a configured level, in the order core, widgets, layout, each with its
level. -/
def configuredLevels (l : LoggingConfig) : List (LogCategory × LogLevel) :=
  LogCategory.all.filterMap fun c => (l.levelOf? c).map (c, ·)

/-- **The directives are a directive string:** the default level, `info` when the configured
one names none, then the directive of each configured category. -/
theorem filterDirectives_eq_directiveText (l : LoggingConfig) :
    l.filterDirectives =
      directiveText ((LogLevel.parse l.defaultLevel).getD .info) l.configuredLevels := by
  -- each category's entry, after the separating comma, is its directive
  have hentry : ∀ c : LogCategory, (l.categoryDirective c).map ("," ++ ·) =
      ((l.levelOf? c).map (c, ·)).map fun e => e.1.directive e.2 := by
    intro c
    have hdir : l.categoryDirective c = (l.levelOf? c).map fun lv => c.target ++ "=" ++ lv.name :=
      rfl
    simp only [hdir, Option.map_map, LogCategory.directive_eq]
    rfl
  rw [filterDirectives, intercalate_cons_eq, directiveText, configuredLevels, List.map_filterMap,
    List.map_filterMap]
  simp only [hentry]

/-- The categories named are some of core, widgets and layout, in that order. -/
theorem configuredLevels_sublist (l : LoggingConfig) :
    (l.configuredLevels.map Prod.fst).Sublist LogCategory.all := by
  unfold configuredLevels
  generalize LogCategory.all = cs
  induction cs with
  | nil => exact List.Sublist.slnil
  | cons c cs ih =>
    cases h : l.levelOf? c with
    | none => simpa [h] using ih.cons c
    | some lv => simpa [h] using ih.cons_cons c

/-- **The filter directives follow their grammar.** For every logging configuration, the
directives are the default level's name (`info` when the configured one names no level), then
`,panelkit::` with the key and the level name of each category, in the order core, widgets,
layout, whose entry exists and names a level. They do not change when entries under other keys
change or the ASCII letters of a level name change case, and every reading of them as a
directive string names each category at most once, in that order. -/
theorem filterDirectives_grammar (l : LoggingConfig) :
    l.filterDirectives =
      directiveText ((LogLevel.parse l.defaultLevel).getD .info) l.configuredLevels ∧
    (∀ l' : LoggingConfig, l'.defaultLevel.toLower = l.defaultLevel.toLower →
      (∀ c : LogCategory, (l'.categoryLevels.get? c.key).map String.toLower =
        (l.categoryLevels.get? c.key).map String.toLower) →
      l'.filterDirectives = l.filterDirectives) ∧
    (∀ d ds, l.filterDirectives = directiveText d ds → (ds.map Prod.fst).Sublist LogCategory.all) := by
  refine ⟨filterDirectives_eq_directiveText l, fun l' hd hc => ?_, fun d ds h => ?_⟩
  · -- the same default level, and each category the same level
    have hlev : ∀ c, l'.levelOf? c = l.levelOf? c := fun c => by
      rw [levelOf?_eq_lower, levelOf?_eq_lower, hc c]
    rw [filterDirectives_eq_directiveText, filterDirectives_eq_directiveText,
      LogLevel.parse_eq_of_toLower hd]
    simp only [configuredLevels, hlev]
  · rw [filterDirectives_eq_directiveText] at h
    obtain ⟨-, rfl⟩ := directiveText_inj h
    exact configuredLevels_sublist l

end LoggingConfig

end Sidebar
