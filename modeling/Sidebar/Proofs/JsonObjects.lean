import Sidebar.Proofs.JsonTokens
/-!
# Reading back written objects

`serde_json::to_string_pretty` and `serde_json::from_str`, as `PanelConfig::to_json_string` and
`PanelConfig::from_json_str` call them.

The writer lays an object out with one member per line, each indented, its key quoted, then a
colon, a space and the value; members are separated by a comma at the end of a line. This
module reads such text back. `Reads rd v a` says that the reader `rd` takes `a` back from the
value `v` written at any depth, after any white space, whatever follows that cannot continue
it. Strings and bounded numbers are read back (`reads_text`, `reads_unsigned`); an object of
string keys is read back as its members in order (`reads_entries`); a record is read back
from its fields written in declaration order with distinct names, each read back by its own
reader (`reads_record`); and a whole written document is read by the reader of its value
(`readDocument_pretty`).
-/

namespace Sidebar
namespace Json

/-! ### Layout of written objects -/

/-- Member lines as the writer joins them: a line feed before the first when `first`, a comma
and a line feed before each other. -/
def linesText (first : Bool) : List (List Char) → List Char
  | [] => []
  | l :: ls => (if first then ['\n'] else [',', '\n']) ++ l ++ linesText false ls

/-- The characters of a member line at depth `d`: indentation, quoted key, colon, space and
the value one level deeper. -/
def memberChars (d : Nat) (m : String × Value) : List Char :=
  List.replicate (2 * (d + 1)) ' ' ++ (quote m.1).toList ++ ':' :: ' ' :: (m.2.pretty (d + 1)).toList

theorem memberLines_eq (d : Nat) :
    ∀ ms : List (String × Value),
      memberLines d ms = ms.map fun m => indent (d + 1) ++ quote m.1 ++ ": " ++ m.2.pretty (d + 1)
  | [] => by rw [memberLines, List.map_nil]
  | (k, v) :: ms => by rw [memberLines, memberLines_eq d ms, List.map_cons]

theorem linesText_intercalate (first : Bool) (l : List Char) :
    ∀ ls : List (List Char),
      (if first then ['\n'] else [',', '\n']) ++ [',', '\n'].intercalate (l :: ls) =
        linesText first (l :: ls)
  | [] => by simp [linesText]
  | l' :: ls => by
    rw [List.intercalate_cons_cons, linesText, ← linesText_intercalate false l' ls]
    simp

/-- **A written object** is its opening brace, its member lines, white space and its closing
brace. -/
theorem toList_pretty_object (d : Nat) (ms : List (String × Value)) :
    ∃ bl, Blank bl ∧
      ((Value.object ms).pretty d).toList = '{' :: linesText true (ms.map (memberChars d)) ++ bl ++ ['}'] := by
  cases ms with
  | nil => exact ⟨[], blank_nil, by simp [Value.pretty, linesText]⟩
  | cons m ms =>
    refine ⟨'\n' :: List.replicate (2 * d) ' ', Blank.cons rfl (blank_replicate_space _), ?_⟩
    have hlines : ((m :: ms).map fun m => indent (d + 1) ++ quote m.1 ++ ": " ++ m.2.pretty (d + 1)).map
        String.toList = (m :: ms).map (memberChars d) := by
      simp [memberChars, indent, Function.comp_def]
    rw [Value.pretty, memberLines_eq]
    simp only [String.toList_append, String.toList_intercalate]
    rw [hlines]
    simp only [show "\x7b\n".toList = ['{', '\n'] from rfl, show ",\n".toList = [',', '\n'] from rfl,
      show "\n".toList = ['\n'] from rfl, show "\x7d".toList = ['}'] from rfl, List.map_cons]
    rw [← linesText_intercalate true]
    simp [indent]

/-! ### Punctuation -/

theorem colon_takes {cs bl rest : List Char} (hbl : Blank bl) (hcs : cs = bl ++ ':' :: rest) :
    ∃ r, colon cs = .ok r ∧ r.1 = rest := by
  have hsk : (skipBlank cs).1 = ':' :: rest := skipBlank_eq hbl rfl hcs
  unfold colon
  split
  · next h => rw [hsk] at h; cases h
  · next c tail h =>
    rw [hsk] at h
    obtain ⟨rfl, rfl⟩ := List.cons.inj h
    exact ⟨_, if_pos rfl, rfl⟩

theorem closeObject_takes {cs bl rest : List Char} (hbl : Blank bl) (hcs : cs = bl ++ '}' :: rest) :
    ∃ r, closeObject cs = .ok r ∧ r.1 = rest := by
  have hsk : (skipBlank cs).1 = '}' :: rest := skipBlank_eq hbl rfl hcs
  unfold closeObject
  split
  · next h => rw [hsk] at h; cases h
  · next c tail h =>
    rw [hsk] at h
    obtain ⟨rfl, rfl⟩ := List.cons.inj h
    exact ⟨_, if_pos rfl, rfl⟩

/-- After white space, a closing brace ends the members, whether or not one was read. -/
theorem memberStart_close {first : Bool} {cs bl rest : List Char} (hbl : Blank bl)
    (hcs : cs = bl ++ '}' :: rest) : ∃ r, memberStart first cs = .ok (.close r) ∧ r.1 = '}' :: rest := by
  have hsk : (skipBlank cs).1 = '}' :: rest := skipBlank_eq hbl rfl hcs
  unfold memberStart
  split
  · next h => rw [hsk] at h; cases h
  · next c tail h =>
    rw [hsk] at h
    obtain ⟨rfl, rfl⟩ := List.cons.inj h
    exact ⟨_, if_pos rfl, hsk⟩

/-- The separator and the indentation of a member line lead to its key. -/
theorem memberStart_key (first : Bool) {cs bl rest : List Char} (hbl : Blank bl)
    (hcs : cs = (if first then ['\n'] else [',', '\n']) ++ bl ++ '"' :: rest) :
    ∃ k, memberStart first cs = .ok (.key k) ∧ k.1 = rest := by
  have hnl : Blank ('\n' :: bl) := Blank.cons rfl hbl
  unfold memberStart
  cases first with
  | true =>
    have hsk : (skipBlank cs).1 = '"' :: rest := skipBlank_eq hnl rfl (by simp [hcs])
    split
    · next h => rw [hsk] at h; cases h
    · next c tail h =>
      rw [hsk] at h
      obtain ⟨rfl, rfl⟩ := List.cons.inj h
      exact ⟨_, rfl, rfl⟩
  | false =>
    -- a comma, then the line feed and the indentation before the key
    have hsk : (skipBlank cs).1 = ',' :: ('\n' :: bl ++ '"' :: rest) :=
      skipBlank_eq blank_nil rfl (by simp [hcs])
    have hsk2 : (skipBlank ('\n' :: bl ++ '"' :: rest)).1 = '"' :: rest := skipBlank_eq hnl rfl rfl
    split
    · next h => rw [hsk] at h; cases h
    · next c tail h =>
      rw [hsk] at h
      obtain ⟨rfl, rfl⟩ := List.cons.inj h
      simp only [show (',' : Char) ≠ '}' by decide, if_false, Bool.not_false, and_self, if_true]
      split
      · next h2 => rw [hsk2] at h2; cases h2
      · next d r h2 =>
        rw [hsk2] at h2
        obtain ⟨rfl, rfl⟩ := List.cons.inj h2
        exact ⟨_, rfl, rfl⟩

/-- **A member line is read up to its value**: its key is found and read back, and the colon
after it is taken, leaving a space and the value. -/
theorem member_header (first : Bool) (d : Nat) (m : String × Value) (after : List Char)
    {cs : List Char} (hcs : cs = (if first then ['\n'] else [',', '\n']) ++ memberChars d m ++ after) :
    ∃ k, memberStart first cs = .ok (.key k) ∧
      ∃ r1, readString k.1 = .ok (m.1, r1) ∧
        ∃ r2, colon r1.1 = .ok r2 ∧ r2.1 = ' ' :: ((m.2.pretty (d + 1)).toList ++ after) := by
  have hkey : ∃ k, memberStart first cs = .ok (.key k) ∧
      k.1 = escaped m.1.toList ++ '"' :: ':' :: ' ' :: ((m.2.pretty (d + 1)).toList ++ after) :=
    memberStart_key first (blank_replicate_space (2 * (d + 1)))
      (by rw [hcs, memberChars, toList_quote]; simp)
  obtain ⟨k, hk, hk1⟩ := hkey
  obtain ⟨r1, hr1, hr1'⟩ := readString_escaped m.1 _ hk1
  have hcolon : ∃ r2, colon r1.1 = .ok r2 ∧ r2.1 = ' ' :: ((m.2.pretty (d + 1)).toList ++ after) :=
    colon_takes blank_nil (by rw [hr1']; rfl)
  exact ⟨k, hk, r1, hr1, hcolon⟩

/-- What follows a member line: more member lines, then white space and the closing brace. -/
theorem ends_linesText {bl : List Char} (hbl : Blank bl) (rest : List Char) :
    ∀ ls : List (List Char), Ends (linesText false ls ++ bl ++ '}' :: rest)
  | [] => by
    intro c t h
    cases bl with
    | nil => cases h; exact .inr (.inl rfl)
    | cons b bl =>
      cases h
      exact .inr (.inr (hbl c List.mem_cons_self))
  | l :: ls => by
    intro c t h
    simp only [linesText, Bool.false_eq_true, if_false, List.cons_append, List.append_assoc] at h
    cases h
    exact .inl rfl

/-! ### Values read back -/

/-- The reader `rd` takes `a` back from `v` written at any depth, after any white space,
whatever follows that cannot continue it. -/
def Reads {α : Type} (rd : Reader α) (v : Value) (a : α) : Prop :=
  ∀ (d : Nat) {cs : List Char} (bl rest : List Char), Blank bl → Ends rest →
    cs = bl ++ (v.pretty d).toList ++ rest → Takes (rd cs) a rest

theorem Reads.map {α β : Type} {rd : Reader α} {v : Value} {a : α} (h : Reads rd v a)
    (f : α → β) : Reads (rd.map f) v (f a) := by
  intro d cs bl rest hbl hrest hcs
  obtain ⟨r, hr, hr1⟩ := h d bl rest hbl hrest hcs
  refine ⟨r, ?_, hr1⟩
  simp only [Reader.map, hr]
  rfl

theorem reads_text (s : String) : Reads text (.text s) s :=
  fun _ _ _ _ hbl _ hcs => takes_text hbl (by rw [hcs]; rfl)

theorem reads_unsigned {expected : String} {bound n : Nat} (hn : n ≤ bound) (hb : bound ≤ u64Max) :
    Reads (unsigned expected bound) (.nat n) n :=
  fun _ _ _ _ hbl hrest hcs => takes_unsigned hn hb hbl hrest (by rw [hcs]; rfl)

/-- **A whole written document is read back** by the reader of its value. -/
theorem readDocument_pretty {α : Type} {rd : Reader α} {v : Value} {a : α} (h : Reads rd v a) :
    readDocument rd (v.pretty 0) = .ok a := by
  have hv : Takes (rd (v.pretty 0).toList) a [] := h 0 [] [] blank_nil ends_nil (by simp)
  obtain ⟨r, hr, hr1⟩ := hv
  rw [readDocument, hr]
  simp only [skipBlank_val, hr1, List.dropWhile_nil]

/-- **A member line is read whole**: its key is read back, and its value is read back by the
reader of the value, up to what follows the line. -/
theorem member_read {α : Type} {rd : Reader α} {v : Value} {a : α} (h : Reads rd v a)
    (first : Bool) (d : Nat) (key : String) {after : List Char} (hafter : Ends after)
    {cs : List Char} (hcs : cs = (if first then ['\n'] else [',', '\n']) ++ memberChars d (key, v) ++ after) :
    ∃ k, memberStart first cs = .ok (.key k) ∧
      ∃ r1, readString k.1 = .ok (key, r1) ∧
        ∃ r2, colon r1.1 = .ok r2 ∧ Takes (rd r2.1) a after := by
  obtain ⟨k, hk, r1, hr1, r2, hr2, hr2'⟩ := member_header first d (key, v) after hcs
  exact ⟨k, hk, r1, hr1, r2, hr2, h (d + 1) [' '] after (Blank.cons rfl blank_nil) hafter
    (by rw [hr2']; simp)⟩

/-! ### Objects of string keys -/

/-- The members of a written object of string keys are read back in order, after those read
before. -/
theorem entriesFrom_lines {β : Type} {value : Reader β} (d : Nat) {bl rest : List Char}
    (hbl : Blank bl) :
    ∀ (ws : List (String × Value × β)) (first : Bool) (acc : List (String × β)) {cs : List Char},
      (∀ w ∈ ws, Reads value w.2.1 w.2.2) →
      cs = linesText first (ws.map fun w => memberChars d (w.1, w.2.1)) ++ bl ++ '}' :: rest →
      Takes (entriesFrom value first acc cs) (acc.reverse ++ ws.map fun w => (w.1, w.2.2))
        ('}' :: rest)
  | [], first, acc, cs, _, hcs => by
    have hclose : ∃ r, memberStart first cs = .ok (.close r) ∧ r.1 = '}' :: rest :=
      memberStart_close hbl (by simpa [linesText] using hcs)
    obtain ⟨r, hr, hr1⟩ := hclose
    rw [entriesFrom, hr]
    exact ⟨r, by simp, hr1⟩
  | w :: ws, first, acc, cs, hreads, hcs => by
    -- what follows this member's value: the other lines and the closing brace
    have hline : cs = (if first then ['\n'] else [',', '\n']) ++ memberChars d (w.1, w.2.1) ++
        (linesText false (ws.map fun w => memberChars d (w.1, w.2.1)) ++ bl ++ '}' :: rest) := by
      rw [hcs]
      simp [linesText, List.append_assoc]
    obtain ⟨k, hk, r1, hr1, r2, hr2, r3, hr3, hr3'⟩ := member_read (hreads w List.mem_cons_self)
      first d w.1 (ends_linesText hbl rest _) hline
    have htail := entriesFrom_lines d hbl ws false ((w.1, w.2.2) :: acc)
      (fun x hx => hreads x (List.mem_cons_of_mem _ hx)) hr3'
    rw [entriesFrom, hk]
    simp only [hr1, hr2, hr3]
    have hacc : ((w.1, w.2.2) :: acc).reverse ++ ws.map (fun w => (w.1, w.2.2)) =
        acc.reverse ++ (w :: ws).map fun w => (w.1, w.2.2) := by simp
    rw [hacc] at htail
    exact htail.widen _

/-- **An object of string keys is read back** as its members in order, each value read back by
the value reader. -/
theorem reads_entries {β : Type} (value : Reader β) (ws : List (String × Value × β))
    (hreads : ∀ w ∈ ws, Reads value w.2.1 w.2.2) :
    Reads (entries value) (.object (ws.map fun w => (w.1, w.2.1))) (ws.map fun w => (w.1, w.2.2)) := by
  intro d cs bl rest hbl hrest hcs
  obtain ⟨bl', hbl', hobj⟩ := toList_pretty_object d (ws.map fun w => (w.1, w.2.1))
  have hsk : (skipBlank cs).1 =
      '{' :: (linesText true (ws.map fun w => memberChars d (w.1, w.2.1)) ++ bl' ++ '}' :: rest) :=
    skipBlank_eq hbl rfl (by rw [hcs, hobj]; simp [Function.comp_def])
  have hlines : Takes (entriesFrom value true []
      (linesText true (ws.map fun w => memberChars d (w.1, w.2.1)) ++ bl' ++ '}' :: rest))
      (ws.map fun w => (w.1, w.2.2)) ('}' :: rest) := by
    simpa using entriesFrom_lines d hbl' ws true [] hreads rfl
  obtain ⟨r, hr, hr1⟩ := hlines
  have hclose : ∃ r2, closeObject r.1 = .ok r2 ∧ r2.1 = rest := closeObject_takes blank_nil hr1
  obtain ⟨r2, hr2, hr2'⟩ := hclose
  unfold entries
  split
  · next h => rw [hsk] at h; cases h
  · next c tail h =>
    rw [hsk] at h
    obtain ⟨rfl, rfl⟩ := List.cons.inj h
    simp only [if_true, hr, hr2]
    exact ⟨_, rfl, hr2'⟩

/-! ### Records -/

/-- A field of a record whose names are distinct is found by its name. -/
theorem find?_name {σ : Type} :
    ∀ {fs : List (Field σ)}, (fs.map (·.name)).Nodup → ∀ {f : Field σ}, f ∈ fs →
      fs.find? (·.name = f.name) = some f
  | [], _, _, hf => nomatch hf
  | g :: gs, hnd, f, hf => by
    rw [List.map_cons, List.nodup_cons] at hnd
    by_cases hgf : g.name = f.name
    · -- `f` can only be `g`: the other fields have other names
      have hfg : f = g := by
        rcases List.mem_cons.1 hf with h | h
        · exact h
        · exact absurd (hgf ▸ List.mem_map_of_mem (f := (·.name)) h) hnd.1
      simp [hgf, hfg]
    · have hf' : f ∈ gs := by
        rcases List.mem_cons.1 hf with h | h
        · exact absurd (h ▸ rfl) hgf
        · exact h
      simp [hgf, find?_name hnd.2 hf']

/-- The members of a written record are read back in order, each field found by its name and
read by its own reader, when no name repeats and none was seen before. -/
theorem members_lines {σ : Type} (rec : Record σ) (d : Nat) {bl rest : List Char} (hbl : Blank bl) :
    ∀ (ws : List (Field σ × Value × (σ → σ))) (first : Bool) (seen : List String) (st : σ)
      {cs : List Char},
      (∀ w ∈ ws, rec.fields.find? (·.name = w.1.name) = some w.1) →
      (∀ w ∈ ws, Reads w.1.value w.2.1 w.2.2) →
      (ws.map (·.1.name)).Nodup → (∀ w ∈ ws, w.1.name ∉ seen) →
      cs = linesText first (ws.map fun w => memberChars d (w.1.name, w.2.1)) ++ bl ++ '}' :: rest →
      Takes (rec.members first seen st cs) (ws.foldl (fun st w => w.2.2 st) st) ('}' :: rest)
  | [], first, seen, st, cs, _, _, _, _, hcs => by
    have hclose : ∃ r, memberStart first cs = .ok (.close r) ∧ r.1 = '}' :: rest :=
      memberStart_close hbl (by simpa [linesText] using hcs)
    obtain ⟨r, hr, hr1⟩ := hclose
    rw [Record.members, hr]
    exact ⟨r, rfl, hr1⟩
  | w :: ws, first, seen, st, cs, hfind, hreads, hnodup, hseen, hcs => by
    rw [List.map_cons, List.nodup_cons] at hnodup
    have hline : cs = (if first then ['\n'] else [',', '\n']) ++ memberChars d (w.1.name, w.2.1) ++
        (linesText false (ws.map fun w => memberChars d (w.1.name, w.2.1)) ++ bl ++ '}' :: rest) := by
      rw [hcs]
      simp [linesText, List.append_assoc]
    obtain ⟨k, hk, r1, hr1, r2, hr2, r3, hr3, hr3'⟩ := member_read (hreads w List.mem_cons_self)
      first d w.1.name (ends_linesText hbl rest _) hline
    -- the names after this one are neither this one nor one seen before
    have hseen' : ∀ x ∈ ws, x.1.name ∉ w.1.name :: seen := by
      intro x hx hmem
      rcases List.mem_cons.1 hmem with h | h
      · exact hnodup.1 (h ▸ List.mem_map_of_mem (f := (·.1.name)) hx)
      · exact hseen x (List.mem_cons_of_mem _ hx) h
    have htail := members_lines rec d hbl ws false (w.1.name :: seen) (w.2.2 st)
      (fun x hx => hfind x (List.mem_cons_of_mem _ hx))
      (fun x hx => hreads x (List.mem_cons_of_mem _ hx)) hnodup.2 hseen' hr3'
    rw [Record.members, hk]
    simp only [hr1, hfind w List.mem_cons_self, if_neg (hseen w List.mem_cons_self), hr2, hr3]
    exact htail.widen _

/-- **A record is read back** from its fields written in declaration order with distinct names,
each read back by its own reader: the changes they stand for are made to the defaults in that
order. -/
theorem reads_record {σ : Type} (rec : Record σ) (ws : List (Field σ × Value × (σ → σ))) {a : σ}
    (hfields : ws.map (·.1) = rec.fields) (hnodup : (rec.fields.map (·.name)).Nodup)
    (hreads : ∀ w ∈ ws, Reads w.1.value w.2.1 w.2.2)
    (ha : ws.foldl (fun st w => w.2.2 st) rec.init = a) :
    Reads rec.read (.object (ws.map fun w => (w.1.name, w.2.1))) a := by
  subst ha
  intro d cs bl rest hbl hrest hcs
  obtain ⟨bl', hbl', hobj⟩ := toList_pretty_object d (ws.map fun w => (w.1.name, w.2.1))
  have hsk : (skipBlank cs).1 =
      '{' :: (linesText true (ws.map fun w => memberChars d (w.1.name, w.2.1)) ++ bl' ++ '}' :: rest) :=
    skipBlank_eq hbl rfl (by rw [hcs, hobj]; simp [Function.comp_def])
  have hnd : (ws.map (·.1.name)).Nodup := by
    rw [← hfields, List.map_map] at hnodup
    exact hnodup
  have hfind : ∀ w ∈ ws, rec.fields.find? (·.name = w.1.name) = some w.1 := fun w hw =>
    find?_name hnodup (hfields ▸ List.mem_map_of_mem hw)
  have hmembers : Takes (rec.members true [] rec.init
      (linesText true (ws.map fun w => memberChars d (w.1.name, w.2.1)) ++ bl' ++ '}' :: rest))
      (ws.foldl (fun st w => w.2.2 st) rec.init) ('}' :: rest) :=
    members_lines rec d hbl' ws true [] rec.init hfind hreads hnd (by simp) rfl
  obtain ⟨r, hr, hr1⟩ := hmembers
  have hclose : ∃ r2, closeObject r.1 = .ok r2 ∧ r2.1 = rest := closeObject_takes blank_nil hr1
  obtain ⟨r2, hr2, hr2'⟩ := hclose
  unfold Record.read
  split
  · next h => rw [hsk] at h; cases h
  · next c tail h =>
    rw [hsk] at h
    obtain ⟨rfl, rfl⟩ := List.cons.inj h
    simp only [show ('{' : Char) ≠ '[' by decide, if_false, if_true, hr, hr2]
    exact ⟨_, rfl, hr2'⟩

end Json
end Sidebar
