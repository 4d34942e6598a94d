import Mathlib.Data.List.Forall2
import Sidebar.Proofs.DirectiveGrammar
/-!
# Level names in any ASCII case

`LogLevel::parse` in `crates/panelkit-core/src/logging.rs`.

A text spells another up to case when it is that text with any of its letters written as ASCII
capitals (`Text.SpellsUpToCase`). A level name is read through the Unicode lower-case mapping,
which is wider than ASCII: `U+0130`, capital I with dot above, lowers to `i` and a combining dot,
and the Kelvin sign `U+212A` lowers to `k`. No other character lowers to a small ASCII letter
(`Text.lowerChar_eq_singleton_iff`, checked against the whole table once), and no level name holds
a `k`, so a text names a level exactly when it spells the level's name up to case
(`LogLevel.parse_iff_spells_up_to_case`). In particular no text with a character outside ASCII
names a level.
-/

namespace Sidebar
namespace Text

/-- `s` spells `t` with any of the letters of `t` written as ASCII capitals. -/
def SpellsUpToCase (s t : List Char) : Prop :=
  List.Forall₂ (fun c d => c = d ∨ c = d.toUpper) s t

instance (s t : List Char) : Decidable (SpellsUpToCase s t) :=
  inferInstanceAs (Decidable (List.Forall₂ _ s t))

theorem SpellsUpToCase.nil_iff {t : List Char} : SpellsUpToCase [] t ↔ t = [] :=
  List.forall₂_nil_left_iff

theorem SpellsUpToCase.cons_iff {c d : Char} {s t : List Char} :
    SpellsUpToCase (c :: s) (d :: t) ↔ (c = d ∨ c = d.toUpper) ∧ SpellsUpToCase s t :=
  List.forall₂_cons

/-- A small ASCII letter: the characters level names are made of. -/
def IsSmallLetter (d : Char) : Prop := 0x61 ≤ d.toNat ∧ d.toNat ≤ 0x7A

instance : DecidablePred IsSmallLetter := fun _ => inferInstanceAs (Decidable (_ ∧ _))

theorem toNat_toUpper_of_small {d : Char} (h : IsSmallLetter d) :
    d.toUpper.toNat = d.toNat - 32 := by
  unfold Char.toUpper
  rw [dif_pos (by simp only [UInt32.le_iff_toNat_le, Char.toNat_val]; exact h)]
  have h32 : ('A'.val - 'a'.val).toNat = 4294967264 := rfl
  simp only [← Char.toNat_val, UInt32.toNat_add, h32]
  rw [Char.toNat_val]
  unfold IsSmallLetter at h
  omega

theorem toUpper_of_not_small {d : Char} (h : ¬ IsSmallLetter d) : d.toUpper = d := by
  unfold Char.toUpper
  rw [dif_neg (by simp only [UInt32.le_iff_toNat_le, Char.toNat_val]; exact h)]

/-- **ASCII lower-casing gives a character that is no capital from that character or its
capital.** -/
theorem toLower_eq_iff {c d : Char} (hd : ¬ (0x41 ≤ d.toNat ∧ d.toNat ≤ 0x5A)) :
    c.toLower = d ↔ c = d ∨ c = d.toUpper := by
  rw [← Char.toNat_inj, ← Char.toNat_inj, ← Char.toNat_inj]
  -- four cases: `c` a capital or not, `d` a small letter or not
  by_cases hc : 0x41 ≤ c.toNat ∧ c.toNat ≤ 0x5A <;> by_cases hs : 0x61 ≤ d.toNat ∧ d.toNat ≤ 0x7A
  · rw [toNat_toLower_of_upper hc, toNat_toUpper_of_small hs]
    omega
  · rw [toNat_toLower_of_upper hc, toUpper_of_not_small hs]
    omega
  · rw [toLower_of_not_upper hc, toNat_toUpper_of_small hs]
    omega
  · rw [toLower_of_not_upper hc, toUpper_of_not_small hs, or_self]

/-- A list lowers in ASCII to a word without capitals exactly when it spells the word up to
case. -/
theorem map_toLower_eq_iff {u t : List Char} (ht : ∀ d ∈ t, ¬ (0x41 ≤ d.toNat ∧ d.toNat ≤ 0x5A)) :
    u.map Char.toLower = t ↔ SpellsUpToCase u t := by
  induction u generalizing t with
  | nil => rw [SpellsUpToCase.nil_iff, List.map_nil, eq_comm]
  | cons c u ih =>
    cases t with
    | nil => simp [SpellsUpToCase]
    | cons d t =>
      obtain ⟨hd, ht'⟩ := List.forall_mem_cons.1 ht
      rw [List.map_cons, List.cons.injEq, SpellsUpToCase.cons_iff, toLower_eq_iff hd, ih ht']

/-- A character whose code point is positive was made from that code point. -/
theorem toNat_ofNat_of_pos {n : Nat} (h : 0 < (Char.ofNat n).toNat) : (Char.ofNat n).toNat = n := by
  by_cases hvalid : n.isValidChar
  · rw [Char.ofNat, dif_pos hvalid]
    rfl
  · -- an invalid code point makes the null character
    rw [Char.ofNat, dif_neg hvalid] at h
    cases h

/-- Two runs of the lower-case table reach the small ASCII letters: the capitals `A` to `Z`, and
the Kelvin sign. Every other run lowers all it holds below `a` or above `z`. -/
theorem lowerRuns_small_image : ∀ r ∈ lowerRuns,
    (r.lo = 0x41 ∧ r.hi = 0x5A ∧ r.delta = 32) ∨ (r.lo = 0x212A ∧ r.hi = 0x212A) ∨
      (r.hi : Int) + r.delta < 0x61 ∨ 0x7A < (r.lo : Int) + r.delta := by
  decide +kernel

/-- Every character but capital I with dot above lowers to a single character. -/
theorem lowerChar_single {c : Char} (h : c.toNat ≠ 0x130) : ∃ x, lowerChar c = [x] := by
  unfold lowerChar
  rw [if_neg h]
  split
  · exact ⟨_, rfl⟩
  · exact ⟨_, rfl⟩

theorem lowerChar_kelvin {c : Char} (h : c.toNat = 0x212A) : lowerChar c = ['k'] := by
  rw [← Char.ofNat_toNat c, h]
  decide

/-- A character that the table lowers to a small letter is that letter's capital, or the
Kelvin sign. -/
theorem eq_toUpper_of_image? {c d : Char} {r : CaseRun} (hd : IsSmallLetter d)
    (hr : r ∈ lowerRuns) (himg : r.image? c.toNat = some d.toNat) :
    c = d.toUpper ∨ c.toNat = 0x212A := by
  unfold CaseRun.image? at himg
  split at himg
  · rename_i hin
    have hn : Int.toNat (c.toNat + r.delta) = d.toNat := Option.some.inj himg
    unfold IsSmallLetter at hd
    rcases lowerRuns_small_image r hr with ⟨hlo, hhi, hdelta⟩ | ⟨hlo, hhi⟩ | hout | hout
    · -- the capitals, 32 code points below their small letters
      left
      rw [← Char.toNat_inj, toNat_toUpper_of_small hd]
      omega
    · right
      omega
    · omega
    · omega
  · cases himg

/-- **Only a small ASCII letter itself, its capital and, for `k`, the Kelvin sign lower to it.** -/
theorem lowerChar_eq_singleton_iff {c d : Char} (hd : IsSmallLetter d) :
    lowerChar c = [d] ↔ c = d ∨ c = d.toUpper ∨ (c.toNat = 0x212A ∧ d = 'k') := by
  constructor
  · intro h
    by_cases hdot : c.toNat = 0x130
    · unfold lowerChar at h
      rw [if_pos hdot] at h
      cases (List.cons.inj h).2
    by_cases hkelvin : c.toNat = 0x212A
    · rw [lowerChar_kelvin hkelvin, List.singleton_inj] at h
      exact .inr (.inr ⟨hkelvin, h.symm⟩)
    unfold lowerChar at h
    rw [if_neg hdot] at h
    split at h
    · -- a run of the table holds `c`
      rename_i n hn
      have hdn : Char.ofNat n = d := List.singleton_inj.1 h
      obtain ⟨r, hr, himg⟩ := List.exists_of_findSome?_eq_some hn
      have hnd : n = d.toNat := by
        have hpos : 0 < (Char.ofNat n).toNat := by
          rw [hdn]
          unfold IsSmallLetter at hd
          omega
        rw [← hdn, toNat_ofNat_of_pos hpos]
      rw [hnd] at himg
      rcases eq_toUpper_of_image? hd hr himg with hc | hc
      · exact .inr (.inl hc)
      · exact absurd hc hkelvin
    · exact .inl (List.singleton_inj.1 h)
  · rintro (rfl | rfl | ⟨hc, rfl⟩)
    · exact lowerChar_of_small hd
    · -- the capital lowers 32 code points up, back to the letter
      have hup := toNat_toUpper_of_small hd
      unfold IsSmallLetter at hd
      rw [lowerChar_of_capital (by omega), hup, Nat.sub_add_cancel (by omega), Char.ofNat_toNat]
    · exact lowerChar_kelvin hc

/-- **Lowering a text gives a word of small letters other than `k` exactly when the text spells
the word up to case.** Capital I with dot above lowers to two characters, the second of which
is no letter, so it never lowers into such a word. -/
theorem flatMap_lowerChar_eq_iff {s t : List Char}
    (ht : ∀ d ∈ t, IsSmallLetter d ∧ d ≠ 'k') :
    s.flatMap lowerChar = t ↔ SpellsUpToCase s t := by
  induction s generalizing t with
  | nil => rw [SpellsUpToCase.nil_iff, List.flatMap_nil, eq_comm]
  | cons c s ih =>
    rw [List.flatMap_cons]
    cases t with
    | nil =>
      have hne : lowerChar c ≠ [] := by
        unfold lowerChar
        split
        · exact List.cons_ne_nil _ _
        · split <;> exact List.cons_ne_nil _ _
      constructor
      · intro h
        exact absurd (List.append_eq_nil_iff.1 h).1 hne
      · intro h
        exact absurd (List.forall₂_nil_right_iff.1 h) (List.cons_ne_nil c s)
    | cons d t =>
      obtain ⟨⟨hd, hk⟩, ht'⟩ := List.forall_mem_cons.1 ht
      rw [SpellsUpToCase.cons_iff]
      by_cases hdot : c.toNat = 0x130
      · -- two characters, the second a combining dot that no word of letters holds
        have hlow : lowerChar c = ['i', Char.ofNat 0x307] := by
          unfold lowerChar
          rw [if_pos hdot]
        have hup := toNat_toUpper_of_small hd
        unfold IsSmallLetter at hd
        constructor
        · intro h
          rw [hlow] at h
          simp only [List.cons_append, List.nil_append, List.cons.injEq] at h
          obtain ⟨-, ht''⟩ := h
          have hmem : Char.ofNat 0x307 ∈ t := ht'' ▸ List.mem_cons_self
          have hdot : ¬ IsSmallLetter (Char.ofNat 0x307) := by decide
          exact absurd (ht' _ hmem).1 hdot
        · rintro ⟨rfl | rfl, -⟩ <;> omega
      · obtain ⟨x, hx⟩ := lowerChar_single hdot
        rw [hx, List.singleton_append, List.cons.injEq, ih ht']
        apply and_congr_left'
        rw [← List.singleton_inj, ← hx, lowerChar_eq_singleton_iff hd]
        constructor
        · rintro (h | h | ⟨-, rfl⟩)
          · exact .inl h
          · exact .inr h
          · exact absurd rfl hk
        · rintro (h | h)
          · exact .inl h
          · exact .inr (.inl h)

/-- A text that spells a word of small letters up to case is all ASCII. -/
theorem SpellsUpToCase.toNat_lt {s t : List Char} (h : SpellsUpToCase s t)
    (ht : ∀ d ∈ t, IsSmallLetter d) : ∀ c ∈ s, c.toNat < 0x80 := by
  induction h with
  | nil => exact fun _ hc => absurd hc List.not_mem_nil
  | @cons c d s t hcd _ ih =>
    obtain ⟨hd, ht'⟩ := List.forall_mem_cons.1 ht
    intro c' hc'
    rcases List.mem_cons.1 hc' with rfl | hc'
    · have hup := toNat_toUpper_of_small hd
      unfold IsSmallLetter at hd
      rcases hcd with rfl | rfl <;> omega
    · exact ih ht' c' hc'

theorem toList_lowercase (s : String) : (lowercase s).toList = s.toList.flatMap lowerChar :=
  String.toList_ofList

end Text

namespace LogLevel

/-- Level names are made of small letters, none of them `k`. -/
theorem name_small (l : LogLevel) : ∀ d ∈ l.name.toList, Text.IsSmallLetter d ∧ d ≠ 'k' := by
  have hall : l.name.toList.all (fun d => decide (Text.IsSmallLetter d ∧ d ≠ 'k')) = true := by
    cases l <;> decide
  exact fun d hd => of_decide_eq_true (List.all_eq_true.1 hall d hd)

/-- A text names the level whose name its lower-case form is. -/
theorem parse_eq_some_iff_lowercase (s : String) (l : LogLevel) :
    parse s = some l ↔ Text.lowercase s = l.name := by
  unfold parse
  constructor
  · intro h
    simpa [eq_comm] using List.find?_some h
  · intro h
    show all.find? (fun x => decide (x.name = Text.lowercase s)) = some l
    rw [h]
    cases l <;> rfl

/-- **A text names a level exactly when it spells the level's name up to ASCII case.** Every
level is named by its name with any of its letters capitalised, and by nothing else; so no text
holding a character outside ASCII, such as the Kelvin sign or capital I with dot above, names a
level. -/
theorem parse_iff_spells_up_to_case (s : String) :
    (∀ l, parse s = some l ↔ Text.SpellsUpToCase s.toList l.name.toList) ∧
    ((∃ c ∈ s.toList, 0x7F < c.toNat) → parse s = none) := by
  have hspells : ∀ l, parse s = some l ↔ Text.SpellsUpToCase s.toList l.name.toList := by
    intro l
    rw [parse_eq_some_iff_lowercase, ← String.toList_inj, Text.toList_lowercase]
    exact Text.flatMap_lowerChar_eq_iff l.name_small
  refine ⟨hspells, ?_⟩
  rintro ⟨c, hc, hbig⟩
  cases h : parse s with
  | none => rfl
  | some l =>
    have hascii := ((hspells l).1 h).toNat_lt (fun d hd => (l.name_small d hd).1) c hc
    omega

example : parse "WaRn" = some .warn ∧ Text.SpellsUpToCase "WaRn".toList warn.name.toList := by
  decide

end LogLevel

end Sidebar
