import Sidebar.Json.Schema
import Sidebar.Json.Write
/-!
# Reading back written strings and numbers

`serde_json::to_string_pretty` and `serde_json::from_str`, as `PanelConfig::to_json_string` and
`PanelConfig::from_json_str` call them.

What the writer puts down as a token, the readers take back. A quoted string gives the string
it quotes, whatever its characters: quotes, backslashes and control characters are escaped
and read back from their escapes. The decimal digits of a natural number give the number, up
to the reader's bound, when what follows cannot continue a number.

A read's result is compared through `Takes`, which forgets the proof that the remainder is no
longer than the text.
-/

namespace Sidebar
namespace Json

/-- A read took `a` and left `rest`. -/
def Takes {α : Type} {cs : List Char} (x : Except Fault (α × Rest cs)) (a : α)
    (rest : List Char) : Prop :=
  ∃ r : Rest cs, x = .ok (a, r) ∧ r.1 = rest

theorem Takes.widen {α : Type} {cs ds : List Char} {x : Except Fault (α × Rest cs)} {a : α}
    {rest : List Char} (h : Takes x a rest) (hle : cs.length ≤ ds.length) :
    Takes (Json.widen hle x) a rest := by
  obtain ⟨r, rfl, rfl⟩ := h
  exact ⟨r.widen hle, rfl, rfl⟩

/-! ### White space and what ends a value -/

/-- Text that is all white space. -/
def Blank (bl : List Char) : Prop := ∀ c ∈ bl, isBlank c = true

theorem blank_nil : Blank [] := by simp [Blank]

theorem Blank.cons {b : Char} {bl : List Char} (hb : isBlank b = true) (h : Blank bl) :
    Blank (b :: bl) := by
  intro c hc
  rcases List.mem_cons.1 hc with rfl | hc
  · exact hb
  · exact h c hc

theorem blank_replicate_space (n : Nat) : Blank (List.replicate n ' ') := by
  intro c hc
  rw [(List.mem_replicate.1 hc).2]
  rfl

theorem skipBlank_val (cs : List Char) : (skipBlank cs).1 = cs.dropWhile isBlank := rfl

/-- White space is skipped up to the first character that is not. -/
theorem skipBlank_eq {bl cs rest : List Char} {c : Char} (hbl : Blank bl) (hc : isBlank c = false)
    (hcs : cs = bl ++ c :: rest) : (skipBlank cs).1 = c :: rest := by
  subst hcs
  rw [skipBlank_val]
  induction bl with
  | nil => simp [hc]
  | cons b bl ih =>
    have hb : isBlank b = true := hbl b List.mem_cons_self
    rw [List.cons_append, List.dropWhile_cons, if_pos hb]
    exact ih fun x hx => hbl x (List.mem_cons_of_mem _ hx)

/-- A character that cannot continue a value: a comma, a closing brace or white space. -/
def Stops (c : Char) : Prop := c = ',' ∨ c = '}' ∨ isBlank c = true

/-- What follows a value cannot continue it. -/
def Ends (rest : List Char) : Prop := ∀ c t, rest = c :: t → Stops c

theorem ends_nil : Ends [] := fun _ _ h => nomatch h

/-- A character that stops a value is no digit, point or exponent mark. -/
theorem Stops.not_number {c : Char} (h : Stops c) :
    digitValue c = none ∧ isDigit c = false ∧ c ≠ '.' ∧ ¬(c = 'e' ∨ c = 'E') := by
  have hc : c = ',' ∨ c = '}' ∨ c = ' ' ∨ c = '\n' ∨ c = '\t' ∨ c = '\r' := by
    simpa [Stops, isBlank, or_assoc] using h
  rcases hc with rfl | rfl | rfl | rfl | rfl | rfl <;> decide

/-! ### Strings -/

/-- The characters of a string's body as the writer escapes them. -/
def escaped (s : List Char) : List Char := s.flatMap fun c => (escapeChar c).toList

theorem toList_quote (s : String) : (quote s).toList = '"' :: escaped s.toList ++ ['"'] := by
  simp [quote, escaped, String.toList_join, List.flatMap_map]

/-- A backslash and an escape give the character the escape stands for. -/
theorem readStringFrom_backslash {acc cs mid rest : List Char} {x : Char} {a : String}
    (he : Takes (readEscape cs) x mid) (h : Takes (readStringFrom (x :: acc) mid) a rest) :
    Takes (readStringFrom acc ('\\' :: cs)) a rest := by
  obtain ⟨r, hr, rfl⟩ := he
  rw [readStringFrom]
  simp only [show ('\\' : Char) ≠ '"' by decide, if_false, if_true, hr]
  exact h.widen _

/-- The digit `k < 16` that the writer puts in a `\u` escape. -/
theorem hexValue_digit : ∀ k, k < 16 → hexValue ("0123456789abcdef".toList.getD k '0') = some k := by
  decide

/-- A `\u00xx` escape of a control character gives the character back. -/
theorem readEscape_control {c : Char} (hc : c.toNat < 0x20) (cs : List Char) :
    Takes (readEscape ('u' :: '0' :: '0' :: "0123456789abcdef".toList.getD (c.toNat / 16) '0' ::
      "0123456789abcdef".toList.getD (c.toNat % 16) '0' :: cs)) c cs := by
  have hhi := hexValue_digit (c.toNat / 16) (by omega)
  have hlo := hexValue_digit (c.toNat % 16) (Nat.mod_lt _ (by decide))
  -- the four digits take at least four bytes
  have hlen : ¬byteLength ('0' :: '0' :: "0123456789abcdef".toList.getD (c.toNat / 16) '0' ::
      "0123456789abcdef".toList.getD (c.toNat % 16) '0' :: cs) < 4 := by
    have h1 := Char.utf8Size_pos ("0123456789abcdef".toList.getD (c.toNat / 16) '0')
    have h2 := Char.utf8Size_pos ("0123456789abcdef".toList.getD (c.toNat % 16) '0')
    have h0 : ('0' : Char).utf8Size = 1 := by decide
    simp only [byteLength, Text.utf8Length_cons]
    omega
  have hn : ((0 * 16 + 0) * 16 + c.toNat / 16) * 16 + c.toNat % 16 = c.toNat := by omega
  have hquad : hexQuad ('0' :: '0' :: "0123456789abcdef".toList.getD (c.toNat / 16) '0' ::
      "0123456789abcdef".toList.getD (c.toNat % 16) '0' :: cs) =
      .ok (c.toNat, ⟨cs, by simp only [List.length_cons]; omega⟩) := by
    rw [hexQuad, if_neg hlen]
    simp only [hhi, hlo, show hexValue '0' = some 0 by decide, hn]
  refine ⟨⟨cs, by simp only [List.length_cons]; omega⟩, ?_, rfl⟩
  simp only [readEscape, show ('u' : Char) ≠ '"' by decide, show ('u' : Char) ≠ '\\' by decide,
    show ('u' : Char) ≠ '/' by decide, show ('u' : Char) ≠ 'b' by decide,
    show ('u' : Char) ≠ 'f' by decide, show ('u' : Char) ≠ 'n' by decide,
    show ('u' : Char) ≠ 'r' by decide, show ('u' : Char) ≠ 't' by decide, if_false, if_true]
  rw [unicodeEscape, hquad]
  have htrail : isTrailSurrogate c.toNat = false := by simp [isTrailSurrogate]; omega
  have hlead : isLeadSurrogate c.toNat = false := by simp [isLeadSurrogate]; omega
  simp only [htrail, hlead, Bool.not_false, if_true, Char.ofNat_toNat]
  rfl

/-- A character written as a backslash and one more character is read back from them. -/
theorem readStringFrom_pair {acc cs rest : List Char} {c e : Char} {a : String}
    (hesc : (escapeChar c).toList = ['\\', e]) (he : Takes (readEscape (e :: cs)) c cs)
    (h : Takes (readStringFrom (c :: acc) cs) a rest) :
    Takes (readStringFrom acc ((escapeChar c).toList ++ cs)) a rest := by
  rw [hesc]
  exact readStringFrom_backslash he h

/-- **One written character is read back**, whatever escape the writer chose for it. -/
theorem readStringFrom_escapeChar (acc : List Char) (c : Char) (cs : List Char) {a : String}
    {rest : List Char} (h : Takes (readStringFrom (c :: acc) cs) a rest) :
    Takes (readStringFrom acc ((escapeChar c).toList ++ cs)) a rest := by
  -- the quote, the backslash and the five control characters with a short escape
  by_cases h1 : c = '"'
  · subst h1
    exact readStringFrom_pair (e := '"') (by decide) ⟨⟨cs, length_le_cons _ cs⟩, rfl, rfl⟩ h
  by_cases h2 : c = '\\'
  · subst h2
    exact readStringFrom_pair (e := '\\') (by decide) ⟨⟨cs, length_le_cons _ cs⟩, rfl, rfl⟩ h
  by_cases h3 : c = '\x08'
  · subst h3
    exact readStringFrom_pair (e := 'b') (by decide) ⟨⟨cs, length_le_cons _ cs⟩, rfl, rfl⟩ h
  by_cases h4 : c = '\t'
  · subst h4
    exact readStringFrom_pair (e := 't') (by decide) ⟨⟨cs, length_le_cons _ cs⟩, rfl, rfl⟩ h
  by_cases h5 : c = '\n'
  · subst h5
    exact readStringFrom_pair (e := 'n') (by decide) ⟨⟨cs, length_le_cons _ cs⟩, rfl, rfl⟩ h
  by_cases h6 : c = '\x0c'
  · subst h6
    exact readStringFrom_pair (e := 'f') (by decide) ⟨⟨cs, length_le_cons _ cs⟩, rfl, rfl⟩ h
  by_cases h7 : c = '\r'
  · subst h7
    exact readStringFrom_pair (e := 'r') (by decide) ⟨⟨cs, length_le_cons _ cs⟩, rfl, rfl⟩ h
  by_cases hctl : c.toNat < 0x20
  · -- the other control characters go through a `\u00xx` escape
    have hesc : (escapeChar c).toList = '\\' :: 'u' :: '0' :: '0' ::
        "0123456789abcdef".toList.getD (c.toNat / 16) '0' ::
        ["0123456789abcdef".toList.getD (c.toNat % 16) '0'] := by
      simp [escapeChar, h1, h2, h3, h4, h5, h6, h7, hctl]
    rw [hesc, List.cons_append]
    exact readStringFrom_backslash (readEscape_control hctl cs) h
  · -- any other character stands for itself
    have hesc : (escapeChar c).toList = [c] := by
      simp [escapeChar, h1, h2, h3, h4, h5, h6, h7, hctl]
    rw [hesc, List.singleton_append, readStringFrom]
    simp only [h1, h2, hctl, if_false]
    exact h.widen _

/-- **An escaped body and its closing quote are read back** as the characters read so far and
the body. -/
theorem readStringFrom_escaped (rest : List Char) :
    ∀ (s acc : List Char),
      Takes (readStringFrom acc (escaped s ++ '"' :: rest)) (String.ofList (acc.reverse ++ s)) rest
  | [], acc => by
    rw [escaped, List.flatMap_nil, List.nil_append, readStringFrom]
    exact ⟨⟨rest, length_le_cons _ rest⟩, by simp, rfl⟩
  | c :: s, acc => by
    rw [escaped, List.flatMap_cons, List.append_assoc]
    apply readStringFrom_escapeChar
    have h := readStringFrom_escaped rest s (c :: acc)
    rwa [List.reverse_cons, List.append_assoc, List.singleton_append] at h

theorem readString_escaped (s : String) (rest : List Char) {cs : List Char}
    (hcs : cs = escaped s.toList ++ '"' :: rest) : Takes (readString cs) s rest := by
  subst hcs
  have h := readStringFrom_escaped rest s.toList []
  rwa [List.reverse_nil, List.nil_append, String.ofList_toList] at h

/-- **A quoted string is read back** after any white space, whatever follows it. -/
theorem takes_text {cs bl rest : List Char} {s : String} (hbl : Blank bl)
    (hcs : cs = bl ++ (quote s).toList ++ rest) : Takes (text cs) s rest := by
  have hsk : (skipBlank cs).1 = '"' :: (escaped s.toList ++ '"' :: rest) :=
    skipBlank_eq hbl rfl (by rw [hcs, toList_quote]; simp)
  unfold text
  split
  · next h => rw [hsk] at h; cases h
  · next c tail h =>
    rw [hsk] at h
    obtain ⟨rfl, rfl⟩ := List.cons.inj h
    simp only [if_true]
    exact (readString_escaped s rest rfl).widen _

/-! ### Numbers -/

theorem digitValue_of_isDigit {c : Char} (h : c.isDigit = true) :
    digitValue c = some (c.toNat - '0'.toNat) := by
  simp only [Char.isDigit, Bool.and_eq_true, decide_eq_true_eq] at h
  have h' : '0' ≤ c ∧ c ≤ '9' := ⟨h.1, h.2⟩
  simp [digitValue, h']

/-- Digits after the first add up as decimal digits while the value fits in 64 bits; what
follows ends the number. -/
theorem integerDigits_digits {rest : List Char} (hrest : Ends rest) :
    ∀ (ds : List Char) (sig : Nat), (∀ c ∈ ds, c.isDigit = true) →
      Nat.ofDigitChars 10 ds sig ≤ u64Max →
      Takes (integerDigits true sig (ds ++ rest)) (.unsigned (Nat.ofDigitChars 10 ds sig)) rest
  | [], sig, _, _ => by
    cases rest with
    | nil => exact ⟨_, rfl, rfl⟩
    | cons c t =>
      obtain ⟨hd, -, hdot, hexp⟩ := (hrest c t rfl).not_number
      refine ⟨Rest.refl _, ?_, rfl⟩
      simp only [List.nil_append, integerDigits, hd, numberTail, hdot, hexp, if_false]
      rfl
  | c :: ds, sig, hds, hle => by
    have hc := digitValue_of_isDigit (hds c List.mem_cons_self)
    -- the value so far never exceeds the final one
    have hmono : 10 * sig + (c.toNat - '0'.toNat) ≤ Nat.ofDigitChars 10 (c :: ds) sig := by
      rw [Nat.ofDigitChars_cons, Nat.ofDigitChars_eq_ofDigitChars_zero]
      have := Nat.one_le_two_pow (n := ds.length)
      have := Nat.pow_le_pow_left (show 2 ≤ 10 by decide) ds.length
      exact Nat.le_trans (Nat.le_mul_of_pos_left _ (by omega)) (Nat.le_add_right _ _)
    have hih := integerDigits_digits hrest ds (10 * sig + (c.toNat - '0'.toNat))
      (fun x hx => hds x (List.mem_cons_of_mem _ hx)) (by rwa [← Nat.ofDigitChars_cons])
    rw [List.cons_append, integerDigits, hc]
    simp only [show ¬(sig * 10 + (c.toNat - '0'.toNat) > u64Max) by
      rw [Nat.mul_comm]; omega, if_false]
    rw [Nat.ofDigitChars_cons, ← Nat.mul_comm sig 10]
    rw [Nat.mul_comm 10 sig] at hih
    exact hih.widen _

/-- The first digit of a positive number is not zero. -/
theorem toDigits_head_ne_zero : ∀ (n : Nat), 0 < n → ∀ c ds, Nat.toDigits 10 n = c :: ds → c ≠ '0'
  | n, hn, c, ds, h => by
    rw [Nat.toDigits_eq_if (by decide)] at h
    split at h
    · next hlt =>
      obtain ⟨rfl, -⟩ := List.cons.inj h
      have key : ∀ m, m < 10 → 0 < m → m.digitChar ≠ '0' := by decide
      exact key n hlt hn
    · next hge =>
      -- the leading digit is that of `n / 10`
      obtain ⟨c', ds', hc'⟩ := List.exists_cons_of_ne_nil (Nat.toDigits_ne_nil (n := n / 10) (b := 10))
      rw [hc', List.cons_append] at h
      obtain ⟨hcc, -⟩ := List.cons.inj h
      rw [← hcc]
      exact toDigits_head_ne_zero (n / 10) (by omega) c' ds' hc'
termination_by n => n

/-- **The decimal digits of a number that fits in 64 bits are read back** as that unsigned
number, when what follows cannot continue it. -/
theorem readNumber_toDigits {n : Nat} (hn : n ≤ u64Max) {cs rest : List Char} (hrest : Ends rest)
    (hcs : cs = Nat.toDigits 10 n ++ rest) : Takes (readNumber true cs) (.unsigned n) rest := by
  subst hcs
  rcases Nat.eq_zero_or_pos n with rfl | hpos
  · -- zero stands alone
    rw [Nat.toDigits_zero, List.singleton_append, readNumber]
    refine Takes.widen ?_ _
    cases rest with
    | nil => exact ⟨_, rfl, rfl⟩
    | cons d more =>
      obtain ⟨-, hd, hdot, hexp⟩ := (hrest d more rfl).not_number
      refine ⟨Rest.refl _, ?_, rfl⟩
      simp only [readNumberAfter, if_true, hd, numberTail, hdot, hexp, if_false]
      rfl
  · obtain ⟨c, ds, hcds⟩ := List.exists_cons_of_ne_nil (Nat.toDigits_ne_nil (n := n) (b := 10))
    have hdigits : ∀ x ∈ c :: ds, x.isDigit = true := fun x hx =>
      Nat.isDigit_of_mem_toDigits (by decide) (by decide) (hcds ▸ hx)
    have hc := digitValue_of_isDigit (hdigits c List.mem_cons_self)
    have hval : Nat.ofDigitChars 10 ds (c.toNat - '0'.toNat) = n := by
      have := Nat.ofDigitChars_ten_toDigits (n := n)
      rwa [hcds, Nat.ofDigitChars_cons, Nat.mul_zero, Nat.zero_add] at this
    have hds := integerDigits_digits hrest ds (c.toNat - '0'.toNat)
      (fun x hx => hdigits x (List.mem_cons_of_mem _ hx)) (by rw [hval]; exact hn)
    rw [hval] at hds
    rw [hcds, List.cons_append, readNumber]
    refine Takes.widen ?_ _
    simp only [readNumberAfter, toDigits_head_ne_zero n hpos c ds hcds, if_false, hc]
    exact hds

/-- **A written number is read back** after any white space, up to the reader's bound, when
what follows cannot continue it. -/
theorem takes_unsigned {cs bl rest : List Char} {expected : String} {bound n : Nat}
    (hn : n ≤ bound) (hb : bound ≤ u64Max) (hbl : Blank bl) (hrest : Ends rest)
    (hcs : cs = bl ++ (toString n).toList ++ rest) :
    Takes (unsigned expected bound cs) n rest := by
  obtain ⟨c, ds, hcds⟩ := List.exists_cons_of_ne_nil (Nat.toDigits_ne_nil (n := n) (b := 10))
  have hdigit : c.isDigit = true :=
    Nat.isDigit_of_mem_toDigits (by decide) (by decide) (hcds ▸ List.mem_cons_self)
  have hc := digitValue_of_isDigit hdigit
  have hblank : isBlank c = false := by
    have : digitValue c ≠ none := by simp [hc]
    cases hcb : isBlank c
    · rfl
    · exact absurd (Stops.not_number (.inr (.inr hcb))).1 this
  have hsk : (skipBlank cs).1 = c :: (ds ++ rest) :=
    skipBlank_eq hbl hblank (by rw [hcs, Nat.toString_eq_repr, Nat.toList_repr, hcds]; simp)
  have hnum : Takes (readNumber true (c :: (ds ++ rest))) (.unsigned n) rest :=
    readNumber_toDigits (Nat.le_trans hn hb) hrest (by rw [hcds, List.cons_append])
  obtain ⟨r, hr, hr1⟩ := hnum
  unfold unsigned
  split
  · next h => rw [hsk] at h; cases h
  · next c' tail h =>
    rw [hsk] at h
    obtain ⟨rfl, rfl⟩ := List.cons.inj h
    have hminus : c ≠ '-' := by
      rintro rfl
      exact absurd hdigit (by decide)
    simp only [hminus, if_false, isDigit, hc, Option.isSome_some, if_true, hr, hn]
    exact ⟨_, rfl, hr1⟩

end Json
end Sidebar
