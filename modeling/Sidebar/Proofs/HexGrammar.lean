import Sidebar.Proofs.HexRoundTrip
/-!
# Which texts are hexadecimal colours

`Color::from_hex` in `crates/panelkit-core/src/types.rs`.

The rule is stated on bytes. After the leading `#`s are dropped, the UTF-8 bytes of what is
left must number 6 or 8, or the text is refused for its length. Cut into consecutive pairs,
each pair must be two ASCII hexadecimal digits of either case, or `+` and one digit (`Chunk`);
otherwise the text is refused as no colour: a pair that splits a character of several bytes,
holds a byte that is no digit, a `-` or a second `+` is no chunk. The chunks give red, green,
blue and, of eight bytes, alpha (`ofHex_iff_chunks`).

`ofHex` reads characters, not bytes. The two agree because a character of several bytes starts
with a byte of `0x80` or above, which is neither a digit nor `+`, so a pair the rule accepts
holds ASCII bytes only, and so does a pair `pair?` accepts (`pairs?_eq_some_iff`).
-/

namespace Sidebar

namespace Hex

/-- `b` is the ASCII code of a hexadecimal digit of value `d`, in either case. -/
inductive DigitByte : UInt8 → Nat → Prop
  | decimal {b : UInt8} {d : Nat} : d < 10 → b.toNat = '0'.toNat + d → DigitByte b d
  | lower {b : UInt8} {d : Nat} : 10 ≤ d → d < 16 → b.toNat + 10 = 'a'.toNat + d → DigitByte b d
  | upper {b : UInt8} {d : Nat} : 10 ≤ d → d < 16 → b.toNat + 10 = 'A'.toNat + d → DigitByte b d

/-- Two bytes that read as the byte `v`: two digits, the high one first, or `+` and one
digit. -/
inductive Chunk : UInt8 → UInt8 → UInt8 → Prop
  | digits {hi lo v : UInt8} {d e : Nat} :
      DigitByte hi d → DigitByte lo e → v.toNat = 16 * d + e → Chunk hi lo v
  | plus {hi lo v : UInt8} {e : Nat} :
      hi.toNat = '+'.toNat → DigitByte lo e → v.toNat = e → Chunk hi lo v

/-- Bytes cut into consecutive two-byte chunks that read as the bytes `vs`. -/
inductive Chunks : List UInt8 → List UInt8 → Prop
  | nil : Chunks [] []
  | cons {hi lo : UInt8} {bs vs : List UInt8} {v : UInt8} :
      Chunk hi lo v → Chunks bs vs → Chunks (hi :: lo :: bs) (v :: vs)

/-- The UTF-8 bytes of a text after its leading `#`s: the bytes the length rule counts and the
chunks cut. -/
def digitBytes (s : String) : List UInt8 :=
  (s.toList.dropWhile (· = '#')).flatMap String.utf8EncodeChar

/-! ### Digits -/

theorem digitByte_iff {b : UInt8} {d : Nat} :
    DigitByte b d ↔ (48 ≤ b.toNat ∧ b.toNat ≤ 57 ∧ d = b.toNat - 48) ∨
      (97 ≤ b.toNat ∧ b.toNat ≤ 102 ∧ d = b.toNat - 87) ∨
      (65 ≤ b.toNat ∧ b.toNat ≤ 70 ∧ d = b.toNat - 55) := by
  have h0 : '0'.toNat = 48 := rfl
  have ha : 'a'.toNat = 97 := rfl
  have hA : 'A'.toNat = 65 := rfl
  constructor
  · rintro (⟨hd, hb⟩ | ⟨hd, hd', hb⟩ | ⟨hd, hd', hb⟩) <;> omega
  · rintro (⟨h₁, h₂, rfl⟩ | ⟨h₁, h₂, rfl⟩ | ⟨h₁, h₂, rfl⟩)
    · exact .decimal (by omega) (by omega)
    · exact .lower (by omega) (by omega) (by omega)
    · exact .upper (by omega) (by omega) (by omega)

/-- The characters `digit?` reads, by code point. -/
theorem digit?_eq_some_iff' {c : Char} {d : Nat} :
    digit? c = some d ↔ (48 ≤ c.toNat ∧ c.toNat ≤ 57 ∧ d = c.toNat - 48) ∨
      (97 ≤ c.toNat ∧ c.toNat ≤ 102 ∧ d = c.toNat - 87) ∨
      (65 ≤ c.toNat ∧ c.toNat ≤ 70 ∧ d = c.toNat - 55) := by
  have h0 : '0'.toNat = 48 := rfl
  have h9 : '9'.toNat = 57 := rfl
  have ha : 'a'.toNat = 97 := rfl
  have hf : 'f'.toNat = 102 := rfl
  have hA : 'A'.toNat = 65 := rfl
  have hF : 'F'.toNat = 70 := rfl
  unfold digit?
  simp only [Char.le_def, UInt32.le_iff_toNat_le, Char.toNat_val, h0, h9, ha, hf, hA, hF]
  -- one branch per range of digits, and the fall-through
  repeat' split
  all_goals simp only [Option.some.injEq, reduceCtorEq, false_iff]
  all_goals omega

/-- The byte of an ASCII character is its code point. -/
theorem toNat_toUInt8_of_ascii {c : Char} (hc : c.toNat < 128) : c.toNat.toUInt8.toNat = c.toNat :=
  Nat.mod_eq_of_lt (by omega)

/-- The digits `digit?` reads are the ASCII hexadecimal digits, with their values. -/
theorem digit?_eq_some_iff {c : Char} {d : Nat} (hc : c.toNat < 128) :
    digit? c = some d ↔ DigitByte c.toNat.toUInt8 d := by
  rw [digit?_eq_some_iff', digitByte_iff, toNat_toUInt8_of_ascii hc]

theorem ascii_of_digit? {c : Char} {d : Nat} (h : digit? c = some d) : c.toNat < 128 := by
  rw [digit?_eq_some_iff'] at h
  omega

theorem DigitByte.toNat_lt {b : UInt8} {d : Nat} (h : DigitByte b d) : b.toNat < 128 ∧ d < 16 := by
  rw [digitByte_iff] at h
  omega

/-- No digit is `+`. -/
theorem DigitByte.ne_plus {b : UInt8} {d : Nat} (h : DigitByte b d) : b.toNat ≠ '+'.toNat := by
  have hplus : '+'.toNat = 43 := rfl
  rw [digitByte_iff] at h
  omega

/-! ### Pairs -/

/-- What `pair?` reads is as the rule says: two digits, or `+` and a digit. -/
theorem pair?_eq_some_iff {hi lo : Char} {v : UInt8} (hhi : hi.toNat < 128) (hlo : lo.toNat < 128) :
    pair? hi lo = some v ↔ Chunk hi.toNat.toUInt8 lo.toNat.toUInt8 v := by
  have hv : ∀ n, n < 256 → (v = n.toUInt8 ↔ v.toNat = n) := fun n hn => by
    rw [← UInt8.toNat_inj, show n.toUInt8.toNat = n from Nat.mod_eq_of_lt hn]
  unfold pair?
  by_cases hplus : hi = '+'
  · -- `+` and one digit; a `+` is no digit, so the pair has no other reading
    subst hplus
    simp only [if_true, Option.map_eq_some_iff]
    constructor
    · rintro ⟨e, he, rfl⟩
      have hlt := ((digit?_eq_some_iff hlo).1 he).toNat_lt.2
      exact .plus rfl ((digit?_eq_some_iff hlo).1 he) ((hv e (by omega)).1 rfl)
    · intro h
      cases h with
      | digits hd _ _ => exact absurd rfl hd.ne_plus
      | plus _ he hve =>
        have hlt := he.toNat_lt.2
        exact ⟨_, (digit?_eq_some_iff hlo).2 he, ((hv _ (by omega)).2 hve).symm⟩
  · simp only [hplus, if_false, Option.bind_eq_bind, Option.bind_eq_some_iff, Option.pure_def,
      Option.some.injEq]
    constructor
    · rintro ⟨d, hd, e, he, rfl⟩
      have hd' := (digit?_eq_some_iff hhi).1 hd
      have he' := (digit?_eq_some_iff hlo).1 he
      have hlt := hd'.toNat_lt.2
      have hlt' := he'.toNat_lt.2
      exact .digits hd' he' (by rw [(hv _ (by omega)).1 rfl]; omega)
    · intro h
      cases h with
      | digits hd he hve =>
        have hlt := hd.toNat_lt.2
        have hlt' := he.toNat_lt.2
        refine ⟨_, (digit?_eq_some_iff hhi).2 hd, _, (digit?_eq_some_iff hlo).2 he, ?_⟩
        exact ((hv _ (by omega)).2 (by rw [hve]; omega)).symm
      | plus hp _ _ =>
        rw [toNat_toUInt8_of_ascii hhi] at hp
        exact absurd (Char.toNat_inj.1 hp) hplus

/-- Only ASCII characters make a pair. -/
theorem ascii_of_pair? {hi lo : Char} {v : UInt8} (h : pair? hi lo = some v) :
    hi.toNat < 128 ∧ lo.toNat < 128 := by
  unfold pair? at h
  split at h
  · rename_i hplus
    obtain ⟨e, he, -⟩ := Option.map_eq_some_iff.1 h
    exact ⟨by rw [hplus]; decide, ascii_of_digit? he⟩
  · simp only [Option.bind_eq_bind, Option.bind_eq_some_iff] at h
    obtain ⟨d, hd, e, he, -⟩ := h
    exact ⟨ascii_of_digit? hd, ascii_of_digit? he⟩

/-! ### Chunks of bytes -/

theorem Chunk.toNat_lt {hi lo v : UInt8} (h : Chunk hi lo v) : hi.toNat < 128 ∧ lo.toNat < 128 := by
  cases h with
  | digits hd he _ => exact ⟨hd.toNat_lt.1, he.toNat_lt.1⟩
  | plus hp he _ => exact ⟨by rw [hp]; decide, he.toNat_lt.1⟩

theorem chunks_cons_cons_iff {hi lo : UInt8} {bs vs : List UInt8} :
    Chunks (hi :: lo :: bs) vs ↔ ∃ v vs', vs = v :: vs' ∧ Chunk hi lo v ∧ Chunks bs vs' := by
  constructor
  · intro h
    cases h with
    | cons hc hs => exact ⟨_, _, rfl, hc, hs⟩
  · rintro ⟨v, vs', rfl, hc, hs⟩
    exact .cons hc hs

theorem not_chunks_singleton {b : UInt8} {vs : List UInt8} : ¬Chunks [b] vs := nofun

/-- A byte of `0x80` or above starts no chunk. -/
theorem not_chunks_of_head {b : UInt8} {bs vs : List UInt8} (hb : 128 ≤ b.toNat) :
    ¬Chunks (b :: bs) vs := by
  intro h
  cases h with
  | cons hc _ => exact absurd hc.toNat_lt.1 (Nat.not_lt_of_le hb)

/-- A byte of `0x80` or above ends no chunk. -/
theorem not_chunks_of_second {a b : UInt8} {bs vs : List UInt8} (hb : 128 ≤ b.toNat) :
    ¬Chunks (a :: b :: bs) vs := by
  intro h
  cases h with
  | cons hc _ => exact absurd hc.toNat_lt.2 (Nat.not_lt_of_le hb)

theorem Chunks.length_eq {bs vs : List UInt8} (h : Chunks bs vs) : bs.length = 2 * vs.length := by
  induction h with
  | nil => rfl
  | cons _ _ ih =>
    simp only [List.length_cons, ih]
    omega

/-! ### Characters and their bytes -/

/-- An ASCII character is one byte, its code point. -/
theorem utf8EncodeChar_of_ascii {c : Char} (hc : c.toNat < 128) :
    String.utf8EncodeChar c = [c.toNat.toUInt8] := by
  have h : c.val.toNat ≤ 127 := by
    rw [Char.toNat_val]
    omega
  simp only [String.utf8EncodeChar, h, if_true]
  rfl

/-- Any other character starts with a byte of `0x80` or above. -/
theorem utf8EncodeChar_of_not_ascii {c : Char} (hc : 128 ≤ c.toNat) :
    ∃ b bs, String.utf8EncodeChar c = b :: bs ∧ 128 ≤ b.toNat := by
  have h : ¬c.val.toNat ≤ 127 := by
    rw [Char.toNat_val]
    omega
  simp only [String.utf8EncodeChar, h, if_false]
  -- two, three or four bytes, the first at least `0xC0`
  repeat' split
  all_goals refine ⟨_, _, rfl, ?_⟩
  all_goals simp only [UInt8.toNat_ofNat']
  all_goals omega

theorem utf8Length_eq_length (cs : List Char) :
    Text.utf8Length cs = (cs.flatMap String.utf8EncodeChar).length := by
  induction cs with
  | nil => rfl
  | cons c cs ih => rw [Text.utf8Length_cons, List.flatMap_cons, List.length_append,
      String.length_utf8EncodeChar, ih]

/-- **`pairs?` reads exactly the chunks of the bytes.** The characters read as the bytes `vs`
exactly when their UTF-8 bytes cut into chunks reading as `vs`. -/
theorem pairs?_eq_some_iff (cs : List Char) (vs : List UInt8) :
    pairs? cs = some vs ↔ Chunks (cs.flatMap String.utf8EncodeChar) vs := by
  -- induction along `pairs?`: no characters, a pair and the rest, one character left over
  induction cs using pairs?.induct generalizing vs with
  | case1 =>
    simp only [pairs?, Option.some.injEq, List.flatMap_nil]
    exact ⟨fun h => h ▸ .nil, fun h => by cases h; rfl⟩
  | case2 hi lo rest ih =>
    have hlhs : pairs? (hi :: lo :: rest) = some vs ↔
        ∃ v vs', vs = v :: vs' ∧ pair? hi lo = some v ∧ pairs? rest = some vs' := by
      simp only [pairs?, Option.bind_eq_bind, Option.bind_eq_some_iff, Option.pure_def,
        Option.some.injEq]
      constructor
      · rintro ⟨v, hv, vs', hvs, he⟩
        exact ⟨v, vs', he.symm, hv, hvs⟩
      · rintro ⟨v, vs', he, hv, hvs⟩
        exact ⟨v, hv, vs', hvs, he.symm⟩
    rw [hlhs, List.flatMap_cons, List.flatMap_cons]
    by_cases hhi : hi.toNat < 128
    · by_cases hlo : lo.toNat < 128
      · rw [utf8EncodeChar_of_ascii hhi, utf8EncodeChar_of_ascii hlo, List.singleton_append,
          List.singleton_append, chunks_cons_cons_iff]
        simp only [pair?_eq_some_iff hhi hlo, ih]
      · -- the second character is not ASCII: no chunk ends in its first byte
        obtain ⟨b, bs, hb, hb128⟩ := utf8EncodeChar_of_not_ascii (Nat.le_of_not_lt hlo)
        rw [utf8EncodeChar_of_ascii hhi, hb, List.singleton_append, List.cons_append]
        constructor
        · rintro ⟨_, _, _, hp, _⟩
          exact absurd (ascii_of_pair? hp).2 hlo
        · exact fun h => absurd h (not_chunks_of_second hb128)
    · obtain ⟨b, bs, hb, hb128⟩ := utf8EncodeChar_of_not_ascii (Nat.le_of_not_lt hhi)
      rw [hb, List.cons_append]
      constructor
      · rintro ⟨_, _, _, hp, _⟩
        exact absurd (ascii_of_pair? hp).1 hhi
      · exact fun h => absurd h (not_chunks_of_head hb128)
  | case3 c =>
    simp only [pairs?, reduceCtorEq, false_iff, List.flatMap_cons, List.flatMap_nil,
      List.append_nil]
    by_cases hc : c.toNat < 128
    · rw [utf8EncodeChar_of_ascii hc]
      exact not_chunks_singleton
    · obtain ⟨b, bs, hb, hb128⟩ := utf8EncodeChar_of_not_ascii (Nat.le_of_not_lt hc)
      rw [hb]
      exact not_chunks_of_head hb128

end Hex

namespace Color

open Hex

/-- The message of a failed reading names its error: the two messages differ. -/
theorem mapError_message_eq_error {r : Except HexError Color} {e : HexError} :
    r.mapError HexError.message = .error e.message ↔ r = .error e := by
  cases r with
  | ok c => exact ⟨nofun, nofun⟩
  | error e' =>
    change Except.error e'.message = Except.error e.message ↔ Except.error e' = Except.error e
    rw [Except.error.injEq, Except.error.injEq]
    cases e <;> cases e' <;> simp [HexError.message]

section

variable {s : String}

/-- Digits of neither 6 nor 8 bytes are refused for their length. -/
theorem ofHex_of_width (hw : ¬(Text.utf8Length (s.toList.dropWhile (· = '#')) = 6 ∨
    Text.utf8Length (s.toList.dropWhile (· = '#')) = 8)) : ofHex s = .error .badLength := by
  simp only [ofHex]
  rw [if_neg hw]

/-- Digits of the right width that do not read as bytes are refused as no colour. -/
theorem ofHex_of_pairs?_none (hw : Text.utf8Length (s.toList.dropWhile (· = '#')) = 6 ∨
    Text.utf8Length (s.toList.dropWhile (· = '#')) = 8)
    (hp : pairs? (s.toList.dropWhile (· = '#')) = none) : ofHex s = .error .badDigit := by
  simp only [ofHex]
  rw [if_pos hw, hp]

theorem ofHex_of_pairs?_rgb {r g b : UInt8}
    (hp : pairs? (s.toList.dropWhile (· = '#')) = some [r, g, b]) :
    ofHex s = .ok (ofRgb8 r g b) := by
  have hw := ((pairs?_eq_some_iff _ _).1 hp).length_eq
  rw [← utf8Length_eq_length] at hw
  simp only [ofHex]
  rw [if_pos (.inl hw), hp]

theorem ofHex_of_pairs?_rgba {r g b a : UInt8}
    (hp : pairs? (s.toList.dropWhile (· = '#')) = some [r, g, b, a]) :
    ofHex s = .ok ((ofRgb8 r g b).withAlpha (byteChannel a)) := by
  have hw := ((pairs?_eq_some_iff _ _).1 hp).length_eq
  rw [← utf8Length_eq_length] at hw
  simp only [ofHex]
  rw [if_pos (.inr hw), hp]

end

/-- **Which texts are colours.** Drop every leading `#` from `s` and take the UTF-8 bytes of
the rest. `ofHex s` fails with "Invalid hex color length" exactly when they are neither 6 nor 8
bytes; with "Invalid hex color" exactly when they are 6 or 8 bytes that do not cut into chunks
of two digits or of `+` and a digit; and otherwise it gives the opaque colour of the three chunk
bytes, or, of eight bytes, that colour with alpha the fourth byte divided by 255. -/
theorem ofHex_iff_chunks (s : String) :
    ((ofHex s).mapError HexError.message = .error "Invalid hex color length" ↔
        (digitBytes s).length ≠ 6 ∧ (digitBytes s).length ≠ 8) ∧
    ((ofHex s).mapError HexError.message = .error "Invalid hex color" ↔
        ((digitBytes s).length = 6 ∨ (digitBytes s).length = 8) ∧
          ¬∃ vs, Chunks (digitBytes s) vs) ∧
    ∀ c, ofHex s = .ok c ↔
      (∃ r g b, Chunks (digitBytes s) [r, g, b] ∧ c = ofRgb8 r g b) ∨
      (∃ r g b a, Chunks (digitBytes s) [r, g, b, a] ∧
        c = (ofRgb8 r g b).withAlpha (byteChannel a)) := by
  have hwidth : Text.utf8Length (s.toList.dropWhile (· = '#')) = (digitBytes s).length :=
    utf8Length_eq_length _
  have hpairs : ∀ vs, pairs? (s.toList.dropWhile (· = '#')) = some vs ↔
      Chunks (digitBytes s) vs :=
    pairs?_eq_some_iff _
  generalize digitBytes s = bytes at hwidth hpairs ⊢
  rw [show "Invalid hex color length" = HexError.badLength.message from rfl,
    show "Invalid hex color" = HexError.badDigit.message from rfl, mapError_message_eq_error,
    mapError_message_eq_error]
  by_cases hw : bytes.length = 6 ∨ bytes.length = 8
  · rw [← hwidth] at hw
    cases hp : pairs? (s.toList.dropWhile (· = '#')) with
    | none =>
      -- the right width, but no chunks
      have hno : ¬∃ vs, Chunks bytes vs := fun ⟨vs, h⟩ => by
        rw [← hpairs, hp] at h
        cases h
      rw [ofHex_of_pairs?_none hw hp, hwidth] at *
      refine ⟨by simp only [Except.error.injEq, reduceCtorEq, false_iff]; omega,
        ⟨fun _ => ⟨hw, hno⟩, fun _ => rfl⟩, fun c => ?_⟩
      exact ⟨nofun, fun h => h.elim (fun ⟨_, _, _, h, _⟩ => (hno ⟨_, h⟩).elim)
        (fun ⟨_, _, _, _, h, _⟩ => (hno ⟨_, h⟩).elim)⟩
    | some vs =>
      -- chunks of 6 or 8 bytes are three or four
      have hc := (hpairs vs).1 hp
      have hlen := hc.length_eq
      rw [hwidth, hlen] at hw
      have hdet : ∀ vs', Chunks bytes vs' → vs' = vs := fun vs' h => by
        rw [← hpairs, hp] at h
        exact (Option.some.inj h).symm
      match vs, hp, hc, hw with
      | [r, g, b], hp, hc, _ =>
        rw [ofHex_of_pairs?_rgb hp]
        refine ⟨⟨nofun, fun h => absurd (by simpa using hlen) h.1⟩,
          ⟨nofun, fun ⟨_, h⟩ => absurd ⟨_, hc⟩ h⟩, fun c => ⟨?_, ?_⟩⟩
        · rintro ⟨⟩
          exact .inl ⟨r, g, b, hc, rfl⟩
        · rintro (⟨r', g', b', h, rfl⟩ | ⟨r', g', b', a', h, rfl⟩)
          · cases hdet _ h
            rfl
          · cases hdet _ h
      | [r, g, b, a], hp, hc, _ =>
        rw [ofHex_of_pairs?_rgba hp]
        refine ⟨⟨nofun, fun h => absurd (by simpa using hlen) h.2⟩,
          ⟨nofun, fun ⟨_, h⟩ => absurd ⟨_, hc⟩ h⟩, fun c => ⟨?_, ?_⟩⟩
        · rintro ⟨⟩
          exact .inr ⟨r, g, b, a, hc, rfl⟩
        · rintro (⟨r', g', b', h, rfl⟩ | ⟨r', g', b', a', h, rfl⟩)
          · cases hdet _ h
          · cases hdet _ h
            rfl
      | [], _, _, hw | [_], _, _, hw | [_, _], _, _, hw | _ :: _ :: _ :: _ :: _ :: _, _, _, hw =>
        simp only [List.length_cons, List.length_nil] at hw
        omega
  · -- the wrong width: no chunks of three or four bytes either
    rw [ofHex_of_width (by rw [hwidth]; exact hw)]
    refine ⟨⟨fun _ => not_or.1 hw, fun _ => rfl⟩, ⟨nofun, fun h => absurd h.1 hw⟩,
      fun c => ⟨nofun, ?_⟩⟩
    rintro (⟨_, _, _, h, _⟩ | ⟨_, _, _, _, h, _⟩)
    · exact absurd (.inl h.length_eq) hw
    · exact absurd (.inr h.length_eq) hw

end Color

end Sidebar
