import Sidebar.Color.Hex
/-!
# Hexadecimal colours read back

`Color::from_hex` and `Color::to_hex` in `crates/panelkit-core/src/types.rs`.

A byte `b` becomes the channel `b / 255` when a colour is read, and a channel becomes a byte
again when it is written: clamped, scaled by 255 and rounded half away from zero. In binary32
arithmetic every one of the 256 bytes survives that trip, its channel stays in the unit
interval, and only `FF` gives a channel of 1 (`byteChannel_exact`, checked byte by byte).

Everything else is text. The digits `toHex` writes are read back by `ofHex`, so a colour read
from any text it accepts writes the bytes it read, in upper case, with alpha only when eight
digits were read and alpha was not `FF`, and reading that text gives the colour again, bit for
bit (`toHex_ofHex`).

The other way round the text is kept unless alpha rounds up. `toHex` writes eight digits
whenever alpha is below 1 but writes the alpha byte rounded, so an alpha just below 1 is written
`FF`, read back as exactly 1 and then written with six digits (`toHex_ofHex_toHex`,
`toHex_almost_opaque`).
-/

namespace Sidebar

namespace Hex

/-- Every digit `upperDigit` writes is read back, takes one byte, and is neither `#` nor
`+`. -/
theorem upperDigit_spec {n : Nat} (hn : n < 16) :
    digit? (upperDigit n) = some n ∧ (upperDigit n).utf8Size = 1 ∧ upperDigit n ≠ '#' ∧
      upperDigit n ≠ '+' := by
  have key : ∀ n, n < 16 → digit? (upperDigit n) = some n ∧ (upperDigit n).utf8Size = 1 ∧
      upperDigit n ≠ '#' ∧ upperDigit n ≠ '+' := by decide
  exact key n hn

theorem toList_byteText (b : UInt8) :
    (byteText b).toList = [upperDigit (b.toNat / 16), upperDigit (b.toNat % 16)] :=
  String.toList_ofList

/-- The two digits of a byte are read back as that byte. -/
theorem pair?_byteText (b : UInt8) :
    pair? (upperDigit (b.toNat / 16)) (upperDigit (b.toNat % 16)) = some b := by
  have hb : b.toNat < 256 := b.toNat_lt
  obtain ⟨hhi, -, -, hplus⟩ := upperDigit_spec (show b.toNat / 16 < 16 by omega)
  obtain ⟨hlo, -, -, -⟩ := upperDigit_spec (show b.toNat % 16 < 16 by omega)
  simp only [pair?, hplus, if_false, hhi, hlo, Option.bind_eq_bind, Option.bind_some,
    Option.pure_def, show b.toNat / 16 * 16 + b.toNat % 16 = b.toNat by omega,
    UInt8.ofNat_toNat]

theorem pairs?_byteText_append (b : UInt8) (rest : List Char) :
    pairs? ((byteText b).toList ++ rest) = (pairs? rest).map (b :: ·) := by
  rw [toList_byteText, List.cons_append, List.cons_append, List.nil_append]
  simp only [pairs?, pair?_byteText, Option.bind_eq_bind, Option.bind_some, Option.pure_def]
  cases pairs? rest <;> rfl

theorem utf8Length_byteText_append (b : UInt8) (rest : List Char) :
    Text.utf8Length ((byteText b).toList ++ rest) = 2 + Text.utf8Length rest := by
  have hb : b.toNat < 256 := b.toNat_lt
  rw [toList_byteText, List.cons_append, List.cons_append, List.nil_append,
    Text.utf8Length_cons, Text.utf8Length_cons,
    (upperDigit_spec (show b.toNat / 16 < 16 by omega)).2.1,
    (upperDigit_spec (show b.toNat % 16 < 16 by omega)).2.1]
  omega

/-- The digits of some bytes, two upper-case digits each. -/
def digitsOf (bs : List UInt8) : List Char := bs.flatMap fun b => (byteText b).toList

/-- **Written digits are read back.** After a `#`, the digits of some bytes are what `ofHex`
keeps once it drops the leading `#`s; they take two bytes each and read as those bytes. -/
theorem read_digitsOf (bs : List UInt8) (hbs : bs ≠ []) :
    ('#' :: digitsOf bs).dropWhile (· = '#') = digitsOf bs ∧
      Text.utf8Length (digitsOf bs) = 2 * bs.length ∧ pairs? (digitsOf bs) = some bs := by
  refine ⟨?_, ?_, ?_⟩
  · -- the first digit is no `#`
    obtain ⟨b, bs, rfl⟩ := List.exists_cons_of_ne_nil hbs
    have hb : b.toNat < 256 := b.toNat_lt
    have hne := (upperDigit_spec (show b.toNat / 16 < 16 by omega)).2.2.1
    simp [digitsOf, toList_byteText, hne]
  · clear hbs
    induction bs with
    | nil => rfl
    | cons b bs ih =>
      rw [digitsOf, List.flatMap_cons, utf8Length_byteText_append, ← digitsOf, ih,
        List.length_cons]
      omega
  · clear hbs
    induction bs with
    | nil => rfl
    | cons b bs ih =>
      rw [digitsOf, List.flatMap_cons, pairs?_byteText_append, ← digitsOf, ih]
      rfl

end Hex

namespace Color

open Hex

/-- **Every byte survives a trip through its channel.** For each of the 256 bytes `b`, scaling
the channel `b / 255` back by 255 and rounding gives `b`; the channel lies in the unit interval,
so clamping keeps it; and it is below 1 exactly when `b` is not `FF`. -/
theorem byteChannel_exact (b : UInt8) :
    channelByte (byteChannel b) = b ∧ (byteChannel b).unitClamp = byteChannel b ∧
      ((byteChannel b).toFloat32 < 1 ↔ b ≠ 255) := by
  -- binary32 division and multiplication, checked by the kernel for each byte
  have key : ∀ n, n < 256 → channelByte (byteChannel n.toUInt8) = n.toUInt8 ∧
      (byteChannel n.toUInt8).unitClamp = byteChannel n.toUInt8 ∧
      ((byteChannel n.toUInt8).toFloat32 < 1 ↔ n.toUInt8 ≠ 255) := by
    decide +kernel
  simpa only [UInt8.ofNat_toNat] using key b.toNat b.toNat_lt

theorem byteChannel_ff : byteChannel 255 = Binary32.one := by decide +kernel

theorem one_not_lt_one : ¬ Binary32.one.toFloat32 < 1 := by decide +kernel

theorem unitClamp_one : Binary32.one.unitClamp = Binary32.one := by decide +kernel

/-- The text `toHex` writes: `#`, the red, green and blue bytes, and the alpha byte when alpha
is below 1. -/
theorem toHex_eq (c : Color) :
    c.toHex = "#" ++ byteText (channelByte c.r) ++ byteText (channelByte c.g) ++
      byteText (channelByte c.b) ++
      if c.a.toFloat32 < 1 then byteText (channelByte c.a) else "" := by
  unfold toHex
  split <;> simp

/-- An opaque colour of three bytes writes them back, with no alpha. -/
theorem toHex_ofRgb8 (r g b : UInt8) :
    (ofRgb8 r g b).toHex = "#" ++ byteText r ++ byteText g ++ byteText b := by
  rw [toHex_eq]
  simp only [ofRgb8, rgb, (byteChannel_exact _).1, one_not_lt_one, if_false,
    String.append_empty]

/-- A colour of four bytes writes them back, leaving alpha out when it is `FF`. -/
theorem toHex_withAlpha (r g b a : UInt8) :
    ((ofRgb8 r g b).withAlpha (byteChannel a)).toHex =
      "#" ++ byteText r ++ byteText g ++ byteText b ++ if a = 255 then "" else byteText a := by
  obtain ⟨ha, hclamp, hlt⟩ := byteChannel_exact a
  rw [toHex_eq]
  simp only [withAlpha, ofRgb8, rgb, (byteChannel_exact _).1, hclamp]
  by_cases h255 : a = 255
  · rw [if_neg fun h => hlt.1 h h255, if_pos h255]
  · rw [if_pos (hlt.2 h255), if_neg h255]

theorem toList_hash : "#".toList = ['#'] := rfl

theorem ofHex_rgb (r g b : UInt8) :
    ofHex ("#" ++ byteText r ++ byteText g ++ byteText b) = .ok (ofRgb8 r g b) := by
  obtain ⟨hdrop, hwidth, hpairs⟩ := read_digitsOf [r, g, b] (List.cons_ne_nil _ _)
  have htext : ("#" ++ byteText r ++ byteText g ++ byteText b).toList =
      '#' :: digitsOf [r, g, b] := by
    simp [String.toList_append, toList_hash, digitsOf]
  simp only [ofHex, htext, hdrop, hwidth, hpairs]
  rfl

theorem ofHex_rgba (r g b a : UInt8) :
    ofHex ("#" ++ byteText r ++ byteText g ++ byteText b ++ byteText a) =
      .ok ((ofRgb8 r g b).withAlpha (byteChannel a)) := by
  obtain ⟨hdrop, hwidth, hpairs⟩ := read_digitsOf [r, g, b, a] (List.cons_ne_nil _ _)
  have htext : ("#" ++ byteText r ++ byteText g ++ byteText b ++ byteText a).toList =
      '#' :: digitsOf [r, g, b, a] := by
    simp [String.toList_append, toList_hash, digitsOf]
  simp only [ofHex, htext, hdrop, hwidth, hpairs]
  rfl

theorem withAlpha_ff (r g b : UInt8) :
    (ofRgb8 r g b).withAlpha (byteChannel 255) = ofRgb8 r g b := by
  rw [byteChannel_ff]
  simp only [withAlpha, unitClamp_one]
  rfl

/-- What `ofHex` accepts: the digits after the leading `#`s read as three bytes, giving an
opaque colour, or as four, the fourth giving alpha. -/
theorem ofHex_eq_ok {s : String} {c : Color} (h : ofHex s = .ok c) :
    (∃ r g b, pairs? (s.toList.dropWhile (· = '#')) = some [r, g, b] ∧ c = ofRgb8 r g b) ∨
      (∃ r g b a, pairs? (s.toList.dropWhile (· = '#')) = some [r, g, b, a] ∧
        c = (ofRgb8 r g b).withAlpha (byteChannel a)) := by
  unfold ofHex at h
  dsimp only at h
  split at h
  · split at h
    · rename_i r g b hp
      exact .inl ⟨r, g, b, hp, (Except.ok.inj h).symm⟩
    · rename_i r g b a hp
      exact .inr ⟨r, g, b, a, hp, (Except.ok.inj h).symm⟩
    · cases h
  · cases h

/-- **A colour read from hexadecimal writes back the bytes it was read from.** For every text
that `ofHex` accepts, the colour writes `#` and the upper-case digits of the red, green and blue
bytes read, then those of the alpha byte when eight digits were read and alpha is not `FF`.
Reading that text gives the same colour again, bit for bit. -/
theorem toHex_ofHex {s : String} {c : Color} (h : ofHex s = .ok c) :
    ((∃ r g b, pairs? (s.toList.dropWhile (· = '#')) = some [r, g, b] ∧
        c.toHex = "#" ++ byteText r ++ byteText g ++ byteText b) ∨
      (∃ r g b a, pairs? (s.toList.dropWhile (· = '#')) = some [r, g, b, a] ∧
        c.toHex = "#" ++ byteText r ++ byteText g ++ byteText b ++
          if a = 255 then "" else byteText a)) ∧
    ofHex c.toHex = .ok c := by
  rcases ofHex_eq_ok h with ⟨r, g, b, hp, rfl⟩ | ⟨r, g, b, a, hp, rfl⟩
  · exact ⟨.inl ⟨r, g, b, hp, toHex_ofRgb8 r g b⟩, by rw [toHex_ofRgb8, ofHex_rgb]⟩
  · refine ⟨.inr ⟨r, g, b, a, hp, toHex_withAlpha r g b a⟩, ?_⟩
    rw [toHex_withAlpha]
    by_cases h255 : a = 255
    -- an alpha of `FF` is written as an opaque colour and read back as one
    · rw [if_pos h255, String.append_empty, ofHex_rgb, h255, withAlpha_ff]
    · rw [if_neg h255, ofHex_rgba]

/-- Reading lower-case digits after two `#`s. -/
theorem toHex_ofHex_lower :
    ∃ c, ofHex "##dc8a0080" = .ok c ∧
      ((∃ r g b, pairs? ("##dc8a0080".toList.dropWhile (· = '#')) = some [r, g, b] ∧
          c.toHex = "#" ++ byteText r ++ byteText g ++ byteText b) ∨
        (∃ r g b a, pairs? ("##dc8a0080".toList.dropWhile (· = '#')) = some [r, g, b, a] ∧
          c.toHex = "#" ++ byteText r ++ byteText g ++ byteText b ++
            if a = 255 then "" else byteText a)) ∧
      ofHex c.toHex = .ok c :=
  ⟨_, rfl, toHex_ofHex rfl⟩

/-- **Writing, reading and writing again keeps the text unless alpha rounds up to `FF`.** Every
text `toHex` writes is read back. The colour read writes the same text, except when alpha is
below 1 but its byte rounds to `FF`: then it writes that text without its last two digits. -/
theorem toHex_ofHex_toHex (c : Color) :
    ∃ c', ofHex c.toHex = .ok c' ∧
      if c.a.toFloat32 < 1 ∧ channelByte c.a = 255 then c'.toHex ++ "FF" = c.toHex
      else c'.toHex = c.toHex := by
  rw [toHex_eq]
  by_cases ha : c.a.toFloat32 < 1
  · rw [if_pos ha]
    refine ⟨_, ofHex_rgba _ _ _ _, ?_⟩
    rw [toHex_withAlpha]
    by_cases h255 : channelByte c.a = 255
    · rw [if_pos ⟨ha, h255⟩, if_pos h255, String.append_empty, h255]
      rfl
    · rw [if_neg fun h => h255 h.2, if_neg h255]
  · rw [if_neg ha, String.append_empty]
    refine ⟨_, ofHex_rgb _ _ _, ?_⟩
    rw [if_neg fun h => ha h.1, toHex_ofRgb8]

/-- An alpha just below 1 (the binary32 nearest `0.999`) is written `FF`, read back as exactly 1
and then written with six digits. -/
theorem toHex_almost_opaque :
    ∃ c', ofHex (⟨.zero, .zero, .zero, ⟨0x3F7FBE77⟩⟩ : Color).toHex = .ok c' ∧
      c'.toHex ≠ (⟨.zero, .zero, .zero, ⟨0x3F7FBE77⟩⟩ : Color).toHex := by
  have hwritten : (⟨.zero, .zero, .zero, ⟨0x3F7FBE77⟩⟩ : Color).toHex = "#000000FF" := by
    decide +kernel
  refine ⟨ofRgb8 0 0 0, by rw [hwritten]; rfl, ?_⟩
  rw [hwritten, toHex_ofRgb8]
  decide

end Color

end Sidebar
