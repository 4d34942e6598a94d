import Sidebar.Color.Basic
import Sidebar.Text.Utf8
/-!
# Hexadecimal colour notation

`Color::from_hex` and `Color::to_hex` in `crates/panelkit-core/src/types.rs`.

`Color.toHex` writes `#RRGGBB`, or `#RRGGBBAA` when alpha is below 1, in upper-case digits.
Each channel is clamped to `[0, 1]`, scaled by 255 and rounded half away from zero; NaN
writes `00`.

`Color.ofHex` reads the same notation after dropping every leading `#`. The rest must be 6
or 8 bytes long in UTF-8; each pair of bytes is two hexadecimal digits of either case, or
`+` and one digit. Six digits give an opaque colour; the fourth pair of eight is an alpha
byte, divided by 255 and clamped.
-/

namespace Sidebar

/-- Why a text is not a colour in hexadecimal notation. -/
inductive HexError where
  /-- The digits do not take 6 or 8 bytes. -/
  | badLength
  /-- A pair of bytes is not a hexadecimal byte. -/
  | badDigit
  deriving DecidableEq, Repr

namespace HexError

/-- The text that reports the error. -/
def message : HexError → String
  | badLength => "Invalid hex color length"
  | badDigit => "Invalid hex color"

end HexError

namespace Hex

/-- The value of a hexadecimal digit of either case. -/
def digit? (c : Char) : Option Nat :=
  if '0' ≤ c ∧ c ≤ '9' then some (c.toNat - '0'.toNat)
  else if 'a' ≤ c ∧ c ≤ 'f' then some (c.toNat - 'a'.toNat + 10)
  else if 'A' ≤ c ∧ c ≤ 'F' then some (c.toNat - 'A'.toNat + 10)
  else none

/-- A byte written as two digits, or as `+` and one digit. -/
def pair? (hi lo : Char) : Option UInt8 :=
  if hi = '+' then (digit? lo).map Nat.toUInt8
  else do
    let h ← digit? hi
    let l ← digit? lo
    pure (h * 16 + l).toUInt8

/-- The bytes written by consecutive pairs of characters; `none` if a pair is not a byte or
a character is left over. -/
def pairs? : List Char → Option (List UInt8)
  | [] => some []
  | hi :: lo :: rest => do
    let b ← pair? hi lo
    let bs ← pairs? rest
    pure (b :: bs)
  | [_] => none

/-- The upper-case digit of a value below 16. -/
def upperDigit (n : Nat) : Char :=
  if n < 10 then Char.ofNat ('0'.toNat + n) else Char.ofNat ('A'.toNat + n - 10)

/-- A byte as two upper-case digits. -/
def byteText (b : UInt8) : String :=
  String.ofList [upperDigit (b.toNat / 16), upperDigit (b.toNat % 16)]

end Hex

/-- The byte of a channel: the value clamped to `[0, 1]` and scaled by 255, rounded half
away from zero. The scaled value lies in `[0, 255]` or is NaN; truncation gives its whole
part (0 for NaN) and the fraction left over is exact, so comparing it with one half rounds
correctly. -/
def channelByte (v : Binary32) : UInt8 :=
  let x := v.unitClamp.toFloat32 * 255
  let whole := x.toUInt8
  if x - whole.toFloat32 ≥ 0.5 then whole + 1 else whole

namespace Color

/-- `#RRGGBB`, with `AA` appended when alpha is below 1. -/
def toHex (c : Color) : String :=
  let rgbText := "#" ++ Hex.byteText (channelByte c.r) ++ Hex.byteText (channelByte c.g) ++
    Hex.byteText (channelByte c.b)
  if c.a.toFloat32 < 1 then rgbText ++ Hex.byteText (channelByte c.a) else rgbText

/-- The colour written in hexadecimal notation, see the module header. -/
def ofHex (s : String) : Except HexError Color :=
  let digits := s.toList.dropWhile (· = '#')
  let width := Text.utf8Length digits
  if width = 6 ∨ width = 8 then
    match Hex.pairs? digits with
    | some [r, g, b] => .ok (ofRgb8 r g b)
    | some [r, g, b, a] => .ok ((ofRgb8 r g b).withAlpha (byteChannel a))
    | _ => .error .badDigit
  else .error .badLength

end Color

end Sidebar
