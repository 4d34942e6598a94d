import Sidebar.Text.Printable
import Sidebar.Text.GraphemeExtend
/-!
# Quoted text for diagnostics

The `Debug` text of a `str`, as the `Debug` impls of widgets quote their texts.

`Text.quoted` writes a text between double quotes so that every character can be seen: NUL,
tab, carriage return and line feed as `\0`, `\t`, `\r`, `\n`; the backslash and the double
quote preceded by a backslash; grapheme extenders and characters that are not printable as
`\u{…}` with the code point in lower-case hexadecimal; everything else as it is. A grapheme
extender is escaped so that it cannot merge with the quote or escape before it.
-/

namespace Sidebar
namespace Text

/-- A code point as `\u{…}`, in lower-case hexadecimal without leading zeros. -/
def unicodeEscape (c : Char) : String :=
  "\\u" ++ "\x7b" ++ String.ofList (Nat.toDigits 16 c.toNat) ++ "\x7d"

/-- The quoted form of one character. -/
def quoteChar (c : Char) : String :=
  if c = '\x00' then "\\0"
  else if c = '\t' then "\\t"
  else if c = '\r' then "\\r"
  else if c = '\n' then "\\n"
  else if c = '\\' then "\\\\"
  else if c = '"' then "\\\""
  else if isGraphemeExtend c then unicodeEscape c
  else if isPrintable c then String.singleton c
  else unicodeEscape c

/-- A text between double quotes with every character in its quoted form. -/
def quoted (s : String) : String :=
  "\"" ++ String.join (s.toList.map quoteChar) ++ "\""

end Text
end Sidebar
