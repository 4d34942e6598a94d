/-!
# White space

`char::is_whitespace`, as `str::trim_start` uses it in `Widget::markup`.

The characters with the Unicode property `White_Space`: the ASCII tab, line feed, line
tabulation, form feed, carriage return and space, the next-line control, the no-break space,
the Ogham space mark, the spaces from en quad to hair space, the line and paragraph
separators, the narrow no-break space, the medium mathematical space and the ideographic
space. The zero-width no-break space `U+FEFF` is not one of them.
-/

namespace Sidebar
namespace Text

/-- Whether a character is white space. -/
def isBlank (c : Char) : Bool :=
  let n := c.toNat
  (0x9 ≤ n && n ≤ 0xD) || n == 0x20 || n == 0x85 || n == 0xA0 || n == 0x1680 ||
    (0x2000 ≤ n && n ≤ 0x200A) || n == 0x2028 || n == 0x2029 || n == 0x202F || n == 0x205F ||
    n == 0x3000

/-- The text without its leading white space. -/
def trimBlankStart (s : String) : String :=
  String.ofList (s.toList.dropWhile isBlank)

end Text
end Sidebar
