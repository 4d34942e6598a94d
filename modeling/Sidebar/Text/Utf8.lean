/-!
# UTF-8 length

`str::len`.

The number of bytes a sequence of characters takes in UTF-8: one to four per character, as
`Char.utf8Size` gives.
-/

namespace Sidebar
namespace Text

/-- The number of bytes of the UTF-8 encoding of the characters. -/
def utf8Length : List Char → Nat
  | [] => 0
  | c :: cs => c.utf8Size + utf8Length cs

@[simp] theorem utf8Length_nil : utf8Length [] = 0 := rfl

@[simp] theorem utf8Length_cons (c : Char) (cs : List Char) :
    utf8Length (c :: cs) = c.utf8Size + utf8Length cs := rfl

end Text
end Sidebar
