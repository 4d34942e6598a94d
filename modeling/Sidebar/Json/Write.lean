/-!
# Writing JSON

`serde_json::to_string_pretty`, as `PanelConfig::to_json_string` calls it.

A `Value` is what the library writes: strings, natural numbers and objects whose members
keep their order. `Value.pretty` lays an object out with one member per line, indented by two
spaces per level, a colon and a space between key and value, and `{}` for an empty object.
Strings are quoted with the double quote and the backslash escaped, the control characters
written as `\b`, `\t`, `\n`, `\f`, `\r` or `\u00xx` in lower-case hexadecimal, and all other
characters as they are.
-/

namespace Sidebar
namespace Json

/-- A JSON value as the library writes it. -/
inductive Value where
  | text (s : String)
  | nat (n : Nat)
  | object (members : List (String × Value))
  deriving Repr

/-- The escaped form of one character inside a JSON string. -/
def escapeChar (c : Char) : String :=
  if c = '"' then "\\\""
  else if c = '\\' then "\\\\"
  else if c = '\x08' then "\\b"
  else if c = '\t' then "\\t"
  else if c = '\n' then "\\n"
  else if c = '\x0c' then "\\f"
  else if c = '\r' then "\\r"
  else if c.toNat < 0x20 then
    let hex (n : Nat) : Char := "0123456789abcdef".toList.getD n '0'
    String.ofList ['\\', 'u', '0', '0', hex (c.toNat / 16), hex (c.toNat % 16)]
  else String.singleton c

/-- A string as a JSON string literal. -/
def quote (s : String) : String :=
  "\"" ++ String.join (s.toList.map escapeChar) ++ "\""

/-- Two spaces per level of depth. -/
def indent (depth : Nat) : String := String.ofList (List.replicate (2 * depth) ' ')

mutual

/-- The value laid out at the given depth. -/
def Value.pretty (depth : Nat) : Value → String
  | .text s => quote s
  | .nat n => toString n
  | .object [] => "\x7b\x7d"
  | .object (m :: ms) =>
    "\x7b\n" ++ ",\n".intercalate (memberLines depth (m :: ms)) ++ "\n" ++ indent depth ++ "\x7d"

/-- The lines of the members of an object at the given depth. -/
def memberLines (depth : Nat) : List (String × Value) → List String
  | [] => []
  | (k, v) :: rest => (indent (depth + 1) ++ quote k ++ ": " ++ v.pretty (depth + 1)) :: memberLines depth rest

end

end Json
end Sidebar
