import Sidebar.Json.Cursor
/-!
# Reading JSON strings

The strings of `serde_json::from_str`.

A string runs from its opening quote, already taken, to the next unescaped quote. Control
characters below `U+0020` may not appear in it unescaped. The escapes are `\"`, `\\`, `\/`,
`\b`, `\f`, `\n`, `\r`, `\t` and `\u` with four hexadecimal digits; a `\u` escape of a
leading surrogate must be followed at once by a `\u` escape of a trailing surrogate, and a
trailing surrogate may not stand alone.

Skipping a string checks less: a `\u` escape needs only its four digits.
-/

namespace Sidebar
namespace Json

/-- The value of a hexadecimal digit of either case. -/
def hexValue (c : Char) : Option Nat :=
  if '0' ≤ c ∧ c ≤ '9' then some (c.toNat - '0'.toNat)
  else if 'a' ≤ c ∧ c ≤ 'f' then some (c.toNat - 'a'.toNat + 10)
  else if 'A' ≤ c ∧ c ≤ 'F' then some (c.toNat - 'A'.toNat + 10)
  else none

/-- The four hexadecimal digits of a `\u` escape. With fewer than four bytes left the string
ends too early; otherwise four bytes are taken, and they must be digits. -/
def hexQuad (cs : List Char) : Except Fault (Nat × Rest cs) :=
  if byteLength cs < 4 then .error (Fault.here (.malformed .eofInString) [])
  else
    match cs with
    | a :: b :: c :: d :: rest =>
      match hexValue a, hexValue b, hexValue c, hexValue d with
      | some w, some x, some y, some z =>
        .ok (((w * 16 + x) * 16 + y) * 16 + z, ⟨rest, by simp; omega⟩)
      | _, _, _, _ => .error ⟨.malformed .invalidEscape, byteLength cs - 4⟩
    | _ => .error ⟨.malformed .invalidEscape, byteLength cs - 4⟩

/-- Whether a code unit is a trailing surrogate. -/
def isTrailSurrogate (n : Nat) : Bool := 0xDC00 ≤ n && n ≤ 0xDFFF

/-- Whether a code unit is a leading surrogate. -/
def isLeadSurrogate (n : Nat) : Bool := 0xD800 ≤ n && n ≤ 0xDBFF

/-- The character of a `\u` escape after its `u`, with the second escape of a surrogate
pair. -/
def unicodeEscape (cs : List Char) : Except Fault (Char × Rest cs) :=
  match hexQuad cs with
  | .error f => .error f
  | .ok (n, r) =>
    if isTrailSurrogate n then .error (Fault.here (.malformed .loneLeadingSurrogate) r.1)
    else if !isLeadSurrogate n then .ok (Char.ofNat n, r)
    else
      match h : r.1 with
      | [] => .error (Fault.here (.malformed .eofInString) [])
      | c :: r2 =>
        if c = '\\' then
          match r2 with
          | [] => .error (Fault.here (.malformed .eofInString) [])
          | u :: r3 =>
            if u = 'u' then
              match hexQuad r3 with
              | .error f => .error f
              | .ok (n2, r4) =>
                if isTrailSurrogate n2 then
                  .ok (Char.ofNat (0x10000 + (n - 0xD800) * 0x400 + (n2 - 0xDC00)),
                    r4.widen (by have := r.2; rw [h] at this; simp at this; omega))
                else .error (Fault.here (.malformed .loneLeadingSurrogate) r4.1)
            else .error (Fault.next (.malformed .unexpectedEndOfHexEscape) (u :: r3))
        else .error (Fault.next (.malformed .unexpectedEndOfHexEscape) (c :: r2))

/-- The character an escape stands for, after its backslash. -/
def readEscape : (cs : List Char) → Except Fault (Char × Rest cs)
  | [] => .error (Fault.here (.malformed .eofInString) [])
  | c :: rest =>
    let simple (x : Char) : Except Fault (Char × Rest (c :: rest)) := .ok (x, ⟨rest, length_le_cons c rest⟩)
    if c = '"' then simple '"'
    else if c = '\\' then simple '\\'
    else if c = '/' then simple '/'
    else if c = 'b' then simple '\x08'
    else if c = 'f' then simple '\x0c'
    else if c = 'n' then simple '\n'
    else if c = 'r' then simple '\r'
    else if c = 't' then simple '\t'
    else if c = 'u' then widen (length_le_cons c rest) (unicodeEscape rest)
    else .error (Fault.next (.malformed .invalidEscape) (c :: rest))

/-- The rest of a string after its opening quote; `acc` holds the characters read so far,
last first. -/
def readStringFrom (acc : List Char) (cs : List Char) : Except Fault (String × Rest cs) :=
  match cs with
  | [] => .error (Fault.here (.malformed .eofInString) [])
  | c :: rest =>
    if c = '"' then .ok (String.ofList acc.reverse, ⟨rest, length_le_cons c rest⟩)
    else if c = '\\' then
      match readEscape rest with
      | .error f => .error f
      | .ok (x, r) => widen (Nat.le_trans r.2 (length_le_cons c rest)) (readStringFrom (x :: acc) r.1)
    else if c.toNat < 0x20 then .error (Fault.here (.malformed .controlCharacterInString) rest)
    else widen (length_le_cons c rest) (readStringFrom (c :: acc) rest)
termination_by cs.length
decreasing_by
  · have := r.2; simp at this ⊢; omega
  · simp

/-- A string after its opening quote. -/
def readString (cs : List Char) : Except Fault (String × Rest cs) := readStringFrom [] cs

/-- Skips an escape after its backslash, checking only that it is one of the escapes. -/
def skipEscape : (cs : List Char) → Except Fault (Rest cs)
  | [] => .error (Fault.here (.malformed .eofInString) [])
  | c :: rest =>
    if c = '"' ∨ c = '\\' ∨ c = '/' ∨ c = 'b' ∨ c = 'f' ∨ c = 'n' ∨ c = 'r' ∨ c = 't' then
      .ok ⟨rest, length_le_cons c rest⟩
    else if c = 'u' then
      match hexQuad rest with
      | .error f => .error f
      | .ok (_, r) => .ok (r.widen (length_le_cons c rest))
    else .error (Fault.next (.malformed .invalidEscape) (c :: rest))

/-- Skips the rest of a string after its opening quote. A control character is reported
before it is taken. -/
def skipString (cs : List Char) : Except Fault (Rest cs) :=
  match cs with
  | [] => .error (Fault.here (.malformed .eofInString) [])
  | c :: rest =>
    if c = '"' then .ok ⟨rest, length_le_cons c rest⟩
    else if c = '\\' then
      match skipEscape rest with
      | .error f => .error f
      | .ok r => (skipString r.1).map (·.widen (Nat.le_trans r.2 (length_le_cons c rest)))
    else if c.toNat < 0x20 then .error (Fault.here (.malformed .controlCharacterInString) (c :: rest))
    else (skipString rest).map (·.widen (length_le_cons c rest))
termination_by cs.length
decreasing_by
  · have := r.2; simp at this ⊢; omega
  · simp

end Json
end Sidebar
