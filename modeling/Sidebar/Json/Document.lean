import Sidebar.Json.Schema
import Sidebar.Json.Write
/-!
# JSON documents

`serde_json::Value`, read from a whole text by `serde_json::from_str`.

A `Document` is a whole JSON value read from text. Numbers keep the kind they were read as
(`Number`): a whole number is unsigned or negative while it fits in 64 bits, and anything else
is a binary64 value, so `1` and `1.0` stay apart. Strings have their escapes decoded. An
object holds one member per key, the last one the text gives, and keeps its members in
increasing order of their keys, code point by code point.

Arrays and objects nest at most 127 deep: the bracket that would open the 128th level is an
error, which also bounds the depth of every walk over a document. Every other fault is the
one a typed reader (`Schema`) reports at the same point, and after the value only white space
may follow.

`Document.compact` writes a document on one line without spaces: strings quoted as `quote`
does, whole numbers in decimal and binary64 values in `messageNotation`.
-/

namespace Sidebar
namespace Json

/-- A JSON value as read from text. -/
inductive Document where
  | null
  | bool (b : Bool)
  | number (n : Number)
  | string (s : String)
  | array (items : List Document)
  | object (members : List (String × Document))

namespace Document

/-- The order of object keys: code point by code point, a proper prefix first. -/
def keyOrder : List Char → List Char → Ordering
  | [], [] => .eq
  | [], _ :: _ => .lt
  | _ :: _, [] => .gt
  | a :: as, b :: bs =>
    if a.toNat < b.toNat then .lt
    else if b.toNat < a.toNat then .gt
    else keyOrder as bs

/-- Members in key order with the member `key` set to `value`: a member with that key is
replaced where it stands, and otherwise the new one goes before the first greater key. -/
def insertMember (key : String) (value : Document) :
    List (String × Document) → List (String × Document)
  | [] => [(key, value)]
  | (k, v) :: rest =>
    match keyOrder key.toList k.toList with
    | .lt => (key, value) :: (k, v) :: rest
    | .eq => (key, value) :: rest
    | .gt => (k, v) :: insertMember key value rest

/-- The value of the first member named `key`. -/
def lookup (key : String) : List (String × Document) → Option Document
  | [] => none
  | (k, v) :: rest => if k = key then some v else lookup key rest

/-- The member `key` of an object; nothing for a missing key or a value that is no object. -/
def get? (d : Document) (key : String) : Option Document :=
  match d with
  | .object members => lookup key members
  | _ => none

end Document

/-- What is left after a value inside an array or an object fits in the text that held
the bracket. -/
theorem shorter_le {cs : List Char} (r : Shorter cs) : r.1.length ≤ cs.length :=
  Nat.le_of_lt r.2

/-- What is left after the value behind a comma is shorter than the text before the comma. -/
theorem after_comma_lt {cs rest : List Char} {c : Char} (h : (skipBlank cs).1 = c :: rest)
    (r : Shorter rest) : r.1.length < cs.length :=
  Nat.lt_trans r.2 (skipBlank_cons h)

/-- `after_comma_lt`, weakened. -/
theorem after_comma_le {cs rest : List Char} {c : Char} (h : (skipBlank cs).1 = c :: rest)
    (r : Shorter rest) : r.1.length ≤ cs.length :=
  Nat.le_of_lt (after_comma_lt h r)

/-- The text of a member's value, after its key and colon, is shorter than the text before
the key's opening quote. -/
theorem member_value_lt {cs : List Char} (k : Shorter cs) (r1 : Rest k.1) (r2 : Rest r1.1) :
    r2.1.length < cs.length :=
  Nat.lt_of_le_of_lt (Nat.le_trans r2.2 r1.2) k.2

/-- What is left after a member's value is shorter than the text before its key. -/
theorem member_rest_lt {cs : List Char} (k : Shorter cs) (r1 : Rest k.1) (r2 : Rest r1.1)
    (r3 : Shorter r2.1) : r3.1.length < cs.length :=
  Nat.lt_trans r3.2 (member_value_lt k r1 r2)

/-- `member_rest_lt`, weakened. -/
theorem member_rest_le {cs : List Char} (k : Shorter cs) (r1 : Rest k.1) (r2 : Rest r1.1)
    (r3 : Shorter r2.1) : r3.1.length ≤ cs.length :=
  Nat.le_of_lt (member_rest_lt k r1 r2 r3)

/-- The most arrays and objects a document may open, one inside another, plus one. -/
def nestingRoom : Nat := 128

mutual

/-- One value after optional white space. `room` counts the levels of arrays and objects
that may still open, plus one: a bracket that finds it at one or less is an error. -/
def readValue (room : Nat) (cs : List Char) : Except Fault (Document × Shorter cs) :=
  match h : (skipBlank cs).1 with
  | [] => .error (Fault.next (.malformed .eofInValue) [])
  | c :: rest =>
    if c = 'n' then (readWord ['u', 'l', 'l'] rest).map fun r => (.null, Rest.afterHead h r)
    else if c = 't' then (readWord ['r', 'u', 'e'] rest).map fun r => (.bool true, Rest.afterHead h r)
    else if c = 'f' then
      (readWord ['a', 'l', 's', 'e'] rest).map fun r => (.bool false, Rest.afterHead h r)
    else if c = '-' then (readNumber false rest).map fun (n, r) => (.number n, Rest.afterHead h r)
    else if isDigit c then
      (readNumberAfter true c rest).map fun (n, r) => (.number n, Rest.afterHead h r)
    else if c = '"' then (readString rest).map fun (s, r) => (.string s, Rest.afterHead h r)
    else if c = '[' then
      if room ≤ 1 then .error (Fault.next (.malformed .recursionLimitExceeded) (c :: rest))
      else (readItems (room - 1) true rest).map fun (vs, r) => (.array vs, Rest.afterHead h r)
    else if c = '{' then
      if room ≤ 1 then .error (Fault.next (.malformed .recursionLimitExceeded) (c :: rest))
      else
        (readMembers (room - 1) true [] rest).map fun (ms, r) => (.object ms, Rest.afterHead h r)
    else .error (Fault.next (.malformed .expectedValue) (c :: rest))
termination_by (cs.length, 0)
decreasing_by
  all_goals exact Prod.Lex.left _ _ (skipBlank_cons h)

/-- The items of an array after its opening bracket (`first`) or after an item, up to and
including the closing bracket. A comma must be followed by another item. -/
def readItems (room : Nat) (first : Bool) (cs : List Char) :
    Except Fault (List Document × Rest cs) :=
  match h : (skipBlank cs).1 with
  | [] => .error (Fault.next (.malformed .eofInList) [])
  | c :: rest =>
    if c = ']' then .ok ([], ⟨rest, skipBlank_cons_le h⟩)
    else if c = ',' ∧ !first then
      match (skipBlank rest).1 with
      | ']' :: more => .error (Fault.next (.malformed .trailingComma) (']' :: more))
      | _ =>
        match readValue room rest with
        | .error f => .error f
        | .ok (v, r) =>
          (readItems room false r.1).map fun (vs, r2) => (v :: vs, r2.widen (after_comma_le h r))
    else if first then
      match readValue room cs with
      | .error f => .error f
      | .ok (v, r) => (readItems room false r.1).map fun (vs, r2) => (v :: vs, r2.widen (shorter_le r))
    else .error (Fault.next (.malformed .expectedListCommaOrEnd) (c :: rest))
termination_by (cs.length, 1)
decreasing_by
  · exact Prod.Lex.left _ _ (skipBlank_cons h)
  · exact Prod.Lex.left _ _ (after_comma_lt h r)
  · exact Prod.Lex.right _ (by decide)
  · exact Prod.Lex.left _ _ r.2

/-- The members of an object after its opening brace (`first`) or after a member, up to and
including the closing brace; `acc` holds the members read so far, in key order, a later
member replacing an earlier one of the same key. -/
def readMembers (room : Nat) (first : Bool) (acc : List (String × Document)) (cs : List Char) :
    Except Fault (List (String × Document) × Rest cs) :=
  match memberStart first cs with
  | .error f => .error f
  | .ok (.close r) => (closeObject r.1).map fun r2 => (acc, r2.widen r.2)
  | .ok (.key k) =>
    match readString k.1 with
    | .error f => .error f
    | .ok (name, r1) =>
      match colon r1.1 with
      | .error f => .error f
      | .ok r2 =>
        match readValue room r2.1 with
        | .error f => .error f
        | .ok (v, r3) =>
          (readMembers room false (Document.insertMember name v acc) r3.1).map fun (ms, r4) =>
            (ms, r4.widen (member_rest_le k r1 r2 r3))
termination_by (cs.length, 1)
decreasing_by
  · exact Prod.Lex.left _ _ (member_value_lt k r1 r2)
  · exact Prod.Lex.left _ _ (member_rest_lt k r1 r2 r3)

end

namespace Document

/-- A document read from the front of a text. -/
def reader : Reader Document := fun cs =>
  (readValue nestingRoom cs).map fun (d, r) => (d, ⟨r.1, shorter_le r⟩)

/-- The document a whole text holds, or the first fault in it, located. -/
def parse (input : String) : Except Error Document := readDocument reader input

mutual

/-- The document on one line without spaces. -/
def compact : Document → String
  | .null => "null"
  | .bool b => toString b
  | .number (.unsigned n) => toString n
  | .number (.negative n) => toString n
  | .number (.float x) => messageNotation.ofBits Decimal.Format.binary64 x.toBits.toNat
  | .string s => quote s
  | .array items => "[" ++ ",".intercalate (compactItems items) ++ "]"
  | .object members => "\x7b" ++ ",".intercalate (compactMembers members) ++ "\x7d"

/-- The items of an array, each on its own. -/
def compactItems : List Document → List String
  | [] => []
  | d :: ds => compact d :: compactItems ds

/-- The members of an object, each as its quoted key, a colon and its value. -/
def compactMembers : List (String × Document) → List String
  | [] => []
  | (k, d) :: ms => (quote k ++ ":" ++ compact d) :: compactMembers ms

end

end Document

end Json
end Sidebar
