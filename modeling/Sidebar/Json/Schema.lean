import Sidebar.Json.Skip
/-!
# Reading typed values from JSON

The readers serde derives for the records of `crates/panelkit-core/src/config.rs`, run by
`serde_json::from_str`.

A `Reader` takes a value of one type from the front of a text. This module builds readers for
strings, for unsigned integers up to a bound, for objects of string keys, and for records:
fixed sets of named fields with defaults.

A record is read from an object or, field by field in declaration order, from an array.
In an object, members with unknown keys are skipped, and a field given twice is an error
reported after its key; in an array, missing trailing items keep their defaults and an extra
item is an error. Any other kind of value is reported as found, naming what was expected.
-/

namespace Sidebar
namespace Json

/-- A reader of values of type `α` from the front of a text: the value and what is left, or
the fault that stopped it. -/
def Reader (α : Type) := (cs : List Char) → Except Fault (α × Rest cs)

namespace Reader

/-- The values of a reader, transformed. -/
def map {α β : Type} (f : α → β) (rd : Reader α) : Reader β :=
  fun cs => (rd cs).map fun (a, r) => (f a, r)

end Reader

/-- The fault for a value of another kind than `expected`, starting at the first character
of `cs`: the value is read to name it, and the fault stands after it; an array or an object
is named at its opening bracket. What is no value at all is a fault in the text. -/
def wrongKind (expected : String) : List Char → Fault
  | [] => Fault.next (.malformed .expectedValue) []
  | c :: rest =>
    let found (x : Found) (r : List Char) : Fault := Fault.here (.invalidType x expected) r
    if c = 'n' then
      match readWord ['u', 'l', 'l'] rest with
      | .error f => f
      | .ok r => found .null r.1
    else if c = 't' then
      match readWord ['r', 'u', 'e'] rest with
      | .error f => f
      | .ok r => found (.bool true) r.1
    else if c = 'f' then
      match readWord ['a', 'l', 's', 'e'] rest with
      | .error f => f
      | .ok r => found (.bool false) r.1
    else if c = '-' then
      match readNumber false rest with
      | .error f => f
      | .ok (n, r) => found n.found r.1
    else if isDigit c then
      match readNumber true (c :: rest) with
      | .error f => f
      | .ok (n, r) => found n.found r.1
    else if c = '"' then
      match readString rest with
      | .error f => f
      | .ok (s, r) => found (.string s) r.1
    else if c = '[' then found .sequence (c :: rest)
    else if c = '{' then found .map (c :: rest)
    else Fault.next (.malformed .expectedValue) (c :: rest)

/-- The remainder after the first character of the text past white space. -/
def afterBlankHead {cs rest : List Char} {c : Char} (h : (skipBlank cs).1 = c :: rest) :
    Shorter cs :=
  ⟨rest, skipBlank_cons h⟩

/-- A string value. -/
def text : Reader String := fun cs =>
  match h : (skipBlank cs).1 with
  | [] => .error (Fault.next (.malformed .eofInValue) [])
  | c :: rest =>
    if c = '"' then widen (skipBlank_cons_le h) (readString rest)
    else .error (wrongKind "a string" (c :: rest))

/-- An integer from 0 to `bound`, described as `expected` when another value is found. -/
def unsigned (expected : String) (bound : Nat) : Reader Nat := fun cs =>
  let accept {ds : List Char} : Except Fault (Number × Rest ds) → Except Fault (Nat × Rest ds)
    | .error f => .error f
    | .ok (.unsigned n, r) =>
      if n ≤ bound then .ok (n, r) else .error (Fault.here (.invalidValue (.unsigned n) expected) r.1)
    | .ok (.negative n, r) => .error (Fault.here (.invalidValue (.signed n) expected) r.1)
    | .ok (.float x, r) => .error (Fault.here (.invalidType (.float x.toBits) expected) r.1)
  match h : (skipBlank cs).1 with
  | [] => .error (Fault.next (.malformed .eofInValue) [])
  | c :: rest =>
    if c = '-' then widen (skipBlank_cons_le h) (accept (readNumber false rest))
    else if isDigit c then
      widen (by have := (skipBlank cs).2; rw [h] at this; exact this) (accept (readNumber true (c :: rest)))
    else .error (wrongKind expected (c :: rest))

/-- Where the next member of an object starts. -/
inductive MemberStart (cs : List Char) where
  /-- The object ends; the closing brace is not taken. -/
  | close (r : Rest cs)
  /-- A key follows; its opening quote is taken. -/
  | key (r : Shorter cs)

/-- The start of the next member: after the opening brace (`first`) a key or the end; after
a member a comma and a key, or the end. -/
def memberStart (first : Bool) (cs : List Char) : Except Fault (MemberStart cs) :=
  match h : (skipBlank cs).1 with
  | [] => .error (Fault.next (.malformed .eofInObject) [])
  | c :: rest =>
    if c = '}' then .ok (.close ((skipBlank cs).widen (length_le_self cs)))
    else if c = ',' ∧ !first then
      match h2 : (skipBlank rest).1 with
      | [] => .error (Fault.next (.malformed .eofInValue) [])
      | d :: r =>
        if d = '"' then .ok (.key ⟨r, Nat.lt_trans (skipBlank_cons h2) (skipBlank_cons h)⟩)
        else if d = '}' then .error (Fault.next (.malformed .trailingComma) (d :: r))
        else .error (Fault.next (.malformed .keyMustBeString) (d :: r))
    else if first then
      if c = '"' then .ok (.key (afterBlankHead h))
      else .error (Fault.next (.malformed .keyMustBeString) (c :: rest))
    else .error (Fault.next (.malformed .expectedObjectCommaOrEnd) (c :: rest))

/-- The colon between a key and its value. -/
def colon (cs : List Char) : Except Fault (Rest cs) :=
  match h : (skipBlank cs).1 with
  | [] => .error (Fault.next (.malformed .eofInObject) [])
  | c :: rest =>
    if c = ':' then .ok ⟨rest, skipBlank_cons_le h⟩
    else .error (Fault.next (.malformed .expectedColon) (c :: rest))

/-- The closing brace of an object whose members were read. -/
def closeObject (cs : List Char) : Except Fault (Rest cs) :=
  match h : (skipBlank cs).1 with
  | [] => .error (Fault.next (.malformed .eofInObject) [])
  | c :: rest =>
    if c = '}' then .ok ⟨rest, skipBlank_cons_le h⟩
    else if c = ',' then .error (Fault.next (.malformed .trailingComma) (c :: rest))
    else .error (Fault.next (.malformed .trailingCharacters) (c :: rest))

/-- The closing bracket of an array whose items were read. -/
def closeArray (cs : List Char) : Except Fault (Rest cs) :=
  match h : (skipBlank cs).1 with
  | [] => .error (Fault.next (.malformed .eofInList) [])
  | c :: rest =>
    if c = ']' then .ok ⟨rest, skipBlank_cons_le h⟩
    else if c = ',' then
      match (skipBlank rest).1 with
      | d :: r =>
        if d = ']' then .error (Fault.next (.malformed .trailingComma) (d :: r))
        else .error (Fault.next (.malformed .trailingCharacters) (d :: r))
      | [] => .error (Fault.next (.malformed .trailingCharacters) [])
    else .error (Fault.next (.malformed .trailingCharacters) (c :: rest))

/-- The entries of an object after its opening brace or after an entry, up to its closing
brace, which is not taken; `acc` holds the entries read so far, last first. -/
def entriesFrom {β : Type} (value : Reader β) (first : Bool) (acc : List (String × β))
    (cs : List Char) : Except Fault (List (String × β) × Rest cs) :=
  match memberStart first cs with
  | .error f => .error f
  | .ok (.close r) => .ok (acc.reverse, r)
  | .ok (.key k) =>
    match readString k.1 with
    | .error f => .error f
    | .ok (name, r1) =>
      match colon r1.1 with
      | .error f => .error f
      | .ok r2 =>
        match value r2.1 with
        | .error f => .error f
        | .ok (v, r3) =>
          widen (Nat.le_of_lt (Nat.lt_of_le_of_lt (Nat.le_trans r3.2 (Nat.le_trans r2.2 r1.2)) k.2))
            (entriesFrom value false ((name, v) :: acc) r3.1)
termination_by cs.length
decreasing_by exact Nat.lt_of_le_of_lt (Nat.le_trans r3.2 (Nat.le_trans r2.2 r1.2)) k.2

/-- An object of string keys, its entries in the order of the text, duplicates kept. -/
def entries {β : Type} (value : Reader β) : Reader (List (String × β)) := fun cs =>
  match h : (skipBlank cs).1 with
  | [] => .error (Fault.next (.malformed .eofInValue) [])
  | c :: rest =>
    if c = '{' then
      match entriesFrom value true [] rest with
      | .error f => .error f
      | .ok (es, r) =>
        match closeObject r.1 with
        | .error f => .error f
        | .ok r2 => .ok (es, ⟨r2.1, Nat.le_of_lt (Nat.lt_of_le_of_lt (Nat.le_trans r2.2 r.2) (skipBlank_cons h))⟩)
    else .error (wrongKind "a map" (c :: rest))

/-- A field of a record of type `σ`: its key, and a reader of its value as a change to the
record. -/
structure Field (σ : Type) where
  name : String
  value : Reader (σ → σ)

/-- A record type read from JSON: how it is named in messages, its default value and its
fields in declaration order. -/
structure Record (σ : Type) where
  expected : String
  init : σ
  fields : List (Field σ)

namespace Record

/-- The fault for a field given twice: it stands after the key, past the white space and the
closing brace that may follow it. -/
def duplicate (name : String) (cs : List Char) : Fault :=
  match (skipBlank cs).1 with
  | c :: rest => if c = '}' then Fault.here (.duplicateField name) rest
    else Fault.here (.duplicateField name) (c :: rest)
  | [] => Fault.here (.duplicateField name) []

/-- The members of an object after its opening brace or after a member, up to its closing
brace, which is not taken; `seen` holds the fields already given. -/
def members {σ : Type} (rec : Record σ) (first : Bool) (seen : List String) (st : σ)
    (cs : List Char) : Except Fault (σ × Rest cs) :=
  match memberStart first cs with
  | .error f => .error f
  | .ok (.close r) => .ok (st, r)
  | .ok (.key k) =>
    match readString k.1 with
    | .error f => .error f
    | .ok (name, r1) =>
      match rec.fields.find? (·.name = name) with
      | some fld =>
        if name ∈ seen then .error (duplicate name r1.1)
        else
          match colon r1.1 with
          | .error f => .error f
          | .ok r2 =>
            match fld.value r2.1 with
            | .error f => .error f
            | .ok (change, r3) =>
              widen (Nat.le_of_lt (Nat.lt_of_le_of_lt (Nat.le_trans r3.2 (Nat.le_trans r2.2 r1.2)) k.2))
                (members rec false (name :: seen) (change st) r3.1)
      | none =>
        match colon r1.1 with
        | .error f => .error f
        | .ok r2 =>
          match skipValue r2.1 with
          | .error f => .error f
          | .ok r3 =>
            widen (Nat.le_of_lt (Nat.lt_of_le_of_lt (Nat.le_of_lt (Nat.lt_of_lt_of_le r3.2
                (Nat.le_trans r2.2 r1.2))) k.2))
              (members rec false seen st r3.1)
termination_by cs.length
decreasing_by
  · exact Nat.lt_of_le_of_lt (Nat.le_trans r3.2 (Nat.le_trans r2.2 r1.2)) k.2
  · exact Nat.lt_of_le_of_lt (Nat.le_of_lt (Nat.lt_of_lt_of_le r3.2 (Nat.le_trans r2.2 r1.2))) k.2

/-- The items of an array read as the given fields in order, after the opening bracket or
after an item, up to the closing bracket, which is not taken. Items run out before fields
do: the other fields keep their values. -/
def elements {σ : Type} : List (Field σ) → Bool → σ → (cs : List Char) → Except Fault (σ × Rest cs)
  | [], _, st, cs => .ok (st, Rest.refl cs)
  | fld :: more, first, st, cs =>
    match h : (skipBlank cs).1 with
    | [] => .error (Fault.next (.malformed .eofInList) [])
    | c :: rest =>
      if c = ']' then .ok (st, (skipBlank cs).widen (length_le_self cs))
      else if c = ',' ∧ !first then
        match h2 : (skipBlank rest).1 with
        | [] => .error (Fault.next (.malformed .eofInValue) [])
        | d :: r =>
          if d = ']' then .error (Fault.next (.malformed .trailingComma) (d :: r))
          else
            match fld.value (d :: r) with
            | .error f => .error f
            | .ok (change, r2) =>
              widen (by
                  have a := r2.2
                  have b := (skipBlank rest).2
                  rw [h2] at b
                  have c := skipBlank_cons h
                  simp only [List.length_cons] at a b c ⊢
                  omega)
                (elements more false (change st) r2.1)
      else if first then
        match fld.value (c :: rest) with
        | .error f => .error f
        | .ok (change, r2) =>
          widen (by
              have a := r2.2
              have b := (skipBlank cs).2
              rw [h] at b
              omega)
            (elements more false (change st) r2.1)
      else .error (Fault.next (.malformed .expectedListCommaOrEnd) (c :: rest))

/-- A record from an object or an array. -/
def read {σ : Type} (rec : Record σ) : Reader σ := fun cs =>
  match h : (skipBlank cs).1 with
  | [] => .error (Fault.next (.malformed .eofInValue) [])
  | c :: rest =>
    if c = '[' then
      match elements rec.fields true rec.init rest with
      | .error f => .error f
      | .ok (st, r) =>
        match closeArray r.1 with
        | .error f => .error f
        | .ok r2 => .ok (st, ⟨r2.1, Nat.le_of_lt (Nat.lt_of_le_of_lt (Nat.le_trans r2.2 r.2) (skipBlank_cons h))⟩)
    else if c = '{' then
      match members rec true [] rec.init rest with
      | .error f => .error f
      | .ok (st, r) =>
        match closeObject r.1 with
        | .error f => .error f
        | .ok r2 => .ok (st, ⟨r2.1, Nat.le_of_lt (Nat.lt_of_le_of_lt (Nat.le_trans r2.2 r.2) (skipBlank_cons h))⟩)
    else .error (wrongKind rec.expected (c :: rest))

end Record

/-- A whole document holding one value: after it only white space may follow. -/
def readDocument {α : Type} (rd : Reader α) (input : String) : Except Error α :=
  match rd input.toList with
  | .error f => .error (f.locate input)
  | .ok (a, r) =>
    match (skipBlank r.1).1 with
    | [] => .ok a
    | c :: rest => .error ((Fault.next (.malformed .trailingCharacters) (c :: rest)).locate input)

end Json
end Sidebar
