import Sidebar.Json.Number
import Sidebar.Json.Str
/-!
# Skipping a JSON value

The skipping of unknown fields by the readers serde derives, run by `serde_json::from_str`.

A member whose key a record does not know is skipped: its value is checked for well-formed
JSON and dropped, at any depth. Literals must be spelt out in full, numbers and strings keep
their form, items are separated by commas, a member is a string key, a colon and a value,
and a comma must be followed by another item or member.
-/

namespace Sidebar
namespace Json

/-- The letters of a literal after its first, as in `null`, `true` and `false`. -/
def readWord : (word : List Char) → (cs : List Char) → Except Fault (Rest cs)
  | [], cs => .ok (Rest.refl cs)
  | _ :: _, [] => .error (Fault.here (.malformed .eofInValue) [])
  | w :: ws, c :: rest =>
    if c = w then (readWord ws rest).map (·.widen (length_le_cons c rest))
    else .error (Fault.next (.malformed .expectedIdent) (c :: rest))

theorem skipBlank_cons {cs : List Char} {c : Char} {rest : List Char}
    (h : (skipBlank cs).1 = c :: rest) : rest.length < cs.length := by
  have := (skipBlank cs).2
  rw [h] at this
  simp at this
  omega

theorem skipBlank_cons_le {cs : List Char} {c : Char} {rest : List Char}
    (h : (skipBlank cs).1 = c :: rest) : rest.length ≤ cs.length :=
  Nat.le_of_lt (skipBlank_cons h)

/-- A strictly shorter remainder from a remainder of the tail after a taken character. -/
def Rest.afterHead {cs rest : List Char} {c : Char} (h : (skipBlank cs).1 = c :: rest)
    (r : Rest rest) : Shorter cs :=
  ⟨r.1, Nat.lt_of_le_of_lt r.2 (skipBlank_cons h)⟩

mutual

/-- Skips one value after optional white space; a value always takes at least one
character. -/
def skipValue (cs : List Char) : Except Fault (Shorter cs) :=
  match h : (skipBlank cs).1 with
  | [] => .error (Fault.next (.malformed .eofInValue) [])
  | c :: rest =>
    if c = 'n' then (readWord ['u', 'l', 'l'] rest).map (Rest.afterHead h)
    else if c = 't' then (readWord ['r', 'u', 'e'] rest).map (Rest.afterHead h)
    else if c = 'f' then (readWord ['a', 'l', 's', 'e'] rest).map (Rest.afterHead h)
    else if c = '-' then (skipNumber rest).map (Rest.afterHead h)
    else if isDigit c then (skipNumberAfter c rest).map (Rest.afterHead h)
    else if c = '"' then (skipString rest).map (Rest.afterHead h)
    else if c = '[' then (skipItems true rest).map (Rest.afterHead h)
    else if c = '{' then (skipMembers true rest).map (Rest.afterHead h)
    else .error (Fault.next (.malformed .expectedValue) (c :: rest))
termination_by (cs.length, 0)
decreasing_by
  all_goals exact Prod.Lex.left _ _ (skipBlank_cons h)

/-- Skips the items of an array after its opening bracket (`first`) or after an item, up to
and including the closing bracket. -/
def skipItems (first : Bool) (cs : List Char) : Except Fault (Rest cs) :=
  match h : (skipBlank cs).1 with
  | [] => .error (Fault.next (.malformed .eofInList) [])
  | c :: rest =>
    if c = ']' then .ok ⟨rest, skipBlank_cons_le h⟩
    else if c = ',' ∧ !first then
      match skipValue rest with
      | .error f => .error f
      | .ok r => (skipItems false r.1).map (·.widen (Nat.le_of_lt (Nat.lt_trans r.2 (skipBlank_cons h))))
    else if first then
      match skipValue (c :: rest) with
      | .error f => .error f
      | .ok r =>
        (skipItems false r.1).map (·.widen (Nat.le_of_lt (Nat.lt_of_lt_of_le r.2
          (by have := (skipBlank cs).2; rw [h] at this; exact this))))
    else .error (Fault.next (.malformed .expectedListCommaOrEnd) (c :: rest))
termination_by (cs.length, 1)
decreasing_by
  · exact Prod.Lex.left _ _ (skipBlank_cons h)
  · exact Prod.Lex.left _ _ (Nat.lt_trans r.2 (skipBlank_cons h))
  · have := (skipBlank cs).2
    rw [h] at this
    rcases Nat.lt_or_eq_of_le this with hl | he
    · exact Prod.Lex.left _ _ hl
    · rw [he]; exact Prod.Lex.right _ (by decide)
  · have := (skipBlank cs).2
    rw [h] at this
    exact Prod.Lex.left _ _ (Nat.lt_of_lt_of_le r.2 this)

/-- Skips the members of an object after its opening brace (`first`) or after a member, up to
and including the closing brace. -/
def skipMembers (first : Bool) (cs : List Char) : Except Fault (Rest cs) :=
  match h : (skipBlank cs).1 with
  | [] => .error (Fault.next (.malformed .eofInObject) [])
  | c :: rest =>
    if c = '}' then .ok ⟨rest, skipBlank_cons_le h⟩
    else if c = ',' ∧ !first then
      match skipMember rest with
      | .error f => .error f
      | .ok r => (skipMembers false r.1).map (·.widen (Nat.le_of_lt (Nat.lt_trans r.2 (skipBlank_cons h))))
    else if first then
      match skipMember (c :: rest) with
      | .error f => .error f
      | .ok r =>
        (skipMembers false r.1).map (·.widen (Nat.le_of_lt (Nat.lt_of_lt_of_le r.2
          (by have := (skipBlank cs).2; rw [h] at this; exact this))))
    else .error (Fault.next (.malformed .expectedObjectCommaOrEnd) (c :: rest))
termination_by (cs.length, 1)
decreasing_by
  · exact Prod.Lex.left _ _ (skipBlank_cons h)
  · exact Prod.Lex.left _ _ (Nat.lt_trans r.2 (skipBlank_cons h))
  · have := (skipBlank cs).2
    rw [h] at this
    rcases Nat.lt_or_eq_of_le this with hl | he
    · exact Prod.Lex.left _ _ hl
    · rw [he]; exact Prod.Lex.right _ (by decide)
  · have := (skipBlank cs).2
    rw [h] at this
    exact Prod.Lex.left _ _ (Nat.lt_of_lt_of_le r.2 this)

/-- Skips one member: a string key, a colon and a value. -/
def skipMember (cs : List Char) : Except Fault (Shorter cs) :=
  match h : (skipBlank cs).1 with
  | [] => .error (Fault.next (.malformed .eofInObject) [])
  | c :: rest =>
    if c = '"' then
      match skipString rest with
      | .error f => .error f
      | .ok r =>
        match h2 : (skipBlank r.1).1 with
        | [] => .error (Fault.next (.malformed .eofInObject) [])
        | d :: r3 =>
          if d = ':' then
            (skipValue r3).map fun v =>
              ⟨v.1, Nat.lt_trans v.2 (Nat.lt_of_lt_of_le (skipBlank_cons h2)
                (Nat.le_of_lt (Nat.lt_of_le_of_lt r.2 (skipBlank_cons h))))⟩
          else .error (Fault.next (.malformed .expectedColon) (d :: r3))
    else .error (Fault.next (.malformed .keyMustBeString) (c :: rest))
termination_by (cs.length, 0)
decreasing_by
  exact Prod.Lex.left _ _ (Nat.lt_of_lt_of_le (skipBlank_cons h2)
    (Nat.le_of_lt (Nat.lt_of_le_of_lt r.2 (skipBlank_cons h))))

end

end Json
end Sidebar
