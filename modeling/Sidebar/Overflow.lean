/-!
# Checked word arithmetic

The overflow checks of `u32`, `u64` and `usize` addition and multiplication in a debug build.

Sizes, gaps and insets are 32-bit words and counts are 64-bit words. Adding or multiplying
them never wraps: a result that does not fit is an `Overflow`, which stops the operation
that asked for it. Each check compares the exact `Nat` result with `2 ^ width`, so the
laws about it are facts about `toNat`.
-/

namespace Sidebar

/-- The arithmetic step that did not fit in its word. -/
inductive Overflow where
  /-- A sum exceeded the word. -/
  | add
  /-- A product exceeded the word. -/
  | multiply
  deriving DecidableEq, Repr, Inhabited

namespace Overflow

/-- The text that reports the failed step. -/
def message : Overflow → String
  | add => "attempt to add with overflow"
  | multiply => "attempt to multiply with overflow"

end Overflow

namespace Checked

/-- The sum of two 32-bit words, or `Overflow.add` when it reaches `2 ^ 32`. -/
def add32 (a b : UInt32) : Except Overflow UInt32 :=
  if a.toNat + b.toNat < Nat.pow 2 32 then .ok (a + b) else .error .add

/-- The product of two 64-bit words, or `Overflow.multiply` when it reaches `2 ^ 64`. -/
def mul64 (a b : UInt64) : Except Overflow UInt64 :=
  if a.toNat * b.toNat < Nat.pow 2 64 then .ok (a * b) else .error .multiply

/-- The sum of a list of 32-bit words, added from the left, failing at the first partial
sum that does not fit. -/
def sum32 (xs : List UInt32) : Except Overflow UInt32 :=
  xs.foldlM add32 0

theorem add32_eq_ok {a b c : UInt32} : add32 a b = .ok c ↔ a.toNat + b.toNat < Nat.pow 2 32 ∧ c = a + b := by
  unfold add32
  by_cases h : a.toNat + b.toNat < Nat.pow 2 32
  · rw [if_pos h]
    constructor
    · intro e
      cases e
      exact ⟨h, rfl⟩
    · rintro ⟨_, rfl⟩
      rfl
  · rw [if_neg h]
    constructor
    · intro e
      cases e
    · rintro ⟨h', _⟩
      exact absurd h' h

theorem add32_ok_toNat {a b c : UInt32} (h : add32 a b = .ok c) : c.toNat = a.toNat + b.toNat := by
  obtain ⟨hlt, rfl⟩ := add32_eq_ok.1 h
  rw [UInt32.toNat_add]
  exact Nat.mod_eq_of_lt hlt

end Checked

end Sidebar
