/-!
# Shortest decimal digits of a binary floating-point value

The shortest digits that read back as the same `f32`, as its `Debug` text prints them.

A finite binary value stands for the interval of reals that round to it under
round-to-nearest-even: from halfway to the value below to halfway to the value above, the
ends included exactly when the significand is even. `Binary.shortest` returns the decimal
with the fewest significant digits inside that interval and, among those, the one nearest
to the value; an exact tie between two goes the way the caller's `Tie` says.

Everything is exact `Nat` and `Int` arithmetic. For a digit count `n` the two decimals of
`n` digits next to the value are `⌊value / 10^e⌋ · 10^e` and the one above it; if any
`n`-digit decimal lies in the interval, one of these two does, since the interval is convex
and holds the value.
-/

namespace Sidebar
namespace Decimal

/-- A binary floating-point format: the number of stored significand bits and of exponent
bits. -/
structure Format where
  fractionBits : Nat
  exponentBits : Nat

/-- IEEE 754 binary32. -/
def Format.binary32 : Format := ⟨23, 8⟩

/-- IEEE 754 binary64. -/
def Format.binary64 : Format := ⟨52, 11⟩

/-- A finite non-negative value `m · 2^q`. -/
structure Binary where
  m : Nat
  q : Int
  /-- The gap to the value below is half the gap to the value above: `m` is the least
  significand of a binade above the lowest. -/
  narrowBelow : Bool
  deriving Repr, DecidableEq

/-- The magnitude of a finite value from its exponent and fraction fields. -/
def Binary.ofFields (f : Format) (exponent fraction : Nat) : Binary :=
  let bias : Int := Nat.pow 2 (f.exponentBits - 1) - 1
  if exponent = 0 then ⟨fraction, 1 - bias - f.fractionBits, false⟩
  else ⟨Nat.pow 2 f.fractionBits + fraction, (exponent : Int) - bias - f.fractionBits,
    fraction = 0 && exponent > 1⟩

/-- `digits · 10^exp`. -/
structure Dec where
  digits : Nat
  exp : Int
  deriving Repr, DecidableEq

/-- Which of two equally near decimals is chosen. -/
inductive Tie where
  /-- The larger one. -/
  | up
  /-- The one whose last digit is even. -/
  | toEven
  deriving DecidableEq, Repr

/-- Compare `a · 10^i` with `n · 2^j` exactly. -/
def cmpScaled (a : Nat) (i : Int) (n : Nat) (j : Int) : Ordering :=
  compare (a * Nat.pow 10 i.toNat * Nat.pow 2 (-j).toNat) (n * Nat.pow 2 j.toNat * Nat.pow 10 (-i).toNat)

/-- Whether `d` lies among the reals that round to `x`. -/
def Binary.readsBack (x : Binary) (d : Dec) : Bool :=
  let lo := if x.narrowBelow then 4 * x.m - 1 else 4 * x.m - 2
  let hi := 4 * x.m + 2
  let incl := x.m % 2 == 0
  let cl := cmpScaled d.digits d.exp lo (x.q - 2)
  let ch := cmpScaled d.digits d.exp hi (x.q - 2)
  (cl == .gt || (incl && cl == .eq)) && (ch == .lt || (incl && ch == .eq))

/-- The number of decimal digits of `n`, with 0 for 0. -/
def digitCount (n : Nat) : Nat :=
  if n = 0 then 0 else (Nat.toDigits 10 n).length

/-- `⌊log10 (num / den)⌋` for positive `num` and `den`. The quotient lies in
`[10^(t-1), 10^(t+1))` for `t` the difference of the digit counts, so one comparison
decides. -/
def floorLog10 (num den : Nat) : Int :=
  let t : Int := (digitCount num : Int) - digitCount den
  if num * Nat.pow 10 (-t).toNat ≥ den * Nat.pow 10 t.toNat then t else t - 1

/-- The value as an exact fraction `num / den`. -/
def Binary.fraction (x : Binary) : Nat × Nat :=
  (x.m * Nat.pow 2 x.q.toNat, Nat.pow 2 (-x.q).toNat)

/-- `d` with its trailing zeros moved into the exponent. -/
def Dec.normalize (d : Dec) : Dec :=
  if h : d.digits ≠ 0 ∧ d.digits % 10 = 0 then Dec.normalize ⟨d.digits / 10, d.exp + 1⟩ else d
termination_by d.digits
decreasing_by exact Nat.div_lt_self (Nat.pos_of_ne_zero h.1) (by decide)

/-- The decimal of `n` significant digits nearest to `x` that reads back, if either neighbour
of `x` on that grid does. -/
def Binary.candidate (x : Binary) (tie : Tie) (n : Nat) : Option Dec :=
  let (num, den) := x.fraction
  let e : Int := floorLog10 num den - n + 1
  let lo := num * Nat.pow 10 (-e).toNat / (den * Nat.pow 10 e.toNat)
  let below : Dec := ⟨lo, e⟩
  let above : Dec := ⟨lo + 1, e⟩
  match x.readsBack below, x.readsBack above with
  | false, false => none
  | true, false => some below
  | false, true => some above
  | true, true =>
    -- twice the value against the sum of the two neighbours
    match compare (2 * num * Nat.pow 10 (-e).toNat) ((2 * lo + 1) * den * Nat.pow 10 e.toNat) with
    | .lt => some below
    | .gt => some above
    | .eq =>
      match tie with
      | .up => some above
      | .toEven => if lo % 2 = 0 then some below else some above

/-- The shortest decimal that reads back as `x`, nearest to `x` among those; the exact
value if no decimal of at most seventeen digits does, which no binary64 value needs. Zero is
`0 · 10^0`. -/
def Binary.shortest (x : Binary) (tie : Tie) : Dec :=
  if x.m = 0 then ⟨0, 0⟩
  else
    match (List.range 17).findSome? (fun i => x.candidate tie (i + 1)) with
    | some d => d.normalize
    | none => (⟨x.m * Nat.pow 5 (-x.q).toNat * Nat.pow 2 x.q.toNat, min x.q 0⟩ : Dec).normalize

end Decimal
end Sidebar
