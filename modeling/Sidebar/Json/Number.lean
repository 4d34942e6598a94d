import Sidebar.Json.Cursor
/-!
# Reading JSON numbers

The numbers of `serde_json::from_str`.

A number is read as an unsigned integer when it has no sign, fraction or exponent and fits
in 64 bits; as a negative integer when it has a sign and its magnitude is at most `2^63`;
and as a binary64 value otherwise, negative zero included.

A binary64 value is assembled from its decimal significand and exponent: the significand,
cut to the digits that fit in 64 bits with the rest counted in the exponent, is rounded to
binary64 and then multiplied or divided by the binary64 power of ten. A product that is
infinite is out of range; below `10^-308` the division is repeated by `1e308`. An exponent
too large for 32 bits is out of range when positive and the significand is not zero, and
gives zero otherwise.

A leading zero may not be followed by a digit, a point needs a digit after it, and an
exponent needs a digit after its optional sign.
-/

namespace Sidebar
namespace Json

/-- A number read from the text. -/
inductive Number where
  | unsigned (n : Nat)
  | negative (n : Int)
  | float (x : Float)

/-- How a number is named when a reader does not want it. -/
def Number.found : Number → Found
  | .unsigned n => .unsigned n
  | .negative n => .signed n
  | .float x => .float x.toBits

/-- The greatest 64-bit unsigned integer. -/
def u64Max : Nat := Nat.pow 2 64 - 1

/-- The greatest 32-bit signed integer. -/
def i32Max : Int := Nat.pow 2 31 - 1

/-- An integer clamped to the 32-bit signed range. -/
def clampI32 (n : Int) : Int := max (-Nat.pow 2 31) (min i32Max n)

/-- `10^n` rounded to binary64. -/
def pow10 (n : Nat) : Float := Float.ofScientific 1 false n

/-- A binary64 value divided by `10^(-exp)` for a negative `exp`, in steps of `1e308` while
the power is beyond `10^308`, stopping early at zero. -/
def scaleDown (f : Float) (exp : Int) : Float :=
  if exp < -308 then
    if f == 0 then f else scaleDown (f / 1e308) (exp + 308)
  else f / pow10 (-exp).toNat
termination_by (-exp).toNat
decreasing_by omega

/-- The binary64 value `± sig · 10^exp`; out of range where its magnitude is infinite. -/
def composeFloat (positive : Bool) (sig : Nat) (exp : Int) (rest : List Char) : Except Fault Float :=
  let f := sig.toUInt64.toFloat
  let magnitude : Except Fault Float :=
    if exp ≥ 0 then
      if exp ≤ 308 then
        let g := f * pow10 exp.toNat
        if g.isInf then .error (Fault.here (.malformed .numberOutOfRange) rest) else .ok g
      else if f == 0 then .ok f else .error (Fault.here (.malformed .numberOutOfRange) rest)
    else .ok (scaleDown f exp)
  magnitude.map fun g => if positive then g else -g

/-- The value of a number whose exponent did not fit in 32 bits. -/
def exponentOverflow (positive zeroSig positiveExp : Bool) (cs : List Char) :
    Except Fault (Float × Rest cs) :=
  if !zeroSig && positiveExp then .error (Fault.here (.malformed .numberOutOfRange) cs)
  else .ok (if positive then 0 else -0, skipDigits cs)

/-- The digits of an exponent after the first, then the value. -/
def exponentDigits (positive : Bool) (sig : Nat) (start : Int) (positiveExp : Bool) (exp : Nat) :
    (cs : List Char) → Except Fault (Float × Rest cs)
  | [] =>
    let final := clampI32 (if positiveExp then start + exp else start - exp)
    (composeFloat positive sig final []).map (·, Rest.refl [])
  | c :: rest =>
    match digitValue c with
    | some d =>
      if (exp * 10 + d : Int) > i32Max then
        widen (length_le_cons c rest) (exponentOverflow positive (sig == 0) positiveExp rest)
      else widen (length_le_cons c rest) (exponentDigits positive sig start positiveExp (exp * 10 + d) rest)
    | none =>
      let final := clampI32 (if positiveExp then start + exp else start - exp)
      (composeFloat positive sig final (c :: rest)).map (·, Rest.refl (c :: rest))

/-- The sign of an exponent, and what follows it; no sign is a plus. -/
def exponentSign : (cs : List Char) → Bool × Rest cs
  | [] => (true, Rest.refl [])
  | c :: r =>
    if c = '+' then (true, ⟨r, length_le_cons c r⟩)
    else if c = '-' then (false, ⟨r, length_le_cons c r⟩)
    else (true, Rest.refl (c :: r))

/-- An exponent after its `e`: an optional sign, then at least one digit. -/
def readExponent (positive : Bool) (sig : Nat) (start : Int) (cs : List Char) :
    Except Fault (Float × Rest cs) :=
  let (positiveExp, signed) := exponentSign cs
  match h : signed.1 with
  | [] => .error (Fault.here (.malformed .eofInValue) [])
  | c :: rest =>
    match digitValue c with
    | some d =>
      widen (by have := signed.2; rw [h] at this; simp at this; omega)
        (exponentDigits positive sig start positiveExp d rest)
    | none => .error (Fault.next (.malformed .invalidNumber) (c :: rest))

/-- After the significand stopped fitting in 64 bits in the fraction: the remaining digits are
dropped, then an exponent may follow. -/
def decimalOverflow (positive : Bool) (sig : Nat) (exp : Int) (cs : List Char) :
    Except Fault (Float × Rest cs) :=
  let r := skipDigits cs
  match h : r.1 with
  | c :: rest =>
    if c = 'e' ∨ c = 'E' then
      widen (by have := r.2; rw [h] at this; simp at this; omega) (readExponent positive sig exp rest)
    else (composeFloat positive sig exp r.1).map (·, r)
  | [] => (composeFloat positive sig exp []).map (·, r)

/-- The digits of a fraction after the point; `count` digits were read so far. -/
def fractionDigits (positive : Bool) (sig : Nat) (before : Int) (count : Nat) :
    (cs : List Char) → Except Fault (Float × Rest cs)
  | [] =>
    if count = 0 then .error (Fault.next (.malformed .eofInValue) [])
    else (composeFloat positive sig (before - count) []).map (·, Rest.refl [])
  | c :: rest =>
    match digitValue c with
    | some d =>
      if sig * 10 + d > u64Max then decimalOverflow positive sig (before - count) (c :: rest)
      else widen (length_le_cons c rest) (fractionDigits positive (sig * 10 + d) before (count + 1) rest)
    | none =>
      if count = 0 then .error (Fault.next (.malformed .invalidNumber) (c :: rest))
      else if c = 'e' ∨ c = 'E' then
        widen (length_le_cons c rest) (readExponent positive sig (before - count) rest)
      else (composeFloat positive sig (before - count) (c :: rest)).map (·, Rest.refl (c :: rest))

/-- The digits of an integer beyond 64 bits: each one counts in the exponent. -/
def longInteger (positive : Bool) (sig : Nat) (exp : Nat) :
    (cs : List Char) → Except Fault (Float × Rest cs)
  | [] => (composeFloat positive sig exp []).map (·, Rest.refl [])
  | c :: rest =>
    if isDigit c then widen (length_le_cons c rest) (longInteger positive sig (exp + 1) rest)
    else if c = '.' then widen (length_le_cons c rest) (fractionDigits positive sig exp 0 rest)
    else if c = 'e' ∨ c = 'E' then widen (length_le_cons c rest) (readExponent positive sig exp rest)
    else (composeFloat positive sig exp (c :: rest)).map (·, Rest.refl (c :: rest))

/-- A whole number: unsigned, negative, or a binary64 value for negative zero and for
magnitudes beyond `2^63`. -/
def integerNumber (positive : Bool) (sig : Nat) : Number :=
  if positive then .unsigned sig
  else if sig = 0 then .float (-0)
  else if sig ≤ Nat.pow 2 63 then .negative (-(sig : Int))
  else .float (-sig.toUInt64.toFloat)

/-- A binary64 result as a number. -/
def asFloatNumber {cs : List Char} (r : Except Fault (Float × Rest cs)) : Except Fault (Number × Rest cs) :=
  r.map fun (x, rest) => (.float x, rest)

/-- What follows the digits of the integer part: a fraction, an exponent or nothing. -/
def numberTail (positive : Bool) (sig : Nat) : (cs : List Char) → Except Fault (Number × Rest cs)
  | [] => .ok (integerNumber positive sig, Rest.refl [])
  | c :: r =>
    if c = '.' then asFloatNumber (widen (length_le_cons c r) (fractionDigits positive sig 0 0 r))
    else if c = 'e' ∨ c = 'E' then asFloatNumber (widen (length_le_cons c r) (readExponent positive sig 0 r))
    else .ok (integerNumber positive sig, Rest.refl (c :: r))

/-- The digits of the integer part after the first. -/
def integerDigits (positive : Bool) (sig : Nat) : (cs : List Char) → Except Fault (Number × Rest cs)
  | [] => numberTail positive sig []
  | c :: rest =>
    match digitValue c with
    | some d =>
      if sig * 10 + d > u64Max then
        asFloatNumber (longInteger positive sig 0 (c :: rest))
      else widen (length_le_cons c rest) (integerDigits positive (sig * 10 + d) rest)
    | none => numberTail positive sig (c :: rest)

/-- A number after its optional minus sign and its first character `c`, which must be a
digit; a leading zero stands alone. -/
def readNumberAfter (positive : Bool) (c : Char) (rest : List Char) : Except Fault (Number × Rest rest) :=
  if c = '0' then
    match rest with
    | d :: more =>
      if isDigit d then .error (Fault.next (.malformed .invalidNumber) (d :: more))
      else numberTail positive 0 (d :: more)
    | [] => numberTail positive 0 []
  else
    match digitValue c with
    | some d => integerDigits positive d rest
    | none => .error (Fault.next (.malformed .invalidNumber) (c :: rest))

/-- A number after its optional minus sign. -/
def readNumber (positive : Bool) : (cs : List Char) → Except Fault (Number × Rest cs)
  | [] => .error (Fault.here (.malformed .eofInValue) [])
  | c :: rest => widen (length_le_cons c rest) (readNumberAfter positive c rest)

/-- Skips the exponent of a number after its `e`. -/
def skipExponent (cs : List Char) : Except Fault (Rest cs) :=
  let signed := (exponentSign cs).2
  match h : signed.1 with
  | [] => .error (Fault.here (.malformed .invalidNumber) [])
  | c :: rest =>
    if isDigit c then
      .ok ((skipDigits rest).widen (by have := signed.2; rw [h] at this; simp at this; omega))
    else .error (Fault.next (.malformed .invalidNumber) (c :: rest))

/-- Skips a fraction after its point: at least one digit, then perhaps an exponent. -/
def skipFraction (cs : List Char) : Except Fault (Rest cs) :=
  let r := skipDigits cs
  if r.1.length = cs.length then .error (Fault.next (.malformed .invalidNumber) cs)
  else
    match h : r.1 with
    | c :: rest =>
      if c = 'e' ∨ c = 'E' then
        (skipExponent rest).map (·.widen (by have := r.2; rw [h] at this; simp at this; omega))
      else .ok r
    | [] => .ok r

/-- Skips what may follow the integer part of a number: a fraction or an exponent. -/
def skipNumberTail : (cs : List Char) → Except Fault (Rest cs)
  | [] => .ok (Rest.refl [])
  | c :: more =>
    if c = '.' then (skipFraction more).map (·.widen (length_le_cons c more))
    else if c = 'e' ∨ c = 'E' then (skipExponent more).map (·.widen (length_le_cons c more))
    else .ok (Rest.refl (c :: more))

/-- Skips the rest of a number whose first digit `c` was taken: a leading zero stands alone,
any other digit takes the digits after it, then a fraction or an exponent may follow. -/
def skipNumberAfter (c : Char) (rest : List Char) : Except Fault (Rest rest) :=
  if c = '0' then
    match rest with
    | d :: more =>
      if isDigit d then .error (Fault.next (.malformed .invalidNumber) (d :: more))
      else skipNumberTail (d :: more)
    | [] => .ok (Rest.refl [])
  else
    let r := skipDigits rest
    (skipNumberTail r.1).map (·.widen r.2)

/-- Skips a number after its optional minus sign, checking its form only. -/
def skipNumber : (cs : List Char) → Except Fault (Rest cs)
  | [] => .error (Fault.here (.malformed .invalidNumber) [])
  | c :: rest =>
    if isDigit c then (skipNumberAfter c rest).map (·.widen (length_le_cons c rest))
    else .error (Fault.next (.malformed .invalidNumber) (c :: rest))

end Json
end Sidebar
