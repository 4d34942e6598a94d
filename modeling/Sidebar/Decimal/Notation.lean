import Sidebar.Decimal.Shortest
/-!
# Writing a floating-point value in decimal

The layout of the shortest digits in the `Debug` text of an `f32`.

A value is written with its shortest digits (`Binary.shortest`). A `Notation` decides the
rest: where the decimal point may stand before the text switches to an exponent, whether a
non-negative exponent carries a plus sign, and which way a tie between two shortest
candidates goes. Positional text always has a fractional part, `.0` at least; exponent text
has a point only when there is more than one digit. Negative values, negative zero
included, start with `-`; NaN is `NaN` and the infinities are `inf` and `-inf`.
-/

namespace Sidebar
namespace Decimal

/-- The choices of a decimal notation. The point position of `d₁d₂…dₙ · 10^e` is `n + e`,
the number of digits before the point. -/
structure Notation where
  /-- The least point position written positionally. -/
  minPoint : Int
  /-- The greatest point position written positionally. -/
  maxPoint : Int
  /-- A non-negative exponent is written with `+`. -/
  plusExponent : Bool
  /-- The tie rule between shortest candidates. -/
  tie : Tie

/-- `n` zeros. -/
def zeros (n : Nat) : String := String.ofList (List.replicate n '0')

/-- The digits of a positive or zero magnitude, written without sign. -/
def Notation.magnitude (nt : Notation) (d : Dec) : String :=
  if d.digits = 0 then "0.0"
  else
    let ds := Nat.toDigits 10 d.digits
    let n := ds.length
    let point : Int := n + d.exp
    if nt.minPoint ≤ point ∧ point ≤ nt.maxPoint then
      if point ≤ 0 then "0." ++ zeros (-point).toNat ++ String.ofList ds
      else if point < n then
        String.ofList (ds.take point.toNat) ++ "." ++ String.ofList (ds.drop point.toNat)
      else String.ofList ds ++ zeros (point - n).toNat ++ ".0"
    else
      let e := point - 1
      let expText :=
        if e < 0 then "-" ++ toString (-e).toNat
        else (if nt.plusExponent then "+" else "") ++ toString e.toNat
      let mantissa := match ds with
        | [c] => String.singleton c
        | c :: rest => String.singleton c ++ "." ++ String.ofList rest
        | [] => "0"
      mantissa ++ "e" ++ expText

/-- The text of the value with the given bits in format `f`. -/
def Notation.ofBits (nt : Notation) (f : Format) (bits : Nat) : String :=
  let fraction := bits % Nat.pow 2 f.fractionBits
  let exponent := (bits / Nat.pow 2 f.fractionBits) % Nat.pow 2 f.exponentBits
  let negative := bits / Nat.pow 2 (f.fractionBits + f.exponentBits) % 2 = 1
  let sign := if negative then "-" else ""
  if exponent = Nat.pow 2 f.exponentBits - 1 then
    if fraction = 0 then sign ++ "inf" else "NaN"
  else sign ++ nt.magnitude ((Binary.ofFields f exponent fraction).shortest nt.tie)

end Decimal
end Sidebar
