import Sidebar.Decimal.Notation
/-!
# Binary32 values as bit patterns

The `f32` channels of `Color` (`crates/panelkit-core/src/types.rs`), with the standard
library's arithmetic and comparisons on them.

A `Binary32` is an IEEE 754 single-precision value kept as its bit pattern. Arithmetic and
comparison go through `Float32`; storing, copying and clamping keep the bits, so a NaN keeps
its payload until something computes with it. The debug text of a value is its shortest
decimal, positional from `1e-4` up to below `1e16` and with an exponent outside that range.
-/

namespace Sidebar

/-- A binary32 floating-point value kept as its IEEE 754 bit pattern. Arithmetic goes through
`Float32`; storing and clamping keep the bits, NaN payloads included. -/
structure Binary32 where
  bits : UInt32
  deriving DecidableEq, Repr, Inhabited

namespace Binary32

/-- The value as a `Float32`, for arithmetic and comparison. -/
def toFloat32 (x : Binary32) : Float32 := Float32.ofBits x.bits

/-- The bit pattern of a `Float32`. -/
def ofFloat32 (f : Float32) : Binary32 := ⟨f.toBits⟩

/-- Zero, with the sign bit clear. -/
def zero : Binary32 := ⟨0⟩

/-- One. -/
def one : Binary32 := ⟨0x3F800000⟩

/-- `x` clamped to the unit interval: below 0 gives 0, above 1 gives 1, and anything else,
NaN included, is kept bit for bit. -/
def unitClamp (x : Binary32) : Binary32 :=
  if x.toFloat32 < 0 then zero else if x.toFloat32 > 1 then one else x

/-- The notation of binary32 values in diagnostics: the decimal point stays in the text for
magnitudes from `1e-4` to below `1e16`, an exponent has no plus sign, and a tie between two
shortest candidates goes to the larger. -/
def debugNotation : Decimal.Notation := ⟨-3, 16, false, .up⟩

/-- The value in debug notation, for example `0.117647`, `1e-7`, `-0.0` or `NaN`. -/
def debugText (x : Binary32) : String :=
  debugNotation.ofBits Decimal.Format.binary32 x.bits.toNat

end Binary32


end Sidebar
