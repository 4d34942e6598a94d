import Sidebar.Binary32
/-!
# Colours

`Color`, `Color::from_rgb8`, `Color::with_alpha` and the palette constants in
`crates/panelkit-core/src/types.rs`.

A `Color` holds red, green, blue and alpha as binary32 values, by convention in `[0, 1]`.
Each channel is kept as its bit pattern (`Binary32`), so a NaN keeps its payload for as long
as nothing computes with it. Only `withAlpha` clamps; every other constructor stores its
channels as given, so NaN, infinities and values outside the unit interval are colours too.
The palette of named colours is part of the library.
-/

namespace Sidebar

/-- A colour with four binary32 channels. -/
structure Color where
  r : Binary32
  g : Binary32
  b : Binary32
  a : Binary32
  deriving DecidableEq, Repr

namespace Color

/-- An opaque colour: alpha is 1. -/
def rgb (r g b : Binary32) : Color := ⟨r, g, b, Binary32.one⟩

/-- A colour with the given alpha, stored unclamped. -/
def rgba (r g b a : Binary32) : Color := ⟨r, g, b, a⟩

/-- A channel from an 8-bit value: the byte divided by 255. -/
def byteChannel (v : UInt8) : Binary32 := Binary32.ofFloat32 (v.toFloat32 / 255)

/-- An opaque colour from 8-bit channels, each divided by 255. -/
def ofRgb8 (r g b : UInt8) : Color := rgb (byteChannel r) (byteChannel g) (byteChannel b)

/-- The same colour with alpha replaced by `alpha` clamped to the unit interval. -/
def withAlpha (c : Color) (alpha : Binary32) : Color := { c with a := alpha.unitClamp }

/-- An opaque colour of three binary32 literals. -/
def ofFloats (r g b : Float32) : Color :=
  rgb (Binary32.ofFloat32 r) (Binary32.ofFloat32 g) (Binary32.ofFloat32 b)

/-! The palette. -/

def white : Color := ofFloats 1 1 1
def black : Color := ofFloats 0 0 0
def transparent : Color := rgba Binary32.zero Binary32.zero Binary32.zero Binary32.zero
def darkerGray : Color := ofFloats 0.117647 0.117647 0.117647
def darkGray : Color := ofFloats 0.156863 0.156863 0.156863
def mediumGray : Color := ofFloats 0.301961 0.301961 0.301961
def lightGray : Color := ofFloats 0.647059 0.647059 0.647059
def brandOrange : Color := ofFloats 0.862745 0.541176 0.0
def progressCompleteGreen : Color := ofFloats 0.215686 0.941176 0.27451
def progressErrorRed : Color := ofFloats 0.901961 0.117647 0.117647

/-- The default colour is white. -/
instance : Inhabited Color := ⟨white⟩

end Color

end Sidebar
