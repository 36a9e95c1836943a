import EdgePack.Data.Chunks

/-!
# Decoded pictures

A decoded picture is a grid of pixels, each a few samples of one width: grey,
grey with alpha, red-green-blue, or red-green-blue with alpha, in 8 or 16 bits.
Pictures are handed on as 8-bit grey, RGB or RGBA whatever their own layout:

* first every 16-bit sample becomes the nearest 8-bit one, `(x + 128) / 257`;
* grey becomes RGB by repeating it, and gains an opaque alpha;
* colour becomes grey by the Rec. 709 weights in 16-bit fixed point,
  `(13938 r + 46868 g + 4730 b + 32768) / 65536`: the weights are the
  luminance coefficients of sRGB times `2^16`, rounded, and sum to `2^16`, so
  white stays white; the result is the nearest level, halves rounded up;
* alpha is dropped when the target has none.
-/

namespace EdgePack

/-- The samples of one pixel. -/
inductive PixelLayout where
  | luma
  | lumaAlpha
  | rgb
  | rgba
  deriving DecidableEq, Repr, Inhabited

namespace PixelLayout

/-- The number of samples per pixel. -/
def channels : PixelLayout → Nat
  | .luma => 1
  | .lumaAlpha => 2
  | .rgb => 3
  | .rgba => 4

end PixelLayout

/-- A decoded picture: its size, layout, sample width and the samples, row by
    row and pixel by pixel. -/
structure Picture where
  width : Nat
  height : Nat
  layout : PixelLayout
  /-- Whether samples are 16 bits wide rather than 8. -/
  wide : Bool
  samples : List Nat
  deriving Inhabited

namespace Picture

/-- The largest sample. -/
def maxSample (p : Picture) : Nat := if p.wide then 65535 else 255

/-- A sample narrowed to 8 bits. -/
def narrow (p : Picture) (x : Nat) : Nat := if p.wide then (x + 128) / 257 else x

/-- The grey level of a colour, by the Rec. 709 weights in 16-bit fixed point,
    to the nearest level. -/
def lumaOf (r g b : Nat) : Nat := (13938 * r + 46868 * g + 4730 * b + 32768) / 65536

/-- The pixels, each as its list of samples. -/
def pixels (p : Picture) : List (List Nat) := chunks p.layout.channels p.samples

/-- The grey level of a pixel at the picture's width. -/
def pixelLuma (p : Picture) (px : List Nat) : Nat :=
  match p.layout with
  | .luma | .lumaAlpha => px.getD 0 0
  | .rgb | .rgba => lumaOf (px.getD 0 0) (px.getD 1 0) (px.getD 2 0)

/-- The red, green and blue of a pixel at the picture's width. -/
def pixelRgb (p : Picture) (px : List Nat) : List Nat :=
  match p.layout with
  | .luma | .lumaAlpha => [px.getD 0 0, px.getD 0 0, px.getD 0 0]
  | .rgb | .rgba => [px.getD 0 0, px.getD 1 0, px.getD 2 0]

/-- The alpha of a pixel at the picture's width, opaque when it has none. -/
def pixelAlpha (p : Picture) (px : List Nat) : Nat :=
  match p.layout with
  | .luma | .rgb => p.maxSample
  | .lumaAlpha => px.getD 1 0
  | .rgba => px.getD 3 0

/-- The picture with every sample narrowed to 8 bits. -/
def narrowed (p : Picture) : Picture :=
  { p with wide := false, samples := p.samples.map p.narrow }

/-- The picture as 8-bit grey levels. -/
def toLuma8 (p : Picture) : List Nat :=
  let q := p.narrowed
  q.pixels.map q.pixelLuma

/-- The picture as 8-bit red, green and blue. -/
def toRgb8 (p : Picture) : List Nat :=
  let q := p.narrowed
  q.pixels.flatMap q.pixelRgb

/-- The picture as 8-bit red, green, blue and alpha. -/
def toRgba8 (p : Picture) : List Nat :=
  let q := p.narrowed
  q.pixels.flatMap fun px => q.pixelRgb px ++ [q.pixelAlpha px]

/-- The picture with 1, 3 or 4 channels of 8 bits; none for another count. -/
def withChannels (p : Picture) : Nat → Option (List Nat)
  | 1 => some p.toLuma8
  | 3 => some p.toRgb8
  | 4 => some p.toRgba8
  | _ => none

end Picture

end EdgePack
