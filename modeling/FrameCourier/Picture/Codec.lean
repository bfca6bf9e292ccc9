import FrameCourier.Document.Ascii
import FrameCourier.Picture.Canvas

/-!
# Encoded pictures

Portable pixmaps are read here: a header with the two extents, and three bytes a pixel.
What starts like a picture of another kind but ends too early is named for that kind; all
else has no known format.

How a canvas is compressed is left to an `ImageCodec`; which canvases can be is not, since
the format has sixteen bits for either extent.
-/

namespace FrameCourier.Picture

/-- Reads and compresses pictures. -/
structure ImageCodec where
  /-- The canvas of an encoded picture, or why it cannot be decoded. -/
  decode : Bytes → Except String Canvas
  /-- The compressed picture of a canvas, at a quality. -/
  compress : UInt8 → Canvas → Bytes

/-- Decimal digits up to a byte that ends them. -/
def extent? (ending : UInt8) (s : Bytes) : Option (Nat × Bytes) :=
  match s.span Ascii.isDigit with
  | ([], _) => none
  | (digits, b :: rest) =>
    if b = ending then some (digits.foldl (fun n d => n * 10 + Ascii.digitValue d) 0, rest)
    else none
  | (_, []) => none

/-- The colors of a run of bytes, three each, behind those so far. -/
def colorsOnto (done : Array Color) : Bytes → Array Color
  | red :: green :: blue :: rest => colorsOnto (done.push ⟨red, green, blue⟩) rest
  | _ => done

/-- The canvas of a portable pixmap with 255 steps of each color. -/
def pixmap? (bytes : Bytes) : Option Canvas := do
  let header := Bytes.ofText "P6\n"
  if !header.isPrefixOf bytes then none
  let (width, rest) ← extent? Ascii.space (bytes.drop header.length)
  let (height, rest) ← extent? Ascii.lineFeed rest
  let (depth, rest) ← extent? Ascii.lineFeed rest
  if depth ≠ 255 || rest.length ≠ width * height * 3 then none
  Canvas.ofPixels? width height (colorsOnto #[] rest)

/-- The canvas of a picture, or why there is none. -/
def decodePixmap (bytes : Bytes) : Except String Canvas :=
  match pixmap? bytes with
  | some canvas => .ok canvas
  | none =>
    if bytes = [0xFF, 0xD8, 0xFF] then
      .error "Format error decoding Jpeg: I/O errors Not enough bytes, expected 1 but found 0\n"
    else if bytes = Bytes.ofText "GIF89a" then
      .error "Format error decoding Gif: Unexpected End of File"
    else .error "The image format could not be determined"

/-- The codec that reads portable pixmaps. -/
def ImageCodec.pixmaps (compress : UInt8 → Canvas → Bytes) : ImageCodec :=
  ⟨decodePixmap, compress⟩

/-- The greatest extent that a compressed picture has room for. -/
def greatestExtent : Nat := 65535

/-- Why a canvas has no compressed picture. -/
def sizeFault? (canvas : Canvas) : Option String :=
  if 1 ≤ canvas.width && canvas.width ≤ greatestExtent && 1 ≤ canvas.height &&
      canvas.height ≤ greatestExtent then none
  else
    some ("Format error encoding Jpeg:\nInvalid image size (" ++ toString canvas.width ++ " x " ++
      toString canvas.height ++
      ") to encode as JPEG: width and height must be >= 1 and <= 65535")

end FrameCourier.Picture
