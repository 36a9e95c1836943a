import EdgePack.Image.Png
import EdgePack.Host.Basic
import EdgePack.Text.Hex

/-!
# Opening picture files

A picture file's format is told by its extension, in any case. Of the known
formats only PNG is decoded; a JPEG file is read far enough to see whether it
starts with the JPEG start-of-image marker, and every other known format is
refused as unsupported.

The steps come in a fixed order, and the first failure is the answer: the
file must open (a directory opens), then the format must be known, then the
bytes are read (which a directory fails) and decoded.

* `ImageFormat.ofExtension?`: the format an extension names;
* `openPicture`: the decoded picture at a path, or why there is none.
-/

namespace EdgePack

/-- A picture file format that extensions name. -/
inductive ImageFormat where
  | png
  | jpeg
  /-- A format that is known by name and not decoded here. -/
  | other (name : String)
  deriving DecidableEq, Repr, Inhabited

namespace ImageFormat

/-- The format's name. -/
def name : ImageFormat → String
  | .png => "Png"
  | .jpeg => "Jpeg"
  | .other n => n

/-- The format an extension names, compared without regard to ASCII case. -/
def ofExtension? (ext : String) : Option ImageFormat :=
  match String.ofList (ext.toList.map Char.toLower) with
  | "png" | "apng" => some .png
  | "jpg" | "jpeg" | "jfif" => some .jpeg
  | "avif" => some (.other "Avif")
  | "gif" => some (.other "Gif")
  | "webp" => some (.other "WebP")
  | "tif" | "tiff" => some (.other "Tiff")
  | "tga" => some (.other "Tga")
  | "dds" => some (.other "Dds")
  | "bmp" => some (.other "Bmp")
  | "ico" => some (.other "Ico")
  | "hdr" => some (.other "Hdr")
  | "exr" => some (.other "OpenExr")
  | "pbm" | "pam" | "ppm" | "pgm" | "pnm" => some (.other "Pnm")
  | "ff" => some (.other "Farbfeld")
  | "qoi" => some (.other "Qoi")
  | "pcx" => some (.other "Pcx")
  | _ => none

end ImageFormat

/-- Why a picture file could not be opened. -/
inductive ImageError where
  /-- The file could not be opened or read. -/
  | io (e : IoError)
  /-- The extension names no known format. -/
  | unknownFormat
  /-- The format is known and not decoded here. -/
  | unsupported (format : ImageFormat)
  /-- The bytes are not a valid file of the format. -/
  | decoding (format : ImageFormat) (detail : String)
  deriving Inhabited

/-- The words for a failure. -/
def ImageError.message : ImageError → String
  | .io e => e.message
  | .unknownFormat => "The image format could not be determined"
  | .unsupported f => s!"The image format {f.name} is not supported"
  | .decoding f d => s!"Format error decoding {f.name}: {d}"

/-- What a JPEG file's first bytes say, since its pictures are not decoded here. -/
def jpegFailure (data : ByteArray) : ImageError :=
  if data.size < 2 then .decoding .jpeg "Exhausted data"
  else
    let marker := (data[0]?.getD 0).toNat * 256 + (data[1]?.getD 0).toNat
    if marker != 0xFFD8 then
      .decoding .jpeg s!"Error parsing image. Illegal start bytes:{Text.hexUpper marker}"
    else .decoding .jpeg "Error parsing image. No more bytes"

/-- The picture in the file at `p`. -/
def openPicture (p : Path) : HostM (Except ImageError Picture) := do
  let read ← Host.readBytes p
  match read with
  | .error e => if e != IoError.isADirectory then pure (.error (.io e)) else formatStep read
  | .ok _ => formatStep read
where
  /-- The format check, then the bytes read, then the decoding. -/
  formatStep (read : Except IoError ByteArray) : HostM (Except ImageError Picture) :=
    match (p.extension?.bind ImageFormat.ofExtension?) with
    | none => pure (.error .unknownFormat)
    | some (.other n) => pure (.error (.unsupported (.other n)))
    | some f =>
      match read with
      | .error e => pure (.error (.io e))
      | .ok data =>
        match f with
        | .png =>
          pure (match Png.decode data with
            | .ok pic => .ok pic
            | .error .unexpectedEnd => .error (.io .unexpectedEof)
            | .error e => .error (.decoding .png e.message))
        | _ => pure (.error (jpegFailure data))

end EdgePack
