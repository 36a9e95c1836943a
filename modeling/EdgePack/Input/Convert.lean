import EdgePack.Input.Source
import EdgePack.Input.RawFile

/-!
# Converting a directory of pictures

Every PNG file of a directory (by its extension, in any case) is encoded for
one input specification and written as a raw file of the same stem in an
output directory. Files are taken in the order of their names, never in the
order the directory lists them, and a limit keeps the first ones of that
order. The output directory is made first; the first file that fails stops
the batch with its error, the files written before it staying written.

* `filesWithExtension`: the regular files of a directory with an extension, sorted;
* `convertDir`: the batch, with what each file became.
-/

namespace EdgePack

/-- One converted picture: where it came from, where its tensor went, and
    how many bytes that is. -/
structure Converted where
  source : Path
  rawPath : Path
  size : Nat
  deriving Inhabited

/-- Whether a file name's extension is `ext`, without regard to ASCII case. -/
def hasExtension (ext : String) (p : Path) : Bool :=
  match p.extension? with
  | some e => String.ofList (e.toList.map Char.toLower) == String.ofList (ext.toList.map Char.toLower)
  | none => false

/-- The regular files of `dir` whose extension is `ext` in any case, in name order. -/
def filesWithExtension (dir : Path) (ext : String) : HostM (Except EncodeError (List Path)) := do
  match ← Host.listDir dir with
  | .error e => pure (.error (.sourceRead dir.text e.message))
  | .ok names =>
    let candidates := (names.map fun (n : String) => dir / n).filter (hasExtension ext)
    let files ← candidates.filterM Host.isFile
    pure (.ok files)

/-- Encodes and writes each picture in turn, stopping at the first failure. -/
def convertAll (output : Path) (spec : InputSpec) :
    List Path → HostM (Except EncodeError (List Converted))
  | [] => pure (.ok [])
  | src :: rest => do
    match ← (Source.imageFile src).encode spec with
    | .error e => pure (.error e)
    | .ok t =>
      let stem := src.stem?.getD ""
      let rawPath := output / (stem ++ ".raw")
      match ← writeRaw t rawPath with
      | .error e => pure (.error e)
      | .ok () =>
        match ← convertAll output spec rest with
        | .error e => pure (.error e)
        | .ok done => pure (.ok (⟨src, rawPath, t.size⟩ :: done))

/-- Converts the PNG files of `input` into raw files in `output`, the first
    `limit` of them in name order when a limit is given. -/
def convertDir (input output : Path) (spec : InputSpec) (limit : Option Nat) :
    HostM (Except EncodeError (List Converted)) := do
  match ← filesWithExtension input "png" with
  | .error e => pure (.error e)
  | .ok all =>
    let chosen := match limit with
      | some n => all.take n
      | none => all
    match ← Host.createDirAll output with
    | .error e => pure (.error (.write output.text e))
    | .ok () =>
      let dtype := spec.dtype.name
      Host.log .info "raw_encoder::convert"
        s!"converting {chosen.length} images from {input.text} as {spec.tensorShape} {dtype}"
      convertAll output spec chosen

end EdgePack
