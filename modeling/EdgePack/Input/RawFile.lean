import EdgePack.Input.Raster
import EdgePack.Host.Basic

/-!
# Raw tensor files

A raw file is a tensor's bytes and nothing else: no header, so its shape and
element type come from the input specification it is read for, and its length
must be exactly what that specification needs.
-/

namespace EdgePack

/-- Writes a tensor's bytes to `path`, reporting it on the debug log. -/
def writeRaw (t : RawTensor) (path : Path) : HostM (Except EncodeError Unit) := do
  match ← Host.writeBytes path t.data with
  | .error e => pure (.error (.write path.text e))
  | .ok () =>
    Host.log .debug "raw_encoder::raw_file" s!"wrote {t.size} bytes to {path}"
    pure (.ok ())

/-- Reads a tensor of the specification's shape and type from a raw file of
    exactly its size. -/
def readRaw (path : Path) (spec : InputSpec) : HostM (Except EncodeError RawTensor) := do
  match ← Host.readBytes path with
  | .error e => pure (.error (.sourceRead path.text e.message))
  | .ok data =>
    if data.size ≠ spec.sizeBytes then
      pure (.error (.sourceRead path.text s!"expected {spec.sizeBytes} bytes, found {data.size}"))
    else
      pure (match RawTensor.ofBytes spec.tensorShape spec.dtype data with
        | .ok t => .ok t
        | .error e => .error (.tensor e))

end EdgePack
