import EdgePack.Archive.Error
import EdgePack.Archive.Format
import EdgePack.Host.Basic

/-!
# Deployment packages

A deployment package is a ZIP file of flat members: the model, its flash list,
the kernel and the target's extra files. Loading one through a ZIP library
lists its members in directory order and takes its size in bytes; a member is
read by name from the file as it stands when it is read.

* `Package.load`: the package at a path;
* `Package.readMember`: the bytes of one member;
* `Package.summary`: `<path>: <n> members, <size> bytes [<m1>, <m2>]`.
-/

namespace EdgePack

/-- A package on disk: its path, its member names in order and its size. -/
structure Package where
  path : Path
  members : List String
  size : Nat
  deriving Inhabited

namespace Package

/-- The bytes of the file at `p`, a directory reading as a failed read of the
    container. -/
def containerBytes (p : Path) : HostM (Except ArchiveError ByteArray) := do
  match ← Host.readBytes p with
  | .ok d => pure (.ok d)
  | .error e =>
    if e == IoError.isADirectory then pure (.error (.zip (.io e))) else pure (.error (.io p.text e))

/-- The package at `p`, read with the ZIP library `f`. -/
def load (f : ZipFormat) (p : Path) : HostM (Except ArchiveError Package) := do
  match ← containerBytes p with
  | .error e => pure (.error e)
  | .ok data =>
    match f.read data with
    | .error e => pure (.error (.zip e))
    | .ok d => pure (.ok ⟨p, d.names, data.size⟩)

/-- Whether a member has the name. -/
def contains (a : Package) (name : String) : Bool := a.members.contains name

/-- The decompressed bytes of the member `name`, read with the ZIP library `f`
    from the file as it is now. -/
def readMember (f : ZipFormat) (a : Package) (name : String) :
    HostM (Except ArchiveError ByteArray) := do
  match ← containerBytes a.path with
  | .error e => pure (.error e)
  | .ok data =>
    match f.read data >>= fun d => f.readNamed data d name with
    | .ok bytes => pure (.ok bytes)
    | .error (.data detail) => pure (.error (.io a.path.text (.other detail)))
    | .error e => pure (.error (.zip e))

/-- One line: path, member count, size and member names. -/
def summary (a : Package) : String :=
  let names := ", ".intercalate a.members
  s!"{a.path.text}: {a.members.length} members, {a.size} bytes [{names}]"

end Package

end EdgePack
