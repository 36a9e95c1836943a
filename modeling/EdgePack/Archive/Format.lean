import EdgePack.Archive.Zip

/-!
# ZIP libraries

Packages are written and read through a ZIP library, which the packager is
given as a `ZipFormat`: why it refuses a member, first for its name and
options and then for its bytes; the file it writes of members, in order, each
with the options it is told; the members it lists in a file; and the bytes it
reads back for a member.

What the packager needs of the library is that it reads back what it writes;
`ZipFormat.standard` is the library the program runs.
-/

namespace EdgePack

open Zip

/-- A ZIP library: why it refuses a member, how it writes members, and how it
    reads them back. -/
structure ZipFormat where
  /-- Why a member cannot be started under a name with the options, if it cannot. -/
  refuseName : Options → String → Option Refusal
  /-- Why a member's bytes cannot be taken in with the options, if they cannot. -/
  refuseBytes : Options → ByteArray → Option Refusal
  /-- The file holding the members, in order, each written with the options. -/
  write : Options → List (String × ByteArray) → ByteArray
  /-- The members a file lists, or why it is no ZIP file. -/
  read : ByteArray → Except ZipError Directory
  /-- The bytes of a member of a file. -/
  readMember : ByteArray → Member → Except ZipError ByteArray

namespace ZipFormat

/-- The bytes of the member of a name, in a file whose members are `d`. -/
def readNamed (f : ZipFormat) (data : ByteArray) (d : Directory) (name : String) :
    Except ZipError ByteArray :=
  match d.find? name with
  | some m => f.readMember data m
  | none => .error .fileNotFound

/-- The library the program runs: members stored as they are or deflated as
    stored blocks, read back by their directory. -/
def standard : ZipFormat :=
  ⟨Zip.refuseName, Zip.refuseBytes, Zip.write, Directory.read, Directory.readMember⟩

instance : Inhabited ZipFormat := ⟨standard⟩

end ZipFormat

end EdgePack
