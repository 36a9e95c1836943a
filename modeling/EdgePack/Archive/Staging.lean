import EdgePack.Archive.Error
import EdgePack.Host.Basic
import EdgePack.Text.Quoted

/-!
# Staging areas

Before an archive is written, its members are copied into a fresh directory of
their own, flat, each under the file name of its source. The area remembers
what it holds in the order the files came; a file whose name is already taken,
or whose path ends in no name, is refused, and a refused or failed copy leaves
the area as it was. Releasing the area removes its directory with everything
in it.

* `StagingArea.acquire`: a fresh directory `.kfpkg-staging-XXXXXX` in a parent;
* `StagingArea.stage`: one more file, copied in;
* `StagingArea.release`: the directory removed.
-/

namespace EdgePack

/-- A file copied into a staging area. -/
structure StagedFile where
  /-- The member name: the file name of the source. -/
  name : String
  /-- Where the copy stands in the staging directory. -/
  path : Path
  /-- Where it was copied from. -/
  origin : Path
  deriving Inhabited

/-- A directory holding the files of one archive, and the files staged so far. -/
structure StagingArea where
  dir : Path
  files : List StagedFile
  deriving Inhabited

namespace StagingArea

/-- The prefix of a staging directory's name. -/
def prefixText : String := ".kfpkg-staging-"

/-- The failure of making a fresh entry, which names the entry it tried. -/
def freshFailure (e : IoError) (tried : Path) : IoError :=
  .other s!"{e.message} at path {Text.quoted tried.text}"

/-- A fresh, empty staging area in the directory `parent`, named by its
    absolute path. -/
def acquire (parent : Path) : HostM (Except ArchiveError StagingArea) := do
  let dir ← Host.freshName (← Host.absolute parent) prefixText ""
  match ← Host.createDir dir with
  | .error e => pure (.error (.io parent.text (freshFailure e dir)))
  | .ok () => do
    Host.log .debug "kfpkg::staging" s!"staging: acquired {dir.text}"
    pure (.ok ⟨dir, []⟩)

/-- The member name of a source: its file name, when it has a non-empty one. -/
def memberName? (src : Path) : Option String :=
  match src.fileName? with
  | some n => if n.isEmpty then none else some n
  | none => none

/-- Copies `src` into the area under its file name. -/
def stage (s : StagingArea) (src : Path) : HostM (Except ArchiveError StagingArea) := do
  match memberName? src with
  | none => pure (.error (.invalidMemberName src.text))
  | some name =>
    if s.files.any (·.name == name) then pure (.error (.duplicateMember name))
    else
      let dest := s.dir / name
      match ← Host.copyFile src dest with
      | .error e => pure (.error (.io src.text e))
      | .ok _ => do
        Host.log .debug "kfpkg::staging" s!"staging: {src.text} -> {name}"
        pure (.ok { s with files := s.files ++ [⟨name, dest, src⟩] })

/-- Stages the sources in order, stopping at the first that fails: the area as
    it then stands, and the failure if there was one. -/
def stageAll : StagingArea → List Path → HostM (StagingArea × Option ArchiveError)
  | s, [] => pure (s, none)
  | s, p :: ps => do
    match ← s.stage p with
    | .error e => pure (s, some e)
    | .ok s' => stageAll s' ps

/-- The staged file of a member name. -/
def get? (s : StagingArea) (name : String) : Option StagedFile := s.files.find? (·.name == name)

/-- The member names, in the order they were staged. -/
def names (s : StagingArea) : List String := s.files.map (·.name)

/-- Removes the staging directory and everything in it. -/
def release (s : StagingArea) : HostM Unit := do
  Host.log .debug "kfpkg::staging" s!"staging: releasing {s.dir.text} ({s.files.length} files)"
  let _ ← Host.removeAll s.dir
  pure ()

/-- A one-line description: the directory and how many files it holds. -/
def describe (s : StagingArea) : String :=
  s!"StagingArea \x7b path: {Text.quoted s.dir.text}, files: {s.files.length} \x7d"

end StagingArea

end EdgePack
