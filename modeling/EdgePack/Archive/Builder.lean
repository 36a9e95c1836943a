import EdgePack.Archive.Staging
import EdgePack.Archive.Package
import EdgePack.Archive.Policy
import EdgePack.Archive.FlashList

/-!
# Building packages

A package is built in an output directory from required and optional files.
Nothing is written until every check that needs no writing has passed: the
package name must be a plain file name, and every required file must exist.
Optional files that are absent are skipped with a warning. Then the output
directory is made, the files are copied into a staging area, and the ZIP file
is written, by the packager's ZIP library with every member deflated at the
fixed timestamp (`memberOptions`), beside its final place under a temporary
name and moved there in one step; whatever fails, the staging area and the temporary file are removed,
so a failed build leaves at most the output directory behind, and an earlier
package of the same name untouched.

* `Packager.build`: the package `<output>/<name>.kfpkg` of the given files;
* `Packager.buildTarget`: the package a policy plans for an example, checked
  afterwards against the example's flash list.
-/

namespace EdgePack

/-- Builds packages into one output directory, with a ZIP library. -/
structure Packager where
  outputDir : Path
  /-- The ZIP library the packages are written with. -/
  format : ZipFormat := .standard
  deriving Inhabited

/-- Whether a package name is a plain file name: not empty, not `.` or `..`,
    and without separators of either kind. -/
def validPackageName (name : String) : Bool :=
  !(name.isEmpty || name.toList.contains '/' || name.toList.contains '\\' ||
    name == "." || name == "..")

/-- The first of the paths that is not a regular file. -/
def firstMissing : List Path → HostM (Option Path)
  | [] => pure none
  | p :: ps => do if ← Host.isFile p then firstMissing ps else pure (some p)

/-- The paths that are regular files, with a warning for each that is not. -/
def presentFiles : List Path → HostM (List Path)
  | [] => pure []
  | p :: ps => do
    if ← Host.isFile p then
      let rest ← presentFiles ps
      pure (p :: rest)
    else
      Host.log .warn "kfpkg::builder" s!"optional file {p.text} not found, skipping"
      presentFiles ps

/-- What a ZIP writer told nothing of large files answers for a member whose
    bytes, or compressed bytes, do not fit a four-byte field. -/
def largeFile : IoError := .other "Large file option has not been set"

/-- The largest file the host holds: file offsets are signed 64-bit numbers. -/
def maxFileSize : Nat := Nat.pow 2 63 - 1

/-- How every member of a package is written: deflated, at the fixed timestamp. -/
def memberOptions : Zip.Options := ⟨.deflated, .epoch⟩

/-- The failure a refused member of the staged file `f` is reported as: a name
    too long or options not supported by the ZIP library, or bytes too large,
    which fail as the copy of the file into the package. -/
def refusalError (f : StagedFile) : Zip.Refusal → ArchiveError
  | .unsupported => .zip (.unsupported "Compression method not supported")
  | .nameTooLong => .zip (.invalid "File name too long")
  | .tooLarge => .io f.path.text largeFile
  | .packedTooLarge => .zip (.io largeFile)

/-- The staged files' bytes, in order, as the ZIP library `z` takes them in: it
    stops at the first file it refuses to start under its name, that cannot be
    read, or whose bytes it refuses. -/
def stagedContents (z : ZipFormat) :
    List StagedFile → HostM (Except ArchiveError (List (String × ByteArray)))
  | [] => pure (.ok [])
  | f :: fs => do
    match z.refuseName memberOptions f.name with
    | some r => pure (.error (refusalError f r))
    | none =>
      match ← Host.readBytes f.path with
      | .error e => pure (.error (.io f.path.text e))
      | .ok d =>
        match z.refuseBytes memberOptions d with
        | some r => pure (.error (refusalError f r))
        | none =>
          match ← stagedContents z fs with
          | .error e => pure (.error e)
          | .ok rest => pure (.ok ((f.name, d) :: rest))

/-- Writes the staged files as a ZIP file at `target` with the ZIP library `z`:
    first to a fresh temporary file beside it (named by its absolute path, and
    created only where nothing stands), then moved into place; the temporary
    file is removed if any step fails, and when the ZIP file would be larger
    than the host holds. -/
def commit (z : ZipFormat) (area : StagingArea) (target : Path) :
    HostM (Except ArchiveError Package) := do
  let parent := target.parent?.getD ⟨"."⟩
  let pending ← Host.freshName (← Host.absolute parent) ".kfpkg-" ".partial"
  match ← Host.createFile pending with
  | .error e => pure (.error (.io parent.text (StagingArea.freshFailure e pending)))
  | .ok () =>
    let discard : ArchiveError → HostM (Except ArchiveError Package) := fun err => do
      let _ ← Host.removeFile pending
      pure (.error err)
    match ← stagedContents z area.files with
    | .error err => discard err
    | .ok contents =>
      let archive := z.write memberOptions contents
      if archive.size > maxFileSize then discard (.zip (.io .fileTooLarge)) else
      match ← Host.writeBytes pending archive with
      | .error e => discard (.zip (.io e))
      | .ok () =>
        match ← Host.rename pending target with
        | .error e => discard (.io target.text e)
        | .ok () =>
          match ← Host.readBytes target with
          | .error e => pure (.error (.io target.text e))
          | .ok d => pure (.ok ⟨target, area.names, d.size⟩)

namespace Packager

/-- Where the package of a name is written. -/
def packagePath (b : Packager) (name : String) : Path := b.outputDir / (name ++ ".kfpkg")

/-- Stages the sources in a fresh staging area and writes the package `name`
    of them; the staging area is released whatever happens. -/
def stageAndCommit (b : Packager) (name : String) (area : StagingArea) (sources : List Path) :
    HostM (Except ArchiveError Package) := do
  let (area, failure) ← area.stageAll sources
  match failure with
  | some e => do
    area.release
    pure (.error e)
  | none => do
    match ← commit b.format area (b.packagePath name) with
    | .error e => do
      area.release
      pure (.error e)
    | .ok pkg => do
      Host.log .info "kfpkg::builder" s!"Packaged {pkg.summary}"
      area.release
      pure (.ok pkg)

/-- Builds the package `name` of the `required` files and those of the
    `optional` files that exist, in that order. -/
def build (b : Packager) (name : String) (required optional : List Path) :
    HostM (Except ArchiveError Package) := do
  if !validPackageName name then pure (.error (.invalidName name))
  else
    match ← firstMissing required with
    | some p => pure (.error (.missingArtifact p.text))
    | none => do
      let present ← presentFiles optional
      match ← Host.createDirAll b.outputDir with
      | .error e => pure (.error (.io b.outputDir.text e))
      | .ok () =>
        match ← StagingArea.acquire b.outputDir with
        | .error e => pure (.error e)
        | .ok area => b.stageAndCommit name area (required ++ present)

/-- Reads the flash list at a path. -/
def loadFlashList (p : Path) : HostM (Except ArchiveError FlashList) := do
  match ← Host.readText p with
  | .error e => pure (.error (.io p.text e))
  | .ok text => pure (FlashList.parse text)

/-- Builds the package a policy plans for an example directory and kernel, then
    warns of every disagreement between the example's flash list and the
    package's members, or that the list could not be read. -/
def buildTarget (b : Packager) (policy : PackagePolicy) (exampleDir kernel : Path) :
    HostM (Except ArchiveError Package) := do
  let plan := policy.plan exampleDir kernel
  match ← b.build policy.name plan.required plan.optional with
  | .error e => pure (.error e)
  | .ok pkg => do
    match ← loadFlashList (exampleDir / flashListFile) with
    | .ok list =>
      (list.lint pkg.members).forM fun finding =>
        Host.log .warn "kfpkg::builder" s!"{policy.name}: {finding}"
    | .error e =>
      Host.log .warn "kfpkg::builder" s!"{policy.name}: could not check flash list: {e.message}"
    pure (.ok pkg)

end Packager

end EdgePack
