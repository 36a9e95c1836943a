import EdgePack.Serde.Decode
import EdgePack.Host.Path

/-!
# Packaging policies

Every target's archive holds the same base set, its compiled model
`<name>.kmodel` and its `flash-list.json` from the example directory and the
kernel binary, and a policy adds the target's own extras: files that must
exist, and files taken when present. `PackagePolicy.plan` resolves a policy
against an example directory: the base set first, then the extras in the order
declared, each joined to the directory.
-/

namespace EdgePack

/-- The name of the flashing manifest in every example directory. -/
def flashListFile : String := "flash-list.json"

/-- What a target adds to the base archive set. -/
structure PackagePolicy where
  /-- The target's name. -/
  name : String
  /-- Extra files, relative to the example directory, that must exist. -/
  extraRequired : List String
  /-- Extra files taken when present. -/
  optional : List String
  deriving DecidableEq, Repr, Inhabited

/-- The inputs of one archive build. -/
structure ArchivePlan where
  required : List Path
  optional : List Path

namespace PackagePolicy

/-- A policy with no extras. -/
def base (name : String) : PackagePolicy := ⟨name, [], []⟩

/-- The file name of the target's compiled model. -/
def modelFile (p : PackagePolicy) : String := p.name ++ ".kmodel"

/-- The built-in policies: `mnist` needs its flash image data, `iris` nothing more. -/
def defaults : List PackagePolicy := [⟨"mnist", ["mnist_images.bin"], []⟩, base "iris"]

/-- The first policy named `name`, or the base set alone. -/
def lookup (ps : List PackagePolicy) (name : String) : PackagePolicy :=
  (ps.find? (·.name == name)).getD (base name)

/-- The policy resolved against an example directory and a kernel binary. -/
def plan (p : PackagePolicy) (exampleDir kernel : Path) : ArchivePlan :=
  { required := [exampleDir / p.modelFile, exampleDir / flashListFile, kernel] ++
      p.extraRequired.map fun f => exampleDir.join ⟨f⟩
    optional := p.optional.map fun f => exampleDir.join ⟨f⟩ }

open Serde Decoder in
/-- Reads a policy; the lists of extras default to empty. -/
def decoder : Decoder PackagePolicy :=
  record "TargetPolicy"
    [("name", check string), ("extra_required", check (seq string)), ("optional", check (seq string))]
    fun fs => do
      let name ← fs.need "name" string
      let req ← fs.getD "extra_required" (seq string) []
      let opt ← fs.getD "optional" (seq string) []
      pure ⟨name, req, opt⟩

/-- The policy as data, its fields in declaration order. -/
def toDatum (p : PackagePolicy) : Serde.Datum :=
  .map [("name", .str p.name), ("extra_required", .seq (p.extraRequired.map .str)),
    ("optional", .seq (p.optional.map .str))]

end PackagePolicy

end EdgePack
