import EdgePack.Archive.Error
import EdgePack.Json.Writer
import EdgePack.Text.Hex

/-!
# Flash lists

A flash list tells the flashing tool which archive member goes to which flash
address, and whether the tool prefixes it with its SHA-256. It is a JSON
document `{"version": …, "files": [{"address", "bin", "sha256Prefix"}]}`; the
version defaults to the empty string and the prefix flag to false.

`FlashList.lint` checks a list against the members of an archive: first every
listed binary that is not a member, in list order, then every entry whose
address an earlier entry already took.
-/

namespace EdgePack

/-- One binary of a flash list. -/
structure FlashEntry where
  /-- The flash address the binary is written to. -/
  address : Nat
  /-- The archive member's name. -/
  bin : String
  sha256Prefix : Bool
  deriving DecidableEq, Repr

/-- A flashing manifest. -/
structure FlashList where
  version : String
  files : List FlashEntry
  deriving DecidableEq, Repr

open Json

namespace FlashEntry

/-- Reads an entry, by name or by position. -/
def read : ReadM FlashEntry :=
  readStruct "FlashListEntry" fun
    | .object => do
      let (a, b, p) ← readMembers (fun k (acc : Option Nat × Option String × Option Bool) =>
        let (a, b, p) := acc
        match k with
        | "address" => some (if a.isSome then duplicateField "address"
            else do pure (some (← memberValue readU64), b, p))
        | "bin" => some (if b.isSome then duplicateField "bin"
            else do pure (a, some (← memberValue readString), p))
        | "sha256Prefix" => some (if p.isSome then duplicateField "sha256Prefix"
            else do pure (a, b, some (← memberValue readBool)))
        | _ => none) (none, none, none)
      let some a := a | missingField "address"
      let some b := b | missingField "bin"
      pure ⟨a, b, p.getD false⟩
    | .array => do
      let some a ← nextField true readU64 | shortStruct 0 "FlashListEntry" 3
      let some b ← nextField false readString | shortStruct 1 "FlashListEntry" 3
      let p ← nextField false readBool
      pure ⟨a, b, p.getD false⟩

/-- The entry as JSON, with its fields in declaration order. -/
def toJson (e : FlashEntry) : Json :=
  .obj [("address", Json.ofNat e.address), ("bin", .str e.bin), ("sha256Prefix", .bool e.sha256Prefix)]

end FlashEntry

namespace FlashList

/-- Reads a list, by name or by position. -/
def read : ReadM FlashList :=
  readStruct "FlashList" fun
    | .object => do
      let (v, fs) ← readMembers (fun k (acc : Option String × Option (List FlashEntry)) =>
        let (v, fs) := acc
        match k with
        | "version" => some (if v.isSome then duplicateField "version"
            else do pure (some (← memberValue readString), fs))
        | "files" => some (if fs.isSome then duplicateField "files"
            else do pure (v, some (← memberValue (readSeq FlashEntry.read))))
        | _ => none) (none, none)
      let some fs := fs | missingField "files"
      pure ⟨v.getD "", fs⟩
    | .array => do
      let v ← nextField true readString
      let some fs ← nextField v.isNone (readSeq FlashEntry.read) | shortStruct 1 "FlashList" 2
      pure ⟨v.getD "", fs⟩

/-- Reads a list from its JSON text. -/
def parse (text : String) : Except ArchiveError FlashList :=
  match run read text with
  | .ok l => .ok l
  | .error e => .error (.flashList e)

/-- The names of the listed binaries, in order. -/
def bins (l : FlashList) : List String := l.files.map (·.bin)

/-- The addresses that an earlier entry already took, one per repeat, in order. -/
def repeatedAddresses : List Nat → List Nat → List Nat
  | _, [] => []
  | seen, a :: rest =>
    if seen.contains a then a :: repeatedAddresses seen rest
    else repeatedAddresses (a :: seen) rest

/-- The problems of a list against an archive's members: binaries that are not
    members, then addresses given twice. -/
def lint (l : FlashList) (members : List String) : List String :=
  (l.files.filter fun e => !members.contains e.bin).map (fun e =>
    s!"flash list references '{e.bin}' which is not in the archive") ++
  (repeatedAddresses [] (l.files.map (·.address))).map fun a =>
    "flash list maps more than one binary to address " ++ Text.hexMarkedLower a

/-- The list as JSON, with its fields in declaration order. -/
def toJson (l : FlashList) : Json :=
  .obj [("version", .str l.version), ("files", .arr (l.files.map FlashEntry.toJson))]

end FlashList

end EdgePack
