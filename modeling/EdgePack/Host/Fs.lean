import EdgePack.Host.Path

/-!
# The file tree

The files a program sees: a set of absolute locations, each holding a regular
file (its bytes) or a directory. The root directory always exists and is not
listed. A location is a list of names from the root.

Every operation resolves its path against a working directory first, as the
operating system does: each component before the last must name an existing
directory (else *No such file or directory*, or *Not a directory* when it is a
file), a `..` steps to the parent of the directory reached so far, and the
root has no parent but itself. Failures are reported with the texts and
numbers of the operating system (`IoError.message`).

* `FileTree.read`, `FileTree.write`: whole-file reads and writes, a write
  creating or truncating a regular file in an existing directory;
* `FileTree.createFile`: a new empty file, where nothing stands yet;
* `FileTree.createDir`, `FileTree.createDirAll`: one directory, or a directory
  with every missing ancestor, an existing directory being no error for the
  latter;
* `FileTree.list`: the names in a directory, in order;
* `FileTree.rename`, `FileTree.copy`, `FileTree.removeFile`,
  `FileTree.removeAll`.
-/

namespace EdgePack

/-- A failure of a file-system operation. -/
inductive IoError where
  /-- An operating-system error, by its number. -/
  | os (code : Nat)
  /-- Text that was read as UTF-8 and is not. -/
  | invalidUtf8
  /-- A copy whose source is not a regular file. -/
  | notRegularFile
  /-- Data that ended before a reader expected it to. -/
  | unexpectedEof
  /-- Any other failure, in words. -/
  | other (text : String)
  deriving DecidableEq, Repr, Inhabited

namespace IoError

/-- No such file or directory. -/
def notFound : IoError := .os 2
/-- Permission denied. -/
def permissionDenied : IoError := .os 13
/-- File exists. -/
def exists_ : IoError := .os 17
/-- Not a directory. -/
def notADirectory : IoError := .os 20
/-- Is a directory. -/
def isADirectory : IoError := .os 21
/-- Directory not empty. -/
def notEmpty : IoError := .os 39
/-- File too large. -/
def fileTooLarge : IoError := .os 27

/-- The operating system's words for an error number. -/
def osText : Nat → String
  | 1 => "Operation not permitted"
  | 2 => "No such file or directory"
  | 13 => "Permission denied"
  | 17 => "File exists"
  | 18 => "Invalid cross-device link"
  | 20 => "Not a directory"
  | 21 => "Is a directory"
  | 22 => "Invalid argument"
  | 27 => "File too large"
  | 39 => "Directory not empty"
  | n => s!"Unknown error {n}"

/-- The text of an error, as the operating system and the standard library word it. -/
def message : IoError → String
  | .os n => s!"{osText n} (os error {n})"
  | .invalidUtf8 => "stream did not contain valid UTF-8"
  | .notRegularFile => "the source path is neither a regular file nor a symlink to a regular file"
  | .unexpectedEof => "unexpected end of file"
  | .other t => t

end IoError

/-- What stands at a location. -/
inductive Entry where
  | file (data : ByteArray)
  | dir

/-- A location: the names from the root. -/
abbrev Loc := List String

/-- The files and directories, each at its location, in the order they were made. -/
structure FileTree where
  entries : List (Loc × Entry) := []

namespace FileTree

/-- What stands at a location; the root is a directory. -/
def get? (t : FileTree) (l : Loc) : Option Entry :=
  if l.isEmpty then some .dir else (t.entries.find? (·.1 == l)).map (·.2)

/-- Whether a directory stands at the location. -/
def isDir (t : FileTree) (l : Loc) : Bool :=
  match t.get? l with
  | some .dir => true
  | _ => false

/-- Whether a regular file stands at the location. -/
def isFile (t : FileTree) (l : Loc) : Bool :=
  match t.get? l with
  | some (.file _) => true
  | _ => false

/-- Puts an entry at a location, replacing what stood there. -/
def put (t : FileTree) (l : Loc) (e : Entry) : FileTree :=
  if t.entries.any (·.1 == l) then
    ⟨t.entries.map fun (l', e') => if l' == l then (l', e) else (l', e')⟩
  else ⟨t.entries ++ [(l, e)]⟩

/-- Removes the entry at a location and everything under it. -/
def erase (t : FileTree) (l : Loc) : FileTree :=
  ⟨t.entries.filter fun (l', _) => !(l.isPrefixOf l')⟩

/-- The location a path names, from the working directory `cwd`: every
    component but the last must lead through existing directories. The flag
    tells whether the path ends with a separator, asking for a directory. -/
def resolve (t : FileTree) (cwd : Loc) (p : Path) : Except IoError (Loc × Bool) := do
  let cs := p.components
  let start := if p.isAbsolute then [] else cwd
  let rec walk : List Component → Loc → Except IoError Loc
    | [], here => pure here
    | c :: rest, here =>
      -- the location reached so far must be a directory to go on from it
      let here' : Except IoError Loc :=
        match c with
        | .root => pure []
        | .current => pure here
        | .parent => pure here.dropLast
        | .name s => pure (here ++ [s])
      match c, rest with
      | .name s, [] => pure (here ++ [s])
      | _, _ => do
        let next ← here'
        if rest.isEmpty then pure next
        else
          match t.get? next with
          | some .dir => walk rest next
          | some (.file _) => throw IoError.notADirectory
          | none => throw IoError.notFound
  if p.text.isEmpty then throw IoError.notFound
  let l ← walk cs start
  -- a `..` needs the directory it leaves to exist
  pure (l, p.text.endsWith "/" && p.text.length > 1)

/-- The bytes of a regular file. -/
def read (t : FileTree) (cwd : Loc) (p : Path) : Except IoError ByteArray := do
  let (l, slash) ← t.resolve cwd p
  match t.get? l with
  | some (.file d) => if slash then throw IoError.notADirectory else pure d
  | some .dir => throw IoError.isADirectory
  | none => throw IoError.notFound

/-- Whether the path names a regular file. -/
def isFileAt (t : FileTree) (cwd : Loc) (p : Path) : Bool :=
  match t.resolve cwd p with
  | .ok (l, slash) => !slash && t.isFile l
  | .error _ => false

/-- Whether the path names a directory. -/
def isDirAt (t : FileTree) (cwd : Loc) (p : Path) : Bool :=
  match t.resolve cwd p with
  | .ok (l, _) => t.isDir l
  | .error _ => false

/-- Whether something stands at the path. -/
def existsAt (t : FileTree) (cwd : Loc) (p : Path) : Bool :=
  match t.resolve cwd p with
  | .ok (l, slash) => (t.get? l).isSome && (!slash || t.isDir l)
  | .error _ => false

/-- The parent location must be a directory for an entry to be made there. -/
def checkParent (t : FileTree) (l : Loc) : Except IoError Unit :=
  match t.get? l.dropLast with
  | some .dir => pure ()
  | some (.file _) => throw IoError.notADirectory
  | none => throw IoError.notFound

/-- Writes a whole regular file, creating or truncating it. -/
def write (t : FileTree) (cwd : Loc) (p : Path) (data : ByteArray) : Except IoError FileTree := do
  let (l, slash) ← t.resolve cwd p
  if l.isEmpty then throw IoError.isADirectory
  match t.get? l with
  | some .dir => throw IoError.isADirectory
  | some (.file _) => if slash then throw IoError.notADirectory else pure (t.put l (.file data))
  | none =>
    t.checkParent l
    if slash then throw IoError.isADirectory
    pure (t.put l (.file data))

/-- Creates an empty regular file where nothing stands yet: an existing entry
    of either kind is an error, as for an exclusive open. -/
def createFile (t : FileTree) (cwd : Loc) (p : Path) : Except IoError FileTree := do
  let (l, slash) ← t.resolve cwd p
  if l.isEmpty then throw IoError.exists_
  match t.get? l with
  | some _ => throw IoError.exists_
  | none =>
    t.checkParent l
    if slash then throw IoError.isADirectory
    pure (t.put l (.file .empty))

/-- Makes one directory. -/
def createDir (t : FileTree) (cwd : Loc) (p : Path) : Except IoError FileTree := do
  let (l, _) ← t.resolve cwd p
  if l.isEmpty then throw IoError.exists_
  match t.get? l with
  | some _ => throw IoError.exists_
  | none => t.checkParent l; pure (t.put l .dir)

/-- Makes a directory and its missing ancestors; an existing directory is no error. -/
def createDirAll (t : FileTree) (cwd : Loc) (p : Path) : Except IoError FileTree :=
  go (p.components.length + 1) p
where
  go : Nat → Path → Except IoError FileTree
    | 0, _ => throw IoError.notFound
    | fuel + 1, p =>
      if p.text.isEmpty then pure t
      else
        match t.createDir cwd p with
        | .ok t' => pure t'
        | .error e =>
          if e == IoError.notFound then
            match p.parent? with
            | some q => do
              let t' ← go fuel q
              match t'.createDir cwd p with
              | .ok t'' => pure t''
              | .error e' => if t'.isDirAt cwd p then pure t' else throw e'
            | none => throw (IoError.other "failed to create whole tree")
          else if t.isDirAt cwd p then pure t
          else throw e

/-- The names in a directory, in order. -/
def list (t : FileTree) (cwd : Loc) (p : Path) : Except IoError (List String) := do
  let (l, _) ← t.resolve cwd p
  match t.get? l with
  | some .dir =>
    let names := t.entries.filterMap fun (l', _) =>
      if l'.length == l.length + 1 && l.isPrefixOf l' then l'.getLast? else none
    pure (names.mergeSort (· ≤ ·))
  | some (.file _) => throw IoError.notADirectory
  | none => throw IoError.notFound

/-- Removes a regular file. -/
def removeFile (t : FileTree) (cwd : Loc) (p : Path) : Except IoError FileTree := do
  let (l, _) ← t.resolve cwd p
  match t.get? l with
  | some (.file _) => pure (t.erase l)
  | some .dir => throw IoError.isADirectory
  | none => throw IoError.notFound

/-- Removes a directory and everything in it, or a file. -/
def removeAll (t : FileTree) (cwd : Loc) (p : Path) : Except IoError FileTree := do
  let (l, _) ← t.resolve cwd p
  match t.get? l with
  | some _ => pure (t.erase l)
  | none => throw IoError.notFound

/-- Moves a regular file to a new path, replacing a file there. -/
def rename (t : FileTree) (cwd : Loc) (src dst : Path) : Except IoError FileTree := do
  let (ls, _) ← t.resolve cwd src
  let (ld, _) ← t.resolve cwd dst
  match t.get? ls with
  | none => throw IoError.notFound
  | some .dir => throw IoError.isADirectory
  | some (.file d) =>
    match t.get? ld with
    | some .dir => throw IoError.isADirectory
    | _ => do
      t.checkParent ld
      pure ((t.erase ls).put ld (.file d))

/-- Copies a regular file, giving the number of bytes copied. -/
def copy (t : FileTree) (cwd : Loc) (src dst : Path) : Except IoError (FileTree × Nat) := do
  let (ls, slash) ← t.resolve cwd src
  match t.get? ls with
  | none => throw IoError.notFound
  | some .dir => throw IoError.notRegularFile
  | some (.file d) =>
    if slash then throw IoError.notADirectory
    let t' ← t.write cwd dst d
    pure (t', d.size)

/-- Every entry under a location, as paths relative to it, directories ending
    with a separator, in text order. -/
def listing (t : FileTree) (l : Loc) : List String :=
  let rel := t.entries.filterMap fun (l', e) =>
    if l.isPrefixOf l' && l'.length > l.length then
      let name := "/".intercalate (l'.drop l.length)
      some (match e with | .dir => name ++ "/" | .file _ => name)
    else none
  rel.mergeSort (· ≤ ·)

end FileTree

end EdgePack
