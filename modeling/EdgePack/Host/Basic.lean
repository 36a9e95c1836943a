import EdgePack.Host.Fs

/-!
# The host

Everything outside a program that its answers can show: the file tree, the
working directory, the directory for temporary files, the environment, and
what the program has written so far — its log events and its two output
streams, in the order they happened. Operations run in `HostM`, a state monad
over `Host`; a failing file operation leaves the tree as it was.
-/

namespace EdgePack

/-- How much a log event matters, most urgent first. -/
inductive Level where
  | error
  | warn
  | info
  | debug
  | trace
  deriving DecidableEq, Repr, Inhabited

namespace Level

/-- The name of a level, in capitals. -/
def name : Level → String
  | .error => "ERROR"
  | .warn => "WARN"
  | .info => "INFO"
  | .debug => "DEBUG"
  | .trace => "TRACE"

/-- The rank of a level: 1 for errors up to 5 for traces. -/
def rank : Level → Nat
  | .error => 1
  | .warn => 2
  | .info => 3
  | .debug => 4
  | .trace => 5

end Level

/-- A log event: its level, the module that emitted it, and its message. -/
structure Event where
  level : Level
  target : String
  message : String
  deriving Inhabited

/-- The text of an event: its level and its message. -/
def Event.text (e : Event) : String := e.level.name ++ " " ++ e.message

/-- One thing a program wrote. -/
inductive Output where
  | event (e : Event)
  | stdout (text : String)
  | stderr (text : String)
  deriving Inhabited

/-- The world a program runs in, and what it has written. -/
structure Host where
  fs : FileTree := {}
  /-- The working directory, as a location. -/
  cwd : Loc := []
  /-- The directory for temporary files. -/
  tmp : Loc := ["tmp"]
  /-- The environment variables. -/
  env : List (String × String) := []
  /-- What the program wrote, in order. -/
  out : Array Output := #[]
  deriving Inhabited

/-- A computation on the host. -/
abbrev HostM := StateM Host

namespace Host

/-- The absolute text of a location. -/
def locText (l : Loc) : String := "/" ++ "/".intercalate l

/-- The working directory as a path. -/
def cwdPath : HostM Path := do pure ⟨locText (← get).cwd⟩

/-- A path made absolute against the working directory; an absolute path is
    left as it is. -/
def absolute (p : Path) : HostM Path := do
  if p.isAbsolute then pure p else pure ((← cwdPath) / p)

/-- The temporary directory as a path. -/
def tmpPath : HostM Path := do pure ⟨locText (← get).tmp⟩

/-- The value of an environment variable. -/
def getEnv (name : String) : HostM (Option String) := do
  pure (((← get).env.find? (·.1 == name)).map (·.2))

/-- Records a log event. -/
def log (level : Level) (target message : String) : HostM Unit :=
  modify fun h => { h with out := h.out.push (.event ⟨level, target, message⟩) }

/-- Writes text to standard output. -/
def print (s : String) : HostM Unit :=
  modify fun h => { h with out := h.out.push (.stdout s) }

/-- Writes a line to standard output. -/
def println (s : String) : HostM Unit := print (s ++ "\n")

/-- Writes text to standard error. -/
def eprint (s : String) : HostM Unit :=
  modify fun h => { h with out := h.out.push (.stderr s) }

/-- The log events recorded so far. -/
def events (h : Host) : List Event :=
  h.out.toList.filterMap fun o => match o with | .event e => some e | _ => none

/-- Runs a query on the file tree. -/
def query (f : FileTree → Loc → α) : HostM α := do
  let h ← get
  pure (f h.fs h.cwd)

/-- Runs an update of the file tree, keeping the tree when it fails. -/
def update (f : FileTree → Loc → Except IoError (FileTree × α)) : HostM (Except IoError α) := do
  let h ← get
  match f h.fs h.cwd with
  | .ok (t, a) => do set { h with fs := t }; pure (.ok a)
  | .error e => pure (.error e)

/-- The bytes of a regular file. -/
def readBytes (p : Path) : HostM (Except IoError ByteArray) := query fun t c => t.read c p

/-- The text of a regular file, which must be UTF-8. -/
def readText (p : Path) : HostM (Except IoError String) := do
  match ← readBytes p with
  | .ok d => pure (match String.fromUTF8? d with | some s => .ok s | none => .error .invalidUtf8)
  | .error e => pure (.error e)

/-- Writes a whole regular file. -/
def writeBytes (p : Path) (d : ByteArray) : HostM (Except IoError Unit) :=
  update fun t c => (t.write c p d).map (·, ())

/-- Creates an empty regular file where nothing stands yet. -/
def createFile (p : Path) : HostM (Except IoError Unit) :=
  update fun t c => (t.createFile c p).map (·, ())

/-- Makes a directory and its missing ancestors. -/
def createDirAll (p : Path) : HostM (Except IoError Unit) :=
  update fun t c => (t.createDirAll c p).map (·, ())

/-- Makes one directory. -/
def createDir (p : Path) : HostM (Except IoError Unit) :=
  update fun t c => (t.createDir c p).map (·, ())

/-- The names in a directory. -/
def listDir (p : Path) : HostM (Except IoError (List String)) := query fun t c => t.list c p

/-- Removes a regular file. -/
def removeFile (p : Path) : HostM (Except IoError Unit) :=
  update fun t c => (t.removeFile c p).map (·, ())

/-- Removes a directory with everything in it. -/
def removeAll (p : Path) : HostM (Except IoError Unit) :=
  update fun t c => (t.removeAll c p).map (·, ())

/-- Moves a regular file. -/
def rename (src dst : Path) : HostM (Except IoError Unit) :=
  update fun t c => (t.rename c src dst).map (·, ())

/-- Copies a regular file, giving the bytes copied. -/
def copyFile (src dst : Path) : HostM (Except IoError Nat) :=
  update fun t c => t.copy c src dst

/-- Whether the path names a regular file. -/
def isFile (p : Path) : HostM Bool := query fun t c => t.isFileAt c p

/-- Whether the path names a directory. -/
def isDir (p : Path) : HostM Bool := query fun t c => t.isDirAt c p

/-- Whether anything stands at the path. -/
def exists_ (p : Path) : HostM Bool := query fun t c => t.existsAt c p

/-- A fresh name `pre ++ suffix-of-six ++ post` in the directory `dir`: the six
    characters are `XXXXXX` unless that name is taken. -/
def freshName (dir : Path) (pre post : String) : HostM Path := do
  let candidates := ("XXXXXX" :: (List.range 100).map fun i => s!"XXXX{i / 10}{i % 10}")
  let rec pick : List String → HostM Path
    | [] => pure (dir / (pre ++ "XXXXXX" ++ post))
    | s :: rest => do
      let p := dir / (pre ++ s ++ post)
      if ← exists_ p then pick rest else pure p
  pick candidates

end Host

end EdgePack
