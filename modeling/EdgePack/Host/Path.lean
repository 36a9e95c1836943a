/-!
# Paths

A path is the text a program was given, kept as written: it is shown as it is,
and only its reading into components normalises it. The components of a path
are, in order: a root when it starts with `/`; a current-directory mark when it
starts with a lone `.`; then every non-empty piece between separators, except
the `.` pieces, with `..` read as a step to the parent.

* `Path.join`: a relative path is appended after a separator, an absolute one
  replaces the base; joining the empty path leaves a trailing separator;
* `Path.fileName?`: the last component, when it is a name;
* `Path.stem?` and `Path.extension?`: the name split at its last dot, a leading
  dot belonging to the stem;
* `Path.parent?`: the path without its last component.
-/

namespace EdgePack

/-- A path, as written. -/
structure Path where
  text : String
  deriving Inhabited, DecidableEq, Repr

instance : Coe String Path := ⟨Path.mk⟩

/-- One component of a path. -/
inductive Component where
  | root
  | current
  | parent
  | name (s : String)
  deriving DecidableEq, Repr

namespace Path

/-- Whether the path starts at the root. -/
def isAbsolute (p : Path) : Bool := p.text.startsWith "/"

/-- The pieces between separators. -/
def pieces (p : Path) : List String := (p.text.toList.splitOn '/').map String.ofList

/-- The components of a path. -/
def components (p : Path) : List Component :=
  let ps := p.pieces
  let body (xs : List String) : List Component :=
    xs.filterMap fun s => if s == "" || s == "." then none else if s == ".." then some .parent else some (.name s)
  if p.isAbsolute then .root :: body ps
  else match ps with
    | "." :: rest => .current :: body rest
    | _ => body ps

/-- `p` followed by `q`: `q` itself when it is absolute, else `q` after a
    separator (none is added when `p` is empty or already ends with one). -/
def join (p q : Path) : Path :=
  if q.isAbsolute then q
  else if p.text.isEmpty || p.text.endsWith "/" then ⟨p.text ++ q.text⟩
  else ⟨p.text ++ "/" ++ q.text⟩

instance : HDiv Path Path Path := ⟨join⟩
instance : HDiv Path String Path := ⟨fun p s => join p ⟨s⟩⟩

/-- The last component, when it is a name. -/
def fileName? (p : Path) : Option String :=
  match p.components.getLast? with
  | some (.name s) => some s
  | _ => none

/-- The last component as text, empty when it is not a name. -/
def fileName (p : Path) : String := p.fileName?.getD ""

/-- A file name split at its last dot: the part before it, unless that part is
    empty, and the part after it. -/
def splitDot (name : String) : String × Option String :=
  match (name.toList.splitOn '.').reverse with
  | after :: before@(_ :: _) =>
    let b := ['.'].intercalate before.reverse
    if b.isEmpty then (name, none) else (String.ofList b, some (String.ofList after))
  | _ => (name, none)

/-- The file name without its extension. -/
def stem? (p : Path) : Option String := p.fileName?.map fun n => (splitDot n).1

/-- The text after the last dot of the file name, if any. -/
def extension? (p : Path) : Option String := p.fileName?.bind fun n => (splitDot n).2

/-- The path without its last component, as written; `none` for a root or an
    empty path. -/
def parent? (p : Path) : Option Path :=
  let t := p.text
  -- drop trailing separators and `.` pieces that do not count as components
  let rec trimEnd : Nat → List Char → List Char
    | 0, cs => cs
    | fuel + 1, cs =>
      match cs.reverse with
      | '/' :: rest => if rest.isEmpty then cs else trimEnd fuel rest.reverse
      | '.' :: '/' :: rest => trimEnd fuel ('/' :: rest).reverse
      | _ => cs
  let cs := trimEnd (t.length + 1) t.toList
  match p.components.getLast? with
  | none | some .root => none
  | some _ =>
    -- remove the last piece and the separators before it
    let body := (cs.reverse.dropWhile (· != '/')).reverse
    if body.isEmpty then some ⟨""⟩
    else
      let stripped := (body.reverse.dropWhile (· == '/')).reverse
      if stripped.isEmpty then some ⟨"/"⟩ else some ⟨String.ofList stripped⟩

instance : ToString Path := ⟨Path.text⟩

end Path

end EdgePack
