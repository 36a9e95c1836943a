/-!
# Shell patterns

The patterns of `case` arms and of file-name expansion: `*` stands for any
run of characters, `?` for one, and a bracket expression `[a-z]`, `[!0-9]`
(or `[^…]`) for one character of a set, with the classes `[:alpha:]`,
`[:digit:]` and their kin inside it. A quoted character always stands for
itself, and a `[` without its closing `]` is an ordinary character.

`Glob.accepts` decides a match by recursion on the pattern and the text
together; a star tries the shortest run first.
-/

namespace EdgePack.Shell

/-- One element of a pattern. -/
inductive Glob where
  /-- A character that stands for itself. -/
  | lit (c : Char)
  /-- `?`: any one character. -/
  | one
  /-- `*`: any run of characters. -/
  | many
  /-- A bracket expression: characters in the ranges (or not in them, when negated). -/
  | set (negate : Bool) (ranges : List (Char × Char))
  deriving Inhabited, BEq

namespace Glob

/-- The ranges of a character class by its name. -/
def classRanges : String → List (Char × Char)
  | "alpha" => [('a', 'z'), ('A', 'Z')]
  | "digit" => [('0', '9')]
  | "alnum" => [('a', 'z'), ('A', 'Z'), ('0', '9')]
  | "upper" => [('A', 'Z')]
  | "lower" => [('a', 'z')]
  | "space" => [(' ', ' '), ('\t', '\r')]
  | "blank" => [(' ', ' '), ('\t', '\t')]
  | "xdigit" => [('0', '9'), ('a', 'f'), ('A', 'F')]
  | "punct" => [('!', '/'), (':', '@'), ('[', '\x60'), ('\x7b', '~')]
  | "print" => [(' ', '~')]
  | "graph" => [('!', '~')]
  | "cntrl" => [('\x00', '\x1f'), ('\x7f', '\x7f')]
  | _ => []

/-- The items of a bracket expression up to its closing `]`, and the rest;
    none when it never closes. The first item may be a `]` of its own. -/
def bracketItems : Nat → Bool → List (Char × Char) → List (Char × Bool) →
    Option (List (Char × Char) × List (Char × Bool))
  | 0, _, _, _ => none
  | _ + 1, _, _, [] => none
  | fuel + 1, first, acc, (c, q) :: rest =>
    if c == ']' && !q && !first then some (acc.reverse, rest)
    else if c == '[' && !q && rest.head?.map (·.1) == some ':' then
      let name := (rest.drop 1).takeWhile (·.1 != ':')
      match (rest.drop (1 + name.length)) with
      | (':', _) :: (']', _) :: more =>
        bracketItems fuel false ((classRanges (String.ofList (name.map (·.1)))).reverse ++ acc) more
      | _ => bracketItems fuel false ((c, c) :: acc) rest
    else
      match rest with
      | ('-', _) :: (d, dq) :: more =>
        if d == ']' && !dq then bracketItems fuel false ((c, c) :: acc) rest
        else bracketItems fuel false ((c, d) :: acc) more
      | _ => bracketItems fuel false ((c, c) :: acc) rest

/-- The pattern a text stands for, each character marked with whether it was quoted. -/
def compile : Nat → List (Char × Bool) → List Glob
  | 0, _ => []
  | _ + 1, [] => []
  | fuel + 1, (c, q) :: rest =>
    if q then .lit c :: compile fuel rest
    else if c == '*' then .many :: compile fuel rest
    else if c == '?' then .one :: compile fuel rest
    else if c == '[' then
      let (negate, body) := match rest with
        | ('!', false) :: more => (true, more)
        | ('^', false) :: more => (true, more)
        | more => (false, more)
      match bracketItems (body.length + 1) true [] body with
      | some (ranges, more) => .set negate ranges :: compile fuel more
      | none => .lit c :: compile fuel rest
    else .lit c :: compile fuel rest

/-- The pattern of a text, each character marked with whether it was quoted. -/
def ofMarked (cs : List (Char × Bool)) : List Glob := compile (cs.length + 1) cs

/-- Whether a character lies in one of the ranges. -/
def inRanges (c : Char) (ranges : List (Char × Char)) : Bool :=
  ranges.any fun (lo, hi) => lo ≤ c && c ≤ hi

/-- Whether a pattern accepts the whole of a text. -/
def accepts : List Glob → List Char → Bool
  | [], cs => cs.isEmpty
  | .many :: ps, cs =>
    accepts ps cs ||
      match cs with
      | [] => false
      | _ :: rest => accepts (.many :: ps) rest
  | .lit c :: ps, d :: rest => c == d && accepts ps rest
  | .one :: ps, _ :: rest => accepts ps rest
  | .set negate ranges :: ps, d :: rest => (inRanges d ranges != negate) && accepts ps rest
  | _ :: _, [] => false
termination_by ps cs => ps.length + cs.length

/-- Whether a pattern holds an element that is not a plain character. -/
def isMagic (ps : List Glob) : Bool :=
  ps.any fun g => match g with
    | .lit _ => false
    | _ => true

end Glob

end EdgePack.Shell
