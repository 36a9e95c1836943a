/-!
# Regular expressions

The basic and extended regular expressions of POSIX, as stream editors read
them: characters, `.`, bracket expressions, the anchors `^` and `$`, groups,
back-references, repetition by `*` (and in the extended form `+`, `?`), by
intervals `{m,n}`, and alternation. In the basic form the group, interval and
alternation marks are written with a backslash before them (`\(`, `\{`,
`\|`), and `\+`, `\?` repeat as `+` and `?` do in the extended form.

A match is found as the standard asks: of the matches that start leftmost,
the longest. `Regex.search` computes every way the expression can match from
each start, in order of preference, by recursion on the expression, every
repetition consuming at least one character.
-/

namespace EdgePack.Shell

/-- A regular expression. -/
inductive Regex where
  /-- A character. -/
  | char (c : Char)
  /-- Any character. -/
  | any
  /-- A bracket expression. -/
  | set (negate : Bool) (ranges : List (Char × Char))
  /-- The start of the text. -/
  | start
  /-- The end of the text. -/
  | finish
  /-- A numbered group of alternatives. -/
  | group (n : Nat) (branches : List (List Regex))
  /-- A group of alternatives that captures nothing. -/
  | alt (branches : List (List Regex))
  /-- Repetition from `lo` to `hi` times (no bound when none). -/
  | rep (body : Regex) (lo : Nat) (hi : Option Nat)
  /-- The text a group matched. -/
  | backref (n : Nat)
  deriving Inhabited

namespace Regex

/-- One way of matching so far: the characters consumed from the start of the
    text, the characters left, and the spans of the groups, latest first. -/
structure Hit where
  pos : Nat
  rest : List Char
  groups : List (Nat × Nat × Nat)
  deriving Inhabited

/-- The span of a group in a hit. -/
def Hit.span (h : Hit) (n : Nat) : Option (Nat × Nat) :=
  (h.groups.find? (·.1 == n)).map (·.2)

/-- Whether a character lies in one of the ranges. -/
def inRanges (c : Char) (ranges : List (Char × Char)) : Bool :=
  ranges.any fun (lo, hi) => lo ≤ c && c ≤ hi

mutual

/-- The hits after matching one element from a hit, in order of preference. -/
def step (input : List Char) (icase : Bool) (fuel : Nat) (r : Regex) (h : Hit) : List Hit :=
  match fuel with
  | 0 => []
  | fuel + 1 =>
    let same (a b : Char) := if icase then a.toLower == b.toLower else a == b
    match r, h.rest with
    | .char c, d :: rest => if same c d then [{ h with pos := h.pos + 1, rest := rest }] else []
    | .any, _ :: rest => [{ h with pos := h.pos + 1, rest := rest }]
    | .set negate ranges, d :: rest =>
      let hit := inRanges d ranges || (icase && (inRanges d.toLower ranges || inRanges d.toUpper ranges))
      if hit != negate then [{ h with pos := h.pos + 1, rest := rest }] else []
    | .start, _ => if h.pos == 0 then [h] else []
    | .finish, [] => [h]
    | .group n branches, _ =>
      (branches.flatMap fun b => sequence input icase fuel b h).map fun h' =>
        { h' with groups := (n, h.pos, h'.pos) :: h'.groups.filter (·.1 != n) }
    | .alt branches, _ => branches.flatMap fun b => sequence input icase fuel b h
    | .rep body lo hi, _ => repeated input icase fuel body lo hi (h.rest.length + 1) 0 h
    | .backref n, _ =>
      match h.span n with
      | some (a, b) =>
        let text := (input.drop a).take (b - a)
        if text.isPrefixOf h.rest || (icase && (text.map Char.toLower).isPrefixOf (h.rest.map Char.toLower)) then
          [{ h with pos := h.pos + text.length, rest := h.rest.drop text.length }]
        else []
      | none => []
    | _, _ => []
termination_by (fuel, 0)

/-- The hits after matching a sequence of elements. -/
def sequence (input : List Char) (icase : Bool) (fuel : Nat) (rs : List Regex) (h : Hit) : List Hit :=
  match rs with
  | [] => [h]
  | r :: more => (step input icase fuel r h).flatMap fun h' => sequence input icase fuel more h'
termination_by (fuel, rs.length + 1)

/-- The hits of `count` or more further repetitions, most repetitions first;
    a repetition that consumes nothing ends the run. At most `budget`
    repetitions are tried, which the length of the text bounds. -/
def repeated (input : List Char) (icase : Bool) (fuel : Nat) (body : Regex) (lo : Nat) (hi : Option Nat)
    (budget count : Nat) (h : Hit) : List Hit :=
  match budget with
  | 0 => []
  | budget + 1 =>
    let canStop := count ≥ lo
    let canGo : Bool := match hi with
      | some m => count < m
      | none => true
    let further :=
      if canGo then
        (step input icase fuel body h).flatMap fun h' =>
          if h'.pos == h.pos then
            -- an empty repetition satisfies the least count and stops
            if count + 1 ≥ lo then [h'] else repeated input icase fuel body lo hi budget lo h'
          else repeated input icase fuel body lo hi budget (count + 1) h'
      else []
    further ++ (if canStop then [h] else [])
termination_by (fuel, budget + 1)

end

/-- A match: where it starts and ends in the text, and the spans of its groups. -/
structure Found where
  start : Nat
  stop : Nat
  groups : List (Nat × Nat × Nat)

/-- An expression read from its text, with the length of the text, which
    bounds how deeply its elements nest. -/
structure Compiled where
  branches : List (List Regex)
  size : Nat
  deriving Inhabited

/-- The leftmost-longest match of an expression in a text, starting at `begin` or later. -/
def search (re : Compiled) (icase : Bool) (input : List Char) (begin : Nat) : Option Found :=
  let branches := re.branches
  let fuel := re.size + 2
  let tryAt (s : Nat) : Option Found :=
    let h : Hit := ⟨s, input.drop s, []⟩
    let hits := branches.flatMap fun b => sequence input icase fuel b h
    match hits with
    | [] => none
    | first :: rest =>
      let best := rest.foldl (fun b x => if x.pos > b.pos then x else b) first
      some ⟨s, best.pos, best.groups⟩
  ((List.range (input.length + 1 - begin)).map (· + begin)).findSome? tryAt

/-! ## Reading expressions -/

/-- The ranges of a character class by its name. -/
def classRanges : String → List (Char × Char)
  | "alpha" => [('a', 'z'), ('A', 'Z')]
  | "digit" => [('0', '9')]
  | "alnum" => [('a', 'z'), ('A', 'Z'), ('0', '9')]
  | "upper" => [('A', 'Z')]
  | "lower" => [('a', 'z')]
  | "space" => [(' ', ' '), ('\t', '\r')]
  | "blank" => [(' ', ' '), ('\t', '\t')]
  | "xdigit" => [('0', '9'), ('a', 'f'), ('A', 'F')]
  | "punct" => [('!', '/'), (':', '@'), ('[', '\x60'), ('\x7b', '~')]
  | "print" => [(' ', '~')]
  | "graph" => [('!', '~')]
  | "cntrl" => [('\x00', '\x1f'), ('\x7f', '\x7f')]
  | _ => []

/-- The items of a bracket expression after its `[` (and `^`), up to its
    closing `]`, and the rest; none when it never closes. -/
def bracket : Nat → Bool → List (Char × Char) → List Char → Option (List (Char × Char) × List Char)
  | 0, _, _, _ => none
  | _ + 1, _, _, [] => none
  | fuel + 1, first, acc, c :: rest =>
    if c == ']' && !first then some (acc, rest)
    else if c == '[' && rest.head? == some ':' then
      let name := (rest.drop 1).takeWhile (· != ':')
      match rest.drop (1 + name.length) with
      | ':' :: ']' :: more => bracket fuel false (acc ++ classRanges (String.ofList name)) more
      | _ => bracket fuel false (acc ++ [(c, c)]) rest
    else
      match rest with
      | '-' :: d :: more =>
        if d == ']' then bracket fuel false (acc ++ [(c, c)]) rest
        else bracket fuel false (acc ++ [(c, d)]) more
      | _ => bracket fuel false (acc ++ [(c, c)]) rest

/-- The bounds of an interval `m`, `m,` or `m,n` from its text. -/
def interval (body : List Char) : Option (Nat × Option Nat) :=
  let lo := body.takeWhile Char.isDigit
  let after := body.drop lo.length
  if lo.isEmpty then none
  else
    let m := (String.ofList lo).toNat!
    match after with
    | [] => some (m, some m)
    | [','] => some (m, none)
    | ',' :: hi => if hi.all Char.isDigit && !hi.isEmpty then some (m, some (String.ofList hi).toNat!) else none
    | _ => none

/-- The state of reading an expression: the branches finished, the elements
    of the current branch (last first), and the next group number. -/
structure Reader where
  branches : List (List Regex) := []
  current : List Regex := []
  groups : Nat := 1

/-- Applies a repetition to the last element of the branch; at the start it is a character. -/
def Reader.repeat (r : Reader) (lo : Nat) (hi : Option Nat) (literal : Char) : Reader :=
  match r.current with
  | last :: before =>
    match last with
    | .start => { r with current := .char literal :: r.current }
    | _ => { r with current := .rep last lo hi :: before }
  | [] => { r with current := [.char literal] }

/-- Reads an expression up to its end or to the `)` that closes a group:
    the alternatives, the next group number, and the rest after the `)`. -/
def parse (extended : Bool) : Nat → Reader → List Char → Except String (List (List Regex) × Nat × List Char)
  | 0, _, _ => .error "expression too deep"
  | fuel + 1, r, cs =>
    let finish (r : Reader) := (r.branches ++ [r.current.reverse])
    let atStart := r.current.isEmpty
    match cs with
    | [] => .ok (finish r, r.groups, [])
    | c :: rest =>
      let closeGroup := if extended then c == ')' else c == '\\' && rest.head? == some ')'
      let openGroup := if extended then c == '(' else c == '\\' && rest.head? == some '('
      let bar := if extended then c == '|' else c == '\\' && rest.head? == some '|'
      let skip := if extended then rest else rest.drop 1
      if closeGroup then .ok (finish r, r.groups, skip)
      else if openGroup then do
        let n := r.groups
        let (bs, groups, after) ← parse extended fuel { groups := n + 1 } skip
        parse extended fuel { r with current := .group n bs :: r.current, groups := groups } after
      else if bar then parse extended fuel { r with branches := finish r, current := [] } skip
      else if c == '*' then
        if atStart then parse extended fuel { r with current := [.char '*'] } rest
        else parse extended fuel (r.repeat 0 none '*') rest
      else if extended && (c == '+' || c == '?') then
        parse extended fuel (r.repeat (if c == '+' then 1 else 0) (if c == '+' then none else some 1) c) rest
      else if !extended && c == '\\' && (rest.head? == some '+' || rest.head? == some '?') then
        let plus := rest.head? == some '+'
        parse extended fuel (r.repeat (if plus then 1 else 0) (if plus then none else some 1) (if plus then '+' else '?')) (rest.drop 1)
      else if (extended && c == '\x7b') || (!extended && c == '\\' && rest.head? == some '\x7b') then
        let body := if extended then rest else rest.drop 1
        let inner := body.takeWhile (· != '\x7d')
        let after := body.drop (inner.length + 1)
        let inner := if !extended && inner.getLast? == some '\\' then inner.dropLast else inner
        match interval inner with
        | some (lo, hi) => parse extended fuel (r.repeat lo hi '\x7b') after
        | none =>
          if extended then parse extended fuel { r with current := .char c :: r.current } rest
          else .error "Invalid content of \\\x7b\\\x7d"
      else if c == '^' then
        if extended || atStart then parse extended fuel { r with current := .start :: r.current } rest
        else parse extended fuel { r with current := .char c :: r.current } rest
      else if c == '$' then
        let atEnd := rest.isEmpty || (if extended then rest.head? == some ')' || rest.head? == some '|'
          else rest.take 2 == ['\\', ')'] || rest.take 2 == ['\\', '|'])
        if extended || atEnd then parse extended fuel { r with current := .finish :: r.current } rest
        else parse extended fuel { r with current := .char c :: r.current } rest
      else if c == '.' then parse extended fuel { r with current := .any :: r.current } rest
      else if c == '[' then
        let (negate, body) := match rest with
          | '^' :: more => (true, more)
          | more => (false, more)
        match bracket (body.length + 1) true [] body with
        | some (ranges, after) => parse extended fuel { r with current := .set negate ranges :: r.current } after
        | none => .error "unterminated ["
      else if c == '\\' then
        match rest with
        | d :: more =>
          if d.isDigit && d != '0' then
            parse extended fuel { r with current := .backref (d.toNat - '0'.toNat) :: r.current } more
          else
            let lit := if d == 'n' then '\n' else if d == 't' then '\t' else d
            parse extended fuel { r with current := .char lit :: r.current } more
        | [] => .error "trailing backslash (\\)"
      else parse extended fuel { r with current := .char c :: r.current } rest

/-- An expression from its text, basic or extended. -/
def compile (extended : Bool) (source : String) : Except String Compiled := do
  let (bs, _, rest) ← parse extended (source.length + 2) {} source.toList
  if rest.isEmpty then pure ⟨bs, source.length⟩ else throw "Unmatched ) or \\)"

end Regex

end EdgePack.Shell
