import EdgePack.Shell.Syntax

/-!
# Reading shell scripts

A script is read in two passes. The first cuts the text into tokens: words
(with their quoting and expansions), operators, line ends and redirections,
each with the line it starts on; comments are dropped. The second builds
commands from the tokens, recognising reserved words (`if`, `then`, `do`,
`case`, …) only where a command may start.

Every pass runs on a budget (`fuel`) that the text's length bounds from
above; each step reads at least one character or token, so the budget never
runs out on a script that is read to its end.
-/

namespace EdgePack.Shell

/-! ## Tokens -/

/-- A token of a script. -/
inductive Token where
  /-- A word, and its text when it holds only unquoted literal characters. -/
  | word (w : Word) (plain : Option String)
  /-- An operator: `;`, `;;`, `&`, `&&`, `|`, `||`, `(`, `)`. -/
  | op (s : String)
  /-- A redirection operator (`>`, `>>`, `<`, `>&`, `<&`, `>|`, `<>`) with its descriptor. -/
  | redir (fd : Option Nat) (s : String)
  /-- A line end. -/
  | newline
  deriving Inhabited

/-- A token and the line it starts on. -/
abbrev Located := Token × Nat

/-- Characters that end an unquoted word. -/
def isDelimiter (c : Char) : Bool :=
  c == ' ' || c == '\t' || c == '\n' || c == ';' || c == '&' || c == '|' ||
  c == '<' || c == '>' || c == '(' || c == ')'

/-- A character that may start a name. -/
def isNameStart (c : Char) : Bool := c.isAlpha || c == '_'

/-- A character that may continue a name. -/
def isNameChar (c : Char) : Bool := c.isAlphanum || c == '_'

/-- Whether `s` is a name. -/
def isName (s : String) : Bool :=
  match s.toList with
  | c :: cs => isNameStart c && cs.all isNameChar
  | [] => false

/-- Characters up to the one that closes a bracket opened before them,
    nested brackets and quoted text counted, and the rest after the closing
    one; none when it never closes. -/
def balanced (opening closing : Char) : Nat → Nat → List Char → List Char → Option (List Char × List Char)
  | 0, _, _, _ => none
  | _ + 1, _, _, [] => none
  | fuel + 1, depth, acc, c :: cs =>
    if c == closing then
      if depth == 0 then some (acc.reverse, cs) else balanced opening closing fuel (depth - 1) (c :: acc) cs
    else if c == opening then balanced opening closing fuel (depth + 1) (c :: acc) cs
    else if c == '\\' then
      match cs with
      | d :: ds => balanced opening closing fuel depth (d :: c :: acc) ds
      | [] => none
    else if c == '\'' then
      let inner := cs.takeWhile (· != '\'')
      match cs.drop inner.length with
      | q :: ds => balanced opening closing fuel depth (q :: inner.reverse ++ c :: acc) ds
      | [] => none
    else balanced opening closing fuel depth (c :: acc) cs

/-- The text of a double-quoted part up to its closing quote: its parts and the
    rest. -/
def quotedParts : Nat → List Part → String → List Char → Option (List Part × List Char)
  | 0, _, _, _ => none
  | _ + 1, _, _, [] => none
  | fuel + 1, acc, buf, c :: cs =>
    let flush (acc : List Part) := if buf.isEmpty then acc else .text buf true :: acc
    if c == '"' then some ((flush acc).reverse, cs)
    else if c == '\\' then
      match cs with
      | '\n' :: ds => quotedParts fuel acc buf ds
      | d :: ds =>
        if d == '$' || d == '\x60' || d == '"' || d == '\\' then quotedParts fuel acc (buf.push d) ds
        else quotedParts fuel acc ((buf.push '\\').push d) ds
      | [] => none
    else if c == '\x60' then
      let body := cs.takeWhile (· != '\x60')
      match cs.drop body.length with
      | _ :: ds => quotedParts fuel (.command (String.ofList body) true :: flush acc) "" ds
      | [] => none
    else if c == '$' then
      match cs with
      | '(' :: '(' :: ds =>
        match balanced '(' ')' (ds.length + 1) 0 [] ds with
        | some (inner, ')' :: rest) =>
          quotedParts fuel (.arith (String.ofList inner) true :: flush acc) "" rest
        | _ => none
      | '(' :: ds =>
        match balanced '(' ')' (ds.length + 1) 0 [] ds with
        | some (inner, rest) => quotedParts fuel (.command (String.ofList inner) true :: flush acc) "" rest
        | none => none
      | '\x7b' :: ds =>
        match balanced '\x7b' '\x7d' (ds.length + 1) 0 [] ds with
        | some (inner, rest) => quotedParts fuel (braceParam inner true :: flush acc) "" rest
        | none => none
      | d :: ds =>
        if isNameStart d then
          let name := (d :: ds).takeWhile isNameChar
          quotedParts fuel (.param (String.ofList name) .none true :: flush acc) ""
            ((d :: ds).drop name.length)
        else if d.isDigit || d == '@' || d == '*' || d == '#' || d == '?' || d == '$' || d == '!' || d == '-' then
          quotedParts fuel (.param (String.singleton d) .none true :: flush acc) "" ds
        else quotedParts fuel acc (buf.push '$') (d :: ds)
      | [] => quotedParts fuel acc (buf.push '$') []
    else quotedParts fuel acc (buf.push c) cs
where
  /-- The parameter expansion between `${` and `}`. -/
  braceParam (inner : List Char) (quoted : Bool) : Part :=
    match inner with
    | '#' :: rest@(_ :: _) => .param (String.ofList rest) .length quoted
    | _ =>
      let name := match inner with
        | c :: _ =>
          if isNameStart c then inner.takeWhile isNameChar
          else if c.isDigit then inner.takeWhile Char.isDigit
          else [c]
        | [] => []
      let after := inner.drop name.length
      let fb : Fallback := match after with
        | ':' :: '-' :: w => .useDefault true (String.ofList w)
        | '-' :: w => .useDefault false (String.ofList w)
        | ':' :: '=' :: w => .assignDefault true (String.ofList w)
        | '=' :: w => .assignDefault false (String.ofList w)
        | ':' :: '+' :: w => .useAlternative true (String.ofList w)
        | '+' :: w => .useAlternative false (String.ofList w)
        | ':' :: '?' :: w => .complainUnset true (String.ofList w)
        | '?' :: w => .complainUnset false (String.ofList w)
        | '#' :: '#' :: w => .trimPrefix true (String.ofList w)
        | '#' :: w => .trimPrefix false (String.ofList w)
        | '%' :: '%' :: w => .trimSuffix true (String.ofList w)
        | '%' :: w => .trimSuffix false (String.ofList w)
        | _ => .none
      .param (String.ofList name) fb quoted

/-- Reads an unquoted word: its parts (reversed, with the pending literal text
    in `buf`) up to a delimiter, and the rest of the text with the lines it
    spans. A `loose` word has no delimiters and runs to the end of the text. -/
def wordParts (loose : Bool) : Nat → List Part → String → Nat → List Char → Option (List Part × Nat × List Char)
  | 0, _, _, _, _ => none
  | fuel + 1, acc, buf, line, cs =>
    let flush (acc : List Part) := if buf.isEmpty then acc else .text buf false :: acc
    match cs with
    | [] => some ((flush acc).reverse, line, [])
    | c :: rest =>
      if !loose && isDelimiter c then some ((flush acc).reverse, line, cs)
      else if c == '\'' then
        let inner := rest.takeWhile (· != '\'')
        match rest.drop inner.length with
        | _ :: ds =>
          wordParts loose fuel (.text (String.ofList inner) true :: flush acc) ""
            (line + inner.count '\n') ds
        | [] => none
      else if c == '"' then
        match quotedParts (rest.length + 1) [] "" rest with
        | some (ps, ds) =>
          let used := rest.length - ds.length
          let lines := (rest.take used).count '\n'
          -- an empty pair of quotes still makes a word
          let ps := if ps.isEmpty then [.text "" true] else ps
          wordParts loose fuel (ps.reverse ++ flush acc) "" (line + lines) ds
        | none => none
      else if c == '\\' then
        match rest with
        | '\n' :: ds => wordParts loose fuel acc buf (line + 1) ds
        | d :: ds => wordParts loose fuel (.text (String.singleton d) true :: flush acc) "" line ds
        | [] => some ((flush acc).reverse, line, [])
      else if c == '\x60' then
        let body := rest.takeWhile (· != '\x60')
        match rest.drop body.length with
        | _ :: ds => wordParts loose fuel (.command (String.ofList body) false :: flush acc) "" line ds
        | [] => none
      else if c == '$' then
        match rest with
        | '(' :: '(' :: ds =>
          match balanced '(' ')' (ds.length + 1) 0 [] ds with
          | some (inner, ')' :: more) =>
            wordParts loose fuel (.arith (String.ofList inner) false :: flush acc) "" line more
          | _ => none
        | '(' :: ds =>
          match balanced '(' ')' (ds.length + 1) 0 [] ds with
          | some (inner, more) =>
            wordParts loose fuel (.command (String.ofList inner) false :: flush acc) ""
              (line + inner.count '\n') more
          | none => none
        | '\x7b' :: ds =>
          match balanced '\x7b' '\x7d' (ds.length + 1) 0 [] ds with
          | some (inner, more) =>
            wordParts loose fuel (quotedParts.braceParam inner false :: flush acc) "" line more
          | none => none
        | d :: ds =>
          if isNameStart d then
            let name := (d :: ds).takeWhile isNameChar
            wordParts loose fuel (.param (String.ofList name) .none false :: flush acc) "" line
              ((d :: ds).drop name.length)
          else if d.isDigit || d == '@' || d == '*' || d == '#' || d == '?' || d == '$' || d == '!' || d == '-' then
            wordParts loose fuel (.param (String.singleton d) .none false :: flush acc) "" line ds
          else wordParts loose fuel acc (buf.push '$') line (d :: ds)
        | [] => wordParts loose fuel acc (buf.push '$') line []
      else wordParts loose fuel acc (buf.push c) line rest

/-- The text of a word made only of unquoted literal text. -/
def plainText : Word → Option String
  | [.text s false] => some s
  | _ => none

/-- The operators, longest first. -/
def operators : List String :=
  [";;", "&&", "||", ">>", ">&", "<&", ">|", "<>", ";", "&", "|", "(", ")", "<", ">"]

/-- Whether an operator redirects. -/
def isRedirOp (s : String) : Bool := s.startsWith "<" || s.startsWith ">"

/-- The tokens of a script, with their lines, or the message of a syntax error. -/
def tokenize : Nat → Nat → List Located → List Char → Except String (List Located)
  | 0, _, acc, _ => .ok acc.reverse
  | fuel + 1, line, acc, cs =>
    match cs with
    | [] => .ok acc.reverse
    | c :: rest =>
      if c == ' ' || c == '\t' then tokenize fuel line acc rest
      else if c == '\\' && rest.head? == some '\n' then tokenize fuel (line + 1) acc (rest.drop 1)
      else if c == '\n' then tokenize fuel (line + 1) ((.newline, line) :: acc) rest
      else if c == '#' then tokenize fuel line acc (rest.dropWhile (· != '\n'))
      else
        match operators.find? (fun o => o.toList.isPrefixOf cs) with
        | some o =>
          let tok : Token := if isRedirOp o then .redir none o else .op o
          tokenize fuel line ((tok, line) :: acc) (cs.drop o.length)
        | none =>
          match wordParts false (cs.length + 1) [] "" line cs with
          | none => .error "Syntax error: Unterminated quoted string"
          | some (w, line', rest') =>
            let digits := plainText w
            -- a number right before a redirection names the descriptor
            match digits, rest' with
            | some d, r :: _ =>
              if (r == '<' || r == '>') && !d.isEmpty && d.all Char.isDigit then
                match operators.find? (fun o => isRedirOp o && o.toList.isPrefixOf rest') with
                | some o =>
                  tokenize fuel line' ((.redir (some d.toNat!) o, line) :: acc) (rest'.drop o.length)
                | none => tokenize fuel line' ((.word w (plainText w), line) :: acc) rest'
              else tokenize fuel line' ((.word w (plainText w), line) :: acc) rest'
            | _, _ => tokenize fuel line' ((.word w (plainText w), line) :: acc) rest'

/-- The parts of a text read as one word, blanks and operators included, as
    the default of a parameter expansion is read; an unclosed quote leaves the
    text as it stands. -/
def looseWord (s : String) : Word :=
  match wordParts true (s.length + 1) [] "" 1 s.toList with
  | some (w, _, _) => w
  | none => [.text s false]

/-! ## Commands -/

/-- The words that end a list inside a compound command. -/
def closers : List String := ["then", "else", "elif", "fi", "do", "done", "esac", "\x7d"]

/-- Whether a token is the reserved word `w`. -/
def isReserved (w : String) : Located → Bool
  | (.word _ (some s), _) => s == w
  | _ => false

/-- Whether the tokens start with the reserved word `w`. -/
def startsWith (w : String) (ts : List Located) : Bool :=
  match ts with
  | t :: _ => isReserved w t
  | [] => false

/-- Tokens without the line ends at their front. -/
def skipNewlines (ts : List Located) : List Located :=
  ts.dropWhile fun t => match t.1 with | .newline => true | _ => false

/-- A syntax error: its words and the line it was found on, 0 for the end of the script. -/
abbrev Syntax := String × Nat

/-- The line of the token at the front, 0 at the end of the script. -/
def lineAt (ts : List Located) : Nat :=
  match ts with
  | (_, l) :: _ => l
  | [] => 0

/-- The complaint about the token at the front, or about the end of the script. -/
def unexpected (ts : List Located) : Syntax :=
  let words := match ts with
    | (.word w p, _) :: _ =>
      "Syntax error: \"" ++ (p.getD (String.join (w.map fun x => match x with
        | .text s _ => s
        | _ => "$"))) ++ "\" unexpected"
    | (.op o, _) :: _ => "Syntax error: \"" ++ o ++ "\" unexpected"
    | (.redir _ o, _) :: _ => "Syntax error: \"" ++ o ++ "\" unexpected"
    | (.newline, _) :: _ => "Syntax error: newline unexpected"
    | [] => "Syntax error: end of file unexpected"
  (words, lineAt ts)

/-- The complaint about the front token where `what` was expected. -/
def expecting (what : String) (ts : List Located) : Syntax :=
  let (words, line) := unexpected ts
  (words ++ " (expecting \"" ++ what ++ "\")", line)

/-- The tokens after the reserved word `w`, or a complaint. -/
def expectWord (w : String) (ts : List Located) : Except Syntax (List Located) :=
  match ts with
  | t :: rest => if isReserved w t then .ok rest else .error (expecting w ts)
  | [] => .error (expecting w ts)

/-- The tokens after the operator `o`, or a complaint. -/
def expectOp (o : String) (ts : List Located) : Except Syntax (List Located) :=
  match ts with
  | (.op p, _) :: rest => if p == o then .ok rest else .error (expecting o ts)
  | _ => .error (expecting o ts)

/-- Whether a word is an assignment `name=value`. -/
def assignment? (w : Word) : Option (String × Word) :=
  match w with
  | .text s false :: rest =>
    match s.splitOn "=" with
    | name :: _ :: _ =>
      if isName name then
        let value := (s.drop (name.length + 1)).toString
        some (name, (if value.isEmpty then [] else [.text value false]) ++ rest)
      else none
    | _ => none
  | _ => none

/-- Whether a token can start a command. -/
def startsCommand (ts : List Located) : Bool :=
  match ts with
  | (.word _ (some s), _) :: _ => !closers.contains s
  | (.word _ none, _) :: _ => true
  | (.redir _ _, _) :: _ => true
  | (.op "(", _) :: _ => true
  | _ => false

mutual

/-- A list of and-or lists separated by `;`, `&` or line ends, up to a token that
    cannot start a command. -/
def parseList : Nat → List Command → List Located → Except Syntax (Command × List Located)
  | 0, acc, ts => .ok (.sequence acc.reverse, ts)
  | fuel + 1, acc, ts =>
    let ts := skipNewlines ts
    if !startsCommand ts then .ok (.sequence acc.reverse, ts)
    else do
      let (c, rest) ← parseAndOr fuel ts
      match rest with
      | (.op ";", _) :: more => parseList fuel (c :: acc) more
      | (.op "&", _) :: more => parseList fuel (c :: acc) more
      | (.newline, _) :: more => parseList fuel (c :: acc) more
      | _ => .ok (.sequence (c :: acc).reverse, rest)

/-- Pipelines joined by `&&` and `||`. -/
def parseAndOr : Nat → List Located → Except Syntax (Command × List Located)
  | 0, ts => .error (unexpected ts)
  | fuel + 1, ts => do
    let (first, rest) ← parsePipeline fuel ts
    let (more, rest) ← parseAndOrRest fuel [] rest
    pure (if more.isEmpty then first else .andOr first more, rest)

/-- The `&&` and `||` parts after the first pipeline. -/
def parseAndOrRest : Nat → List (Bool × Command) → List Located → Except Syntax (List (Bool × Command) × List Located)
  | 0, acc, ts => .ok (acc.reverse, ts)
  | fuel + 1, acc, ts =>
    match ts with
    | (.op "&&", _) :: rest => do
      let (c, rest) ← parsePipeline fuel (skipNewlines rest)
      parseAndOrRest fuel ((true, c) :: acc) rest
    | (.op "||", _) :: rest => do
      let (c, rest) ← parsePipeline fuel (skipNewlines rest)
      parseAndOrRest fuel ((false, c) :: acc) rest
    | _ => .ok (acc.reverse, ts)

/-- Commands joined by `|`, possibly after `!`. -/
def parsePipeline : Nat → List Located → Except Syntax (Command × List Located)
  | 0, ts => .error (unexpected ts)
  | fuel + 1, ts => do
    let (negate, ts) := if startsWith "!" ts then (true, ts.drop 1) else (false, ts)
    let (first, rest) ← parseCommand fuel ts
    let (more, rest) ← parsePipeRest fuel [] rest
    pure (if more.isEmpty && !negate then first else .pipeline negate (first :: more), rest)

/-- The commands after each `|`. -/
def parsePipeRest : Nat → List Command → List Located → Except Syntax (List Command × List Located)
  | 0, acc, ts => .ok (acc.reverse, ts)
  | fuel + 1, acc, ts =>
    match ts with
    | (.op "|", _) :: rest => do
      let (c, rest) ← parseCommand fuel (skipNewlines rest)
      parsePipeRest fuel (c :: acc) rest
    | _ => .ok (acc.reverse, ts)

/-- A simple or compound command. -/
def parseCommand : Nat → List Located → Except Syntax (Command × List Located)
  | 0, ts => .error (unexpected ts)
  | fuel + 1, ts =>
    match ts with
    | (.word _ (some "if"), _) :: rest => do
      let (c, rest) ← parseIf fuel rest
      withRedirects fuel c rest
    | (.word _ (some "for"), _) :: rest => do
      let (c, rest) ← parseFor fuel rest
      withRedirects fuel c rest
    | (.word _ (some "while"), _) :: rest => do
      let (c, rest) ← parseLoop fuel false rest
      withRedirects fuel c rest
    | (.word _ (some "until"), _) :: rest => do
      let (c, rest) ← parseLoop fuel true rest
      withRedirects fuel c rest
    | (.word _ (some "case"), _) :: rest => do
      let (c, rest) ← parseCase fuel rest
      withRedirects fuel c rest
    | (.word _ (some "\x7b"), _) :: rest => do
      let (body, rest) ← parseList fuel [] rest
      let rest ← expectWord "\x7d" rest
      withRedirects fuel (.group body) rest
    | (.op "(", _) :: rest => do
      let (body, rest) ← parseList fuel [] rest
      let rest ← expectOp ")" rest
      withRedirects fuel (.subshell body) rest
    | (.word _ (some w), _) :: _ =>
      if closers.contains w then .error (unexpected ts) else parseNamed fuel ts
    | _ => parseSimple fuel ts

/-- A function definition or a simple command. -/
def parseNamed : Nat → List Located → Except Syntax (Command × List Located)
  | 0, ts => .error (unexpected ts)
  | fuel + 1, ts =>
    match ts with
    | (.word _ (some name), _) :: (.op "(", _) :: (.op ")", _) :: rest =>
      if isName name then do
        let (body, rest) ← parseCommand fuel (skipNewlines rest)
        pure (.function name body, rest)
      else parseSimple fuel ts
    | _ => parseSimple fuel ts

/-- The redirections after a compound command. -/
def withRedirects : Nat → Command → List Located → Except Syntax (Command × List Located)
  | 0, c, ts => .ok (c, ts)
  | fuel + 1, c, ts => do
    let (rs, rest) ← parseRedirects fuel [] ts
    pure (if rs.isEmpty then c else .redirected c rs, rest)

/-- Redirections, as many as follow. -/
def parseRedirects : Nat → List Redirect → List Located → Except Syntax (List Redirect × List Located)
  | 0, acc, ts => .ok (acc.reverse, ts)
  | fuel + 1, acc, ts =>
    match ts with
    | (.redir fd o, _) :: rest => do
      let (r, rest) ← parseRedirect fd o rest
      parseRedirects fuel (r :: acc) rest
    | _ => .ok (acc.reverse, ts)

/-- One redirection after its operator. -/
def parseRedirect (fd : Option Nat) (o : String) (ts : List Located) : Except Syntax (Redirect × List Located) :=
  match ts with
  | (.word w p, _) :: rest =>
    let dflt := if o.startsWith "<" then 0 else 1
    let n := fd.getD dflt
    if o == ">&" || o == "<&" then
      match p with
      | some "-" => .ok (.close n, rest)
      | some s => if !s.isEmpty && s.all Char.isDigit then .ok (.dup n s.toNat!, rest)
        else .ok (.write n w false, rest)
      | none => .ok (.write n w false, rest)
    else if o == ">>" then .ok (.write n w true, rest)
    else if o == "<" || o == "<>" then .ok (.read n w, rest)
    else .ok (.write n w false, rest)
  | _ => .error (unexpected ts)

/-- A simple command: assignments, words and redirections in any order. -/
def parseSimple : Nat → List Located → Except Syntax (Command × List Located)
  | 0, ts => .error (unexpected ts)
  | fuel + 1, ts =>
    let line := match ts with
      | (_, l) :: _ => l
      | [] => 0
    simpleItems fuel line [] [] [] ts

/-- The items of a simple command, gathered up to its end. -/
def simpleItems : Nat → Nat → List (String × Word) → List Word → List Redirect → List Located →
    Except Syntax (Command × List Located)
  | 0, line, assigns, words, redirs, ts => .ok (.simple line assigns.reverse words.reverse redirs.reverse, ts)
  | fuel + 1, line, assigns, words, redirs, ts =>
    match ts with
    | (.word w _, _) :: rest =>
      match (if words.isEmpty then assignment? w else none) with
      | some a => simpleItems fuel line (a :: assigns) words redirs rest
      | none => simpleItems fuel line assigns (w :: words) redirs rest
    | (.redir fd o, _) :: rest => do
      let (r, rest) ← parseRedirect fd o rest
      simpleItems fuel line assigns words (r :: redirs) rest
    | _ =>
      if assigns.isEmpty && words.isEmpty && redirs.isEmpty then .error (unexpected ts)
      else .ok (.simple line assigns.reverse words.reverse redirs.reverse, ts)

/-- The rest of an `if` command after `if`. -/
def parseIf : Nat → List Located → Except Syntax (Command × List Located)
  | 0, ts => .error (unexpected ts)
  | fuel + 1, ts => do
    let (cond, rest) ← parseList fuel [] ts
    let rest ← expectWord "then" rest
    let (body, rest) ← parseList fuel [] rest
    match rest with
    | (.word _ (some "elif"), _) :: more => do
      let (inner, rest) ← parseIf fuel more
      match inner with
      | .ifThen bs e => pure (.ifThen ((cond, body) :: bs) e, rest)
      | other => pure (.ifThen [(cond, body)] (some other), rest)
    | (.word _ (some "else"), _) :: more => do
      let (e, rest) ← parseList fuel [] more
      let rest ← expectWord "fi" rest
      pure (.ifThen [(cond, body)] (some e), rest)
    | _ => do
      let rest ← expectWord "fi" rest
      pure (.ifThen [(cond, body)] none, rest)

/-- The rest of a `for` command after `for`. -/
def parseFor : Nat → List Located → Except Syntax (Command × List Located)
  | 0, ts => .error (unexpected ts)
  | fuel + 1, ts =>
    match ts with
    | (.word _ (some name), _) :: rest => do
      let rest' := skipNewlines rest
      let (items, rest) ← if startsWith "in" rest' then do
          let (ws, r) := takeWords (rest'.drop 1)
          pure (some ws, r)
        else pure (none, rest)
      let rest := match rest with
        | (.op ";", _) :: r => r
        | r => r
      let rest ← expectWord "do" (skipNewlines rest)
      let (body, rest) ← parseList fuel [] rest
      let rest ← expectWord "done" rest
      pure (.forIn name items body, rest)
    | _ => .error (unexpected ts)

/-- The rest of a `while` or `until` loop. -/
def parseLoop : Nat → Bool → List Located → Except Syntax (Command × List Located)
  | 0, _, ts => .error (unexpected ts)
  | fuel + 1, negate, ts => do
    let (cond, rest) ← parseList fuel [] ts
    let rest ← expectWord "do" rest
    let (body, rest) ← parseList fuel [] rest
    let rest ← expectWord "done" rest
    pure (.loop negate cond body, rest)

/-- The rest of a `case` command after `case`. -/
def parseCase : Nat → List Located → Except Syntax (Command × List Located)
  | 0, ts => .error (unexpected ts)
  | fuel + 1, ts =>
    match ts with
    | (.word subject _, _) :: rest => do
      let rest ← expectWord "in" (skipNewlines rest)
      let (arms, rest) ← parseArms fuel [] rest
      pure (.caseOf subject arms, rest)
    | _ => .error (unexpected ts)

/-- The arms of a `case` command, up to `esac`. -/
def parseArms : Nat → List (List Word × Command) → List Located → Except Syntax (List (List Word × Command) × List Located)
  | 0, acc, ts => .ok (acc.reverse, ts)
  | fuel + 1, acc, ts =>
    let ts := skipNewlines ts
    if startsWith "esac" ts then .ok (acc.reverse, ts.drop 1)
    else do
      let ts := match ts with
        | (.op "(", _) :: r => r
        | r => r
      let (pats, rest) ← patterns fuel [] ts
      let (body, rest) ← parseList fuel [] rest
      match rest with
      | (.op ";;", _) :: more => parseArms fuel ((pats, body) :: acc) more
      | _ =>
        let rest := skipNewlines rest
        if startsWith "esac" rest then .ok (((pats, body) :: acc).reverse, rest.drop 1)
        else .error (unexpected rest)

/-- The patterns of a `case` arm, separated by `|` and closed by `)`. -/
def patterns : Nat → List Word → List Located → Except Syntax (List Word × List Located)
  | 0, _, ts => .error (unexpected ts)
  | fuel + 1, acc, ts =>
    match ts with
    | (.word w _, _) :: (.op "|", _) :: rest => patterns fuel (w :: acc) rest
    | (.word w _, _) :: (.op ")", _) :: rest => .ok ((w :: acc).reverse, rest)
    | _ => .error (unexpected ts)

/-- The words of a `for` list, up to a separator. -/
def takeWords (ts : List Located) : List Word × List Located :=
  let ws := ts.takeWhile fun t => match t.1 with | .word _ _ => true | _ => false
  (ws.filterMap fun t => match t.1 with | .word w _ => some w | _ => none, ts.drop ws.length)

end

/-- One line's worth of commands at the top of a script: and-or lists
    separated by `;` or `&` up to a line end. -/
def parseLine : Nat → List Command → List Located → Except Syntax (Command × List Located)
  | 0, acc, ts => .ok (.sequence acc.reverse, ts)
  | fuel + 1, acc, ts => do
    let (c, rest) ← parseAndOr fuel ts
    let done := Command.sequence (c :: acc).reverse
    match rest with
    | (.op ";", _) :: more =>
      match more with
      | [] => .ok (done, more)
      | (.newline, _) :: _ => .ok (done, more)
      | _ => parseLine fuel (c :: acc) more
    | (.op "&", _) :: more =>
      match more with
      | [] => .ok (done, more)
      | (.newline, _) :: _ => .ok (done, more)
      | _ => parseLine fuel (c :: acc) more
    | (.newline, _) :: more => .ok (done, more)
    | [] => .ok (done, [])
    | _ => .error (unexpected rest)

/-- The commands of a script as the shell reads them, one line's worth at a
    time, and the syntax error that stopped the reading, if one did, with its
    line. The commands before the error still run. -/
def parseItems (source : String) : List Command × Option (String × Nat) :=
  let cs := source.toList
  let lastLine := 1 + cs.count '\n'
  match tokenize (cs.length + 1) 1 [] cs with
  | .error e => ([], some (e, lastLine))
  | .ok ts =>
    let fuel := 8 * (ts.length + 4)
    let rec go : Nat → List Command → List Located → List Command × Option (String × Nat)
      | 0, acc, _ => (acc.reverse, none)
      | n + 1, acc, ts =>
        match skipNewlines ts with
        | [] => (acc.reverse, none)
        | ts =>
          match parseLine fuel [] ts with
          | .ok (c, rest) => go n (c :: acc) rest
          | .error (e, line) => (acc.reverse, some (e, if line == 0 then lastLine else line))
    go (ts.length + 1) [] ts

end EdgePack.Shell
