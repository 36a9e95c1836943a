/-!
# Shell scripts

The scripts that stand in for external tools are POSIX shell scripts. A script
is a list of commands; a command is a simple command (assignments, words and
redirections), a pipeline, an and-or list, or a compound command: `if`, `for`,
`while`/`until`, `case`, a brace group or a subshell, each possibly with
redirections of its own.

A word is a sequence of parts: literal text, quoted or not, parameter
expansions and command substitutions, each marked with whether it stood
inside double quotes (which keeps its expansion from being split into
fields). The body of a command substitution and the default of a parameter
expansion are kept as source text and read when they are expanded.
-/

namespace EdgePack.Shell

/-- What a parameter expansion does when the parameter is unset or empty. -/
inductive Fallback where
  /-- Nothing: the value, or the empty string. -/
  | none
  /-- `${name:-word}` (`emptyToo`) or `${name-word}`: the word instead. -/
  | useDefault (emptyToo : Bool) (word : String)
  /-- `${name:=word}` or `${name=word}`: the word, also set as the value. -/
  | assignDefault (emptyToo : Bool) (word : String)
  /-- `${name:+word}` or `${name+word}`: the word when the value is there. -/
  | useAlternative (emptyToo : Bool) (word : String)
  /-- `${name:?word}` or `${name?word}`: a complaint when the value is not there. -/
  | complainUnset (emptyToo : Bool) (word : String)
  /-- `${name#pattern}` (`${name##pattern}`, `longest`): the value without its
      shortest (longest) prefix that the pattern matches. -/
  | trimPrefix (longest : Bool) (pattern : String)
  /-- `${name%pattern}` and `${name%%pattern}`: the same at the end. -/
  | trimSuffix (longest : Bool) (pattern : String)
  /-- `${#name}`: the length of the value. -/
  | length
  deriving Inhabited

/-- A part of a word. -/
inductive Part where
  /-- Literal text; unquoted text may hold glob characters. -/
  | text (s : String) (quoted : Bool)
  /-- A parameter: a name, a digit or one of `@ * # ? $ !`. -/
  | param (name : String) (fallback : Fallback) (quoted : Bool)
  /-- A command substitution, `$(…)` or a backquoted command, by its source. -/
  | command (source : String) (quoted : Bool)
  /-- An arithmetic expansion `$((…))`, by its source. -/
  | arith (source : String) (quoted : Bool)
  deriving Inhabited

/-- A word of the script. -/
abbrev Word := List Part

/-- Where a redirection sends a descriptor. -/
inductive Redirect where
  /-- `n>word` (`append` for `n>>word`). -/
  | write (fd : Nat) (target : Word) (append : Bool)
  /-- `n<word`. -/
  | read (fd : Nat) (source : Word)
  /-- `n>&m` or `n<&m`. -/
  | dup (fd : Nat) (target : Nat)
  /-- `n>&-`. -/
  | close (fd : Nat)
  deriving Inhabited

/-- A command. -/
inductive Command where
  /-- A simple command on line `line`: assignments, words and redirections. -/
  | simple (line : Nat) (assigns : List (String × Word)) (words : List Word) (redirects : List Redirect)
  /-- A pipeline, its status negated with `!`. -/
  | pipeline (negate : Bool) (stages : List Command)
  /-- A command followed by others joined with `&&` (true) or `||` (false). -/
  | andOr (first : Command) (rest : List (Bool × Command))
  /-- Commands run one after the other. -/
  | sequence (cmds : List Command)
  /-- `if` with its `elif` branches, conditions paired with bodies, and an `else`. -/
  | ifThen (branches : List (Command × Command)) (otherwise : Option Command)
  /-- `for name in words; do body; done`; without `in`, the positional parameters. -/
  | forIn (name : String) (items : Option (List Word)) (body : Command)
  /-- `while` (or `until`, `negate`) a condition holds. -/
  | loop (negate : Bool) (cond body : Command)
  /-- `case subject in patterns) body;; … esac`. -/
  | caseOf (subject : Word) (arms : List (List Word × Command))
  /-- A brace group. -/
  | group (body : Command)
  /-- A subshell. -/
  | subshell (body : Command)
  /-- A compound command with redirections. -/
  | redirected (body : Command) (redirects : List Redirect)
  /-- A function definition. -/
  | function (name : String) (body : Command)
  deriving Inhabited

end EdgePack.Shell
