import ScopedCheck.Script.Octets

namespace ScopedCheck.Script

/-- What a parameter expansion does in place of a value that is missing, or of one that is there. -/
inductive Fallback where
  | substitute
  | assign
  | complain
  /-- Another text where there is a value, and nothing where there is none. -/
  | instead
  deriving DecidableEq, Repr

inductive OpenMode where
  | read
  | write
  /-- Writes even over a file that is protected against it. -/
  | clobber
  | append
  | both
  deriving DecidableEq, Repr

mutual

/-- A piece of a word. A quoted expansion stays in one field, any other is split at blanks. -/
inductive Part where
  | text (cs : Octets) (quoted : Bool)
  | parameter (name : String) (use : Use) (quoted : Bool)
  | arithmetic (expression : List Part) (quoted : Bool)
  | output (script : List Command) (quoted : Bool)

/-- What is done with the value of a parameter. -/
inductive Use where
  | value
  | length
  /-- An empty value counts as missing if `empty` says so. -/
  | fallback (kind : Fallback) (empty : Bool) (word : List Part)
  | trim (fromEnd longest : Bool) (pattern : List Part)
  /-- A substitution that means nothing. -/
  | bad

inductive Redirect where
  | file (descriptor : Nat) (mode : OpenMode) (target : List Part)
  /-- Makes a descriptor mean what another one does, or closes it. -/
  | duplicate (descriptor : Nat) (source : List Part)
  | document (descriptor : Nat) (body : List Part)

inductive Command where
  | simple (line : Nat) (assignments : List (String × List Part)) (words : List (List Part))
      (redirects : List Redirect)
  | redirected (line : Nat) (command : Command) (redirects : List Redirect)
  | subshell (line : Nat) (body : Command)
  | background (command : Command)
  | pipeline (commands : List Command)
  | sequence (first second : Command)
  | both (first second : Command)
  | either (first second : Command)
  | negate (command : Command)
  | branch (condition yes : Command) (no : Option Command)
  | loop (condition : Command) (whileTrue : Bool) (body : Command)
  /-- Runs the body once for each field of the words. -/
  | each (line : Nat) (name : String) (words : List (List Part)) (body : Command)
  | choose (line : Nat) (subject : List Part) (cases : List (List (List Part) × Option Command))
  | define (line : Nat) (name : String) (body : Command)

end

abbrev Word := List Part

instance : Inhabited Part := ⟨.text [] false⟩
instance : Inhabited Command := ⟨.simple 0 [] [] []⟩

/-- The descriptor that a redirection changes. -/
def Redirect.descriptor : Redirect → Nat
  | .file descriptor .. | .duplicate descriptor _ | .document descriptor _ => descriptor

/-- The commands whose errors end a script and whose assignments stay. -/
def Command.specials : List String :=
  [".", ":", "break", "continue", "eval", "exec", "exit", "export", "local", "readonly", "return",
   "set", "shift", "times", "trap", "unset"]

/-- The other commands that the shell carries out by itself. -/
def Command.regulars : List String :=
  ["[", "alias", "bg", "cd", "chdir", "command", "echo", "false", "fg", "getopts", "hash", "jobs",
   "kill", "printf", "pwd", "read", "test", "true", "type", "ulimit", "umask", "unalias", "wait"]

def Command.isBuiltin (name : String) : Bool :=
  specials.contains name || regulars.contains name

/-- The commands that are run one after the other. -/
def Command.steps : Command → List Command
  | .sequence first second => first :: second.steps
  | command => [command]

namespace Part

/-- The text of a piece that is neither quoted nor expanded. -/
def plain? : Part → Option Octets
  | .text cs false => some cs
  | _ => none

end Part

namespace Word

/-- The word's text, if nothing in it is quoted or expanded. -/
def plain? (w : Word) : Option Octets :=
  (w.mapM Part.plain?).map List.flatten

/-- The word's text if nothing in it is expanded, and whether any of it is quoted. -/
def literal (w : Word) : Octets × Bool :=
  w.foldr (fun part (text, quoted) => match part with
    | .text cs q => (cs ++ text, q || quoted)
    | _ => (text, quoted)) ([], false)

/-- Puts a character in front. -/
def cons (c : Char) (quoted : Bool) : Word → Word
  | .text cs q :: rest =>
    if q = quoted && cs ≠ [] then .text (c :: cs) q :: rest
    else .text [c] quoted :: .text cs q :: rest
  | rest => .text [c] quoted :: rest

end Word

end ScopedCheck.Script
