import ScopedCheck.Script.Tool.Regex

namespace ScopedCheck.Script.Tool.Records

def escapes : List (Char × Char) :=
  [('"', '"'), ('\\', '\\'), ('a', '\x07'), ('b', '\x08'), ('f', '\x0c'), ('n', '\n'),
   ('r', '\r'), ('t', '\t'), ('v', '\x0b')]

/-- The character that the text after a backslash stands for, and what comes after it. -/
def escaped? (text : Octets) : Option (Char × Octets) :=
  match text with
  | [] => none
  | c :: rest =>
    let octal := (text.take 3).takeWhile (Octets.isDigitOf 8)
    let hexadecimal := if c = 'x' then (rest.take 2).takeWhile (Octets.isDigitOf 16) else []
    if octal ≠ [] then some (Char.ofNat (Octets.natOf 8 octal % 256), text.drop octal.length)
    else if hexadecimal ≠ [] then
      some (Char.ofNat (Octets.natOf 16 hexadecimal), rest.drop hexadecimal.length)
    else (escapes.lookup c).map fun d => (d, rest)

/-- Replaces the escapes in a text. One that means nothing stays, and an escaped newline goes. -/
def unescaped : (steps : Nat) → Octets → Octets
  | 0, _ => []
  | _, [] => []
  | steps + 1, '\\' :: '\n' :: rest => unescaped steps rest
  | steps + 1, '\\' :: rest =>
    match escaped? rest with
    | some (c, rest) => c :: unescaped steps rest
    | none => '\\' :: unescaped steps rest
  | steps + 1, c :: rest => c :: unescaped steps rest

namespace Pattern

abbrev Reading := StateT Octets (Except String)

def literal (c : Char) : Regex := .one fun d => d = c

def badSet : String := "bad class -- [], [^] or ["

/-- A named class that a text begins with, after its bracket and colon. -/
def class? (text : Octets) : Option ((Char → Bool) × Octets) :=
  let name := text.takeWhile Char.isAlpha
  match text.drop name.length with
  | ':' :: ']' :: rest =>
    (Pattern.classes.lookup (String.ofList name)).map fun test => (fun c => c.toNat < 128 && test c, rest)
  | _ => none

/-- One character of a set. -/
def member (text : Octets) : Except String (Char × Octets) :=
  match text with
  | [] => .error badSet
  | '\\' :: rest =>
    match escaped? rest, rest with
    | some found, _ => .ok found
    | none, c :: rest => .ok (c, rest)
    | none, [] => .error badSet
  | c :: rest => .ok (c, rest)

/-- The members of a set up to its closing bracket. A range that ends before it begins is three
characters. -/
def members : (steps : Nat) → (first : Bool) → Octets → Except String (List (Char → Bool) × Octets)
  | 0, _, _ | _, _, [] => .error badSet
  | steps + 1, first, c :: rest => do
    if c = ']' && !first then return ([], rest)
    let named := match c, rest with
      | '[', ':' :: more => class? more
      | _, _ => none
    match c, rest, named with
    | _, _, some (test, rest) =>
      let (tests, rest) ← members steps false rest
      return (test :: tests, rest)
    | '[', ':' :: _, none => throw badSet
    | _, _, none =>
      let (low, rest) ← member (c :: rest)
      match rest with
      | '-' :: d :: after =>
        if d = ']' then
          let (tests, rest) ← members steps false rest
          return ((fun x => x = low) :: tests, rest)
        let (high, rest) ← member (d :: after)
        let test (x : Char) : Bool :=
          if low ≤ high then low ≤ x && x ≤ high else x = low || x = '-' || x = high
        let (tests, rest) ← members steps false rest
        return (test :: tests, rest)
      | _ =>
        let (tests, rest) ← members steps false rest
        return ((fun x => x = low) :: tests, rest)

/-- The bounds of a repetition, after its brace. What does not look like bounds stands for itself. -/
def bounds? (text : Octets) : Except String (Option (Nat × Option Nat × Octets)) := do
  let low := text.takeWhile Char.isDigit
  let least := Octets.natOf 10 low
  match text.drop low.length with
  | '\x7d' :: rest =>
    if low = [] then throw "bad interval expression"
    return some (least, some least, rest)
  | ',' :: rest =>
    let high := rest.takeWhile Char.isDigit
    match rest.drop high.length with
    | '\x7d' :: after =>
      let most := if high = [] then none else some (Octets.natOf 10 high)
      if most.any (· < least) then throw "bad interval expression"
      return some (least, most, after)
    | _ => return none
  | _ => return none

/-- Repeats an expression as is written after it. -/
def repeated : (steps : Nat) → Regex → Reading Regex
  | 0, r => return r
  | steps + 1, r => do
    match ← get with
    | '*' :: rest => set rest; repeated steps (.many r 0 none)
    | '+' :: rest => set rest; repeated steps (.many r 1 none)
    | '?' :: rest => set rest; repeated steps (.many r 0 (some 1))
    | '\x7b' :: rest =>
      match ← bounds? rest with
      | some (least, most, rest) => set rest; repeated steps (.many r least most)
      | none => return r
    | _ => return r

/-- One expression without what repeats it. -/
def atom (inner : Reading Regex) : Reading Regex := do
  match ← get with
  | [] => return .empty
  | ['('] => throw "missing ')'"
  | '(' :: rest =>
    set rest
    let body ← inner
    match ← get with
    | ')' :: rest => set rest; return body
    | _ => throw "missing ')'"
  | '.' :: rest => set rest; return .one fun _ => true
  | '$' :: rest => set rest; return .finish false
  | '^' :: rest =>
    if rest.head? = some '*' || rest.head? = some '+' then throw "syntax error ^* or ^+"
    set rest
    return .start false
  | '[' :: rest =>
    let negated := rest.head? = some '^'
    let body := if negated then rest.tail else rest
    let (tests, rest) ← members (body.length + 1) true body
    set rest
    return .one fun c => (tests.any fun test => test c) != negated
  | '\\' :: rest =>
    match escaped? rest, rest with
    | some (c, rest), _ => set rest; return literal c
    | none, '\n' :: rest => set rest; return .empty
    | none, c :: rest => set rest; return literal c
    | none, [] => set rest; return literal '\\'
  | c :: rest => set rest; return literal c

/-- Expressions one after another; there has to be one. Within a group a parenthesis ends them. -/
def sequence (inner : Reading Regex) (within : Bool) : (steps : Nat) → (first : Bool) → Reading Regex
  | 0, _ => return .empty
  | steps + 1, first => do
    let rest ← get
    let ends : Bool := rest = [] || rest.head? = some '|' || (within && rest.head? = some ')')
    let idle := "*+?".toList.any (rest.head? = some ·)
    if first && (ends || idle) then throw "missing operand"
    if ends then return .empty
    let r ← repeated (rest.length + 1) (← atom inner)
    return .sequence r (← sequence inner within steps false)

def either (inner : Reading Regex) (within : Bool) : (steps : Nat) → Reading Regex
  | 0 => return .empty
  | steps + 1 => do
    let first ← sequence inner within ((← get).length + 1) true
    match ← get with
    | '|' :: rest => set rest; return .either first (← either inner within steps)
    | _ => return first

def deep : (depth : Nat) → Reading Regex
  | 0 => throw "missing ')'"
  | depth + 1 => do either (deep depth) true ((← get).length + 1)

/-- How deep groups may lie within each other. -/
def maxDepth : Nat := 200

/-- The expression that a text is, or what is wrong with it. -/
def read (text : Octets) : Except String Regex := do
  if text.isEmpty then return .empty
  let (r, rest) ← (either (deep maxDepth) false (text.length + 1)).run text
  if rest = [] then return r else throw "missing '('"

end Pattern

end ScopedCheck.Script.Tool.Records
