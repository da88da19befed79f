import ScopedCheck.Script.Tool.Regex

namespace ScopedCheck.Script.Regex.Lookaround

/-- What is read, and how it is meant from here on. -/
structure Source where
  rest : List Char
  groups : Nat := 0
  names : List (List Char × Nat) := []
  /-- The groups that are referred to. -/
  wanted : List Nat := []
  anyCase : Bool := false
  lines : Bool := false
  allDots : Bool := false
  spaced : Bool := false

abbrev Reading := StateT Source (Except String)

def accept (text : String) : Reading Bool := do
  let s ← get
  if text.toList.isPrefixOf s.rest then
    set { s with rest := s.rest.drop text.length }
    return true
  else return false

def literal (c : Char) : Reading Regex := do
  return Regex.literal { anyCase := (← get).anyCase, allLetters := true } c

def isWord (c : Char) : Bool := Octets.isNameChar c

/-- The characters that a letter after a backslash stands for. -/
def kindOf? (c : Char) : Option (Char → Bool) :=
  match c with
  | 'd' => some Char.isDigit
  | 'D' => some fun d => !d.isDigit && !Octets.isDamaged d
  | 'w' => some isWord
  | 'W' => some fun d => !isWord d && !Octets.isDamaged d
  | 's' => some Octets.isSpace
  | 'S' => some fun d => !Octets.isSpace d && !Octets.isDamaged d
  | 'h' => some fun d => d = ' ' || d = '\t'
  | 'H' => some fun d => d ≠ ' ' && d ≠ '\t' && !Octets.isDamaged d
  | 'v' => some fun d => '\n' ≤ d && d ≤ '\r'
  | 'V' => some fun d => !('\n' ≤ d && d ≤ '\r') && !Octets.isDamaged d
  | 'N' => some fun d => d ≠ '\n' && !Octets.isDamaged d
  | _ => none

/-- The characters of a general category. -/
def category? (name : List Char) : Option (Char → Bool) :=
  match String.ofList name with
  | "L" | "L&" => some Letters.isLetter
  | "Lu" => some Letters.isUpper
  | "Ll" => some Letters.isLower
  | "N" | "Nd" => some Char.isDigit
  | "P" => some fun c => c.toNat < 128 && ((Pattern.classes.lookup "punct").any fun test => test c) &&
      !"$+<=>^\x60|~".toList.contains c
  | "S" => some fun c => "$+<=>^\x60|~".toList.contains c
  | "Z" | "Zs" => some fun c => c = ' ' || c.toNat = 0xA0
  | "Any" => some fun c => !Octets.isDamaged c
  | _ => none

/-- The category that is named after `\p`. -/
def readCategory (negated : Bool) : Reading (Char → Bool) := do
  let s ← get
  let (name, rest) := match s.rest with
    | '\x7b' :: rest =>
      let name := rest.takeWhile (· ≠ '\x7d')
      (name, rest.drop (name.length + 1))
    | c :: rest => ([c], rest)
    | [] => ([], [])
  set { s with rest := rest }
  let inverse := name.head? = some '^'
  match category? (if inverse then name.tail else name) with
  | some test => return fun c => test c != (negated != inverse) && !Octets.isDamaged c
  | none => throw "unknown property after \\P or \\p"

/-- A number in digits of a base, as many as are allowed. -/
def readNumber (base most : Nat) : Reading (Option Nat) := do
  let s ← get
  let digits := (s.rest.take most).takeWhile (Octets.isDigitOf base)
  set { s with rest := s.rest.drop digits.length }
  return if digits = [] then none else some (Octets.natOf base digits)

/-- The character that an escape stands for, if it is no reference. -/
def readCharacter (c : Char) : Reading (Option Char) := do
  match c with
  | 'n' => return some '\n'
  | 't' => return some '\t'
  | 'r' => return some '\r'
  | 'f' => return some '\x0c'
  | 'e' => return some '\x1b'
  | 'a' => return some '\x07'
  | '0' => return some (Char.ofNat ((← readNumber 8 2).getD 0))
  | 'x' =>
    if ← accept "\x7b" then
      let n ← readNumber 16 6
      let _ ← accept "\x7d"
      return some (Char.ofNat (n.getD 0))
    else return some (Char.ofNat ((← readNumber 16 2).getD 0))
  | 'c' =>
    match (← get).rest with
    | d :: rest =>
      modify fun s => { s with rest := rest }
      return some (Char.ofNat (Nat.xor d.toUpper.toNat 64))
    | [] => throw "\\c at end of pattern"
  | _ =>
    if c.isAlphanum then return none else return some c

/-- A member of a set. -/
def readMember : Reading Regex.Member := do
  match (← get).rest with
  | [] => throw "missing terminating ] for character class"
  | '[' :: ':' :: rest =>
    let name := rest.takeWhile fun c => c.isAlpha || c = '^'
    if ":]".toList.isPrefixOf (rest.drop name.length) then
      modify fun s => { s with rest := rest.drop (name.length + 2) }
      let inverse := name.head? = some '^'
      match Pattern.classes.lookup (String.ofList (if inverse then name.tail else name)) with
      | some test => return .test fun c => test c != inverse && !Octets.isDamaged c
      | none =>
        if name = "word".toList then return .test isWord else throw "unknown POSIX class name"
    else
      modify fun s => { s with rest := ':' :: rest }
      return .char '['
  | '\\' :: c :: rest =>
    modify fun s => { s with rest := rest }
    match kindOf? c with
    | some test => return .test test
    | none =>
      if c = 'p' || c = 'P' then return .test (← readCategory (c = 'P'))
      else if c = 'b' then return .char '\x08'
      else if c.isDigit then
        modify fun s => { s with rest := c :: rest }
        return .char (Char.ofNat ((← readNumber 8 3).getD 0))
      else match ← readCharacter c with
        | some d => return .char d
        | none => throw "unrecognized character follows \\"
  | c :: rest =>
    modify fun s => { s with rest := rest }
    return .char c

/-- The tests of the members up to the closing bracket. -/
def readMembers : (steps : Nat) → (first : Bool) → Reading (List (Char → Bool))
  | 0, _ => return []
  | steps + 1, first => do
    let closes ← if first then pure false else accept "]"
    if closes then return []
    match ← readMember with
    | .test test => return test :: (← readMembers steps false)
    | .char low =>
      let rest := (← get).rest
      if rest.head? = some '-' && rest.length > 1 && (rest.drop 1).head? ≠ some ']' then
        modify fun s => { s with rest := rest.tail }
        match ← readMember with
        | .char high =>
          if high < low then throw "range out of order in character class"
          return (fun d => decide (low ≤ d) && decide (d ≤ high)) :: (← readMembers steps false)
        | .test test =>
          return (fun d => d = low || d = '-' || test d) :: (← readMembers steps false)
      else return (fun d => d = low) :: (← readMembers steps false)

def readSet : Reading Regex := do
  let negated ← accept "^"
  let s ← get
  let tests ← readMembers (s.rest.length + 1) true
  return Regex.setTest { anyCase := s.anyCase, allLetters := true } tests negated

/-- How many characters an expression takes, if that is fixed. -/
def width? : Regex → Option Nat
  | .one _ => some 1
  | .sequence first second => do return (← width? first) + (← width? second)
  | .either first second => do
    let n ← width? first
    if some n = width? second then some n else none
  | .many body least most | .few body least most =>
    if most = some least then (width? body).map (· * least) else none
  | .group _ body | .firstWay body => width? body
  | .again _ => none
  | _ => some 0

/-- The widths of the ways between which an expression chooses. -/
def widths? : Regex → Option (List Nat)
  | .either first second => do return (← widths? first) ++ (← widths? second)
  | r => (width? r).map ([·])

/-- A name up to the mark that closes it. -/
def readName (close : Char) : Reading (List Char) := do
  let s ← get
  let name := s.rest.takeWhile Octets.isNameChar
  if name = [] then throw "subpattern name expected"
  if (s.rest.drop name.length).head? ≠ some close then
    throw "syntax error in subpattern name (missing terminator?)"
  set { s with rest := s.rest.drop (name.length + 1) }
  return name

/-- A reference to a group by its number. -/
def refer (n : Nat) : Reading Regex := do
  modify fun s => { s with wanted := n :: s.wanted }
  return .again n

def referByName (name : List Char) : Reading Regex := do
  match (← get).names.lookup name with
  | some n => refer n
  | none => throw "reference to non-existent subpattern"

/-- Sets what the letters of an option say. -/
def setFlags : (on : Bool) → List Char → Reading Unit
  | _, [] => return
  | on, c :: rest => do
    match c with
    | '-' => setFlags false rest
    | 'i' => modify fun s => { s with anyCase := on }
    | 'm' => modify fun s => { s with lines := on }
    | 's' => modify fun s => { s with allDots := on }
    | 'x' => modify fun s => { s with spaced := on }
    | _ => pure ()
    if c ≠ '-' then setFlags on rest

/-- Reads the inside of a group and its end. What is said about the meaning holds up to there. -/
def readInside (inner : Reading Regex) : Reading Regex := do
  let before ← get
  let body ← inner
  if !(← accept ")") then throw "missing closing parenthesis"
  modify fun s => { s with
    anyCase := before.anyCase, lines := before.lines, allDots := before.allDots, spaced := before.spaced }
  return body

def readNumbered (inner : Reading Regex) (name : Option (List Char)) : Reading Regex := do
  let number := (← get).groups + 1
  modify fun s => { s with
    groups := number, names := (name.map fun n => (n, number)).toList ++ s.names }
  return .group number (← readInside inner)

def readBehind (inner : Reading Regex) (wanted : Bool) : Reading Regex := do
  let body ← readInside inner
  match widths? body with
  | some lengths => return .behind lengths body wanted
  | none => throw "lookbehind assertion is not fixed length"

/-- A group, after its opening parenthesis. -/
def readGroup (inner : Reading Regex) : Reading Regex := do
  if !(← accept "?") then return ← readNumbered inner none
  if ← accept ":" then readInside inner
  else if ← accept "=" then return .ahead (← readInside inner) true
  else if ← accept "!" then return .ahead (← readInside inner) false
  else if ← accept "<=" then readBehind inner true
  else if ← accept "<!" then readBehind inner false
  else if ← accept ">" then return .firstWay (← readInside inner)
  else if ← accept "#" then
    modify fun s => { s with rest := (s.rest.dropWhile (· ≠ ')')).drop 1 }
    return .empty
  else if ← accept "P=" then referByName (← readName ')')
  else if ← accept "P<" then readNumbered inner (← readName '>')
  else if ← accept "<" then readNumbered inner (← readName '>')
  else if ← accept "'" then readNumbered inner (← readName '\'')
  else
    let letters := (← get).rest.takeWhile fun c => "imsx-".toList.contains c
    let before ← get
    modify fun s => { s with rest := s.rest.drop letters.length }
    setFlags true letters
    if ← accept ")" then return .empty
    else if ← accept ":" then
      let body ← readInside inner
      modify fun s => { s with
        anyCase := before.anyCase, lines := before.lines, allDots := before.allDots
        spaced := before.spaced }
      return body
    else if (← get).rest.isEmpty then throw "missing closing parenthesis"
    else throw "unrecognized character after (? or (?-"

/-- What a character after a backslash stands for. -/
def readEscape (c : Char) : Reading Regex := do
  match kindOf? c with
  | some test => return .one test
  | none =>
    match c with
    | 'b' => return .edge true true
    | 'B' => return .smooth
    | 'A' | 'G' => return .start false
    | 'Z' | 'z' => return .finish false
    | 'K' => return .keep
    | 'R' =>
      let pair : Regex := .sequence (Regex.literal {} '\r') (Regex.literal {} '\n')
      return .either pair (.one fun d => decide ('\n' ≤ d) && decide (d ≤ '\r'))
    | 'p' | 'P' => return .one (← readCategory (c = 'P'))
    | 'Q' =>
      let s ← get
      let stop := ((List.range s.rest.length).find? fun n => "\\E".toList.isPrefixOf (s.rest.drop n)).getD
        s.rest.length
      set { s with rest := s.rest.drop (stop + 2) }
      return Regex.ofText { anyCase := s.anyCase, allLetters := true } (s.rest.take stop)
    | 'E' => return .empty
    | 'k' =>
      if ← accept "<" then referByName (← readName '>')
      else if ← accept "\x7b" then referByName (← readName '\x7d')
      else if ← accept "'" then referByName (← readName '\'')
      else throw "\\k is not followed by a braced, angle-bracketed, or quoted name"
    | 'g' =>
      let braced ← accept "\x7b"
      let back ← accept "-"
      match ← readNumber 10 5 with
      | some n =>
        if braced then let _ ← accept "\x7d"
        let groups := (← get).groups
        refer (if back then groups + 1 - n else n)
      | none =>
        if braced then referByName (← readName '\x7d')
        else throw "a numbered reference must not be zero"
    | _ =>
      if c.isDigit && c ≠ '0' then
        modify fun s => { s with rest := c :: s.rest }
        refer ((← readNumber 10 5).getD 0)
      else match ← readCharacter c with
        | some d => literal d
        | none => throw "unrecognized character follows \\"

/-- One expression without what repeats it, and whether it can be repeated. -/
def readAtom (inner : Reading Regex) : Reading (Regex × Bool) := do
  match (← get).rest with
  | [] => return (.empty, false)
  | c :: rest =>
    modify fun s => { s with rest := rest }
    match c with
    | '(' => return (← readGroup inner, true)
    | '[' => return (← readSet, true)
    | '.' =>
      let all := (← get).allDots
      return (.one fun d => (all || d ≠ '\n') && !Octets.isDamaged d, true)
    | '^' => return (.start (← get).lines, false)
    | '$' => return (.finish (← get).lines, false)
    | '\\' =>
      match rest with
      | [] => throw "\\ at end of pattern"
      | d :: rest =>
        modify fun s => { s with rest := rest }
        return (← readEscape d, true)
    | '*' | '+' | '?' => throw "quantifier does not follow a repeatable item"
    | _ => return (← literal c, true)

/-- The bounds of a repetition, if one comes next. -/
def readBounds : Reading (Option (Nat × Option Nat)) := do
  if ← accept "*" then return some (0, none)
  if ← accept "+" then return some (1, none)
  if ← accept "?" then return some (0, some 1)
  let s ← get
  match s.rest with
  | '\x7b' :: rest =>
    match Regex.bounds? { bare := true } rest with
    | some (least, most, after) =>
      if rest.head? = some ',' then return none
      if 65535 < least || most.any (65535 < ·) then throw "number too big in \x7b\x7d quantifier"
      if most.any (· < least) then throw "numbers out of order in \x7b\x7d quantifier"
      set { s with rest := after }
      return some (least, most)
    | none => return none
  | _ => return none

/-- Repeats an expression as is written after it. -/
def readRepeats (r : Regex) : Reading Regex := do
  match ← readBounds with
  | none => return r
  | some (least, most) =>
    if ← accept "?" then return .few r least most
    else if ← accept "+" then return .firstWay (.many r least most)
    else return .many r least most

/-- Passes over blanks and comments where they mean nothing. -/
def skipSpaces : (steps : Nat) → Reading Unit
  | 0 => return
  | steps + 1 => do
    let s ← get
    match s.rest with
    | c :: rest =>
      if s.spaced && Octets.isSpace c then
        set { s with rest := rest }
        skipSpaces steps
      else if s.spaced && c = '#' then
        set { s with rest := rest.dropWhile (· ≠ '\n') }
        skipSpaces steps
      else return
    | [] => return

def readSequence (inner : Reading Regex) : (steps : Nat) → Reading Regex
  | 0 => return .empty
  | steps + 1 => do
    skipSpaces (← get).rest.length
    match (← get).rest with
    | [] | '|' :: _ | ')' :: _ => return .empty
    | _ =>
      let (atom, repeats) ← readAtom inner
      let first ← if repeats then readRepeats atom else pure atom
      return .sequence first (← readSequence inner steps)

def readEither (inner : Reading Regex) : (steps : Nat) → Reading Regex
  | 0 => return .empty
  | steps + 1 => do
    let first ← readSequence inner ((← get).rest.length + 1)
    if ← accept "|" then return .either first (← readEither inner steps) else return first

def readDeep : (depth : Nat) → Reading Regex
  | 0 => throw "parentheses are too deeply nested"
  | depth + 1 => do readEither (readDeep depth) ((← get).rest.length + 1)

/-- The expression that a text is. -/
def read (anyCase lines : Bool) (text : List Char) : Except String Regex := do
  let (r, s) ← (readDeep Regex.maxDepth).run { rest := text, anyCase := anyCase, lines := lines }
  if s.rest ≠ [] then throw "unmatched closing parenthesis"
  if s.wanted.any (s.groups < ·) then throw "reference to non-existent subpattern"
  return r

end ScopedCheck.Script.Regex.Lookaround
