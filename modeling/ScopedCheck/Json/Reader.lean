import ScopedCheck.Json.Numeral
import ScopedCheck.Json.Literal

namespace ScopedCheck.Json

/-- A reader takes what is left of the text and gives a value and what is left after it, or a refusal. -/
abbrev Reader (α : Type) := List Char → Except Refusal (α × List Char)

def isBlank (c : Char) : Bool :=
  c = ' ' || c = '\n' || c = '\t' || c = '\r'

def skipBlank (cs : List Char) : List Char :=
  cs.dropWhile isBlank

/-- Reads what is left of a keyword. -/
def readKeyword (value : Value) : List Char → Reader Value
  | [], cs => .ok (value, cs)
  | _, [] => .error (.atEnd .unfinishedValue)
  | k :: ks, c :: cs =>
    if c = k then readKeyword value ks cs else .error (.onFirst .expectedIdent (c :: cs))

/-- Reads the items of an array up to its closing bracket. Each step reads at least one character,
so the length of the text bounds the steps. -/
def readItems (item : Reader Value) : (steps : Nat) → (first : Bool) → Reader (List Value)
  | 0, _, _ => .error (.atEnd .unfinishedList)
  | steps + 1, first, cs => do
    let next (cs : List Char) : Except Refusal (List Value × List Char) := do
      let (v, cs) ← item cs
      let (vs, cs) ← readItems item steps false cs
      return (v :: vs, cs)
    match skipBlank cs with
    | [] => throw (.atEnd .unfinishedList)
    | ']' :: cs => return ([], cs)
    | c :: cs =>
      if first then next (c :: cs)
      else if c = ',' then
        match skipBlank cs with
        | [] => throw (.atEnd .unfinishedValue)
        | ']' :: cs => throw (.onFirst .trailingComma (']' :: cs))
        | cs => next cs
      else throw (.onFirst .expectedListEnd (c :: cs))

/-- Reads a key, a colon and a value. -/
def readMember (item : Reader Value) : Reader (String × Value)
  | '"' :: cs => do
    let (key, cs) ← Literal.read cs
    match skipBlank cs with
    | [] => throw (.atEnd .unfinishedObject)
    | ':' :: cs =>
      let (v, cs) ← item cs
      return ((String.ofList key, v), cs)
    | cs => throw (.onFirst .expectedColon cs)
  | cs => .error (.onFirst .keyNotString cs)

/-- Reads the members of an object up to its closing brace. -/
def readMembers (item : Reader Value) :
    (steps : Nat) → (first : Bool) → Reader (List (String × Value))
  | 0, _, _ => .error (.atEnd .unfinishedObject)
  | steps + 1, first, cs => do
    let next (cs : List Char) : Except Refusal (List (String × Value) × List Char) := do
      let (m, cs) ← readMember item cs
      let (ms, cs) ← readMembers item steps false cs
      return (m :: ms, cs)
    match skipBlank cs with
    | [] => throw (.atEnd .unfinishedObject)
    | '}' :: cs => return ([], cs)
    | c :: cs =>
      if first then next (c :: cs)
      else if c = ',' then
        match skipBlank cs with
        | [] => throw (.atEnd .unfinishedValue)
        | '}' :: cs => throw (.onFirst .trailingComma ('}' :: cs))
        | cs => next cs
      else throw (.onFirst .expectedObjectEnd (c :: cs))

/-- Reads one value, whose items and members are read by `inner`; without `inner` it must not have
any brackets. -/
def readNode (inner : Option (Reader Value)) : Reader Value := fun cs =>
  match skipBlank cs with
  | [] => .error (.atEnd .unfinishedValue)
  | 'n' :: cs => readKeyword .null ['u', 'l', 'l'] cs
  | 't' :: cs => readKeyword (.bool true) ['r', 'u', 'e'] cs
  | 'f' :: cs => readKeyword (.bool false) ['a', 'l', 's', 'e'] cs
  | '"' :: cs => do
    let (s, cs) ← Literal.read cs
    return (.string (String.ofList s), cs)
  | '[' :: cs =>
    match inner with
    | none => .error (.onFirst .nestingTooDeep ('[' :: cs))
    | some item => do
      let (items, cs) ← readItems item (cs.length + 1) true cs
      return (.array items, cs)
  | '{' :: cs =>
    match inner with
    | none => .error (.onFirst .nestingTooDeep ('{' :: cs))
    | some item => do
      let (pairs, cs) ← readMembers item (cs.length + 1) true cs
      return (.object (Members.ofPairs pairs), cs)
  | c :: cs =>
    if c = '-' || c.isDigit then do
      let (n, cs) ← readNumber (c :: cs)
      return (.number n, cs)
    else .error (.onFirst .expectedValue (c :: cs))

/-- Reads one value of at most so many levels of brackets. -/
def readValue : (levels : Nat) → Reader Value
  | 0 => readNode none
  | levels + 1 => readNode (some (readValue levels))

def maxLevels : Nat := 127

/-- Reads a text that holds one value and nothing else but blanks. -/
def parse (cs : List Char) : Except Refusal Value := do
  let (v, cs) ← readValue maxLevels cs
  match skipBlank cs with
  | [] => return v
  | cs => throw (.onFirst .trailingCharacters cs)

end ScopedCheck.Json
