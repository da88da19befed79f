import ScopedCheck.Script.Tool.Basic
import ScopedCheck.Script.Tool.Regex

namespace ScopedCheck.Script.Tool.Expr

inductive Fault where
  | missing
  | unclosed
  | notClosing (found : Octets)
  | stray (found : Octets)
  | closing
  | notNumber
  | divisionByZero
  | pattern (message : String)

/-- The wording of a fault; `last` is the last argument of all. -/
def Fault.message (last : Octets) : Fault → String
  | missing => "syntax error: missing argument after " ++ cited last
  | unclosed => "syntax error: expecting ')' after " ++ cited last
  | notClosing found => "syntax error: expecting ')' instead of " ++ cited found
  | stray found => "syntax error: unexpected argument " ++ cited found
  | closing => "syntax error: unexpected ')'"
  | notNumber => "non-integer argument"
  | divisionByZero => "division by zero"
  | pattern message => message

abbrev Reading := StateT (List Octets) (Except Fault)

/-- The next argument, taken away if it is one of the symbols. -/
def accept (symbols : List String) : Reading (Option String) := do
  match ← get with
  | a :: rest =>
    let text := String.ofList a
    if symbols.contains text then
      set rest
      return some text
    else return none
  | [] => return none

/-- The number that a text of digits is, perhaps with a minus before them. -/
def number? (text : Octets) : Option Int :=
  let negative := text.head? = some '-'
  let digits := if negative then text.tail else text
  if digits = [] || !digits.all Char.isDigit then none
  else
    let n : Int := Octets.natOf 10 digits
    some (if negative then -n else n)

def number (text : Octets) : Except Fault Int :=
  match number? text with
  | some n => .ok n
  | none => .error .notNumber

/-- The part of a text that an expression matches at its front: its first group, or else how many
characters there are. -/
def matchFront (text pattern : Octets) : Except Fault Octets := do
  let r ← (Regex.read {} (Octets.toChars pattern)).mapError Fault.pattern
  let all := Octets.toChars text
  let found := (r.matchAt { passed := [], rest := all }).map fun q =>
    (q.place, q.groups.lookup 1)
  let grouped : Bool := decide (0 < r.groupCount)
  match found with
  | some (n, group) => return if grouped then Octets.ofChars (group.getD []) else Octets.ofNat n
  | none => return if grouped then [] else ['0']

def truth (b : Bool) : Octets := if b then ['1'] else ['0']

/-- Whether a value counts as false: the empty text and zero do. -/
def isNull (text : Octets) : Bool :=
  text = [] || number? text = some 0

def operate (operator : String) (a b : Octets) : Except Fault Octets := do
  let order := match number? a, number? b with
    | some x, some y => compare x y
    | _, _ => compare a b
  match operator with
  | ":" => matchFront a b
  | "*" => return Octets.ofInt ((← number a) * (← number b))
  | "/" | "%" =>
    let (x, y) := (← number a, ← number b)
    if y = 0 then throw .divisionByZero
    else return Octets.ofInt (if operator = "/" then x.tdiv y else x.tmod y)
  | "+" => return Octets.ofInt ((← number a) + (← number b))
  | "-" => return Octets.ofInt ((← number a) - (← number b))
  | "<" => return truth (order = .lt)
  | "<=" => return truth (order ≠ .gt)
  | "=" | "==" => return truth (order = .eq)
  | "!=" => return truth (order ≠ .eq)
  | ">=" => return truth (order ≠ .lt)
  | ">" => return truth (order = .gt)
  | "&" => return if isNull a || isNull b then ['0'] else a
  | _ => return if isNull a then (if isNull b then ['0'] else b) else a

/-- The binary operators, the loosest first. -/
def levels : List (List String) :=
  [["|"], ["&"], ["<", "<=", "=", "==", "!=", ">=", ">"], ["+", "-"], ["*", "/", "%"], [":"]]

/-- A single value, or a whole expression in parentheses. -/
def readValue (inner : Reading Octets) : Reading Octets := do
  match ← get with
  | [] => throw .missing
  | a :: rest =>
    set rest
    if a = ['('] then
      let result ← inner
      match ← get with
      | [] => throw .unclosed
      | b :: rest =>
        set rest
        if b = [')'] then return result else throw (.notClosing b)
    else if a = [')'] then throw .closing
    else return a

/-- A value, or a function with its operands. -/
def readOperand (live : Bool) (inner : Reading Octets) : (steps : Nat) → Reading Octets
  | 0 => throw .missing
  | steps + 1 => do
    let operand := readOperand live inner steps
    match ← accept ["+", "length", "match", "index", "substr"] with
    | none => readValue inner
    | some "+" =>
      match ← get with
      | [] => throw .missing
      | a :: rest =>
        set rest
        return a
    | some "length" => return Octets.ofNat (Octets.toChars (← operand)).length
    | some "match" =>
      let text ← operand
      let pattern ← operand
      if live then matchFront text pattern else return []
    | some "index" =>
      let text := Octets.toChars (← operand)
      let members := Octets.toChars (← operand)
      return Octets.ofNat (((text.findIdx? members.contains).map (· + 1)).getD 0)
    | some _ =>
      let text := Octets.toChars (← operand)
      let first ← operand
      let count ← operand
      match number? first, number? count with
      | some n, some k =>
        return if n < 1 || k < 1 then []
          else Octets.ofChars ((text.drop (n.toNat - 1)).take k.toNat)
      | _, _ => return []

/-- Goes on while operators of one level follow. What is not needed for the value is read, but its
operators are not applied. -/
def joinLevel (live : Bool) (operators : List String) (operand : Bool → Reading Octets) :
    (steps : Nat) → Octets → Reading Octets
  | 0, left => return left
  | steps + 1, left => do
    match ← accept operators with
    | none => return left
    | some o =>
      let settled := (o = "|" && !isNull left) || (o = "&" && isNull left)
      let right ← operand (live && !settled)
      let result ← if live then operate o left right else pure []
      joinLevel live operators operand steps result

def readLevel (inner : Bool → Reading Octets) (steps : Nat) :
    List (List String) → (live : Bool) → Reading Octets
  | [], live => readOperand live (inner live) steps
  | operators :: tighter, live => do
    let first ← readLevel inner steps tighter live
    joinLevel live operators (readLevel inner steps tighter) steps first

def readAny : (depth : Nat) → (live : Bool) → Reading Octets
  | 0, _ => throw .missing
  | depth + 1, live => readLevel (readAny depth) (depth + 1) levels live

def run (arguments : List Octets) : Tool Unit := do
  let fail (fault : Fault) : Tool Unit :=
    complainWith 2 (fault.message (arguments.getLast?.getD []))
  if arguments = [] then misuse 2 "missing operand"
  else match (readAny (arguments.length + 1) true).run arguments with
    | .error fault => fail fault
    | .ok (result, []) =>
      printLine result
      if isNull result then setStatus 1
    | .ok (_, a :: _) => fail (.stray a)

end ScopedCheck.Script.Tool.Expr
