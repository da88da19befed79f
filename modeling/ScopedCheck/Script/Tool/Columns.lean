import ScopedCheck.Script.Tool.Filters

namespace ScopedCheck.Script.Tool

/-- Joins texts with delimiters that are used in turn. -/
def joinInTurn (delimiters : List Octets) : (turn : Nat) → List Octets → Octets
  | _, [] => []
  | _, [text] => text
  | turn, text :: rest =>
    text ++ delimiters.getD (turn % delimiters.length) [] ++ joinInTurn delimiters (turn + 1) rest

/-- The first line of each column, as long as any has one. -/
def rows : (steps : Nat) → List (List Octets) → List (List Octets)
  | 0, _ => []
  | steps + 1, columns =>
    if columns.all List.isEmpty then []
    else columns.map (·.headD []) :: rows steps (columns.map List.tail)

/-- Deals the lines of the input out to the columns that ask for it. -/
def deal (lines : List Octets) (askers : Nat) (turn : Nat) : List Octets :=
  lines.zipIdx.filterMap fun (line, n) => if n % askers = turn then some line else none

/-- The delimiters that a text lists; some are written by escapes, and one may be empty. -/
def delimitersOf : Octets → List Octets
  | [] => []
  | '\\' :: c :: rest =>
    let named : List (Char × Octets) :=
      [('n', ['\n']), ('t', ['\t']), ('\\', ['\\']), ('0', []), ('b', ['\x08']), ('f', ['\x0c']),
       ('r', ['\r']), ('v', ['\x0b'])]
    (named.lookup c).getD [c] :: delimitersOf rest
  | c :: rest => [c] :: delimitersOf rest

def paste (arguments : List Octets) : Tool Unit :=
  withOptions
    { letters := "sz", valued := "d"
      long := [("delimiters", 'd'), ("serial", 's'), ("zero-terminated", 'z')] }
    1 arguments fun o => do
      let operands := if o.operands = [] then [['-']] else o.operands
      let askers := (operands.filter isInput).length
      let given ← if askers = 0 then pure [] else input
      let dealt := linesOf o given
      let delimiters := (o.value? 'd').getD ['\t']
      if delimiters.getLast? = some '\\' && (delimiters.reverse.takeWhile (· = '\\')).length % 2 = 1 then
        complain ("delimiter list ends with an unescaped backslash: " ++ Octets.text delimiters)
        return
      let mut columns := #[]
      let mut turn := 0
      for operand in operands do
        if isInput operand then
          columns := columns.push (deal dealt askers turn)
          turn := turn + 1
        else match ← read operand with
          | .ok content => columns := columns.push (linesOf o content)
          | .error cause => complain (named operand ++ ": " ++ cause.reason)
      if (← get).status ≠ 0 && !o.has 's' then return
      let read := columns.toList
      let longest := read.foldl (fun n column => max n column.length) 0
      let joined := if o.has 's' then read else rows (longest + 1) read
      for line in joined do print (joinInTurn (delimitersOf delimiters) 0 line ++ [lineEnd o])

end ScopedCheck.Script.Tool
