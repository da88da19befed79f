import ScopedCheck.Script.Tool.Filters
import ScopedCheck.Script.Tool.Regex

namespace ScopedCheck.Script.Tool.Numbering

/-- Which lines get a number. -/
inductive Style where
  | all
  | filled
  | none
  | matching (r : Regex)

namespace Style

/-- The style that a text asks for; none if it asks for none, or what is wrong with its expression. -/
def ofText (text : Octets) : Except String (Option Style) :=
  match text with
  | ['a'] => .ok (some all)
  | ['t'] => .ok (some filled)
  | ['n'] => .ok (some none)
  | 'p' :: rest => (Regex.read {} (Octets.toChars rest)).map fun r => some (matching r)
  | _ => .ok Option.none

/-- Whether a line gets a number. -/
def numbers (s : Style) (line : Octets) : Bool :=
  match s with
  | all => true
  | filled => line ≠ []
  | none => false
  | matching r => r.isMatch (Octets.toChars line)

end Style

/-- A part of a page. -/
inductive Section where
  | head | body | foot

/-- How numbers are set. -/
inductive Adjustment where
  | left | right | zeros

structure Layout where
  head : Style := .none
  body : Style := .filled
  foot : Style := .none
  marks : Octets := ['\\', ':']
  step : Int := 1
  /-- How many empty lines count as one. -/
  joined : Nat := 1
  adjustment : Adjustment := .right
  separator : Octets := ['\t']
  start : Int := 1
  width : Nat := 6
  /-- Whether numbers begin anew on each page. -/
  restarts : Bool := true

namespace Layout

def style (l : Layout) : Section → Style
  | .head => l.head
  | .body => l.body
  | .foot => l.foot

/-- The part of a page that a line begins. -/
def section? (l : Layout) (line : Octets) : Option Section :=
  if l.marks = [] then none
  else if line = l.marks ++ l.marks ++ l.marks then some .head
  else if line = l.marks ++ l.marks then some .body
  else if line = l.marks then some .foot
  else none

def numbered (l : Layout) (n : Int) : Octets :=
  let text := Octets.ofInt n
  match l.adjustment with
  | .left => text ++ List.replicate (l.width - text.length) ' '
  | .right => padLeft l.width text
  | .zeros =>
    let digits := Octets.ofNat n.natAbs
    let sign := if n < 0 then ['-'] else []
    sign ++ List.replicate (l.width - sign.length - digits.length) '0' ++ digits

end Layout

structure State where
  current : Section := .body
  next : Int
  /-- How many empty lines came one after the other. -/
  blanks : Nat := 0

/-- The lines as they are written. -/
def write (l : Layout) : State → List Octets → List Octets
  | _, [] => []
  | s, line :: rest =>
    match l.section? line with
    | some part =>
      [] :: write l { s with current := part, next := if l.restarts then l.start else s.next } rest
    | none =>
      let style := l.style s.current
      let isAll := match style with
        | .all => true
        | _ => false
      let waits : Bool := isAll && 1 < l.joined && line = [] && s.blanks + 1 < l.joined
      let blanks := if isAll && line = [] then (if waits then s.blanks + 1 else 0)
        else if isAll then 0 else s.blanks
      if style.numbers line && !waits then
        (l.numbered s.next ++ l.separator ++ line) ::
          write l { s with next := s.next + l.step, blanks := blanks } rest
      else
        (List.replicate (l.width + l.separator.length) ' ' ++ line) ::
          write l { s with blanks := blanks } rest

/-- Reads one option into a layout, or tells what is wrong, and whether help is offered. -/
def readOption (l : Layout) (letter : Char) (value : Octets) : Except (String × Bool) Layout := do
  let style (name : String) : Except (String × Bool) Style :=
    match Style.ofText value with
    | .ok (some s) => .ok s
    | .ok none => .error ("invalid " ++ name ++ " numbering style: " ++ cited value, true)
    | .error message => .error (message, false)
  let number (name : String) : Except (String × Bool) Int :=
    match Octets.int? false value with
    | some n => .ok n
    | none => .error ("invalid " ++ name ++ ": " ++ cited value, false)
  let positive (name : String) : Except (String × Bool) Nat := do
    let n ← number name
    if n < 1 then throw ("invalid " ++ name ++ ": " ++ cited value ++ ": Numerical result out of range", false)
    return n.toNat
  match letter with
  | 'h' => return { l with head := ← style "header" }
  | 'b' => return { l with body := ← style "body" }
  | 'f' => return { l with foot := ← style "footer" }
  | 'v' => return { l with start := ← number "starting line number" }
  | 'i' => return { l with step := ← number "line number increment" }
  | 'l' => return { l with joined := ← positive "line number of blank lines" }
  | 'w' => return { l with width := ← positive "line number field width" }
  | 'p' => return { l with restarts := false }
  | 's' => return { l with separator := value }
  | 'd' => return { l with marks := match value with
      | [c] => [c, ':']
      | text => text }
  | 'n' =>
    if value = "ln".toList then return { l with adjustment := .left }
    else if value = "rn".toList then return { l with adjustment := .right }
    else if value = "rz".toList then return { l with adjustment := .zeros }
    else throw ("invalid line numbering format: " ++ cited value, true)
  | _ => return l

def run (arguments : List Octets) : Tool Unit :=
  withOptions
    { letters := "p", valued := "bwsvinhfdl"
      long := [("body-numbering", 'b'), ("section-delimiter", 'd'), ("footer-numbering", 'f'),
        ("header-numbering", 'h'), ("line-increment", 'i'), ("join-blank-lines", 'l'),
        ("number-format", 'n'), ("no-renumber", 'p'), ("number-separator", 's'),
        ("starting-line-number", 'v'), ("number-width", 'w')] }
    1 arguments fun o => do
      let read := o.given.foldl (fun (l : Except (String × Bool) Layout) (letter, value) =>
        l.bind fun l => readOption l letter value) (.ok {})
      match read with
      | .error (message, true) => misuse 1 message
      | .error (message, false) => complain message
      | .ok l =>
        let found := (← contents 1 o.operands).map fun (_, content) =>
          (Octets.lines content).map Octets.chomp
        for line in write l { next := l.start } found.flatten do printLine line

end ScopedCheck.Script.Tool.Numbering
