import ScopedCheck.Script.Tool.Dates
import ScopedCheck.Script.Tool.Records.State

namespace ScopedCheck.Script.Tool.Records

def newTable : Running Nat := do
  let number := (← get).tables.size
  modify fun s => { s with tables := s.tables.push {} }
  return number

/-- The number of the table that a name leads to. -/
def tableOf (name : Name) : Running Nat := do
  let s ← get
  match name with
  | .shared n =>
    match s.arrays[n]? with
    | some number => return number
    | none =>
      let number ← newTable
      modify fun s => { s with arrays := s.arrays.insert n number }
      return number
  | .own place =>
    match s.frame[place]? with
    | some (.table number) => return number
    | _ =>
      let number ← newTable
      modify fun s => { s with frame := s.frame.set! place (.table number) }
      return number

/-- Changes a table, which is taken out meanwhile so that nothing else holds it. -/
def withTable {α : Type} (number : Nat) (change : Table → α × Table) : Running α := do
  let table := ((← get).tables[number]?).getD {}
  modify fun s => { s with tables := s.tables.set! number {} }
  let (result, table) := change table
  modify fun s => { s with tables := s.tables.set! number table }
  return result

/-- Whether a name leads to a table. -/
def isTable (name : Name) : Running Bool := do
  let s ← get
  match name with
  | .shared n => return s.arrays.contains n
  | .own place => return match s.frame[place]? with
    | some (.table _) => true
    | _ => false

def valueOf (name : Name) : Running Value := do
  match name with
  | .shared n => sharedValue n
  | .own place =>
    match (← get).frame[place]? with
    | some (.value v) => return v
    | _ => return .unset

def setValueOf (name : Name) (v : Value) : Running Unit := do
  match name with
  | .shared n => setShared n v
  | .own place => modify fun s => { s with frame := s.frame.set! place (.value v) }

/-- The key that a value is. -/
def keyOf (v : Value) : Running Key := do
  match v with
  | .number x =>
    let whole := if isFinite x && Float.ofInt (wholeOf x) == x then some (wholeOf x) else none
    match whole with
    | some n => if n.natAbs < 0x8000000000000000 then return .whole n
    | none => pure ()
    return .text (← textOf v)
  | v => return .text (← textOf v)

def operate (operator : Operator) (x y : Float) : Float :=
  match operator with
  | .plus => x + y
  | .minus => x - y
  | .times => x * y
  | .divided => x / y
  | .remainder => remainder x y
  | .power => Float.pow x y

def Comparison.holds {α : Type} (c : Comparison) (less equal : α → α → Bool) (a b : α) : Bool :=
  match c with
  | .less => less a b
  | .lessOrEqual => less a b || equal a b
  | .equal => equal a b
  | .unequal => !equal a b
  | .greater => less b a
  | .greaterOrEqual => less b a || equal a b

/-- Compares two values, as numbers if both count as such. -/
def compareValues (c : Comparison) (a b : Value) : Running Bool := do
  match a.numeric?, b.numeric? with
  | some x, some y => return c.holds (fun x y => decide (x < y)) (fun x y => x == y) x y
  | _, _ =>
    let s ← textOf a
    let t ← textOf b
    return c.holds (fun s t => decide (s < t)) (fun s t => decide (s = t)) s t

/-- The part of a text from a place on, in so many characters. A place before the text counts into
the length. -/
def partOf (text : Octets) (start : Int) (length : Option Int) : Octets :=
  let length := length.map fun n => if start < 1 then n - start else n
  let rest := text.drop (start - 1).toNat
  match length with
  | none => rest
  | some n => rest.take n.toNat

/-- The place where a text is in another one, from one on. -/
def placeOf (part : Octets) : (place : Nat) → Octets → Nat
  | place, [] => if part = [] then place else 0
  | place, c :: rest => if part.isPrefixOf (c :: rest) then place else placeOf part (place + 1) rest

/-- The moment that a text such as `1970 01 02 00 00 00` names, in seconds. -/
def momentOf (text : Octets) : Int :=
  let parts := (Octets.fields text).map fun field => (Octets.int? false field).getD 0
  match parts with
  | year :: month :: day :: hour :: minute :: second :: _ =>
    let months := year * 12 + (month - 1)
    (Calendar.daysOf (months / 12) (months % 12 + 1) 1 + (day - 1)) * 86400 + hour * 3600 + minute * 60 + second
  | _ => -1

/-- The time in microseconds. -/
def currentTime : Running Int := act do
  let s ← get
  return s.world.epoch + s.world.clock

/-- A number that cannot be foreseen, from zero to one. -/
def nextChance : Running Float := do
  let n := ((← get).chance * 16807) % 2147483647
  modify fun s => { s with chance := n }
  return Float.ofNat n / 2147483647

/-- Ends all reading and writing under a name, and tells the number that comes of that. -/
def closeAll (name : Octets) : Running Float := do
  let s ← get
  let sinks := s.sinks.filter fun (key, _) => key.2 = name
  let feeds := s.feeds.filter fun (key, _) => key.2 = name
  modify fun s => { s with
    sinks := s.sinks.filter fun (key, _) => key.2 ≠ name
    feeds := s.feeds.filter fun (key, _) => key.2 ≠ name }
  let mut result : Float := -1
  for (_, sink) in sinks do result := Float.ofNat (← closeSink sink)
  for (_, feed) in feeds do
    act (letGo feed.stream)
    match feed.process with
    | some id => result := Float.ofNat (numberOf (← act (Action.awaitEnding id)))
    | none => result := 0
  return result

/-- Writes what is held back for a name, or for all. -/
def flushNamed (name? : Option Octets) : Running Float := do
  match name? with
  | none =>
    flushAll
    return 0
  | some name =>
    if name = "/dev/stdout".toList || (← get).sinks.any fun (key, _) => key.2 = name then
      flushAll
      return 0
    else return -1

/-- Runs a command, and tells the number that its end leads to. -/
def runCommand (command : Octets) : Running Float := do
  let id ← startShell "sh" command id
  return Float.ofNat (numberOf (← act (Action.awaitEnding id)))

/-- The functions whose arguments are values. -/
def builtinValue (f : String) (values : List Value) : Running Value := do
  let first := values.headD .unset
  let second := (values[1]?).getD .unset
  let x := first.toNumber
  match f with
  | "sin" => return .number x.sin
  | "cos" => return .number x.cos
  | "exp" => return .number x.exp
  | "log" => return .number x.log
  | "sqrt" => return .number x.sqrt
  | "atan2" => return .number (Float.atan2 x second.toNumber)
  | "int" => return .number (if isFinite x then Float.ofInt (wholeOf x) else x)
  | "rand" => return .number (← nextChance)
  | "srand" =>
    let old := (← get).seed
    let new ← if values.isEmpty then pure (Float.ofInt ((← currentTime) / 1000000)) else pure x
    modify fun s => { s with seed := new, chance := (wholeOf new).natAbs % 2147483646 + 1 }
    return .number old
  | "index" => return Value.ofNat (placeOf (← textOf second) 1 (← textOf first))
  | "length" =>
    let v ← if values.isEmpty then fieldAt 0 else pure first
    return Value.ofNat (← textOf v).length
  | "substr" =>
    let length := (values[2]?).map fun v => clamped v.toNumber
    return .text (partOf (← textOf first) (clamped second.toNumber) length)
  | "tolower" => return .text ((← textOf first).map Char.toLower)
  | "toupper" => return .text ((← textOf first).map Char.toUpper)
  | "systime" => return .number (Float.ofInt ((← currentTime) / 1000000))
  | "mktime" => return .number (Float.ofInt (momentOf (← textOf first)))
  | "strftime" =>
    let layout ← if values.isEmpty then pure "%c".toList else textOf first
    let now ← match values[1]? with
      | some v => pure (clamped v.toNumber * 1000000)
      | none => currentTime
    return .text (formatDate now (layout.length + 1) layout)
  | "close" => return .number (← closeAll (← textOf first))
  | "fflush" =>
    let name ← if values.isEmpty then pure none else some <$> textOf first
    return .number (← flushNamed name)
  | "system" => return .number (← runCommand (← textOf first))
  | _ => return .unset

/-- The text of values set by the first of them. -/
def formatted (f : String) (values : List Value) : Running Octets := do
  let template ← textOf (values.headD .unset)
  let conversion ← templateOf "CONVFMT"
  match setTemplate (Value.toText conversion) template values.tail with
  | (text, none) => return text
  | (text, some misfit) =>
    let whereabouts := f ++ "(\"" ++ Octets.text template ++ "\")"
    if f = "printf" then put text
    match misfit with
    | .tooFew => misdo ("not enough arguments passed to " ++ whereabouts)
    | .improper n => misdo ("improper conversion(number " ++ toString n ++ ") in " ++ whereabouts)

/-- Reads the next line from a file or a command. -/
def lineFrom (origin : Origin) (name : Octets) : Running (Option (Option Octets)) := do
  let isSame (key : Origin × Octets) : Bool := match key.1, origin with
    | .file, .file | .command, .command => key.2 = name
    | _, _ => false
  let feed ← match (← get).feeds.find? fun (key, _) => isSame key with
    | some (_, feed) => pure (some feed)
    | none => openFeed? origin name
  match feed with
  | none => return none
  | some feed =>
    let (record, feed) ← nextRecord feed
    modify fun s => { s with
      feeds := ((origin, name), feed) :: s.feeds.filter fun (key, _) => !isSame key }
    return some record

/-- Repeats a step as long as it says so. -/
def repeatStep (step : Running Bool) : (rounds : Nat) → Running Unit
  | 0 => return
  | rounds + 1 => do
    if ← step then repeatStep step rounds

/-- How often a statement is repeated at most. -/
def maxRounds : Nat := 1000000000

/-- Runs the body of a loop; tells whether the loop goes on. -/
def runRound (body : Running Unit) : Running Bool := do
  let go : Running Bool := do
    body
    return true
  tryCatchThe Halt go fun halt => do
    match halt with
    | .stopLoop => return false
    | .nextRound => return true
    | halt => throw halt

/-- The arguments of a function that are left out, and those that are tables. -/
def slotsFor (p : Program) (f : Function) (arguments : List Slot) : Running (Array Slot) := do
  let mut slots := arguments.toArray
  for place in List.range f.parameters.length do
    if slots.size ≤ place then
      if p.tables.contains (f.name, place) then slots := slots.push (.table (← newTable))
      else slots := slots.push (.value .unset)
  return slots

mutual

def evaluate : (depth : Nat) → Expression → Running Value
  | 0, _ => misdo "function call nesting too deep"
  | depth + 1, e => do
    match e with
    | .number x => return .number x
    | .text t => return .text t
    | .grouped e => evaluate depth e
    | .pattern r => return Value.ofBool (r.isMatch (← textOf (← fieldAt 0)))
    | .name n => valueOf n
    | .field index =>
      let index ← evaluate depth index
      fieldAt (clamped index.toNumber)
    | .element array keys =>
      let key ← keyFor depth keys
      withTable (← tableOf array) fun t =>
        let (_, t) := t.find key true
        (t.get key, t)
    | .assign target value =>
      let v ← evaluate depth value
      assignTo depth target v
      return v
    | .update operator target value =>
      let y ← evaluate depth value
      let x ← evaluate depth target
      let v := Value.number (operate operator x.toNumber y.toNumber)
      assignTo depth target v
      return v
    | .count up before target =>
      let x := (← evaluate depth target).toNumber
      let y := if up then x + 1 else x - 1
      assignTo depth target (.number y)
      return .number (if before then y else x)
    | .choose test yes no =>
      if (← evaluate depth test).isTrue then evaluate depth yes else evaluate depth no
    | .both first second =>
      if (← evaluate depth first).isTrue then
        return Value.ofBool (← evaluate depth second).isTrue
      else return Value.ofBool false
    | .any first second =>
      if (← evaluate depth first).isTrue then return Value.ofBool true
      else return Value.ofBool (← evaluate depth second).isTrue
    | .not e => return Value.ofBool !(← evaluate depth e).isTrue
    | .minus e => return .number (-(← evaluate depth e).toNumber)
    | .plus e => return .number (← evaluate depth e).toNumber
    | .arithmetic operator first second =>
      let x ← evaluate depth first
      let y ← evaluate depth second
      return .number (operate operator x.toNumber y.toNumber)
    | .compare c first second =>
      let x ← evaluate depth first
      let y ← evaluate depth second
      return Value.ofBool (← compareValues c x y)
    | .join first second =>
      let s ← textOf (← evaluate depth first)
      let t ← textOf (← evaluate depth second)
      return .text (s ++ t)
    | .isMatch wanted text expression =>
      let t ← textOf (← evaluate depth text)
      let r ← expressionFor depth expression
      return Value.ofBool (r.isMatch t = wanted)
    | .isKey keys array =>
      let key ← keyFor depth keys
      let found ← withTable (← tableOf array) fun t => t.find key false
      return Value.ofBool found
    | .call name arguments => callFunction depth name arguments
    | .builtin f arguments => callBuiltin depth f arguments
    | .line target origin => readLine depth target origin

/-- The key that expressions name. -/
def keyFor : (depth : Nat) → List Expression → Running Key
  | 0, _ => misdo "function call nesting too deep"
  | depth + 1, keys => do
    match keys with
    | [e] => keyOf (← evaluate depth e)
    | keys =>
      let between ← textOf (← plainValue "SUBSEP")
      let mut pieces := #[]
      for e in keys do
        pieces := pieces.push (← textOf (← evaluate depth e))
      return .text (between.intercalate pieces.toList)

/-- The regular expression that an expression stands for. -/
def expressionFor : (depth : Nat) → Expression → Running Regex
  | 0, _ => misdo "function call nesting too deep"
  | depth + 1, e => do
    match e with
    | .pattern r => return r
    | e => expressionOf (← textOf (← evaluate depth e))

def assignTo : (depth : Nat) → (target : Expression) → Value → Running Unit
  | 0, _, _ => misdo "function call nesting too deep"
  | depth + 1, target, v => do
    match target with
    | .name n => setValueOf n v
    | .field index =>
      let index ← evaluate depth index
      setField (clamped index.toNumber) v
    | .element array keys =>
      let key ← keyFor depth keys
      withTable (← tableOf array) fun t => ((), t.set key v)
    | _ => return

/-- Reads a line into a place or takes a record up. -/
def readLine : (depth : Nat) → Option Expression → Option (Origin × Expression) → Running Value
  | 0, _, _ => misdo "function call nesting too deep"
  | depth + 1, target, origin => do
    let found ← match origin with
      | none => do
        let record ← nextMain
        pure (some record)
      | some (origin, e) => do
        let name ← textOf (← evaluate depth e)
        lineFrom origin name
    match found, target with
    | none, _ => return .number (-1)
    | some none, _ => return .number 0
    | some (some text), none =>
      setRecord (.given text)
      return .number 1
    | some (some text), some target =>
      assignTo depth target (.given text)
      return .number 1

/-- Calls a function of the program. -/
def callFunction : (depth : Nat) → String → List Expression → Running Value
  | 0, _, _ => misdo "function call nesting too deep"
  | depth + 1, name, arguments => do
    let p := (← get).program
    match p.functions.find? (·.name = name) with
    | none => return .unset
    | some f =>
      let mut slots := #[]
      for (e, place) in arguments.zipIdx do
        match e, p.tables.contains (name, place) with
        | .name n, true => slots := slots.push (Slot.table (← tableOf n))
        | e, _ => slots := slots.push (Slot.value (← evaluate depth e))
      let frame ← slotsFor p f slots.toList
      let outside := (← get).frame
      modify fun s => { s with frame := frame }
      let run : Running Value := do
        executeAll depth f.body
        return .unset
      let result ← tryCatchThe Halt run fun halt => do
        match halt with
        | .giveBack v => return v
        | halt => throw halt
      modify fun s => { s with frame := outside }
      return result

/-- Calls a function of the language. -/
def callBuiltin : (depth : Nat) → String → List Expression → Running Value
  | 0, _, _ => misdo "function call nesting too deep"
  | depth + 1, f, arguments => do
    match f, arguments with
    | "length", [.name n] =>
      if ← isTable n then
        let size ← withTable (← tableOf n) fun t => (t.size, t)
        return Value.ofNat size
      else return Value.ofNat (← textOf (← valueOf n)).length
    | "match", [text, expression] =>
      let t ← textOf (← evaluate depth text)
      let r ← expressionFor depth expression
      let (start, length) : Float × Float := match r.find? [] t with
        | some m => (Float.ofNat (m.before.length + 1), Float.ofNat m.text.length)
        | none => (0, -1)
      setPlain "RSTART" (.number start)
      setPlain "RLENGTH" (.number length)
      return .number start
    | "split", text :: .name n :: separator =>
      let t ← textOf (← evaluate depth text)
      let s ← match separator with
        | [.pattern r] => pure (Separator.matching r)
        | [e] => do separatorOf (← textOf (← evaluate depth e))
        | _ => fieldSeparator
      let pieces := (cut s t).map Value.given
      withTable (← tableOf n) fun _ => ((), Table.ofList pieces)
      return Value.ofNat pieces.length
    | "sprintf", values =>
      let mut found := #[]
      for e in values do found := found.push (← evaluate depth e)
      return .text (← formatted "sprintf" found.toList)
    | _, _ =>
      if f = "sub" || f = "gsub" then
        match arguments with
        | expression :: replacement :: target =>
          let r ← expressionFor depth expression
          let new ← textOf (← evaluate depth replacement)
          let target := target.headD (.field (.number 0))
          let t ← textOf (← evaluate depth target)
          let (changed, count) := replaced r new (f = "gsub") (2 * t.length + 2) [] false t
          if count ≠ 0 then assignTo depth target (.text changed)
          return Value.ofNat count
        | _ => return .unset
      else
        let mut found := #[]
        for e in arguments do found := found.push (← evaluate depth e)
        builtinValue f found.toList

def executeAll : (depth : Nat) → List Statement → Running Unit
  | 0, _ => misdo "function call nesting too deep"
  | depth + 1, statements => do
    for s in statements do execute depth s

/-- Writes a text where a statement says. -/
def emit : (depth : Nat) → Octets → Option (Outlet × Expression) → Running Unit
  | 0, _, _ => misdo "function call nesting too deep"
  | depth + 1, text, outlet => do
    match outlet with
    | none => put text
    | some (kind, e) => putTo kind (← textOf (← evaluate depth e)) text

def execute : (depth : Nat) → Statement → Running Unit
  | 0, _ => misdo "function call nesting too deep"
  | depth + 1, s => do
    match s with
    | .evaluate e =>
      let _ ← evaluate depth e
      return
    | .print values outlet =>
      let ends ← textOf (← plainValue "ORS")
      if values.isEmpty then emit depth ((← textOf (← fieldAt 0)) ++ ends) outlet
      else
        let between ← textOf (← plainValue "OFS")
        let template ← templateOf "OFMT"
        let mut pieces := #[]
        for e in values do
          let v ← evaluate depth e
          pieces := pieces.push (v.toText template)
        emit depth (between.intercalate pieces.toList ++ ends) outlet
    | .format values outlet =>
      let mut found := #[]
      for e in values do found := found.push (← evaluate depth e)
      emit depth (← formatted "printf" found.toList) outlet
    | .block body => executeAll depth body
    | .branch test yes no =>
      if (← evaluate depth test).isTrue then execute depth yes
      else match no with
        | some no => execute depth no
        | none => return
    | .loop first test step body =>
      if let some e := first then
        let _ ← evaluate depth e
      let round : Running Bool := do
        let goes ← match test with
          | some e => do pure (← evaluate depth e).isTrue
          | none => pure true
        if goes then
          if ← runRound (execute depth body) then
            if let some e := step then
              let _ ← evaluate depth e
            act (Action.spend 1)
            return true
          else return false
        else return false
      repeatStep round maxRounds
    | .loopAfter body test =>
      let round : Running Bool := do
        if ← runRound (execute depth body) then
          act (Action.spend 1)
          return (← evaluate depth test).isTrue
        else return false
      repeatStep round maxRounds
    | .forKeys target array body =>
      let keys ← withTable (← tableOf array) Table.keys
      let run : Running Unit := do
        for key in keys do
          assignTo depth target (.given key)
          if !(← runRound (execute depth body)) then break
      run
    | .remove array keys =>
      match keys with
      | none => withTable (← tableOf array) fun _ => ((), {})
      | some keys =>
        let key ← keyFor depth keys
        withTable (← tableOf array) fun t => ((), t.remove key)
    | .next => throw .next
    | .nextFile => throw .nextFile
    | .leave status =>
      if let some e := status then
        let v ← evaluate depth e
        modify fun s => { s with status := ((clamped v.toNumber).emod 256).toNat }
      throw .leave
    | .giveBack value =>
      match value with
      | some e => throw (.giveBack (← evaluate depth e))
      | none => throw (.giveBack .unset)
    | .stopLoop => throw .stopLoop
    | .nextRound => throw .nextRound

end

end ScopedCheck.Script.Tool.Records
