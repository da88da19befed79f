import ScopedCheck.Script.Tool.Records.Value
import Std.Data.HashMap

namespace ScopedCheck.Script.Tool.Records

inductive Key where
  | whole (n : Int)
  | text (t : Octets)

namespace Key

def toText : Key → Octets
  | whole n => Octets.ofInt n
  | text t => t

end Key

structure Table where
  cells : Std.HashMap Octets Value := ∅
  /-- Whether the keys are 1, 2 and so on and have no chains yet. -/
  isRow : Bool := false
  /-- Whether the keys are in the chains of texts. -/
  hasTexts : Bool := false
  wholes : Array (List Int) := Array.replicate 64 []
  texts : Array (List Octets) := Array.replicate 64 []

namespace Table

/-- How many chains a table has at first, and how many keys there may be for each chain. -/
def firstSize : Nat := 64

def load : Nat := 12

def size (t : Table) : Nat := t.cells.size

/-- The number that a key is spread by. -/
def spread (key : Octets) : Nat :=
  key.foldl (fun h c => (Nat.xor h c.toNat * 16777619) % 4294967296) 2166136261

def wholeChain (t : Table) (n : Int) : Nat := (n.emod t.wholes.size).toNat

def textChain (t : Table) (key : Octets) : Nat := spread key % t.texts.size

/-- Makes a row of values a table with chains. -/
def unrolled (t : Table) : Table :=
  if !t.isRow then t
  else
    let rec grown (rounds size : Nat) : Nat :=
      match rounds with
      | 0 => size
      | rounds + 1 => if size * load < t.size then grown rounds (2 * size) else size
    let chains := grown t.size firstSize
    let empty : Array (List Int) := Array.replicate chains []
    let filled := (List.range t.size).foldl (fun (wholes : Array (List Int)) i =>
      wholes.modify ((i + 1) % chains) fun chain => (Int.ofNat i + 1) :: chain) empty
    { t with isRow := false, wholes := filled, texts := Array.replicate chains [] }

/-- Puts the keys that are whole numbers into the chains of texts too. -/
def withTexts (t : Table) : Table :=
  if t.hasTexts then t
  else
    let t := t.unrolled
    let keys := (t.wholes.toList.flatten).map Octets.ofInt
    let texts := keys.foldl (fun (texts : Array (List Octets)) key =>
      texts.modify (spread key % texts.size) (key :: ·)) t.texts
    { t with hasTexts := true, texts := texts }

/-- Twice as many chains; each is divided, and keeps its order. -/
def doubled (t : Table) : Table :=
  let size := t.wholes.size
  let divide {α : Type} (place : α → Nat) (chains : Array (List α)) : Array (List α) :=
    chains.mapIdx (fun i chain => chain.filter fun key => place key % (2 * size) = i) ++
      chains.mapIdx fun i chain => chain.filter fun key => place key % (2 * size) = i + size
  { t with
    wholes := divide (fun (n : Int) => (n.emod (2 * size)).toNat) t.wholes
    texts := divide spread t.texts }

/-- Makes place for one more key. -/
def widened (t : Table) : Table :=
  if t.wholes.size * load < t.size then t.doubled else t

/-- Looks a text up; it comes to the front of its chain. A new one is added if that is wanted. -/
def findText (t : Table) (key : Octets) (create : Bool) : Bool × Table :=
  let t := t.withTexts
  if t.cells.contains key then
    (true, { t with texts := t.texts.modify (t.textChain key) fun chain => key :: chain.erase key })
  else if create then
    let t := { t with cells := t.cells.insert key .unset }.widened
    (true, { t with texts := t.texts.modify (t.textChain key) (key :: ·) })
  else (false, t)

/-- Looks a whole number up. -/
def findWhole (t : Table) (n : Int) (create : Bool) : Bool × Table :=
  let front (t : Table) : Table :=
    { t with wholes := t.wholes.modify (t.wholeChain n) fun chain => n :: chain.erase n }
  if ((t.wholes[t.wholeChain n]?).getD []).contains n then (true, front t)
  else if t.hasTexts then
    let (found, t) := t.findText (Octets.ofInt n) create
    (found, if found then front t else t)
  else if create then
    (true, front { t with cells := t.cells.insert (Octets.ofInt n) .unset }.widened)
  else (false, t)

/-- Looks a key up. -/
def find (t : Table) (key : Key) (create : Bool) : Bool × Table :=
  if t.size = 0 && !create then (false, t)
  else match key with
    | .whole n =>
      if t.isRow then
        if 1 ≤ n && n ≤ t.size then (true, t) else t.unrolled.findWhole n create
      else t.findWhole n create
    | .text text => t.findText text create

def get (t : Table) (key : Key) : Value := (t.cells[key.toText]?).getD .unset

/-- Gives a key a value, which the table already has. -/
def put (t : Table) (key : Key) (v : Value) : Table :=
  { t with cells := t.cells.insert key.toText v }

def set (t : Table) (key : Key) (v : Value) : Table := (t.find key true).2.put key v

/-- Takes a key out. -/
def remove (t : Table) (key : Key) : Table :=
  if t.size = 0 then t
  else
    let within := match key with
      | .whole n => !t.isRow || (1 ≤ n && n ≤ t.size)
      | .text _ => true
    if !within then t
    else
      let (found, t) := t.unrolled.find key false
      if !found then t
      else
        let text := key.toText
        let t := { t with
          cells := t.cells.erase text
          texts := t.texts.modify (t.textChain text) (·.erase text)
          wholes := match Octets.int? false text with
            | some n =>
              if Octets.ofInt n = text then t.wholes.modify (t.wholeChain n) (·.erase n) else t.wholes
            | none => t.wholes }
        if t.size = 0 then {} else t

/-- The keys in the order in which they are visited, and the table after that. -/
def keys (t : Table) : List Octets × Table :=
  if t.size = 0 then ([], t)
  else
    let t := t.withTexts
    (t.texts.toList.flatten, t)

/-- A row of values under 1, 2 and so on. -/
def ofList (values : List Value) : Table :=
  if values.isEmpty then {}
  else
    let cells := (values.zipIdx 1).foldl (fun (cells : Std.HashMap Octets Value) (v, i) =>
      cells.insert (Octets.ofNat i) v) ∅
    { cells := cells, isRow := true }

end Table

end ScopedCheck.Script.Tool.Records
