namespace ScopedCheck.Script.Tool.Difference

/-- A place where lines go and come: where they begin in the old and the new text, and how many. -/
structure Change where
  old : Nat
  new : Nat
  deleted : Nat
  inserted : Nat
  deriving DecidableEq, Repr

namespace Change

/-- Where the old text goes on. -/
def oldEnd (c : Change) : Nat := c.old + c.deleted

/-- Where the new text goes on. -/
def newEnd (c : Change) : Nat := c.new + c.inserted

/-- The change in texts that have so many more lines before. -/
def after (lines : Nat) (c : Change) : Change :=
  { c with old := c.old + lines, new := c.new + lines }

end Change

/-- Whether the line after a place is marked. -/
def isMarked (marks : Array Bool) (place : Nat) : Bool := marks.getD place false

/-- The end of the run of marked lines after a place. -/
def runEnd (marks : Array Bool) : (steps : Nat) → Nat → Nat
  | 0, place => place
  | steps + 1, place => if isMarked marks place then runEnd marks steps (place + 1) else place

/-- The place after the run of marked lines. -/
def afterRun (marks : Array Bool) (place : Nat) : Nat := runEnd marks (marks.size - place) place

/-- The place before the run of marked lines that ends here. -/
def beforeRun (marks : Array Bool) : Nat → Nat
  | 0 => 0
  | place + 1 => if isMarked marks place then beforeRun marks place else place + 1

/-- The changes that marks on both sides stand for, from a place on each side on. -/
def changesFrom (old new : Array Bool) : (steps : Nat) → Nat → Nat → List Change
  | 0, _, _ => []
  | steps + 1, i, j =>
    let (i', j') := (afterRun old i, afterRun new j)
    let rest := if i' < old.size && j' < new.size then changesFrom old new steps (i' + 1) (j' + 1) else []
    if i' = i && j' = j then rest else ⟨i, j, i' - i, j' - j⟩ :: rest

/-- How a line takes part in the search: it does, it matches nothing, or it matches very much. -/
inductive Standing where
  | kept
  | lonely
  | common
  deriving DecidableEq, Inhabited

/-- How often each class occurs. -/
def countClasses (size : Nat) (classes : Array Nat) : Array Nat :=
  classes.foldl (fun counts c => counts.modify c (· + 1)) (Array.replicate size 0)

/-- A power of the base for each factor of four in a number. -/
def growth (base : Nat) : (steps : Nat) → Nat → Nat
  | 0, _ => base
  | steps + 1, n => if n / 4 = 0 then base else growth (base * 2) steps (n / 4)

/-- The first standing of the lines: how often the other text has them decides. -/
def standings (classes : Array Nat) (others : Array Nat) : Array Standing :=
  let many := growth 5 64 (classes.size / 64)
  classes.map fun c =>
    let n := others.getD c 0
    if n = 0 then .lonely else if many < n then .common else .kept

/-- Keeps the common lines in runs of so many or more of them. -/
def keepLongRuns (least : Nat) (run : List Standing) : List Standing :=
  let groups := run.splitBy fun a b => a = .common && b = .common
  groups.flatMap fun group =>
    if group.head? = some .common && least ≤ group.length then group.map fun _ => .kept else group

/-- Keeps the common lines near the beginning of a run: those before three lonely lines in a row, or
before the first lonely line that is at least so far in. -/
def keepFirst : (place lonely : Nat) → List Standing → List Standing
  | _, _, [] => []
  | place, lonely, s :: rest =>
    if 8 ≤ place && s = .lonely then s :: rest
    else match s with
      | .lonely =>
        if lonely = 2 then s :: rest else s :: keepFirst (place + 1) (lonely + 1) rest
      | _ => .kept :: keepFirst (place + 1) 0 rest

/-- What becomes of a run that begins and ends with lonely lines. -/
def settleRun (run : List Standing) : List Standing :=
  let common := run.count .common
  if run.length < common * 4 then run.map fun s => if s = .common then .kept else s
  else
    let least := growth 1 64 (run.length / 4) + 1
    let run := keepFirst 0 0 (keepLongRuns least run)
    (keepFirst 0 0 run.reverse).reverse

/-- Common lines stay out of the search only inside of runs of lonely ones. -/
def settle : (steps : Nat) → List Standing → List Standing
  | 0, lines => lines
  | _, [] => []
  | steps + 1, s :: rest =>
    if s = .lonely then
      let run := (s :: rest).takeWhile (· ≠ .kept)
      let body := (run.reverse.dropWhile (· = .common)).reverse
      settleRun body ++ List.replicate (run.length - body.length) .kept ++
        settle steps ((s :: rest).drop run.length)
    else .kept :: settle steps rest

/-- Two texts as the classes of their lines. -/
structure Texts where
  old : Array Nat
  new : Array Nat

/-- A part of both texts. -/
structure Window where
  oldStart : Int
  oldEnd : Int
  newStart : Int
  newEnd : Int

/-- Whether a line of the old text is a line of the new one. -/
def Texts.agree (t : Texts) (x y : Int) : Bool :=
  t.old.getD x.toNat 0 == t.new.getD y.toNat 0

/-- How far down lines agree from a place on. -/
def slideDown (t : Texts) (w : Window) : (steps : Nat) → Int → Int → Int
  | 0, x, _ => x
  | steps + 1, x, y =>
    if x < w.oldEnd && y < w.newEnd && t.agree x y then slideDown t w steps (x + 1) (y + 1) else x

/-- How far up lines agree before a place. -/
def slideUp (t : Texts) (w : Window) : (steps : Nat) → Int → Int → Int
  | 0, x, _ => x
  | steps + 1, x, y =>
    if w.oldStart < x && w.newStart < y && t.agree (x - 1) (y - 1) then
      slideUp t w steps (x - 1) (y - 1)
    else x

/-- Leaves out what agrees at the beginning and at the end. -/
def Window.trim (t : Texts) (w : Window) : Window :=
  let size := (w.oldEnd - w.oldStart).toNat
  let start := slideDown t w size w.oldStart w.newStart - w.oldStart
  let w := { w with oldStart := w.oldStart + start, newStart := w.newStart + start }
  let rest := w.oldEnd - slideUp t w size w.oldEnd w.newEnd
  { w with oldEnd := w.oldEnd - rest, newEnd := w.newEnd - rest }

/-- How far one side of the search has come on each diagonal, and on which diagonals it is. -/
structure Front where
  reach : Array Int
  low : Int
  high : Int

namespace Front

def get (f : Front) (least d : Int) : Int := f.reach.getD (d - least).toNat 0

def set (f : Front) (least d x : Int) : Front :=
  { f with reach := f.reach.setIfInBounds (d - least).toNat x }

/-- One diagonal more on both sides, or one less where there is none. -/
def widen (f : Front) (least dmin dmax outside : Int) : Front :=
  let f := if dmin < f.low then { f.set least (f.low - 2) outside with low := f.low - 1 }
    else { f with low := f.low + 1 }
  if f.high < dmax then { f.set least (f.high + 2) outside with high := f.high + 1 }
  else { f with high := f.high - 1 }

end Front

/-- Takes each second diagonal from the highest on one step further, until both sides meet. -/
def extend (reachOf : Front → Int → Int) (meets : Int → Int → Bool) (least : Int) :
    (steps : Nat) → Front → Int → Front × Option (Int × Int)
  | 0, f, _ => (f, none)
  | steps + 1, f, d =>
    if d < f.low then (f, none)
    else
      let x := reachOf f d
      let f := f.set least d x
      if meets d x then (f, some (x, x - d)) else extend reachOf meets least steps f (d - 2)

/-- The place where a shortest way from the top and one from the bottom meet. -/
def meet (t : Texts) (w : Window) : (steps : Nat) → Front → Front → Option (Int × Int)
  | 0, _, _ => none
  | steps + 1, down, up =>
    let dmin := w.oldStart - w.newEnd
    let dmax := w.oldEnd - w.newStart
    let least := dmin - 1
    let size := (w.oldEnd - w.oldStart + w.newEnd - w.newStart).toNat + 1
    let odd : Bool := (w.oldStart - w.newStart - (w.oldEnd - w.newEnd)) % 2 ≠ 0
    let down := down.widen least dmin dmax (-1)
    let stepDown (f : Front) (d : Int) : Int :=
      let (low, high) := (f.get least (d - 1), f.get least (d + 1))
      let x := if low < high then high else low + 1
      slideDown t w size x (x - d)
    let meetsUp (d x : Int) : Bool := odd && up.low ≤ d && d ≤ up.high && up.get least d ≤ x
    match extend stepDown meetsUp least size down down.high with
    | (_, some place) => some place
    | (down, none) =>
      let up := up.widen least dmin dmax (w.oldEnd + w.newEnd + 2)
      let stepUp (f : Front) (d : Int) : Int :=
        let (low, high) := (f.get least (d - 1), f.get least (d + 1))
        let x := if low < high then low else high - 1
        slideUp t w size x (x - d)
      let meetsDown (d x : Int) : Bool :=
        !odd && down.low ≤ d && d ≤ down.high && x ≤ down.get least d
      match extend stepUp meetsDown least size up up.high with
      | (_, some place) => some place
      | (up, none) => meet t w steps down up

/-- The place in the middle of a shortest way through a part of both texts. -/
def middle (t : Texts) (w : Window) : Int × Int :=
  let least := w.oldStart - w.newEnd - 1
  let size := (w.oldEnd - w.oldStart + w.newEnd - w.newStart).toNat + 3
  let front (x d : Int) : Front := (⟨Array.replicate size 0, d, d⟩ : Front).set least d x
  (meet t w size (front w.oldStart (w.oldStart - w.newStart))
    (front w.oldEnd (w.oldEnd - w.newEnd))).getD (w.oldEnd, w.newStart)

/-- The lines that have to go and to come, as places in both texts. -/
def search (t : Texts) : (steps : Nat) → Window → List Nat × List Nat
  | 0, _ => ([], [])
  | steps + 1, w =>
    let w := w.trim t
    if w.oldStart = w.oldEnd then
      ([], (List.range (w.newEnd - w.newStart).toNat).map (· + w.newStart.toNat))
    else if w.newStart = w.newEnd then
      ((List.range (w.oldEnd - w.oldStart).toNat).map (· + w.oldStart.toNat), [])
    else
      let (x, y) := middle t w
      let (old, new) := search t steps { w with oldEnd := x, newEnd := y }
      let (old', new') := search t steps { w with oldStart := x, newStart := y }
      (old ++ old', new ++ new')

/-- A run of marked lines while it is moved: where it begins and ends, and the place in the other
text that its end corresponds to. -/
structure Slide where
  marks : Array Bool
  start : Nat
  stop : Nat
  other : Nat
  /-- The last end at which a run of the other text lay beside it. -/
  beside : Option Nat := none

namespace Slide

/-- One line up. -/
def back (others : Array Bool) (s : Slide) : Slide :=
  let marks := (s.marks.setIfInBounds (s.start - 1) true).setIfInBounds (s.stop - 1) false
  { s with marks := marks, start := beforeRun marks (s.start - 1), stop := s.stop - 1
           other := beforeRun others s.other - 1 }

/-- Up as long as the line before is the last one of the run. -/
def backAll (classes : Array Nat) (others : Array Bool) : (steps : Nat) → Slide → Slide
  | 0, s => s
  | steps + 1, s =>
    if 0 < s.start && classes.getD (s.start - 1) 0 = classes.getD (s.stop - 1) 0 then
      backAll classes others steps (s.back others)
    else s

/-- Down as long as the line after is the first one of the run. -/
def forwardAll (classes : Array Nat) (others : Array Bool) : (steps : Nat) → Slide → Slide
  | 0, s => s
  | steps + 1, s =>
    if s.stop < classes.size && classes.getD s.start 0 = classes.getD s.stop 0 then
      let marks := (s.marks.setIfInBounds s.start false).setIfInBounds s.stop true
      let stop := afterRun marks (s.stop + 1)
      let other := afterRun others (s.other + 1)
      forwardAll classes others steps
        { marks := marks, start := s.start + 1, stop := stop, other := other
          beside := if s.other + 1 < other then some stop else s.beside }
    else s

/-- Up and down until the run does not grow any more by running into others. -/
def settle (classes : Array Nat) (others : Array Bool) : (steps : Nat) → Slide → Slide
  | 0, s => s
  | steps + 1, s =>
    let length := s.stop - s.start
    let s := s.backAll classes others classes.size
    let s := { s with beside := if 0 < s.other && isMarked others (s.other - 1) then some s.stop else none }
    let s := s.forwardAll classes others classes.size
    if s.stop - s.start = length then s else settle classes others steps s

/-- Back to where a run of the other text lies beside it, if there is such a place. -/
def returnTo (others : Array Bool) : (steps : Nat) → Slide → Slide
  | 0, s => s
  | steps + 1, s =>
    if s.beside.any (· < s.stop) then
      let marks := (s.marks.setIfInBounds (s.start - 1) true).setIfInBounds (s.stop - 1) false
      returnTo others steps
        { s with marks := marks, start := s.start - 1, stop := s.stop - 1
                 other := beforeRun others s.other - 1 }
    else s

end Slide

/-- Moves the runs of one side, from a place on each side on. -/
def slideRuns (classes : Array Nat) (others : Array Bool) :
    (steps : Nat) → Array Bool → Nat → Nat → Array Bool
  | 0, marks, _, _ => marks
  | steps + 1, marks, i, j =>
    if classes.size ≤ i then marks
    else if !isMarked marks i then slideRuns classes others steps marks (i + 1) (afterRun others j + 1)
    else
      let run : Slide := ⟨marks, i, afterRun marks i, afterRun others j, none⟩
      let run := (run.settle classes others (classes.size + 1)).returnTo others classes.size
      slideRuns classes others steps run.marks run.stop run.other

/-- The places of the lines that take part in the search, and marks on the others. -/
def sift (thorough : Bool) (classes counts : Array Nat) : Array Nat × Array Bool :=
  let lines := (settle (classes.size + 1) (standings classes counts).toList).toArray
  let out := lines.map fun s => !thorough && s ≠ .kept
  ((Array.range classes.size).filter fun i => !isMarked out i, out)

/-- The changes that lead from an old text to a new one. A thorough search leaves no line out. -/
def align (thorough : Bool) (old new : Array Nat) : List Change :=
  let size := max (old.foldl max 0) (new.foldl max 0) + 1
  let (oldPlaces, oldMarks) := sift thorough old (countClasses size new)
  let (newPlaces, newMarks) := sift thorough new (countClasses size old)
  let t : Texts := ⟨oldPlaces.map (old.getD · 0), newPlaces.map (new.getD · 0)⟩
  let (gone, come) := search t (t.old.size + t.new.size + 1) ⟨0, t.old.size, 0, t.new.size⟩
  let mark (marks : Array Bool) (places : Array Nat) (found : List Nat) : Array Bool :=
    found.foldl (fun marks n => marks.setIfInBounds (places.getD n 0) true) marks
  let oldMarks := mark oldMarks oldPlaces gone
  let newMarks := mark newMarks newPlaces come
  let oldMarks := slideRuns old newMarks (old.size + 1) oldMarks 0 0
  let newMarks := slideRuns new oldMarks (new.size + 1) newMarks 0 0
  changesFrom oldMarks newMarks (old.size + new.size + 1) 0 0

end ScopedCheck.Script.Tool.Difference
