import ScopedCheck.Script.Tool.Permissions

namespace ScopedCheck.Script.Tool

namespace Calendar

/-- How many days there are from the first of January 1970 to a day. -/
def daysOf (year : Int) (month day : Int) : Int :=
  let shifted := year * 12 + (month - 1)
  let (year, month) := (shifted.fdiv 12, shifted.fmod 12 + 1)
  let y := if month ≤ 2 then year - 1 else year
  let era := y.fdiv 400
  let yearOfEra := y - era * 400
  let monthFromMarch := (month + 9).emod 12
  let dayOfYear := (153 * monthFromMarch + 2) / 5 + day - 1
  era * 146097 + yearOfEra * 365 + yearOfEra / 4 - yearOfEra / 100 + dayOfYear - 719468

structure Date where
  year : Int
  month : Nat
  day : Nat

/-- The day that comes so many days after the first of January 1970. -/
def dateOf (days : Int) : Date :=
  let z := days + 719468
  let era := z.fdiv 146097
  let dayOfEra := z - era * 146097
  let yearOfEra := (dayOfEra - dayOfEra / 1460 + dayOfEra / 36524 - dayOfEra / 146096) / 365
  let dayOfYear := dayOfEra - (365 * yearOfEra + yearOfEra / 4 - yearOfEra / 100)
  let monthFromMarch := (5 * dayOfYear + 2) / 153
  let day := dayOfYear - (153 * monthFromMarch + 2) / 5 + 1
  let month := if monthFromMarch < 10 then monthFromMarch + 3 else monthFromMarch - 9
  ⟨yearOfEra + era * 400 + (if month ≤ 2 then 1 else 0), month.toNat, day.toNat⟩

/-- The day of the week, counted from Sunday. -/
def weekdayOf (days : Int) : Nat := ((days + 4).emod 7).toNat

def second : Int := 1000000

def daySize : Int := 86400 * second

def dayNames : List String :=
  ["Sunday", "Monday", "Tuesday", "Wednesday", "Thursday", "Friday", "Saturday"]

def monthNames : List String :=
  ["January", "February", "March", "April", "May", "June", "July", "August", "September",
   "October", "November", "December"]

/-- The number of the name that a text stands for, counted from zero; three letters are enough. -/
def named? (names : List String) (text : Octets) : Option Nat :=
  let text := text.map Char.toLower
  names.findIdx? fun name =>
    let name := name.toList.map Char.toLower
    text = name || (text.length ≥ 3 && text = name.take text.length && (text.length = 3 || text.length = 4))

/-- The number of the week that ISO 8601 gives to a day, and the year it counts to. -/
def isoWeek (days : Int) : Int × Int :=
  let thursday := days - (days + 3).emod 7 + 3
  let year := (dateOf thursday).year
  (year, (thursday - daysOf year 1 1) / 7 + 1)

end Calendar

open Calendar

/-- What a text has said about a moment so far. -/
structure Moment where
  days : Option Int := none
  /-- The time of the day in microseconds. -/
  time : Option Int := none
  /-- How many minutes the zone is ahead. -/
  zone? : Option Int := none
  weekday : Option Nat := none
  months : Int := 0
  moreDays : Int := 0
  more : Int := 0

def number? (text : Octets) : Option Nat :=
  if text ≠ [] && text.all Char.isDigit then some (Octets.natOf 10 text) else none

def validDate? (year month day : Nat) : Option Int :=
  let days := daysOf year month day
  let d := dateOf days
  if d.month = month && d.day = day && month ≥ 1 then some days else none

/-- A date that is written with numbers. -/
def readDate? (text : Octets) : Option Int :=
  match (Text.split '-' text).map number?, (Text.split '/' text).map number? with
  | [some y, some m, some d], _ => validDate? y m d
  | _, [some m, some d, some y] => validDate? y m d
  | _, _ =>
    if text.length = 8 then (number? text).bind fun n => validDate? (n / 10000) (n / 100 % 100) (n % 100)
    else match Text.split '-' text with
      | [d, m, y] => do
        validDate? (← number? y) ((← named? monthNames m) + 1) (← number? d)
      | _ => none

/-- A time of the day such as `12:30` or `12:30:01.5`. -/
def readTime? (text : Octets) : Option Int := do
  match Text.split ':' text with
  | [h, m] =>
    let (h, m) := (← number? h, ← number? m)
    if h < 24 && m < 60 then some ((h * 3600 + m * 60) * second) else none
  | [h, m, s] =>
    let whole := s.takeWhile Char.isDigit
    let fraction ← match s.drop whole.length with
      | [] => some []
      | c :: rest => if (c = '.' || c = ',') && rest ≠ [] && rest.all Char.isDigit then some rest else none
    let (h, m, s) := (← number? h, ← number? m, ← number? whole)
    let micros := Octets.natOf 10 ((fraction ++ List.replicate 6 '0').take 6)
    if h < 24 && m < 60 && s < 61 then some (((h * 3600 + m * 60 + s : Nat) : Int) * second + micros)
    else none
  | _ => none

/-- The zones that letters stand for: those from A on are ahead, those from N on are behind. -/
def letterZone? (letter : Char) : Option Int :=
  let hours (letters : String) : Option Nat := letters.toList.findIdx? (· = letter)
  match hours "ABCDEFGHIKLM", hours "NOPQRSTUVWXY" with
  | some n, _ => some (60 * (n + 1))
  | none, some n => some (-60 * (n + 1))
  | none, none => none

/-- How far a zone is ahead, in minutes. -/
def readZone? (text : Octets) : Option Int :=
  let fixed : List (String × Int) :=
    [("Z", 0), ("UTC", 0), ("GMT", 0), ("EST", -300), ("EDT", -240), ("CST", -360), ("CDT", -300),
     ("MST", -420), ("MDT", -360), ("PST", -480), ("PDT", -420), ("CET", 60), ("CEST", 120)]
  match fixed.lookup (String.ofList (text.map Char.toUpper)), text with
  | some minutes, _ => some minutes
  | none, [letter] => letterZone? letter.toUpper
  | none, sign :: rest =>
    if sign ≠ '+' && sign ≠ '-' then none
    else
      let digits := rest.filter (· ≠ ':')
      let minutes := match number? digits with
        | some n => if digits.length ≤ 2 then some (n * 60) else if digits.length = 4 then some (n / 100 * 60 + n % 100) else none
        | none => none
      minutes.map fun (n : Nat) => if sign = '-' then -(n : Int) else n
  | none, [] => none

def units : List (String × (Int × Int × Int)) :=
  [("year", (12, 0, 0)), ("month", (1, 0, 0)), ("fortnight", (0, 14, 0)), ("week", (0, 7, 0)),
   ("day", (0, 1, 0)), ("hour", (0, 0, 3600)), ("minute", (0, 0, 60)), ("min", (0, 0, 60)),
   ("second", (0, 0, 1)), ("sec", (0, 0, 1))]

def unit? (text : Octets) : Option (Int × Int × Int) :=
  let text := text.map Char.toLower
  (units.lookup (String.ofList text)) <|>
    (if text.getLast? = some 's' then units.lookup (String.ofList text.dropLast) else none)

namespace Moment

def shift (m : Moment) (count : Int) (unit : Int × Int × Int) : Moment :=
  { m with months := m.months + count * unit.1, moreDays := m.moreDays + count * unit.2.1
           more := m.more + count * unit.2.2 * second }

/-- Cuts the zone off a time of the day. -/
def splitZone (text : Octets) : Octets × Octets :=
  let time := text.takeWhile fun c => c.isDigit || c = ':' || c = '.'
  (time, text.drop time.length)

def halfDay? (text : Octets) : Option Bool :=
  match String.ofList ((text.map Char.toLower).filter (· ≠ '.')) with
  | "am" => some false
  | "pm" => some true
  | _ => none

def inHalf (time : Int) (late : Bool) : Int :=
  let hour := time / (3600 * second)
  if late then (if hour < 12 then time + 43200 * second else time)
  else if hour = 12 then time - 43200 * second else time

/-- Reads the words of a text one after the other. -/
def read (now : Int) : (steps : Nat) → List Octets → Moment → Option Moment
  | 0, _, _ => none
  | _, [], m => some m
  | steps + 1, w :: rest, m => do
    let lower := String.ofList (w.map Char.toLower)
    let fixed : List (String × Int) := [("now", 0), ("today", 0), ("tomorrow", 1), ("yesterday", -1)]
    let ordinals : List (String × Int) := [("next", 1), ("last", -1), ("this", 0), ("third", 3), ("fourth", 4),
      ("fifth", 5), ("sixth", 6), ("seventh", 7), ("eighth", 8), ("ninth", 9), ("tenth", 10)]
    match fixed.lookup lower, ordinals.lookup lower, rest with
    | some count, _, _ => read now steps rest { m with moreDays := m.moreDays + count }
    | none, some count, u :: rest =>
      match unit? u with
      | some unit => read now steps rest (m.shift count unit)
      | none => none
    | _, _, _ =>
      let sign := w.head? = some '-'
      let digits := if sign || w.head? = some '+' then w.tail else w
      let digits := digits.takeWhile Char.isDigit
      let glued := (if sign || w.head? = some '+' then w.tail else w).drop digits.length
      let signed (n : Nat) : Int := if sign then -(n : Int) else n
      let ago (rest : List Octets) (count : Int) : Int × List Octets :=
        if (rest.head?.map fun a => a.map Char.toLower) = some "ago".toList then (-count, rest.tail) else (count, rest)
      match number? digits, glued, rest with
      | some n, [], u :: rest' =>
        match unit? u with
        | some unit =>
          let (count, rest) := ago rest' (signed n)
          read now steps rest (m.shift count unit)
        | none => plain now steps w rest m
      | some n, _ :: _, rest' =>
        match unit? glued with
        | some unit =>
          let (count, rest) := ago rest' (signed n)
          read now steps rest (m.shift count unit)
        | none => plain now steps w rest m
      | none, _, _ =>
        match unit? w, w with
        | some unit, _ =>
          let (count, rest) := ago rest 1
          read now steps rest (m.shift count unit)
        | none, ['+'] | none, ['-'] =>
          match rest with
          | next :: rest => read now steps ((w ++ next) :: rest) m
          | [] => none
        | none, _ => plain now steps w rest m
      | _, _, _ => plain now steps w rest m
where
  /-- Reads a word that is a date, a time or a zone. -/
  plain (now : Int) (steps : Nat) (w : Octets) (rest : List Octets) (m : Moment) : Option Moment :=
    match steps with
    | 0 => none
    | steps + 1 =>
      let dated := w.takeWhile (· ≠ 'T')
      match readDate? w, readDate? dated, m.time.isSome, readZone? w with
      | some days, _, _, _ => read now steps rest { m with days := some days }
      | none, some days, _, _ =>
        read now steps (w.drop (dated.length + 1) :: rest) { m with days := some days }
      | none, none, true, some zone => read now steps rest { m with zone? := some zone }
      | none, none, _, zone =>
        let (time, after) := splitZone w
        match readTime? time, named? monthNames w, named? dayNames w with
        | some t, _, _ =>
          match halfDay? after, rest.head?.bind halfDay? with
          | some late, _ => read now steps rest { m with time := some (inHalf t late) }
          | none, some late => read now steps rest.tail { m with time := some (inHalf t late) }
          | none, none =>
            read now steps (if after = [] then rest else after :: rest) { m with time := some t }
        | none, some month, _ =>
          match rest with
          | d :: rest =>
            match number? d, rest.head?.bind number? with
            | some day, some year =>
              if rest.head?.any fun y => y.length = 4 then do
                read now steps rest.tail { m with days := some (← validDate? year (month + 1) day) }
              else do
                let year := (dateOf (now / daySize)).year
                read now steps rest { m with days := some (← validDate? year.toNat (month + 1) day) }
            | some day, none => do
              let year := (dateOf (now / daySize)).year
              read now steps rest { m with days := some (← validDate? year.toNat (month + 1) day) }
            | none, _ => none
          | [] => none
        | none, none, some day => read now steps rest { m with weekday := some day }
        | none, none, none =>
          match number? w, rest with
          | some n, month :: more =>
            match named? monthNames month, halfDay? month with
            | some month, _ =>
              let given := more.head?.bind number?
              let year := given.getD (dateOf (now / daySize)).year.toNat
              do read now steps (if given.isSome then more.tail else more)
                  { m with days := some (← validDate? year (month + 1) n) }
            | none, some late => read now steps more { m with time := some (inHalf (n * 3600 * second) late) }
            | none, none => clock now steps n w rest m
          | some n, [] => clock now steps n w rest m
          | none, _ =>
            let digits := w.takeWhile Char.isDigit
            match number? digits, halfDay? (w.drop digits.length), zone with
            | some n, some late, _ => read now steps rest { m with time := some (inHalf (n * 3600 * second) late) }
            | _, _, some zone => read now steps rest { m with zone? := some zone }
            | _, _, none => none
  /-- Reads digits alone as a time of the day. -/
  clock (now : Int) (steps : Nat) (n : Nat) (w : Octets) (rest : List Octets) (m : Moment) :
      Option Moment :=
    match steps with
    | 0 => none
    | steps + 1 =>
      let (h, min) := if w.length ≤ 2 then (n, 0) else (n / 100, n % 100)
      if w.length ≤ 4 && h < 24 && min < 60 then
        read now steps rest { m with time := some ((h * 3600 + min * 60 : Nat) * second) }
      else none

/-- The moment that all of this means. Without a date or a time it counts from now on. -/
def toMicros (m : Moment) (now : Int) : Int :=
  let relative := m.months ≠ 0 || m.moreDays ≠ 0 || m.more ≠ 0
  let dated := m.days.isSome || m.weekday.isSome
  let today := now.fdiv daySize
  let days := m.days.getD today
  let time := m.time.getD (if dated || (m.zone?.isSome && !relative) then 0 else now.fmod daySize)
  let d := dateOf days
  let days := daysOf d.year (d.month + m.months) d.day + m.moreDays
  let days := match m.weekday, m.days with
    | some w, none => days + ((w : Int) - weekdayOf days).emod 7
    | _, _ => days
  days * daySize + time + m.more - (m.zone?.getD 0) * 60 * second

end Moment

/-- The moment that a text names. -/
def moment? (now : Int) (text : Octets) : Option Int :=
  match text with
  | '@' :: rest =>
    let negative := rest.head? = some '-'
    let body := if negative then rest.tail else rest
    let whole := body.takeWhile Char.isDigit
    let fraction := match body.drop whole.length with
      | [] => some []
      | '.' :: rest => if rest.all Char.isDigit then some rest else none
      | _ => none
    match number? whole, fraction with
    | some n, some fraction =>
      let micros : Int := (n : Int) * second + Octets.natOf 10 ((fraction ++ List.replicate 6 '0').take 6)
      some (if negative then -micros else micros)
    | _, _ => none
  | _ =>
    let words := Octets.fields (text.map fun c => if c = ',' then ' ' else c)
    if words = [] then some (now.fdiv daySize * daySize)
    else (Moment.read now (8 * text.length + 8) words {}).map (·.toMicros now)

/-- The moment of a stamp such as `202001020304.05`. -/
def stamp? (now : Int) (text : Octets) : Option Int := do
  let digits := text.takeWhile Char.isDigit
  let seconds ← match text.drop digits.length with
    | [] => some 0
    | '.' :: s => if s.length = 2 then number? s else none
    | _ => none
  let n ← number? digits
  let year := (dateOf (now.fdiv daySize)).year.toNat
  let (year, rest) ← match digits.length with
    | 8 => some (year, n)
    | 10 => some ((if n / 100000000 < 69 then 2000 else 1900) + n / 100000000, n % 100000000)
    | 12 => some (n / 100000000, n % 100000000)
    | _ => none
  let days ← validDate? year (rest / 1000000) (rest / 10000 % 100)
  let (h, m) := (rest / 100 % 100, rest % 100)
  if h < 24 && m < 60 && seconds < 61 then
    some (days * daySize + ((h * 3600 + m * 60 + seconds : Nat) : Int) * second)
  else none

/-- Fills a number up to a width. -/
def filled (fill : Option Char) (width : Nat) (n : Int) : Octets :=
  let digits := Octets.ofNat n.natAbs
  let body := match fill with
    | some c => List.replicate (width - digits.length) c ++ digits
    | none => digits
  if n < 0 then '-' :: body else body

/-- How a directive is to be filled up, in capitals or not. -/
structure DateFlags where
  fill : Option Char := some '0'
  own : Bool := false
  upper : Bool := false
  swaps : Bool := false
  width : Nat := 0
  colons : Nat := 0

def zoneText (colons : Nat) : Octets :=
  match colons with
  | 0 => "+0000".toList
  | 1 => "+00:00".toList
  | 2 => "+00:00:00".toList
  | _ => "+00".toList

/-- What a directive of one letter stands for. Directives that stand for others give their text. -/
def dateField (now : Int) (f : DateFlags) (c : Char) : Option Octets :=
  let days := now.fdiv daySize
  let inDay := (now.fmod daySize).toNat
  let d := dateOf days
  let (h, mi, s) := (inDay / 3600000000, inDay / 60000000 % 60, inDay / 1000000 % 60)
  let w := weekdayOf days
  let yearDay := days - daysOf d.year 1 1
  let half := if h % 12 = 0 then 12 else h % 12
  let number (fill : Char) (width : Nat) (n : Int) : Octets :=
    filled (if f.own then f.fill else some fill) (max width f.width) n
  let word (text : Octets) : Octets :=
    let text := if f.upper then text.map Char.toUpper else text
    List.replicate (f.width - text.length) (if f.own && f.fill = some '0' then '0' else ' ') ++ text
  let name (names : List String) (n : Nat) : Octets :=
    let text := (names.getD n "").toList
    if f.swaps then text.map Char.toUpper else text
  let two (n : Nat) : Octets := filled (some '0') 2 n
  match c with
  | 'Y' => some (number '0' 4 d.year)
  | 'm' => some (number '0' 2 d.month)
  | 'd' => some (number '0' 2 d.day)
  | 'e' => some (number ' ' 2 d.day)
  | 'H' => some (number '0' 2 h)
  | 'k' => some (number ' ' 2 h)
  | 'I' => some (number '0' 2 half)
  | 'l' => some (number ' ' 2 half)
  | 'M' => some (number '0' 2 mi)
  | 'S' => some (number '0' 2 s)
  | 's' => some (number '0' 1 (now.fdiv second))
  | 'j' => some (number '0' 3 (yearDay + 1))
  | 'y' => some (number '0' 2 (d.year.emod 100))
  | 'C' => some (number '0' 2 (d.year.fdiv 100))
  | 'u' => some (number '0' 1 (if w = 0 then 7 else w))
  | 'w' => some (number '0' 1 w)
  | 'U' => some (number '0' 2 ((yearDay + 7 - w) / 7))
  | 'W' => some (number '0' 2 ((yearDay + 7 - (w + 6) % 7) / 7))
  | 'V' => some (number '0' 2 (isoWeek days).2)
  | 'G' => some (number '0' 4 (isoWeek days).1)
  | 'g' => some (number '0' 2 ((isoWeek days).1.emod 100))
  | 'q' => some (number '0' 1 ((d.month + 2) / 3))
  | 'N' =>
    let digits := filled (some '0') 6 (inDay % 1000000) ++ "000".toList
    some (if f.width = 0 then digits else digits.take f.width ++ List.replicate (f.width - 9) '0')
  | 'a' => some (word ((name dayNames w).take 3))
  | 'A' => some (word (name dayNames w))
  | 'b' | 'h' => some (word ((name monthNames (d.month - 1)).take 3))
  | 'B' => some (word (name monthNames (d.month - 1)))
  | 'p' =>
    let text := if h < 12 then "AM" else "PM"
    some (word (if f.swaps then text.toList.map Char.toLower else text.toList))
  | 'P' => some (word (if h < 12 then "am" else "pm").toList)
  | 'Z' => some (word (if f.swaps then "utc" else "UTC").toList)
  | 'z' => some (zoneText f.colons)
  | 'F' => some (word (filled (some '0') 4 d.year ++ '-' :: two d.month ++ '-' :: two d.day))
  | 'T' | 'X' => some (word (two h ++ ':' :: two mi ++ ':' :: two s))
  | 'R' => some (word (two h ++ ':' :: two mi))
  | 'D' | 'x' => some (word (two d.month ++ '/' :: two d.day ++ '/' :: two (d.year.emod 100).toNat))
  | 'r' => some (word (two half ++ ':' :: two mi ++ ':' :: two s ++ (if h < 12 then " AM" else " PM").toList))
  | 'c' => some (word ((name dayNames w).take 3 ++ ' ' :: (name monthNames (d.month - 1)).take 3 ++ ' ' ::
      filled (some ' ') 2 d.day ++ ' ' :: two h ++ ':' :: two mi ++ ':' :: two s ++ ' ' :: filled (some '0') 4 d.year))
  | 'n' => some ['\n']
  | 't' => some ['\t']
  | '%' => some ['%']
  | _ => none

def readDateFlags : (steps : Nat) → Octets → DateFlags → DateFlags × Octets
  | 0, text, f => (f, text)
  | _, [], f => (f, [])
  | steps + 1, c :: rest, f =>
    match c with
    | '-' => readDateFlags steps rest { f with fill := none, own := true }
    | '_' => readDateFlags steps rest { f with fill := some ' ', own := true }
    | '0' => readDateFlags steps rest { f with fill := some '0', own := true }
    | '+' => readDateFlags steps rest { f with fill := some '0', own := true }
    | '^' => readDateFlags steps rest { f with upper := true }
    | '#' => readDateFlags steps rest { f with swaps := true }
    | _ =>
      let digits := (c :: rest).takeWhile Char.isDigit
      let after := (c :: rest).drop digits.length
      let colons := after.takeWhile (· = ':')
      ({ f with width := Octets.natOf 10 digits, colons := colons.length }, after.drop colons.length)

/-- A moment in a format. -/
def formatDate (now : Int) : (steps : Nat) → Octets → Octets
  | 0, _ => []
  | _, [] => []
  | steps + 1, '%' :: rest =>
    let (flags, after) := readDateFlags (rest.length + 1) rest {}
    match after with
    | c :: more =>
      match dateField now flags c with
      | some text => text ++ formatDate now steps more
      | none => '%' :: rest.take (rest.length - more.length) ++ formatDate now steps more
    | [] => '%' :: rest
  | steps + 1, c :: rest => c :: formatDate now steps rest

/-- When the node at a path was changed. -/
def modifiedOf : Node → Int
  | .file _ attributes => attributes.modified
  | _ => 0

def date (arguments : List Octets) : Tool Unit :=
  withOptions
    { letters := "uRIh", valued := "drfs3", optional := "I"
      long := [("date", 'd'), ("reference", 'r'), ("utc", 'u'), ("universal", 'u'),
        ("rfc-email", 'R'), ("iso-8601", 'I'), ("rfc-3339", '3'), ("file", 'f'), ("set", 's')] }
    1 arguments fun o => do
      let now := (← site).now
      let precision (text : Octets) : String :=
        if text = [] || "date".toList.take text.length = text then "%F"
        else if "hours".toList.take text.length = text then "%FT%H+00:00"
        else if "minutes".toList.take text.length = text then "%FT%H:%M+00:00"
        else if "seconds".toList.take text.length = text then "%FT%T+00:00"
        else "%FT%T,%N+00:00"
      let chosen := if o.has 'R' then "%a, %d %b %Y %T +0000"
        else if let some text := o.value? 'I' then precision text
        else if let some text := o.value? '3' then
          (if text.head? = some 'd' then "%F" else if text.head? = some 's' then "%F %T+00:00" else "%F %T.%N+00:00")
        else "%a %b %e %H:%M:%S UTC %Y"
      let formats := o.operands.filter fun a => a.head? = some '+'
      let print (moment : Int) : Tool Unit := do
        let format := match formats with
          | f :: _ => f.tail
          | [] => chosen.toList
        printLine (formatDate moment (format.length + 1) format)
      match o.operands.find? fun a => a.head? ≠ some '+', formats with
      | some a, _ => complain ("invalid date " ++ cited a)
      | none, _ :: extra :: _ => misuse 1 ("extra operand " ++ cited extra)
      | none, _ =>
        match o.value? 'd', o.value? 'r' with
        | some text, _ =>
          match moment? now text with
          | some moment => print moment
          | none => complain ("invalid date " ++ cited text)
        | none, some file =>
          match (← site).node (path file) with
          | .ok node => print (modifiedOf node)
          | .error cause => complain (named file ++ ": " ++ cause.reason)
        | none, none => print now

end ScopedCheck.Script.Tool
