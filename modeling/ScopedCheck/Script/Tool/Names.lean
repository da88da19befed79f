import ScopedCheck.Script.Tool.Files

namespace ScopedCheck.Script.Tool

/-- The path of a place. -/
def placeText (place : Place) : Octets :=
  Octets.ofString (Path.ofNames place).text

/-- The end of what is written about one operand. -/
def ender (o : Options) : Octets := if o.has 'z' then ['\x00'] else ['\n']

def baseName (arguments : List Octets) : Tool Unit :=
  withOptions
    { letters := "az", valued := "s", long := [("suffix", 's'), ("multiple", 'a'), ("zero", 'z')]
      anywhere := false }
    1 arguments fun o => do
      let many := o.has 'a' || (o.value? 's').isSome
      let shorten (suffix name : Octets) : Octets :=
        if suffix ≠ [] && suffix ≠ name && suffix.isSuffixOf name then
          name.take (name.length - suffix.length)
        else name
      let show_ (suffix operand : Octets) : Tool Unit :=
        print (shorten suffix (lastName operand) ++ ender o)
      match o.operands with
      | [] => misuse 1 "missing operand"
      | first :: more =>
        if many then
          for a in o.operands do show_ ((o.value? 's').getD []) a
        else match more with
          | [] => show_ [] first
          | [suffix] => show_ suffix first
          | _ :: extra :: _ => misuse 1 ("extra operand " ++ cited extra)

/-- A path without its last name. -/
def directoryName (text : Octets) : Octets :=
  let bare := (text.reverse.dropWhile (· = '/')).reverse
  if bare = [] then (if text = [] then ['.'] else ['/'])
  else
    let above := bare.reverse.dropWhile (· ≠ '/')
    if above = [] then ['.']
    else
      let shown := (above.dropWhile (· = '/')).reverse
      if shown = [] then ['/'] else shown

def directoryNames (arguments : List Octets) : Tool Unit :=
  withOptions { letters := "z", long := [("zero", 'z')] } 1 arguments fun o => do
    if o.operands = [] then misuse 1 "missing operand"
    for a in o.operands do print (directoryName a ++ ender o)

def printDirectory (arguments : List Octets) : Tool Unit :=
  withOptions { letters := "LP", long := [("logical", 'L'), ("physical", 'P')] } 1 arguments fun o => do
    let site ← site
    match site.directory with
    | none => complain "couldn't find directory entry in '..' with matching i-node"
    | some place =>
      let known := ((← get).environment.lookup "PWD").getD []
      let isTrue := known.head? = some '/' && ((site.find true (path known)).toOption.map Prod.fst) = some place
      printLine (if o.last? "LP" = some 'L' && isTrue then known else placeText place)

/-- How much of a path has to exist. -/
inductive Existence where
  | all
  | allButLast
  | nothing
  deriving DecidableEq

/-- Walks along the segments of a path. Links are followed as long as there are steps for that. -/
def walkPath (site : Site) (e : Existence) (followsLinks : Bool) :
    (steps : Nat) → Place → List String → Except Fault Place
  | 0, _, _ => .error .tooManyLinks
  | _, place, [] => .ok place
  | steps + 1, place, segment :: rest =>
    let isLast := rest.all fun s => s = ""
    if segment = "" || segment = "." then
      match site.root.at? place with
      | some (.directory ..) => walkPath site e followsLinks steps place rest
      | none => if e = .all then .error .notFound else walkPath site e followsLinks steps place rest
      | some _ => if e = .nothing then walkPath site e followsLinks steps place rest else .error .notDirectory
    else if segment = ".." then walkPath site e followsLinks steps place.dropLast rest
    else
      let next := place ++ [segment]
      match site.root.at? next with
      | some (.link target) =>
        if followsLinks then
          walkPath site e followsLinks steps (if target.isAbsolute then [] else place) (target.segments ++ rest)
        else walkPath site e followsLinks steps next rest
      | some _ => walkPath site e followsLinks steps next rest
      | none =>
        match site.root.at? place, e with
        | some (.file ..), .all | some (.file ..), .allButLast => .error .notDirectory
        | _, .all => .error .notFound
        | _, .allButLast => if isLast then .ok next else .error .notFound
        | _, .nothing => walkPath site e followsLinks steps next rest

/-- Where a path leads when all links are followed, as far as it has to exist. -/
def canonical (site : Site) (e : Existence) (followsLinks : Bool) (operand : Octets) : Except Fault Place :=
  let p := path operand
  if operand = [] then .error .notFound
  else match if p.isAbsolute then some [] else site.directory with
    | none => .error .notFound
    | some start => walkPath site e followsLinks (operand.length + 2000) start p.segments

def readLink (arguments : List Octets) : Tool Unit :=
  withOptions
    { letters := "femnqsvz", long := [("canonicalize", 'f'), ("canonicalize-existing", 'e'),
        ("canonicalize-missing", 'm'), ("no-newline", 'n'), ("quiet", 'q'), ("silent", 's'),
        ("verbose", 'v'), ("zero", 'z')] }
    1 arguments fun o => do
      if o.operands = [] then misuse 1 "missing operand"
      let newline := if o.has 'n' && o.operands.length = 1 then [] else ender o
      let refuse (a : Octets) (reason : String) : Tool Unit := do
        if o.has 'v' then complain (named a ++ ": " ++ reason) else setStatus 1
      for a in o.operands do
        let site ← site
        match o.last? "fem" with
        | some c =>
          let e := if c = 'e' then Existence.all else if c = 'm' then .nothing else .allButLast
          match canonical site e true a with
          | .ok place => print (placeText place ++ newline)
          | .error cause => refuse a cause.reason
        | none =>
          match site.find false (path a) with
          | .ok (_, .link target) => print (Octets.ofString target.text ++ newline)
          | .ok _ => refuse a "Invalid argument"
          | .error cause => refuse a cause.reason

def realPath (arguments : List Octets) : Tool Unit :=
  withOptions
    { letters := "esmqLPz", valued := "#@"
      long := [("canonicalize-existing", 'e'), ("canonicalize-missing", 'm'), ("strip", 's'),
        ("no-symlinks", 's'), ("logical", 'L'), ("physical", 'P'), ("quiet", 'q'), ("zero", 'z'),
        ("relative-to", '#'), ("relative-base", '@')] }
    1 arguments fun o => do
      let e := match o.last? "em" with
        | some 'e' => Existence.all
        | some _ => .nothing
        | none => .allButLast
      let follows := !o.has 's'
      let refuse (a : Octets) (cause : Fault) : Tool Unit := do
        if o.has 'q' then setStatus 1 else complain (named a ++ ": " ++ cause.reason)
      if o.operands = [] then misuse 1 "missing operand"
      else
        let here ← site
        let given (c : Char) : Except (Octets × Fault) (Option Place) :=
          match o.value? c with
          | none => .ok none
          | some a => match canonical here e follows a with
            | .ok place =>
              if e = .all && !(here.root.at? place).any Node.isDirectory then .error (a, .notDirectory)
              else .ok (some place)
            | .error cause => .error (a, cause)
        match given '#', given '@' with
        | .error (a, cause), _ | _, .error (a, cause) => refuse a cause
        | .ok start, .ok base =>
          for a in o.operands do
            match canonical here e follows a with
            | .error cause => refuse a cause
            | .ok place =>
              let isBelow := base.all fun b => b.isPrefixOf place
              let start := if base.isSome && !(isBelow && (start.all fun s => base.all fun b => b.isPrefixOf s)) then none
                else start <|> base
              let shown := match start with
                | some start => relativePath start place
                | none => placeText place
              print (shown ++ ender o)

/-- Tells where programs are found. -/
def locate (arguments : List Octets) : Tool Unit := do
  let o := Options.read { letters := "as" } arguments
  if o.fault?.isSome then
    complain "Illegal option"
    printLine "Usage: /usr/bin/which [-as] args".toList
    setStatus 2
    return
  if o.operands = [] then setStatus 1
  let listed := ((← get).environment.lookup "PATH").getD []
  let searched := if listed = [] then [] else Text.split ':' listed
  for name in o.operands do
    let site ← site
    let places := if name.contains '/' then [name]
      else searched.map fun d => (if d = [] then ['.'] else d) ++ '/' :: name
    match places.filter fun p => site.isProgram (path p) with
    | [] => setStatus 1
    | p :: more =>
      if !o.has 's' then
        for p in (if o.has 'a' then p :: more else [p]) do printLine p

end ScopedCheck.Script.Tool
