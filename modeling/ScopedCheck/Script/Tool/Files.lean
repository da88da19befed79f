import ScopedCheck.Script.Tool.Dates
import ScopedCheck.Script.Tool.Sizes

namespace ScopedCheck.Script.Tool

/-- Whether a path leads to a directory, all links followed. -/
def isDirectory (operand : Octets) : Tool Bool := do
  return ((← site).node (path operand)).toOption.any Node.isDirectory

/-- Runs an action for each operand; the status is the worst of them. -/
def forEach (operands : List Octets) (run : Octets → Tool Unit) : Tool Unit := do
  for operand in operands do
    let before := (← get).status
    setStatus 0
    run operand
    setStatus (max before (← get).status)

/-- Each operand with its target: the last operand, or a name in it if it is a directory. -/
def targets (o : Options) (what : String) : Tool (List (Octets × Octets)) := do
  match o.value? 't' with
  | some directory =>
    if ← isDirectory directory then
      return o.operands.map fun source => (source, inside directory (lastName source))
    else
      let reason := if (← site).exists? (path directory) then Fault.notDirectory else .notFound
      complain ("target directory " ++ quoted directory ++ ": " ++ reason.reason)
      return []
  | none =>
    match o.operands.reverse with
    | [] =>
      misuse 1 ("missing " ++ what ++ " operand")
      return []
    | [only] =>
      misuse 1 ("missing destination " ++ what ++ " operand after " ++ quoted only)
      return []
    | target :: sources =>
      let into := !o.has 'T' && (← isDirectory target)
      if sources.length > 1 && !into then
        if o.has 'T' then misuse 1 ("extra operand " ++ quoted target)
        else
          let reason := if (← site).exists? (path target) then Fault.notDirectory else .notFound
          complain ("target " ++ quoted target ++ ": " ++ reason.reason)
        return []
      else return sources.reverse.map fun source =>
        (source, if into then inside target (lastName source) else target)

def withTarget (o : Options) (what : String) (run : Octets → Octets → Tool Unit) : Tool Unit := do
  for (source, target) in ← targets o what do run source target

/-- The name of the backup that is kept of a file. -/
def backupName (o : Options) (target : Octets) : Octets :=
  target ++ (o.value? 'S').getD ['~']

/-- Whether backups are kept of what is replaced. -/
def keepsBackups (o : Options) : Bool :=
  o.has 'b' || o.has 'S'

/-- Puts a node at a path where its directory exists. -/
def putNode (target : Octets) (node : Node) : Tool (Except Fault Unit) := do
  let site ← site
  match site.locate false (path (withoutSlashes target)) with
  | .error cause => return .error cause
  | .ok (.vacant directory name) => put (site.attach directory name node)
  | .ok (.existing place) =>
    match place.getLast? with
    | some name => put (site.attach place.dropLast name node)
    | none => return .error .alreadyExists
where
  put : Except Fault Site → Tool (Except Fault Unit)
    | .ok site => do
      setSite site
      return .ok ()
    | .error cause => return .error cause

/-- Moves what is at a path to the name of its backup. -/
def keepBackup (o : Options) (target : Octets) : Tool Unit := do
  if keepsBackups o then
    let site ← site
    match site.find false (path target) with
    | .ok (place, node) =>
      if let .ok site := if node.isDirectory then .error Fault.isDirectory else site.detach place then
        setSite site
        let _ ← putNode (backupName o target) node
    | .error _ => return

/-- The files with several names that have been copied, by identity, with the path of the copy. -/
abbrev Copying := StateT (List (Nat × Octets)) Tool

/-- What a copy keeps of a file besides its content. -/
def keepsAttributes (o : Options) : Bool := o.has 'p' || o.has 'a'

/-- Whether a file that is there is left as it is. -/
def spares (o : Options) (source : Attributes) (there : Node) : Bool :=
  o.has 'n' || (o.has 'u' && modifiedOf there ≥ source.modified)

/-- Makes a copy of a file that goes by the same name as another one. -/
def linkCopy (source target : Octets) (node : Node) : Tool Unit := do
  match ← putNode target node with
  | .ok () => return
  | .error cause =>
    complain ("cannot create hard link " ++ quoted target ++ " to " ++ quoted source ++ ": " ++ cause.reason)

/-- Takes a file away that cannot be written, if force is asked for, and tells whether none is left
in the way. -/
def makeWay (o : Options) (target : Octets) : Tool Bool := do
  let site ← site
  if !o.has 'f' || !site.isFile (path target) || site.permits .write (path target) then return true
  match site.remove (path target) with
  | .ok site =>
    setSite site
    return true
  | .error cause =>
    complain ("cannot remove " ++ quoted target ++ ": " ++ cause.reason)
    return false

def writeCopy (o : Options) (target : Octets) (content : Utf8.Bytes) (attributes : Attributes) :
    Tool Unit := do
  if !(← makeWay o target) then return
  let site ← site
  let isThere := (site.node (path target)).isOk
  let fresh := site.permitted (Nat.land attributes.mode 0o777)
  let mode := if keepsAttributes o then some attributes.mode else if isThere then none else some fresh
  match ← writeFile (path target) content mode with
  | .ok () =>
    if keepsAttributes o then
      let now ← Tool.site
      if let .ok (place, _) := now.find true (path target) then
        setSite (now.changeFile place fun content a =>
          .file content { a with modified := attributes.modified })
  | .error cause =>
    let reason := if target.getLast? = some '/' then Fault.notDirectory else cause
    complain ("cannot create regular file " ++ quoted target ++ ": " ++ reason.reason)

def copyFile (o : Options) (source target : Octets) (content : Utf8.Bytes)
    (attributes : Attributes) : Copying Unit := do
  let site ← site
  let there := site.node (path target)
  let verbose : Tool Unit := do
    if o.has 'v' then printLine (Octets.ofString (quoted source ++ " -> " ++ quoted target))
  let readable := o.has 'l' || o.has 's' || site.permits .read (path source)
  match there with
  | .ok (.directory ..) =>
    complain ("cannot overwrite directory " ++ quoted target ++ " with non-directory " ++ quoted source)
  | .ok (.file _ other) =>
    if o.has 'n' then return
    else if !readable then
      complain ("cannot open " ++ quoted source ++ " for reading: " ++ Fault.permissionDenied.reason)
    else if other.identity = attributes.identity then
      if !o.has 'l' then complain (quoted source ++ " and " ++ quoted target ++ " are the same file")
    else if spares o attributes (.file [] other) then return
    else
      keepBackup o target
      if o.has '!' || o.has 'l' || o.has 's' then
        setSite ((← Tool.site).remove (path target) |>.toOption.getD (← Tool.site))
      put
      verbose
  | _ =>
    if site.occupied (path target) then
      complain ("not writing through dangling symlink " ++ quoted target)
    else if !readable then
      complain ("cannot open " ++ quoted source ++ " for reading: " ++ Fault.permissionDenied.reason)
    else
      put
      verbose
where
  /-- Makes the copy where nothing stands in its way. -/
  put : Copying Unit := do
    let earlier := (← getThe (List (Nat × Octets))).lookup attributes.identity
    if o.has 'l' then linkCopy source target (.file content attributes)
    else if o.has 's' then
      let _ ← putNode target (.link (path source))
    else match if o.has 'a' then earlier else none with
      | some other =>
        match (← site).find false (path other) with
        | .ok (_, node) => linkCopy other target node
        | .error _ => writeCopy o target content attributes
      | none =>
        writeCopy o target content attributes
        modifyThe (List (Nat × Octets)) fun seen => (attributes.identity, target) :: seen

mutual

/-- Copies a node to a path. -/
def copyNode (o : Options) (source target : Octets) : Node → Copying Unit
  | .file content attributes => copyFile o source target content attributes
  | .link goal => do
    let site ← site
    let there := (site.find false (path target)).toOption.map Prod.snd
    if there.any Node.isDirectory then
      complain ("cannot overwrite directory " ++ quoted target ++ " with non-directory " ++ quoted source)
    else if there.isSome && o.has 'n' then return
    else
      setSite ((site.remove (path target)).toOption.getD site)
      match ← putNode target (.link goal) with
      | .ok () =>
        if o.has 'v' then printLine (Octets.ofString (quoted source ++ " -> " ++ quoted target))
      | .error cause =>
        complain ("cannot create symbolic link " ++ quoted target ++ ": " ++ cause.reason)
  | .directory entries mode => do
    let bare := withoutSlashes target
    let site ← site
    let inner : Copying Unit := do
      if site.permits .read (path source) then copyNodes o source target entries
      else complain ("cannot access " ++ quoted source ++ ": " ++ Fault.permissionDenied.reason)
    match site.node (path bare) with
    | .ok (.directory ..) => inner
    | .ok _ =>
      complain ("cannot overwrite non-directory " ++ quoted target ++ " with directory " ++ quoted source)
    | .error _ =>
      let mode := if keepsAttributes o then mode else site.permitted mode
      match site.addNode (path bare) (.directory [] (Nat.lor mode 0o700)) with
      | .ok site =>
        setSite site
        if o.has 'v' then printLine (Octets.ofString (quoted source ++ " -> " ++ quoted target))
        inner
        let site ← Tool.site
        if let .ok (place, _) := site.find true (path bare) then setSite (site.changeMode place mode)
      | .error cause => complain ("cannot create directory " ++ quoted target ++ ": " ++ cause.reason)

def copyNodes (o : Options) (source target : Octets) : List (String × Node) → Copying Unit
  | [] => return
  | (name, node) :: rest => do
    let name := Octets.ofString name
    copyNode o (inside source name) (inside target name) node
    copyNodes o source target rest

end

def isRecursive (o : Options) : Bool := o.has 'r' || o.has 'R' || o.has 'a'

/-- Replaces the links in a node by what they lead to. -/
def followed (site : Site) : (depth : Nat) → Octets → Node → Node
  | 0, _, node => node
  | depth + 1, text, node =>
    match node with
    | .link target =>
      match site.node (path text) with
      | .ok found => followed site depth text found
      | .error _ => .link target
    | .directory entries mode =>
      .directory (entries.map fun (name, node) =>
        (name, followed site depth (inside text (Octets.ofString name)) node)) mode
    | node => node

def maxFollowed : Nat := 40

def copyOne (o : Options) (source target : Octets) : Copying Unit := do
  let follows := match o.last? "LPda" with
    | some 'L' => true
    | some _ => false
    | none => !isRecursive o
  let site ← site
  match site.find (follows || o.has 'H') (path source) with
  | .error cause => complain ("cannot stat " ++ quoted source ++ ": " ++ cause.reason)
  | .ok (place, node) =>
    match node with
    | .directory .. =>
      if !isRecursive o then complain ("-r not specified; omitting directory " ++ quoted source)
      else
        let node := if follows then followed site maxFollowed source node else node
        let spot := ((site.locate true (path (withoutSlashes target))).toOption.bind fun a => match a with
          | .existing p => some p
          | .vacant p name => some (p ++ [name]))
        if spot = some place then
          complain (quoted source ++ " and " ++ quoted target ++ " are the same file")
        else
          if spot.any fun p => place.isPrefixOf p then
            complain ("cannot copy a directory, " ++ quoted source ++ ", into itself, " ++ quoted target)
          copyNode o source target node
    | .link _ =>
      if (site.find false (path target)).toOption.any fun found => found.1 = place then
        complain (quoted source ++ " and " ++ quoted target ++ " are the same file")
      else copyNode o source target node
    | .file .. => copyNode o source target node

/-- What comes of the options for what is kept. -/
def copyOptions (o : Options) : Options :=
  let kept := (o.values 'p').any fun v => v = [] || [("mode"), ("timestamps"), "all"].any fun w =>
    (Text.split ',' v).contains w.toList
  let linked := (o.values 'p').any fun v => (Text.split ',' v).contains "links".toList
  let updated := (o.values 'u').getLast?
  let given := o.given.filter fun (c, v) => (c ≠ 'p' || kept) && (c ≠ 'u' || v = [] || v = "older".toList)
  let given := if updated = some "none".toList then ('n', []) :: given else given
  { o with given := given ++ (if linked then [('a', [])] else []) }

/-- A path below a directory with all directories that lead to it. -/
def makePathTo (directory source : Octets) : Tool Unit := do
  let above := (path source).parent?
  if let some parent := above then
    setSite ((← site).makeDirectories (path (inside directory (Octets.ofString parent.text))))

def copy (arguments : List Octets) : Tool Unit :=
  withOptions
    { letters := "rRapfnivdPLTuxlsHb", valued := "tS", optional := "pu#"
      long := [("recursive", 'r'), ("archive", 'a'), ("force", 'f'), ("no-clobber", 'n'),
        ("interactive", 'i'), ("preserve", 'p'), ("no-preserve", '#'), ("verbose", 'v'),
        ("target-directory", 't'), ("no-target-directory", 'T'), ("dereference", 'L'),
        ("no-dereference", 'P'), ("link", 'l'), ("symbolic-link", 's'), ("backup", 'b'), ("suffix", 'S'),
        ("update", 'u'), ("one-file-system", 'x'), ("parents", '^'), ("remove-destination", '!'),
        ("attributes-only", '@'), ("reflink", '#'), ("sparse", '#'), ("strip-trailing-slashes", '%')] }
    1 (arguments.map fun a => if a = "-p".toList then "--preserve=mode,timestamps".toList else a) fun o => do
      let o := copyOptions o
      if o.has 'n' && !(o.values 'u').contains "none".toList && arguments.any (fun a =>
          a = "-n".toList || "--no-c".toList.isPrefixOf a) then
        write 2 "cp: warning: behavior of -n is non-portable and may change in future; use --update=none instead\n".toList
      let run (source target : Octets) : StateT (List (Nat × Octets)) Tool Unit := do
        if o.has '^' then
          let directory := o.operands.getLast?.getD []
          makePathTo directory source
          copyOne o source (inside directory source)
        else copyOne o source target
      let pairs ← targets o "file"
      let _ ← (pairs.forM fun (source, target) => run source target).run []

/-- The node of a place under another name, perhaps in another directory. Whoever moves a directory
elsewhere has to be allowed to change it. -/
def rename (site : Site) (place : Place) (node : Node) (directory : Place) (name : String) :
    Except Fault Site := do
  site.requireChange place.dropLast
  site.requireChange directory
  if node.isDirectory && place.dropLast ≠ directory then site.require .write place
  return ((site.eraseAt (directory ++ [name])).eraseAt place).alter directory (Entries.insert name node)

def moveOne (o : Options) (source target : Octets) : Tool Unit := do
  let site ← site
  let bare := withoutSlashes source
  match site.find false (path bare) with
  | .error cause => complain ("cannot stat " ++ quoted source ++ ": " ++ cause.reason)
  | .ok (place, node) =>
    let goal := withoutSlashes target
    let done : Tool Unit := do
      if o.has 'v' then
        printLine (Octets.ofString ("renamed " ++ quoted source ++ " -> " ++ quoted target))
    let finish (moved : Except Fault Site) : Tool Unit := do
      match moved with
      | .ok site =>
        setSite site
        done
      | .error cause =>
        complain ("cannot move " ++ quoted source ++ " to " ++ quoted target ++ ": " ++ cause.reason)
    match site.locate false (path goal) with
    | .error cause =>
      complain ("cannot move " ++ quoted source ++ " to " ++ quoted target ++ ": " ++ cause.reason)
    | .ok (.vacant directory name) =>
      if node.isDirectory && place.isPrefixOf directory then
        complain ("cannot move " ++ quoted source ++ " to a subdirectory of itself, " ++
          quoted target)
      else if target ≠ goal && !node.isDirectory then
        complain ("cannot move " ++ quoted source ++ " to " ++ quoted target ++
          ": Not a directory")
      else
        finish (rename site place node directory name)
    | .ok (.existing spot) =>
      let there := (site.root.at? spot).getD node
      let same := spot = place || (match node, there with
        | .file _ a, .file _ b => a.identity = b.identity && a.identity ≠ 0
        | _, _ => false)
      if same then
        complain (quoted source ++ " and " ++ quoted target ++ " are the same file")
      else if o.has 'n' then complain ("not replacing " ++ quoted target)
      else if o.has 'u' && !node.isDirectory && modifiedOf there ≥ modifiedOf node then return
      else if node.isDirectory && !there.isDirectory then
        complain ("cannot overwrite non-directory " ++ quoted target ++ " with directory " ++
          quoted source)
      else if !node.isDirectory && there.isDirectory then
        complain ("cannot overwrite directory " ++ quoted target ++ " with non-directory")
      else
        let blocked := match there with
          | .directory (_ :: _) _ => true
          | _ => false
        if blocked then
          complain ("cannot overwrite " ++ quoted target ++ ": Directory not empty")
        else if node.isDirectory && place.isPrefixOf spot then
          complain ("cannot move " ++ quoted source ++ " to a subdirectory of itself, " ++
            quoted target)
        else
          keepBackup o target
          let site ← Tool.site
          finish (rename site place node spot.dropLast (spot.getLast?.getD ""))

def move (arguments : List Octets) : Tool Unit :=
  withOptions
    { letters := "finvTub", valued := "tS", optional := "u"
      long := [("force", 'f'), ("interactive", 'i'), ("no-clobber", 'n'), ("verbose", 'v'),
        ("target-directory", 't'), ("no-target-directory", 'T'), ("update", 'u'), ("backup", 'b'),
        ("suffix", 'S'), ("strip-trailing-slashes", '%')] }
    1 arguments fun o => do
      let o := copyOptions o
      let o := match o.last? "fin" with
        | some 'n' => o
        | _ => { o with given := o.given.filter fun pair => pair.1 ≠ 'n' || (o.values 'u').contains "none".toList }
      withTarget o "file" (moveOne o)

/-- The path from a directory to a place. -/
def relativePath (start goal : Place) : Octets :=
  let common := ((start.zip goal).takeWhile fun (a, b) => a = b).length
  let names := List.replicate (start.length - common) ".." ++ goal.drop common
  if names = [] then ['.'] else ['/'].intercalate (names.map Octets.ofString)

/-- Where a path leads; the last names may be missing. -/
def placeOf? (site : Site) (operand : Octets) : Option Place :=
  match site.locate true (path operand) with
  | .ok (.existing place) => some place
  | .ok (.vacant place name) => some (place ++ [name])
  | .error _ => none

def linkOne (o : Options) (source target : Octets) : Tool Unit := do
  let site ← site
  let symbolic := o.has 's'
  let kind := if symbolic then "symbolic" else "hard"
  let directory := (site.locate false (path target)).toOption.map fun a => match a with
    | .existing p => p.dropLast
    | .vacant p _ => p
  let written := if o.has 'r' then
      match directory, placeOf? site source with
      | some start, some goal => relativePath start goal
      | _, _ => source
    else source
  let node := if symbolic then .ok (Node.link (path written))
    else (site.find (o.has 'L') (path source)).map Prod.snd
  match node with
  | .error cause => complain ("failed to access " ++ quoted source ++ ": " ++ cause.reason)
  | .ok node =>
    let there := (site.find false (path target)).toOption
    let isSelf := match site.find false (path source), there with
      | .ok (p, _), some (q, _) => p = q
      | _, _ => false
    if node.isDirectory then complain (Octets.text source ++ ": hard link not allowed for directory")
    else if o.has 'f' && there.any (·.2.isDirectory) then
      complain (Octets.text target ++ ": cannot overwrite directory")
    else if o.has 'f' && isSelf then
      complain (quoted source ++ " and " ++ quoted target ++ " are the same file")
    else
      keepBackup o target
      let site ← Tool.site
      let taken := site.occupied (path target)
      let site := if o.has 'f' then (site.remove (path target)).toOption.getD site else site
      match site.addNode (path target) node with
      | .ok site =>
        setSite site
        if o.has 'v' then
          let arrow := if symbolic then " -> " else " => "
          printLine (Octets.ofString (quoted target ++ arrow ++ quoted written))
      | .error cause =>
        let arrow := if symbolic || taken then "" else " => " ++ quoted source
        complain ("failed to create " ++ kind ++ " link " ++ quoted target ++ arrow ++ ": " ++
          cause.reason)

def link (arguments : List Octets) : Tool Unit :=
  withOptions
    { letters := "sfnvTLPribFd", valued := "tS"
      long := [("symbolic", 's'), ("force", 'f'), ("no-dereference", 'n'), ("verbose", 'v'),
        ("relative", 'r'), ("target-directory", 't'), ("no-target-directory", 'T'), ("logical", 'L'),
        ("physical", 'P'), ("backup", 'b'), ("suffix", 'S'), ("interactive", 'i')] }
    1 arguments fun o => do
      match o.operands with
      | [source] =>
        if (o.value? 't').isNone then linkOne o source (inside ['.'] (lastName source) |>.drop 2)
        else withTarget o "file" (linkOne o)
      | [source, target] =>
        let isLink := ((← site).find false (path target)).toOption.any fun (_, node) =>
          match node with
          | .link _ => true
          | _ => false
        if (o.has 'n' && isLink) || o.has 'T' then linkOne o source target
        else withTarget o "file" (linkOne o)
      | _ => withTarget o "file" (linkOne o)

/-- Gives a file one more name. -/
def addName (arguments : List Octets) : Tool Unit := do
  match arguments with
  | [] => misuse 1 "missing operand"
  | [only] => misuse 1 ("missing operand after " ++ cited only)
  | [source, target] =>
    let site ← site
    match site.find false (path source) with
    | .ok (_, .directory ..) | .error _ =>
      complain ("cannot create link " ++ quoted target ++ " to " ++ quoted source ++ ": " ++
        (if site.occupied (path source) then "Operation not permitted" else Fault.notFound.reason))
    | .ok (_, node) =>
      match site.addNode (path target) node with
      | .ok site => setSite site
      | .error cause =>
        complain ("cannot create link " ++ quoted target ++ " to " ++ quoted source ++ ": " ++ cause.reason)
  | _ :: _ :: extra :: _ => misuse 1 ("extra operand " ++ cited extra)

/-- Takes one name away from a file. -/
def removeName (arguments : List Octets) : Tool Unit := do
  match arguments with
  | [] => misuse 1 "missing operand"
  | [operand] =>
    match (← site).remove (path operand) with
    | .ok site => setSite site
    | .error cause => complain ("cannot unlink " ++ quoted operand ++ ": " ++ cause.reason)
  | _ :: extra :: _ => misuse 1 ("extra operand " ++ cited extra)

def isEmptyDirectory : Node → Bool
  | .directory [] _ => true
  | _ => false

/-- Removes one name, and tells whether that was possible. -/
def removeEntry (o : Options) (shown : Octets) (place : Place) (isDirectory : Bool) : Tool Bool := do
  match (← site).detach place with
  | .ok site =>
    setSite site
    if o.has 'v' then
      printLine (Octets.ofString ((if isDirectory then "removed directory " else "removed ") ++ quoted shown))
    return true
  | .error cause =>
    complain ("cannot remove " ++ quoted shown ++ ": " ++ cause.reason)
    return false

mutual

/-- Removes a tree, what is inside first, and tells whether that was possible. -/
def removeTree (o : Options) (shown : Octets) (place : Place) : Node → Tool Bool
  | .directory entries _ => do
    let site ← site
    if !site.allows .read place then
      if entries.isEmpty then removeEntry o shown place true
      else
        complain ("cannot remove " ++ quoted shown ++ ": " ++ Fault.permissionDenied.reason)
        return false
    else if ← removeTrees o shown place entries then removeEntry o shown place true
    else return false
  | _ => do
    if (← site).allows .enter place.dropLast then removeEntry o shown place false
    else
      complain ("cannot remove " ++ quoted shown ++ ": " ++ Fault.permissionDenied.reason)
      return false

def removeTrees (o : Options) (shown : Octets) (place : Place) : List (String × Node) → Tool Bool
  | [] => return true
  | (name, node) :: rest => do
    let removed ← removeTree o (inside shown (Octets.ofString name)) (place ++ [name]) node
    let others ← removeTrees o shown place rest
    return removed && others

end

/-- Asks whether something is to be removed; the answer is a line of the input. -/
def agrees (question : String) : Tool Bool := do
  write 2 (Octets.ofString ((← get).name ++ ": " ++ question ++ "? "))
  let line ← inputPart 1 fun text =>
    (text.findIdx? (· = '\n')).map (· + 1)
  return line.head? = some 'y' || line.head? = some 'Y'

def fileKind : Node → String
  | .file content attributes =>
    match attributes.kind with
    | .pipe => "fifo"
    | .sink | .zeros | .full | .noise => "character special file"
    | .regular => if content.isEmpty then "regular empty file" else "regular file"
  | .link _ => "symbolic link"
  | .directory .. => "directory"

def removeOne (o : Options) (operand : Octets) : Tool Unit := do
  let site ← site
  let name := lastName operand
  let deep := o.has 'r' || o.has 'R'
  if deep && (name = ['.'] || name = ['.', '.']) then
    complain ("refusing to remove '.' or '..' directory: skipping " ++ quoted operand)
  else match site.find false (path operand) with
    | .error cause =>
      if !(o.has 'f' && (cause = .notFound || cause = .notDirectory)) then
        complain ("cannot remove " ++ quoted operand ++ ": " ++ cause.reason)
    | .ok (place, node) =>
      if !node.isDirectory || deep || (o.has 'd' && isEmptyDirectory node) then
        if deep && place = [] then
          complain ("it is dangerous to operate recursively on " ++ quoted operand ++
            "\nrm: use --no-preserve-root to override this failsafe")
        else
          let asks := o.last? "fiI" = some 'i'
          if asks then
            if !(← agrees ("remove " ++ fileKind node ++ " " ++ quoted operand)) then return
          let _ ← removeTree o operand place node
      else
        let reason := if o.has 'd' then "Directory not empty" else "Is a directory"
        complain ("cannot remove " ++ quoted operand ++ ": " ++ reason)

def remove (arguments : List Octets) : Tool Unit :=
  withOptions
    { letters := "rRfdviI", optional := "#i"
      long := [("recursive", 'r'), ("force", 'f'), ("dir", 'd'), ("verbose", 'v'), ("interactive", 'i'),
        ("one-file-system", '#'), ("no-preserve-root", '#'), ("preserve-root", '#')] }
    1 arguments fun o => do
      if o.operands = [] && !o.has 'f' then misuse 1 "missing operand"
      forEach o.operands (removeOne o)

def removeEmpty (o : Options) (operand : Octets) : Tool Unit := do
  if o.has 'v' then printLine (Octets.ofString ((← get).name ++ ": removing directory, " ++ quoted operand))
  let site ← site
  match site.find false (path operand) with
  | .error cause => complain ("failed to remove " ++ quoted operand ++ ": " ++ cause.reason)
  | .ok (place, node) =>
    if !node.isDirectory then
      complain ("failed to remove " ++ quoted operand ++ ": Not a directory")
    else if lastName operand = ['.'] then
      complain ("failed to remove " ++ quoted operand ++ ": Invalid argument")
    else if !(site.requireChange place.dropLast).isOk then
      complain ("failed to remove " ++ quoted operand ++ ": " ++ Fault.permissionDenied.reason)
    else if isEmptyDirectory node then setSite (site.eraseAt place)
    else if !o.has 'i' then
      complain ("failed to remove " ++ quoted operand ++ ": Directory not empty")

/-- The path and those that its names lead through, the longest first. -/
def prefixes (operand : Octets) : List Octets :=
  (path operand).ancestors.filterMap fun p =>
    let text := withoutSlashes (Octets.ofString p.text)
    if text = [] || text = ['/'] || text = ['.'] then none else some text

def removeDirectories (arguments : List Octets) : Tool Unit :=
  withOptions
    { letters := "pv"
      long := [("parents", 'p'), ("verbose", 'v'), ("ignore-fail-on-non-empty", 'i')] }
    1 arguments fun o => do
      if o.operands = [] then misuse 1 "missing operand"
      forEach o.operands fun operand => do
        if o.has 'p' then
          for p in prefixes operand do if (← get).status = 0 then removeEmpty o p
        else removeEmpty o operand

/-- Makes a directory, which may get permissions of its own, and those above it if that is asked for.
The owner may use those in any case. -/
def makeDirectory (o : Options) (mode : Option Nat) (operand : Octets) : Tool Unit := do
  let parents := o.has 'p'
  let last := withoutSlashes operand
  for p in (if parents then (prefixes operand).reverse else [last]) do
    if (← get).status = 0 || !parents then
      let usual := (← site).permitted 0o777
      let mode := if p = last then mode.getD usual else Nat.lor usual 0o300
      match (← site).addNode (path p) (.directory [] mode) with
      | .ok site =>
        setSite site
        if o.has 'v' then
          printLine (Octets.ofString ((← get).name ++ ": created directory " ++ quoted p))
      | .error cause =>
        if parents && cause = .alreadyExists && (← isDirectory p) then pure ()
        else
          let shown := if parents then p else operand
          let cause := if parents && cause = .alreadyExists && p.length < last.length then
            Fault.notDirectory else cause
          complain ("cannot create directory " ++ cited shown ++ ": " ++ cause.reason)

def makeDirectories (arguments : List Octets) : Tool Unit :=
  withOptions
    { letters := "pv", valued := "m"
      long := [("parents", 'p'), ("verbose", 'v'), ("mode", 'm')] }
    1 arguments fun o => do
      if o.operands = [] then misuse 1 "missing operand"
      else
        let mask := (← site).mask
        match o.value? 'm' with
        | none => forEach o.operands (makeDirectory o none)
        | some text =>
          match Permissions.changes? text with
          | none => complain ("invalid mode " ++ cited text)
          | some changes =>
            forEach o.operands (makeDirectory o (some (Permissions.changed true mask changes 0o777)))

/-- Makes a file of a kind that has a mode of its own. -/
def makePipes (arguments : List Octets) : Tool Unit :=
  withOptions { letters := "", valued := "m", long := [("mode", 'm')] } 1 arguments fun o => do
    if o.operands = [] then misuse 1 "missing operand"
    forEach o.operands fun operand => do
      let site ← site
      let mode := match (o.value? 'm').bind Permissions.changes? with
        | some changes => Permissions.changed false site.mask changes 0o666
        | none => site.plainMode
      let node := match site.newFile [] mode with
        | .file content attributes => Node.file content { attributes with kind := .pipe }
        | node => node
      match site.addNode (path operand) node with
      | .ok site => setSite site
      | .error cause => complain ("cannot create fifo " ++ quoted operand ++ ": " ++ cause.reason)

def touch (arguments : List Octets) : Tool Unit :=
  withOptions
    { letters := "acmfh", valued := "drt", optional := "#"
      long := [("no-create", 'c'), ("date", 'd'), ("reference", 'r'), ("no-dereference", 'h'),
        ("time", '#')] }
    1 arguments fun o => do
      let now := (← site).now
      let here ← site
      let time : Except String Int := match o.value? 't', o.value? 'd', o.value? 'r' with
        | some text, _, _ => match stamp? now text with
          | some moment => .ok moment
          | none => .error ("invalid date format " ++ cited text)
        | none, some text, _ => match moment? now text with
          | some moment => .ok moment
          | none => .error ("invalid date format " ++ cited text)
        | none, none, some model => match here.node (path model) with
          | .ok node => .ok (modifiedOf node)
          | .error cause => .error ("failed to get attributes of " ++ quoted model ++ ": " ++ cause.reason)
        | none, none, none => .ok now
      match time with
      | .error message => complain message
      | .ok time =>
        if o.operands = [] then misuse 1 "missing file operand"
        for operand in o.operands do
          let site ← site
          match site.find true (path operand) with
          | .ok (place, _) =>
            if !o.has 'a' || o.has 'm' then
              setSite (site.changeFile place fun content a => .file content { a with modified := time })
          | .error cause =>
            if !o.has 'c' then
              match if cause = .notFound then { site with now := time }.write (path operand) [] none else .error cause with
              | .ok changed => setSite { changed with now := site.now }
              | .error cause => complain ("cannot touch " ++ quoted operand ++ ": " ++ cause.reason)
            else if cause ≠ .notFound then
              complain ("cannot touch " ++ quoted operand ++ ": " ++ cause.reason)

/-- The size that is asked for, given the size that a file has. -/
def newSize? (text : Octets) (old : Nat) : Option Nat :=
  match text.dropWhile Octets.isSpace with
  | '+' :: rest => (size? rest).map (old + ·)
  | '-' :: rest => (size? rest).map (old - ·)
  | '<' :: rest => (size? (rest.dropWhile Octets.isSpace)).map (min old)
  | '>' :: rest => (size? (rest.dropWhile Octets.isSpace)).map (max old)
  | '/' :: rest => (size? (rest.dropWhile Octets.isSpace)).bind fun n => if n = 0 then none else some (old / n * n)
  | '%' :: rest => (size? (rest.dropWhile Octets.isSpace)).bind fun n =>
    if n = 0 then none else some ((old + n - 1) / n * n)
  | text => size? text

def truncate (arguments : List Octets) : Tool Unit :=
  withOptions
    { letters := "co", valued := "sr"
      long := [("no-create", 'c'), ("size", 's'), ("reference", 'r'), ("io-blocks", 'o')] }
    1 arguments fun o => do
      match o.value? 's', o.value? 'r' with
      | none, none => misuse 1 "you must specify either ‘--size’ or ‘--reference’"
      | text, model =>
        match text.filter fun t => (newSize? t 0).isNone with
        | some text => complain ("Invalid number: " ++ cited text)
        | none =>
          let modelSize ← match model with
            | none => pure none
            | some model => match (← site).read (path model) with
              | .ok content => pure (some content.length)
              | .error cause =>
                complain ("cannot stat " ++ quoted model ++ ": " ++ cause.reason)
                return
          if o.operands = [] then misuse 1 "missing file operand"
          for operand in o.operands do
            let site ← site
            if o.has 'c' && !site.exists? (path operand) then pure ()
            else
              let content := ((site.find true (path operand)).toOption.bind fun found =>
                match found.2 with
                | .file content _ => some content
                | _ => none).getD []
              let old := modelSize.getD content.length
              let size := (text.bind fun t => newSize? t old).getD old
              let bytes := content.take size ++ List.replicate (size - content.length) 0
              match ← writeFile (path operand) bytes none with
              | .ok () => pure ()
              | .error cause =>
                complain ("cannot open " ++ quoted operand ++ " for writing: " ++ cause.reason)

/-- Copies files with a mode, and makes directories. -/
def install (arguments : List Octets) : Tool Unit :=
  withOptions
    { letters := "dDvTpcCsb", valued := "mtogS"
      long := [("directory", 'd'), ("mode", 'm'), ("target-directory", 't'), ("verbose", 'v'),
        ("no-target-directory", 'T'), ("preserve-timestamps", 'p'), ("owner", 'o'), ("group", 'g'),
        ("compare", 'C'), ("strip", 's'), ("backup", 'b'), ("suffix", 'S')] }
    1 arguments fun o => do
      let mode := match (o.value? 'm').bind Permissions.changes? with
        | some changes => Permissions.changed (o.has 'd') 0 changes 0
        | none => 0o755
      if o.has 'd' then
        if o.operands = [] then misuse 1 "missing file operand"
        for operand in o.operands do
          makeDirectory { o with given := ('p', []) :: o.given } (some mode) operand
      else
        if o.has 'D' then
          let goal := match o.value? 't' with
            | some directory => some (path directory)
            | none => if o.operands.length = 2 then (path (o.operands.getLast?.getD [])).parent? else none
          if let some directory := goal then setSite ((← site).makeDirectories directory)
        withTarget o "file" fun source target => do
          match (← site).node (path source) with
          | .error cause => complain ("cannot stat " ++ quoted source ++ ": " ++ cause.reason)
          | .ok (.directory ..) => complain ("omitting directory " ++ quoted source)
          | .ok (.link _) => return
          | .ok (.file content attributes) =>
            keepBackup o target
            let site ← Tool.site
            let site := (site.remove (path target)).toOption.getD site
            let now := if o.has 'p' then attributes.modified else site.now
            match { site with now := now }.write (path target) content (some mode) with
            | .ok changed =>
              setSite { changed with now := site.now }
              if o.has 'v' then printLine (Octets.ofString (quoted source ++ " -> " ++ quoted target))
            | .error cause =>
              complain ("cannot create regular file " ++ quoted target ++ ": " ++ cause.reason)

end ScopedCheck.Script.Tool
