import ScopedCheck.FileSystem.Resolve

namespace ScopedCheck

/-- The files as a program sees them. The directory from which relative paths start may have been removed,
and then no relative path leads anywhere. -/
structure Site where
  root : Node
  directory : Option Place
  now : Int := 0
  /-- The identities up to this one are not given to new files. -/
  reserved : Nat := 0
  /-- The permissions that new files do not get. -/
  mask : Nat := 0o022
  /-- Where all belongs to the one who looks. -/
  domain : Place := []
  deriving Repr, Inhabited

namespace Site

/-- Where a path leads; a link at its end is followed if that is asked for. -/
def locate (site : Site) (followLast : Bool) (path : Path) : Except Fault Arrival :=
  if path.text.toList.contains '\x00' then .error .nulCharacter
  else if path.text = "" then .error .notFound
  else if path.isTooLong then .error .nameTooLong
  else
    match if path.isAbsolute then some [] else site.directory with
    | none => .error .notFound
    | some start => site.root.resolve site.domain followLast maxLinks start path.segments

/-- The place of something that exists, and what is there. A directory that was removed while one was
in it is empty. -/
def find (site : Site) (followLast : Bool) (path : Path) : Except Fault (Place × Node) := do
  match ← site.locate followLast path with
  | .vacant .. => throw .notFound
  | .existing place =>
    match site.root.at? place with
    | some node => return (place, node)
    | none => if site.directory = some place then return (place, .directory []) else throw .notFound

/-- What a path leads to, all links followed. -/
def node (site : Site) (path : Path) : Except Fault Node :=
  (site.find true path).map Prod.snd

def exists? (site : Site) (path : Path) : Bool :=
  (site.node path).isOk

/-- Whether anything is at a path, be it a link that leads nowhere. -/
def occupied (site : Site) (path : Path) : Bool :=
  (site.find false path).isOk

def isFile (site : Site) (path : Path) : Bool :=
  match site.node path with
  | .ok node => node.isFile
  | .error _ => false

/-- Whether what is at a place below another one belongs to the one who looks. -/
def ownedBelow (site : Site) (place below : Place) : Bool :=
  site.domain.isPrefixOf (place ++ below)

/-- Whether what is at a place may be used in a way. -/
def allows (site : Site) (access : Access) (place : Place) : Bool :=
  match site.root.at? place with
  | some node => node.allows (site.domain.isPrefixOf place) access
  | none => site.directory = some place

/-- Whether what a path leads to may be used in a way. -/
def permits (site : Site) (access : Access) (path : Path) : Bool :=
  (site.find true path).toOption.any fun found => site.allows access found.1

/-- Refuses what a place does not allow. -/
def require (site : Site) (access : Access) (place : Place) : Except Fault Unit :=
  if site.allows access place then .ok () else .error .permissionDenied

/-- Refuses to add or to remove entries of a directory that does not allow it. -/
def requireChange (site : Site) (directory : Place) : Except Fault Unit := do
  site.require .write directory
  site.require .enter directory

def isProgram (site : Site) (path : Path) : Bool :=
  site.isFile path && site.permits .enter path

/-- The content of a file that may be read. -/
def contentAt (site : Site) (place : Place) : Except Fault Utf8.Bytes := do
  site.require .read place
  match site.root.at? place with
  | some (.file content _) => return content
  | _ => throw .isDirectory

def read (site : Site) (path : Path) : Except Fault Utf8.Bytes := do
  let (place, _) ← site.find true path
  site.contentAt place

def readText (site : Site) (path : Path) : Except Fault String := do
  match Utf8.decode? (← site.read path) with
  | some text => return text
  | none => throw .notText

def alter (site : Site) (place : Place) (change : Entries → Entries) : Site :=
  { site with root := site.root.alter change place }

/-- Removes whatever is at a place. -/
def eraseAt (site : Site) (place : Place) : Site :=
  match place.getLast? with
  | some name => site.alter place.dropLast (Entries.erase name)
  | none => site

/-- Removes whatever is at a place, if its directory allows that. -/
def detach (site : Site) (place : Place) : Except Fault Site := do
  site.requireChange place.dropLast
  return site.eraseAt place

/-- Puts a node into a directory that allows that, in the place of what has its name. -/
def attach (site : Site) (directory : Place) (name : String) (node : Node) : Except Fault Site := do
  site.requireChange directory
  return site.alter directory (Entries.insert name node)

/-- The identity of the next new file, which no other one has. -/
def nextIdentity (site : Site) : Nat :=
  max site.root.greatestIdentity site.reserved + 1

/-- A file that is like no other one. -/
def newFile (site : Site) (content : Utf8.Bytes) (mode : Nat) : Node :=
  .file content { mode := mode, modified := site.now, identity := site.nextIdentity }

/-- The permissions of a new file that asks for all of these. -/
def permitted (site : Site) (mode : Nat) : Nat :=
  Nat.land mode (Nat.xor 0o777 (Nat.land site.mask 0o777))

/-- The permissions of a new file that nobody has to run. -/
def plainMode (site : Site) : Nat :=
  site.permitted 0o666

/-- Adds a file where nothing is yet, not even a link. -/
def create (site : Site) (path : Path) (content : Utf8.Bytes) (mode : Nat) : Except Fault Site := do
  match ← site.locate false path with
  | .existing _ => throw .alreadyExists
  | .vacant directory name =>
    site.requireChange directory
    return site.alter directory (Entries.insert name (site.newFile content (site.permitted mode)))

/-- Removes a file or a link, never what the link leads to. -/
def remove (site : Site) (path : Path) : Except Fault Site := do
  let (place, node) ← site.find false path
  site.requireChange place.dropLast
  if node.isDirectory then throw .isDirectory
  return site.eraseAt place

/-- Changes the file at a place, under all of its names. -/
def changeFile (site : Site) (place : Place) (change : Utf8.Bytes → Attributes → Node) : Site :=
  match site.root.at? place with
  | some (.file content attributes) =>
    if attributes.identity = 0 then
      match place.getLast? with
      | some name => site.alter place.dropLast (Entries.insert name (change content attributes))
      | none => site
    else { site with root := site.root.rewrite attributes.identity change }
  | _ => site

/-- Replaces the content of a file that is open for writing. It is the file of an identity, wherever
that is by now; its permissions were asked for when it was opened, and do not matter any more. -/
def writeOpen (site : Site) (identity : Nat) (content : Utf8.Bytes) : Site :=
  let change (_ : Utf8.Bytes) (attributes : Attributes) : Node :=
    .file content { attributes with modified := site.now }
  { site with root := site.root.rewrite identity change }

/-- Changes the permissions of what is at a place; a link has none of its own. -/
def changeMode (site : Site) (place : Place) (mode : Nat) : Site :=
  match site.root.at? place, place.getLast? with
  | some (.directory entries _), none => { site with root := .directory entries mode }
  | some (.directory entries _), some name =>
    site.alter place.dropLast (Entries.insert name (.directory entries mode))
  | some (.file ..), _ =>
    site.changeFile place fun content attributes => .file content { attributes with mode := mode }
  | _, _ => site

/-- Replaces the content of a file, or adds the file; links are followed. The mode of a file that
exists is kept unless a new one is given. -/
def write (site : Site) (path : Path) (content : Utf8.Bytes) (mode : Option Nat) :
    Except Fault Site := do
  match ← site.locate true path with
  | .vacant directory name =>
    site.requireChange directory
    return site.alter directory (Entries.insert name (site.newFile content (mode.getD site.plainMode)))
  | .existing place =>
    match site.root.at? place with
    | some (.file _ attributes) =>
      site.require .write place
      if attributes.kind ≠ .regular then return site
      else
        return site.changeFile place fun _ attributes =>
          .file content { attributes with mode := mode.getD attributes.mode, modified := site.now }
    | _ => throw .isDirectory

/-- Adds a directory or a link where nothing is yet. -/
def addNode (site : Site) (path : Path) (node : Node) : Except Fault Site := do
  match ← site.locate false path with
  | .existing _ => throw .alreadyExists
  | .vacant directory name =>
    site.requireChange directory
    return site.alter directory (Entries.insert name node)

/-- Adds a directory and those above it, as far as they are missing. -/
def makeDirectories (site : Site) (path : Path) : Site :=
  path.ancestors.foldr (fun p site => (site.addNode p (.directory [])).toOption.getD site) site

/-- Makes the directories above a path. -/
def makeParents (site : Site) (path : Path) : Site :=
  match path.parent? with
  | some parent => site.makeDirectories parent
  | none => site

/-- The same files, seen from another directory. -/
def enter (site : Site) (path : Path) : Except Fault Site := do
  match ← site.find true path with
  | (place, .directory ..) =>
    site.require .enter place
    return { site with directory := some place }
  | _ => throw .notDirectory

/-- Removes the directory the site is seen from. -/
def removeDirectory (site : Site) : Site :=
  { (site.directory.map site.eraseAt).getD site with directory := none }

/-- The path of the directory, without any link in it. -/
def directoryPath (site : Site) : Except Fault Path :=
  match site.directory with
  | none => .error .notFound
  | some place => .ok (Path.ofNames place)

/-- The entries below the directory, as `Node.listing` writes them. -/
def listing (site : Site) : List String :=
  match site.directory.bind site.root.at? with
  | some (.directory entries _) => Node.listEntries "" entries
  | _ => []

end Site

end ScopedCheck
