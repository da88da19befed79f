import ScopedCheck.FileSystem.Site

namespace ScopedCheck.Declarations

def suffix : String := ".d.ts"

/-- The directory of installed packages. -/
def packageDirectory : String := "node_modules"

def isDeclaration (name : String) : Bool :=
  suffix.toList.isSuffixOf name.toList

/-- Names in the order of their bytes. -/
def nameLe (a b : String) : Bool :=
  decide (Utf8.encode a ≤ Utf8.encode b)

/-- Puts what was found below each entry into the order of the entries' names; the first entry in
that order which cannot be searched fails them all. -/
def inNameOrder (found : List (String × Except Failure (List Path))) : Except Failure (List Path) :=
  ((found.mergeSort fun a b => nameLe a.1 b.1).mapM Prod.snd).map List.flatten

/-- Refuses to read a directory by its path. That must not be too long, the directory above must let one
enter it, and the directory itself must let one read it. -/
def requireListing (path : Path) (reachable owned : Bool) (directory : Node) : Except Failure Unit :=
  if path.isTooLong then .error (.directoryUnreadable path .nameTooLong)
  else if reachable && directory.allows owned .read then .ok ()
  else .error (.directoryUnreadable path .permissionDenied)

mutual

/-- The declarations at or below an entry with this name and path. Who searches owns some of the places
below it, and may be able to reach it or not, as the directory that holds it allows. -/
def below (path : Path) (owned : Place → Bool) (reachable : Bool) (name : String) :
    Node → Except Failure (List Path)
  | .directory entries mode =>
    if name = packageDirectory then .ok []
    else match requireListing path reachable (owned []) (.directory entries mode) with
      | .error failure => .error failure
      | .ok () =>
        inNameOrder (belowEach path owned ((Node.directory entries mode).allows (owned []) .enter) entries)
  | _ => .ok (if isDeclaration name then [path] else [])

def belowEach (directory : Path) (owned : Place → Bool) (reachable : Bool) :
    List (String × Node) → List (String × Except Failure (List Path))
  | [] => []
  | (name, node) :: rest =>
    (name, below (directory.child name) (fun place => owned (name :: place)) reachable name node)
      :: belowEach directory owned reachable rest

end

/-- The declarations below a directory that was reached by its path, whatever its own name is. -/
def inDirectory (path : Path) (owned : Place → Bool) (entries : Entries) (mode : Nat) :
    Except Failure (List Path) :=
  match requireListing path true (owned []) (.directory entries mode) with
  | .error failure => .error failure
  | .ok () =>
    inNameOrder (belowEach path owned ((Node.directory entries mode).allows (owned []) .enter) entries)

/-- The root itself, when it is no directory and its name says so. -/
def rootItself (root : Path) : List Path :=
  if isDeclaration (root.fileName?.getD root.text) then [root] else []

/-- The declarations below a root, in the order of their names component by component. A root that
is a link is followed, and counts as an entry beside what it leads to. -/
def collect (site : Site) (root : Path) : Except Failure (List Path) :=
  match site.find false root with
  | .error cause => .error (.directoryUnreadable root cause)
  | .ok (place, .directory entries mode) => inDirectory root (site.ownedBelow place) entries mode
  | .ok (_, .file ..) => .ok (rootItself root)
  | .ok (_, .link _) =>
    match site.find true root with
    | .error cause => .error (.directoryUnreadable root cause)
    | .ok (place, .directory entries mode) =>
      (inDirectory root (site.ownedBelow place) entries mode).map (rootItself root ++ ·)
    | .ok _ => .ok (rootItself root)

end ScopedCheck.Declarations
