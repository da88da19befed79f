import ScopedCheck.Path
import ScopedCheck.Text.Utf8

namespace ScopedCheck

/-- What becomes of what is written to a file. -/
inductive FileKind where
  /-- The file keeps it. -/
  | regular
  /-- It goes to those who read from the file at the same time. -/
  | pipe
  /-- Nothing is kept, and there is nothing to read. -/
  | sink
  /-- Nothing is kept, and there is no end of zeros to read. -/
  | zeros
  /-- Nothing can be written, and there is no end of zeros to read. -/
  | full
  /-- Nothing is kept, and there is no end of bytes to read that nobody can foresee. -/
  | noise
  deriving DecidableEq, Repr, Inhabited

/-- What is known of a file besides its content. -/
structure Attributes where
  /-- The permissions. -/
  mode : Nat := 0o644
  kind : FileKind := .regular
  /-- What the names of one file have in common; files without an identity have one name each. -/
  identity : Nat := 0
  /-- When the content was changed, in microseconds. -/
  modified : Int := 0
  deriving DecidableEq, Repr, Inhabited

/-- What somebody may do with a file, or with the entries of a directory. -/
inductive Access where
  | read
  | write
  /-- To run a file, or to look an entry of a directory up by its name. -/
  | enter
  deriving DecidableEq, Repr

def Access.bit : Access → Nat
  | read => 4
  | write => 2
  | enter => 1

namespace Attributes

/-- Whether anybody may run the file. -/
def executable (a : Attributes) : Bool :=
  Nat.land a.mode 0o111 ≠ 0

end Attributes

/-- A directory holds its entries in some order, which nothing but a listing can see. A file may have
several names, which then share its identity. -/
inductive Node where
  | file (content : Utf8.Bytes) (attributes : Attributes)
  | link (target : Path)
  | directory (entries : List (String × Node)) (mode : Nat := 0o755)
  deriving Repr, Inhabited

abbrev Entries := List (String × Node)

/-- The names on the way down from the root. -/
abbrev Place := List String

namespace Entries

def get? (name : String) (entries : Entries) : Option Node :=
  entries.lookup name

def insert (name : String) (node : Node) : Entries → Entries
  | [] => [(name, node)]
  | entry :: rest => if entry.1 = name then (name, node) :: rest else entry :: insert name node rest

def erase (name : String) (entries : Entries) : Entries :=
  entries.filter (·.1 ≠ name)

end Entries

namespace Node

def isDirectory : Node → Bool
  | directory .. => true
  | _ => false

/-- Whether a node is a file that keeps its content. -/
def isFile : Node → Bool
  | file _ attributes => attributes.kind = .regular
  | _ => false

/-- Whether a node is a file that keeps nothing. -/
def isDevice : Node → Bool
  | file _ attributes => attributes.kind ≠ .regular && attributes.kind ≠ .pipe
  | _ => false

/-- The permissions of a node; those of links are always the same. -/
def mode : Node → Nat
  | file _ attributes => attributes.mode
  | link _ => 0o777
  | directory _ mode => mode

/-- Whether a node may be used in a way by its owner, or by those who do not own it. -/
def allows (owned : Bool) (access : Access) (node : Node) : Bool :=
  Nat.land (if owned then node.mode / 64 else node.mode) access.bit ≠ 0

/-- The node at a place; no link is followed. -/
def at? : Node → Place → Option Node
  | node, [] => some node
  | directory entries _, name :: rest =>
    match Entries.get? name entries with
    | some node => node.at? rest
    | none => none
  | _, _ :: _ => none

/-- Changes the entries of the directory at a place. -/
def alter (change : Entries → Entries) : Place → Node → Node
  | [], directory entries mode => directory (change entries) mode
  | name :: rest, directory entries mode =>
    directory (entries.map fun entry =>
      if entry.1 = name then (name, alter change rest entry.2) else entry) mode
  | _, node => node

mutual

/-- The greatest identity of the files at and below a node. -/
def greatestIdentity : Node → Nat
  | file _ attributes => attributes.identity
  | link _ => 0
  | directory entries _ => greatestIdentityOf entries

def greatestIdentityOf : List (String × Node) → Nat
  | [] => 0
  | (_, node) :: rest => max node.greatestIdentity (greatestIdentityOf rest)

end

mutual

/-- The file of an identity at or below a node. -/
def ofIdentity? (identity : Nat) : Node → Option (Utf8.Bytes × Attributes)
  | file content attributes =>
    if attributes.identity = identity then some (content, attributes) else none
  | link _ => none
  | directory entries _ => ofIdentityIn? identity entries

def ofIdentityIn? (identity : Nat) : List (String × Node) → Option (Utf8.Bytes × Attributes)
  | [] => none
  | (_, node) :: rest =>
    match node.ofIdentity? identity with
    | some found => some found
    | none => ofIdentityIn? identity rest

end

mutual

/-- Where the file of an identity is below a node. -/
def placeOf? (identity : Nat) : Node → Option Place
  | file _ attributes => if attributes.identity = identity then some [] else none
  | link _ => none
  | directory entries _ => placeIn? identity entries

def placeIn? (identity : Nat) : List (String × Node) → Option Place
  | [] => none
  | (name, node) :: rest =>
    match node.placeOf? identity with
    | some place => some (name :: place)
    | none => placeIn? identity rest

end

mutual

/-- Changes the file of an identity under all of its names. -/
def rewrite (identity : Nat) (change : Utf8.Bytes → Attributes → Node) : Node → Node
  | file content attributes =>
    if attributes.identity = identity then change content attributes else file content attributes
  | link target => link target
  | directory entries mode => directory (rewriteAll identity change entries) mode

def rewriteAll (identity : Nat) (change : Utf8.Bytes → Attributes → Node) :
    List (String × Node) → List (String × Node)
  | [] => []
  | (name, node) :: rest => (name, node.rewrite identity change) :: rewriteAll identity change rest

end

mutual

/-- The paths below a node: a directory ends in a slash, a link in an at sign. -/
def listing (path : String) : Node → List String
  | file .. => [path]
  | link _ => [path ++ "@"]
  | directory entries _ => (path ++ "/") :: listEntries (path ++ "/") entries

def listEntries (directory : String) : List (String × Node) → List String
  | [] => []
  | (name, node) :: rest => node.listing (directory ++ name) ++ listEntries directory rest

end

end Node

end ScopedCheck
