import ScopedCheck.Failure
import ScopedCheck.FileSystem.Node

namespace ScopedCheck

def maxNameBytes : Nat := 255

def maxPathBytes : Nat := 4095

/-- So many links are followed for one path, and no more. -/
def maxLinks : Nat := 40

def Path.isTooLong (path : Path) : Bool :=
  maxPathBytes < (Utf8.encode path.text).length

/-- How far segments lead without following a link. -/
inductive Stop where
  | arrived (place : Place)
  /-- Only the last name is missing. -/
  | vacant (directory : Place) (name : String)
  | link (directory : Place) (target : Path) (rest : List String)
  | refused (cause : Fault)
  deriving Repr

/-- Where a path leads. -/
inductive Arrival where
  | existing (place : Place)
  | vacant (directory : Place) (name : String)
  deriving DecidableEq, Repr

namespace Node

/-- Walks from a place down to the end of the segments or to the first link that must be followed.
A segment that names nothing still asks for a directory. A directory that was removed has nothing in
it. -/
def advance (root : Node) (domain : Place) (followLast : Bool) : Place → List String → Stop
  | here, [] => .arrived here
  | here, segment :: rest =>
    match root.at? here with
    | some (.directory entries mode) =>
      if segment = "" then advance root domain followLast here rest
      else if !(directory entries mode).allows (domain.isPrefixOf here) .enter then
        .refused .permissionDenied
      else if segment = "." then advance root domain followLast here rest
      else if segment = ".." then advance root domain followLast here.dropLast rest
      else if maxNameBytes < (Utf8.encode segment).length then .refused .nameTooLong
      else match Entries.get? segment entries with
        | none => if rest = [] then .vacant here segment else .refused .notFound
        | some (.link target) =>
          if rest = [] && !followLast then .arrived (here ++ [segment])
          else .link here target rest
        | some _ => advance root domain followLast (here ++ [segment]) rest
    | some _ => .refused .notDirectory
    | none =>
      if segment = "" || segment = "." then advance root domain followLast here rest
      else if segment = ".." then advance root domain followLast here.dropLast rest
      else .refused .notFound

/-- Where the segments lead when at most so many links are followed. -/
def resolve (root : Node) (domain : Place) (followLast : Bool) :
    (links : Nat) → Place → List String → Except Fault Arrival
  | links, here, segments =>
    match root.advance domain followLast here segments with
    | .arrived place => .ok (.existing place)
    | .vacant holder name => .ok (.vacant holder name)
    | .refused cause => .error cause
    | .link holder target rest =>
      match links with
      | 0 => .error .tooManyLinks
      | links + 1 =>
        root.resolve domain followLast links (if target.isAbsolute then [] else holder)
          (target.segments ++ rest)

end Node

end ScopedCheck
