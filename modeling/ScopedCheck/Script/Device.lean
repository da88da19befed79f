import ScopedCheck.FileSystem.Node
import ScopedCheck.Script.Octets

namespace ScopedCheck

/-- Whether there is no end of what can be read from a file. -/
def FileKind.isEndless : FileKind → Bool
  | .zeros | .full | .noise => true
  | _ => false

namespace Script

/-- So many bytes of a device. -/
def deviceBytes (kind : FileKind) (count : Nat) : Octets :=
  match kind with
  | .noise =>
    let step (seed : Nat) : Nat := (seed * 1103515245 + 12345) % 2147483648
    ((List.range count).foldl (fun (state : Nat × Octets) _ =>
      let seed := step state.1
      (seed, Char.ofNat (seed / 65536 % 256) :: state.2)) (count, [])).2
  | _ => List.replicate count '\x00'

/-- How many bytes of a device there are to read at once. -/
def deviceCount : Nat := 65536

/-- How many bytes of a device are read at most where its end is looked for. -/
def deviceLimit : Nat := 4194304

end Script

end ScopedCheck
