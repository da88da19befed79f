namespace ScopedCheck.Letters

/-- Stretches of capital letters, each with the distance to its small letters. -/
def shifts : List (Nat × Nat × Nat) :=
  [(0x41, 0x5A, 32), (0xC0, 0xD6, 32), (0xD8, 0xDE, 32), (0x391, 0x3A1, 32), (0x3A3, 0x3AB, 32),
   (0x400, 0x40F, 80), (0x410, 0x42F, 32), (0x531, 0x556, 48)]

/-- Stretches in which each capital letter, at an even place from the start, comes right before its
small letter. -/
def pairs : List (Nat × Nat) :=
  [(0x100, 0x12F), (0x132, 0x137), (0x139, 0x148), (0x14A, 0x177), (0x179, 0x17E), (0x1E00, 0x1E95),
   (0x1EA0, 0x1EFF), (0x460, 0x481), (0x48A, 0x4BF), (0x4D0, 0x52F)]

def toLower (c : Char) : Char :=
  let n := c.toNat
  match shifts.find? fun (low, high, _) => low ≤ n && n ≤ high with
  | some (_, _, distance) => Char.ofNat (n + distance)
  | none =>
    match pairs.find? fun (low, high) => low ≤ n && n ≤ high with
    | some (low, _) => if (n - low) % 2 = 0 then Char.ofNat (n + 1) else c
    | none => c

def toUpper (c : Char) : Char :=
  let n := c.toNat
  match shifts.find? fun (low, high, distance) => low + distance ≤ n && n ≤ high + distance with
  | some (_, _, distance) => Char.ofNat (n - distance)
  | none =>
    match pairs.find? fun (low, high) => low ≤ n && n ≤ high with
    | some (low, _) => if (n - low) % 2 = 1 then Char.ofNat (n - 1) else c
    | none => c

def isUpper (c : Char) : Bool := toLower c ≠ c

def isLower (c : Char) : Bool := toUpper c ≠ c || c = 'ß'

/-- Writing systems without cases. -/
def caseless : List (Nat × Nat) :=
  [(0xAA, 0xAA), (0xBA, 0xBA), (0x17F, 0x24F), (0x250, 0x2AF), (0x370, 0x3FF), (0x5D0, 0x5EA),
   (0x620, 0x64A), (0x671, 0x6D3), (0x904, 0x939), (0xE01, 0xE30), (0x10A0, 0x10FF),
   (0x1100, 0x11FF), (0x1F00, 0x1FFC), (0x3041, 0x3096), (0x30A1, 0x30FA), (0x3400, 0x4DBF),
   (0x4E00, 0x9FFF), (0xAC00, 0xD7A3), (0xF900, 0xFAFF), (0xFF66, 0xFF9D), (0x20000, 0x2FA1F)]

def isLetter (c : Char) : Bool :=
  isUpper c || isLower c || caseless.any fun (low, high) => low ≤ c.toNat && c.toNat ≤ high

/-- Characters that take two columns. -/
def wide : List (Nat × Nat) :=
  [(0x1100, 0x115F), (0x2E80, 0x303E), (0x3041, 0x33FF), (0x3400, 0x4DBF), (0x4E00, 0x9FFF),
   (0xA000, 0xA4CF), (0xAC00, 0xD7A3), (0xF900, 0xFAFF), (0xFE30, 0xFE6F), (0xFF00, 0xFF60),
   (0xFFE0, 0xFFE6), (0x1F300, 0x1F64F), (0x1F900, 0x1F9FF), (0x20000, 0x3FFFD)]

/-- How many columns a character takes; a mark that is set over another one takes none. -/
def width (c : Char) : Nat :=
  let n := c.toNat
  if n < 32 || (127 ≤ n && n < 160) || (0x300 ≤ n && n ≤ 0x36F) || n = 0x200B || n = 0xFE0F then 0
  else if wide.any fun (low, high) => low ≤ n && n ≤ high then 2
  else 1

end ScopedCheck.Letters
