namespace ScopedCheck.Utf8

abbrev Bytes := List UInt8

def encodeChars (cs : List Char) : Bytes :=
  cs.flatMap String.utf8EncodeChar

def encode (text : String) : Bytes :=
  encodeChars text.toList

def byteLength : List Char → Nat
  | [] => 0
  | c :: cs => c.utf8Size + byteLength cs

theorem length_encodeChars (cs : List Char) : (encodeChars cs).length = byteLength cs := by
  induction cs with
  | nil => rfl
  | cons c cs ih => simp [encodeChars, byteLength, ← ih]

/-- Where a reader stands between two bytes. -/
inductive Pending where
  /-- Between characters. -/
  | none
  /-- Inside a character: so many bytes are owed, the next one lies in a range, and these are the
  bits seen so far. -/
  | owed (more : Nat) (low high : UInt8) (bits : Nat)
  deriving DecidableEq, Repr

/-- What a byte between two characters means: a character, a damaged place, or the first byte of
a longer character. The range of the second byte leaves out overlong forms, surrogates and all
above U+10FFFF. -/
def first (b : UInt8) : Option (Option Char) × Pending :=
  if b < 0x80 then (some (some (Char.ofNat b.toNat)), .none)
  else if b < 0xC2 then (some none, .none)
  else if b < 0xE0 then (none, .owed 0 0x80 0xBF (b.toNat - 0xC0))
  else if b = 0xE0 then (none, .owed 1 0xA0 0xBF 0)
  else if b = 0xED then (none, .owed 1 0x80 0x9F 13)
  else if b < 0xF0 then (none, .owed 1 0x80 0xBF (b.toNat - 0xE0))
  else if b = 0xF0 then (none, .owed 2 0x90 0xBF 0)
  else if b < 0xF4 then (none, .owed 2 0x80 0xBF (b.toNat - 0xF0))
  else if b = 0xF4 then (none, .owed 2 0x80 0x8F 4)
  else (some none, .none)

/-- The characters of the bytes, `none` for each damaged place. -/
def readFrom : Pending → Bytes → List (Option Char)
  | .none, [] => []
  | .owed .., [] => [none]
  | .none, b :: bs => (first b).1.toList ++ readFrom (first b).2 bs
  | .owed more low high bits, b :: bs =>
    if low ≤ b ∧ b ≤ high then
      let bits := bits * 64 + (b.toNat - 0x80)
      match more with
      | 0 => some (Char.ofNat bits) :: readFrom .none bs
      | more + 1 => readFrom (.owed more 0x80 0xBF bits) bs
    else none :: ((first b).1.toList ++ readFrom (first b).2 bs)

/-- Reading never stops. Each longest stretch that begins a character but cannot be completed is one damaged
place, and so is each byte that begins none. -/
def read (bytes : Bytes) : List (Option Char) :=
  readFrom .none bytes

/-- The text of well-formed bytes. -/
def decode? (bytes : Bytes) : Option String :=
  if (read bytes).all Option.isSome then some (String.ofList ((read bytes).filterMap id)) else none

/-- The text of any bytes, with U+FFFD at each damaged place. -/
def decodeLossy (bytes : Bytes) : String :=
  String.ofList ((read bytes).map (·.getD (Char.ofNat 0xFFFD)))

end ScopedCheck.Utf8
