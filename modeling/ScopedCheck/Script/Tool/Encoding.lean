import ScopedCheck.Script.Tool.Filters

namespace ScopedCheck.Script.Tool.Encoding

/-- An alphabet, with the bits that a letter stands for, the letters in a group, and the bytes. -/
structure Code where
  letters : Octets
  bits : Nat
  group : Nat
  bytes : Nat

namespace Code

def of64 : Code :=
  ⟨"ABCDEFGHIJKLMNOPQRSTUVWXYZabcdefghijklmnopqrstuvwxyz0123456789+/".toList, 6, 4, 3⟩

def of32 : Code := ⟨"ABCDEFGHIJKLMNOPQRSTUVWXYZ234567".toList, 5, 8, 5⟩

/-- The letters for a group of bytes; marks fill it up. -/
def encodeGroup (k : Code) (bytes : Octets) : Octets :=
  let n := (bytes ++ List.replicate (k.bytes - bytes.length) '\x00').foldl
    (fun n c => n * 256 + c.toNat) 0
  let count := (bytes.length * 8 + k.bits - 1) / k.bits
  (List.range k.group).map fun i =>
    if i < count then
      k.letters.getD (n / Nat.pow 2 (k.bits * (k.group - 1 - i)) % Nat.pow 2 k.bits) '='
    else '='

/-- The letters for all bytes. -/
def encode (k : Code) : (steps : Nat) → Octets → Octets
  | 0, _ | _, [] => []
  | steps + 1, bytes => k.encodeGroup (bytes.take k.bytes) ++ k.encode steps (bytes.drop k.bytes)

/-- The bytes that some letters stand for; bits that make no byte are left out. -/
def bytesFor (k : Code) (letters : Octets) : Octets :=
  let n := letters.foldl (fun n c => n * Nat.pow 2 k.bits + k.letters.idxOf c) 0
  let bits := letters.length * k.bits
  (List.range (bits / 8)).map fun i => Char.ofNat (n / Nat.pow 2 (bits - 8 * (i + 1)) % 256)

/-- The bytes for a group of letters, and whether it is one. As much as is certain of a group that is
none counts. -/
def decodeGroup (k : Code) (group : Octets) : Octets × Bool :=
  let found := group.takeWhile k.letters.contains
  let marks := group.drop found.length
  let whole : Bool := group.length = k.group && marks.all (· = '=') &&
    (found.length = k.group || found.length * k.bits % 8 < k.bits)
  let certain := if whole || found.length = k.group then found
    else if marks.head? = some '=' then found.take (if k.bits = 6 then 2 else 0) else found
  (k.bytesFor (if k.bits = 6 && found.length < 2 then [] else certain), whole && 2 ≤ found.length)

/-- The bytes that letters stand for, and whether all of them make sense. -/
def decode (k : Code) : (steps : Nat) → Octets → Octets × Bool
  | 0, _ | _, [] => ([], true)
  | steps + 1, letters =>
    match k.decodeGroup (letters.take k.group) with
    | (bytes, true) =>
      let (more, good) := k.decode steps (letters.drop k.group)
      (bytes ++ more, good)
    | (bytes, false) => (bytes, false)

end Code

/-- Lines of so many characters. -/
def wrapped (width : Nat) : (steps : Nat) → Octets → List Octets
  | 0, _ => []
  | steps + 1, text =>
    if text = [] then [] else text.take width :: wrapped width steps (text.drop width)

/-- Writes bytes in letters, or letters as bytes. -/
def run (k : Code) (arguments : List Octets) : Tool Unit :=
  withOptions
    { letters := "di", valued := "w"
      long := [("decode", 'd'), ("ignore-garbage", 'i'), ("wrap", 'w')] }
    1 arguments fun o => do
      match o.operands, (o.values 'w').find? fun t => (natural? t).isNone with
      | _, some text => complain ("invalid wrap size: " ++ cited text)
      | _ :: extra :: _, none => misuse 1 ("extra operand " ++ cited extra)
      | operands, none =>
        forContents 1 operands fun _ content => do
          if o.has 'd' then
            let letters := content.filter fun c =>
              if o.has 'i' then c = '=' || k.letters.contains c else c ≠ '\n'
            let (bytes, good) := k.decode (letters.length + 1) letters
            print bytes
            if !good then complain "invalid input"
          else
            let text := k.encode (content.length + 1) content
            match ((o.value? 'w').bind natural?).getD 76 with
            | 0 => print text
            | width => for line in wrapped width (text.length + 1) text do printLine line

end ScopedCheck.Script.Tool.Encoding
