import ScopedCheck.Script.Tool.Basic

namespace ScopedCheck.Script.Tool.Digest

/-- The bytes of a number, the greatest first. -/
def bytesOf (count n : Nat) : List UInt8 :=
  (List.range count).reverse.map fun i => UInt8.ofNat (n >>> (8 * i))

/-- The number of some bytes, the greatest first. -/
def numberOf (bytes : List UInt8) : Nat := bytes.foldl (fun n b => n * 256 + b.toNat) 0

/-- The blocks of a message of so many bytes each: after the message come a mark, zeros and the
length in bits. -/
def blocks (size lengthSize : Nat) (littleEnd : Bool) (message : List UInt8) : List (List UInt8) :=
  let zeros := (size - (message.length + 1 + lengthSize) % size) % size
  let length := bytesOf lengthSize (8 * message.length)
  let padded := message ++ 0x80 :: List.replicate zeros 0 ++ (if littleEnd then length.reverse else length)
  let rec cut (count : Nat) (rest : List UInt8) : List (List UInt8) :=
    match count with
    | 0 => []
    | count + 1 => rest.take size :: cut count (rest.drop size)
  cut (padded.length / size) padded

/-- The words of a block, each of so many bytes. -/
def wordsOf (size : Nat) (littleEnd : Bool) (block : List UInt8) : List Nat :=
  (List.range (block.length / size)).map fun i =>
    let bytes := (block.drop (i * size)).take size
    numberOf (if littleEnd then bytes.reverse else bytes)

def hexadecimal (bytes : List UInt8) : Octets :=
  bytes.flatMap fun b =>
    let digits := Nat.toDigits 16 b.toNat
    List.replicate (2 - digits.length) '0' ++ digits

def isPrime (n : Nat) : Bool :=
  2 ≤ n && (List.range n).all fun d => d < 2 || n % d ≠ 0

/-- The first primes. -/
def primes (count : Nat) : List Nat :=
  ((List.range 420).filter isPrime).take count

/-- The greatest number whose power does not exceed another one. -/
def root (power n : Nat) : Nat :=
  let rec go (bits found : Nat) : Nat :=
    match bits with
    | 0 => found
    | bits + 1 =>
      let more := found + Nat.pow 2 bits
      go bits (if Nat.pow more power ≤ n then more else found)
  go (n.log2 / power + 2) 0

/-- The first bits behind the point of a root of a prime. -/
def rootBits (power bits prime : Nat) : Nat :=
  root power (prime * Nat.pow 2 (power * bits)) % Nat.pow 2 bits

def rotateLeft (x : UInt32) (n : UInt32) : UInt32 := (x <<< n) ||| (x >>> (32 - n))

/-- The leading digits of sines. -/
def sines : Array UInt32 :=
  ((List.range 64).map fun i =>
    (Float.floor (Float.abs (Float.sin (Float.ofNat (i + 1))) * 4294967296)).toUInt32).toArray

def turns : Array UInt32 :=
  ((List.range 64).map fun i =>
    (([[7, 12, 17, 22], [5, 9, 14, 20], [4, 11, 16, 23], [6, 10, 15, 21]] : List (List UInt32)).getD
      (i / 16) []).getD (i % 4) 0).toArray

def mix5 (table : Array UInt32) (words : Array UInt32) (s : UInt32 × UInt32 × UInt32 × UInt32) (i : Nat) :
    UInt32 × UInt32 × UInt32 × UInt32 :=
  let (a, b, c, d) := s
  let (f, g) :=
    if i < 16 then ((b &&& c) ||| (~~~b &&& d), i)
    else if i < 32 then ((d &&& b) ||| (~~~d &&& c), (5 * i + 1) % 16)
    else if i < 48 then (b ^^^ c ^^^ d, (3 * i + 5) % 16)
    else (c ^^^ (b ||| ~~~d), (7 * i) % 16)
  let sum := a + f + table.getD i 0 + words.getD g 0
  (d, b + rotateLeft sum (turns.getD i 0), b, c)

def md5 (message : List UInt8) : List UInt8 :=
  let table := sines
  let start : UInt32 × UInt32 × UInt32 × UInt32 := (0x67452301, 0xefcdab89, 0x98badcfe, 0x10325476)
  let (a, b, c, d) := (blocks 64 8 true message).foldl (fun (s : UInt32 × UInt32 × UInt32 × UInt32) block =>
    let words := ((wordsOf 4 true block).map UInt32.ofNat).toArray
    let (a, b, c, d) := (List.range 64).foldl (mix5 table words) s
    (s.1 + a, s.2.1 + b, s.2.2.1 + c, s.2.2.2 + d)) start
  [a, b, c, d].flatMap fun x => (bytesOf 4 x.toNat).reverse

def schedule1 (block : List UInt8) : Array UInt32 :=
  (List.range 64).foldl (fun (w : Array UInt32) i =>
    let n := i + 16
    let word (back : Nat) : UInt32 := w.getD (n - back) 0
    w.push (rotateLeft (word 3 ^^^ word 8 ^^^ word 14 ^^^ word 16) 1))
    ((wordsOf 4 false block).map UInt32.ofNat).toArray

def mix1 (words : Array UInt32) (s : List UInt32) (i : Nat) : List UInt32 :=
  match s with
  | [a, b, c, d, e] =>
    let (f, k) : UInt32 × UInt32 :=
      if i < 20 then ((b &&& c) ||| (~~~b &&& d), 0x5a827999)
      else if i < 40 then (b ^^^ c ^^^ d, 0x6ed9eba1)
      else if i < 60 then ((b &&& c) ||| (b &&& d) ||| (c &&& d), 0x8f1bbcdc)
      else (b ^^^ c ^^^ d, 0xca62c1d6)
    [rotateLeft a 5 + f + e + k + words.getD i 0, a, rotateLeft b 30, c, d]
  | s => s

def sha1 (message : List UInt8) : List UInt8 :=
  let start : List UInt32 := [0x67452301, 0xefcdab89, 0x98badcfe, 0x10325476, 0xc3d2e1f0]
  let result := (blocks 64 8 false message).foldl (fun s block =>
    List.zipWith (· + ·) s ((List.range 80).foldl (mix1 (schedule1 block)) s)) start
  result.flatMap fun x => bytesOf 4 x.toNat

/-- What the two kinds of messages of eight words differ in: the bits of a word, the number of rounds,
and how far words are turned and moved. -/
structure Family where
  bits : Nat
  rounds : Nat
  big0 : List Nat
  big1 : List Nat
  small0 : List Nat
  small1 : List Nat

namespace Family

def of32 : Family := ⟨32, 64, [2, 13, 22], [6, 11, 25], [7, 18, 3], [17, 19, 10]⟩

def of64 : Family := ⟨64, 80, [28, 34, 39], [14, 18, 41], [1, 8, 7], [19, 61, 6]⟩

def limit (f : Family) : Nat := Nat.pow 2 f.bits

def turned (f : Family) (x n : Nat) : Nat :=
  (x >>> n) ||| ((x <<< (f.bits - n)) % f.limit)

/-- A word turned in three ways. -/
def big (f : Family) (turns : List Nat) (x : Nat) : Nat :=
  turns.foldl (fun sum n => sum ^^^ f.turned x n) 0

/-- A word turned in two ways and moved in a third one. -/
def small (f : Family) (turns : List Nat) (x : Nat) : Nat :=
  (turns.take 2).foldl (fun sum n => sum ^^^ f.turned x n) (x >>> turns.getD 2 0)

def schedule (f : Family) (block : List UInt8) : Array Nat :=
  (List.range (f.rounds - 16)).foldl (fun (w : Array Nat) i =>
    let word (back : Nat) : Nat := w.getD (i + 16 - back) 0
    w.push ((f.small f.small1 (word 2) + word 7 + f.small f.small0 (word 15) + word 16) % f.limit))
    (wordsOf (f.bits / 8) false block).toArray

def mix (f : Family) (table words : Array Nat) (s : List Nat) (i : Nat) : List Nat :=
  match s with
  | [a, b, c, d, e, g, h, k] =>
    let choice := (e &&& g) ^^^ ((f.limit - 1 - e) &&& h)
    let majority := (a &&& b) ^^^ (a &&& c) ^^^ (b &&& c)
    let first := k + f.big f.big1 e + choice + table.getD i 0 + words.getD i 0
    let second := f.big f.big0 a + majority
    [(first + second) % f.limit, a, b, c, (d + first) % f.limit, e, g, h]
  | s => s

def run (f : Family) (start : List Nat) (message : List UInt8) : List UInt8 :=
  let table := ((primes f.rounds).map (rootBits 3 f.bits)).toArray
  let result := (blocks (2 * f.bits) (f.bits / 4) false message).foldl (fun s block =>
    List.zipWith (fun x y => (x + y) % f.limit) s ((List.range f.rounds).foldl (f.mix table (f.schedule block)) s))
    start
  result.flatMap (bytesOf (f.bits / 8))

end Family

def sha256 (message : List UInt8) : List UInt8 :=
  Family.of32.run ((primes 8).map (rootBits 2 32)) message

def sha224 (message : List UInt8) : List UInt8 :=
  (Family.of32.run (((primes 16).drop 8).map fun p => rootBits 2 64 p % Nat.pow 2 32) message).take 28

def sha512 (message : List UInt8) : List UInt8 :=
  Family.of64.run ((primes 8).map (rootBits 2 64)) message

def sha384 (message : List UInt8) : List UInt8 :=
  (Family.of64.run (((primes 16).drop 8).map (rootBits 2 64)) message).take 48

def orders : List (List Nat) :=
  [[0, 1, 2, 3, 4, 5, 6, 7, 8, 9, 10, 11, 12, 13, 14, 15],
   [14, 10, 4, 8, 9, 15, 13, 6, 1, 12, 0, 2, 11, 7, 5, 3],
   [11, 8, 12, 0, 5, 2, 15, 13, 10, 14, 3, 6, 7, 1, 9, 4],
   [7, 9, 3, 1, 13, 12, 11, 14, 2, 6, 5, 10, 4, 0, 15, 8],
   [9, 0, 5, 7, 2, 4, 10, 15, 14, 1, 11, 12, 6, 8, 3, 13],
   [2, 12, 6, 10, 0, 11, 8, 3, 4, 13, 7, 5, 15, 14, 1, 9],
   [12, 5, 1, 15, 14, 13, 4, 10, 0, 7, 6, 3, 9, 2, 8, 11],
   [13, 11, 7, 14, 12, 1, 3, 9, 5, 0, 15, 4, 8, 6, 2, 10],
   [6, 15, 14, 9, 11, 3, 0, 8, 12, 2, 13, 7, 1, 4, 10, 5],
   [10, 2, 8, 4, 7, 6, 1, 5, 15, 11, 9, 14, 3, 12, 13, 0]]

def turned64 (x n : Nat) : Nat := Family.of64.turned x n

def quarter (v : Array Nat) (places : Nat × Nat × Nat × Nat) (x y : Nat) : Array Nat :=
  let (a, b, c, d) := places
  let word (i : Nat) : Nat := v.getD i 0
  let limit := Family.of64.limit
  let a1 := (word a + word b + x) % limit
  let d1 := turned64 (word d ^^^ a1) 32
  let c1 := (word c + d1) % limit
  let b1 := turned64 (word b ^^^ c1) 24
  let a2 := (a1 + b1 + y) % limit
  let d2 := turned64 (d1 ^^^ a2) 16
  let c2 := (c1 + d2) % limit
  let b2 := turned64 (b1 ^^^ c2) 63
  (((v.set! a a2).set! b b2).set! c c2).set! d d2

def quarters : List (Nat × Nat × Nat × Nat) :=
  [(0, 4, 8, 12), (1, 5, 9, 13), (2, 6, 10, 14), (3, 7, 11, 15), (0, 5, 10, 15), (1, 6, 11, 12),
   (2, 7, 8, 13), (3, 4, 9, 14)]

def blend (start h : List Nat) (block : List UInt8) (count : Nat) (isLast : Bool) : List Nat :=
  let words := (wordsOf 8 true block).toArray
  let limit := Family.of64.limit
  let tail := (start.take 4) ++ [start.getD 4 0 ^^^ (count % limit), start.getD 5 0 ^^^ (count / limit),
    if isLast then limit - 1 - start.getD 6 0 else start.getD 6 0, start.getD 7 0]
  let v := (List.range 12).foldl (fun (v : Array Nat) r =>
    let order := orders.getD (r % 10) []
    quarters.zipIdx.foldl (fun v (places, i) =>
      quarter v places (words.getD (order.getD (2 * i) 0) 0) (words.getD (order.getD (2 * i + 1) 0) 0)) v)
    (h ++ tail).toArray
  h.zipIdx.map fun (x, i) => x ^^^ v.getD i 0 ^^^ v.getD (i + 8) 0

def blake2 (message : List UInt8) : List UInt8 :=
  let start := (primes 8).map (rootBits 2 64)
  let first := match start with
    | x :: rest => (x ^^^ 0x01010040) :: rest
    | [] => []
  let count := max 1 ((message.length + 127) / 128)
  let result := (List.range count).foldl (fun h i =>
    let block := (message.drop (128 * i)).take 128
    let padded := block ++ List.replicate (128 - block.length) 0
    blend start h padded (128 * i + block.length) (i + 1 = count)) first
  result.flatMap fun x => (bytesOf 8 x).reverse

/-- One more bit of a remainder. -/
def remainderStep (r : UInt32) : UInt32 :=
  if 0x80000000 ≤ r then (r <<< 1) ^^^ 0x04c11db7 else r <<< 1

def remainderByte (r : UInt32) (b : UInt8) : UInt32 :=
  (List.range 8).foldl (fun r _ => remainderStep r) (r ^^^ (b.toUInt32 <<< 24))

/-- The bytes of a length, the least first, as few as there need be. -/
def lengthBytes : (steps : Nat) → Nat → List UInt8
  | 0, _ => []
  | steps + 1, n => if n = 0 then [] else UInt8.ofNat n :: lengthBytes steps (n / 256)

/-- The remainder of a message with its length. -/
def cyclic (message : List UInt8) : Nat :=
  (~~~((message ++ lengthBytes 9 message.length).foldl remainderByte 0)).toNat

/-- A sum that is turned before each byte. -/
def turnedSum (message : List UInt8) : Nat :=
  message.foldl (fun n b => (n / 2 + n % 2 * 0x8000 + b.toNat) % 0x10000) 0

/-- A sum whose upper half is added to its lower one. -/
def foldedSum (message : List UInt8) : Nat :=
  let n := message.foldl (fun n b => (n + b.toNat) % 0x100000000) 0
  let r := n % 0x10000 + n / 0x10000
  r % 0x10000 + r / 0x10000

end ScopedCheck.Script.Tool.Digest
