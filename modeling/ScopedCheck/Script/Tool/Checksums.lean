import ScopedCheck.Script.Tool.Digest

namespace ScopedCheck.Script.Tool

/-- A kind of digest: its name, its length in hexadecimal digits, and the digest of a message. -/
structure DigestKind where
  name : String
  length : Nat
  of : List UInt8 → List UInt8

namespace DigestKind

def md5 : DigestKind := ⟨"MD5", 32, Digest.md5⟩
def sha1 : DigestKind := ⟨"SHA1", 40, Digest.sha1⟩
def sha224 : DigestKind := ⟨"SHA224", 56, Digest.sha224⟩
def sha256 : DigestKind := ⟨"SHA256", 64, Digest.sha256⟩
def sha384 : DigestKind := ⟨"SHA384", 96, Digest.sha384⟩
def sha512 : DigestKind := ⟨"SHA512", 128, Digest.sha512⟩
def blake2 : DigestKind := ⟨"BLAKE2b", 128, Digest.blake2⟩

def text (k : DigestKind) (content : Octets) : Octets :=
  Digest.hexadecimal (k.of (Octets.toBytes content))

end DigestKind

/-- A name that has to be written by escapes, in one line. -/
def escapedName (name : Octets) : Option Octets :=
  if name.any fun c => c = '\\' || c = '\n' || c = '\r' then
    some (name.flatMap fun c =>
      if c = '\\' then ['\\', '\\'] else if c = '\n' then ['\\', 'n']
      else if c = '\r' then ['\\', 'r'] else [c])
  else none

/-- The name that was written by escapes. -/
def plainName : Octets → Octets
  | '\\' :: 'n' :: rest => '\n' :: plainName rest
  | '\\' :: 'r' :: rest => '\r' :: plainName rest
  | '\\' :: '\\' :: rest => '\\' :: plainName rest
  | c :: rest => c :: plainName rest
  | [] => []

def isHexadecimal (text : Octets) : Bool := text.all (Octets.isDigitOf 16)

/-- The digest and the name that a line tells. -/
def readDigestLine (k : DigestKind) (line : Octets) : Option (Octets × Octets) :=
  let line := line.dropWhile fun c => c = ' ' || c = '\t'
  let escaped := line.head? = some '\\'
  let body := if escaped then line.tail else line
  let named (name : Octets) : Octets := if escaped then plainName name else name
  let tag := (k.name ++ " (").toList
  if tag.isPrefixOf body then
    let rest := body.drop tag.length
    let digest := (rest.reverse.takeWhile (· ≠ ' ')).reverse
    let name := rest.take (rest.length - digest.length)
    if digest.length = k.length && isHexadecimal digest && ") = ".toList.isSuffixOf name then
      some (digest, named (name.take (name.length - 4)))
    else none
  else
    let digest := body.take k.length
    match body.drop k.length with
    | ' ' :: mark :: name =>
      if !isHexadecimal digest || digest.length ≠ k.length then none
      else if mark = ' ' || mark = '*' then (if name = [] then none else some (digest, named name))
      else some (digest, named (mark :: name))
    | _ => none

/-- How many lines of each kind were checked. -/
structure Checked where
  good : Nat := 0
  wrong : Nat := 0
  unread : Nat := 0
  bad : Nat := 0

def plural (n : Nat) (one many : String) : String := if n = 1 then one else many

/-- Checks the digests that a file lists. -/
def checkDigests (k : DigestKind) (o : Options) (operand content : Octets) : Tool Unit := do
  let shown := if isInput operand then "standard input".toList else operand
  let mut t : Checked := {}
  let lines := (Octets.lines content).map Octets.chomp
  for (line, n) in lines.zipIdx 1 do
    if line.head? ≠ some '#' && line ≠ [] then
      match readDigestLine k line with
      | none =>
        t := { t with bad := t.bad + 1 }
        if o.has 'w' then
          complainWith (← get).status (named shown ++ ": " ++ toString n ++
            ": improperly formatted " ++ k.name ++ " checksum line")
      | some (digest, name) =>
        match ← read name with
        | .error cause =>
          if !(o.has 'i' && cause = .notFound) then
            complain (named name ++ ": " ++ cause.reason)
            t := { t with unread := t.unread + 1 }
            if !o.has 's' then
              printLine (Octets.ofString (named name) ++ ": FAILED open or read".toList)
        | .ok content =>
          let prefixMark : Octets := if (escapedName name).isSome then ['\\'] else []
          let label := prefixMark ++ (escapedName name).getD name
          if k.text content = digest.map Char.toLower then
            t := { t with good := t.good + 1 }
            if !o.has 's' && !o.has 'q' then printLine (label ++ ": OK".toList)
          else
            t := { t with wrong := t.wrong + 1 }
            if !o.has 's' then printLine (label ++ ": FAILED".toList)
  if t.good + t.wrong + t.unread = 0 && !(o.has 'i' && t.bad < lines.length) then
    complain (named shown ++ ": no properly formatted checksum lines found")
  else
    if !o.has 's' then
      let warn (n : Nat) (text : String) : Tool Unit := do
        if n ≠ 0 then complainWith (← get).status ("WARNING: " ++ toString n ++ text)
      warn t.bad (plural t.bad " line is improperly formatted" " lines are improperly formatted")
      warn t.unread (plural t.unread " listed file could not be read" " listed files could not be read")
      warn t.wrong (plural t.wrong " computed checksum did NOT match" " computed checksums did NOT match")
    if o.has 'i' && t.good + t.wrong = 0 then
      complain (named shown ++ ": no file was verified")
    if t.wrong ≠ 0 || t.unread ≠ 0 || (o.has 'S' && t.bad ≠ 0) then setStatus 1

/-- Writes or checks digests. -/
def digest (k : DigestKind) (arguments : List Octets) : Tool Unit :=
  withOptions
    { letters := "bctwz", valued := if k.name = "BLAKE2b" then "l" else ""
      long := [("binary", 'b'), ("check", 'c'), ("text", 't'), ("warn", 'w'), ("zero", 'z'),
        ("quiet", 'q'), ("status", 's'), ("strict", 'S'), ("ignore-missing", 'i'), ("tag", 'g'),
        ("length", 'l')] }
    1 arguments fun o => do
      let checks := o.has 'c'
      let idle : List (Char × String) :=
        [('i', "ignore-missing"), ('s', "status"), ('w', "warn"), ('q', "quiet"), ('S', "strict")]
      if checks && o.has 'g' then
        misuse 1 "the --tag option is meaningless when verifying checksums"
      else if checks && (o.has 'b' || o.has 't') then
        misuse 1 "the --binary and --text options are meaningless when verifying checksums"
      else match if checks then none else idle.find? fun (letter, _) => o.has letter with
        | some (_, name) =>
          misuse 1 ("the --" ++ name ++ " option is meaningful only when verifying checksums")
        | none =>
          forContents 1 o.operands fun operand content => do
            if checks then checkDigests k o operand content
            else
              let text := k.text content
              let escaped := if o.has 'z' then none else escapedName operand
              let name := escaped.getD operand
              let mark : Octets := if escaped.isSome then ['\\'] else []
              let line := if o.has 'g' then
                  (k.name ++ " (").toList ++ name ++ ") = ".toList ++ text
                else text ++ [' ', if o.has 'b' then '*' else ' '] ++ name
              print (mark ++ line ++ [if o.has 'z' then '\x00' else '\n'])

/-- Writes the remainders of files with their lengths. -/
def cyclicSums (operands : List Octets) : Tool Unit :=
  forContents 1 operands fun operand content => do
    let name := if operands = [] then [] else ' ' :: operand
    printLine (Octets.ofNat (Digest.cyclic (Octets.toBytes content)) ++
      ' ' :: Octets.ofNat content.length ++ name)

/-- Writes sums of files with their lengths in blocks. -/
def blockSums (arguments : List Octets) : Tool Unit :=
  withOptions { letters := "rs", long := [("sysv", 's')] } 1 arguments fun o => do
    let folded := o.last? "rs" = some 's'
    let fill (mark : Char) (width : Nat) (text : Octets) : Octets :=
      List.replicate (width - text.length) mark ++ text
    forContents 1 o.operands fun operand content => do
      let bytes := Octets.toBytes content
      let name := if o.operands = [] then [] else ' ' :: operand
      let size := if folded then 512 else 1024
      let count := Octets.ofNat ((bytes.length + size - 1) / size)
      if folded then
        printLine (Octets.ofNat (Digest.foldedSum bytes) ++ ' ' :: count ++ name)
      else
        printLine (fill '0' 5 (Octets.ofNat (Digest.turnedSum bytes)) ++ ' ' :: fill ' ' 5 count ++ name)

/-- Writes sums by an algorithm of one's choice: digests are written with their kind. -/
def cyclicOrOther (arguments : List Octets) : Tool Unit :=
  withOptions
    { letters := "zcgu", valued := "a"
      long := [("algorithm", 'a'), ("check", 'c'), ("tag", 'g'), ("untagged", 'u'), ("zero", 'z')] }
    1 arguments fun o => do
      let kinds : List (String × DigestKind) :=
        [("md5", .md5), ("sha1", .sha1), ("sha224", .sha224), ("sha256", .sha256), ("sha384", .sha384),
         ("sha512", .sha512), ("blake2b", .blake2)]
      let names := ["bsd", "sysv", "crc"] ++ kinds.map Prod.fst ++ ["sm3"]
      let wanted := Octets.text ((o.value? 'a').getD "crc".toList)
      match wanted, kinds.lookup wanted with
      | _, some k =>
        let options : List Octets :=
          if o.has 'c' then ["-c".toList] else if o.has 'u' then [] else ["--tag".toList]
        digest k (options ++ "--".toList :: (if o.operands = [] then [['-']] else o.operands))
      | "bsd", none => blockSums ("--".toList :: o.operands)
      | "sysv", none => blockSums ("-s".toList :: "--".toList :: o.operands)
      | "crc", none => cyclicSums o.operands
      | _, none =>
        complain ("invalid argument " ++ cited wanted.toList ++ " for ‘--algorithm’")
        let choices := names.map fun name => "  - " ++ cited name.toList ++ "\n"
        write 2 ("Valid arguments are:\n" ++ String.join choices ++
          "Try 'cksum --help' for more information.\n").toList

end ScopedCheck.Script.Tool
