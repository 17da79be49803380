import ArtifactPipeline.Digest.Checksum
import ArtifactPipeline.Digest.Md5
import ArtifactPipeline.Digest.Sha
import ArtifactPipeline.Shell.Utility.Rows

/-!
# Checksums of files

Programs that write the digest or the checksum of each file, one in a line, and programs that read such
lines and tell whether the files are still the same.

* `Digestion` is a kind of digest, and `DigestLine.read` reads a line with one;
* `digestProgram` is the program for a kind, and `cksum` and `sum` write numbers.
-/

namespace ArtifactPipeline.Shell.Utility

/-- A kind of digest: its name, and the digest of a file in hexadecimal digits. -/
structure Digestion where
  name : String
  digest : Bytes → Bytes

namespace Digestion

def md5 : Digestion := ⟨"MD5", Digest.Md5.digest⟩
def sha1 : Digestion := ⟨"SHA1", Digest.Sha1.digest⟩
def sha224 : Digestion := ⟨"SHA224", Digest.Sha256.shortDigest⟩
def sha256 : Digestion := ⟨"SHA256", Digest.Sha256.digest⟩
def sha384 : Digestion := ⟨"SHA384", Digest.Sha512.shortDigest⟩
def sha512 : Digestion := ⟨"SHA512", Digest.Sha512.digest⟩

/-- The digest of octets as text. -/
def text (k : Digestion) (bytes : Bytes) : String := Digest.Sha256.hexText (k.digest bytes)

/-- The number of digits of a digest. -/
def size (k : Digestion) : Nat := 2 * (k.digest []).length

end Digestion

/-! ### Lines with digests -/

/-- A name in which characters that would end a line stand after a backslash. -/
def escapedName (name : String) : String :=
  String.ofList (name.toList.flatMap fun c =>
    match c with
    | '\\' => ['\\', '\\']
    | '\n' => ['\\', 'n']
    | '\r' => ['\\', 'r']
    | c => [c])

/-- The name that was written with backslashes, if it makes sense. -/
def unescapedName? : List Char → Option (List Char)
  | [] => some []
  | '\\' :: 'n' :: rest => (unescapedName? rest).map ('\n' :: ·)
  | '\\' :: 'r' :: rest => (unescapedName? rest).map ('\r' :: ·)
  | '\\' :: '\\' :: rest => (unescapedName? rest).map ('\\' :: ·)
  | '\\' :: _ => none
  | c :: rest => (unescapedName? rest).map (c :: ·)

/-- A line with a digest and the name of a file. -/
structure DigestLine where
  digest : String
  name : String

namespace DigestLine

/-- Whether a character is a hexadecimal digit. -/
def isHexDigit (c : Char) : Bool := c.isDigit || "abcdefABCDEF".toList.contains c

/-- A line that starts with the name of the kind. -/
def tagged? (k : Digestion) (cs : List Char) : Option DigestLine :=
  let start := k.name.toList
  if !start.isPrefixOf cs then none
  else
    match (cs.drop start.length).dropWhile (· == ' ') with
    | '(' :: rest =>
      match Text.splitLast ')' (String.ofList rest) with
      | some (name, after) =>
        match after.toList.dropWhile fun c => c == ' ' || c == '\t' with
        | '=' :: more =>
          let digest := more.dropWhile fun c => c == ' ' || c == '\t'
          if digest.length = k.size ∧ digest.all isHexDigit then
            some ⟨String.ofList digest, name⟩
          else none
        | _ => none
      | none => none
    | _ => none

/-- A line that starts with the digest. -/
def plain? (k : Digestion) (cs : List Char) : Option DigestLine :=
  let digest := cs.take k.size
  if digest.length ≠ k.size ∨ !digest.all isHexDigit then none
  else
    match cs.drop k.size with
    | b :: rest =>
      if b ≠ ' ' ∧ b ≠ '\t' then none
      else
        match rest with
        | [] => none
        | [c] => some ⟨String.ofList digest, String.singleton c⟩
        | c :: name =>
          some ⟨String.ofList digest, String.ofList (if c = ' ' ∨ c = '*' then name else c :: name)⟩
    | [] => none

/-- Read a line. -/
def read (k : Digestion) (line : String) : Option DigestLine :=
  let cs := line.toList.dropWhile fun c => c == ' ' || c == '\t'
  let escapes := cs.head? == some '\\'
  let cs := if escapes then cs.tail else cs
  match (tagged? k cs).orElse fun _ => plain? k cs with
  | some found =>
    if escapes then (unescapedName? found.name.toList).map fun name => { found with name := String.ofList name }
    else some found
  | none => none

end DigestLine

/-! ### Checks -/

/-- What a check of files has found. -/
structure CheckCounts where
  readable : Nat := 0
  misformed : Nat := 0
  unread : Nat := 0
  wrong : Nat := 0
  right : Nat := 0

/-- A warning about a number of things, of which it speaks in two ways. -/
def warnOf (n : Nat) (one several : String) : Task Unit :=
  if n = 0 then pure ()
  else Task.remark ("WARNING: " ++ toString n ++ " " ++ if n = 1 then one else several)

/-- A name with its mark if it is written with backslashes. -/
def shownName (name : String) : String :=
  if escapedName name = name then name else "\\" ++ escapedName name

/-- Check the files that a list names. -/
def checkList (k : Digestion) (a : Arguments) (label : String) (fromInput : Bool) (lines : List String) :
    Task Unit := do
  let shows := !a.has 's'
  let mut counts : CheckCounts := {}
  for (line, i) in lines.zipIdx do
    let line := String.ofList (Text.dropReturn '\r' line.toList)
    if Text.startsWith line "#" || line.isEmpty then pure ()
    else
      match (DigestLine.read k line).filter fun l => !(fromInput && l.name == "-") with
      | none =>
        counts := { counts with misformed := counts.misformed + 1 }
        if a.has 'w' then
          Task.remark (Quoting.name label ++ ": " ++ toString (i + 1) ++ ": improperly formatted " ++ k.name
            ++ " checksum line")
      | some l =>
        counts := { counts with readable := counts.readable + 1 }
        match ← Task.readOperand l.name with
        | .error fault =>
          if fault == .notFound && a.has 'i' then pure ()
          else
            Task.remark (Quoting.name l.name ++ ": " ++ faultText fault)
            counts := { counts with unread := counts.unread + 1 }
            if shows then Task.putLine (shownName l.name ++ ": FAILED open or read")
        | .ok bytes =>
          let same := k.text bytes == l.digest.toLower
          counts :=
            if same then { counts with right := counts.right + 1 }
            else { counts with wrong := counts.wrong + 1 }
          if shows && !(same && a.has 'q') then
            Task.putLine (shownName l.name ++ ": " ++ if same then "OK" else "FAILED")
  if counts.readable = 0 then
    Task.complain (Quoting.name label ++ ": no properly formatted checksum lines found")
  else
    if shows then
      warnOf counts.misformed "line is improperly formatted" "lines are improperly formatted"
      warnOf counts.unread "listed file could not be read" "listed files could not be read"
      warnOf counts.wrong "computed checksum did NOT match" "computed checksums did NOT match"
      if a.has 'i' && counts.right = 0 then Task.remark (Quoting.name label ++ ": no file was verified")
    if counts.right = 0 || counts.wrong ≠ 0 || counts.unread ≠ 0 || (a.has 'S' && counts.misformed ≠ 0) then
      Task.ends 1

/-! ### Programs -/

/-- The options of programs for digests. -/
def digestOptions : OptionTable where
  flags := "bctwz"
  long := longNames ("b=binary c=check i=ignore-missing q=quiet s=status S=strict T=tag t=text w=warn "
    ++ "z=zero")

/-- What makes no sense among the options. -/
def digestMisuse? (a : Arguments) : Option String :=
  let only (letter : Char) (name : String) : Option String :=
    if a.has letter && !a.has 'c' then
      some ("the --" ++ name ++ " option is meaningful only when verifying checksums")
    else none
  let first :=
    if a.has 'T' && (a.last? "bt").any (·.1 == 't') then some "--tag does not support --text mode"
    else if a.has 'z' && a.has 'c' then
      some "the --zero option is not supported when verifying checksums"
    else if a.has 'T' && a.has 'c' then
      some "the --tag option is meaningless when verifying checksums"
    else if a.hasAny "bt" && a.has 'c' then
      some "the --binary and --text options are meaningless when verifying checksums"
    else none
  first <|> only 'i' "ignore-missing" <|> only 's' "status" <|> only 'w' "warn" <|> only 'q' "quiet"
    <|> only 'S' "strict"

/-- The line with the digest of a file. -/
def digestText (k : Digestion) (tags binary zero : Bool) (name : String) (bytes : Bytes) : String :=
  let escapes := !zero && escapedName name != name
  let shown := if zero then name else escapedName name
  let body :=
    if tags then k.name ++ " (" ++ shown ++ ") = " ++ k.text bytes
    else k.text bytes ++ (if binary then " *" else "  ") ++ shown
  (if escapes then "\\" else "") ++ body ++ if zero then "\x00" else "\n"

/-- The program for a kind of digest. -/
def digestProgram (k : Digestion) : Utility := fun arguments => do
  let a ← Task.options digestOptions arguments
  match digestMisuse? a with
  | some text => Task.misuse text
  | none => pure ()
  for name in (if a.operands.isEmpty then ["-"] else a.operands) do
    match ← Task.readOperand name with
    | .error fault => Task.unreadable name fault
    | .ok bytes =>
      if a.has 'c' then
        let label := if name = "-" then "standard input" else name
        checkList k a label (name == "-") ((plainLines bytes).map textOf)
      else
        let binary := (a.last? "bt").any (·.1 == 'b')
        Task.putText (digestText k (a.has 'T') binary (a.has 'z') name bytes)

/-- Write a line for each operand; the name is left out where the input is read without one. -/
def putSums (a : Arguments) (sum : Bytes → String) : Task Unit :=
  Task.forOperands a.operands Task.unreadable fun name bytes =>
    Task.putLine (sum bytes ++ if a.operands.isEmpty then "" else " " ++ name)

/-- A turning sum and the number of blocks of a thousand octets. -/
def turningLine (bytes : Bytes) : String :=
  zeroPadded 10 5 (Digest.Checksum.turning bytes) ++ " "
    ++ rightAligned 5 (toString ((bytes.length + 1023) / 1024))

/-- A plain sum and the number of blocks of five hundred octets. -/
def plainLine (bytes : Bytes) : String :=
  toString (Digest.Checksum.plain bytes) ++ " " ++ toString ((bytes.length + 511) / 512)

/-- A remainder and the number of octets. -/
def cyclicLine (bytes : Bytes) : String :=
  toString (Digest.Checksum.cyclic bytes).toNat ++ " " ++ toString bytes.length

/-- Sums of the operands. -/
def sum : Utility := fun arguments => do
  let a ← Task.options { flags := "rs", long := longNames "s=sysv" } arguments
  putSums a (if (a.last? "rs").any (·.1 == 's') then plainLine else turningLine)

/-- The kinds of sums that `cksum` knows, each with its letter. -/
def sumKinds : List (String × Char) :=
  [("bsd", 'b'), ("sysv", 'p'), ("crc", 'c'), ("md5", '5'), ("sha1", '1'), ("sha224", '2'),
    ("sha256", '6'), ("sha384", '3'), ("sha512", 's')]

/-- The kind of digest for a letter. -/
def sumDigestion? (letter : Char) : Option Digestion :=
  match letter with
  | '5' => some .md5
  | '1' => some .sha1
  | '2' => some .sha224
  | '6' => some .sha256
  | '3' => some .sha384
  | 's' => some .sha512
  | _ => none

/-- Checksums of the operands. -/
def cksum : Utility := fun arguments => do
  let a ← Task.options { flags := "bctwz", valued := "al", long := longNames ("a=algorithm l=length "
    ++ "b=binary c=check u=untagged T=tag t=text w=warn z=zero q=quiet s=status S=strict "
    ++ "i=ignore-missing") } arguments
  let letter ← match a.value? 'a' with
    | some word =>
      Task.wordLetter "--algorithm" (sumKinds.map fun k => [k.1]) (sumKinds.map Prod.snd) word
    | none => pure 'c'
  match letter, sumDigestion? letter with
  | _, some k =>
    Task.forOperands a.operands Task.unreadable fun name bytes =>
      if a.has 'c' then
        checkList k a (if name = "-" then "standard input" else name) (name == "-")
          ((plainLines bytes).map textOf)
      else Task.putText (digestText k (!a.has 'u') false (a.has 'z') name bytes)
  | 'b', none => putSums a turningLine
  | 'p', none => putSums a plainLine
  | _, none => putSums a cyclicLine

end ArtifactPipeline.Shell.Utility
