import ArtifactPipeline.Decimal.Floating
import ArtifactPipeline.Decimal.Rounded
import ArtifactPipeline.Shell.Arithmetic
import ArtifactPipeline.Shell.Octets

/-!
# Formats of the shell

Two commands of the shell write formatted octets. `echo` writes its words with one blank between any
two, and escapes in them stand for other characters. `printf` writes a format, in which a directive
stands for the next argument; the format is written again as long as arguments are left.
-/

namespace ArtifactPipeline.Shell.Format

/-- The octet of a letter after a backslash. -/
def letterOctet? : UInt8 → Option UInt8
  | 0x5C => some 0x5C
  | 0x61 => some 0x07
  | 0x62 => some 0x08
  | 0x65 => some 0x1B
  | 0x66 => some 0x0C
  | 0x6E => some 0x0A
  | 0x72 => some 0x0D
  | 0x74 => some 0x09
  | 0x76 => some 0x0B
  | _ => none

/-- Whether an octet is an octal digit. -/
def isOctal (b : UInt8) : Bool := 0x30 ≤ b && b ≤ 0x37

/-- Whether an octet is a decimal digit. -/
def isDigit (b : UInt8) : Bool := 0x30 ≤ b && b ≤ 0x39

/-- The number that decimal digits denote. -/
def decimal (digits : Bytes) : Nat := digits.foldl (fun n b => 10 * n + (b.toNat - 0x30)) 0

/-- The octet that up to `limit` octal digits denote, and what stands after them. -/
def octal (limit : Nat) (bytes : Bytes) : UInt8 × Bytes :=
  let digits := (bytes.take limit).takeWhile isOctal
  (UInt8.ofNat (digits.foldl (fun n b => 8 * n + (b.toNat - 0x30)) 0), bytes.drop digits.length)

/-- What a backslash and the octets after it stand for, and what stands after that. -/
def escape : Bytes → UInt8 × Bytes
  | [] => (0x5C, [])
  | b :: rest =>
    if isOctal b then octal 3 (b :: rest)
    else
      match letterOctet? b with
      | some octet => (octet, rest)
      | none => (0x5C, b :: rest)

/-- Octets with their escapes replaced, and whether an escape ended the output. -/
def unescape : (fuel : Nat) → Bytes → Bytes × Bool
  | 0, _ => ([], false)
  | _ + 1, [] => ([], false)
  | fuel + 1, b :: rest =>
    if b = 0x5C then
      match rest with
      | 0x63 :: _ => ([], true)
      | 0x30 :: d :: more =>
        if isOctal d then
          let (octet, rest) := octal 3 (d :: more)
          let (written, stopped) := unescape fuel rest
          (octet :: written, stopped)
        else
          let (written, stopped) := unescape fuel (d :: more)
          (0 :: written, stopped)
      | rest =>
        let (octet, rest) := escape rest
        let (written, stopped) := unescape fuel rest
        (octet :: written, stopped)
    else
      let (written, stopped) := unescape fuel rest
      (b :: written, stopped)

/-- The octets of a text with their escapes replaced. -/
def unescaped (text : String) : Bytes × Bool :=
  let bytes := Octets.bytes text
  unescape (bytes.length + 1) bytes

/-- Words with blanks between them, up to an escape that ends the output. -/
def words : List String → Bytes × Bool
  | [] => ([], false)
  | [w] => unescaped w
  | w :: ws =>
    match unescaped w with
    | (written, true) => (written, true)
    | (written, false) =>
      let (more, stopped) := words ws
      (written ++ [0x20] ++ more, stopped)

/-- What `echo` writes. -/
def echo (arguments : List String) : Bytes :=
  let (arguments, ending) : List String × Bytes := match arguments with
    | "-n" :: rest => (rest, [])
    | arguments => (arguments, [0x0A])
  match words arguments with
  | (written, true) => written
  | (written, false) => written ++ ending

/-! ### Directives -/

/-- A directive of a format. -/
structure Directive where
  leftAligned : Bool := false
  zeroPadded : Bool := false
  plusSign : Bool := false
  blankSign : Bool := false
  alternate : Bool := false
  width : Nat := 0
  precision : Option Nat := none

/-- The state of writing a format: the arguments that are left, what is written, whether all went
well, and whether the output has ended. -/
structure Progress where
  arguments : List String
  written : Bytes := []
  reports : List String := []
  stopped : Bool := false
  /-- Whether the format itself makes no sense. -/
  broken : Bool := false

/-- The next argument. -/
def Progress.next (p : Progress) : Option String × Progress :=
  match p.arguments with
  | [] => (none, p)
  | a :: rest => (some a, { p with arguments := rest })

/-- Add a report on an argument. -/
def Progress.report (p : Progress) (text : String) : Progress :=
  { p with reports := p.reports ++ [text] }

/-- The report on what stands after a number, or on the number itself. -/
def Progress.checked (p : Progress) (text : String) (found tooLarge : Bool) (rest : List Char) :
    Progress :=
  if !rest.isEmpty then
    p.report (text ++ if found then ": not completely converted" else ": expected numeric value")
  else if tooLarge then p.report (text ++ ": Numerical result out of range")
  else p

/-- The code of the character after a quote at the start of an argument. -/
def characterCode? (text : String) : Option Nat :=
  match text.toList with
  | q :: c :: _ => if q = '\x22' ∨ q = '\x27' then some c.toNat else none
  | _ => none

/-- The number that an argument denotes. What is no number counts as zero and is reported. -/
def Progress.number (p : Progress) (signed : Bool) : Int × Progress :=
  match p.next with
  | (none, p) => (0, p)
  | (some text, p) =>
    match characterCode? text with
    | some code => (code, p)
    | none =>
      let (negative, cs) := Arithmetic.signOf (text.toList.dropWhile Arithmetic.isBlank)
      match Arithmetic.magnitude? cs with
      | none => (0, p.checked text false false text.toList)
      | some (n, rest) =>
        if signed then
          (Arithmetic.clamp negative n, p.checked text true (Arithmetic.overflows negative n) rest)
        else
          let tooLarge := Word.bound ≤ n
          let n : Int := if tooLarge then Word.bound - 1 else n
          ((if negative && !tooLarge then -n else n), p.checked text true tooLarge rest)

/-- The binary number that an argument denotes. -/
def Progress.floating (p : Progress) (f : Decimal.FloatFormat) : Decimal.Floating × Progress :=
  let zero : Decimal.Floating := .finite false 0 0
  match p.next with
  | (none, p) => (zero, p)
  | (some text, p) =>
    match characterCode? text with
    | some code => ((f.nearest false ⟨code, 1⟩).1, p)
    | none =>
      match f.read? (text.toList.dropWhile Arithmetic.isBlank) with
      | none => (zero, p.checked text false false text.toList)
      | some (x, far, rest) => (x, p.checked text true far rest)

/-- Pad to the width of a directive. -/
def Directive.pad (d : Directive) (bytes : Bytes) : Bytes :=
  let blanks : Bytes := List.replicate (d.width - bytes.length) 0x20
  if d.leftAligned then bytes ++ blanks else blanks ++ bytes

/-- A number in the layout of a directive. -/
def Directive.numeral (d : Directive) (base : Nat) (upper signed : Bool) (n : Int) : Bytes :=
  let magnitude := if signed then n.natAbs else (n % Word.bound).toNat
  let digits := Nat.toDigits base magnitude
  let digits := if upper then digits.map Char.toUpper else digits
  let least := d.precision.getD 1
  let digits := if magnitude = 0 ∧ least = 0 then [] else digits
  let digits := List.replicate (least - digits.length) '0' ++ digits
  let sign :=
    if signed ∧ n < 0 then ['-']
    else if signed ∧ d.plusSign then ['+']
    else if signed ∧ d.blankSign then [' ']
    else if d.alternate ∧ base = 16 ∧ magnitude ≠ 0 then ['0', if upper then 'X' else 'x']
    else if d.alternate ∧ base = 8 ∧ digits.head? ≠ some '0' then ['0']
    else []
  let zeros :=
    if d.zeroPadded ∧ !d.leftAligned ∧ d.precision = none then
      List.replicate (d.width - sign.length - digits.length) '0'
    else []
  d.pad (Octets.bytes (String.ofList (sign ++ zeros ++ digits)))

/-- A binary number in the layout of a directive with a letter. -/
def Directive.floating (d : Directive) (f : Decimal.FloatFormat) (letter : Char)
    (x : Decimal.Floating) : Bytes :=
  let upper := letter.isUpper
  let mark := if upper then 'E' else 'e'
  let places := d.precision.getD 6
  let plain := match x.name?, letter.toLower with
    | some name, _ => name.toList
    | none, 'a' => x.hexadecimal f d.precision d.alternate
    | none, 'f' => Decimal.fixed places d.alternate x.ratio
    | none, 'e' => Decimal.scientific places d.alternate mark x.ratio
    | none, _ => Decimal.general places d.alternate mark x.ratio
  let digits := if upper then plain.map Char.toUpper else plain
  let sign :=
    if x.isNegative then ['-'] else if d.plusSign then ['+'] else if d.blankSign then [' '] else []
  let sign :=
    if letter.toLower = 'a' ∧ x.name?.isNone then sign ++ ['0', if upper then 'X' else 'x'] else sign
  let zeros :=
    if d.zeroPadded ∧ !d.leftAligned ∧ x.name?.isNone then
      List.replicate (d.width - sign.length - digits.length) '0'
    else []
  d.pad (Octets.bytes (String.ofList (sign ++ zeros ++ digits)))

/-- Read the flags of a directive. -/
def flags : Bytes → Directive → Directive × Bytes
  | b :: rest, d =>
    if b = 0x2D then flags rest { d with leftAligned := true }
    else if b = 0x30 then flags rest { d with zeroPadded := true }
    else if b = 0x2B then flags rest { d with plusSign := true }
    else if b = 0x20 then flags rest { d with blankSign := true }
    else if b = 0x23 then flags rest { d with alternate := true }
    else (d, b :: rest)
  | [], d => (d, [])

/-- Read a number of a directive, which may be an argument. -/
def measure (p : Progress) : Bytes → Int × Progress × Bytes
  | 0x2A :: rest =>
    let (n, p) := p.number true
    (n, p, rest)
  | bytes =>
    let digits := bytes.takeWhile isDigit
    (decimal digits, p, bytes.drop digits.length)

/-- Read a directive after the percent sign, up to its letter. -/
def directive (p : Progress) (bytes : Bytes) : Directive × Progress × Bytes :=
  let (d, rest) := flags bytes {}
  let (width, p, rest) := measure p rest
  let d := { d with width := width.natAbs, leftAligned := d.leftAligned || width < 0 }
  match rest with
  | 0x2E :: rest =>
    let (precision, p, rest) := measure p rest
    ({ d with precision := if precision < 0 then none else some precision.toNat }, p, rest)
  | rest => (d, p, rest)

/-- Write one argument as a directive with a letter says, if the letter means something. -/
def writeArgument? (p : Progress) (d : Directive) (letter : Char) : Option Progress :=
  let put (p : Progress) (bytes : Bytes) : Progress := { p with written := p.written ++ bytes }
  let cut (bytes : Bytes) : Bytes := match d.precision with
    | some n => bytes.take n
    | none => bytes
  let numeric (base : Nat) (upper signed : Bool) : Option Progress :=
    let (n, p) := p.number signed
    some (put p (d.numeral base upper signed n))
  match letter with
  | 's' =>
    let (a, p) := p.next
    some (put p (d.pad (cut (Octets.bytes (a.getD "")))))
  | 'b' =>
    let (a, p) := p.next
    let (bytes, stopped) := unescaped (a.getD "")
    some { put p (d.pad (cut bytes)) with stopped }
  | 'c' =>
    let (a, p) := p.next
    some (put p (d.pad (match Octets.bytes (a.getD "") with
      | [] => [0]
      | b :: _ => [b])))
  | 'd' | 'i' => numeric 10 false true
  | 'u' => numeric 10 false false
  | 'o' => numeric 8 false false
  | 'x' => numeric 16 false false
  | 'X' => numeric 16 true false
  | 'f' | 'F' | 'e' | 'E' | 'g' | 'G' | 'a' | 'A' =>
    let (x, p) := p.floating .double
    some (put p (d.floating .double letter x))
  | _ => none

/-- Write a format once. -/
def writeOnce : (fuel : Nat) → Progress → Bytes → Progress
  | 0, p, _ => p
  | _ + 1, p, [] => p
  | fuel + 1, p, b :: rest =>
    if p.stopped then p
    else if b = 0x5C then
      let (octet, rest) := escape rest
      writeOnce fuel { p with written := p.written ++ [octet] } rest
    else if b = 0x25 then
      match rest with
      | 0x25 :: rest => writeOnce fuel { p with written := p.written ++ [0x25] } rest
      | start =>
        let (d, p, rest) := directive p start
        match rest with
        | [] => { p.report "missing format character" with stopped := true, broken := true }
        | letter :: rest =>
          match writeArgument? p d (Char.ofUInt8 letter) with
          | some p => writeOnce fuel p rest
          | none =>
            let spelled := Octets.ofBytes (start.take (start.length - rest.length))
            { p.report ("%" ++ spelled ++ ": invalid directive") with stopped := true, broken := true }
    else writeOnce fuel { p with written := p.written ++ [b] } rest

/-- Write a format as long as it uses up arguments. -/
def writeAll : (fuel : Nat) → Progress → Bytes → Progress
  | 0, p, _ => p
  | fuel + 1, p, format =>
    let after := writeOnce (format.length + 1) p format
    if after.stopped ∨ after.arguments.isEmpty
        ∨ after.arguments.length = p.arguments.length then after
    else writeAll fuel after format

/-- What `printf` writes and reports, and whether it was stopped. -/
def printf (format : String) (arguments : List String) : Progress :=
  writeAll (arguments.length + 1) { arguments } (Octets.bytes format)

end ArtifactPipeline.Shell.Format
