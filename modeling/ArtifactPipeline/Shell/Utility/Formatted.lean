import ArtifactPipeline.Shell.Format
import ArtifactPipeline.Shell.Utility.Amount
import ArtifactPipeline.Shell.Utility.Compare

/-!
# Formatted texts

The programs `echo` and `printf` write their arguments, as the commands of the shell with these names do, but
with more escapes and with numbers of more bits.

* `escapedOctets` reads the escapes of `echo`, and `escapeAt` those of `printf`;
* `writeFormat` writes a format once, and takes the arguments that its directives need.
-/

namespace ArtifactPipeline.Shell.Utility

/-- The value of hexadecimal digits. -/
def hexValue (digits : Bytes) : Nat :=
  digits.foldl (fun n b => 16 * n + digitValue (Char.ofUInt8 b)) 0

/-- Up to so many hexadecimal digits at the start of octets. -/
def hexDigits (most : Nat) (bytes : Bytes) : Bytes :=
  (bytes.take most).takeWhile fun b => isHexDigit (Char.ofUInt8 b)

/-- Up to so many octal digits at the start of octets. -/
def octalDigits (most : Nat) (bytes : Bytes) : Bytes := (bytes.take most).takeWhile Format.isOctal

/-- The octet that octal digits denote. -/
def octalOctet (digits : Bytes) : UInt8 :=
  UInt8.ofNat (digits.foldl (fun n b => 8 * n + (b.toNat - 0x30)) 0)

/-! ### Words -/

/-- Octets with their escapes replaced, and whether an escape ended the output. -/
def escapedOctets : (fuel : Nat) → Bytes → Bytes × Bool
  | 0, _ => ([], false)
  | _ + 1, [] => ([], false)
  | fuel + 1, b :: rest =>
    let put (octets : Bytes) (rest : Bytes) : Bytes × Bool :=
      let (more, stopped) := escapedOctets fuel rest
      (octets ++ more, stopped)
    if b ≠ 0x5C then put [b] rest
    else
      match rest with
      | [] => ([b], false)
      | c :: more =>
        if c = 0x63 then ([], true)
        else if c = 0x78 ∧ !(hexDigits 2 more).isEmpty then
          let digits := hexDigits 2 more
          put [UInt8.ofNat (hexValue digits)] (more.drop digits.length)
        else if c = 0x30 then
          let digits := octalDigits 3 more
          put [octalOctet digits] (more.drop digits.length)
        else if Format.isOctal c then
          let digits := octalDigits 3 rest
          put [octalOctet digits] (rest.drop digits.length)
        else
          match Format.letterOctet? c with
          | some octet => put [octet] more
          | none => put [b, c] more

/-- The options of `echo`: whether escapes are replaced, whether the line is ended, and the words. -/
def echoOptions : (escapes ends : Bool) → List String → Bool × Bool × List String
  | escapes, ends, [] => (escapes, ends, [])
  | escapes, ends, a :: rest =>
    match a.toList with
    | '-' :: letters =>
      if letters.isEmpty ∨ !letters.all "neE".toList.contains then (escapes, ends, a :: rest)
      else
        let escapes := match letters.reverse.find? (· != 'n') with
          | some c => c == 'e'
          | none => escapes
        echoOptions escapes (ends && !letters.contains 'n') rest
    | _ => (escapes, ends, a :: rest)

/-- The arguments with blanks between them. -/
def echo : Utility := fun arguments => do
  let (escapes, ends, words) := echoOptions false true arguments
  let bytes := Octets.bytes (String.intercalate " " words)
  let (written, stopped) := if escapes then escapedOctets (bytes.length + 1) bytes else (bytes, false)
  Task.put (if ends && !stopped then written ++ [0x0A] else written)

/-! ### Formats -/

/-- Write the octets that an escape stands for; `bytes` starts after its backslash. The answer is what stands
after it. -/
def escapeAt (afterZero : Bool) (bytes : Bytes) : Task Bytes := do
  match bytes with
  | [] =>
    Task.put [0x5C]
    return []
  | c :: rest =>
    let missing : Task Unit := Task.fail "missing hexadecimal number in escape"
    if c = 0x78 then
      let digits := hexDigits 2 rest
      if digits.isEmpty then missing
      Task.put [UInt8.ofNat (hexValue digits)]
      return rest.drop digits.length
    else if Format.isOctal c then
      let start := if afterZero && c == 0x30 then rest else bytes
      let digits := octalDigits 3 start
      Task.put [octalOctet digits]
      return start.drop digits.length
    else if c = 0x63 then
      Task.ends 0
      Task.stop
    else if c = 0x22 then
      Task.put [c]
      return rest
    else if c = 0x75 ∨ c = 0x55 then
      let count := if c = 0x75 then 4 else 8
      let digits := hexDigits count rest
      if digits.length < count then missing
      let code := hexValue digits
      if 0xD800 ≤ code ∧ code ≤ 0xDFFF then
        Task.fail ("invalid universal character name \\" ++ textOf [c] ++ zeroPadded 16 count code)
      if code < 128 then Task.put [UInt8.ofNat code]
      else
        let (letter, width) := if code < 65536 then ("u", 4) else ("U", 8)
        Task.putText ("\\" ++ letter ++ String.ofList ((zeroPadded 16 width code).toList.map Char.toUpper))
      return rest.drop count
    else
      match Format.letterOctet? c with
      | some octet => Task.put [octet]
      | none => Task.put [0x5C, c]
      return rest

/-- Write octets with the escapes of an argument. -/
def writeEscaped : (fuel : Nat) → Bytes → Task Unit
  | 0, _ => pure ()
  | fuel + 1, bytes => do
    let plain := bytes.takeWhile (· != 0x5C)
    Task.put plain
    match bytes.drop plain.length with
    | [] => pure ()
    | _ :: rest =>
      let rest ← escapeAt true rest
      writeEscaped fuel rest

/-- Report what is wrong with a number, if something is. -/
def checkNumber (text : String) (far : Bool) (found : Bool) (rest : List Char) : Task Unit :=
  if far then Task.complain (Quoting.text text ++ ": Numerical result out of range")
  else if rest.isEmpty then pure ()
  else
    Task.complain (Quoting.text text
      ++ if found then ": value not completely converted" else ": expected a numeric value")

/-- The code of the character after a mark at the start of an argument. -/
def markedCode? (text : String) : Task (Option Nat) := do
  match text.toList with
  | mark :: c :: rest =>
    if mark = '\x22' ∨ mark = '\x27' then
      if !rest.isEmpty then
        Task.remark ("warning: " ++ String.ofList rest
          ++ ": character(s) following character constant have been ignored")
      return some c.toNat
    else return none
  | _ => return none

/-- The whole number that an argument denotes. -/
def wholeNumber (signed : Bool) (text : String) : Task Int := do
  match ← markedCode? text with
  | some code => return code
  | none =>
    let (negative, cs) := Arithmetic.signOf (text.toList.dropWhile Arithmetic.isBlank)
    match Arithmetic.magnitude? cs with
    | none =>
      checkNumber text false false text.toList
      return 0
    | some (n, rest) =>
      if signed then
        checkNumber text (Arithmetic.overflows negative n) true rest
        return Arithmetic.clamp negative n
      else
        let far := Word.bound ≤ n
        checkNumber text far true rest
        return if far then (Word.bound : Int) - 1 else if negative then -(n : Int) else n

/-- The binary number that an argument denotes. -/
def binaryNumber (text : String) : Task Decimal.Floating := do
  match ← markedCode? text with
  | some code => return (Decimal.FloatFormat.extended.nearest false ⟨code, 1⟩).1
  | none =>
    match Decimal.FloatFormat.extended.read? (text.toList.dropWhile Arithmetic.isBlank) with
    | none =>
      checkNumber text false false text.toList
      return .finite false 0 0
    | some (x, far, rest) =>
      checkNumber text far true rest
      return x

/-- A directive that has been read, and what stands after it. -/
structure ReadDirective where
  directive : Format.Directive
  /-- The letters that the signs of the directive allow. -/
  allowed : List Char
  arguments : List String
  rest : Bytes

/-- Read the signs of a directive. -/
def directiveSigns : Bytes → Format.Directive → List Char → Format.Directive × List Char × Bytes
  | b :: rest, d, allowed =>
    let without (letters : String) : List Char := allowed.filter fun c => !letters.toList.contains c
    match Char.ofUInt8 b with
    | '-' => directiveSigns rest { d with leftAligned := true } allowed
    | '+' => directiveSigns rest { d with plusSign := true } allowed
    | ' ' => directiveSigns rest { d with blankSign := true } allowed
    | '0' => directiveSigns rest { d with zeroPadded := true } (without "cs")
    | '#' => directiveSigns rest { d with alternate := true } (without "cdisu")
    | 'I' => directiveSigns rest d (without "aAceEosxX")
    | '\x27' => directiveSigns rest d (without "aAceEosxX")
    | _ => (d, allowed, b :: rest)
  | [], d, allowed => (d, allowed, [])

/-- Read a number of a directive, which may be an argument. -/
def directiveNumber (what : String) (arguments : List String) (bytes : Bytes) :
    Task (Int × List String × Bytes) := do
  match bytes with
  | 0x2A :: rest =>
    match arguments with
    | [] => return (0, [], rest)
    | text :: more =>
      let n ← wholeNumber true text
      if n < -2147483648 ∨ 2147483647 < n then
        Task.fail ("invalid " ++ what ++ ": " ++ Quoting.text text)
      return (n, more, rest)
  | bytes =>
    let digits := bytes.takeWhile isDigitByte
    return (digitsValue digits, arguments, bytes.drop digits.length)

/-- Read a directive after the percent sign, up to its letter. -/
def readDirective (arguments : List String) (bytes : Bytes) : Task ReadDirective := do
  let (d, allowed, rest) := directiveSigns bytes {} "aAcdeEfFgGiosuxX".toList
  let (width, arguments, rest) ← directiveNumber "field width" arguments rest
  let d := { d with width := width.natAbs, leftAligned := d.leftAligned || width < 0 }
  let isSize (b : UInt8) : Bool := "lLhjtz".toList.contains (Char.ofUInt8 b)
  match rest with
  | 0x2E :: rest =>
    let (precision, arguments, rest) ← directiveNumber "precision" arguments rest
    let d := { d with precision := if precision < 0 then none else some precision.toNat }
    return ⟨d, allowed.filter (· != 'c'), arguments, rest.dropWhile isSize⟩
  | rest => return ⟨d, allowed, arguments, rest.dropWhile isSize⟩

/-- Write an argument as a directive with a letter says. -/
def writeDirective (d : Format.Directive) (letter : Char) (text : String) : Task Unit := do
  let cut (bytes : Bytes) : Bytes := match d.precision with
    | some n => bytes.take n
    | none => bytes
  let numeric (base : Nat) (upper signed : Bool) : Task Unit := do
    Task.put (d.numeral base upper signed (← wholeNumber signed text))
  match letter with
  | 's' => Task.put (d.pad (cut (Octets.bytes text)))
  | 'c' => Task.put (d.pad [(Octets.bytes text).headD 0])
  | 'd' => numeric 10 false true
  | 'i' => numeric 10 false true
  | 'u' => numeric 10 false false
  | 'o' => numeric 8 false false
  | 'x' => numeric 16 false false
  | 'X' => numeric 16 true false
  | letter => Task.put (d.floating .extended letter (← binaryNumber text))

/-- Write a format once; the answer is the arguments that are left. -/
def writeFormat : (fuel : Nat) → List String → Bytes → Task (List String)
  | 0, arguments, _ => return arguments
  | fuel + 1, arguments, bytes => do
    let plain := bytes.takeWhile fun b => b != 0x5C && b != 0x25
    Task.put plain
    match bytes.drop plain.length with
    | [] => return arguments
    | 0x5C :: rest => writeFormat fuel arguments (← escapeAt false rest)
    | _ :: 0x25 :: rest =>
      Task.put [0x25]
      writeFormat fuel arguments rest
    | _ :: 0x62 :: rest =>
      let bytes := Octets.bytes (arguments.headD "")
      writeEscaped (bytes.length + 1) bytes
      writeFormat fuel arguments.tail rest
    | _ :: 0x71 :: rest =>
      match arguments.head? with
      | some text => Task.putText (Quoting.name text)
      | none => pure ()
      writeFormat fuel arguments.tail rest
    | _ :: start =>
      let r ← readDirective arguments start
      match r.rest with
      | letter :: rest =>
        if r.allowed.contains (Char.ofUInt8 letter) then
          writeDirective r.directive (Char.ofUInt8 letter) (r.arguments.headD "")
          writeFormat fuel r.arguments.tail rest
        else
          let spelled := textOf (start.take (start.length - rest.length))
          Task.fail ("%" ++ spelled ++ ": invalid conversion specification")
      | [] => Task.fail ("%" ++ textOf start ++ ": invalid conversion specification")

/-- Write a format as long as it uses up arguments. -/
def writeFormats : (fuel : Nat) → List String → Bytes → Task Unit
  | 0, _, _ => pure ()
  | fuel + 1, arguments, format => do
    let left ← writeFormat (format.length + 1) arguments format
    match left with
    | [] => pure ()
    | text :: _ =>
      if left.length < arguments.length then writeFormats fuel left format
      else
        Task.remark ("warning: ignoring excess arguments, starting with " ++ Quoting.text text)

/-- Write formatted arguments. -/
def printf : Utility := fun arguments =>
  match (if arguments.head? = some "--" then arguments.tail else arguments) with
  | [] => Task.misuse "missing operand"
  | format :: rest => writeFormats (rest.length + 1) rest (Octets.bytes format)

end ArtifactPipeline.Shell.Utility
