import ArtifactPipeline.Shell.Utility.Formatted

/-!
# Numbers in a row

The program `seq` writes numbers in a row, all with as many places as the most exact one has, and `factor`
takes numbers apart into their prime factors.

* `SeqNumber.read?` reads a number with what its text says about the width of others;
* `putNumbers` writes the numbers, and `primeFactors` finds the factors.
-/

namespace ArtifactPipeline.Shell.Utility

/-! ### Rows -/

/-- A number as an argument gives it. -/
structure SeqNumber where
  /-- The number as a fraction. -/
  num : Int
  den : Nat
  /-- Whether it is zero with a minus sign. -/
  negativeZero : Bool := false
  /-- Whether it is larger than all others. -/
  infinite : Bool := false
  /-- The columns that it takes. -/
  width : Int := 1
  /-- The places behind its point, if its text shows them. -/
  places : Option Nat := some 0

namespace SeqNumber

/-- The number one. -/
def one : SeqNumber := { num := 1, den := 1 }

/-- The width and the places that a text in decimal digits shows. -/
def shape (cs : List Char) : Int × Nat :=
  let length : Int := cs.length
  let e? := cs.findIdx? fun c => c == 'e' || c == 'E'
  let point? := cs.findIdx? (· == '.')
  let fraction := match point? with
    | some i => ((cs.drop (i + 1)).takeWhile fun c => c != 'e' && c != 'E').length
    | none => 0
  let pointed : Int := match point? with
    | some i =>
      if fraction = 0 then -1
      else if i = 0 ∨ !(cs.getD (i - 1) ' ').isDigit then 1 else 0
    | none => 0
  match e? with
  | none => (length + pointed, fraction)
  | some i =>
    let exponent := (Decimal.FloatFormat.exponentOf 'e' (cs.drop i)).1
    let places := if exponent < 0 then fraction + exponent.natAbs else fraction - min fraction exponent.toNat
    let width := length + pointed - (length - i)
    if exponent < 0 then
      let undone : Int := if point?.isNone ∨ point? = some (i - 1) then 1 else 0
      (width + undone + exponent.natAbs, places)
    else
      let undone : Int := if point?.isSome ∧ places = 0 ∧ fraction ≠ 0 then 1 else 0
      (width - undone + (exponent.toNat - min fraction exponent.toNat : Nat), places)

/-- The number that a text denotes. -/
def read? (text : String) : Option SeqNumber :=
  let spaceless := text.toList.dropWhile Arithmetic.isBlank
  match Decimal.FloatFormat.extended.read? spaceless, AnyNumber.ofText text with
  | some (_, _, []), .finite negative r =>
    let cs := if spaceless.head? = some '+' then spaceless.tail else spaceless
    let sixteen := cs.any fun c => c == 'x' || c == 'X'
    let (width, places) := shape cs
    some {
      num := if negative then -(r.num : Int) else r.num
      den := r.den
      negativeZero := negative && r.num == 0
      width := if sixteen then 0 else width
      places :=
        if !sixteen then some places
        else if cs.any (fun c => c == '.' || c == 'p') then none
        else some 0 }
  | some (_, _, []), .infinite negative =>
    some { num := if negative then -1 else 1, den := 1, infinite := true, width := 0, places := none }
  | _, _ => none

/-- Whether one number is smaller than another. -/
def less (a b : SeqNumber) : Bool :=
  if a.infinite || b.infinite then
    (a.infinite && a.num < 0 && !(b.infinite && b.num < 0))
      || (b.infinite && 0 < b.num && !(a.infinite && 0 < a.num))
  else a.num * (b.den : Int) < b.num * (a.den : Int)

/-- A number as the nearest binary one. -/
def floating (a : SeqNumber) : Decimal.Floating :=
  (Decimal.FloatFormat.extended.nearest (a.num < 0 || a.negativeZero) ⟨a.num.natAbs, a.den⟩).1

end SeqNumber

/-- A format for numbers: a text before and behind, and how a number is written. -/
structure SeqFormat where
  before : String := ""
  behind : String := ""
  write : SeqNumber → String

/-- A text in which two percent signs stand for one, up to a single one or the end. -/
def plainUpTo : List Char → List Char × List Char
  | '%' :: '%' :: rest =>
    let (plain, more) := plainUpTo rest
    ('%' :: plain, more)
  | '%' :: rest => ([], '%' :: rest)
  | c :: rest =>
    let (plain, more) := plainUpTo rest
    (c :: plain, more)
  | [] => ([], [])

/-- The format that an option gives. -/
def SeqFormat.read (text : String) : Except String SeqFormat := do
  let start := "format " ++ Quoting.text text
  let (before, directive) := plainUpTo text.toList
  let spelled ← match directive with
    | [] => .error (start ++ " has no % directive")
    | _ :: rest => pure rest
  let (d, _, rest) := directiveSigns (Octets.bytes (String.ofList spelled)) {} []
  let digits := rest.takeWhile isDigitByte
  let d := { d with width := digitsValue digits }
  let rest := rest.drop digits.length
  let (d, rest) := match rest with
    | 0x2E :: rest =>
      let places := rest.takeWhile isDigitByte
      ({ d with precision := some (digitsValue places) }, rest.drop places.length)
    | rest => (d, rest)
  let rest := if rest.head? = some 0x4C then rest.tail else rest
  match rest with
  | [] => .error (start ++ " ends in %")
  | letter :: rest =>
    let letter := Char.ofUInt8 letter
    if !"efgaEFGA".toList.contains letter then
      .error (start ++ " has unknown %" ++ String.singleton letter ++ " directive")
    let (behind, more) := plainUpTo (textOf rest).toList
    if !more.isEmpty then .error (start ++ " has too many % directives")
    return {
      before := String.ofList before
      behind := String.ofList behind
      write := fun x => textOf (d.floating .extended letter x.floating) }

/-- A number with so many places, in at least so many columns. -/
def placesText (places width : Nat) (x : SeqNumber) : String :=
  let scaled := x.num * Int.ofNat (Nat.pow 10 places) / Int.ofNat x.den
  let digits := Nat.toDigits 10 scaled.natAbs
  let digits := List.replicate (places + 1 - digits.length) '0' ++ digits
  let whole := digits.take (digits.length - places)
  let body := if places = 0 then whole else whole ++ '.' :: digits.drop (digits.length - places)
  let sign := if scaled < 0 || x.negativeZero then ['-'] else []
  String.ofList (sign ++ List.replicate (width - sign.length - body.length) '0' ++ body)

/-- The format that the numbers themselves ask for. -/
def usualFormat (wide : Bool) (first step last : SeqNumber) : SeqFormat :=
  match first.places, step.places, last.places with
  | some p, some q, some r =>
    let places := max p q
    let firstWidth := first.width + (places - p : Nat) + if p = 0 ∧ places ≠ 0 then 1 else 0
    let lastWidth := last.width + ((places : Int) - r)
      + (if r ≠ 0 ∧ places = 0 then -1 else if r = 0 ∧ places ≠ 0 then 1 else 0)
    let width := if wide then (max firstWidth lastWidth).toNat else 0
    { write := placesText places width }
  | _, _, _ => { write := fun x => textOf (({} : Format.Directive).floating .extended 'g' x.floating) }

/-- The most numbers that are written where there is no end to them. -/
def manyNumbers : Nat := 20000

/-- Write numbers in a row. -/
def putNumbers (format : SeqFormat) (joint : String) (first step last : SeqNumber) : Task Unit := do
  let falling := step.num < 0
  if (if falling then first.less last else last.less first) then return
  let den := first.den * step.den
  let start := first.num * (step.den : Int)
  let pace := step.num * (first.den : Int)
  let count : Nat :=
    if last.infinite then manyNumbers
    else
      let gap := last.num * (den : Int) - start * (last.den : Int)
      let unit := pace * (last.den : Int)
      (gap / unit).toNat + 1
  let texts := (List.range count).map fun (i : Nat) =>
    let x : SeqNumber :=
      if i = 0 then first else { num := start + Int.ofNat i * pace, den := den }
    Octets.bytes ((if i = 0 then "" else joint) ++ format.before ++ format.write x ++ format.behind)
  Task.put (texts.flatten ++ [0x0A])

/-- The options of `seq` before its numbers, and the numbers. -/
def seqArguments : (fuel : Nat) → List String → Arguments
  | 0, operands => { operands }
  | _ + 1, [] => {}
  | fuel + 1, a :: rest =>
    let isNumber := match a.toList with
      | '-' :: c :: _ => c.isDigit || c == '.'
      | _ => false
    if isNumber || !Text.startsWith a "-" || a == "-" then { operands := a :: rest }
    else
      let t : OptionTable := { flags := "w", valued := "fs",
                               long := longNames "w=equal-width f=format s=separator" }
      if a = "--" then { operands := rest }
      else
        let found := match a.toList with
          | '-' :: '-' :: _ => t.readLong rest.head? a
          | cs => t.readLetters rest.head? cs.tail
        match found.fault with
        | some fault => { options := found.options, fault := some fault }
        | none => (seqArguments fuel (if found.usesNext then rest.tail else rest)).after found.options

/-- Numbers in a row. -/
def seq : Utility := fun arguments => do
  let a := seqArguments (arguments.length + 1) arguments
  match a.fault with
  | some fault => Task.misuse fault.message
  | none => pure ()
  let texts := a.operands
  if texts.isEmpty then Task.misuse "missing operand"
  Task.atMost 3 texts
  let given ← match a.value? 'f' with
    | none => pure none
    | some text =>
      match SeqFormat.read text with
      | .ok format => pure (some format)
      | .error text => Task.fail text
  let numbers ← texts.mapM fun text =>
    match SeqNumber.read? text, AnyNumber.ofText text with
    | some x, _ => pure x
    | none, .notANumber => Task.misuse ("invalid 'not-a-number' argument: " ++ Quoting.text text)
    | none, _ => Task.misuse ("invalid floating point argument: " ++ Quoting.text text)
  let (first, step, last) := match numbers with
    | [first, step, last] => (first, step, last)
    | [first, last] => (first, .one, last)
    | numbers => (.one, .one, numbers.headD .one)
  if step.num = 0 then
    Task.misuse ("invalid Zero increment value: " ++ Quoting.text (texts.getD 1 ""))
  if given.isSome && a.has 'w' then
    Task.misuse "format string may not be specified when printing equal width strings"
  let format := given.getD (usualFormat (a.has 'w') first step last)
  putNumbers format ((a.value? 's').getD "\n") first step last

/-! ### Factors -/

/-- The factors of a number from a candidate on, the smallest first. -/
def factorsFrom : (fuel : Nat) → (candidate n : Nat) → List Nat
  | 0, _, n => if 1 < n then [n] else []
  | fuel + 1, d, n =>
    if n < 2 then []
    else if n < d * d then [n]
    else if n % d = 0 then d :: factorsFrom fuel d (n / d)
    else factorsFrom fuel (if d = 2 then 3 else d + 2) n

/-- The prime factors of a number, the smallest first. Candidates are tried up to a million. -/
def primeFactors (n : Nat) : List Nat := factorsFrom 1000000 2 n

/-- Factors with the number of times that they occur. -/
def withExponents : List Nat → List (Nat × Nat)
  | [] => []
  | n :: rest =>
    match withExponents rest with
    | (m, k) :: more => if n = m then (m, k + 1) :: more else (n, 1) :: (m, k) :: more
    | [] => [(n, 1)]

/-- Take numbers apart. -/
def factor : Utility := fun arguments => do
  let a ← Task.options { flags := "h", long := longNames "h=exponents" } arguments
  let texts ← if !a.operands.isEmpty then pure a.operands
    else
      match ← Task.takeInput with
      | .ok bytes =>
        pure (((Text.splitOn ' ' ((textOf bytes).toList.map fun c =>
          if c == '\n' || c == '\t' then ' ' else c)).filter (!·.isEmpty)).map String.ofList)
      | .error _ => pure []
  let mut lines : List String := []
  for text in texts do
    let cs := text.toList.dropWhile (· == ' ')
    let cs := if cs.head? = some '+' then cs.tail else cs
    if cs.isEmpty || !cs.all Char.isDigit then
      Task.complain (Quoting.text text ++ " is not a valid positive integer")
    else
      let n := Amount.ofDigits cs
      let factors := primeFactors n
      let shown := if a.has 'h' then
          (withExponents factors).map fun (p, k) =>
            " " ++ toString p ++ if k = 1 then "" else "^" ++ toString k
        else factors.map fun p => " " ++ toString p
      lines := lines ++ [toString n ++ ":" ++ String.join shown]
  for line in lines do Task.putLine line

end ArtifactPipeline.Shell.Utility
