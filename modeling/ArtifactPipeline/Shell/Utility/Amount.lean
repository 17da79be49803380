import ArtifactPipeline.Shell.Task

/-!
# Amounts

Programs are told how much they shall write, or where they shall start, by numbers. A letter after a
number multiplies it, such as `k` for 1024, or `kB` for 1000.

* `Amount.read` reads a number with letters behind it;
* `Amount.natural` reads one that an option gives, and reports what is none.
-/

namespace ArtifactPipeline.Shell.Utility

/-- What a text says about an amount. -/
inductive Amount where
  | exactly (n : Nat)
  /-- More than a machine counts. -/
  | tooLarge
  /-- A number with something behind it that is no letter for a factor. The flag says that the number
  is too large, too. -/
  | trailed (large : Bool)
  | nothing
deriving Repr, DecidableEq

namespace Amount

/-- The number of numbers that a machine counts. -/
def bound : Nat := 18446744073709551616

/-- The number that digits denote. -/
def ofDigits (digits : List Char) : Nat :=
  digits.foldl (fun n c => 10 * n + (c.toNat - '0'.toNat)) 0

/-- The power of 1024 or 1000 that a letter stands for. -/
def power? (c : Char) : Option Nat :=
  match c with
  | 'k' | 'K' => some 1
  | 'm' | 'M' => some 2
  | 'g' | 'G' => some 3
  | 't' | 'T' => some 4
  | 'P' => some 5
  | 'E' => some 6
  | 'Z' => some 7
  | 'Y' => some 8
  | 'R' => some 9
  | 'Q' => some 10
  | _ => none

/-- The factor that the first of some letters stands for, and what stands after it. The letter `0` among
the known ones says that a second one may follow. -/
def factor? (known : List Char) (c : Char) (rest : List Char) : Option (Nat × List Char) :=
  if !known.contains c then none
  else
    match power? c with
    | some n =>
      match known.contains '0', rest with
      | true, 'i' :: 'B' :: more => some (Nat.pow 1024 n, more)
      | true, 'B' :: more => some (Nat.pow 1000 n, more)
      | true, 'D' :: more => some (Nat.pow 1000 n, more)
      | _, rest => some (Nat.pow 1024 n, rest)
    | none =>
      match c with
      | 'b' => some (512, rest)
      | 'B' => some (1024, rest)
      | 'c' => some (1, rest)
      | 'w' => some (2, rest)
      | _ => none

/-- What a text says about an amount; `known` are the letters for factors. -/
def read (known : List Char) (text : String) : Amount :=
  let cs := text.toList.dropWhile fun c => c == ' ' || ('\t' ≤ c && c ≤ '\r')
  let cs := match cs with
    | '+' :: rest => rest
    | cs => cs
  let digits := cs.takeWhile Char.isDigit
  let rest := cs.drop digits.length
  let number := if digits.isEmpty then 1 else ofDigits digits
  match rest with
  | [] => if digits.isEmpty then nothing else if number < bound then exactly number else tooLarge
  | c :: rest =>
    if digits.isEmpty && (!known.contains c || cs.length != text.length) then nothing
    else
      match factor? known c rest with
      | none => trailed (bound ≤ number)
      | some (k, rest) =>
        let large := bound ≤ number || bound ≤ number * k
        if !rest.isEmpty then trailed large else if large then tooLarge else exactly (number * k)

/-- The letters for factors that most programs know. -/
def usualLetters : List Char := "bkKmMGTPEZYRQ0".toList

/-- An amount that an option gives, between two bounds; `what` is said about one that makes no sense.
Amounts in the range of a small counter are out of range, and others too large for any counter. -/
def between (least most : Nat) (known : List Char) (what text : String) : Task Nat :=
  let report (why : String) : Task Nat :=
    Task.fail (what ++ ": " ++ Quoting.text text ++ if why.isEmpty then "" else ": " ++ why)
  let large := "Value too large for defined data type"
  match read known text with
  | exactly n =>
    if least ≤ n && n ≤ most then return n
    else if 1073741823 < n then report large
    else report "Numerical result out of range"
  | tooLarge => report large
  | trailed _ => report ""
  | nothing => report ""

/-- An amount that an option gives. -/
def natural (known : List Char) (what text : String) : Task Nat :=
  between 0 (bound - 1) known what text

/-- A number that may be below zero, which an option gives. -/
def integer (least : Int) (most : Nat) (what text : String) : Task Int := do
  match text.toList with
  | '-' :: digits =>
    let report (why : String) : Task Int :=
      Task.fail (what ++ ": " ++ Quoting.text text ++ if why.isEmpty then "" else ": " ++ why)
    match digits, read [] (String.ofList digits) with
    | '+' :: _, _ => report ""
    | _, exactly n =>
      if least ≤ -(n : Int) then return -(n : Int)
      else if 1073741824 < n then report "Value too large for defined data type"
      else report "Numerical result out of range"
    | _, tooLarge => report "Value too large for defined data type"
    | _, _ => report ""
  | _ => return (← between (if 0 < least then least.toNat else 0) most [] what text : Nat)

end Amount

end ArtifactPipeline.Shell.Utility
