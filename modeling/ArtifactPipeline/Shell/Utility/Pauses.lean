import ArtifactPipeline.Decimal.Floating
import ArtifactPipeline.Shell.Task

/-!
# Programs that do little

A pause, an answer that is always the same, and a line that is written again and again. Time does not pass
here, so a pause only checks how long it should be.

* `interval?` reads a length of time;
* `sleep`, `yes`, `succeed` and `failing` are the programs.
-/

namespace ArtifactPipeline.Shell.Utility

/-- The milliseconds in a unit of time. -/
def unitOfTime? : List Char → Option Nat
  | [] => some 1000
  | ['s'] => some 1000
  | ['m'] => some 60000
  | ['h'] => some 3600000
  | ['d'] => some 86400000
  | _ => none

/-- The longest time that is told apart from longer ones, in milliseconds. -/
def longestTime : Nat := 1000000000000000

/-- A length of time in milliseconds, rounded up. -/
def interval? (text : String) : Option Nat := do
  let isSpace (c : Char) : Bool := c == ' ' || ('\t' ≤ c && c ≤ '\r')
  let (x, _, rest) ← Decimal.FloatFormat.extended.read? (text.toList.dropWhile isSpace)
  let unit ← unitOfTime? rest
  match x with
  | .notANumber _ => none
  | .infinite negative => if negative then none else some longestTime
  | .finite negative mantissa exponent =>
    if negative && mantissa != 0 then none
    else
      let r := Decimal.Ratio.ofPower mantissa 2 exponent
      some (min longestTime ((r.num * unit + r.den - 1) / r.den))

/-- A pause. -/
def sleep : Utility := fun arguments => do
  let a ← Task.options { flags := "", long := longNames "" } arguments
  if a.operands.isEmpty then Task.misuse "missing operand"
  let wrong := a.operands.filter fun text => (interval? text).isNone
  for text in wrong do Task.complain ("invalid time interval " ++ Quoting.text text)
  if !wrong.isEmpty then Task.seekHelp

/-- The number of lines that are written where there is no end to them. -/
def manyLines : Nat := 20000

/-- The same line, again and again. -/
def yes : Utility := fun arguments => do
  let a ← Task.options { flags := "", long := longNames "" } arguments
  let line := String.intercalate " " (if a.operands.isEmpty then ["y"] else a.operands)
  Task.put (List.replicate manyLines (Octets.bytes (line ++ "\n"))).flatten

/-- No work, and success. -/
def succeed : Utility := fun _ => pure ()

/-- No work, and failure. -/
def failing : Utility := fun _ => Task.ends 1

/-- Files made safe; they always are. -/
def sync : Utility := fun arguments => do
  let a ← Task.options { flags := "df", long := longNames "d=data f=file-system" } arguments
  if a.has 'd' && a.has 'f' then Task.fail "cannot specify both --data and --file-system"
  if a.has 'd' && a.operands.isEmpty then Task.fail "--data needs at least one argument"
  for name in a.operands do
    match ← Task.find name with
    | .ok _ => pure ()
    | .error fault => Task.complain ("error opening " ++ Quoting.always name ++ ": " ++ faultText fault)

end ArtifactPipeline.Shell.Utility
