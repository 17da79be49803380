import ArtifactPipeline.Shell.Lexer
import ArtifactPipeline.Word

/-!
# Arithmetic of the shell

An arithmetic expression is made of whole numbers of 64 bits, names of variables, parentheses and
operators; `level?` says how strongly the operators with two sides bind, those of one level from left
to right. An expression can give values to variables. A part that decides nothing, like the second
side of `0 && x`, is read but not carried out.

* `integer?` reads a number as far as it goes;
* `variableValue` is the number that the text of a variable denotes;
* `evaluate` is the value of an expression, with the values it gives to variables.
-/

namespace ArtifactPipeline.Shell.Arithmetic

/-- A token of an expression. -/
inductive Symbol where
  | number (n : Int)
  | name (s : String)
  | operator (s : String)
  /-- A character that belongs to no expression. -/
  | stray
deriving Repr, DecidableEq

/-- Why an expression has no value. -/
inductive Fault where
  /-- Something else should stand where the expression went wrong. -/
  | expecting (what : String)
  | divisionByZero
  /-- The quotient of the least number and minus one, which the machine cannot hold. -/
  | quotientOverflow
  /-- The text of a variable is no number. -/
  | illegalNumber (text : String)
deriving Repr, DecidableEq

/-! ### Numbers -/

/-- The value of a digit. -/
def digitValue (c : Char) : Nat :=
  if c.isDigit then c.toNat - '0'.toNat else c.toLower.toNat - 'a'.toNat + 10

/-- Whether a character is a digit in a base. -/
def isDigitIn (base : Nat) (c : Char) : Bool := c.isAlphanum && digitValue c < base

/-- The number that digits denote. -/
def numberIn (base : Nat) (digits : List Char) : Nat :=
  digits.foldl (fun n c => base * n + digitValue c) 0

/-- The base that the start of a number tells, and the digits with what stands after them. -/
def baseOf : List Char → Nat × List Char
  | '0' :: x :: d :: rest =>
    if (x = 'x' ∨ x = 'X') ∧ isDigitIn 16 d then (16, d :: rest) else (8, '0' :: x :: d :: rest)
  | '0' :: rest => (8, '0' :: rest)
  | cs => (10, cs)

/-- The number without a sign at the start of a text, if there is one, and what stands after it. -/
def magnitude? (cs : List Char) : Option (Nat × List Char) :=
  let (base, cs) := baseOf cs
  match cs.takeWhile (isDigitIn base) with
  | [] => none
  | digits => some (numberIn base digits, cs.drop digits.length)

/-- A number with a sign, brought into the range of words. -/
def clamp (negative : Bool) (n : Nat) : Int :=
  if negative then -((min n Word.signedBound : Nat) : Int)
  else ((min n (Word.signedBound - 1) : Nat) : Int)

/-- Whether a number with a sign is outside the range of words. -/
def overflows (negative : Bool) (n : Nat) : Bool :=
  if negative then Word.signedBound < n else Word.signedBound ≤ n

/-- Whether a character is a blank before or after a number. -/
def isBlank (c : Char) : Bool := c == ' ' || (9 ≤ c.toNat && c.toNat ≤ 13)

/-- The sign at the start of a text. -/
def signOf : List Char → Bool × List Char
  | '-' :: cs => (true, cs)
  | '+' :: cs => (false, cs)
  | cs => (false, cs)

/-- The number at the start of a text after blanks, whether it had to be clamped, and what stands
after it. -/
def integer? (s : List Char) : Option (Int × Bool × List Char) :=
  let (negative, cs) := signOf (s.dropWhile isBlank)
  (magnitude? cs).map fun (n, rest) => (clamp negative n, overflows negative n, rest)

/-- The number that the text of a variable denotes; no text denotes zero. -/
def variableValue (text : String) : Except Fault Int :=
  match integer? text.toList with
  | some (n, false, rest) =>
    if rest.all isBlank then .ok n else .error (.illegalNumber text)
  | some (_, true, _) => .error (.illegalNumber text)
  | none => if text.toList.all isBlank then .ok 0 else .error (.illegalNumber text)

/-! ### Symbols -/

/-- The operators, longer ones before their beginnings. -/
def operators : List String :=
  ["<<=", ">>=", "||", "&&", "==", "!=", "<=", ">=", "<<", ">>", "+=", "-=", "*=", "/=", "%=", "&=",
    "|=", "^=", "+", "-", "*", "/", "%", "&", "|", "^", "~", "!", "<", ">", "=", "?", ":", "(", ")"]

/-- The symbols of an expression, up to a character that belongs to none. -/
def symbols : (fuel : Nat) → List Char → List Symbol
  | 0, _ => []
  | _ + 1, [] => []
  | fuel + 1, c :: cs =>
    if isSeparator c || c == '\n' then symbols fuel cs
    else if c.isDigit then
      match magnitude? (c :: cs) with
      | some (n, rest) => .number (clamp false n) :: symbols fuel rest
      | none => [.stray]
    else if startsName c then
      .name (String.ofList ((c :: cs).takeWhile isNameChar))
        :: symbols fuel ((c :: cs).dropWhile isNameChar)
    else
      match operators.find? fun op => op.toList.isPrefixOf (c :: cs) with
      | some op => .operator op :: symbols fuel ((c :: cs).drop op.length)
      | none => [.stray]

/-- How strongly an operator with two sides binds. -/
def level? : String → Option Nat
  | "|" => some 1
  | "^" => some 2
  | "&" => some 3
  | "==" | "!=" => some 4
  | "<" | ">" | "<=" | ">=" => some 5
  | "<<" | ">>" => some 6
  | "+" | "-" => some 7
  | "*" | "/" | "%" => some 8
  | _ => none

/-- The number of a truth value. -/
def truth (b : Bool) : Int := if b then 1 else 0

/-- Divide two numbers. -/
def divided (quotient : Int → Int → Int) (a b : Int) : Except Fault Int :=
  if b = 0 then .error .divisionByZero
  else if b = -1 ∧ Word.wrap (-a) ≠ -a then .error .quotientOverflow
  else .ok (Word.wrap (quotient a b))

/-- Carry an operator out. -/
def apply (op : String) (a b : Int) : Except Fault Int :=
  match op with
  | "+" => .ok (Word.wrap (a + b))
  | "-" => .ok (Word.wrap (a - b))
  | "*" => .ok (Word.wrap (a * b))
  | "/" => divided Int.tdiv a b
  | "%" => divided Int.tmod a b
  | "==" => .ok (truth (a == b))
  | "!=" => .ok (truth (a != b))
  | "<" => .ok (truth (a < b))
  | ">" => .ok (truth (a > b))
  | "<=" => .ok (truth (a ≤ b))
  | ">=" => .ok (truth (a ≥ b))
  | "&" => .ok (Int64.ofInt a &&& Int64.ofInt b).toInt
  | "|" => .ok (Int64.ofInt a ||| Int64.ofInt b).toInt
  | "^" => .ok (Int64.ofInt a ^^^ Int64.ofInt b).toInt
  | "<<" => .ok (Int64.ofInt a <<< Int64.ofInt b).toInt
  | ">>" => .ok (Int64.ofInt a >>> Int64.ofInt b).toInt
  | _ => .error (.expecting "primary")

/-- The operator that an assignment carries out before, if any. -/
def assigning? : String → Option (Option String)
  | "=" => some none
  | "+=" => some (some "+")
  | "-=" => some (some "-")
  | "*=" => some (some "*")
  | "/=" => some (some "/")
  | "%=" => some (some "%")
  | "&=" => some (some "&")
  | "|=" => some (some "|")
  | "^=" => some (some "^")
  | "<<=" => some (some "<<")
  | ">>=" => some (some ">>")
  | _ => none

/-! ### Values -/

/-- The symbols that are left, and the values given to variables so far, the latest first. -/
structure Work where
  rest : List Symbol
  assigned : List (String × Int) := []

/-- Working an expression out. -/
abbrev Evaluation := StateT Work (Except Fault)

namespace Evaluation

/-- The next symbol. -/
def peek : Evaluation (Option Symbol) := return (← get).rest.head?

/-- Step over the next symbol. -/
def skip : Evaluation Unit := modify fun w => { w with rest := w.rest.tail }

/-- Step over an operator, if it is next. -/
def accept (op : String) : Evaluation Bool := do
  if (← peek) = some (.operator op) then
    skip
    return true
  else return false

/-- The value of a variable. -/
def read (lookup : String → String) (name : String) : Evaluation Int := do
  match (← get).assigned.lookup name with
  | some n => return n
  | none => MonadExcept.ofExcept (variableValue (lookup name))

end Evaluation

open Evaluation

/-- What is to be worked out. -/
inductive Goal where
  /-- An operand. -/
  | primary
  /-- Operands with operators between them that bind at least as strongly as a level. -/
  | binary (level : Nat)
  /-- The same, joined by `&&`. -/
  | conjunction
  /-- The same, joined by `||`. -/
  | disjunction
  /-- A choice by a question mark. -/
  | choice
  /-- An expression. -/
  | whole

section Goals

variable (lookup : String → String) (inner : (active : Bool) → Goal → Evaluation Int)

/-- Work an operand out. -/
def primary (active : Bool) : Evaluation Int := do
  match ← peek with
  | some (.number n) =>
    skip
    return n
  | some (.name s) =>
    skip
    if active then read lookup s else return 0
  | some (.operator "(") =>
    skip
    let n ← inner active .whole
    if ← accept ")" then return n else throw (.expecting "')'")
  | some (.operator "+") =>
    skip
    inner active .primary
  | some (.operator "-") =>
    skip
    return Word.wrap (-(← inner active .primary))
  | some (.operator "!") =>
    skip
    return truth ((← inner active .primary) == 0)
  | some (.operator "~") =>
    skip
    return Word.wrap (-(← inner active .primary) - 1)
  | _ => throw (.expecting "primary")

/-- Go on with the operators after a value. -/
def continued (active : Bool) (level : Nat) : (fuel : Nat) → Int → Evaluation Int
  | 0, n => return n
  | fuel + 1, n => do
    match ← peek with
    | some (.operator op) =>
      match level? op with
      | none => return n
      | some p =>
        if p < level then return n
        else
          skip
          let m ← inner active (.binary (p + 1))
          let n ← if active then MonadExcept.ofExcept (apply op n m) else pure m
          continued active level fuel n
    | _ => return n

/-- Work an expression out that can be an assignment. -/
def whole (active : Bool) : Evaluation Int := do
  match (← get).rest with
  | .name s :: .operator op :: _ =>
    match assigning? op with
    | none => inner active .choice
    | some before =>
      skip
      skip
      let n ← inner active .whole
      if !active then return n
      let n ← match before with
        | none => pure n
        | some op => do
          let m ← read lookup s
          MonadExcept.ofExcept (apply op m n)
      modify fun w => { w with assigned := (s, n) :: w.assigned }
      return n
  | _ => inner active .choice

/-- Work out what is asked for. -/
def work (active : Bool) : Goal → Evaluation Int
  | .primary => primary lookup inner active
  | .binary level => do
    let n ← inner active .primary
    continued inner active level ((← get).rest.length + 1) n
  | .conjunction => do
    let a ← inner active (.binary 1)
    if ← accept "&&" then
      let b ← inner (active && a != 0) .conjunction
      return truth (a != 0 && b != 0)
    else return a
  | .disjunction => do
    let a ← inner active .conjunction
    if ← accept "||" then
      let b ← inner (active && a == 0) .disjunction
      return truth (a != 0 || b != 0)
    else return a
  | .choice => do
    let a ← inner active .disjunction
    if ← accept "?" then
      let b ← inner (active && a != 0) .whole
      if !(← accept ":") then throw (.expecting "':'")
      let c ← inner (active && a == 0) .choice
      return if a != 0 then b else c
    else return a
  | .whole => whole lookup inner active

end Goals

/-- Work out what is asked for, with goals inside goals up to a depth. -/
def workOut (lookup : String → String) : (depth : Nat) → (active : Bool) → Goal → Evaluation Int
  | 0, _, _ => throw (.expecting "primary")
  | depth + 1, active, goal => work lookup (workOut lookup depth) active goal

/-- The value of an expression, and the values that it gives to variables, in order. -/
def evaluate (lookup : String → String) (text : String) :
    Except Fault (Int × List (String × Int)) := do
  let ss := symbols (text.length + 1) text.toList
  let (n, w) ← (workOut lookup (8 * ss.length + 8) true .whole).run { rest := ss }
  if w.rest.isEmpty then return (n, w.assigned.reverse) else throw (.expecting "EOF")

/-- The report of an expression without a value. -/
def Fault.message (text : String) : Fault → String
  | expecting what => "arithmetic expression: expecting " ++ what ++ ": \x22" ++ text ++ "\x22"
  | divisionByZero => "arithmetic expression: division by zero: \x22" ++ text ++ "\x22"
  | quotientOverflow => "arithmetic expression: overflow: \x22" ++ text ++ "\x22"
  | illegalNumber text => "Illegal number: " ++ text

end ArtifactPipeline.Shell.Arithmetic
