import ArtifactPipeline.Shell.Task
import ArtifactPipeline.Shell.Test

/-!
# Tests as a program

The program `test` asks about texts, numbers and files, as the command of the shell does, but it reads its
words by their number: up to four of them have meanings of their own, and only longer tests are read by the
strength of their operators.

* `Judgement.posix` reads a test of so many words, and `Judgement.whole` one that has no words left;
* `judge` is the program, which can also be called by an opening bracket.
-/

namespace ArtifactPipeline.Shell.Utility

/-- A test: what it can ask, and its words. -/
structure Judgement where
  programs : List String
  machine : Machine
  words : List String

namespace Judgement

/-- An answer, and the place of the first word after it. -/
abbrev Answer := Except String (Bool × Nat)

variable (j : Judgement)

/-- The number of words. -/
def size : Nat := j.words.length

/-- The word at a place. -/
def word (i : Nat) : String := j.words.getD i ""

/-- Whether a word stands at a place. -/
def holds (i : Nat) (text : String) : Bool := j.words[i]? == some text

/-- The fault of a test that goes on after its end. -/
def beyond {α : Type} : Except String α :=
  .error ("missing argument after " ++ Quoting.text (j.words.getLast?.getD ""))

/-- The operators between two words. -/
def isBinary (text : String) : Bool :=
  ["=", "==", "!=", "-eq", "-ne", "-gt", "-ge", "-lt", "-le", "-nt", "-ot", "-ef"].contains text

/-- Whether a word has the form of an operator before another one. -/
def isUnary (text : String) : Bool :=
  match text.toList with
  | ['-', _] => true
  | _ => false

/-- The number that a word denotes. -/
def number (text : String) : Except String Int :=
  let isBlank (c : Char) : Bool := c == ' ' || c == '\t'
  let cs := text.toList.dropWhile isBlank
  let (negative, cs) := match cs with
    | '-' :: cs => (true, cs)
    | '+' :: cs => (false, cs)
    | cs => (false, cs)
  let digits := cs.takeWhile Char.isDigit
  if digits.isEmpty ∨ !(cs.drop digits.length).all isBlank then
    .error ("invalid integer " ++ Quoting.text text)
  else
    let n := digits.foldl (fun n c => 10 * n + (c.toNat - '0'.toNat)) 0
    .ok (if negative then -n else n)

/-- What a comparison of numbers says. -/
def compareNumbers (op : String) (a b : Int) : Bool :=
  match op with
  | "-eq" => a == b
  | "-ne" => a != b
  | "-gt" => b < a
  | "-ge" => b ≤ a
  | "-lt" => a < b
  | _ => a ≤ b

/-- An operator between two words, the first of which is at a place; the length of a text can stand for a
number. -/
def binary (i : Nat) : Answer := do
  let leftIsLength := j.holds i "-l" && !isBinary (j.word (i + 1))
  let left := if leftIsLength then i + 1 else i
  let op := j.word (left + 1)
  let rightIsLength := decide (left + 3 < j.size) && j.holds (left + 2) "-l"
  let right := if rightIsLength then left + 3 else left + 2
  let length (k : Nat) : Int := (j.word k).length
  let answer ←
    if op = "=" ∨ op = "==" then pure (j.word left == j.word right)
    else if op = "!=" then pure (j.word left != j.word right)
    else if op = "-ef" then pure (Test.sameFile j.machine.files (j.word left) (j.word right))
    else if op = "-nt" ∨ op = "-ot" then pure false
    else do
      let a ← if leftIsLength then pure (length left) else number (j.word left)
      let b ← if rightIsLength then pure (length right) else number (j.word right)
      pure (compareNumbers op a b)
  return (answer, right + 1)

/-- An operator before a word. -/
def unary (i : Nat) : Answer := do
  let op := j.word i
  if !(["-N"] ++ Test.unaryOperators).contains op then
    throw (Quoting.text op ++ ": unary operator expected")
  if j.size ≤ i + 1 then j.beyond
  let operand := j.word (i + 1)
  let answer ←
    if op = "-t" then (number operand).map fun _ => false
    else if op = "-N" then Test.ask j.programs j.machine "-e" operand
    else Test.ask j.programs j.machine op operand
  return (answer, i + 2)

/-- A test of one word. -/
def one (i : Nat) : Answer := .ok (j.word i != "", i + 1)

/-- A test of two words. -/
def two (i : Nat) : Answer :=
  if j.holds i "!" then do
    let (answer, k) ← j.one (i + 1)
    return (!answer, k)
  else if isUnary (j.word i) then j.unary i
  else j.beyond

section Inner

variable (inner : (count place : Nat) → Answer)

/-- The number of words of a test in parentheses. -/
def insideCount (i : Nat) : Nat :=
  match (List.range 4).find? fun n => j.size ≤ i + n + 1 || j.holds (i + n + 1) ")" with
  | some n => n + 1
  | none => j.size - i

/-- A test without connectives. -/
def term : (fuel : Nat) → (place : Nat) → Answer
  | 0, i => .ok (false, i)
  | fuel + 1, i =>
    if j.size ≤ i then j.beyond
    else if j.holds i "!" then do
      let (answer, k) ← term fuel (i + 1)
      return (!answer, k)
    else if j.holds i "(" then
      if j.size ≤ i + 1 then j.beyond
      else do
        let (answer, k) ← inner (j.insideCount (i + 1)) (i + 1)
        if j.size ≤ k then throw (Quoting.text ")" ++ " expected")
        else if j.holds k ")" then return (answer, k + 1)
        else throw (Quoting.text ")" ++ " expected, found " ++ Quoting.text (j.word k))
    else if i + 4 ≤ j.size && j.holds i "-l" && isBinary (j.word (i + 2)) then j.binary i
    else if i + 3 ≤ j.size && isBinary (j.word (i + 1)) then j.binary i
    else if isUnary (j.word i) then j.unary i
    else j.one i

/-- Tests that all must hold. -/
def all : (fuel : Nat) → (place : Nat) → Answer
  | 0, i => .ok (false, i)
  | fuel + 1, i => do
    let (answer, k) ← j.term inner (fuel + 1) i
    if j.holds k "-a" then
      let (rest, k) ← all fuel (k + 1)
      return (answer && rest, k)
    else return (answer, k)

/-- Tests of which one must hold. -/
def any : (fuel : Nat) → (place : Nat) → Answer
  | 0, i => .ok (false, i)
  | fuel + 1, i => do
    let (answer, k) ← j.all inner (fuel + 1) i
    if j.holds k "-o" then
      let (rest, k) ← any fuel (k + 1)
      return (answer || rest, k)
    else return (answer, k)

/-- A test that is read by the strength of its operators. -/
def long (i : Nat) : Answer := if j.size ≤ i then j.beyond else j.any inner (j.size + 1) i

/-- A test of three words. -/
def three (i : Nat) : Answer :=
  let middle := j.word (i + 1)
  if isBinary middle then j.binary i
  else if j.holds i "!" then do
    let (answer, k) ← j.two (i + 1)
    return (!answer, k)
  else if j.holds i "(" && j.holds (i + 2) ")" then do
    let (answer, k) ← j.one (i + 1)
    return (answer, k + 1)
  else if middle = "-a" ∨ middle = "-o" then j.long inner i
  else throw (Quoting.text middle ++ ": binary operator expected")

end Inner

/-- A test of so many words from a place on, with tests inside up to a depth. -/
def posix : (depth : Nat) → (count place : Nat) → Answer
  | 0, _, i => .ok (false, i)
  | depth + 1, count, i =>
    let inner := posix depth
    match count with
    | 1 => j.one i
    | 2 => j.two i
    | 3 => j.three inner i
    | 4 =>
      if j.holds i "!" then do
        let (answer, k) ← j.three inner (i + 1)
        return (!answer, k)
      else if j.holds i "(" && j.holds (i + 3) ")" then do
        let (answer, k) ← j.two (i + 1)
        return (answer, k + 1)
      else j.long inner i
    | _ => j.long inner i

/-- The answer of the whole test. -/
def whole : Except String Bool := do
  if j.size = 0 then return false
  let (answer, k) ← j.posix (j.size + 1) j.size 0
  if k < j.size then throw ("extra argument " ++ Quoting.text (j.word k))
  return answer

end Judgement

/-- Ask about texts, numbers and files; after an opening bracket, a closing one is needed at the end. -/
def judge (programs : List String) (bracketed : Bool) : Utility := fun arguments => do
  Task.faultsEndWith 2
  if bracketed && arguments.getLast? != some "]" then Task.fail ("missing " ++ Quoting.text "]")
  let words := if bracketed then arguments.dropLast else arguments
  match ({ programs, machine := (← get).toMachine, words } : Judgement).whole with
  | .ok answer => Task.ends (if answer then 0 else 1)
  | .error text => Task.fail text

end ArtifactPipeline.Shell.Utility
