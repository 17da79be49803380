import ArtifactPipeline.Shell.Arithmetic
import ArtifactPipeline.Shell.State

/-!
# Tests

A test asks about texts, numbers and files. Its words are read one after the other: `-o` joins
alternatives, `-a` binds stronger, then comes `!`, and parentheses hold a test inside a test. A word
that could be an operator is an ordinary text where an operator makes no sense, and a test of three
words with an operator in the middle is always a comparison.
-/

namespace ArtifactPipeline.Shell.Test

/-- The operators before a word. -/
def unaryOperators : List String :=
  ["-r", "-w", "-x", "-e", "-f", "-d", "-c", "-b", "-p", "-u", "-g", "-k", "-s", "-t", "-z", "-n",
    "-h", "-O", "-G", "-L", "-S"]

/-- The operators between two words. -/
def binaryOperators : List String :=
  ["=", "!=", "<", ">", "-eq", "-ne", "-gt", "-ge", "-lt", "-le", "-nt", "-ot", "-ef"]

/-- What a word is where it stands. -/
inductive Role where
  | nothing
  | operand
  | unary (op : String)
  | binary (op : String)
  | negation
  | conjunction
  | disjunction
  | opening
  | closing
deriving Repr, DecidableEq

/-- What a word would be as an operator. -/
def operatorRole? (word : String) : Option Role :=
  if unaryOperators.contains word then some (.unary word)
  else if binaryOperators.contains word then some (.binary word)
  else
    match word with
    | "!" => some .negation
    | "-a" => some .conjunction
    | "-o" => some .disjunction
    | "(" => some .opening
    | ")" => some .closing
    | _ => none

/-- Whether a word is an operator between two others. -/
def isBinary (word : String) : Bool := binaryOperators.contains word

/-- Whether the words after an operator make it an ordinary text. -/
def standsAlone : List String → Bool
  | [] => true
  | [_] => false
  | next :: _ => isBinary next

/-- What the first of some words is. -/
def role : List String → Role
  | [] => .nothing
  | word :: rest =>
    match operatorRole? word with
    | some (.unary op) => if standsAlone rest then .operand else .unary op
    | some .opening => if rest.isEmpty then .operand else .opening
    | some r => r
    | none => .operand

/-- The number that a word denotes in base ten. -/
def decimal (word : String) : Except String Int :=
  let (negative, cs) := Arithmetic.signOf (word.toList.dropWhile Arithmetic.isBlank)
  let digits := cs.takeWhile Char.isDigit
  let n := Arithmetic.numberIn 10 digits
  if digits.isEmpty ∨ Arithmetic.overflows negative n
      ∨ !(cs.drop digits.length).all Arithmetic.isBlank then
    .error ("Illegal number: " ++ word)
  else .ok (Arithmetic.clamp negative n)

/-- Whether a name is the one of a program that every machine has. -/
def isProgram (programs : List String) (name : String) : Bool :=
  ["/bin/", "/usr/bin/"].any fun d =>
    match Text.without? d name with
    | some program => programs.contains program
    | none => false

/-- Whether a node is the one of a device. -/
def isDevice : Node → Bool
  | .sink | .zeros | .full => true
  | _ => false

/-- Whether the permissions of a node hold a bit. -/
def hasBit (m : Machine) (bit : Nat) (found : Location × Node) : Bool :=
  let mode := match found.2 with
    | .file id => m.files.modeOf id
    | .directory => m.files.directoryModeOf found.1
    | _ => 438
  Nat.land mode bit != 0

/-- What an operator says about a word. -/
def ask (programs : List String) (m : Machine) (op word : String) : Except String Bool :=
  let files := m.files
  let name := State.fileName word
  let program := isProgram programs word
  let opened := (Machine.namedChannel? word).bind m.opening?
  let found := match opened with
    | some { target := .node n, .. } => some ([], n)
    | some { target := .pipe _, .. } => none
    | none => (files.find name).toOption
  let isThere := found.isSome || opened.isSome || program
  match op with
  | "-n" => .ok (word != "")
  | "-z" => .ok (word == "")
  | "-e" | "-r" | "-w" | "-O" | "-G" => .ok isThere
  | "-d" => .ok (found.any (·.2 == .directory))
  | "-f" => .ok (program || found.any fun f => match f.2 with
    | .file _ => true
    | _ => false)
  | "-c" => .ok (found.any fun f => isDevice f.2)
  | "-p" => .ok (opened.isSome && found.isNone)
  | "-s" => .ok (program || found.any fun f => match f.2 with
    | .file id => files.sizeOf id != 0
    | .directory => true
    | _ => false)
  | "-x" => .ok (program || found.any fun f => f.2 == .directory || hasBit m 73 f && !isDevice f.2)
  | "-u" => .ok (found.any (hasBit m 2048))
  | "-g" => .ok (found.any (hasBit m 1024))
  | "-k" => .ok (found.any (hasBit m 512))
  | "-h" | "-L" => .ok (match files.findLink name with
    | .ok (_, .link _) => true
    | _ => (Machine.namedChannel? word).isSome)
  | "-t" => (decimal word).map fun _ => false
  | _ => .ok false

/-- Whether two names lead to the same. -/
def sameFile (files : FileSystem) (a b : String) : Bool :=
  match files.find (State.fileName a), files.find (State.fileName b) with
  | .ok (_, .file i), .ok (_, .file j) => i == j
  | .ok (l, _), .ok (k, _) => l == k
  | _, _ => false

/-- What a comparison says. -/
def compare (files : FileSystem) (op a b : String) : Except String Bool := do
  match op with
  | "=" => return a == b
  | "!=" => return a != b
  | "<" => return a < b
  | ">" => return b < a
  | "-eq" => return (← decimal a) == (← decimal b)
  | "-ne" => return (← decimal a) != (← decimal b)
  | "-gt" => return (← decimal a) > (← decimal b)
  | "-ge" => return (← decimal a) ≥ (← decimal b)
  | "-lt" => return (← decimal a) < (← decimal b)
  | "-le" => return (← decimal a) ≤ (← decimal b)
  | "-ef" => return sameFile files a b
  | _ => return false

/-- Reading a test: an answer, and the words from the last one that was used. -/
abbrev Reader := List String → Except String (Bool × List String)

section Readers

variable (programs : List String) (m : Machine) (inner : Reader)

/-- Read a test without connectives. -/
def primary : Reader
  | [] => .ok (false, [])
  | word :: rest =>
    match role (word :: rest) with
    | .opening =>
      if role rest = .closing then .ok (false, rest)
      else do
        let (answer, words) ← inner rest
        if role words.tail = .closing then return (answer, words.tail)
        else throw "closing paren expected"
    | .unary op =>
      match rest with
      | [] => .error (op ++ ": argument expected")
      | operand :: _ => do return (← ask programs m op operand, rest)
    | _ => comparison (word :: rest)
where
  /-- Read a word that is compared with another, or stands alone. -/
  comparison : Reader
    | word :: op :: rest =>
      match role (op :: rest) with
      | .binary op =>
        match rest with
        | [] => .error (op ++ ": argument expected")
        | operand :: _ => do return (← compare m.files op word operand, rest)
      | _ => .ok (word != "", word :: op :: rest)
    | words => .ok (words.head?.any (· != ""), words)

/-- Read tests that are negated. -/
def negations : (fuel : Nat) → Reader
  | 0, words => .ok (false, words)
  | fuel + 1, words =>
    if role words = .negation then do
      let rest := if role words.tail = .nothing then words else words.tail
      if role words.tail = .nothing then return (true, rest)
      let (answer, words) ← negations fuel rest
      return (!answer, words)
    else primary programs m inner words

/-- Read tests that are joined by `-a`. -/
def conjunctions : (fuel : Nat) → Reader
  | 0, words => .ok (false, words)
  | fuel + 1, words => do
    let (a, words) ← negations programs m inner (fuel + 1) words
    if role words.tail = .conjunction then
      let (b, words) ← conjunctions fuel words.tail.tail
      return (a && b, words)
    else return (a, words)

/-- Read tests that are joined by `-o`. -/
def disjunctions : (fuel : Nat) → Reader
  | 0, words => .ok (false, words)
  | fuel + 1, words => do
    let (a, words) ← conjunctions programs m inner (fuel + 1) words
    if role words.tail = .disjunction then
      let (b, words) ← disjunctions fuel words.tail.tail
      return (a || b, words)
    else return (a, words)

end Readers

/-- Read a test with tests inside up to a depth. -/
def read (programs : List String) (m : Machine) : (depth : Nat) → Reader
  | 0, words => .ok (false, words)
  | depth + 1, words => disjunctions programs m (read programs m depth) (words.length + 2) words

/-- The answer of a test that has been read to its end. -/
def answer (programs : List String) (m : Machine) (words : List String) : Except String Bool := do
  let (verdict, words) ← read programs m (words.length + 2) words
  match words with
  | word :: _ :: _ => throw (if word = "" then "unexpected operator" else word ++ ": unexpected operator")
  | _ => return verdict

/-- The answer of a test, or why it makes no sense. -/
def evaluate (programs : List String) (m : Machine) : (fuel : Nat) → List String → Except String Bool
  | 0, _ => .ok false
  | _ + 1, [] => .ok false
  | fuel + 1, words =>
    let bare := words.tail.dropLast
    let wrapped := words.head? = some "(" ∧ words.getLast? = some ")"
    match words with
    | [a, op, b] =>
      if isBinary op then compare m.files op a b
      else if wrapped then answer programs m bare
      else if a = "!" then (evaluate programs m fuel [op, b]).map not
      else answer programs m words
    | [a, b, c, d] =>
      if wrapped then answer programs m bare
      else if a = "!" then (evaluate programs m fuel [b, c, d]).map not
      else answer programs m words
    | words => answer programs m words

end ArtifactPipeline.Shell.Test
