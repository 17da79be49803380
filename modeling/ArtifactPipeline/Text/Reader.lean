/-!
# Readers

A reader takes a value off the front of a text, or refuses. Since every refusal of a document is
reported alike, a refusal carries no cause. Repetition is bounded by the length of what is left:
each round of a useful reader takes at least one character, so the bound is never what ends it.
-/

namespace ArtifactPipeline.Text

/-- Takes a value off the front of a text. -/
def Reader (α : Type) : Type := List Char → Option (α × List Char)

namespace Reader

variable {α β : Type}

instance : Monad Reader where
  pure a := fun cs => some (a, cs)
  bind r f := fun cs =>
    match r cs with
    | none => none
    | some (a, rest) => f a rest

/-- Refuse. -/
def refuse : Reader α := fun _ => none

/-- Go on only if a test holds. -/
def require (test : Bool) : Reader Unit := if test then pure () else refuse

/-- Use a value that may be missing. -/
def ofOption : Option α → Reader α
  | some a => pure a
  | none => refuse

/-- One character with a property. -/
def satisfy (p : Char → Bool) : Reader Char
  | [] => none
  | c :: cs => if p c then some (c, cs) else none

/-- A given character. -/
def char (c : Char) : Reader Unit := do
  let _ ← satisfy (· == c)

/-- A given text. -/
def text : List Char → Reader Unit
  | [] => pure ()
  | c :: cs => do
    char c
    text cs

/-- The longest run of characters with a property. -/
def run (p : Char → Bool) : Reader (List Char) :=
  fun cs => some (cs.takeWhile p, cs.dropWhile p)

/-- The longest run of characters with a property, which must not be empty. -/
def run1 (p : Char → Bool) : Reader (List Char) := do
  let cs ← run p
  require (!cs.isEmpty)
  pure cs

/-- The first reader, or the second where the first refuses. -/
def orElse (r s : Reader α) : Reader α := fun cs =>
  match r cs with
  | some found => some found
  | none => s cs

/-- The first of several readers that does not refuse. -/
def firstOf (readers : List (Reader α)) : Reader α := readers.foldr orElse refuse

/-- A value that may be missing. -/
def optional (r : Reader α) : Reader (Option α) := orElse (some <$> r) (pure none)

/-- The next character, which stays. -/
def peek : Reader (Option Char) := fun cs => some (cs.head?, cs)

/-- Nothing is left. -/
def atEnd : Reader Unit
  | [] => some ((), [])
  | _ :: _ => none

/-- Values until the reader refuses, in at most `fuel` rounds. -/
def manyWithin (r : Reader α) : (fuel : Nat) → Reader (List α)
  | 0 => pure []
  | fuel + 1 => fun cs =>
    match r cs with
    | none => some ([], cs)
    | some (a, rest) =>
      match manyWithin r fuel rest with
      | none => none
      | some (as, rest) => some (a :: as, rest)

/-- Values until the reader refuses. -/
def many (r : Reader α) : Reader (List α) := fun cs => manyWithin r cs.length cs

/-- Values with separators between them: none, or one and then one after each separator. A
separator that no value follows stays. -/
def separated (r : Reader α) (separator : Reader Unit) : Reader (List α) :=
  orElse
    (do
      let first ← r
      let rest ← many (do
        separator
        r)
      pure (first :: rest))
    (pure [])

/-- `separated` with one value at least. -/
def separated1 (r : Reader α) (separator : Reader Unit) : Reader (List α) := do
  let values ← separated r separator
  require (!values.isEmpty)
  pure values

/-- The value of a text that is taken whole. -/
def whole (r : Reader α) (s : String) : Option α :=
  match r s.toList with
  | some (a, []) => some a
  | _ => none

end Reader

end ArtifactPipeline.Text
