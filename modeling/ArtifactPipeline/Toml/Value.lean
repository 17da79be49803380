import ArtifactPipeline.Toml.Moment
import ArtifactPipeline.Toml.Table

/-!
# Values

A value is a quoted text, a number, a truth value, a moment, a list or an inline table. Lists and
inline tables may hold each other up to a fixed depth. A moment becomes a text in its normal form,
and a float that JSON cannot hold becomes the absent value.
-/

namespace ArtifactPipeline.Toml

open Text (Reader hexValue?)
open Text.Reader
open ArtifactPipeline.Config (Value Entries)

/-- The number of lists and inline tables that may stand inside each other, and of parts that a
dotted key may have. -/
def depthLimit : Nat := 79

/-- A character of a key without quotes. -/
def isBareKeyChar (c : Char) : Bool :=
  c.isAlphanum || c == '-' || c == '_'

/-- One part of a key. -/
def keyPart : Reader String :=
  firstOf [
    String.ofList <$> basicText,
    String.ofList <$> literalText,
    String.ofList <$> run1 isBareKeyChar]

/-- A key: parts between dots, with blanks around them. -/
def key : Reader (List String) := do
  let parts ← separated1
    (do
      inlineBlanks
      let part ← keyPart
      inlineBlanks
      pure part)
    (char '.')
  require (parts.length ≤ depthLimit)
  pure parts

/-- The image of a float: finite ones keep their value. -/
def floatValue (x : Float) : Value :=
  if x.isNaN || x.isInf then .null else .float x

/-- A value that holds no other. -/
def scalar : Reader Spelled :=
  firstOf [
    Spelled.quoted <$> quotedText,
    (fun t => Spelled.plain (.string t)) <$> moment,
    (fun x => Spelled.plain (floatValue x)) <$> float,
    (fun i => Spelled.plain (.int i)) <$> integer,
    (do
      text ['t', 'r', 'u', 'e']
      pure (.plain (.bool true))),
    (do
      text ['f', 'a', 'l', 's', 'e']
      pure (.plain (.bool false)))]

/-- A list, given a reader of its items. -/
def list (item : Reader Spelled) : Reader Spelled := do
  char '['
  let items ← separated
    (do
      gap
      let v ← item
      gap
      pure v)
    (char ',')
  let _ ← if items.isEmpty then pure none else optional (char ',')
  gap
  char ']'
  pure (.plain (.array (items.map Spelled.value)))

/-- An entry: a key and its value. -/
def entry (item : Reader Spelled) : Reader (List String × Spelled) := do
  let path ← key
  char '='
  inlineBlanks
  let v ← item
  pure (path, v)

/-- Add an entry to a table in the making. -/
def addTo (drafts : Drafts) (path : List String) (v : Spelled) : Option Drafts :=
  match path.getLast? with
  | none => none
  | some last => Drafts.addEntry last v path.dropLast drafts

/-- An inline table, given a reader of the values in it. -/
def inlineTable (item : Reader Spelled) : Reader Spelled := do
  char '\x7b'
  let entries ← separated
    (do
      let found ← entry item
      inlineBlanks
      pure found)
    (char ',')
  inlineBlanks
  char '\x7d'
  let drafts ← ofOption (entries.foldlM (fun drafts (path, v) => addTo drafts path v) [])
  let v ← ofOption (Draft.table false false drafts).value?
  pure (.plain v)

/-- A value with at most `depth` lists and inline tables inside each other. -/
def value : (depth : Nat) → Reader Spelled
  | 0 => scalar
  | depth + 1 => firstOf [list (value depth), inlineTable (value depth), scalar]

end ArtifactPipeline.Toml
