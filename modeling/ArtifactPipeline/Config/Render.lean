import ArtifactPipeline.Config.Value
import ArtifactPipeline.Decimal.Shortest
import ArtifactPipeline.Text.Quoted

/-!
# Written configuration values

A value is written in two forms: `compact`, on one line without blanks, and `pretty`, with one
entry to a line and two blanks of indentation for each level. Both write an empty list or table as
its two brackets, and both spell scalars alike.
-/

namespace ArtifactPipeline.Config

/-- Numbers are positional from the fifth place after the point up to sixteen digits before it; a
whole one keeps a zero after the point, and an exponent carries its sign. -/
def numberLayout : Decimal.Layout := ⟨-5, 16, ".0", "e", "+"⟩

/-- How a character is written in a text: controls, quotes and backslashes escaped, all others as
they are. -/
def escapedChar (c : Char) : List Char :=
  match c with
  | '\x22' => ['\\', '\x22']
  | '\\' => ['\\', '\\']
  | '\x08' => ['\\', 'b']
  | '\x0c' => ['\\', 'f']
  | '\n' => ['\\', 'n']
  | '\r' => ['\\', 'r']
  | '\t' => ['\\', 't']
  | _ =>
    if c.toNat < 0x20 then
      ['\\', 'u', '0', '0', Text.hexDigit (c.toNat / 16), Text.hexDigit (c.toNat % 16)]
    else [c]

/-- A text between double quotes. -/
def stringText (s : String) : String :=
  String.ofList ('\x22' :: s.toList.flatMap escapedChar ++ ['\x22'])

/-- The blanks before an entry. -/
def indentation (depth : Nat) : String := String.ofList (List.replicate (2 * depth) ' ')

mutual

/-- A value on one line. -/
def Value.compact : Value → String
  | .null => "null"
  | .bool true => "true"
  | .bool false => "false"
  | .int n => toString n
  | .float x => numberLayout.render x
  | .string s => stringText s
  | .array items => "[" ++ String.intercalate "," (compactItems items) ++ "]"
  | .object entries => "\x7b" ++ String.intercalate "," (compactEntries entries) ++ "\x7d"

/-- The items of a list, each on one line. -/
def compactItems : List Value → List String
  | [] => []
  | v :: rest => v.compact :: compactItems rest

/-- The entries of a table, each on one line. -/
def compactEntries : List (String × Value) → List String
  | [] => []
  | (key, v) :: rest => (stringText key ++ ":" ++ v.compact) :: compactEntries rest

end

/-- Written entries on lines of their own between two brackets. -/
def block (opening closing : String) (depth : Nat) (entries : List String) : String :=
  if entries.isEmpty then opening ++ closing
  else
    let lines := entries.map fun entry => indentation (depth + 1) ++ entry
    opening ++ "\n" ++ String.intercalate ",\n" lines ++ "\n" ++ indentation depth ++ closing

mutual

/-- A value with one entry to a line, at a depth. -/
def Value.prettyAt (depth : Nat) : Value → String
  | .null => "null"
  | .bool true => "true"
  | .bool false => "false"
  | .int n => toString n
  | .float x => numberLayout.render x
  | .string s => stringText s
  | .array items => block "[" "]" depth (prettyItems (depth + 1) items)
  | .object entries => block "\x7b" "\x7d" depth (prettyEntries (depth + 1) entries)

/-- The items of a list, at a depth. -/
def prettyItems (depth : Nat) : List Value → List String
  | [] => []
  | v :: rest => v.prettyAt depth :: prettyItems depth rest

/-- The entries of a table, at a depth. -/
def prettyEntries (depth : Nat) : List (String × Value) → List String
  | [] => []
  | (key, v) :: rest =>
    (stringText key ++ ": " ++ v.prettyAt depth) :: prettyEntries depth rest

end

/-- A value with one entry to a line. -/
def Value.pretty (v : Value) : String := v.prettyAt 0

end ArtifactPipeline.Config
