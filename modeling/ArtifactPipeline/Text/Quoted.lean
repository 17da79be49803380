import ArtifactPipeline.Text.Printable

/-!
# Quoted texts and record texts

`quoted` writes a text between double quotes so that every character of it is visible: a quote and
a backslash get a backslash, the usual controls their letter, and every other character that is
not printable its number in hexadecimal digits between braces.

`RecordText` is the layout in which a value of named fields is shown for inspection: its name, the
fields in order between braces, and two dots when some fields are left out.
-/

namespace ArtifactPipeline.Text

/-- A hexadecimal digit. -/
def hexDigit (n : Nat) : Char := Char.ofNat (if n < 10 then 0x30 + n else 0x57 + n)

/-- The value of a hexadecimal digit. -/
def hexValue? (c : Char) : Option Nat :=
  if c.isDigit then some (c.toNat - 0x30)
  else if 'a' ≤ c ∧ c ≤ 'f' then some (c.toNat - 0x57)
  else if 'A' ≤ c ∧ c ≤ 'F' then some (c.toNat - 0x37)
  else none

/-- The hexadecimal digits of a number, the highest first. -/
def hexDigits (n : Nat) : List Char := (Nat.toDigits 16 n)

/-- How a character is written inside quotes. -/
def quotedChar (c : Char) : List Char :=
  match c with
  | '\x00' => ['\\', '0']
  | '\t' => ['\\', 't']
  | '\r' => ['\\', 'r']
  | '\n' => ['\\', 'n']
  | '\\' => ['\\', '\\']
  | '\x22' => ['\\', '\x22']
  | _ =>
    if isPrintable c then [c]
    else ['\\', 'u', '\x7b'] ++ hexDigits c.toNat ++ ['\x7d']

/-- A text between double quotes, every character of it visible. -/
def quoted (s : String) : String :=
  String.ofList ('\x22' :: s.toList.flatMap quotedChar ++ ['\x22'])

/-- An optional text, shown with its case. -/
def quotedOption : Option String → String
  | none => "None"
  | some s => "Some(" ++ quoted s ++ ")"

/-- Texts in brackets, between commas. -/
def bracketed (items : List String) : String := "[" ++ String.intercalate ", " items ++ "]"

/-- A value of named fields, shown for inspection. -/
structure RecordText where
  name : String
  fields : List (String × String)
  /-- Whether the value has fields that are not shown. -/
  partly : Bool := false

/-- The layout of a record. -/
def RecordText.render (r : RecordText) : String :=
  let shown := r.fields.map fun (field, text) => field ++ ": " ++ text
  let shown := if r.partly then shown ++ [".."] else shown
  r.name ++ " \x7b " ++ String.intercalate ", " shown ++ " \x7d"

end ArtifactPipeline.Text
