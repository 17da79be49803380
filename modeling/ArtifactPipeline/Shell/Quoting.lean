import ArtifactPipeline.Shell.Octets

/-!
# Names in reports

A program that reports something about a name or a text puts it between marks, so that the reader can
tell where it starts and where it ends.

* `text` puts a text between apostrophes, and what cannot be shown after backslashes;
* `always` writes a name such that a shell would read it back;
* `name` does so only for a name that a shell would not read back as it is.
-/

namespace ArtifactPipeline.Shell.Quoting

/-- The letter for a character after a backslash, if it has one. -/
def escapeLetter? (c : Char) : Option Char :=
  match c.toNat with
  | 7 => some 'a'
  | 8 => some 'b'
  | 9 => some 't'
  | 10 => some 'n'
  | 11 => some 'v'
  | 12 => some 'f'
  | 13 => some 'r'
  | _ => none

/-- A character that cannot be shown, after a backslash. -/
def escapedChar (c : Char) : List Char :=
  match escapeLetter? c with
  | some letter => ['\\', letter]
  | none =>
    let digits := Nat.toDigits 8 c.toNat
    '\\' :: List.replicate (3 - digits.length) '0' ++ digits

/-- Whether a character can be shown. -/
def isShown (c : Char) : Bool := 0x20 ≤ c.toNat && c.toNat < 0x7f

/-- A text between apostrophes. -/
def text (s : String) : String :=
  let shown (c : Char) : List Char :=
    if c = '\x27' ∨ c = '\\' then ['\\', c] else if isShown c then [c] else escapedChar c
  "'" ++ String.ofList (s.toList.flatMap shown) ++ "'"

/-- The characters of a name between apostrophes. Those that cannot be shown stand in runs of their
own, between a dollar sign and apostrophes. -/
def quotedChars (escaping : Bool) : List Char → List Char
  | [] => []
  | c :: cs =>
    if !isShown c then
      (if escaping then [] else "'$'".toList) ++ escapedChar c ++ quotedChars true cs
    else if c = '\x27' then "'\\''".toList ++ quotedChars false cs
    else (if escaping then "''".toList else []) ++ c :: quotedChars false cs

/-- The characters that mean something to a shell wherever they stand. -/
def signs : List Char := "!\x22$&()*;<=>?[\\^\x60|".toList

/-- The characters that mean something to a shell at the start of a name. -/
def startSigns : List Char := ['#', '~']

/-- The characters that mean something to a shell when they stand alone. -/
def loneSigns : List Char := ['\x7b', '\x7d']

/-- Whether a name keeps its meaning between double marks. -/
def suitsDoubleMarks (name : List Char) : Bool :=
  let plain (c : Char) : Bool :=
    isShown c && !signs.contains c && !startSigns.contains c && !loneSigns.contains c
  let first := match name with
    | [c] => plain c || startSigns.contains c || loneSigns.contains c
    | c :: _ => plain c || startSigns.contains c
    | [] => true
  first && name.tail.all plain

/-- A name, in a form that a shell would read back. -/
def always (name : String) : String :=
  if name.toList.contains '\x27' && suitsDoubleMarks name.toList then "\x22" ++ name ++ "\x22"
  else "'" ++ String.ofList (quotedChars false name.toList) ++ "'"

/-- Whether a shell would read something else than a name in it. -/
def needsMarks (name : List Char) : Bool :=
  name.isEmpty || (name.head?.any startSigns.contains)
    || (name.length == 1 && name.any loneSigns.contains)
    || name.any fun c => !isShown c || c == ' ' || c == '\x27' || signs.contains c

/-- A name, as it is where a shell would read it back. -/
def name (s : String) : String := if needsMarks s.toList then always s else s

theorem name_eq_self {s : String} (h : needsMarks s.toList = false) : name s = s := by
  simp [name, h]

end ArtifactPipeline.Shell.Quoting
