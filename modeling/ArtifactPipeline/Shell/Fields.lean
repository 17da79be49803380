import ArtifactPipeline.Shell.Pattern

/-!
# Fields

When a word is expanded, what came of its pieces is cut into fields. Only what was put in the place
of an unquoted piece is cut, at the characters of the variable `IFS`: blanks among them separate
fields and are skipped around other separators, and any other character of it ends a field, even an
empty one. Quotes make a field of nothing, too.

* `split` cuts what came of a word;
* `joined` is the text of it that is not cut at all.
-/

namespace ArtifactPipeline.Shell

/-- What came of a word, character by character. -/
inductive Atom where
  /-- A character from a quoted piece. -/
  | quoted (c : Char)
  /-- A character that stands in the word itself, without quotes. -/
  | plain (c : Char)
  /-- A character that was put in the place of an unquoted piece. -/
  | loose (c : Char)
  /-- A pair of quotes. -/
  | quotes
  /-- The start of what was put in the place of a piece. -/
  | seam
  /-- A place where a field ends although it is quoted. -/
  | cut
  /-- A place between two arguments, which separates fields like a blank. -/
  | gap
deriving Repr, DecidableEq

namespace Atom

/-- The characters at which fields are cut when nothing else is said. -/
def blanks : List Char := [' ', '\t', '\n']

/-- The field that is put together: what it holds so far, and whether it counts already. -/
structure Progress where
  found : List Glyphs := []
  current : Glyphs := []
  started : Bool := false
  /-- Whether a blank has just ended a field, so that separators after it belong to it. -/
  afterBlank : Bool := false

namespace Progress

/-- End the current field. -/
def close (p : Progress) : Progress :=
  { found := p.current.reverse :: p.found }

/-- Add a character to the current field. -/
def add (p : Progress) (c : Char) (sign : Bool) : Progress :=
  { p with current := (c, sign) :: p.current, started := true, afterBlank := false }

/-- Take in an atom. -/
def step (separators : List Char) (p : Progress) : Atom → Progress
  | .quoted c => p.add c false
  | .plain c => p.add c true
  | .quotes => { p with started := true, afterBlank := false }
  | .seam => { p with afterBlank := false }
  | .cut => p.close
  | .gap => if p.started then { p.close with afterBlank := true } else p
  | .loose c =>
    if separators.contains c then
      let blank := blanks.contains c
      if p.afterBlank then { p with afterBlank := blank }
      else if !p.started && blank then p
      else { p.close with afterBlank := blank }
    else p.add c true

end Progress

/-- The fields of what came of a word. -/
def split (separators : List Char) (atoms : List Atom) : List Glyphs :=
  let p := atoms.foldl (Progress.step separators) {}
  (if p.started then p.close else p).found.reverse

/-- The characters of what came of a word. -/
def glyph? : Atom → Option (Char × Bool)
  | .quoted c => some (c, false)
  | .plain c => some (c, true)
  | .loose c => some (c, true)
  | .cut | .gap => some (' ', false)
  | .quotes | .seam => none

/-- All characters, not cut. -/
def glyphs (atoms : List Atom) : Glyphs := atoms.filterMap glyph?

/-- The text of all characters. -/
def joined (atoms : List Atom) : String := (glyphs atoms).text

end Atom

end ArtifactPipeline.Shell
