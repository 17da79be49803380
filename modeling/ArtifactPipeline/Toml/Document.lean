import ArtifactPipeline.Toml.Value

/-!
# Documents

A document consists of lines: an entry, a heading, a comment or nothing. An entry belongs to the
table of the last heading before it, and to the document itself before the first one. A mark of
the octet order at the start is skipped.

`parse` answers the document's table, or nothing when the text is no document.
-/

namespace ArtifactPipeline.Toml

open Text (Reader hexValue?)
open Text.Reader
open ArtifactPipeline.Config (Value)

/-- A document as far as it is read. -/
structure Progress where
  drafts : Drafts
  /-- The heading that the next entries belong to. -/
  heading : List String

/-- A line's contribution. -/
inductive Line where
  | blank
  | entry (path : List String) (v : Spelled)
  /-- A heading of a table. -/
  | table (path : List String)
  /-- A heading of one more table of a list. -/
  | element (path : List String)

/-- A heading in single or double brackets. -/
def headingLine : Reader Line :=
  orElse
    (do
      text ['[', '[']
      let path ← key
      text [']', ']']
      pure (.element path))
    (do
      char '['
      let path ← key
      char ']'
      pure (.table path))

/-- What a line says, without its end. -/
def lineContent : Reader Line := do
  inlineBlanks
  let c ← peek
  match c with
  | none | some '\n' | some '\r' | some '#' => pure .blank
  | some '[' => headingLine
  | some _ => do
    let (path, v) ← entry (value depthLimit)
    pure (.entry path v)

/-- A line. -/
def line : Reader Line := do
  let content ← lineContent
  lineRest
  pure content

/-- Take in what a line says. -/
def Progress.add (p : Progress) : Line → Option Progress
  | .blank => some p
  | .entry path v =>
    (Drafts.within (fun drafts => addTo drafts path v) p.heading p.drafts).map fun drafts =>
      { p with drafts }
  | .table path =>
    match path.getLast? with
    | none => none
    | some last =>
      (Drafts.within (Drafts.openTable last) path.dropLast p.drafts).map fun drafts =>
        ⟨drafts, path⟩
  | .element path =>
    match path.getLast? with
    | none => none
    | some last =>
      (Drafts.within (Drafts.openElement last) path.dropLast p.drafts).map fun drafts =>
        ⟨drafts, path⟩

/-- Read lines to the end, in at most `fuel` of them. -/
def linesFrom : (fuel : Nat) → Progress → Reader Progress
  | 0, _ => refuse
  | fuel + 1, p => fun cs =>
    match cs with
    | [] => some (p, [])
    | _ =>
      match line cs with
      | none => none
      | some (content, rest) =>
        match p.add content with
        | none => none
        | some p => linesFrom fuel p rest

/-- The text after a mark of the octet order. -/
def withoutMark : List Char → List Char
  | '\ufeff' :: cs => cs
  | cs => cs

/-- The table that a document spells. -/
def parse (s : String) : Option Value :=
  let cs := withoutMark s.toList
  match linesFrom (cs.length + 1) ⟨[], []⟩ cs with
  | some (p, []) => (finishEntries? p.drafts).map .object
  | _ => none

end ArtifactPipeline.Toml
