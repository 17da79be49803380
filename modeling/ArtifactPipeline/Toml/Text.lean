import ArtifactPipeline.Text.Quoted
import ArtifactPipeline.Text.Reader

/-!
# Blanks, comments and quoted texts

Inside a line the blanks are the space and the tab. A line ends with a line feed, alone or after a
carriage return, or with the document. A comment runs from a number sign to the end of its line
and holds no control character but the tab.

A text stands between double quotes, where a backslash begins an escape, or between apostrophes,
where every character stands for itself. Tripled, both kinds may run over several lines: a line end
right after the opening is dropped, every other one is a line feed, and one or two quotes may stand
in the text or right before its end. After a backslash at the end of a line, the blanks and line
ends that follow are skipped.
-/

namespace ArtifactPipeline.Toml

open Text (Reader hexValue?)
open Text.Reader

/-! ### Blanks, line ends and comments -/

/-- A blank inside a line. -/
def isInlineBlank (c : Char) : Bool := c == ' ' || c == '\t'

/-- A character above the ASCII ones. -/
def isBeyondAscii (c : Char) : Bool := 0x80 ≤ c.toNat

/-- A character that may stand in a comment. -/
def isCommentChar (c : Char) : Bool :=
  c == '\t' || (0x20 ≤ c.toNat && c.toNat ≤ 0x7e) || isBeyondAscii c

/-- Blanks inside a line. -/
def inlineBlanks : Reader Unit := do
  let _ ← run isInlineBlank

/-- The end of a line that another may follow. -/
def newline : Reader Unit := orElse (char '\n') (text ['\r', '\n'])

/-- The end of a line. -/
def lineEnd : Reader Unit := orElse newline atEnd

/-- A comment. -/
def comment : Reader Unit := do
  char '#'
  let _ ← run isCommentChar

/-- What may follow an entry on its line. -/
def lineRest : Reader Unit := do
  inlineBlanks
  let _ ← optional comment
  lineEnd

/-- Blanks, line ends and comments, in any number. -/
def gap : Reader Unit := do
  let _ ← many (firstOf [
    (do let _ ← run1 isInlineBlank),
    newline,
    comment])

/-! ### Quoted texts -/

/-- A character that stands for itself between double quotes. -/
def isPlain (c : Char) : Bool :=
  c == '\t' || c == ' ' || c == '!' || (0x23 ≤ c.toNat && c.toNat ≤ 0x5b)
    || (0x5d ≤ c.toNat && c.toNat ≤ 0x7e) || isBeyondAscii c

/-- A character that may stand between apostrophes. -/
def isLiteral (c : Char) : Bool :=
  c == '\t' || (0x20 ≤ c.toNat && c.toNat ≤ 0x26) || (0x28 ≤ c.toNat && c.toNat ≤ 0x7e)
    || isBeyondAscii c

/-- The character with a number of `n` hexadecimal digits. -/
def numbered (n : Nat) : Reader Char := fun cs => do
  let digits := cs.take n
  let values ← digits.mapM hexValue?
  if values.length < n then none
  else
    let code := values.foldl (fun acc d => acc * 16 + d) 0
    if h : code.isValidChar then some (Char.ofNatAux code h, cs.drop n) else none

/-- What follows the backslash of an escape. -/
def escapeTail : Reader Char := do
  let c ← satisfy fun _ => true
  match c with
  | 'b' => pure '\x08'
  | 't' => pure '\t'
  | 'n' => pure '\n'
  | 'f' => pure '\x0c'
  | 'r' => pure '\r'
  | '\x22' => pure '\x22'
  | '\\' => pure '\\'
  | 'u' => numbered 4
  | 'U' => numbered 8
  | _ => refuse

/-- An escape. -/
def escape : Reader Char := do
  char '\\'
  escapeTail

/-- A text on one line between double quotes. -/
def basicText : Reader (List Char) := do
  char '\x22'
  let cs ← many (orElse (satisfy isPlain) escape)
  char '\x22'
  pure cs

/-- A text on one line between apostrophes. -/
def literalText : Reader (List Char) := do
  char '\x27'
  let cs ← run isLiteral
  char '\x27'
  pure cs

/-- A backslash at the end of a line, with the blanks and line ends after it. -/
def joinedLines : Reader Unit := do
  char '\\'
  inlineBlanks
  newline
  let _ ← many (orElse (do let _ ← run1 isInlineBlank) newline)

/-- One or two quotes that another character follows. -/
def innerQuotes (quote : Char) : Reader (List Char) := do
  let quotes ← run1 (· == quote)
  require (quotes.length < 3)
  pure quotes

/-- The end of a tripled text, with the quotes that stand right before it. -/
def closingQuotes (quote : Char) : Reader (List Char) := fun cs =>
  let count := (cs.takeWhile (· == quote)).length
  if count < 3 then none
  else
    let inner := min (count - 3) 2
    some (List.replicate inner quote, cs.drop (inner + 3))

/-- A text over several lines: its pieces, one after the other. -/
def tripled (quote : Char) (piece : Reader (List Char)) : Reader (List Char) := do
  text [quote, quote, quote]
  let _ ← optional newline
  let pieces ← many (orElse piece (innerQuotes quote))
  let last ← closingQuotes quote
  pure (pieces.flatten ++ last)

/-- A line end inside a text. -/
def lineFeed : Reader (List Char) := do
  newline
  pure ['\n']

/-- A text over several lines between tripled double quotes. -/
def basicLines : Reader (List Char) :=
  tripled '\x22' (firstOf [
    run1 isPlain,
    (do
      joinedLines
      pure []),
    (do
      let c ← escape
      pure [c]),
    lineFeed])

/-- A text over several lines between tripled apostrophes. -/
def literalLines : Reader (List Char) :=
  tripled '\x27' (orElse (run1 isLiteral) lineFeed)

/-- A quoted text of any form. -/
def quotedText : Reader String := do
  let cs ← firstOf [basicLines, basicText, literalLines, literalText]
  pure (String.ofList cs)

end ArtifactPipeline.Toml
