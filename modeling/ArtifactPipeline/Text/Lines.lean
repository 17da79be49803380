/-!
# Lines of a text

A line ends at a line feed; a carriage return just before the line feed belongs to the line's end
and not to the line. A text that stops right after a line feed has no further, empty line.

* `lines` splits a text into its lines;
* `linesOf` does the same for any alphabet, given its line feed and its carriage return, which is
  what a byte stream needs before it is decoded.
-/

namespace ArtifactPipeline.Text

variable {α : Type} [BEq α]

/-- The parts of a list between the occurrences of a separator: one more than there are
separators. -/
def splitOn (separator : α) : List α → List (List α)
  | [] => [[]]
  | a :: as =>
    if a == separator then [] :: splitOn separator as
    else
      match splitOn separator as with
      | [] => [[a]]
      | part :: parts => (a :: part) :: parts

theorem splitOn_ne_nil (separator : α) (as : List α) : splitOn separator as ≠ [] := by
  cases as with
  | nil => simp [splitOn]
  | cons a as =>
    rw [splitOn]
    split
    · simp
    · split <;> simp

/-- A line without the carriage return that ends it, if one does. -/
def dropReturn (carriageReturn : α) (line : List α) : List α :=
  if line.getLast?.any (· == carriageReturn) then line.dropLast else line

/-- The lines of a list of symbols. The part after the last line feed counts when it is not
empty, and keeps a carriage return at its end. -/
def linesOf (lineFeed carriageReturn : α) (as : List α) : List (List α) :=
  let parts := splitOn lineFeed as
  let ended := parts.dropLast.map (dropReturn carriageReturn)
  match parts.getLast? with
  | some [] | none => ended
  | some rest => ended ++ [rest]

/-- The lines of a text. -/
def lines (s : String) : List String :=
  (linesOf '\n' '\r' s.toList).map String.ofList

end ArtifactPipeline.Text
