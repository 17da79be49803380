/-!
# Blank characters

A character is *blank* when it has the property `White_Space`: the six control characters that
separate words or lines, the space, and the wider or narrower spaces of other scripts. A text is
trimmed by dropping the blank characters at its two ends.

* `mem_trim` : trimming invents no character;
* `trim_eq_self` : a text whose two ends are not blank is kept as it is.
-/

namespace ArtifactPipeline.Text

/-- The characters with the property `White_Space`. -/
def blanks : List Char :=
  ['\t', '\n', '\x0b', '\x0c', '\r', ' ', '\u0085', '\u00a0', '\u1680', '\u2000', '\u2001',
    '\u2002', '\u2003', '\u2004', '\u2005', '\u2006', '\u2007', '\u2008', '\u2009', '\u200a',
    '\u2028', '\u2029', '\u202f', '\u205f', '\u3000']

/-- A blank character separates words or lines. -/
def isBlank (c : Char) : Bool := blanks.contains c

/-- The text from its first character on that is not blank. -/
def trimStart (cs : List Char) : List Char := cs.dropWhile isBlank

/-- The text up to its last character that is not blank. -/
def trimEnd (cs : List Char) : List Char := (cs.reverse.dropWhile isBlank).reverse

/-- The text without the blank characters at its two ends. -/
def trim (cs : List Char) : List Char := trimEnd (trimStart cs)

/-- `trim` on strings. -/
def trimmed (s : String) : String := String.ofList (trim s.toList)

/-- `trimEnd` on strings. -/
def trimmedEnd (s : String) : String := String.ofList (trimEnd s.toList)

theorem mem_trimStart {c : Char} {cs : List Char} (h : c ∈ trimStart cs) : c ∈ cs :=
  (List.dropWhile_sublist isBlank).mem h

theorem mem_trimEnd {c : Char} {cs : List Char} (h : c ∈ trimEnd cs) : c ∈ cs := by
  have h' : c ∈ cs.reverse := (List.dropWhile_sublist isBlank).mem (List.mem_reverse.1 h)
  exact List.mem_reverse.1 h'

theorem mem_trim {c : Char} {cs : List Char} (h : c ∈ trim cs) : c ∈ cs :=
  mem_trimStart (mem_trimEnd h)

/-- A text whose first and last characters are not blank is its own trimmed form. -/
theorem trim_eq_self {cs : List Char} (first : ∀ c ∈ cs.head?, isBlank c = false)
    (last : ∀ c ∈ cs.getLast?, isBlank c = false) : trim cs = cs := by
  have start : trimStart cs = cs := by
    cases cs with
    | nil => rfl
    | cons c cs => simp [trimStart, first c (by simp)]
  rw [trim, start, trimEnd]
  have stop : cs.reverse.dropWhile isBlank = cs.reverse := by
    cases h : cs.reverse with
    | nil => rfl
    | cons c r =>
      have hc : c ∈ cs.getLast? := by
        rw [← List.reverse_reverse cs, h]
        simp
      simp [last c hc]
  rw [stop, List.reverse_reverse]

end ArtifactPipeline.Text
