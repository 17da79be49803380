import ArtifactPipeline.Files.System
import ArtifactPipeline.Shell.Octets

/-!
# Patterns

A pattern is a text in which some characters are signs: an asterisk stands for any text, a question
mark for any octet, and brackets for one octet of a set. A quoted character is no sign, so a pattern
is made from characters with a mark that says whether they may be one (`Glyphs`).

* `matches` says whether a pattern matches a whole text;
* `cutStart?` and `cutEnd?` take the shortest or longest part that matches from one end of a text;
* `paths` are the names of files that a pattern matches, part by part.
-/

namespace ArtifactPipeline.Shell

/-- Characters, each of which may be a sign of a pattern or not. -/
abbrev Glyphs := List (Char × Bool)

/-- The text of characters. -/
def Glyphs.text (gs : Glyphs) : String := String.ofList (gs.map Prod.fst)

/-- Characters that are no signs. -/
def Glyphs.quoted (s : String) : Glyphs := s.toList.map fun c => (c, false)

/-- The glyphs of a pattern; a character after a backslash stands for itself. -/
def Glyphs.wild : List Char → Glyphs
  | '\\' :: c :: rest => (c, false) :: Glyphs.wild rest
  | c :: rest => (c, true) :: Glyphs.wild rest
  | [] => []

namespace Pattern

/-- A member of a set between brackets. -/
inductive Member where
  | between (first last : Char)
  /-- A class, by its name. -/
  | named (name : String)
deriving Repr, DecidableEq

/-- A part of a pattern. -/
inductive Part where
  | char (c : Char)
  | anyChar
  | anyText
  | set (inverse : Bool) (members : List Member)
deriving Repr, DecidableEq

/-- Whether a character belongs to a class. -/
def inClass (name : String) (c : Char) : Bool :=
  match name with
  | "alpha" => c.isAlpha
  | "digit" => c.isDigit
  | "alnum" => c.isAlphanum
  | "upper" => c.isUpper
  | "lower" => c.isLower
  | "space" => c == ' ' || (9 ≤ c.toNat && c.toNat ≤ 13)
  | "blank" => c == ' ' || c == '\t'
  | "punct" => 0x20 < c.toNat && c.toNat < 0x7f && !c.isAlphanum
  | "print" => 0x20 ≤ c.toNat && c.toNat < 0x7f
  | "graph" => 0x20 < c.toNat && c.toNat < 0x7f
  | "cntrl" => c.toNat < 0x20 || c.toNat == 0x7f
  | "xdigit" => c.isDigit || ('a' ≤ c && c ≤ 'f') || ('A' ≤ c && c ≤ 'F')
  | _ => false

/-- Whether a character is a member. -/
def Member.holds (c : Char) : Member → Bool
  | between first last => first ≤ c && c ≤ last
  | named name => inClass name c

/-- The names of the classes. -/
def classNames : List String :=
  ["alpha", "digit", "alnum", "upper", "lower", "space", "blank", "punct", "print", "graph",
    "cntrl", "xdigit"]

/-- The name of a class at the start of a text, after an opening bracket, and what stands after the
class. -/
def class? (gs : Glyphs) : Option (String × Glyphs) :=
  match gs with
  | (':', true) :: rest =>
    let name := (rest.map Prod.fst).takeWhile (· != ':')
    match rest.drop name.length with
    | (':', _) :: (']', _) :: after =>
      let name := String.ofList name
      if classNames.contains name then some (name, after) else none
    | _ => none
  | _ => none

/-- Read the members of a set up to the closing bracket; the first may be that bracket itself. -/
def members : (fuel : Nat) → (first : Bool) → Glyphs → Option (List Member × Glyphs)
  | 0, _, _ => none
  | _ + 1, _, [] => none
  | fuel + 1, first, (c, sign) :: rest =>
    if c = ']' ∧ sign ∧ !first then some ([], rest)
    else
      match if c = '[' ∧ sign then class? rest else none with
      | some (name, rest) =>
        (members fuel false rest).map fun (ms, rest) => (.named name :: ms, rest)
      | none =>
        let (c, rest) := match sign, c, rest with
          | true, '\\', (d, _) :: rest => (d, rest)
          | _, c, rest => (c, rest)
        match rest with
        | ('-', true) :: (last, lastSign) :: after =>
          if last = ']' ∧ lastSign then
            (members fuel false rest).map fun (ms, rest) => (.between c c :: ms, rest)
          else (members fuel false after).map fun (ms, rest) => (.between c last :: ms, rest)
        | rest => (members fuel false rest).map fun (ms, rest) => (.between c c :: ms, rest)

/-- Read a set after its opening bracket. -/
def set? (gs : Glyphs) : Option (Part × Glyphs) :=
  let (inverse, gs) := match gs with
    | ('!', true) :: rest => (true, rest)
    | ('^', true) :: rest => (true, rest)
    | gs => (false, gs)
  (members (gs.length + 1) true gs).map fun (ms, rest) => (.set inverse ms, rest)

/-- The parts of a pattern. -/
def partsOf : (fuel : Nat) → Glyphs → List Part
  | 0, _ => []
  | _ + 1, [] => []
  | fuel + 1, (c, false) :: rest => .char c :: partsOf fuel rest
  | fuel + 1, (c, true) :: rest =>
    match c with
    | '*' => .anyText :: partsOf fuel rest
    | '?' => .anyChar :: partsOf fuel rest
    | '[' =>
      match set? rest with
      | some (part, rest) => part :: partsOf fuel rest
      | none => .char '[' :: partsOf fuel rest
    | '\\' =>
      match rest with
      | (d, _) :: rest => .char d :: partsOf fuel rest
      | [] => [.char '\\']
    | c => .char c :: partsOf fuel rest

/-- The parts of the pattern that characters spell. -/
def ofGlyphs (gs : Glyphs) : List Part := partsOf (gs.length + 1) gs

/-- Whether a part other than `anyText` stands for a character. -/
def Part.holds (c : Char) : Part → Bool
  | .char d => c == d
  | .anyChar => true
  | .anyText => false
  | .set inverse members => members.any (Member.holds c) != inverse

/-- Whether parts match a text from its start to its end. -/
def matchesParts : List Part → List Char → Bool
  | [], cs => cs.isEmpty
  | .anyText :: ps, [] => matchesParts ps []
  | .anyText :: ps, c :: cs => matchesParts ps (c :: cs) || matchesParts (.anyText :: ps) cs
  | _ :: _, [] => false
  | p :: ps, c :: cs => p.holds c && matchesParts ps cs
termination_by ps cs => ps.length + cs.length

/-- Whether a pattern matches a text. -/
def matchesText (pattern : Glyphs) (s : String) : Bool := matchesParts (ofGlyphs pattern) s.toList

/-- A text without the part at its start that a pattern matches, the longest or the shortest. -/
def cutStart (longest : Bool) (pattern : Glyphs) (s : String) : String :=
  let parts := ofGlyphs pattern
  let cs := s.toList
  let lengths := List.range (cs.length + 1)
  let lengths := if longest then lengths.reverse else lengths
  match lengths.find? fun n => matchesParts parts (cs.take n) with
  | some n => String.ofList (cs.drop n)
  | none => s

/-- A text without the part at its end that a pattern matches, the longest or the shortest. -/
def cutEnd (longest : Bool) (pattern : Glyphs) (s : String) : String :=
  let parts := ofGlyphs pattern
  let cs := s.toList
  let lengths := List.range (cs.length + 1)
  let lengths := if longest then lengths else lengths.reverse
  match lengths.find? fun n => matchesParts parts (cs.drop n) with
  | some n => String.ofList (cs.take n)
  | none => s

/-! ### Names of files -/

/-- Whether characters hold a sign that can make names of files of them. -/
def isWild (gs : Glyphs) : Bool := gs.any fun (c, sign) => sign && (c == '*' || c == '?' || c == '[')

/-- The parts of a path between its slashes. -/
def pathParts : Glyphs → List Glyphs
  | [] => [[]]
  | (c, sign) :: rest =>
    if c = '/' then [] :: pathParts rest
    else
      match pathParts rest with
      | [] => [[(c, sign)]]
      | part :: parts => ((c, sign) :: part) :: parts

/-- The names in a directory that a pattern matches. A name that starts with a dot has to be asked
for by a dot. -/
def namesIn (fs : FileSystem) (directory : String) (pattern : Glyphs) : List String :=
  match fs.find (Octets.text (if directory.isEmpty then "." else directory)) with
  | .ok (l, .directory) =>
    let dotted := pattern.head?.any fun g => g.1 == '.'
    let names := (fs.list l).map fun entry => Octets.ofText entry.1
    let names := if dotted then "." :: ".." :: names else names
    names.filter fun name =>
      (dotted || name.toList.head? != some '.') && matchesText pattern name
  | _ => []

/-- The paths that start with a text and go on by patterns for their parts. -/
def pathsFrom (fs : FileSystem) (start : String) : List Glyphs → List String
  | [] => []
  | [last] =>
    if last.isEmpty then if fs.hasDirectory (Octets.text start) then [start] else []
    else if isWild last then (namesIn fs start last).map (start ++ ·)
    else
      let path := start ++ last.text
      if fs.has (Octets.text path) then [path] else []
  | part :: more =>
    if isWild part then
      (namesIn fs start part).flatMap fun name => pathsFrom fs (start ++ name ++ "/") more
    else pathsFrom fs (start ++ part.text ++ "/") more

/-- The paths that a pattern matches, in ascending order. -/
def paths (fs : FileSystem) (gs : Glyphs) : List String :=
  (pathsFrom fs "" (pathParts gs)).mergeSort fun a b => a ≤ b

end Pattern

end ArtifactPipeline.Shell
