import ArtifactPipeline.Shell.Arithmetic
import ArtifactPipeline.Shell.Fields
import ArtifactPipeline.Shell.State

/-!
# Expanding words

The pieces of a word are replaced by what they stand for, from left to right. What came of the word
is then cut into fields, and a field with unquoted signs of a pattern becomes the names of the files
that the pattern matches, if there are any.

What a command inside a word writes is asked from whoever carries commands out (`capture` below).

* `expandWords` are the fields of words;
* `expandText` is the text of a word that is not cut;
* `expandPattern` is a word as a pattern.
-/

namespace ArtifactPipeline.Shell

/-- What came of a piece that was replaced by a text. -/
def replaced (quoted : Bool) (text : String) : List Atom :=
  if quoted then text.toList.map .quoted else .seam :: text.toList.map .loose

/-! ### Home directories -/

/-- The home directory that a name stands for; no name is the one of the user. -/
def homeOf? (s : State) (name : String) : Option String :=
  if name.isEmpty then s.valueOf? "HOME" else if name = "root" then some "/root" else none

/-- A text that starts with a tilde, cut after the name; `whole` says that nothing follows the text.
-/
def tildePrefix? (stops : List Char) (whole : Bool) (text : String) : Option (String × String) :=
  match text.toList with
  | '~' :: cs =>
    let name := cs.takeWhile fun c => !stops.contains c
    let rest := cs.drop name.length
    if rest.isEmpty ∧ !whole then none else some (String.ofList name, String.ofList rest)
  | _ => none

/-- A word with the tilde at its start replaced by a home directory. -/
def Word.withHome (s : State) : Word → Word
  | .literal false text :: more =>
    match tildePrefix? ['/'] more.isEmpty text with
    | some (name, rest) =>
      match homeOf? s name with
      | some home => .literal true home :: .literal false rest :: more
      | none => .literal false text :: more
    | none => .literal false text :: more
  | w => w

/-- The value of an assignment with the tildes at its start and after colons replaced. -/
def Word.withHomes (s : State) : Word → Word
  | .literal false text :: more =>
    let parts := colonParts text
    let last := parts.length - 1
    let pieces := parts.zipIdx.flatMap fun (part, i) =>
      let colon := if i = 0 then [] else [Piece.literal false ":"]
      let found := tildePrefix? ['/'] (i < last || more.isEmpty) part
      colon ++ match found with
        | some (name, rest) =>
          match homeOf? s name with
          | some home => [Piece.literal true home, .literal false rest]
          | none => [.literal false part]
        | none => [.literal false part]
    pieces ++ more
  | w => w

/-! ### Pieces -/

/-- What stands between arguments that become one text. -/
def argumentJoint (s : State) : String :=
  match s.valueOf? "IFS" with
  | some text => String.ofList (text.toList.take 1)
  | none => " "

/-- What came of the list of all arguments, under one of its two names. -/
def argumentAtoms (s : State) (name : String) (quoted cuts : Bool) : List Atom :=
  if quoted ∧ name = "@" ∧ cuts then
    let each := s.arguments.map fun a => .quotes :: a.toList.map Atom.quoted
    List.intercalate [.cut] each
  else if quoted ∨ !cuts then
    replaced quoted (String.intercalate (argumentJoint s) s.arguments)
  else
    let each := s.arguments.map fun a => .seam :: a.toList.map Atom.loose
    List.intercalate [.gap] each

/-- Whether a parameter is the list of all arguments. -/
def isArgumentList (name : String) : Bool := name == "@" || name == "*"

/-- The report on a parameter without a value. -/
def missingText (name : String) (orEmpty : Bool) (message : String) : String :=
  let text := if message.isEmpty then
      "parameter not set" ++ (if orEmpty then " or null" else "")
    else message
  name ++ ": " ++ text

/-- Complain about a parameter without a value, if that is switched on. -/
def requireValue (name : String) (value? : Option String) : Eval Unit := do
  if value?.isNone && !isArgumentList name && (← get).hasOption 'u' then
    Eval.fail (missingText name false "") 2

section Pieces

variable (capture : Command → Eval String)

/-- Work an expression out, and give variables their values. -/
def arithmeticText (text : String) : Eval String := do
  let s ← get
  match Arithmetic.evaluate (fun name => (s.parameter? name).getD "") text with
  | .error .quotientOverflow => throw (.crashed 8)
  | .error fault => Eval.fail (fault.message text) 2
  | .ok (n, assigned) =>
    for (name, m) in assigned do Eval.assign name (toString m)
    return toString n

mutual

/-- What came of pieces. `cuts` says that fields are made of them, and `loose` that unquoted texts
among them were put in the place of a piece. -/
def atomsOf (cuts loose : Bool) : List Piece → Eval (List Atom)
  | [] => return []
  | piece :: rest => do
    let here ← atomsOfPiece cuts loose piece
    return here ++ (← atomsOf cuts loose rest)

/-- What came of a piece. -/
def atomsOfPiece (cuts loose : Bool) : Piece → Eval (List Atom)
  | .literal true text => return text.toList.map .quoted
  | .literal false text => return text.toList.map (if loose then Atom.loose else Atom.plain)
  | .quotes => return [.quotes]
  | .command quoted body => return replaced quoted (← capture body)
  | .arithmetic quoted inner => do
    let text := Atom.joined (← atomsOf false false inner)
    return replaced quoted (← arithmeticText text)
  | .parameter quoted name expansion => do
    let s ← get
    let isList := isArgumentList name
    let value? :=
      if isList then
        if s.arguments.isEmpty then none
        else some (String.intercalate (argumentJoint s) s.arguments)
      else s.parameter? name
    let own : List Atom :=
      if isList then argumentAtoms s name quoted cuts else replaced quoted (value?.getD "")
    atomsOfExpansion cuts quoted name value? own expansion

/-- What came of a parameter that has a value, or has none. -/
def atomsOfExpansion (cuts quoted : Bool) (name : String) (value? : Option String)
    (own : List Atom) : Expansion → Eval (List Atom)
  | .value => do
    requireValue name value?
    return own
  | .length => do
    requireValue name value?
    return replaced quoted (toString (value?.getD "").length)
  | .meaningless => Eval.fail "Bad substitution" 2
  | .trim atStart longest pattern => do
    requireValue name value?
    let glyphs := Atom.glyphs (← atomsOf false false pattern)
    let value := value?.getD ""
    return replaced quoted
      (if atStart then Pattern.cutStart longest glyphs value else Pattern.cutEnd longest glyphs value)
  | .fallback kind orEmpty word => do
    let present := value?.isSome && !(orEmpty && value? == some "")
    match kind with
    | .use => if present then return own else atomsOf cuts (!quoted) word
    | .other => if present then atomsOf cuts (!quoted) word else return replaced quoted ""
    | .assign =>
      if present then return own
      else
        if !isName name then Eval.fail (name ++ ": bad variable name") 2
        let text := Atom.joined (← atomsOf false false word)
        Eval.assign name text
        return replaced quoted text
    | .complain =>
      if present then return own
      else
        let message := Atom.joined (← atomsOf false false word)
        Eval.fail (missingText name orEmpty message) 2

end

/-! ### Words -/

/-- A word as a pattern. -/
def expandPattern (w : Word) : Eval Glyphs := do
  return Atom.glyphs (← atomsOf capture false false (w.withHome (← get)))

/-- The text of a word that is not cut. -/
def expandText (w : Word) : Eval String := do
  return (← expandPattern capture w).text

/-- The text of the value of an assignment. -/
def expandValue (w : Word) : Eval String := do
  return Atom.joined (← atomsOf capture false false (w.withHomes (← get)))

/-- The names of files that a field stands for, or the field itself. -/
def fileNames (s : State) (field : Glyphs) : List String :=
  if s.hasOption 'f' ∨ !Pattern.isWild field then [field.text]
  else
    match Pattern.paths s.files field with
    | [] => [field.text]
    | found => found

/-- The fields of a word. -/
def expandWord (w : Word) : Eval (List String) := do
  let atoms ← atomsOf capture true false (w.withHome (← get))
  let s ← get
  return (Atom.split s.separators atoms).flatMap (fileNames s)

/-- The fields of words. -/
def expandWords (ws : List Word) : Eval (List String) := do
  let fields ← ws.mapM (expandWord capture)
  return fields.flatten

end Pieces

end ArtifactPipeline.Shell
