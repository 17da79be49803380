import ArtifactPipeline.Text.Lines
import ArtifactPipeline.Text.Search

/-!
# Options and operands

The arguments of a program are options, which start with a sign, and operands. An option has one letter
or a long name, which may be cut short as long as it is clear which name is meant; it may have a value,
which stands in the same argument or is the next one.

* `OptionTable` is what a program knows of its options;
* `OptionTable.read` sorts arguments into options and operands, up to a fault if there is one.
-/

namespace ArtifactPipeline.Shell

/-- Why an argument makes no sense. -/
inductive OptionFault where
  | invalid (letter : Char)
  | missingValue (letter : Char)
  | unrecognized (argument : String)
  /-- The start of a long name that several names have. -/
  | ambiguous (argument : String) (names : List String)
  /-- A long name without the value that it needs. -/
  | valueNeeded (name : String)
  /-- A long name with a value that it does not take. -/
  | valueUnwanted (name : String)
deriving Repr, DecidableEq

/-- The report of a fault. -/
def OptionFault.message : OptionFault → String
  | invalid letter => "invalid option -- '" ++ String.singleton letter ++ "'"
  | missingValue letter => "option requires an argument -- '" ++ String.singleton letter ++ "'"
  | unrecognized argument => "unrecognized option '" ++ argument ++ "'"
  | ambiguous argument names =>
    "option '" ++ argument ++ "' is ambiguous; possibilities:"
      ++ String.join (names.map fun name => " '--" ++ name ++ "'")
  | valueNeeded name => "option '--" ++ name ++ "' requires an argument"
  | valueUnwanted name => "option '--" ++ name ++ "' doesn't allow an argument"

/-- The options and operands among arguments. An option without a value has the empty one. -/
structure Arguments where
  options : List (Char × String) := []
  operands : List String := []
  /-- What makes no sense after these options, if something does not. -/
  fault : Option OptionFault := none

namespace Arguments

/-- Whether an option is given. -/
def has (a : Arguments) (letter : Char) : Bool := a.options.any (·.1 == letter)

/-- Whether one of some options is given. -/
def hasAny (a : Arguments) (letters : String) : Bool := letters.toList.any a.has

/-- The value of the last option with a letter. -/
def value? (a : Arguments) (letter : Char) : Option String := a.options.reverse.lookup letter

/-- The values of all options with a letter. -/
def values (a : Arguments) (letter : Char) : List String :=
  a.options.filterMap fun o => if o.1 = letter then some o.2 else none

/-- The last of the options with one of some letters. -/
def last? (a : Arguments) (letters : String) : Option (Char × String) :=
  a.options.reverse.find? fun o => letters.toList.contains o.1

/-- The arguments, unless one makes no sense. -/
def checked (a : Arguments) : Except OptionFault Arguments :=
  match a.fault with
  | some fault => .error fault
  | none => .ok a

/-- Put options before the others. -/
def after (a : Arguments) (options : List (Char × String)) : Arguments :=
  { a with options := options ++ a.options }

end Arguments

/-- What a program knows of options. -/
structure OptionTable where
  /-- The letters of options without a value. -/
  flags : String
  /-- The letters of options with one. -/
  valued : String := ""
  /-- The letters of options that may have one, in the same argument. -/
  optional : String := ""
  /-- Long names, and the letters that they stand for. -/
  long : List (String × Char) := []

/-- Long names from a text such as `n=number b=bytes`, and those that every program has. -/
def longNames (text : String) : List (String × Char) :=
  let words := (Text.splitOn ' ' text.toList).filterMap fun cs =>
    match cs with
    | letter :: '=' :: name => some (String.ofList name, letter)
    | _ => none
  words ++ [("help", '\x01'), ("version", '\x02')]

namespace OptionTable

/-- What one argument holds: options, a fault after them if there is one, and whether the next argument
was used. -/
structure Found where
  options : List (Char × String) := []
  fault : Option OptionFault := none
  usesNext : Bool := false

/-- Read the letters of one argument; `next` is the argument after it. -/
def readLetters (t : OptionTable) (next : Option String) : List Char → Found
  | [] => {}
  | c :: cs =>
    if t.valued.toList.contains c then
      if cs.isEmpty then
        match next with
        | some v => { options := [(c, v)], usesNext := true }
        | none => { fault := some (.missingValue c) }
      else { options := [(c, String.ofList cs)] }
    else if t.optional.toList.contains c then { options := [(c, String.ofList cs)] }
    else if t.flags.toList.contains c then
      let more := t.readLetters next cs
      { more with options := (c, "") :: more.options }
    else { fault := some (.invalid c) }

/-- The long name that the start of one stands for. -/
def longName (t : OptionTable) (argument start : String) : Except OptionFault (String × Char) :=
  match t.long.lookup start with
  | some letter => .ok (start, letter)
  | none =>
    match t.long.filter fun entry => Text.startsWith entry.1 start with
    | [] => .error (.unrecognized argument)
    | first :: rest =>
      if rest.all fun entry => entry.2 == first.2 then .ok first
      else .error (.ambiguous argument ((first :: rest).map Prod.fst))

/-- Read a long option. -/
def readLong (t : OptionTable) (next : Option String) (argument : String) : Found :=
  let (start, value?) := match Text.splitOnce '=' argument with
    | some (name, value) => (name, some value)
    | none => (argument, none)
  match t.longName argument (String.ofList (start.toList.drop 2)) with
  | .error fault => { fault := some fault }
  | .ok (name, letter) =>
    if t.valued.toList.contains letter then
      match value?, next with
      | some v, _ => { options := [(letter, v)] }
      | none, some v => { options := [(letter, v)], usesNext := true }
      | none, none => { fault := some (.valueNeeded name) }
    else
      match value? with
      | none => { options := [(letter, "")] }
      | some v =>
        if t.optional.toList.contains letter then { options := [(letter, v)] }
        else { fault := some (.valueUnwanted name) }

/-- Read one argument, if it holds options; `next` is the argument after it. -/
def readOne? (t : OptionTable) (next : Option String) (argument : String) : Option Found :=
  match argument.toList with
  | ['-', '-'] => none
  | '-' :: '-' :: _ => some (t.readLong next argument)
  | '-' :: c :: cs => some (t.readLetters next (c :: cs))
  | _ => none

/-- Sort arguments into options and operands; `mixed` says that options may stand after operands. -/
def read (t : OptionTable) (mixed : Bool) : (fuel : Nat) → List String → Arguments
  | 0, _ => {}
  | _ + 1, [] => {}
  | fuel + 1, a :: rest =>
    match t.readOne? rest.head? a with
    | some found =>
      match found.fault with
      | some fault => { options := found.options, fault := some fault }
      | none => (t.read mixed fuel (if found.usesNext then rest.tail else rest)).after found.options
    | none =>
      if a = "--" then { operands := rest }
      else if mixed then
        let more := t.read mixed fuel rest
        { more with operands := a :: more.operands }
      else { operands := a :: rest }

end OptionTable

end ArtifactPipeline.Shell
