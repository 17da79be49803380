import ArtifactPipeline.Shell.Options
import ArtifactPipeline.Shell.Quoting
import ArtifactPipeline.Shell.SignalNames

/-!
# Another environment

The program `env` carries out another program in an environment that it makes from its own, or shows that
environment. A text can hold several of its arguments, in a notation with marks and backslashes.

* `Setting.read` reads the arguments;
* `Splitting.read` takes the words of a text apart;
* `Setting.made` is the environment that is asked for.
-/

namespace ArtifactPipeline.Shell

/-- What variables tell a program. -/
abbrev Environment := List (String × String)

/-- Put a value in an environment. -/
def Environment.put (e : Environment) (name value : String) : Environment :=
  if (e.lookup name).isSome then e.map fun b => if b.1 = name then (name, value) else b
  else e ++ [(name, value)]

/-- Why arguments of a program make no sense, and whether it shows where help is found. -/
structure Misuse where
  text : String
  hints : Bool := true

/-- The misuse that is a fault in options. -/
def OptionFault.misuse (fault : OptionFault) : Misuse := { text := fault.message }

/-! ### Several arguments in a text -/

/-- What is known after a part of a text that holds several arguments. -/
structure Splitting where
  /-- The words so far, the last one first, each with its last character first. -/
  words : List (List Char) := []
  /-- Whether the next character starts a word. -/
  apart : Bool := true
  /-- The mark that is open. -/
  mark : Option Char := none
  /-- What is reported where much is reported, the latest first. -/
  notes : List String := []

namespace Splitting

/-- The state after the start of a word, where one can start. -/
def started (s : Splitting) : Splitting :=
  if s.apart then { s with words := [] :: s.words, apart := false } else s

/-- The state after a character of a word. -/
def push (s : Splitting) (c : Char) : Splitting :=
  let s := s.started
  match s.words with
  | word :: words => { s with words := (c :: word) :: words }
  | [] => s

/-- The words in their order. -/
def done (s : Splitting) : List String := (s.words.map fun word => String.ofList word.reverse).reverse

/-- Characters that stand for others after a backslash. -/
def escapes : List (Char × Char) :=
  [('f', '\x0C'), ('n', '\n'), ('r', '\r'), ('t', '\t'), ('v', '\x0B'), ('\x22', '\x22'), ('#', '#'),
    ('$', '$'), ('\x27', '\x27'), ('\\', '\\')]

/-- The name between braces after the sign for a value, and what follows the braces. -/
def braced? (cs : List Char) : Option (String × List Char) :=
  match cs with
  | '\x7b' :: cs =>
    let isNext (c : Char) : Bool := c.isAlphanum || c == '_'
    let name := cs.takeWhile isNext
    match name, cs.dropWhile isNext with
    | c :: _, '\x7d' :: rest => if c.isDigit then none else some (String.ofList name, rest)
    | _, _ => none
  | _ => none

/-- A fault in a text. -/
def fault {α : Type} (text : String) : Except Misuse α := .error { text, hints := false }

/-- Take a text apart. Values of variables are put in the place of their names. -/
def read (environment : Environment) : (fuel : Nat) → Splitting → List Char → Except Misuse Splitting
  | 0, s, _ => .ok s
  | _ + 1, s, [] => if s.mark.isSome then fault "no terminating quote in -S string" else .ok s
  | fuel + 1, s, c :: rest =>
    if c = '\x27' ∨ c = '\x22' then
      match s.mark with
      | some m =>
        if m = c then read environment fuel { s.started with mark := none } rest
        else read environment fuel (s.push c) rest
      | none => read environment fuel { s.started with mark := some c } rest
    else if c = ' ' ∨ ('\t' ≤ c ∧ c ≤ '\r') then
      if s.mark.isSome then read environment fuel (s.push c) rest
      else read environment fuel { s with apart := true } rest
    else if c = '#' ∧ s.apart then
      if s.mark.isSome then fault "no terminating quote in -S string" else .ok s
    else if c = '\\' then
      match rest with
      | [] =>
        if s.mark = some '\x27' then read environment fuel (s.push c) []
        else fault "invalid backslash at end of string in -S"
      | next :: after =>
        if s.mark = some '\x27' ∧ next ≠ '\\' ∧ next ≠ '\x27' then
          read environment fuel (s.push c) rest
        else if next = '_' then
          if s.mark.isSome then read environment fuel (s.push ' ') after
          else read environment fuel { s with apart := true } after
        else if next = 'c' then
          if s.mark.isSome then fault "'\\c' must not appear in double-quoted -S string" else .ok s
        else
          match escapes.lookup next with
          | some e => read environment fuel (s.push e) after
          | none => fault ("invalid sequence '\\" ++ String.singleton next ++ "' in -S")
    else if c = '$' ∧ s.mark ≠ some '\x27' then
      match braced? rest with
      | none =>
        fault ("only $\x7bVARNAME\x7d expansion is supported, error at: " ++ String.ofList (c :: rest))
      | some (name, after) =>
        let shown := "$\x7b" ++ name ++ "\x7d"
        match environment.lookup name with
        | some value =>
          let s := { s.started with
            notes := ("expanding " ++ shown ++ " into " ++ Quoting.text value) :: s.notes }
          read environment fuel (value.toList.foldl push s) after
        | none =>
          read environment fuel { s with notes := ("replacing " ++ shown ++ " with null string") :: s.notes }
            after
    else read environment fuel (s.push c) rest

end Splitting

/-! ### Arguments -/

/-- What `env` is asked for. -/
structure Setting where
  /-- Whether nothing is kept of the environment. -/
  clears : Bool := false
  /-- The variables that are taken out. -/
  removed : List String := []
  /-- The variables that are given values. -/
  given : List (String × String) := []
  /-- Whether variables end in the octet zero when they are shown. -/
  zeros : Bool := false
  /-- The directory in which the program starts. -/
  directory : Option String := none
  /-- Whether everything that is done is reported. -/
  speaks : Bool := false
  /-- What has been reported of that, the latest first. -/
  notes : List String := []
  /-- The program and its arguments. -/
  command : List String := []

namespace Setting

/-- The options of `env`. -/
def options : OptionTable where
  flags := "i0vl"
  valued := "uCS"
  optional := "\x03"
  long := longNames ("i=ignore-environment 0=null u=unset C=chdir \x03=default-signal \x03=ignore-signal "
    ++ "\x03=block-signal l=list-signal-handling v=debug S=split-string")

/-- Report something where much is reported. -/
def note (s : Setting) (text : String) : Setting :=
  if s.speaks then { s with notes := text :: s.notes } else s

/-- Take in an option. -/
def option (s : Setting) (letter : Char) (value : String) : Except Misuse Setting :=
  match letter with
  | 'i' => .ok { s with clears := true }
  | '0' => .ok { s with zeros := true }
  | 'v' => .ok { s with speaks := true }
  | 'u' => .ok { s with removed := s.removed ++ [value] }
  | 'C' => .ok { s with directory := some value }
  | '\x03' =>
    match ((Text.splitOn ',' value.toList).map String.ofList).find? fun name =>
      name != "" && !(sentSignal? name).any (· != 0) with
    | some name => .error { text := Quoting.text name ++ ": invalid signal" }
    | none => .ok s
  | _ => .ok s

/-- Read assignments and the command after them. -/
def assignments (s : Setting) : List String → Setting
  | [] => s
  | a :: rest =>
    match Text.splitOnce '=' a with
    | some binding => { s with given := s.given ++ [binding] }.assignments rest
    | none => { s with command := a :: rest }

/-- Take the words of a text apart, in the place of the arguments before it. -/
def split (s : Setting) (environment : Environment) (text : String) : Except Misuse (Setting × List String) := do
  let found ← Splitting.read environment (text.length + 1) {} text.toList
  let s := found.notes.reverse.foldl note s
  match found.done with
  | [] => return (s, [])
  | first :: rest =>
    let s := ((s.note ("split -S:  " ++ Quoting.text text)).note (" into:    " ++ Quoting.text first))
    return (rest.foldl (fun s word => s.note ("     &    " ++ Quoting.text word)) s, first :: rest)

/-- Read options, and what stands after them. The environment gives the values for names in texts. -/
def read (environment : Environment) : (fuel : Nat) → Setting → List String → Except Misuse Setting
  | 0, s, _ => .ok s
  | _ + 1, s, [] => .ok s
  | fuel + 1, s, a :: rest => do
    match options.readOne? rest.head? a with
    | some found =>
      let rest := if found.usesNext then rest.tail else rest
      let plain := found.options.filter (·.1 != 'S')
      let s ← plain.foldlM (fun s o => s.option o.1 o.2) s
      match found.fault, found.options.lookup 'S' with
      | some fault, _ => throw fault.misuse
      | none, some text =>
        let (s, words) ← s.split environment text
        read environment fuel s (words ++ rest)
      | none, none => read environment fuel s rest
    | none =>
      if a = "--" then return s.assignments rest
      else if a = "-" then return { s with clears := true }.assignments rest
      else return s.assignments (a :: rest)

/-- The environment that is asked for, and the setting with reports on how it is made. -/
def made (s : Setting) (environment : Environment) : Except Misuse (Setting × Environment) := do
  let (s, start) ←
    if s.clears then pure (s.note "cleaning environ", [])
    else do
      match s.removed.find? fun name => name.isEmpty || name.toList.contains '=' with
      | some name =>
        throw { text := "cannot unset " ++ Quoting.text name ++ ": Invalid argument", hints := false }
      | none =>
        pure (s.removed.foldl (fun s name => s.note ("unset:    " ++ name)) s,
          environment.filter fun b => !s.removed.contains b.1)
  return (s.given.foldl (fun s b => s.note ("setenv:   " ++ b.1 ++ "=" ++ b.2)) s,
    s.given.foldl (fun e b => e.put b.1 b.2) start)

/-- Why a setting makes no sense, if it does not. -/
def misuse? (s : Setting) : Option Misuse :=
  if s.zeros && !s.command.isEmpty then
    some { text := "cannot specify --null (-0) with command" }
  else if s.directory.isSome && s.command.isEmpty then
    some { text := "must specify command with --chdir (-C)" }
  else none

/-- The reports before the program starts. -/
def starting (s : Setting) : Setting :=
  let s := match s.directory with
    | some d => s.note ("chdir:    " ++ Quoting.text d)
    | none => s
  let s := s.note ("executing: " ++ s.command.headD "")
  (List.range s.command.length).foldl (fun s i =>
    s.note ("   arg[" ++ toString i ++ "]= " ++ Quoting.text (s.command.getD i ""))) s

end Setting

end ArtifactPipeline.Shell
