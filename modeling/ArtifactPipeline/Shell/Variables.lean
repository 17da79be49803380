import ArtifactPipeline.Shell.State

/-!
# Commands for variables

The commands of the shell that show and change variables, arguments and options: `export`,
`readonly`, `local`, `unset`, `set`, `shift` and `getopts`. A value is shown so that the shell reads
it back as it is.
-/

namespace ArtifactPipeline.Shell

/-- A command of the shell, on its arguments. -/
abbrev Builtin := List String → Eval Unit

/-- A number without a sign that is small enough for the shell. -/
def natural? (text : String) : Option Nat :=
  if !text.isEmpty ∧ text.toList.all Char.isDigit then
    let n := text.toList.foldl (fun n c => 10 * n + (c.toNat - '0'.toNat)) 0
    if n < 2147483648 then some n else none
  else none

/-- The number that an argument is. -/
def requireNatural (text : String) : Eval Nat := do
  match natural? text with
  | some n => return n
  | none => Eval.fail ("Illegal number: " ++ text) 2

/-- Read options that are letters; the value of a letter with a colon after it among the known ones
follows it, or is the next argument. The answer is the options and the arguments after them. -/
def readLetters (known : String) :
    (fuel : Nat) → List String → Eval (List (Char × String) × List String)
  | 0, rest => return ([], rest)
  | _ + 1, [] => return ([], [])
  | fuel + 1, a :: rest => do
    match a.toList with
    | ['-', '-'] => return ([], rest)
    | '-' :: c :: cs =>
      match Text.cutOnce c known.toList with
      | none => Eval.fail ("Illegal option -" ++ String.singleton c) 2
      | some (_, ':' :: _) =>
        if !cs.isEmpty then
          let (more, rest) ← readLetters known fuel rest
          return ((c, String.ofList cs) :: more, rest)
        else
          match rest with
          | [] => Eval.fail ("No arg for -" ++ String.singleton c ++ " option") 2
          | value :: rest =>
            let (more, rest) ← readLetters known fuel rest
            return ((c, value) :: more, rest)
      | some _ =>
        let (more, rest) ←
          readLetters known fuel (if cs.isEmpty then rest else String.ofList ('-' :: cs) :: rest)
        return ((c, "") :: more, rest)
    | _ => return ([], a :: rest)

/-- The options and the other arguments of a command. -/
def optionsOf (known : String) (arguments : List String) :
    Eval (List (Char × String) × List String) :=
  let letters := arguments.foldl (fun n a => n + a.length) 0
  readLetters known (arguments.length + letters + 1) arguments

/-! ### Showing values -/

/-- A text between apostrophes, with runs of apostrophes between double quotes. -/
def quotedFrom : (fuel : Nat) → List Char → List Char
  | 0, _ => []
  | fuel + 1, cs =>
    let before := cs.takeWhile (· != '\x27')
    let rest := cs.drop before.length
    let marks := rest.takeWhile (· == '\x27')
    let after := rest.drop marks.length
    let start := '\x27' :: before ++ ['\x27']
    if marks.isEmpty then start
    else
      let whole := start ++ '\x22' :: marks ++ ['\x22']
      if after.isEmpty then whole else whole ++ quotedFrom fuel after

/-- A value as the shell reads it back. -/
def quotedValue (text : String) : String :=
  String.ofList (quotedFrom (text.length + 1) text.toList)

/-- Write the variables with a property, in ascending order, after the same words. -/
def showVariables (before : String) (shown : Variable → Bool) : Eval Unit := do
  let all := (← get).bindings.filter fun v => shown v.2
  for (name, v) in all.mergeSort fun a b => a.1 ≤ b.1 do
    match v.value with
    | some value => Eval.writeLine (before ++ name ++ "=" ++ quotedValue value)
    | none => if before != "" then Eval.writeLine (before ++ name)
  Eval.ended 0

/-! ### Marking and removing variables -/

/-- Complain about a text that is no name. -/
def requireName (name : String) : Eval Unit := do
  if !isName name then Eval.fail (name ++ ": bad variable name") 2

/-- Give variables values, if values are given, and mark them. -/
def markVariables (word : String) (shown : Variable → Bool) (mark : Variable → Variable) :
    Builtin := fun arguments => do
  let (options, names) ← optionsOf "p" arguments
  if names.isEmpty || !options.isEmpty then showVariables (word ++ " ") shown
  else
    for a in names do
      let name := match Text.splitOnce '=' a with
        | some (name, _) => name
        | none => a
      requireName name
      match Text.splitOnce '=' a with
      | some (name, value) => Eval.assign name value
      | none => pure ()
      modify fun s => s.setVariable name (mark ((s.bindings.lookup name).getD {}))
    Eval.ended 0

/-- Let programs see variables. -/
def exportVariables : Builtin :=
  markVariables "export" Variable.exported fun v => { v with exported := true }

/-- Let the values of variables stay as they are. -/
def fixVariables : Builtin :=
  markVariables "readonly" Variable.fixed fun v => { v with fixed := true }

/-- Make variables the function's own, with values if values are given. -/
def ownVariables : Builtin := fun arguments => do
  if (← get).scopes.isEmpty then Eval.fail "not in a function" 2
  for a in arguments do
    let name := match Text.splitOnce '=' a with
      | some (name, _) => name
      | none => a
    if name != "-" then
      requireName name
      modify fun s =>
        match s.scopes with
        | scope :: outer =>
          if scope.any (·.1 == name) then s
          else { s with scopes := ((name, s.bindings.lookup name) :: scope) :: outer }
        | [] => s
      match Text.splitOnce '=' a with
      | some (name, value) => Eval.assign name value
      | none => pure ()
  Eval.ended 0

/-- Remove a variable. -/
def State.removeVariable (s : State) (name : String) : State :=
  { s with bindings := s.bindings.filter (·.1 != name) }

/-- Remove variables, or functions. -/
def removeNames : Builtin := fun arguments => do
  let (options, names) ← optionsOf "vf" arguments
  for name in names do
    if options.getLast?.any (·.1 == 'f') then
      modify fun s => { s with functions := s.functions.filter (·.1 != name) }
    else
      requireName name
      if ((← get).bindings.lookup name).any Variable.fixed then
        Eval.fail (name ++ ": is read only") 2
      modify fun s => s.removeVariable name
  Eval.ended 0

/-! ### Options and arguments -/

/-- The options by their long names. -/
def optionNames : List (String × Char) :=
  [("errexit", 'e'), ("noglob", 'f'), ("ignoreeof", 'I'), ("interactive", 'i'), ("monitor", 'm'),
    ("noexec", 'n'), ("stdin", 's'), ("xtrace", 'x'), ("verbose", 'v'), ("vi", 'V'),
    ("emacs", 'E'), ("noclobber", 'C'), ("allexport", 'a'), ("notify", 'b'), ("nounset", 'u'),
    ("privileged", 'p'), ("nolog", 'L'), ("debug", 'D')]

/-- Switch an option on or off. -/
def State.switch (s : State) (letter : Char) (on : Bool) : State :=
  let others := s.options.filter (· != letter)
  { s with options := if on then letter :: others else others }

/-- Switch options on or off by the letters of an argument. -/
def switchLetters (on : Bool) (letters : List Char) : Eval Unit := do
  for c in letters do
    if optionNames.any fun o => o.2 == c && c != 'L' && c != 'D' then
      modify fun s => s.switch c on
    else Eval.fail ("Illegal option " ++ String.ofList [if on then '-' else '+', c]) 2

/-- Show which options are switched on. -/
def showOptions (on : Bool) : Eval Unit := do
  let s ← get
  if on then
    Eval.writeLine "Current option settings"
    for (name, letter) in optionNames do
      let blanks := String.ofList (List.replicate (16 - name.length) ' ')
      Eval.writeLine (name ++ blanks ++ (if s.hasOption letter then "on" else "off"))
  else
    for (name, letter) in optionNames do
      Eval.writeLine ("set " ++ (if s.hasOption letter then "-o " else "+o ") ++ name)

/-- Switch options on or off as arguments say; the answer is the arguments after them, if there are
any or two hyphens ask for none. -/
def readSwitches : (fuel : Nat) → List String → Eval (Option (List String))
  | 0, _ => return none
  | _ + 1, [] => return none
  | fuel + 1, a :: rest => do
    match a.toList with
    | ['-', '-'] => return some rest
    | ['-'] =>
      modify fun s => (s.switch 'x' false).switch 'v' false
      return if rest.isEmpty then none else some rest
    | sign :: letters =>
      if (sign = '-' ∨ sign = '+') ∧ !letters.isEmpty then
        let on := sign == '-'
        if letters = ['o'] then
          match rest with
          | [] =>
            showOptions on
            return none
          | name :: rest =>
            match optionNames.lookup name with
            | some letter => modify fun s => s.switch letter on
            | none => Eval.fail ("Illegal option -o " ++ name) 2
            readSwitches fuel rest
        else
          switchLetters on letters
          readSwitches fuel rest
      else return some (a :: rest)
    | [] => return some (a :: rest)

/-- Show variables, or switch options and replace the arguments. -/
def setCommand : Builtin := fun arguments => do
  match arguments with
  | [] => showVariables "" fun v => v.value.isSome
  | arguments =>
    match ← readSwitches (arguments.length + 1) arguments with
    | some rest =>
      modify fun s => { s with arguments := rest, optionIndex := 1, optionOffset := none }
    | none => pure ()
    Eval.ended 0

/-- Drop arguments from the front. -/
def shiftCommand : Builtin := fun arguments => do
  let n ← match arguments with
    | [] => pure 1
    | a :: _ => requireNatural a
  let s ← get
  if s.arguments.length < n then Eval.fail "can't shift that many" 2
  set { s with
    arguments := s.arguments.drop n
    optionIndex := 1
    optionOffset := none
    status := 0 }

/-- What the letter after a hyphen means among the options that are known. -/
def optionKind? (known : List Char) (c : Char) : Option Bool :=
  match Text.cutOnce c known with
  | some (_, ':' :: _) => some true
  | some _ => if c = ':' then none else some false
  | none => none

/-- The letters at which options are read next, and the number of the argument after them; there are
no letters where the options end. -/
def optionLettersAt (index : Nat) (offset : Option Nat) (words : List String) : List Char × Nat :=
  let current := match offset with
    | some n => if index ≤ 1 then [] else (words.getD (index - 2) "").toList.drop n
    | none => []
  if !current.isEmpty then (current, index)
  else
    match words[index - 1]? with
    | none => ([], index)
    | some word =>
      match word.toList with
      | ['-', '-'] => ([], index + 1)
      | '-' :: c :: cs => (c :: cs, index + 1)
      | _ => ([], index)

/-- Read the next option of the arguments. -/
def getopts : Builtin := fun arguments => do
  match arguments with
  | known :: name :: given => do
    let s ← get
    let words := if given.isEmpty then s.arguments else given
    let silent := known.toList.head? == some ':'
    let (letters, index) := optionLettersAt s.optionIndex s.optionOffset words
    let finish (index : Nat) (rest : List Char) (letter : Char) (status : Nat) : Eval Unit := do
      Eval.assign "OPTIND" (toString index)
      requireName name
      Eval.assign name (String.singleton letter)
      let offset :=
        if rest.isEmpty then none
        else some ((words.getD (index - 2) "").length - rest.length)
      modify fun s => { s with optionIndex := index, optionOffset := offset }
      Eval.ended status
    let refuse (rest : List Char) (c answer : Char) (text : String) : Eval Unit := do
      if silent then Eval.assign "OPTARG" (String.singleton c)
      else
        Eval.writeReport text
        modify fun s => s.removeVariable "OPTARG"
      finish index rest (if silent then answer else '?') 0
    match letters with
    | [] => finish index [] '?' 1
    | c :: rest =>
      match optionKind? known.toList c with
      | none => refuse rest c '?' ("Illegal option -" ++ String.singleton c)
      | some false =>
        Eval.assign "OPTARG" ""
        finish index rest c 0
      | some true =>
        if !rest.isEmpty then
          Eval.assign "OPTARG" (String.ofList rest)
          finish index [] c 0
        else
          match words[index - 1]? with
          | some value =>
            Eval.assign "OPTARG" value
            finish (index + 1) [] c 0
          | none => refuse [] c ':' ("No arg for -" ++ String.singleton c ++ " option")
  | _ => Eval.fail "Usage: getopts optstring var [arg...]" 2

end ArtifactPipeline.Shell
