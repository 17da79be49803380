/-!
# The arguments of the program

The program is started with options, the name of a task, and the options and words of the task.
An argument is taken apart on its own (`takeApart`): it is a word, the mark `--` behind which only
words follow, one option by its long name, or a cluster of options by their letters. What it may
leave open is the value of its last option, which is then the next argument (`Reading.readAll`).

* `parse` reads all arguments and ends with a `Request` or the first fault;
* options that belong to every task may stand before its name too, and count less there
  (`Given.orElse`).
-/

namespace ArtifactPipeline.Program

/-- What an option is for. -/
inductive Purpose where
  | config
  | set
  | verbose
  | jsonLogs
  | source
  | target
  | output
  | help
  | version
deriving Repr, DecidableEq

/-- How an option is written and used. -/
structure OptionForm where
  purpose : Purpose
  long : String
  short : Option Char := none
  takesValue : Bool := false
  /-- Whether the option may be given more than once. -/
  repeatable : Bool := false
  /-- Whether the value may be empty. -/
  mayBeEmpty : Bool := false
deriving Repr, DecidableEq

/-- Why the arguments make no sense. -/
inductive UsageFault where
  | unknownOption (text : String)
  | missingValue (option : String)
  | unexpectedValue (option : String)
  | emptyValue (name : String)
  | repeatedOption (option : String)
  | unexpectedWord (text : String)
  | unknownTask (text : String)
  | missingTask
  | missingArgument (name : String)
deriving Repr, DecidableEq

/-- The report of a fault. -/
def UsageFault.message : UsageFault → String
  | unknownOption text => "unexpected argument '" ++ text ++ "' found"
  | missingValue option => "a value is required for '--" ++ option ++ "' but none was supplied"
  | unexpectedValue option => "the option '--" ++ option ++ "' takes no value"
  | emptyValue name => "the value of '" ++ name ++ "' is empty"
  | repeatedOption option => "the option '--" ++ option ++ "' cannot be used multiple times"
  | unexpectedWord text => "unexpected argument '" ++ text ++ "' found"
  | unknownTask text => "unrecognized subcommand '" ++ text ++ "'"
  | missingTask => "a subcommand is required but none was provided"
  | missingArgument name => "the required argument '" ++ name ++ "' was not provided"

/-- What the program is asked to do with a configuration. -/
inductive Task where
  /-- Turn an artifact in one state into one in another, and write it out. -/
  | exec (input source target : String) (output : Option String)
  /-- List the stages. -/
  | stages
  /-- Show the configuration. -/
  | config
deriving Repr, DecidableEq

/-- A task and the settings under which it runs. -/
structure Invocation where
  task : Task
  configPath : Option String := none
  settings : List String := []
  /-- How often more detail was asked for. -/
  verbosity : Nat := 0
  jsonLogs : Bool := false
deriving Repr, DecidableEq

/-- What the arguments ask for. -/
inductive Request where
  | run (invocation : Invocation)
  | help
  | version
  /-- There were no arguments. -/
  | nothing
deriving Repr, DecidableEq

/-- Why reading stops before the last argument. -/
inductive Stop where
  | request (r : Request)
  | fault (f : UsageFault)
deriving Repr, DecidableEq

/-! ### The options -/

/-- The options of every task. -/
def commonForms : List OptionForm := [
  { purpose := .config, long := "config", takesValue := true },
  { purpose := .set, long := "set", short := some 's', takesValue := true, repeatable := true,
    mayBeEmpty := true },
  { purpose := .verbose, long := "verbose", short := some 'v', repeatable := true },
  { purpose := .jsonLogs, long := "json-logs" },
  { purpose := .help, long := "help", short := some 'h' }]

/-- The options before the name of the task. -/
def topForms : List OptionForm :=
  commonForms ++ [{ purpose := .version, long := "version", short := some 'V' }]

/-- The options of the task that runs stages. -/
def execForms : List OptionForm :=
  commonForms ++ [
    { purpose := .source, long := "from", takesValue := true, mayBeEmpty := true },
    { purpose := .target, long := "to", takesValue := true, mayBeEmpty := true },
    { purpose := .output, long := "output", short := some 'o', takesValue := true }]

/-! ### One argument -/

/-- A part of an argument. -/
inductive Part where
  | word (text : String)
  /-- The mark behind which only words follow. -/
  | onlyWords
  /-- An option that is complete; one without a value has an empty one. -/
  | option (form : OptionForm) (value : String)
  /-- An option whose value is the next argument. -/
  | awaiting (form : OptionForm)
  | fault (f : UsageFault)
deriving Repr, DecidableEq

/-- An option by its long name, with the value behind an equals sign. -/
def longOption (forms : List OptionForm) (text : List Char) : Part :=
  let name := String.ofList (text.takeWhile (· != '='))
  let value := text.dropWhile (· != '=')
  match forms.find? fun form => form.long == name with
  | none => .fault (.unknownOption ("--" ++ name))
  | some form =>
    match form.takesValue, value with
    | false, [] => .option form ""
    | false, _ :: _ => .fault (.unexpectedValue form.long)
    | true, [] => .awaiting form
    | true, _ :: value => .option form (String.ofList value)

/-- Options by their letters. The first one that takes a value takes the rest of the cluster. -/
def cluster (forms : List OptionForm) : List Char → List Part
  | [] => []
  | c :: rest =>
    match forms.find? fun form => form.short == some c with
    | none => [.fault (.unknownOption (String.ofList ['-', c]))]
    | some form =>
      if form.takesValue then
        match rest with
        | [] => [.awaiting form]
        | '=' :: value => [.option form (String.ofList value)]
        | value => [.option form (String.ofList value)]
      else .option form "" :: cluster forms rest

/-- The parts of an argument. -/
def takeApart (forms : List OptionForm) (argument : String) : List Part :=
  match argument.toList with
  | ['-', '-'] => [.onlyWords]
  | '-' :: '-' :: text => [longOption forms text]
  | '-' :: c :: text => cluster forms (c :: text)
  | _ => [.word argument]

/-- Whether an argument can be the value of an option that stands before it. -/
def isValue (argument : String) : Bool := argument == "-" || argument.toList.head? != some '-'

/-! ### All arguments -/

/-- The options that were given, in order, with their values. -/
abbrev Given := List (Purpose × String)

namespace Given

/-- The values given for a purpose. -/
def values (g : Given) (p : Purpose) : List String :=
  (g.filter fun entry => entry.1 == p).map Prod.snd

/-- Whether an option was given. -/
def has (g : Given) (p : Purpose) : Bool := !(g.values p).isEmpty

/-- The options given here, and those of the other that are not given here at all. -/
def orElse (g other : Given) : Given := g ++ other.filter fun entry => !g.has entry.1

end Given

/-- What has been read of the arguments. -/
structure Reading where
  given : Given := []
  words : List String := []
  /-- The arguments behind the word that ended the reading. -/
  rest : List String := []
deriving Repr

namespace Reading

/-- Take an option in. -/
def accept (r : Reading) (form : OptionForm) (value : String) : Except Stop Reading :=
  if form.purpose = .help then .error (.request .help)
  else if form.purpose = .version then .error (.request .version)
  else if !form.repeatable && r.given.has form.purpose then
    .error (.fault (.repeatedOption form.long))
  else if form.takesValue && !form.mayBeEmpty && value.isEmpty then
    .error (.fault (.emptyValue ("--" ++ form.long)))
  else .ok { r with given := r.given ++ [(form.purpose, value)] }

/-- Take a word in. No more than `room` words are wanted, and none is empty. -/
def acceptWord (room : Nat) (r : Reading) (word : String) : Except Stop Reading :=
  if r.words.length < room then
    if word.isEmpty then .error (.fault (.emptyValue "INPUT"))
    else .ok { r with words := r.words ++ [word] }
  else .error (.fault (.unexpectedWord word))

/-- Take the complete options of an argument in, and find the one that waits for a value. -/
def acceptParts : Reading → List Part → Except Stop (Reading × Option OptionForm)
  | r, [] => .ok (r, none)
  | r, .option form value :: parts =>
    match r.accept form value with
    | .error stop => .error stop
    | .ok r => acceptParts r parts
  | r, .awaiting form :: _ => .ok (r, some form)
  | _, .fault f :: _ => .error (.fault f)
  | r, .word _ :: _ | r, .onlyWords :: _ => .ok (r, none)

/-- Read arguments. If `room` is not given, the first word ends the reading. -/
def readAll (forms : List OptionForm) (room : Option Nat) :
    Reading → List String → Except Stop Reading
  | r, [] => .ok r
  | r, argument :: rest =>
    match takeApart forms argument with
    | [.word word] =>
      match room with
      | none => .ok { r with words := [word], rest }
      | some room =>
        match r.acceptWord room word with
        | .error stop => .error stop
        | .ok r => readAll forms (some room) r rest
    | [.onlyWords] => rest.foldlM (acceptWord (room.getD 0)) r
    | parts =>
      match r.acceptParts parts with
      | .error stop => .error stop
      | .ok (r, none) => readAll forms room r rest
      | .ok (r, some form) =>
        match rest with
        | [] => .error (.fault (.missingValue form.long))
        | value :: rest =>
          if isValue value then
            match r.accept form value with
            | .error stop => .error stop
            | .ok r => readAll forms room r rest
          else .error (.fault (.missingValue form.long))

end Reading

/-! ### Tasks -/

/-- A task under the options that were given. -/
def invocation (given : Given) (task : Task) : Request :=
  .run {
    task
    configPath := (given.values .config).head?
    settings := given.values .set
    verbosity := (given.values .verbose).length
    jsonLogs := given.has .jsonLogs }

/-- A value that has to be given. -/
def needed (name : String) (value : Option String) : Except Stop String :=
  match value with
  | some value => .ok value
  | none => .error (.fault (.missingArgument name))

/-- Read the arguments of the task that runs stages. -/
def readExec (before : Given) (arguments : List String) : Except Stop Request := do
  let r ← Reading.readAll execForms (some 1) {} arguments
  let input ← needed "INPUT" r.words.head?
  let source ← needed "--from" (r.given.values .source).head?
  let target ← needed "--to" (r.given.values .target).head?
  return invocation (r.given.orElse before)
    (.exec input source target (r.given.values .output).head?)

/-- Read the arguments of a task that has none of its own. -/
def readPlain (before : Given) (task : Task) (arguments : List String) : Except Stop Request := do
  let r ← Reading.readAll commonForms (some 0) {} arguments
  return invocation (r.given.orElse before) task

/-- The names of the tasks. -/
def taskNames : List String := ["exec", "stages", "config", "help"]

/-- Read the arguments of the task that explains the others: the name of at most one. -/
def readHelp : List String → Except Stop Request
  | [] => .ok .help
  | name :: rest =>
    if name ∉ taskNames then .error (.fault (.unknownTask name))
    else
      match rest with
      | [] => .ok .help
      | next :: _ => .error (.fault (.unknownTask next))

/-- Read the arguments behind the name of a task. -/
def readTask (before : Given) (name : String) (arguments : List String) : Except Stop Request :=
  if name = "exec" then readExec before arguments
  else if name = "stages" then readPlain before .stages arguments
  else if name = "config" then readPlain before .config arguments
  else if name = "help" then readHelp arguments
  else .error (.fault (.unknownTask name))

/-- Read all arguments, or stop early. -/
def read (arguments : List String) : Except Stop Request := do
  let r ← Reading.readAll topForms none {} arguments
  match r.words with
  | name :: _ => readTask r.given name r.rest
  | [] => if r.given.isEmpty then return .nothing else .error (.fault .missingTask)

/-- What the arguments ask for. -/
def parse (arguments : List String) : Except UsageFault Request :=
  match read arguments with
  | .ok request => .ok request
  | .error (.request request) => .ok request
  | .error (.fault f) => .error f

/-- An option that is given at the task counts there alone. -/
theorem Given.values_orElse (g other : Given) (p : Purpose) :
    (g.orElse other).values p = if g.has p then g.values p else other.values p := by
  rw [orElse, values, List.filter_append, List.map_append, ← values, ← values]
  by_cases h : g.has p
  · rw [if_pos h]
    have none_left : values (other.filter fun entry => !g.has entry.1) p = [] := by
      rw [values, List.map_eq_nil_iff, List.filter_filter, List.filter_eq_nil_iff]
      rintro ⟨q, value⟩ _
      by_cases hq : q = p
      · subst hq
        simp [h]
      · simp [hq]
    rw [none_left, List.append_nil]
  · rw [if_neg h]
    have empty : g.values p = [] := by
      simpa [has] using h
    rw [empty, List.nil_append, values, List.filter_filter, values]
    congr 1
    apply List.filter_congr
    rintro ⟨q, value⟩ _
    by_cases hq : q = p
    · subst hq
      simp [h]
    · simp [hq]

end ArtifactPipeline.Program
