import ArtifactPipeline.Shell.Task
import ArtifactPipeline.Shell.Utility.Directories

/-!
# Links and the parts and places of names

A path name is taken apart as text: its last part, and what stands before it, whether or not it leads to
anything. Other programs make links, or say to where names lead.

* `lastPartOf` and `directoryOf` are the two parts, and `basename` and `dirname` write them;
* `ln` and `link` make links, `readlink` shows what is in one;
* `canonical` finds the location of a name, of which parts may be missing;
* `relativeName` is the way from one location to another.
-/

namespace ArtifactPipeline.Shell.Utility

/-! ### Parts of names -/

/-- The last part of a path name, without the slashes after it. -/
def lastPartOf (name : List Char) : List Char :=
  let bare := (name.reverse.dropWhile (· == '/')).reverse
  if bare.isEmpty then name.take 1 else (bare.reverse.takeWhile (· != '/')).reverse

/-- What stands before the last part of a path name, or a dot if nothing does. -/
def directoryOf (name : List Char) : List Char :=
  let above := (name.reverse.dropWhile (· == '/')).dropWhile (· != '/')
  let bare := (above.dropWhile (· == '/')).reverse
  if !bare.isEmpty then bare else if name.head? = some '/' then ['/'] else ['.']

/-- A name without an ending, unless nothing else is in it. -/
def withoutEnding (ending name : List Char) : List Char :=
  if ending.isSuffixOf name && ending.length < name.length then name.take (name.length - ending.length)
  else name

/-- The octet after each name that is written. -/
def endOfName (a : Arguments) : String := if a.has 'z' then "\x00" else "\n"

/-- The options of `basename`. -/
def basenameOptions : OptionTable where
  flags := "az"
  valued := "s"
  long := longNames "a=multiple s=suffix z=zero"

/-- The last parts of path names. -/
def basename : Utility := fun arguments => do
  let a ← Task.sorted false basenameOptions arguments fun _ _ => pure ()
  if a.operands.isEmpty then Task.misuse "missing operand"
  let several := a.has 'a' || a.has 's'
  if !several then Task.atMost 2 a.operands
  let ending := if several then (a.value? 's').getD "" else a.operands.getD 1 ""
  for name in (if several then a.operands else a.operands.take 1) do
    let last := lastPartOf name.toList
    let last := if last.head? = some '/' then last else withoutEnding ending.toList last
    Task.putText (String.ofList last ++ endOfName a)

/-- What stands before the last parts of path names. -/
def dirname : Utility := fun arguments => do
  let a ← Task.options { flags := "z", long := longNames "z=zero" } arguments
  if a.operands.isEmpty then Task.misuse "missing operand"
  for name in a.operands do
    Task.putText (String.ofList (directoryOf name.toList) ++ endOfName a)

/-! ### Locations of names -/

/-- Which parts of a name must lead to something. -/
inductive Presence where
  | all
  | allButLast
  | none
deriving Repr, DecidableEq

/-- Whether what stands after a part shows that the part must be a directory. -/
def asksDirectory (slash : Bool) : List String → Bool
  | [] => slash
  | "." :: rest => rest.isEmpty || asksDirectory slash rest
  | part :: _ => part == ".."

/-- How the location of a name is looked for. -/
structure Lookup where
  files : FileSystem
  presence : Presence
  /-- Whether links are followed. -/
  follows : Bool := true
  /-- Whether the name ends in a slash. -/
  slash : Bool := false

namespace Lookup

variable (k : Lookup)

/-- Whether a part that is missing is no fault. -/
def allows (rest : List String) (fault : IoFault) : Bool :=
  match k.presence with
  | .all => false
  | .none => true
  | .allButLast => fault == .notFound && rest.isEmpty

/-- Why a location cannot be used, where `directory` says that it must hold a directory. -/
def fault? (l : Location) (directory : Bool) : Option IoFault :=
  match k.files.node? l with
  | some .directory => none
  | some (.link _) =>
    match k.files.find (FileSystem.pathOf l) with
    | .ok (_, .directory) => none
    | _ => if directory then some .notDirectory else none
  | some _ => if directory then some .notDirectory else none
  | none =>
    match k.files.node? l.dropLast with
    | some .directory => some .notFound
    | none => some .notFound
    | some _ => some .notDirectory

/-- Follow parts from a location; `links` is the number of links that may still be followed. -/
def walk : (fuel : Nat) → (links : Nat) → Location → List String → Except IoFault Location
  | 0, _, _, _ => .error .tooManyLinks
  | _ + 1, _, here, [] => .ok here
  | fuel + 1, links, here, part :: rest =>
    if part = "." then walk fuel links here rest
    else if part = ".." then walk fuel links here.dropLast rest
    else
      let next := here ++ [part]
      match k.follows, k.files.node? next with
      | true, some (.link target) =>
        if links = 0 then .error .tooManyLinks
        else
          walk fuel (links - 1) (if Path.isAbsolute target then [] else here)
            ((Path.parts target).filter (· != "") ++ rest)
      | _, _ =>
        let checked := k.follows || rest.isEmpty || asksDirectory k.slash rest
        match if checked then k.fault? next (asksDirectory k.slash rest) else none with
        | some fault => if k.allows rest fault then walk fuel links next rest else .error fault
        | none => walk fuel links next rest

end Lookup

/-- The location of a name. -/
def canonical (files : FileSystem) (presence : Presence) (follows : Bool) (name : String) :
    Except IoFault Location :=
  let name := State.fileName name
  if name.isEmpty then .error .notFound
  else
    let parts := (Path.parts name).filter (· != "")
    let start := if Path.isAbsolute name then [] else files.workingDirectory
    let slash := Path.endsWithSlash name
    Lookup.walk { files, presence, follows, slash } (parts.length + 4096) 40 start parts

/-- The way from one location to another. -/
def relativeName (base target : Location) : String :=
  let rec common : List String → List String → List String × List String
    | a :: as, b :: bs => if a = b then common as bs else (a :: as, b :: bs)
    | as, bs => (as, bs)
  let (up, down) := common base target
  let parts := up.map (fun _ => "..") ++ down
  if parts.isEmpty then "." else String.intercalate "/" parts

theorem relativeName_self (l : Location) : relativeName l l = "." := by
  have h : ∀ l : List String, relativeName.common l l = ([], []) := by
    intro l
    induction l with
    | nil => rfl
    | cons a as ih => rw [relativeName.common, if_pos rfl, ih]
  simp [relativeName, h]

/-- The options of `realpath`. -/
def realpathOptions : OptionTable where
  flags := "eLmPqsz"
  long := longNames ("e=canonicalize-existing m=canonicalize-missing R=relative-to B=relative-base "
    ++ "q=quiet s=strip s=no-symlinks z=zero L=logical P=physical")
  valued := "RB"

/-- How names are looked for, as the options say. -/
structure PlaceRequest where
  presence : Presence := .allButLast
  follows : Bool := true
  logical : Bool := false

/-- Take in an option. -/
def PlaceRequest.with (r : PlaceRequest) (letter : Char) : PlaceRequest :=
  match letter with
  | 'e' => { r with presence := .all }
  | 'm' => { r with presence := .none }
  | 'L' => { r with follows := false, logical := true }
  | 's' => { r with follows := false, logical := false }
  | 'P' => { r with follows := true }
  | _ => r

/-- The location of a name. -/
def PlaceRequest.find (r : PlaceRequest) (files : FileSystem) (name : String) :
    Except IoFault Location := do
  let l ← canonical files r.presence r.follows name
  if r.logical then canonical files r.presence true (Octets.ofText (FileSystem.pathOf l)) else .ok l

/-- The location that an option names. -/
def namedLocation (r : PlaceRequest) (name : String) : Task Location := do
  let files := (← get).files
  match r.find files name with
  | .error fault => Task.fail (Quoting.name name ++ ": " ++ faultText fault)
  | .ok l =>
    if r.presence = .all ∧ files.node? l ≠ some .directory then
      Task.fail (Quoting.name name ++ ": Not a directory")
    else return l

/-- The locations of names. -/
def realpath : Utility := fun arguments => do
  let a ← Task.options realpathOptions arguments
  let r := a.options.foldl (fun r o => r.with o.1) ({} : PlaceRequest)
  if a.operands.isEmpty then Task.misuse "missing operand"
  let base? ← (a.value? 'B').mapM (namedLocation r)
  let start? ← match a.value? 'R' with
    | some name => pure (some (← namedLocation r name))
    | none => pure base?
  let start? := match base?, start? with
    | some base, some start => if base.isPrefixOf start then some start else none
    | _, start? => start?
  let ended := if a.has 'z' then "\x00" else "\n"
  for name in a.operands do
    match r.find (← get).files name with
    | .error fault => if a.has 'q' then Task.ends 1 else Task.unreadable name fault
    | .ok l =>
      let plain := FileSystem.pathOf l
      let within := base?.all fun base => base.isPrefixOf l
      Task.putText ((match start? with
        | some start => if within then Octets.ofText (relativeName start l) else Octets.ofText plain
        | none => Octets.ofText plain) ++ ended)

/-- The options of `readlink`. -/
def readlinkOptions : OptionTable where
  flags := "efmnqsvz"
  long := longNames ("f=canonicalize e=canonicalize-existing m=canonicalize-missing n=no-newline "
    ++ "q=quiet s=silent v=verbose z=zero")

/-- What links hold, or the locations of names. -/
def readlink : Utility := fun arguments => do
  let a ← Task.options readlinkOptions arguments
  if a.operands.isEmpty then Task.misuse "missing operand"
  let several := 1 < a.operands.length
  if several && a.has 'n' then Task.remark "ignoring --no-newline with multiple arguments"
  let verbose := (a.last? "qsv").any (·.1 == 'v')
  let ended := if a.has 'n' && !several then "" else if a.has 'z' then "\x00" else "\n"
  for name in a.operands do
    let files := (← get).files
    let found : Except IoFault String := match a.last? "efm" with
      | some (letter, _) =>
        let presence := if letter = 'e' then Presence.all else if letter = 'm' then .none else .allButLast
        (canonical files presence true name).map fun l => Octets.ofText (FileSystem.pathOf l)
      | none =>
        match files.findLink (State.fileName name) with
        | .error fault => .error fault
        | .ok (_, .link target) => .ok (Octets.ofText target)
        | .ok _ => .error .invalidArgument
    match found with
    | .ok text => Task.putText (text ++ ended)
    | .error fault => if verbose then Task.unreadable name fault else Task.ends 1

/-! ### Keeping what is replaced -/

/-- How the names are made under which what is replaced is kept. -/
inductive Keeping where
  | plain
  | numbered
  /-- With numbers where there are such names already. -/
  | asBefore
deriving Repr, DecidableEq

/-- Names under which what is replaced is kept. -/
structure Backup where
  keeping : Keeping := .asBefore
  suffix : String := "~"

/-- The number in a name under which something was kept. -/
def keptNumber? (last name : String) : Option Nat := do
  let rest ← Text.without? (last ++ ".~") name
  let digits := rest.toList.dropLast
  if rest.toList.getLast? = some '~' ∧ !digits.isEmpty ∧ digits.all Char.isDigit then
    some (Amount.ofDigits digits)
  else none

/-- The name under which what has a name in a directory is kept. -/
def Backup.nameFor (b : Backup) (files : FileSystem) (directory : Location) (last : String) : String :=
  let numbers := (files.list directory).filterMap fun (name, _) => keptNumber? last name
  let plain := last ++ State.fileName b.suffix
  let numbered := last ++ ".~" ++ toString (numbers.foldl max 0 + 1) ++ "~"
  match b.keeping with
  | .plain => plain
  | .numbered => numbered
  | .asBefore => if numbers.isEmpty then plain else numbered

/-- The names that options ask for, if they ask for any. The option for the way has the letter `\x11`. -/
def backupOf (a : Arguments) : Task (Option Backup) := do
  let mut found : Option Keeping := none
  for (letter, value) in a.options do
    if letter = 'b' ∨ (letter = '\x11' ∧ value = "") then found := some (found.getD .asBefore)
    else if letter = 'S' then found := some (found.getD .asBefore)
    else if letter = '\x11' then
      let words := [["none", "off"], ["simple", "never"], ["existing", "nil"], ["numbered", "t"]]
      match ← Task.wordLetter "backup type" words ['o', 's', 'e', 'n'] value with
      | 's' => found := some .plain
      | 'e' => found := some .asBefore
      | 'n' => found := some .numbered
      | _ => found := none
  return found.map fun keeping => { keeping, suffix := (a.value? 'S').getD "~" }

/-- Keep what is at a location under another name, and say which one that is, for a name that leads to the
location. -/
def keepAs (b : Backup) (l : Location) (target : String) : Task String := do
  let files := (← get).files
  let name := b.nameFor files l.dropLast (l.getLastD "")
  let kept := l.dropLast ++ [name]
  Task.change ((files.forget (· == kept)).move l kept)
  let start := match Text.splitLast '/' (Path.withoutEndSlashes target) with
    | some (before, _) => before ++ "/"
    | none => ""
  return start ++ Octets.ofText name

/-! ### Making links -/

/-- The options of `ln`. -/
def lnOptions : OptionTable where
  flags := "bdfFinrsvLPT"
  valued := "tS"
  optional := "\x11"
  long := longNames ("\x11=backup d=directory n=no-dereference T=no-target-directory f=force i=interactive "
    ++ "S=suffix t=target-directory L=logical P=physical r=relative s=symbolic v=verbose")

/-- The fault of a name that is in use. -/
def alreadyThere : IoFault := .other "File exists"

/-- Try to make a link. -/
def linkOnce (a : Arguments) (source target : String) : Task (Option IoFault) := do
  let files := (← get).files
  if a.has 's' then
    if source.isEmpty then return some .notFound
    match files.resolve (State.fileName target) with
    | .error fault => return some fault
    | .ok l =>
      if (files.node? l).isSome then return some alreadyThere
      if Path.endsWithSlash target then return some .notFound
      Task.change (files.bindLink l (State.fileName source))
      return none
  else
    match (if a.has 'L' then files.find else files.findLink) (State.fileName source) with
    | .error fault => return some fault
    | .ok (_, n) =>
      match files.resolve (State.fileName target) with
      | .error fault => return some fault
      | .ok l =>
        if (files.node? l).isSome then return some alreadyThere
        match n with
        | .directory => return some (.other "Operation not permitted")
        | .file id => Task.change (files.addName l id)
        | .link text => Task.change (files.bindLink l text)
        | _ => return some (.other "Invalid cross-device link")
        return none

/-- Report a link that cannot be made. -/
def noLink (a : Arguments) (source target : String) (fault : IoFault) : Task Unit :=
  let shown :=
    if a.has 's' then
      "symbolic link " ++ Quoting.always target
        ++ (if source.isEmpty then " -> " ++ Quoting.always source else "")
    else
      "hard link " ++ Quoting.always target
        ++ (if fault = alreadyThere then "" else " => " ++ Quoting.always source)
  Task.complain ("failed to create " ++ shown ++ ": " ++ faultText fault)

/-- The name of a source as a link at a target has to name it. -/
def relativeSource (files : FileSystem) (source target : String) : String :=
  let above := match Text.splitLast '/' (Path.withoutEndSlashes target) with
    | some (before, _) => if before.isEmpty then "/" else before
    | none => "."
  match canonical files .none true above, canonical files .none true source with
  | .ok base, .ok l => Octets.ofText (relativeName base l)
  | _, _ => source

/-- The number of names of the file with a number. -/
def namesOf (files : FileSystem) (id : Nat) : Nat :=
  files.nodes.foldl (fun n (_, node) => if node == .file id then n + 1 else n) 0

/-- Make a link, in the place of what is there if that is wanted. -/
def makeLink (a : Arguments) (backup : Option Backup) (tried : Option (Option IoFault))
    (source target : String) : Task Unit := do
  let files := (← get).files
  let relative := a.has 's' && a.has 'r'
  let first ← match tried with
    | some result => pure result
    | none => if relative then pure (some alreadyThere) else linkOnce a source target
  let shownLink (kept : Option String) (source : String) : Task Unit := do
    if a.has 'v' then
      Task.putLine ((match kept with
        | some name => Quoting.always name ++ " ~ "
        | none => "") ++ Quoting.always target ++ (if a.has 's' then " -> " else " => ")
        ++ Quoting.always source)
  match first with
  | none => shownLink none source
  | some fault =>
    let found := (if a.has 'L' then files.find else files.findLink) (State.fileName source)
    match a.has 's', found with
    | false, .error fault =>
      Task.complain ("failed to access " ++ Quoting.always source ++ ": " ++ faultText fault)
    | false, .ok (_, .directory) =>
      if a.hasAny "dF" then noLink a source target fault
      else Task.complain (Quoting.name source ++ ": hard link not allowed for directory")
    | symbolic, found =>
      let source := if relative then relativeSource files source target else source
      let finish (kept : Option String) : Task Unit := do
        match ← linkOnce a source target with
        | none => shownLink kept source
        | some fault => noLink a source target fault
      let there := files.findLink (State.fileName target)
      match a.hasAny "fi" || backup.isSome, there with
      | true, .ok (_, .directory) => Task.complain (Quoting.name target ++ ": cannot overwrite directory")
      | true, .ok (l, n) =>
        let origin := if symbolic then files.find (State.fileName source) else found
        let named := files.findLink (State.fileName source)
        let same := origin.toOption.any fun (k, m) => match m, n with
          | .file i, .file j =>
            i == j && (namesOf files i == 1 || named.toOption.any (·.1 == l))
          | m, n => k == l && m == n
        if (backup.isNone || !symbolic) && same then
          Task.complain (Quoting.always source ++ " and " ++ Quoting.always target ++ " are the same file")
        else
          let wanted ← if a.has 'i' then confirms ("replace " ++ Quoting.always target) else pure true
          if wanted then
            match backup with
            | some b => finish (some (← keepAs b l target))
            | none =>
              Task.change (files.forget (· == l))
              finish none
      | true, .error .notFound => finish none
      | true, .error fault =>
        Task.complain ("failed to access " ++ Quoting.always target ++ ": " ++ faultText fault)
      | false, _ => if relative then finish none else noLink a source target fault

/-- The last part of a name. -/
def lastPart (name : String) : String :=
  (Text.splitLast '/' (Path.withoutEndSlashes name)).elim (Path.withoutEndSlashes name) Prod.snd

/-- Make links in a directory. -/
def linkInto (a : Arguments) (backup : Option Backup) (directory : String) (sources : List String) :
    Task Unit :=
  sources.forM fun source => makeLink a backup none source (Path.join directory (lastPart source))

/-- Make links. -/
def ln : Utility := fun arguments => do
  let a ← Task.options lnOptions arguments
  let backup ← backupOf a
  let names := a.operands
  let leadsToDirectory (name : String) : Task (Except IoFault Unit) := do
    let files := (← get).files
    let found := (if a.has 'n' then files.findLink else files.find) (State.fileName name)
    return match found with
      | .ok (_, .directory) => .ok ()
      | .ok _ => .error .notDirectory
      | .error fault => .error fault
  if names.isEmpty then Task.misuse "missing file operand"
  match a.has 'T', a.value? 't', names with
  | true, some _, _ => Task.fail "cannot combine --target-directory and --no-target-directory"
  | true, none, [source, target] => makeLink a backup none source target
  | true, none, [source] =>
    Task.misuse ("missing destination file operand after " ++ Quoting.always source)
  | true, none, names => Task.misuse ("extra operand " ++ Quoting.always (names.getD 2 ""))
  | false, some directory, names =>
    match ← leadsToDirectory directory with
    | .ok () => linkInto a backup directory names
    | .error fault => Task.fail ("target " ++ Quoting.always directory ++ ": " ++ faultText fault)
  | false, none, [source] => linkInto a backup "." [source]
  | false, none, [source, target] =>
    let relative := a.has 's' && a.has 'r'
    let first ← if relative then pure (some alreadyThere) else linkOnce a source target
    let retried : Bool := match first with
      | none => false
      | some fault => fault == alreadyThere || fault == .notDirectory || fault == .invalidArgument
    if retried then
      match ← leadsToDirectory target with
      | .ok () => linkInto a backup target [source]
      | .error _ => makeLink a backup (if relative then none else some first) source target
    else makeLink a backup (some first) source target
  | false, none, names =>
    let target := names.getLast?.getD ""
    match ← leadsToDirectory target with
    | .ok () => linkInto a backup target names.dropLast
    | .error fault => Task.fail ("target " ++ Quoting.always target ++ ": " ++ faultText fault)

/-- Make one more name for a file. -/
def link : Utility := fun arguments => do
  let a ← Task.options { flags := "", long := longNames "" } arguments
  match a.operands with
  | [] => Task.misuse "missing operand"
  | [name] => Task.misuse ("missing operand after " ++ Quoting.text name)
  | source :: target :: rest =>
    Task.atMost 0 rest
    match ← linkOnce {} source target with
    | none => pure ()
    | some fault =>
      Task.fail ("cannot create link " ++ Quoting.always target ++ " to " ++ Quoting.always source
        ++ ": " ++ faultText fault)

end ArtifactPipeline.Shell.Utility
