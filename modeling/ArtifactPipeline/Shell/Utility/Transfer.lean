import ArtifactPipeline.Shell.Utility.Attributes
import ArtifactPipeline.Shell.Utility.Links

/-!
# Copies and moves

Programs that copy what path names lead to, or give it other names. The last operand is the new name, or a
directory in which everything keeps the last part of its name.

* `copyItem` copies a file, a link or a directory with all that is in it;
* `moveItem` gives it another name.
-/

namespace ArtifactPipeline.Shell.Utility

/-- What is done where a name is in use already. -/
inductive Overwriting where
  | replaces
  | asks
  | skips
  /-- Only what has changed since is replaced. -/
  | updates
deriving Repr, DecidableEq

/-- How things are copied or moved. -/
structure Transfer where
  deep : Bool := false
  verbose : Bool := false
  overwriting : Overwriting := .replaces
  /-- Whether links are copied as links. -/
  keepsLinks : Bool := false
  /-- Whether permissions are kept. -/
  keepsModes : Bool := false
  /-- Whether new names are made for the same files. -/
  links : Bool := false
  /-- Whether links are made to the files. -/
  symbolic : Bool := false
  /-- Whether nothing of what is in files is copied. -/
  onlyAttributes : Bool := false
  /-- The names under which what is replaced is kept. -/
  backup : Option Backup := none

namespace Transfer

variable (t : Transfer)

/-- Show what has got which name. -/
def showPair (start source target : String) (kept : Option String) : Task Unit :=
  if t.verbose then
    Task.putLine (start ++ Quoting.always source ++ " -> " ++ Quoting.always target
      ++ match kept with
        | some name => " (backup: " ++ Quoting.always name ++ ")"
        | none => "")
  else pure ()

/-- Whether what is there may be replaced. -/
def mayReplace (moves : Bool) (target : String) : Task Bool :=
  match t.overwriting with
  | .replaces => return true
  | .asks => do
    let wanted ← confirms ("overwrite " ++ Quoting.always target)
    if !wanted then Task.ends 1
    return wanted
  | .skips => do
    if moves then Task.complain ("not replacing " ++ Quoting.always target)
    return false
  | .updates => return false

/-- Report two names that lead to the same. -/
def sameFile (source target : String) : Task Unit :=
  Task.complain (Quoting.always source ++ " and " ++ Quoting.always target ++ " are the same file")

/-- Report a directory that would replace something else, or the other way round. -/
def kindsDiffer (sourceIsDirectory : Bool) (source target : String) : Task Unit :=
  Task.complain (
    if sourceIsDirectory then
      "cannot overwrite non-directory " ++ Quoting.always target ++ " with directory "
        ++ Quoting.always source
    else "cannot overwrite directory " ++ Quoting.always target ++ " with non-directory")

/-- Whether two nodes are the same file. -/
def isSame (l k : Location) (n m : Node) : Bool :=
  match n, m with
  | .file i, .file j => i == j
  | _, _ => l == k && n == m

end Transfer

/-! ### Copies -/

/-- The permission of a copy of something. -/
def copiedMode (t : Transfer) (files : FileSystem) (l : Location) (n : Node) : Nat :=
  let mode := modeAt files l n
  if t.keepsModes then mode else Permission.without (Nat.land mode 511) files.umask

/-- Write what is in a file to another one. -/
def copyContents (t : Transfer) (source target : String) (l : Location) (n : Node) : Task Unit := do
  let before := (← get).files
  let isNew := !before.has (State.fileName target)
  let bytes ←
    if t.onlyAttributes then pure (.ok [])
    else
      match ← Task.openName .read source with
      | .ok number => Task.takeAll number
      | .error fault => pure (.error fault)
  match bytes with
  | .error fault =>
    Task.complain ("cannot open " ++ Quoting.always source ++ " for reading: " ++ faultText fault)
  | .ok bytes =>
    match ← Task.openName .replace target with
    | .error fault =>
      let fault := if fault == .isDirectory && Path.endsWithSlash target then .notDirectory else fault
      Task.complain ("cannot create regular file " ++ Quoting.always target ++ ": " ++ faultText fault)
    | .ok number =>
      match ← Task.writeTo number bytes with
      | .error fault =>
        Task.complain ("error writing " ++ Quoting.always target ++ ": " ++ faultText fault)
      | .ok _ =>
        let files := (← get).files
        if isNew || t.keepsModes then
          match files.find (State.fileName target) with
          | .ok (k, m) => Task.change (setModeAt files k (copiedMode t before l n) m)
          | .error _ => pure ()

/-- Put a link in the place of a copy. -/
def copyAsLink (t : Transfer) (source target : String) (n : Node) : Task Unit := do
  let files := (← get).files
  let fail (kind : String) (fault : IoFault) : Task Unit :=
    Task.complain ("cannot create " ++ kind ++ " " ++ Quoting.always target ++ ": " ++ faultText fault)
  match files.resolve (State.fileName target), n with
  | .error fault, _ => fail (if t.links then "hard link" else "symbolic link") fault
  | .ok k, .file id =>
    if t.links then Task.change (files.addName k id)
    else if !Path.isAbsolute source && target.toList.contains '/' then
      Task.complain (Quoting.name target
        ++ ": can make relative symbolic links only in current directory")
    else Task.change (files.bindLink k (State.fileName source))
  | .ok k, .link text => Task.change (files.bindLink k text)
  | .ok _, _ => fail "hard link" (.other "Operation not permitted")

/-- Copy what a name leads to. `top` are the names of the directory with which copying started, and the
location of its copy. -/
def copyItem (t : Transfer) : (fuel : Nat) → (top : Option (String × String × Location)) →
    (source target : String) → Task Unit
  | 0, _, _, _ => pure ()
  | fuel + 1, top, source, target => do
    let files := (← get).files
    match (if t.keepsLinks then files.findLink else files.find) (State.fileName source) with
    | .error fault =>
      if (Machine.namedChannel? source).isSome then
        t.showPair "" source target none
        copyContents t source target [] .sink
      else Task.complain ("cannot stat " ++ Quoting.always source ++ ": " ++ faultText fault)
    | .ok (l, n) =>
      let isDirectory := n == .directory
      if isDirectory && !t.deep then
        Task.complain ("-r not specified; omitting directory " ++ Quoting.always source)
        return
      let asLink := t.links || t.symbolic || (match n with
        | .link _ => true
        | _ => false)
      let replaced := (if asLink || t.backup.isSome then files.findLink else files.find)
        (State.fileName target)
      let (going, kept) ← match replaced with
        | .error .notFound =>
          if isDirectory || asLink || (files.findLink (State.fileName target)).toOption.isNone then
            pure (true, none)
          else
            Task.complain ("not writing through dangling symlink " ++ Quoting.always target)
            pure (false, none)
        | .error fault =>
          Task.complain ("cannot stat " ++ Quoting.always target ++ ": " ++ faultText fault)
          pure (false, none)
        | .ok (k, m) =>
          if !isDirectory && Transfer.isSame l k n m then
            if t.overwriting = .skips then pure (false, none)
            else
              Transfer.sameFile source target
              pure (false, none)
          else if isDirectory then
            if m == .directory then
              if l == k && top.isNone then
                Task.complain ("cannot copy a directory, " ++ Quoting.always source ++ ", into itself, "
                  ++ Quoting.always target)
                pure (false, none)
              else pure (true, none)
            else if t.overwriting = .skips then pure (false, none)
            else
              Transfer.kindsDiffer true source target
              pure (false, none)
          else if m == .directory then
            Transfer.kindsDiffer false source target
            pure (false, none)
          else if ← t.mayReplace false target then
            match t.backup with
            | some b => pure (true, some (← keepAs b k target))
            | none =>
              if asLink then Task.change (files.forget (· == k))
              pure (true, none)
          else pure (false, none)
      if !going then return
      if isDirectory then
        let made : Except IoFault (Location × Bool) := match replaced with
          | .ok (k, _) => .ok (k, false)
          | .error _ =>
            (files.resolve (State.fileName (Path.withoutEndSlashes target))).map fun k => (k, true)
        match made with
        | .error fault =>
          Task.complain ("cannot create directory " ++ Quoting.always target ++ ": " ++ faultText fault)
        | .ok (k, isNew) =>
          if isNew then
            let mode := copiedMode t files l n
            Task.change ((files.addDirectory k).setDirectoryMode k mode)
            t.showPair "" source target none
          let top := top.getD (source, target, k)
          for (part, m) in (← get).files.list l do
            if m == .directory && l ++ [part] == top.2.2 then
              Task.complain ("cannot copy a directory, " ++ Quoting.always top.1 ++ ", into itself, "
                ++ Quoting.always top.2.1)
            else
              let name := Octets.ofText part
              copyItem t fuel (some top) (Path.join source name) (Path.join target name)
      else
        t.showPair "" source target kept
        if asLink then copyAsLink t source target n else copyContents t source target l n

/-! ### Moves -/

/-- Give what a name leads to another name. -/
def moveItem (t : Transfer) (source target : String) : Task Unit := do
  let files := (← get).files
  let pair := Quoting.always source ++ " to " ++ Quoting.always target
  let last := (Path.parts (Path.withoutEndSlashes source)).getLast?
  match files.findLink (State.fileName source), files.findLink (State.fileName target) with
  | .error fault, _ => Task.complain ("cannot stat " ++ Quoting.always source ++ ": " ++ faultText fault)
  | .ok (l, n), .ok (k, m) =>
    if Transfer.isSame l k n m then Transfer.sameFile source target
    else if l.isPrefixOf k then
      Task.complain ("cannot move " ++ Quoting.always source ++ " to a subdirectory of itself, "
        ++ Quoting.always target)
    else if !(← t.mayReplace true target) then pure ()
    else if (n == .directory) != (m == .directory) && t.backup.isNone then
      Transfer.kindsDiffer (n == .directory) source target
    else
      match m with
      | .sink => copyContents t source target l n
      | .zeros => copyContents t source target l n
      | _ =>
        if m == .directory && isFilled files k then
          Task.complain ("cannot overwrite " ++ Quoting.always target ++ ": Directory not empty")
        else
          let kept ← t.backup.mapM fun b => keepAs b k target
          Task.change (((← get).files.forget (· == k)).move l k)
          t.showPair "renamed " source target kept
  | .ok (l, n), .error .notFound =>
    match files.resolve (State.fileName (Path.withoutEndSlashes target)) with
    | .error fault => Task.complain ("cannot move " ++ pair ++ ": " ++ faultText fault)
    | .ok k =>
      if last == some "." || last == some ".." || l.isEmpty then
        Task.complain ("cannot move " ++ pair ++ ": Device or resource busy")
      else if Path.endsWithSlash target && n != .directory then
        Task.complain ("cannot move " ++ pair ++ ": Not a directory")
      else if l.isPrefixOf k then
        Task.complain ("cannot move " ++ Quoting.always source ++ " to a subdirectory of itself, "
          ++ Quoting.always target)
      else
        Task.change (files.move l k)
        t.showPair "renamed " source target none
  | .ok _, .error fault =>
    Task.complain ("cannot stat " ++ Quoting.always target ++ ": " ++ faultText fault)

/-! ### Programs -/

/-- The name that a source gets in a directory. -/
def nameIn (directory source : String) : String :=
  let last := lastPart source
  if last = ".." then directory else Path.join directory last

/-- Sort operands into sources and targets, and do something with each pair. -/
def transferAll (a : Arguments) (use : String → String → Task Unit) : Task Unit := do
  let strip (name : String) : String := if a.has 'Z' then Path.withoutEndSlashes name else name
  let names := a.operands
  let leadsToDirectory (name : String) : Task (Except IoFault Unit) := do
    return match ← Task.find name with
      | .ok (_, .directory) => .ok ()
      | .ok _ => .error .notDirectory
      | .error fault => .error fault
  if names.isEmpty then Task.misuse "missing file operand"
  if names.length = 1 ∧ !a.has 't' then
    Task.misuse ("missing destination file operand after " ++ Quoting.always (names.headD ""))
  let into (directory : String) (sources : List String) : Task Unit := do
    let mut made : List Location := []
    for source in sources do
      let source := strip source
      let target := nameIn directory source
      let files := (← get).files
      let isFile := (files.findLink (State.fileName source)).toOption.any fun (_, n) => n != .directory
      match files.findLink (State.fileName target) with
      | .ok (k, _) =>
        if made.contains k && isFile then
          Task.complain ("will not overwrite just-created " ++ Quoting.always target ++ " with "
            ++ Quoting.always source)
        else
          use source target
          made := k :: made
      | .error _ =>
        use source target
        match (← get).files.findLink (State.fileName target) with
        | .ok (k, _) => made := k :: made
        | .error _ => pure ()
  match a.has 'T', a.value? 't' with
  | true, some _ =>
    Task.fail "cannot combine --target-directory (-t) and --no-target-directory (-T)"
  | true, none =>
    match names with
    | [source, target] => use (strip source) target
    | names => Task.misuse ("extra operand " ++ Quoting.always (names.getD 2 ""))
  | false, some directory =>
    match ← leadsToDirectory directory with
    | .ok () => into directory names
    | .error fault =>
      Task.fail ("target directory " ++ Quoting.always directory ++ ": " ++ faultText fault)
  | false, none =>
    let target := names.getLast?.getD ""
    match ← leadsToDirectory target with
    | .ok () => into target names.dropLast
    | .error fault =>
      match names with
      | [source, target] => use (strip source) target
      | _ => Task.fail ("target " ++ Quoting.always target ++ ": " ++ faultText fault)

/-- What is done where names are in use, as the options say. -/
def overwritingOf (a : Arguments) : Task Overwriting := do
  let mut found := Overwriting.replaces
  for (letter, value) in a.options do
    match letter with
    | 'f' => if found = .asks then found := .replaces
    | 'i' => found := .asks
    | 'n' => found := .skips
    | 'u' =>
      let word ← if value = "" then pure 'o'
        else Task.wordLetter "--update" [["all"], ["none"], ["older"]] ['a', 'n', 'o'] value
      if found != .skips then
        found := if word = 'a' then .replaces else if word = 'n' then .updates else .updates
    | _ => pure ()
  return found

/-- The options of `cp`. -/
def cpOptions : OptionTable where
  flags := "abdfilnprsuvxHLPRTZ"
  valued := "tS\x1B\x1D"
  optional := "\x11\x12\x13\x19\x1C"
  long := longNames ("a=archive \x11=backup b=b n=no-clobber f=force i=interactive l=link L=dereference "
    ++ "P=no-dereference T=no-target-directory x=one-file-system \x12=preserve r=recursive "
    ++ "R=recursive s=symbolic-link Z=strip-trailing-slashes S=suffix t=target-directory "
    ++ "\x13=update v=verbose A=attributes-only y=parents D=remove-destination "
    ++ "\x19=context \x1B=no-preserve \x1C=reflink \x1D=sparse")

/-- Copy files and directories. -/
def cp : Utility := fun arguments => do
  let given ← Task.options cpOptions arguments
  let renamed := given.options.map fun (letter, value) =>
    if letter = '\x13' then ('u', value) else (letter, value)
  let a := { given with options := renamed }
  let overwriting ← overwritingOf a
  let backup ← backupOf a
  if (a.last? "ni").any (·.1 == 'n') then
    Task.remark ("warning: behavior of -n is non-portable and may change in future; "
      ++ "use --update=none instead")
  let deep := a.hasAny "arR"
  let t : Transfer := {
    deep
    verbose := a.has 'v'
    overwriting
    keepsLinks := match a.last? "aPdLH" with
      | some (letter, _) => letter != 'L' && letter != 'H'
      | none => deep && !a.has 'l'
    keepsModes := a.hasAny "ap\x12"
    links := a.has 'l'
    symbolic := a.has 's'
    onlyAttributes := a.has 'A'
    backup }
  let fuel := (← get).files.nodes.length + 2
  if a.has 'y' && !a.has 't' && a.operands.length == 2
      && !(← Task.isDirectory (a.operands.getLast?.getD "")) then
    Task.misuse "with --parents, the destination must be a directory"
  transferAll a fun source target => do
    let directory := (a.value? 't').getD (a.operands.getLast?.getD "")
    let target := if a.has 'y' then Path.join directory source else target
    if a.has 'y' then
      for way in (waysTo source).dropLast do
        let files := (← get).files
        match files.resolve (State.fileName (Path.join directory way)) with
        | .ok l =>
          if (files.node? l).isNone then
            Task.change (files.addDirectory l)
            if a.has 'v' then Task.putLine (way ++ " -> " ++ Path.join directory way)
        | .error _ => pure ()
    copyItem t fuel none source target

/-- The options of `mv`. -/
def mvOptions : OptionTable where
  flags := "bfinuvTZN"
  valued := "tS"
  optional := "\x11\x13\x19"
  long := longNames ("\x11=backup f=force i=interactive n=no-clobber T=no-target-directory "
    ++ "Z=strip-trailing-slashes S=suffix t=target-directory \x13=update v=verbose "
    ++ "N=no-copy \x19=context")

/-- Move files and directories. -/
def mv : Utility := fun arguments => do
  let given ← Task.options mvOptions arguments
  let renamed := given.options.map fun (letter, value) =>
    if letter = '\x13' then ('u', value) else (letter, value)
  let a := { given with options := renamed }
  let overwriting ← overwritingOf a
  let backup ← backupOf a
  let t : Transfer := {
    deep := true
    verbose := a.has 'v'
    overwriting := match overwriting, a.last? "fin" with
      | .asks, some ('f', _) => .replaces
      | overwriting, _ => overwriting
    keepsLinks := true
    keepsModes := true
    backup }
  transferAll a (moveItem t)

end ArtifactPipeline.Shell.Utility
