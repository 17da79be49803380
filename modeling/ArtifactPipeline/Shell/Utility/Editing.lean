import ArtifactPipeline.Shell.Editing.Course
import ArtifactPipeline.Shell.Editing.Reader

/-!
# Edited lines

The program `sed` carries out a script on the lines of files, and writes what comes of them or puts it in
the place of the files.

* `takePieces` reads the pieces of a script from options, in their order;
* `sed` carries the script out.
-/

namespace ArtifactPipeline.Shell.Utility

open Editing

/-- The options of `sed`. -/
def sedOptions : OptionTable where
  flags := "bnsuzrE\x03\x04\x05\x06\x01\x02"
  valued := "efl"
  optional := "i"
  long := longNames ("b=binary \x04=debug e=expression f=file \x06=follow-symlinks i=in-place "
    ++ "l=line-length z=null-data n=quiet n=silent E=regexp-extended \x05=sandbox s=separate "
    ++ "u=unbuffered z=zero-terminated \x03=posix")

/-- The lines that tell how `sed` is used, after the first one. -/
def sedUsage : List String :=
  ["", "  -n, --quiet, --silent", "                 suppress automatic printing of pattern space",
    "      --debug", "                 annotate program execution",
    "  -e script, --expression=script",
    "                 add the script to the commands to be executed",
    "  -f script-file, --file=script-file",
    "                 add the contents of script-file to the commands to be executed",
    "  --follow-symlinks", "                 follow symlinks when processing in place",
    "  -i[SUFFIX], --in-place[=SUFFIX]",
    "                 edit files in place (makes backup if SUFFIX supplied)",
    "  -l N, --line-length=N",
    "                 specify the desired line-wrap length for the \x60l\x27 command", "  --posix",
    "                 disable all GNU extensions.", "  -E, -r, --regexp-extended",
    "                 use extended regular expressions in the script",
    "                 (for portability use POSIX -E).", "  -s, --separate",
    "                 consider files as separate rather than as a single,",
    "                 continuous long stream.", "      --sandbox",
    "                 operate in sandbox mode (disable e/r/w commands).", "  -u, --unbuffered",
    "                 load minimal amounts of data from the input files and flush",
    "                 the output buffers more often", "  -z, --null-data",
    "                 separate lines by NUL characters",
    "      --help     display this help and exit",
    "      --version  output version information and exit", "",
    "If no -e, --expression, -f, or --file option is given, then the first",
    "non-option argument is taken as the sed script to interpret.  All",
    "remaining arguments are names of input files; if no input files are",
    "specified, then the standard input is read.", ""]

/-- Tell how `sed` is used, and stop. -/
def tellSedUsage {α : Type} : Task α := do
  Task.note ("Usage: " ++ (← get).program
    ++ " [OPTION]... \x7bscript-only-if-no-other-script\x7d [input-file]...")
  for line in sedUsage do Task.note line
  Task.ends 1
  Task.stop

/-- Report why nothing can be done, and stop with a status. -/
def refuse {α : Type} (status : Nat) (text : String) : Task α := do
  Task.faultsEndWith status
  Task.fail text

/-- Report that a file cannot be opened, and stop. -/
def refuseFile {α : Type} (name : String) (fault : IoFault) : Task α :=
  refuse 4 ("couldn't open file " ++ name ++ ": " ++ faultText fault)

/-- Open the files to which a script writes. -/
def openOutlets (names : List String) : Task (List Outlet) := do
  let outlets ← names.eraseDups.mapM fun name => do
    let number ← match name with
      | "/dev/stdout" => return (← get).toMachine.number? 1 |>.map fun number => { name, number }
      | "/dev/stderr" => return (← get).toMachine.number? 2 |>.map fun number => { name, number }
      | name => Task.openName .replace name
    match number with
    | .ok number => return some { name, number : Outlet }
    | .error fault => refuseFile name fault
  return outlets.filterMap id

/-- Take in a piece of a script. -/
def takePiece (d : Draft) (origin : PieceSource) (text : String) : Task Draft := do
  match d.readPiece origin text with
  | (.ok (), d) => return d
  | (.error fault, d) =>
    discard (openOutlets (writtenFiles d.orders))
    match fault with
    | .pattern .bareClass => refuse 4 fault.message
    | _ => refuse 1 (d.report fault)

/-- The script that options give, with its first piece and the number of arguments among its pieces. -/
def takePieces : (options : List (Char × String)) → (d : Draft) → (first : Option String) → (count : Nat) →
    Task (Draft × Option String × Nat)
  | [], d, first, count => return (d, first, count)
  | (letter, value) :: rest, d, first, count => do
    match letter with
    | 'E' | 'r' => takePieces rest { d with extended := true } first count
    | '\x05' => takePieces rest { d with guarded := true } first count
    | 'e' => takePieces rest (← takePiece d (.argument (count + 1)) value) (first.or value) (count + 1)
    | 'f' =>
      match ← Task.readOperand value with
      | .ok bytes =>
        let text := textOf bytes
        takePieces rest (← takePiece d (.file value) text) (first.or text) count
      | .error .isDirectory => takePieces rest d (first.or "") count
      | .error fault => refuseFile value fault
    | _ => takePieces rest d first count

/-- The name of a label that is missing, to which the last of such jumps would lead. -/
def missingLabel? (script : Array Order) : Option String :=
  (script.toList.reverse.filterMap fun order => match order.command with
    | .jump _ name => if name = "" ∨ (labelPlace? script name).isSome then none else some name
    | _ => none).head?

/-- The columns that a text tells; without digits at its start there is no limit. -/
def columnLimit (text : String) : Nat := Amount.ofDigits (text.toList.takeWhile Char.isDigit)

/-- Carry out a script on the lines of files. -/
def sed : Utility := fun arguments => do
  let a := sedOptions.read true (arguments.length + 1) arguments
  let (draft, first, count) ← takePieces a.options {} none 0
  match a.fault with
  | some fault =>
    Task.remark fault.message
    tellSedUsage
  | none => pure ()
  let (draft, first, operands) ← match first, a.operands with
    | some first, operands => pure (draft, first, operands)
    | none, [] => tellSedUsage
    | none, text :: operands => pure (← takePiece draft (.argument (count + 1)) text, text, operands)
  let script ← match draft.script with
    | .ok script => pure script
    | .error text => refuse 1 text
  match missingLabel? script with
  | some name => refuse 4 ("can't find label for jump to " ++ marked name)
  | none => pure ()
  let outlets ← openOutlets (writtenFiles script)
  let replaces := a.value? 'i'
  if replaces.isSome && operands.isEmpty then refuse 4 "no input files"
  let r : EditRequest := {
    script
    place := draft.lastPlace
    silent := a.has 'n' || Text.startsWith first "#n"
    separate := a.has 's' || replaces.isSome
    replaces
    followsLinks := a.has '\x06'
    sparing := a.has 'u'
    mark := if a.has 'z' then 0 else 0x0A
    width := ((a.value? 'l').map columnLimit).getD 70 }
  discard (StateT.run (Editor.edit r) {
    files := if operands.isEmpty then ["-"] else operands
    ranges := Editor.startRanges r
    outlets })

end ArtifactPipeline.Shell.Utility
