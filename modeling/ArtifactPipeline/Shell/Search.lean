import ArtifactPipeline.Shell.State
import ArtifactPipeline.Shell.Utility.Table

/-!
# Searching programs

The name of a command leads to one of the programs that every machine has, or to a file that somebody
may carry out. A name with a slash in it is a path name; any other one is looked up in directories, one
after another.
-/

namespace ArtifactPipeline.Shell

/-- What the name of a command leads to. -/
inductive Search where
  /-- A program that every machine has, and the name of its file. -/
  | program (name file : String)
  /-- A file that can be carried out. -/
  | script (file : String)
  /-- Nothing that can be carried out. -/
  | failed (fault : IoFault)

/-- The fault of a file that cannot be carried out. -/
def accessDenied : IoFault := .other "Permission denied"

/-- The directories in which programs are searched when nothing else is said. -/
def usualPath : String := "/usr/local/sbin:/usr/local/bin:/usr/sbin:/usr/bin:/sbin:/bin"

/-- The directories that hold the programs. -/
def programDirectories : List Location := [["usr", "bin"], ["bin"]]

/-- The program that a path name leads to. -/
def programAt? (files : FileSystem) (file : String) : Option String :=
  match Text.splitLast '/' file with
  | some (directory, name) =>
    if !Utility.programs.contains name then none
    else
      match files.find (State.fileName (if directory.isEmpty then "/" else directory)) with
      | .ok (l, .directory) => if programDirectories.contains l then some name else none
      | _ => none
  | none => none

/-- What a path name leads to. -/
def searchFile (files : FileSystem) (file : String) : Search :=
  match programAt? files file with
  | some program => .program program file
  | none =>
    match files.find (State.fileName file) with
    | .ok (_, .file id) => if files.isExecutable id then .script file else .failed accessDenied
    | .ok _ => .failed accessDenied
    | .error fault => .failed fault

/-- What a name leads to that is looked up in directories. What cannot be carried out is passed over,
and remembered. -/
def searchDirectories (files : FileSystem) (name : String) :
    (fault : IoFault) → List String → Search
  | fault, [] => .failed fault
  | fault, d :: rest =>
    match searchFile files (if d.isEmpty then name else d ++ "/" ++ name) with
    | .failed .notFound | .failed .notDirectory => searchDirectories files name fault rest
    | .failed fault => searchDirectories files name fault rest
    | found => found

/-- What a name leads to, given the directories in which it is looked up. -/
def searchIn (files : FileSystem) (path : String) (name : String) : Search :=
  if name.toList.contains '/' then searchFile files name
  else searchDirectories files name .notFound (colonParts path)

/-- What the name of a command leads to. -/
def searchProgram (s : State) (name : String) : Search :=
  match s.valueOf? "PATH" with
  | some path => searchIn s.files path name
  | none => if name.toList.contains '/' then searchFile s.files name else .failed .notFound

/-- The program and the arguments that carry out a script: those that its first line names, or the
shell. -/
def interpreterOf (bytes : Bytes) : List String :=
  match (Octets.ofBytes (bytes.takeWhile (· != 0x0A))).toList with
  | '#' :: '!' :: line =>
    let isBlank (c : Char) : Bool := c == ' ' || c == '\t'
    let line := (line.dropWhile isBlank).reverse.dropWhile isBlank |>.reverse
    let file := line.takeWhile fun c => !isBlank c
    let argument := (line.drop file.length).dropWhile isBlank
    if file.isEmpty then ["/bin/sh"]
    else String.ofList file :: (if argument.isEmpty then [] else [String.ofList argument])
  | _ => ["/bin/sh"]

end ArtifactPipeline.Shell
