import ArtifactPipeline.Text.Lines

/-!
# Path names

A path name is a text whose parts stand between slashes. It is absolute when it starts with a
slash, and then the way starts at the root; otherwise it starts at the working directory.
-/

namespace ArtifactPipeline.Path

/-- Whether the way starts at the root. -/
def isAbsolute (path : String) : Bool := path.toList.head? == some '/'

/-- The texts between the slashes, empty ones included. -/
def parts (path : String) : List String :=
  (Text.splitOn '/' path.toList).map String.ofList

/-- Whether the name ends with a slash. -/
def endsWithSlash (path : String) : Bool := path.toList.getLast? == some '/'

/-- The name without the slashes at its end. -/
def withoutEndSlashes (path : String) : String :=
  String.ofList (path.toList.reverse.dropWhile (· == '/')).reverse

/-- Whether the last part is the one for "here". -/
def endsHere (path : String) : Bool := (parts (withoutEndSlashes path)).getLast? == some "."

/-- The name that leads to `name` from `base`; an absolute `name` needs no base. -/
def join (base name : String) : String :=
  if isAbsolute name || base.isEmpty then name
  else if endsWithSlash base then base ++ name
  else base ++ "/" ++ name

/-- The last part that names something, if the path ends in one. -/
def fileName? (path : String) : Option String :=
  match (parts path).reverse.dropWhile (fun part => part.isEmpty || part == ".") with
  | [] => none
  | part :: _ => if part == ".." then none else some part

end ArtifactPipeline.Path
