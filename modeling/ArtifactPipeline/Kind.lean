/-!
# Kinds of artifact

An artifact travels between the steps of a pipeline as a value of one of five kinds. `Kind.all`
lists them in the order in which they are declared; each has a display name and a written name,
and `ofName?` reads the written one back (`ofName?_name`).
-/

namespace ArtifactPipeline

/-- The kind of value that an artifact has at one moment. -/
inductive Kind where
  /-- The name of a file or directory. -/
  | path
  /-- A handle to a directory. -/
  | directory
  /-- Octets that can be read once. -/
  | stream
  /-- A decoded text. -/
  | string
  /-- A value that only its owner understands, such as an open connection. -/
  | untyped
deriving Repr, DecidableEq, Inhabited

namespace Kind

/-- Every kind, in order of declaration. -/
def all : List Kind := [path, directory, stream, string, untyped]

theorem mem_all (k : Kind) : k ∈ all := by cases k <;> simp [all]

/-- The name shown in messages. -/
def display : Kind → String
  | path => "Path"
  | directory => "Directory"
  | stream => "Stream"
  | string => "String"
  | untyped => "Untyped"

instance : ToString Kind := ⟨display⟩

/-- The written name. -/
def name : Kind → String
  | path => "path"
  | directory => "directory"
  | stream => "stream"
  | string => "string"
  | untyped => "untyped"

/-- The kind with a written name. -/
def ofName? (s : String) : Option Kind := all.find? fun k => k.name == s

@[simp] theorem ofName?_name (k : Kind) : ofName? k.name = some k := by cases k <;> decide

/-- The place of a kind among all. -/
def position : Kind → Nat
  | path => 0
  | directory => 1
  | stream => 2
  | string => 3
  | untyped => 4

theorem all_getElem?_position (k : Kind) : all[k.position]? = some k := by cases k <;> rfl

/-- Whether a value of kind `k` may stand where `expected` is declared: anything may stand where
no particular kind is asked for. -/
def accepts (expected k : Kind) : Bool := expected == untyped || expected == k

theorem accepts_iff {expected k : Kind} :
    expected.accepts k = true ↔ expected = untyped ∨ expected = k := by
  simp [accepts]

end Kind

end ArtifactPipeline
