import ArtifactPipeline.Config.Value
import ArtifactPipeline.Failure
import ArtifactPipeline.Text.Blank
import ArtifactPipeline.Text.Search
import ArtifactPipeline.Toml.Document

/-!
# Settings from the command line

An *override* is a text such as `wdb.host=host.cpp`: a dotted key, an equals sign, a value. The key
names a place in the configuration (`Override.path`); keys under `global` name a place there, and
all others a place in the table of stages. The value is read as a TOML value where it is one and
kept as a text otherwise (`readValue`).

`Override.layer` is the configuration layer that sets nothing but the override.
-/

namespace ArtifactPipeline.Config

/-- A setting for one place. -/
structure Override where
  path : List String
  value : Value

namespace Override

/-- The first part of the keys that do not belong to a stage. -/
def globalTable : String := "global"

/-- The table that holds the tables of the stages. -/
def stagesTable : String := "stages"

/-- The parts of a dotted key: two or more, none of them empty. -/
def keyParts? (key : String) : Option (List String) :=
  let parts := (Text.splitOn '.' (Text.trim key.toList)).map String.ofList
  if 2 ≤ parts.length ∧ "" ∉ parts then some parts else none

/-- The place that the parts of a key name. -/
def placeOf (parts : List String) : List String :=
  if parts.head? = some globalTable then parts else stagesTable :: parts

/-- The value that a text spells, or the text itself. -/
def readValue (text : String) : Value :=
  match Toml.parse ("v = " ++ text) with
  | some document => (document.get? "v").getD (.string text)
  | none => .string text

/-- Read an override. -/
def parse (text : String) : Except ConfigFailure Override :=
  match Text.splitOnce '=' text with
  | none => .error (.invalidOverride text)
  | some (key, value) =>
    match keyParts? key with
    | none => .error (.invalidOverride text)
    | some parts => .ok ⟨placeOf parts, readValue (Text.trimmed value)⟩

/-- A value under a path of keys. -/
def nest (path : List String) (value : Value) : Value :=
  path.foldr (fun key inner => .object [(key, inner)]) value

/-- The layer that sets the override and nothing else. -/
def layer (o : Override) : Value := nest o.path o.value

/-- A nested value stands at its path. -/
theorem getPath?_nest (path : List String) (value : Value) :
    (nest path value).getPath? path = some value := by
  induction path with
  | nil => rfl
  | cons key path ih =>
    rw [nest, List.foldr_cons, Value.getPath?_cons, Value.get?_object, Entries.lookup, if_pos rfl]
    exact ih

end Override

end ArtifactPipeline.Config
