import ArtifactPipeline.Kind
import ArtifactPipeline.Remote.Target
import ArtifactPipeline.Stream

/-!
# Sources

A `Source` is an artifact on its way through a pipeline: a value together with its kind. The value
of the untyped kind is a `Payload`; whoever wants to use one says which type it has to have
(`PayloadType`), and a payload of another type is refused.
-/

namespace ArtifactPipeline

/-- A value that only its owner understands. -/
inductive Payload where
  | integer (n : Int64)
  | text (s : String)
  | session (s : Remote.Session)
deriving DecidableEq

/-- A type that a payload can have, with the way in and the way out. -/
structure PayloadType (α : Type) where
  /-- The name used in messages. -/
  name : String
  unwrap : Payload → Option α
  wrap : α → Payload
  unwrap_wrap : ∀ a, unwrap (wrap a) = some a

namespace PayloadType

/-- Whole numbers of 64 bits. -/
def integer : PayloadType Int64 where
  name := "i64"
  unwrap
    | .integer n => some n
    | _ => none
  wrap := .integer
  unwrap_wrap _ := rfl

/-- Texts. -/
def text : PayloadType String where
  name := "alloc::string::String"
  unwrap
    | .text s => some s
    | _ => none
  wrap := .text
  unwrap_wrap _ := rfl

/-- Open sessions. -/
def session : PayloadType Remote.Session where
  name := "stagewright::remote::session::RemoteSession"
  unwrap
    | .session s => some s
    | _ => none
  wrap := .session
  unwrap_wrap _ := rfl

end PayloadType

/-- An artifact together with its kind. -/
inductive Source where
  | path (name : String)
  | directory (name : String)
  | stream (s : Stream)
  | string (s : String)
  | untyped (p : Payload)
deriving DecidableEq

namespace Source

/-- The kind of an artifact. -/
def kind : Source → Kind
  | path _ => .path
  | directory _ => .directory
  | stream _ => .stream
  | string _ => .string
  | untyped _ => .untyped

@[simp] theorem kind_path (name : String) : (path name).kind = .path := rfl

@[simp] theorem kind_directory (name : String) : (directory name).kind = .directory := rfl

@[simp] theorem kind_stream (s : Stream) : (stream s).kind = .stream := rfl

@[simp] theorem kind_string (s : String) : (string s).kind = .string := rfl

@[simp] theorem kind_untyped (p : Payload) : (untyped p).kind = .untyped := rfl

/-- The name, if the artifact is a path. -/
def asPath? : Source → Option String
  | path name => some name
  | _ => none

/-- The name, if the artifact is a directory. -/
def asDirectory? : Source → Option String
  | directory name => some name
  | _ => none

/-- The stream, if the artifact is one. -/
def asStream? : Source → Option Stream
  | stream s => some s
  | _ => none

/-- The text, if the artifact is one. -/
def asString? : Source → Option String
  | string s => some s
  | _ => none

/-- The payload as a value of a type, if it is one. -/
def asPayload? {α : Type} (t : PayloadType α) : Source → Option α
  | untyped p => t.unwrap p
  | _ => none

theorem asPath?_isSome_iff (s : Source) : s.asPath?.isSome ↔ s.kind = .path := by
  cases s <;> simp [asPath?, kind]

theorem asDirectory?_isSome_iff (s : Source) : s.asDirectory?.isSome ↔ s.kind = .directory := by
  cases s <;> simp [asDirectory?, kind]

theorem asStream?_isSome_iff (s : Source) : s.asStream?.isSome ↔ s.kind = .stream := by
  cases s <;> simp [asStream?, kind]

theorem asString?_isSome_iff (s : Source) : s.asString?.isSome ↔ s.kind = .string := by
  cases s <;> simp [asString?, kind]

/-- A directory, shown for inspection. -/
def inspectDirectory (name : String) : String :=
  Text.RecordText.render ⟨"Directory", [("name", Text.quoted name)], false⟩

/-- An artifact, shown for inspection. -/
def inspect : Source → String
  | path name => "Path(" ++ Text.quoted name ++ ")"
  | directory name => "Directory(" ++ inspectDirectory name ++ ")"
  | stream s => "Stream(" ++ s.inspect ++ ")"
  | string s => "String(" ++ Text.quoted s ++ ")"
  | untyped _ => "Untyped(..)"

end Source

end ArtifactPipeline
