import ArtifactPipeline.Action
import ArtifactPipeline.Files.Processes
import ArtifactPipeline.Journal

/-!
# The host

The machine that a pipeline runs on, as far as the pipeline can tell: its files, the variables of the
environment, the journal, what local commands reported, the flag by which the user asks for a
running command to be stopped, and whatever lies outside, of a type that each kind of connection
chooses for itself.
-/

namespace ArtifactPipeline

/-- The machine that a pipeline runs on. -/
structure Host (ε : Type) where
  files : FileSystem
  environment : List (String × String) := []
  journal : Journal := []
  /-- What local commands wrote to the program's own error channel. -/
  stderr : Bytes := []
  /-- Whether the user asked for the running command to be stopped. -/
  interrupted : Bool := false
  /-- What the connections act on. -/
  outside : ε

namespace Host

variable {ε α : Type}

/-- Write an event down. -/
def note (event : Event) (h : Host ε) : Host ε := { h with journal := h.journal ++ [event] }

/-- Ask for the running command to be stopped. -/
def interrupt (h : Host ε) : Host ε := { h with interrupted := true }

/-- Leave a program alone that was started: nobody waits for its end. -/
def abandon (program : String) (h : Host ε) : Host ε :=
  { h with files := h.files.leaveProcess program }

@[simp] theorem files_note (event : Event) (h : Host ε) : (h.note event).files = h.files := rfl

@[simp] theorem outside_note (event : Event) (h : Host ε) : (h.note event).outside = h.outside := rfl

@[simp] theorem interrupted_note (event : Event) (h : Host ε) :
    (h.note event).interrupted = h.interrupted := rfl

/-- Write an event down, as an action. -/
def record (event : Event) : Action (Host ε) Unit := .change (note event)

/-- An operation on the files, as an action. -/
def onFiles (f : FileSystem → Except IoFault (α × FileSystem)) : Action (Host ε) α := fun h =>
  match f h.files with
  | .ok (a, files) => (.done a, { h with files })
  | .error fault => (.failed (.io fault), h)

end Host

end ArtifactPipeline
