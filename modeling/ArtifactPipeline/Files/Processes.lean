import ArtifactPipeline.Files.System

/-!
# Processes among the files

A host shows every process as a directory below `/proc`, under the number of the process. It is there
until the process has ended and its parent has waited for that. A process that has ended and was not
waited for is still shown, in the condition `Z`.

Whatever is waited for by the operation that started it is gone before anybody can look. So only the
processes are kept that were left behind (`leaveProcess`), and these are shown (`shows_leaveProcess`).
-/

namespace ArtifactPipeline.FileSystem

/-- The number of the process that starts all others. -/
def ownProcess : Nat := 4241

/-- The numbers from here on are those of processes that were left behind. -/
def firstLeftBehind : Nat := 1000000

/-- Where a process is shown. -/
def processLocation (n : Nat) : Location := ["proc", toString n]

/-- What is shown of a process: its number, its name, its condition and the number of its parent, and
then the numbers of which nothing is known. -/
def processStatus (n : Nat) (program condition : String) : String :=
  let unknown := List.replicate 48 "0"
  String.intercalate " "
    ([toString n, "(" ++ program ++ ")", condition, toString ownProcess] ++ unknown) ++ "\n"

variable (fs : FileSystem)

/-- The number of the next process that is left behind. -/
def nextLeftBehind : Nat :=
  let candidates := (List.range (fs.nodes.length + 1)).map (firstLeftBehind + ·)
  (candidates.find? fun n => fs.node? (processLocation n) == none).getD firstLeftBehind

/-- The files once a program was started and nobody waits for it. -/
def leaveProcess (program : String) : FileSystem :=
  let n := fs.nextLeftBehind
  (fs.addDirectories (processLocation n)).addFile (processLocation n ++ ["stat"])
    (Text.Utf8.encode (processStatus n program "Z"))

/-- A file shows the condition of a process. -/
def Shows (n : Nat) (program condition : String) : Prop :=
  ∃ id, fs.node? (processLocation n ++ ["stat"]) = some (.file id) ∧
    fs.contentsOf id = Text.Utf8.encode (processStatus n program condition)

/-- A process that was left behind is shown. -/
theorem shows_leaveProcess (program : String) :
    (fs.leaveProcess program).Shows fs.nextLeftBehind program "Z" := by
  unfold leaveProcess
  refine ⟨(fs.addDirectories (processLocation fs.nextLeftBehind)).contents.length, ?_, ?_⟩
  · rw [node?_addFile _ _ _ _ (List.append_ne_nil_of_right_ne_nil _ (List.cons_ne_nil _ _)),
      if_pos rfl]
  · rw [contentsOf_addFile, if_pos rfl]

end ArtifactPipeline.FileSystem
