import ArtifactPipeline.Remote.Ssh

/-!
# Prepared runs

Stand-ins for the programs that carry connections, for trying them out. Each start of a program
plays the next of the runs that were prepared, and is recorded with its arguments; when no run is
left, the programs succeed and write nothing. The programs can be taken away, and then they do not
start. `Playback.tools` makes the programs of a part of the outside world.
-/

namespace ArtifactPipeline.Remote.Ssh

/-- A run that was prepared. -/
structure PreparedRun where
  stdout : Bytes := []
  stderr : Bytes := []
  ending : Ending := .exited 0
  /-- What is written to the file that the last argument names, if it names one from the root. -/
  written : Option Bytes := none
deriving Repr, DecidableEq

/-- Programs that play prepared runs. -/
structure Playback where
  runs : List PreparedRun := []
  /-- The starts so far, each with the name of the program and its arguments. -/
  starts : List (List String) := []
  /-- Whether the programs can be started. -/
  present : Bool := true
deriving Repr, DecidableEq

namespace Playback

/-- The run of the next start. -/
def next (p : Playback) : PreparedRun := p.runs.headD {}

/-- The programs after a start. -/
def afterStart (p : Playback) (tool : Tool) (arguments : List String) : Playback :=
  { p with runs := p.runs.tail, starts := p.starts ++ [tool.program :: arguments] }

/-- The files after a run. A file that cannot be written is left out. -/
def writeTo (run : PreparedRun) (arguments : List String) (fs : FileSystem) : FileSystem :=
  match run.written, arguments.getLast? with
  | some bytes, some target =>
    if Path.isAbsolute target then
      match fs.write target bytes with
      | .ok fs => fs
      | .error _ => fs
    else fs
  | _, _ => fs

variable {ε : Type}

/-- The programs that are a part of the outside world. -/
def tools (part : Part ε Playback) : Tools ε where
  start tool arguments host :=
    let p := part.get host.outside
    if p.present then
      let run := p.next
      (.ok { stdout := run.stdout, stderr := run.stderr, ending := run.ending },
        { host with
          files := writeTo run arguments host.files
          outside := part.set (p.afterStart tool arguments) host.outside })
    else (.error .notFound, host)

end Playback

end ArtifactPipeline.Remote.Ssh
