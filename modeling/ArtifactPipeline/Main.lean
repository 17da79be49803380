import ArtifactPipeline.Program.Run
import ArtifactPipeline.Remote.Ssh

/-!
# The command line

The program on a real machine. The files that the arguments name are read in, the program runs on
them, and what it wrote goes out again. Remote hosts are out of reach from here: neither of the
programs that would connect to them is started.
-/

namespace ArtifactPipeline.Main

open Remote

/-- A machine without the programs that connect to others. -/
def noTools : Ssh.Tools (List Ssh.Client) where
  start _ _ host := (.error .notFound, host)

/-- Connections from a machine without the programs that open them. -/
def backend : Backend (List Ssh.Client) := Ssh.backend (.whole _) noTools

/-- Put what a name leads to into the files of the host. -/
def load (fs : FileSystem) (name : String) : IO FileSystem := do
  match fs.resolve name with
  | .error _ => return fs
  | .ok l =>
    match ← (IO.FS.readBinFile name).toBaseIO with
    | .ok bytes => return fs.addFile l bytes.toList
    | .error (.noFileOrDirectory _ _ _) => return fs
    | .error _ => return fs.addDirectories l

/-- The files of the host: the working directory, and what is named. -/
def loadAll (workingDirectory : String) (names : List String) : IO FileSystem := do
  let here := (Path.parts workingDirectory).filter (· ≠ "")
  let start := { FileSystem.standard with workingDirectory := here }
  let reach (fs : FileSystem) (name : String) : FileSystem :=
    let parts := (Path.parts name).filter (· ≠ "")
    fs.addDirectories ((if Path.isAbsolute name then parts else here ++ parts).dropLast)
  names.foldlM load (names.foldl reach (start.addDirectories here))

/-- Write a file that the program made or changed. -/
def save (before after : FileSystem) (name : String) : IO Unit := do
  if let .ok bytes := after.read name then
    if (before.read name).toOption ≠ some bytes then
      IO.FS.writeBinFile name ⟨bytes.toArray⟩

end ArtifactPipeline.Main

open ArtifactPipeline in
/-- Run the program on the machine's files. -/
def main (arguments : List String) : IO UInt32 := do
  let home := (← IO.getEnv "HOME").map fun home => ("HOME", home)
  let environment := home.toList
  let here := (← IO.getEnv "PWD").getD "/"
  let request := (Program.parse arguments).toOption.getD .nothing
  let names := Program.filesOf environment request
  let files ← Main.loadAll here names
  let host : Host (List Remote.Ssh.Client) := { files, environment, outside := [] }
  let (conclusion, host) := Program.run Main.backend arguments host
  names.forM (Main.save files host.files)
  let stdout ← IO.getStdout
  let stderr ← IO.getStderr
  stdout.write ⟨conclusion.stdout.toArray⟩
  stdout.flush
  stderr.putStr (Program.logOf request host.journal)
  stderr.write ⟨host.stderr.toArray⟩
  stderr.putStr conclusion.report
  return UInt32.ofNat conclusion.exitCode
