import ArtifactPipeline.Proofs.Remote.Record
import ArtifactPipeline.Proofs.Step.Visits
import ArtifactPipeline.Remote.Ssh

/-!
# Starts of ssh and scp

A connection shows in the command lines with which the two programs are started. `Tools.recorded`
writes them down, whatever the programs do, and this file reads them: not by the way in which they
were put together, but as the programs read them, option by option.

* `run_recorded` : what is written down when a program is to be started;
* `readOptions` : the options of a command line; `Start.option?` and `Start.setting?` look one up;
* `Start.Names` : what every start has to name, and `Start.isExit`, which one ends the control
  master;
* `names_master`, `names_command`, `names_exit`, `names_put` and `names_get` : the four kinds of
  command line name it.
-/

namespace ArtifactPipeline.Remote.Ssh

variable {ε : Type}

/-! ### Starts of programs -/

/-- A start of a program. -/
structure Start where
  tool : Tool
  arguments : List String
deriving DecidableEq

/-- **Programs whose starts are written down**, beside whatever else lies outside. -/
def Tools.recorded (tools : Tools ε) : Tools (ε × List Start) where
  start tool arguments host :=
    let (answer, after) := tools.start tool arguments host.withoutRecord
    (answer, after.withRecord (host.outside.2 ++ [⟨tool, arguments⟩]))

/-- The start that an attempt comes to. Arguments that cannot be passed on prevent it. -/
def startsOf (tool : Tool) (arguments : List String) : List Start :=
  if arguments.any fun a => a.toList.contains '\x00' then [] else [⟨tool, arguments⟩]

theorem eq_of_mem_startsOf {tool : Tool} {arguments : List String} {s : Start}
    (hs : s ∈ startsOf tool arguments) : s = ⟨tool, arguments⟩ := by
  rw [startsOf] at hs
  split at hs
  · cases hs
  · exact List.mem_singleton.mp hs

theorem startsOf_eq_singleton_iff {tool : Tool} {arguments : List String} :
    startsOf tool arguments = [⟨tool, arguments⟩] ↔
      ∀ a ∈ arguments, a.toList.contains '\x00' = false := by
  rw [startsOf]
  split
  · next hrefused =>
    obtain ⟨a, ha, hzero⟩ := List.any_eq_true.mp hrefused
    exact iff_of_false List.ne_cons_self fun h => Bool.false_ne_true ((h a ha).symm.trans hzero)
  · next hpasses =>
    exact iff_of_true rfl fun a ha => by
      simpa using List.any_eq_false.mp (Bool.eq_false_iff.mpr hpasses) a ha

/-- A program that ran was started. -/
theorem startsOf_of_run {tools : Tools ε} {tool : Tool} {arguments : List String} {host : Host ε}
    {run : ToolRun} (hrun : (tools.run tool arguments host).1 = .ok run) :
    startsOf tool arguments = [⟨tool, arguments⟩] := by
  rw [Tools.run] at hrun
  split at hrun
  · cases hrun
  · next hpasses => rw [startsOf, if_neg hpasses]

theorem run_recorded (tools : Tools ε) (tool : Tool) (arguments : List String) (host : Host ε)
    (record : List Start) :
    tools.recorded.run tool arguments (host.withRecord record) =
      ((tools.run tool arguments host).1,
        (tools.run tool arguments host).2.withRecord (record ++ startsOf tool arguments)) := by
  rw [Tools.run, Tools.run, startsOf]
  split
  · rw [List.append_nil]
  · rfl

/-! ### Reading a command line -/

/-- Options that are followed by a value. -/
def takesValue (flag : String) : Bool := ["-o", "-i", "-p", "-P", "-O"].contains flag

/-- Options that stand alone. -/
def standsAlone (flag : String) : Bool := ["-q", "-f", "-N"].contains flag

/-- **The options of a command line**, up to the first argument that is none. -/
def readOptions : List String → List (String × String)
  | flag :: value :: rest =>
    if takesValue flag then (flag, value) :: readOptions rest
    else if standsAlone flag then readOptions (value :: rest)
    else []
  | _ => []

namespace Start

/-- The value of an option. The first one counts. -/
def option? (s : Start) (flag : String) : Option String := (readOptions s.arguments).lookup flag

/-- The value of a setting, given by the option `-o`. The first one counts. -/
def setting? (s : Start) (name : String) : Option String :=
  (readOptions s.arguments).findSome? fun (flag, value) =>
    if flag = "-o" then Text.without? (name ++ "=") value else none

/-- Whether the control master is told to exit. -/
def isExit (s : Start) : Bool := s.tool == .ssh && s.option? "-O" == some "exit"

/-- Whether a start goes to a remote host: ssh names it last, or before the command that it is to
run, and scp names it before the path of one of the two files. -/
def GoesTo (destination : String) (s : Start) : Prop :=
  match s.tool with
  | .ssh => ∃ options, s.arguments = options ++ [destination] ∨
      ∃ command, s.arguments = options ++ [destination, "--", command]
  | .scp => ∃ options localPath remotePath,
      s.arguments = options ++ [localPath, destination ++ ":" ++ remotePath] ∨
      s.arguments = options ++ [destination ++ ":" ++ remotePath, localPath]

/-- The option by which a program is told the port. -/
def portFlag (s : Start) : String :=
  match s.tool with
  | .ssh => "-p"
  | .scp => "-P"

/-- **What a start has to name**: the socket of the control master, the port, the key if there is
one, and the remote host. -/
structure Names (target : Target) (socket : String) (s : Start) : Prop where
  socket : s.setting? "ControlPath" = some socket
  port : s.option? s.portFlag = some (toString target.port)
  key : ∀ path, target.keyPath = some path → s.option? "-i" = some path
  destination : s.GoesTo target.destination

end Start

namespace Client

/-- The options that every start of a program carries. -/
def commonOptions (c : Client) : List (String × String) :=
  [("-o", "ConnectTimeout=" ++ toString c.target.connectTimeout),
    ("-o", "ServerAliveInterval=" ++ toString c.target.aliveInterval),
    ("-o", "ServerAliveCountMax=" ++ toString c.target.aliveCount),
    ("-o", "BatchMode=yes"), ("-o", "ControlPath=" ++ c.socket)]
    ++ (c.target.keyPath.map fun path => ("-i", path)).toList

theorem readOptions_commonArguments (c : Client) (rest : List String) :
    readOptions (c.commonArguments ++ rest) = c.commonOptions ++ readOptions rest := by
  rw [commonArguments, commonOptions]
  cases c.target.keyPath <;> rfl

theorem readOptions_sshArguments (c : Client) (rest : List String) :
    readOptions (c.sshArguments ++ rest) =
      c.commonOptions ++ ("-p", toString c.target.port) :: readOptions rest := by
  rw [sshArguments, List.append_assoc, readOptions_commonArguments]
  rfl

theorem readOptions_scpArguments (c : Client) (rest : List String) :
    readOptions (c.scpArguments ++ rest) =
      c.commonOptions ++ ("-P", toString c.target.port) :: readOptions rest := by
  rw [scpArguments, List.append_assoc, readOptions_commonArguments]
  rfl

theorem lookup_commonOptions (c : Client) {flag : String} (hsetting : flag ≠ "-o")
    (hkey : flag ≠ "-i") (more : List (String × String)) :
    (c.commonOptions ++ more).lookup flag = more.lookup flag := by
  rw [← beq_eq_false_iff_ne] at hsetting hkey
  rw [commonOptions]
  cases c.target.keyPath <;> simp [List.lookup_cons, hsetting, hkey]

/-- The key is the first that is named. -/
theorem lookup_commonOptions_key (c : Client) {path : String} (hkey : c.target.keyPath = some path)
    (more : List (String × String)) : (c.commonOptions ++ more).lookup "-i" = some path := by
  rw [commonOptions, hkey]
  rfl

/-- The socket is the first that is named. -/
theorem findSome?_commonOptions (c : Client) (more : List (String × String)) :
    ((c.commonOptions ++ more).findSome? fun (flag, value) =>
      if flag = "-o" then Text.without? ("ControlPath" ++ "=") value else none) =
        some c.socket := by
  have hother (name : String)
      (hname : ∀ rest, Text.restAfter "ControlPath=".toList (name.toList ++ rest) = none)
      (value : String) : Text.without? "ControlPath=" (name ++ value) = none := by
    rw [Text.without?, String.toList_append, hname, Option.map_none]
  have hmode : Text.without? "ControlPath=" "BatchMode=yes" = none := rfl
  simp only [commonOptions, List.cons_append, List.nil_append, List.findSome?_cons, if_true]
  rw [show "ControlPath" ++ "=" = "ControlPath=" from rfl, hother "ConnectTimeout=" fun _ => rfl,
    hother "ServerAliveInterval=" fun _ => rfl, hother "ServerAliveCountMax=" fun _ => rfl, hmode,
    without?_append]

/-- **The beginning of a command line** names the control master, the port and the key. -/
theorem names_of_options (c : Client) {s : Start} {more : List (String × String)}
    (hoptions : readOptions s.arguments =
      c.commonOptions ++ (s.portFlag, toString c.target.port) :: more)
    (hdestination : s.GoesTo c.target.destination) : s.Names c.target c.socket where
  socket := by
    rw [Start.setting?, hoptions]
    exact findSome?_commonOptions c _
  port := by
    have hport : s.portFlag ≠ "-o" ∧ s.portFlag ≠ "-i" := by
      rw [Start.portFlag]
      cases s.tool <;> simp
    rw [Start.option?, hoptions, lookup_commonOptions c hport.1 hport.2, List.lookup_cons_self]
  key path hpath := by
    rw [Start.option?, hoptions]
    exact lookup_commonOptions_key c hpath _
  destination := hdestination

theorem names_ssh (c : Client) {rest : List String}
    (hdestination : Start.GoesTo c.target.destination ⟨.ssh, c.sshArguments ++ rest⟩) :
    Start.Names c.target c.socket ⟨.ssh, c.sshArguments ++ rest⟩ :=
  c.names_of_options (readOptions_sshArguments c rest) hdestination

theorem names_scp (c : Client) {rest : List String}
    (hdestination : Start.GoesTo c.target.destination ⟨.scp, c.scpArguments ++ rest⟩) :
    Start.Names c.target c.socket ⟨.scp, c.scpArguments ++ rest⟩ :=
  c.names_of_options (readOptions_scpArguments c rest) hdestination

theorem isExit_ssh (c : Client) (rest : List String) :
    Start.isExit ⟨.ssh, c.sshArguments ++ rest⟩ =
      ((readOptions rest).lookup "-O" == some "exit") := by
  rw [Start.isExit, Start.option?, readOptions_sshArguments,
    lookup_commonOptions c (by simp) (by simp)]
  rfl

/-! ### The four kinds of command line -/

theorem masterArguments_eq (c : Client) :
    c.masterArguments = c.sshArguments ++ (option "ControlMaster" "yes" ++
      option "ControlPersist" "yes" ++ ["-f", "-N", c.target.destination]) := by
  simp only [masterArguments, List.append_assoc]

theorem names_master (c : Client) : Start.Names c.target c.socket ⟨.ssh, c.masterArguments⟩ := by
  rw [masterArguments_eq]
  refine c.names_ssh ⟨c.sshArguments ++ (option "ControlMaster" "yes" ++
    option "ControlPersist" "yes" ++ ["-f", "-N"]), .inl ?_⟩
  simp

theorem isExit_master (c : Client) : Start.isExit ⟨.ssh, c.masterArguments⟩ = false := by
  rw [masterArguments_eq, isExit_ssh]
  rfl

theorem names_command (c : Client) (command : String) :
    Start.Names c.target c.socket ⟨.ssh, c.commandArguments command⟩ :=
  c.names_ssh ⟨c.sshArguments, .inr ⟨command, rfl⟩⟩

/-- A command is not the exit, whatever the remote host is called. -/
theorem isExit_command (c : Client) (command : String) :
    Start.isExit ⟨.ssh, c.commandArguments command⟩ = false := by
  rw [commandArguments, isExit_ssh, readOptions]
  split
  · -- a remote host with the name of an option would have the dashes for its value
    rw [List.lookup_cons]
    cases "-O" == c.target.destination <;> rfl
  · split <;> rfl

theorem names_exit (c : Client) : Start.Names c.target c.socket ⟨.ssh, c.exitArguments⟩ := by
  refine c.names_ssh ⟨c.sshArguments ++ ["-O", "exit"], .inl ?_⟩
  simp

theorem isExit_exit (c : Client) : Start.isExit ⟨.ssh, c.exitArguments⟩ = true := by
  rw [exitArguments, isExit_ssh]
  rfl

theorem names_put (c : Client) (localPath remotePath : String) :
    Start.Names c.target c.socket ⟨.scp, c.copyArguments localPath (c.remoteName remotePath)⟩ :=
  c.names_scp ⟨c.scpArguments, localPath, remotePath, .inl rfl⟩

theorem names_get (c : Client) (remotePath localPath : String) :
    Start.Names c.target c.socket ⟨.scp, c.copyArguments (c.remoteName remotePath) localPath⟩ :=
  c.names_scp ⟨c.scpArguments, localPath, remotePath, .inr rfl⟩

end Client

theorem Start.isExit_scp (arguments : List String) : isExit ⟨.scp, arguments⟩ = false := rfl

theorem countP_startsOf_eq_zero {tool : Tool} {arguments : List String}
    (hexit : Start.isExit ⟨tool, arguments⟩ = false) :
    (startsOf tool arguments).countP Start.isExit = 0 := by
  rw [List.countP_eq_zero]
  intro s hs
  rw [eq_of_mem_startsOf hs, hexit]
  exact Bool.false_ne_true

end ArtifactPipeline.Remote.Ssh
