import ArtifactPipeline.Proofs.Files.Output
import ArtifactPipeline.Proofs.Remote.History

/-!
# A fake host as a store

Any number of clients work on one fake host, their calls in any order, and between the calls files
are placed there and it is told what to fail and what to answer (`Run`). A listener may make calls
of its own while a command delivers its lines, so that a run can stand inside a call.

Whatever the order was, the host accounts for its history (`accounts_of_run`), and from this follows
all that a client can see (`last_stored_delivered`): it is given what was stored last at a path,
unless that was removed since; what fails leaves the host as it was; and no two directories have
been given the same name.

That a command is carried out before its first line is delivered is what makes the run inside a call
harmless: the listener begins on the host that the command has led to, and nothing of the command
is left to do.
-/

namespace ArtifactPipeline.Remote.FakeHost

variable {ε : Type} {part : Part ε FakeHost} {start host after : Host ε} {log : List Happening}

/-! ### Runs -/

/-- Do something to the fake host that is a part of the outside world. -/
def changed (part : Part ε FakeHost) (f : FakeHost → FakeHost) (host : Host ε) : Host ε :=
  { host with outside := part.set (f (part.get host.outside)) host.outside }

theorem get_changed (part : Part ε FakeHost) (f : FakeHost → FakeHost) (host : Host ε) :
    part.get (changed part f host).outside = f (part.get host.outside) := part.get_set _ _

/-- **What can happen while clients use a fake host**, and the history that it leaves. -/
inductive Run (part : Part ε FakeHost) : Host ε → List Happening → Host ε → Prop where
  /-- Something happens elsewhere. -/
  | elsewhere {host after : Host ε} (h : part.get after.outside = part.get host.outside) :
    Run part host [] after
  | inject (host : Host ε) (i : Injection) : Run part host [] (changed part (·.inject i) host)
  | respond (host : Host ε) (pattern stdout : String) :
    Run part host [] (changed part (·.respond pattern stdout) host)
  | place (host : Host ε) (path : String) (bytes : Bytes) :
    Run part host [.placed path bytes] (changed part (·.store path bytes) host)
  | connect (host : Host ε) (target : Target) :
    Run part host [.call ⟨.connect target ((backend part).connect target host).1, host.files⟩]
      ((backend part).connect target host).2
  /-- A command is carried out, and what the listener then does is a run of its own. -/
  | exec (host : Host ε) (connection : Nat) (command : String) (limits : Limits)
    (listen : String → Host ε → Host ε) {heard : List Happening}
    (hheard : Run part ((backend part).exec connection command limits (fun _ => id) host).2 heard
      ((backend part).exec connection command limits listen host).2) :
    Run part host (.call ⟨.exec connection command limits
        ((backend part).exec connection command limits listen host).1, host.files⟩ :: heard)
      ((backend part).exec connection command limits listen host).2
  | put (host : Host ε) (connection : Nat) (localPath remotePath : String) :
    Run part host [.call ⟨.put connection localPath remotePath
        ((backend part).put connection localPath remotePath host).1, host.files⟩]
      ((backend part).put connection localPath remotePath host).2
  | get (host : Host ε) (connection : Nat) (remotePath localPath : String) :
    Run part host [.call ⟨.get connection remotePath localPath
        ((backend part).get connection remotePath localPath host).1, host.files⟩]
      ((backend part).get connection remotePath localPath host).2
  | close (host : Host ε) (connection : Nat) :
    Run part host [.call ⟨.close connection ((backend part).close connection host).1, host.files⟩]
      ((backend part).close connection host).2
  | trans {host middle after : Host ε} {log more : List Happening}
    (first : Run part host log middle) (second : Run part middle more after) :
    Run part host (log ++ more) after

/-! ### What the calls of a client come to -/

/-- A listener that does nothing to the fake host. -/
def Apart (part : Part ε FakeHost) (listen : String → Host ε → Host ε) : Prop :=
  ∀ line host, part.get (listen line host).outside = part.get host.outside

theorem apart_id (part : Part ε FakeHost) : Apart part fun _ => id := fun _ _ => rfl

theorem Apart.foldl {listen : String → Host ε → Host ε} (h : Apart part listen)
    (lines : List String) (host : Host ε) :
    part.get (lines.foldl (fun host line => listen line host) host).outside =
      part.get host.outside := by
  induction lines generalizing host with
  | nil => rfl
  | cons line lines ih => rw [List.foldl_cons, ih, h line host]

/-- **What running a command comes to**: it is stopped by its limits before anything happens, or it
is carried out and then its lines are delivered. What is delivered does not depend on who listens.
-/
theorem exec_cases (part : Part ε FakeHost) (command : String) (limits : Limits) (host : Host ε) :
    (∃ cause, ∀ listen, exec part command limits listen host = (⟨[], .error cause⟩, host)) ∨
    ∀ listen, (exec part command limits listen host).1 =
        ⟨Text.lines ((part.get host.outside).perform command).1,
          .ok ((part.get host.outside).perform command).2.1⟩ ∧
      (Apart part listen → part.get (exec part command limits listen host).2.outside =
        ((part.get host.outside).perform command).2.2) := by
  cases hlimits : (limits.check host.interrupted .instant).failure? with
  | some cause => exact .inl ⟨cause, fun listen => by rw [exec, hlimits]⟩
  | none =>
    refine .inr fun listen => ?_
    rw [exec, hlimits]
    refine ⟨rfl, fun hlisten => ?_⟩
    dsimp only
    rw [hlisten.foldl]
    exact part.get_set _ _

/-- To fetch a file leaves the fake host as it was. -/
theorem besides_get (part : Part ε FakeHost) (connection : Nat) (remotePath localPath : String)
    (host : Host ε) :
    Besides [] (part.get host.outside)
      (part.get ((backend part).get connection remotePath localPath host).2.outside) := by
  have hbesides := (deliver_cases (part.get host.outside) remotePath).1
  dsimp only [backend]
  generalize (part.get host.outside).deliver remotePath = answered at hbesides ⊢
  obtain ⟨answer, fake⟩ := answered
  cases answer with
  | error cause => exact (Session.spared_set hbesides).outside
  | ok bytes =>
    dsimp only
    cases host.files.write localPath bytes <;> exact (Session.spared_set hbesides).outside

/-- **A file that is there is fetched**, if it can be written to the local host. -/
theorem get_of_some (connection : Nat) {remotePath localPath : String} {bytes : Bytes}
    {files : FileSystem} (hallowed : .get ∉ (part.get host.outside).injections)
    (hfile : (part.get host.outside).file? remotePath = some bytes)
    (hwrite : host.files.write localPath bytes = .ok files) :
    ((backend part).get connection remotePath localPath host).1 = .ok () ∧
      ((backend part).get connection remotePath localPath host).2.files = files := by
  have hfile' (calls : Calls) :
      ({ part.get host.outside with calls } : FakeHost).file? remotePath = some bytes := hfile
  simp only [backend, deliver, List.contains_iff_mem, hallowed, if_false, hfile', hwrite, and_self]

/-- **A file that is not there is not fetched.** -/
theorem get_of_none (connection : Nat) {remotePath localPath : String}
    (hallowed : .get ∉ (part.get host.outside).injections)
    (hfile : (part.get host.outside).file? remotePath = none) :
    ((backend part).get connection remotePath localPath host).1 =
      .error (.transfer (remotePath ++ ": no such file")) := by
  have hfile' (calls : Calls) :
      ({ part.get host.outside with calls } : FakeHost).file? remotePath = none := hfile
  simp only [backend, deliver, List.contains_iff_mem, hallowed, if_false, hfile']

/-! ### The history of a run -/

theorem accounts_exec {heard : List Happening} {connection : Nat} {command : String}
    {limits : Limits} {listen : String → Host ε → Host ε}
    (hheard : Accounts heard
      (part.get ((backend part).exec connection command limits (fun _ => id) host).2.outside)
      (part.get ((backend part).exec connection command limits listen host).2.outside)) :
    Accounts (.call ⟨.exec connection command limits
        ((backend part).exec connection command limits listen host).1, host.files⟩ :: heard)
      (part.get host.outside)
      (part.get ((backend part).exec connection command limits listen host).2.outside) := by
  -- the command comes first, and what the listener does after it
  rw [← List.singleton_append]
  refine .trans ?_ hheard
  change Accounts [.call ⟨.exec connection command limits
    (exec part command limits listen host).1, host.files⟩] (part.get host.outside)
    (part.get (exec part command limits (fun _ => id) host).2.outside)
  rcases exec_cases part command limits host with ⟨cause, hstopped⟩ | hperformed
  · rw [hstopped, hstopped]
    exact .of_idle (.refl _) (by rw [Happening.names]; exact ite_self [])
      (fun _ => not_stores_exec) fun path h => nomatch h
  · rw [(hperformed listen).1, (hperformed _).2 (apart_id part)]
    exact .perform _ host.files connection command limits

/-- **A fake host accounts for its history**, whoever used it, and in whatever order. -/
theorem accounts_of_run (h : Run part host log after) :
    Accounts log (part.get host.outside) (part.get after.outside) := by
  induction h with
  | elsewhere h => exact h ▸ .of_same rfl rfl
  | inject host i =>
    rw [get_changed]
    exact .of_same rfl rfl
  | respond host pattern stdout =>
    rw [get_changed]
    exact .of_same rfl rfl
  | place host path bytes =>
    rw [get_changed]
    exact .store _ path bytes
  | connect host target =>
    exact .of_idle (Session.spared_set (besides_connect _ target)).outside rfl
      (fun path bytes h => nomatch h) fun path h => nomatch h
  | exec host connection command limits listen _ ih => exact accounts_exec ih
  | put host connection localPath remotePath =>
    have houtside : part.get ((backend part).put connection localPath remotePath host).2.outside =
        ((part.get host.outside).accept host.files localPath remotePath).2 := part.get_set _ _
    rw [houtside]
    exact .accept _ host.files connection localPath remotePath
  | get host connection remotePath localPath =>
    exact .of_idle (besides_get part connection remotePath localPath host) rfl
      (fun path bytes h => nomatch h) fun path h => nomatch h
  | close host connection =>
    exact .of_idle (Session.spared_close part connection host).outside rfl
      (fun path bytes h => nomatch h) fun path h => nomatch h
  | trans _ _ ih ih' => exact ih.trans ih'

/-! ### What clients can see -/

/-- The files and the directories are what they were. -/
structure Unchanged (f f' : FakeHost) : Prop where
  directories : f'.directories = f.directories
  files : f'.files = f.files

theorem Besides.unchanged {f f' : FakeHost} (h : Besides [] f f') : Unchanged f f' :=
  ⟨h.directories, h.files_of_nil⟩

/-- An upload that failed has changed nothing. -/
theorem unchanged_put {connection : Nat} {localPath remotePath : String}
    (hfailed : ((backend part).put connection localPath remotePath host).1 ≠ .ok ()) :
    Unchanged (part.get host.outside)
      (part.get ((backend part).put connection localPath remotePath host).2.outside) := by
  have hdone := accepted (part.get host.outside) host.files localPath remotePath
  have houtside : part.get ((backend part).put connection localPath remotePath host).2.outside =
      ((part.get host.outside).accept host.files localPath remotePath).2 := part.get_set _ _
  change ((part.get host.outside).accept host.files localPath remotePath).1 ≠ .ok () at hfailed
  rw [houtside]
  generalize (part.get host.outside).accept host.files localPath remotePath = ended
    at hdone hfailed ⊢
  obtain ⟨answer, fake⟩ := ended
  cases hdone with
  | refused hbesides => exact hbesides.unchanged
  | stored => exact absurd rfl hfailed

/-- A command that was told to fail, or that is neither of the two that the host carries out, has
changed nothing. -/
theorem unchanged_exec {connection : Nat} {command : String} {limits : Limits}
    {listen : String → Host ε → Host ε} (hlisten : Apart part listen)
    (hcommand : (∃ pattern, .exec pattern ∈ (part.get host.outside).injections ∧
        Text.contains command pattern = true) ∨
      Text.trimmed command ≠ "mktemp -d" ∧ ∀ target, command ≠ "rm -rf " ++ target) :
    Unchanged (part.get host.outside)
      (part.get ((backend part).exec connection command limits listen host).2.outside) := by
  change Unchanged _ (part.get (exec part command limits listen host).2.outside)
  rcases exec_cases part command limits host with ⟨cause, hstopped⟩ | hperformed
  · rw [hstopped]
    exact ⟨rfl, rfl⟩
  · rw [(hperformed listen).2 hlisten]
    rcases hcommand with ⟨pattern, hpattern, hcontains⟩ | ⟨hprovision, hremoval⟩
    · have htold := failingPattern?_ne_none hpattern hcontains
      have hdone := performed (part.get host.outside) command
      generalize (part.get host.outside).perform command = ended at hdone ⊢
      obtain ⟨stdout, output, fake⟩ := ended
      cases hdone with
      | refused _ _ hbesides => exact hbesides.unchanged
      | provisioned hallowed => exact absurd hallowed htold
      | removed hallowed => exact absurd hallowed htold
      | answered _ hbesides => exact hbesides.unchanged
    · exact (besides_perform _ ⟨hprovision, Option.eq_none_iff_forall_ne_some.mpr fun target h =>
        hremoval target (without?_eq_some_iff.mp h)⟩).unchanged

/-- **A fake host is a faithful store**, for any number of clients and in any order of their calls.
Fetching a path delivers what was stored there last, unless it was removed since, and fails
otherwise; uploads and commands that fail change nothing, and neither do other commands; and no two
directories are given the same name. -/
theorem last_stored_delivered (hfresh : part.get start.outside = {})
    (hrun : Run part start log host) :
    (∀ connection path localPath, .get ∉ (part.get host.outside).injections →
      (∀ bytes later, LastStored path log bytes later → (∀ e ∈ later, ¬Clears path e) →
        ∀ files, host.files.write localPath bytes = .ok files →
          ((backend part).get connection path localPath host).1 = .ok () ∧
          ((backend part).get connection path localPath host).2.files = files ∧
          ∀ l id, files.find localPath = .ok (l, .file id) → files.read localPath = .ok bytes) ∧
      ((∀ e ∈ log, ∀ bytes, ¬Stores path e bytes) ∨
          (∃ bytes later, LastStored path log bytes later ∧ ∃ e ∈ later, Clears path e) →
        ∃ text, ((backend part).get connection path localPath host).1 =
          .error (.transfer text))) ∧
    (∀ connection localPath remotePath,
      ((backend part).put connection localPath remotePath host).1 ≠ .ok () →
      Unchanged (part.get host.outside)
        (part.get ((backend part).put connection localPath remotePath host).2.outside)) ∧
    (∀ connection command limits listen, Apart part listen →
      (∃ pattern, .exec pattern ∈ (part.get host.outside).injections ∧
          Text.contains command pattern = true) ∨
        (Text.trimmed command ≠ "mktemp -d" ∧ ∀ target, command ≠ "rm -rf " ++ target) →
      Unchanged (part.get host.outside)
        (part.get ((backend part).exec connection command limits listen host).2.outside)) ∧
    (handedOut log).Nodup := by
  have haccounts := accounts_of_run hrun
  rw [hfresh] at haccounts
  refine ⟨fun connection path localPath hallowed => ⟨?_, ?_⟩, fun connection localPath remotePath =>
    unchanged_put, fun connection command limits listen => unchanged_exec, ?_⟩
  · -- the path holds what was stored there last
    intro bytes later hlast hkept files hwrite
    have hfile := (haccounts.course path).eq_some_of_last hlast hkept
    obtain ⟨hanswer, hfiles⟩ := get_of_some connection hallowed hfile hwrite
    exact ⟨hanswer, hfiles, fun l id => FileSystem.read_of_write hwrite⟩
  · -- it holds nothing, as nothing was stored there, or not since the removal
    intro hgone
    refine ⟨_, get_of_none connection hallowed ?_⟩
    rcases hgone with hunstored | ⟨bytes, later, hlast, hcleared⟩
    · exact (haccounts.course path).eq_none_of_unstored rfl hunstored
    · exact (haccounts.course path).eq_none_of_cleared hlast hcleared
  · rw [haccounts.names]
    exact nodup_madeSince _ _

/-- A local host with a fake one beside it, both as they begin. -/
def unused : Host FakeHost := ⟨.standard, [], [], [], false, {}⟩

/-- Run a command on the fake host, over a connection. -/
def afterCommand (connection : Nat) (command : String) (host : Host FakeHost) : Host FakeHost :=
  ((backend (.whole FakeHost)).exec connection command .unlimited (fun _ => id) host).2

/-- What a command that ends well leaves in the history. -/
def commandCall (connection : Nat) (command : String) (lines : List String)
    (host : Host FakeHost) : Happening :=
  .call ⟨.exec connection command .unlimited ⟨lines, .ok ended⟩, host.files⟩

theorem run_afterCommand (connection : Nat) (command : String) (host : Host FakeHost)
    {lines : List String} (hlines : Text.lines (host.outside.perform command).1 = lines)
    (hended : (host.outside.perform command).2.1 = ended) :
    Run (.whole FakeHost) host [commandCall connection command lines host]
      (afterCommand connection command host) := by
  rw [commandCall, ← hlines, ← hended]
  exact .exec host connection command .unlimited (fun _ => id) (.elsewhere rfl)

/-- One client has made a directory. -/
def withDirectory : Host FakeHost := afterCommand 0 "mktemp -d" unused

/-- A file was placed beside the directory. -/
def withNeighbour : Host FakeHost :=
  changed (.whole FakeHost) (·.store "/tmp/mock.1x" [7]) withDirectory

/-- A second client has removed the directory. -/
def withoutDirectory : Host FakeHost := afterCommand 1 "rm -rf /tmp/mock.1" withNeighbour

/-- The file beside the directory is still delivered, and the next directory has another name. -/
theorem last_stored_delivered_beside_removal :
    ∃ log later, Run (.whole FakeHost) unused log (afterCommand 2 "mktemp -d" withoutDirectory) ∧
      LastStored "/tmp/mock.1x" log [7] later ∧ (∃ e ∈ later, Clears "/tmp/mock.1" e) ∧
      ((backend (.whole FakeHost)).get 2 "/tmp/mock.1x" "/tmp/kernel"
        (afterCommand 2 "mktemp -d" withoutDirectory)).1 = .ok () ∧
      handedOut log = ["/tmp/mock.1", "/tmp/mock.2"] ∧ (handedOut log).Nodup := by
  let later := [commandCall 1 "rm -rf /tmp/mock.1" [] withNeighbour,
    commandCall 2 "mktemp -d" ["/tmp/mock.2"] withoutDirectory]
  have hrun : Run (.whole FakeHost) unused
      (commandCall 0 "mktemp -d" ["/tmp/mock.1"] unused :: .placed "/tmp/mock.1x" [7] :: later)
      (afterCommand 2 "mktemp -d" withoutDirectory) :=
    (run_afterCommand 0 "mktemp -d" unused (by decide +kernel) (by decide +kernel)).trans <|
      (Run.place withDirectory "/tmp/mock.1x" [7]).trans <|
      (run_afterCommand 1 "rm -rf /tmp/mock.1" withNeighbour (by decide +kernel)
        (by decide +kernel)).trans <|
      run_afterCommand 2 "mktemp -d" withoutDirectory (by decide +kernel) (by decide +kernel)
  have hlast : LastStored "/tmp/mock.1x"
      (commandCall 0 "mktemp -d" ["/tmp/mock.1"] unused :: .placed "/tmp/mock.1x" [7] :: later)
      [7] later :=
    ⟨[_], _, rfl, .placed [7], by
      simp only [later, List.forall_mem_cons]
      exact ⟨not_stores_exec, not_stores_exec, nofun⟩⟩
  have hkept : ∀ e ∈ later, ¬Clears "/tmp/mock.1x" e := by
    have htarget : Text.without? "rm -rf " "rm -rf /tmp/mock.1" = some "/tmp/mock.1" := by
      decide +kernel
    have hother : Text.without? "rm -rf " "mktemp -d" = none := by decide +kernel
    simp only [later, List.forall_mem_cons]
    refine ⟨not_clears_exec fun target h => ?_, not_clears_exec fun target h => ?_, nofun⟩
    · obtain rfl := Option.some.inj (htarget.symm.trans h)
      decide +kernel
    · cases hother.symm.trans h
  have hwritten : ((afterCommand 2 "mktemp -d" withoutDirectory).files.write "/tmp/kernel"
      [7]).toOption.isSome = true := by decide +kernel
  have hcleared : Clears "/tmp/mock.1" (commandCall 1 "rm -rf /tmp/mock.1" [] withNeighbour) := by
    have htarget : "rm -rf /tmp/mock.1" = "rm -rf " ++ "/tmp/mock.1" := by decide +kernel
    exact .removed htarget rfl (.inl (by decide +kernel))
  obtain ⟨hdelivered, -, -, hnames⟩ := last_stored_delivered rfl hrun
  refine ⟨_, later, hrun, hlast, ⟨_, List.mem_cons_self, hcleared⟩, ?_, rfl, hnames⟩
  cases hwrite : (afterCommand 2 "mktemp -d" withoutDirectory).files.write "/tmp/kernel" [7] with
  | error fault =>
    rw [hwrite] at hwritten
    cases hwritten
  | ok files =>
    exact ((hdelivered 2 "/tmp/mock.1x" "/tmp/kernel" (by decide +kernel)).1 [7] later hlast hkept
      files hwrite).1

end ArtifactPipeline.Remote.FakeHost
