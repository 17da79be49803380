import ArtifactPipeline.Program.Run
import ArtifactPipeline.Proofs.Files.Output
import ArtifactPipeline.Proofs.Remote.Invariant

/-!
# Delivering an artifact

The program makes an artifact by the stages of a path and hands it over as a stream, which it copies
to a file or to what it writes itself. A stream is read at the time of the copying, and the file is
opened first, so that opening it comes between the making of the artifact and the reading.

* `exec_eq` sets the making of the artifact apart (`artifact`), and `handed_deliver` lists the ways
  in which copying to a file ends;
* `artifact_delivered` : what is delivered is the artifact, unless the file is the one that the
  stream reads, which is empty by then;
* `output_after_failure` : a failure leaves the file alone, unless the stream cannot be read, which
  is found out when the file has been emptied.

Where the two states are the same there is no stage, and the stream is the input itself. So it is
the name of the output alone that decides whether the input survives.
-/

namespace ArtifactPipeline

variable {ε : Type}

/-! ### Reading after opening -/

namespace Stream

open FileSystem

variable {s : Stream} {fs opened : FileSystem} {id : Nat}

/-- Whether a stream reads from the file with a number. -/
def reads (s : Stream) (id : Nat) : Bool :=
  match s.origin with
  | .opened (.file k) _ => k == id
  | _ => false

/-- A file that was opened is read as it is at the time of reading. -/
theorem exists_remaining_of_reads (hreads : s.reads id = true) (fs : FileSystem) :
    ∃ bytes, s.remaining fs = .ok bytes := by
  rw [reads] at hreads
  split at hreads
  · next k offset horigin =>
    rw [remaining, horigin]
    exact ⟨_, rfl⟩
  · cases hreads

/-- **What is left to read once a file was emptied**: nothing, if it is the file that the stream
reads, and what was left before, if it is another. -/
theorem remaining_of_emptied
    (hcontents : ∀ k, opened.contentsOf k = if k = id then [] else fs.contentsOf k) :
    s.remaining opened = if s.reads id then .ok [] else s.remaining fs := by
  rw [reads, remaining, remaining]
  cases s.origin with
  | memory rest fault => rfl
  | faulty fault => rfl
  | opened node offset =>
    cases node with
    | file k =>
      simp only [Origin.remaining, Origin.readable, readNode, hcontents]
      by_cases hk : k = id
      · simp [hk]
      · simp [hk]
    | _ => rfl

/-- Whether a stream can be read does not depend on the file that was opened. -/
theorem remaining_opened_eq_error_iff {path : String} {node : Node}
    (hopened : fs.Opened path node opened) {fault : IoFault} :
    s.remaining opened = .error fault ↔ s.remaining fs = .error fault := by
  cases hopened with
  | device => exact Iff.rfl
  | @file _ l id hfind hnodes hcontents =>
    rw [remaining_of_emptied hcontents]
    split
    · next hreads =>
      -- a stream that reads the file can be read before and after
      obtain ⟨bytes, hbytes⟩ := exists_remaining_of_reads hreads fs
      rw [hbytes]
      exact iff_of_false nofun nofun
    · exact Iff.rfl

end Stream

namespace Program

open Remote

/-! ### The artifact -/

/-- Make the artifact, as a stream. -/
def artifact (b : Backend ε) (c : Config.Context) (input source target : String) :
    Action (Host ε) Stream := do
  let registry ← Catalogue.registry b true c
  let result ← registry.runPath source target (.path input)
  let result ← Conversion.convertAction result .stream
  match result.asStream? with
  | some stream => pure stream
  | none =>
    .fail (.io (.other ("stage output is " ++ result.kind.display ++ ", not a stream")))

section Artifact

variable (b : Backend ε) (c : Config.Context) (input source target : String)

/-- **The program makes the artifact and delivers it.** -/
theorem exec_eq (output : Option String) :
    exec b c input source target output =
      artifact b c input source target >>= fun s => deliver s output := by
  rw [exec, artifact]
  simp only [bind_assoc]
  refine bind_congr fun registry => bind_congr fun made => bind_congr fun result => ?_
  cases result.asStream? <;> rfl

/-- What there is to deliver is delivered. -/
theorem run_exec_of_done {s : Stream} {host made : Host ε}
    (hmade : (artifact b c input source target).run host = (.done s, made))
    (output : Option String) :
    (exec b c input source target output).run host = (deliver s output).run made := by
  rw [exec_eq, Action.run_bind, hmade]

end Artifact

/-! ### Without a stage -/

/-- Open the input as a stream. -/
def openInput (input : String) : Action (Host ε) Stream := fun host =>
  match host.files.find input with
  | .ok (_, node) => (.done (.ofNode node), host)
  | .error fault => (.failed (.conversion (.io fault)), host)

/-- **From a state to itself there is no stage**, and the artifact is the input. -/
theorem artifact_same (b : Backend ε) (c : Config.Context) (input state : String) :
    artifact b c input state state = (do
      let _ ← Catalogue.registry b true c
      Host.record (Registry.pathEvent state state ([] : List (Stage ε)))
      openInput input) := by
  have hpath : ∀ registry : Registry ε, registry.path state state = .ok [] := by
    intro registry
    rw [Registry.path, Route.find?_self]
    rfl
  rw [artifact]
  refine bind_congr fun registry => ?_
  rw [Registry.runPath, hpath]
  funext host
  -- the conversion of a path to a stream is to open it
  change (Conversion.convertAction (.path input) .stream >>= _ : Action (Host ε) Stream).run
    (host.note _) = (openInput input).run (host.note _)
  have hconvert : Conversion.convert (.path input) .stream
      (host.note (Registry.pathEvent state state ([] : List (Stage ε)))).files =
        (Conversion.pathToStream input host.files, host.files) := rfl
  rw [Action.run_bind, Action.run, Conversion.convertAction, hconvert, Conversion.pathToStream,
    Action.run, openInput, Host.files_note]
  cases host.files.find input <;> rfl

/-- To make the registry of a configuration touches neither the files nor what lies outside. -/
theorem keeps_registry {I : FileSystem → ε → Prop} (b : Backend ε) (cancellable : Bool)
    (c : Config.Context) : (Catalogue.registry b cancellable c).Keeps (On I) := by
  have hregister : ∀ (r : Registry ε) (stage : Stage ε), (r.register stage).Keeps (On I) :=
    fun _ _ => (keeps_record _).bind fun _ => Action.keeps_pure _
  have hcommands : ∀ (names : List String) (r : Registry ε),
      (Catalogue.registerCommands c names r).Keeps (On I) := by
    intro names
    induction names with
    | nil => exact fun r => Action.keeps_pure r
    | cons name names ih =>
      exact fun r => (Action.keeps_ofExcept _).bind fun stage =>
        (hregister r stage).bind fun r => ih r
  exact (Action.keeps_ofExcept _).bind fun emulation =>
    (hregister ⟨[]⟩ emulation).bind fun r => hcommands _ r

/-- **The input as an artifact.** The files are left alone, and the stream is the input, opened. -/
theorem run_artifact_same (b : Backend ε) (c : Config.Context) (input state : String)
    (host : Host ε) :
    ((artifact b c input state state).run host).2.files = host.files ∧
      ∀ s, ((artifact b c input state state).run host).1 = .done s →
        ∃ l node, host.files.find input = .ok (l, node) ∧ s = .ofNode node := by
  have hregistry := keeps_registry (I := fun files _ => files = host.files) b true c host rfl
  rw [artifact_same, Action.run_bind]
  generalize (Catalogue.registry b true c).run host = ended at hregistry ⊢
  obtain ⟨outcome, made⟩ := ended
  have hfiles : made.files = host.files := hregistry
  cases outcome with
  | failed f => exact ⟨hfiles, by simp⟩
  | crashed => exact ⟨hfiles, by simp⟩
  | done registry =>
    change ((openInput input).run (made.note _)).2.files = _ ∧
      ∀ s, ((openInput input).run (made.note _)).1 = .done s → _
    rw [Action.run, openInput, Host.files_note, hfiles]
    cases hfind : host.files.find input with
    | error fault => exact ⟨hfiles, by simp⟩
    | ok found =>
      obtain ⟨l, node⟩ := found
      exact ⟨hfiles, fun s hs => ⟨l, node, rfl, (Outcome.done.inj hs).symm⟩⟩

/-- What an opened input yields is what its name reads. -/
theorem remaining_ofNode {fs : FileSystem} {path : String} {l : Location} {node : Node}
    (hfind : fs.find path = .ok (l, node)) : (Stream.ofNode node).remaining fs = fs.read path := by
  rw [FileSystem.read, hfind, Stream.remaining, Stream.ofNode, Origin.remaining, Origin.readable]
  cases node <;> rfl

/-- Only a directory can be opened and not read. -/
theorem eq_directory_of_read {fs : FileSystem} {path : String} {l : Location} {node : Node}
    {fault : IoFault} (hfind : fs.find path = .ok (l, node)) (hread : fs.read path = .error fault) :
    node = .directory ∧ fault = .isDirectory := by
  rw [FileSystem.read, hfind] at hread
  cases node <;> cases hread
  exact ⟨rfl, rfl⟩

/-! ### Copying to a file -/

/-- **How copying to a file ends**, and on which host. -/
inductive Handed (s : Stream) (out : String) (made : Host ε) : Outcome Bytes → Host ε → Prop
  /-- The file cannot be opened. -/
  | unopened {fault : IoFault} (hopen : made.files.openToWrite false out = .error fault) :
      Handed s out made (.failed (.io fault)) made
  /-- The file has been opened, and the stream cannot be read. -/
  | unread {node : Node} {opened : FileSystem} {fault : IoFault}
      (hopen : made.files.openToWrite false out = .ok (node, opened))
      (hread : s.remaining opened = .error fault) :
      Handed s out made (.failed (.io fault)) { made with files := opened }
  /-- The stream has been read, and there is no room for it. -/
  | unwritten {opened : FileSystem} {bytes : Bytes}
      (hopen : made.files.openToWrite false out = .ok (.full, opened))
      (hread : s.remaining opened = .ok bytes) :
      Handed s out made (.failed (.io noRoom)) { made with files := opened }
  /-- The stream has been copied. -/
  | written {node : Node} {opened : FileSystem} {bytes : Bytes}
      (hopen : made.files.openToWrite false out = .ok (node, opened))
      (hread : s.remaining opened = .ok bytes) :
      Handed s out made (.done []) { made with files := opened.append node bytes }

theorem handed_deliver (s : Stream) (out : String) (made : Host ε) :
    Handed s out made ((deliver s (some out)).run made).1 ((deliver s (some out)).run made).2 := by
  rw [deliver, Action.run_bind, createFile, Action.run, Host.onFiles]
  cases hopen : made.files.openToWrite false out with
  | error fault => exact .unopened hopen
  | ok found =>
    obtain ⟨node, opened⟩ := found
    simp only [Action.run_bind]
    rw [Action.run, readAll]
    cases hread : s.remaining opened with
    | error fault => exact .unread hopen hread
    | ok bytes =>
      simp only
      rw [Action.run, writeTo, Host.onFiles]
      by_cases hfull : node = .full ∧ bytes ≠ []
      · rw [if_pos hfull]
        obtain ⟨rfl, -⟩ := hfull
        exact .unwritten hopen hread
      · rw [if_neg hfull]
        exact .written hopen hread

/-! ### What is delivered -/

/-- **What is delivered** of a stream whose contents are known, and how: what the program writes, and
the host afterwards. -/
inductive Delivered (s : Stream) (bytes : Bytes) (made : Host ε) :
    Option String → Bytes → Host ε → Prop
  /-- The program writes it itself. -/
  | printed : Delivered s bytes made none bytes made
  /-- A file holds it, or nothing, if the stream reads that file. -/
  | filed {out : String} {after : Host ε} {l : Location} {id : Nat}
      (hfind : after.files.find out = .ok (l, .file id))
      (hread : after.files.read out = .ok (if s.reads id then [] else bytes)) :
      Delivered s bytes made (some out) [] after
  /-- A device swallows it. -/
  | swallowed {out : String} {node : Node} (hdevice : ∀ id, node ≠ .file id)
      (hopen : made.files.openToWrite false out = .ok (node, made.files)) :
      Delivered s bytes made (some out) [] made

/-- What was copied to a file that was opened. -/
theorem delivered_of_written {s : Stream} {out : String} {made : Host ε} {node : Node}
    {opened : FileSystem} {bytes copied : Bytes} (hread : s.remaining made.files = .ok bytes)
    (hopen : made.files.openToWrite false out = .ok (node, opened))
    (hcopied : s.remaining opened = .ok copied) :
    Delivered s bytes made (some out) [] { made with files := opened.append node copied } := by
  cases FileSystem.opened_of_openToWrite hopen with
  | @file _ l id hfind hnodes hcontents =>
    have hempty : opened.contentsOf id = [] := by rw [hcontents, if_pos rfl]
    have hwhole : copied = if s.reads id then [] else bytes := by
      rw [Stream.remaining_of_emptied hcontents, hread] at hcopied
      split at hcopied
      · next hreads => rw [if_pos hreads, ← Except.ok.inj hcopied]
      · next hreads => rw [if_neg hreads, ← Except.ok.inj hcopied]
    obtain ⟨hfound, hholds⟩ := FileSystem.read_append hfind hempty copied
    exact .filed hfound (hwhole ▸ hholds)
  | device hdirectory hfile =>
    -- nothing has changed, and what is written to the device is gone
    have hkept : made.files.append node copied = made.files := by
      cases node with
      | file id => exact absurd rfl (hfile id)
      | _ => rfl
    rw [hkept]
    exact .swallowed hfile hopen

/-- **A copy that ends well has delivered the stream**, which could be read before. -/
theorem delivered_of_done {s : Stream} {made after : Host ε} {printed : Bytes}
    {output : Option String} (hdone : (deliver s output).run made = (.done printed, after)) :
    ∃ bytes, s.remaining made.files = .ok bytes ∧ Delivered s bytes made output printed after := by
  cases output with
  | none =>
    rw [deliver, Action.run, readAll] at hdone
    cases hread : s.remaining made.files with
    | error fault =>
      rw [hread] at hdone
      cases hdone
    | ok bytes =>
      rw [hread] at hdone
      cases hdone
      exact ⟨printed, rfl, .printed⟩
  | some out =>
    have hhanded := handed_deliver s out made
    rw [hdone] at hhanded
    cases hhanded with
    | @written node opened copied hopen hcopied =>
      have hopened := FileSystem.opened_of_openToWrite hopen
      cases hread : s.remaining made.files with
      | error fault =>
        -- then it could not have been read afterwards either
        rw [(Stream.remaining_opened_eq_error_iff hopened).mpr hread] at hcopied
        cases hcopied
      | ok bytes => exact ⟨bytes, rfl, delivered_of_written hread hopen hcopied⟩

section Delivering

variable {b : Backend ε} {c : Config.Context} {input source target : String}

/-- What was handed over was made before, and the artifact is the stream. -/
theorem exists_artifact_of_done {output : Option String} {host after : Host ε} {printed : Bytes}
    (hdone : (exec b c input source target output).run host = (.done printed, after)) :
    ∃ s made, (artifact b c input source target).run host = (.done s, made) ∧
      (deliver s output).run made = (.done printed, after) := by
  rw [exec_eq, Action.run_bind] at hdone
  rcases hmade : (artifact b c input source target).run host with ⟨_ | _ | _, made⟩ <;>
    rw [hmade] at hdone
  · exact ⟨_, made, rfl, hdone⟩
  · cases hdone
  · cases hdone

/-- **What the program delivers.** If it ends well, the artifact was made and could be read, and
without a file to copy it to the program writes just what was there to be read, and nothing has
changed since. With one, the file holds the same afterwards, unless it is the file that the artifact
reads, which then is empty; and a device swallows it. From a state to itself nothing is changed on
the way, and what is there to be read is what the input holds. -/
theorem artifact_delivered {output : Option String} {host after : Host ε} {printed : Bytes}
    (hdone : (exec b c input source target output).run host = (.done printed, after)) :
    ∃ s made bytes, (artifact b c input source target).run host = (.done s, made) ∧
      s.remaining made.files = .ok bytes ∧
      (exec b c input source target none).run host = (.done bytes, made) ∧
      Delivered s bytes made output printed after ∧
      (source = target → made.files = host.files ∧ host.files.read input = .ok bytes ∧
        ∃ l node, host.files.find input = .ok (l, node) ∧ s = .ofNode node) := by
  obtain ⟨s, made, hmade, hhanded⟩ := exists_artifact_of_done hdone
  obtain ⟨bytes, hread, hdelivered⟩ := delivered_of_done hhanded
  refine ⟨s, made, bytes, hmade, hread, ?_, hdelivered, ?_⟩
  · rw [run_exec_of_done b c input source target hmade, deliver, Action.run, readAll, hread]
  · rintro rfl
    obtain ⟨hfiles, hinput⟩ := run_artifact_same b c input source host
    rw [hmade] at hfiles hinput
    obtain ⟨l, node, hfind, rfl⟩ := hinput s rfl
    have hfiles : made.files = host.files := hfiles
    refine ⟨hfiles, ?_, l, node, hfind, rfl⟩
    rw [← remaining_ofNode hfind, ← hfiles, hread]

end Delivering

/-- A host with a directory and two files, and nothing else. -/
def plainHost : Host FakeHost where
  files := ((FileSystem.empty.addDirectory ["tmp"]).addFile ["in"] [104, 105]).addFile ["out"] [120]
  outside := {}

/-- What the program does there to hand over an input as it is. -/
def handOver (input : String) (output : Option String) : Outcome Bytes × Host FakeHost :=
  (exec (FakeHost.backend (.whole FakeHost)) (.ofValue (.table [])) input "text" "text" output).run
    plainHost

/-- A file is copied to another one. -/
theorem artifact_delivered_to_file :
    ∃ s made bytes, handOver "in" none = (.done bytes, made) ∧
      Delivered s bytes made (some "out") [] (handOver "in" (some "out")).2 ∧
      plainHost.files.read "in" = .ok bytes := by
  have hdone : (handOver "in" (some "out")).1 = .done [] := by decide +kernel
  obtain ⟨s, made, bytes, -, -, hprinted, hdelivered, hsame⟩ :=
    artifact_delivered (Prod.ext hdone rfl : handOver "in" (some "out") = (.done [], _))
  exact ⟨s, made, bytes, hprinted, hdelivered, (hsame rfl).2.1⟩

/-- **A copy of a file to itself empties it**: what the program would write itself is gone. -/
theorem copy_to_itself_empties :
    (handOver "in" none).1 = .done [104, 105] ∧ (handOver "in" (some "in")).1 = .done [] ∧
      (plainHost.files.read "in").toOption = some [104, 105] ∧
      ((handOver "in" (some "in")).2.files.read "in").toOption = some [] := by
  decide +kernel

/-! ### What a failure leaves -/

/-- **What is left of the file after a failure**, where the artifact, if it was made, was ready
`before`. -/
inductive OutputAfterFailure (made : Outcome Stream) (before : FileSystem) (out : String) :
    Failure → FileSystem → Prop
  /-- There is no artifact, and the file was not looked at. -/
  | unmade {f : Failure} (hmade : made = .failed f) : OutputAfterFailure made before out f before
  /-- The file cannot be opened. -/
  | unopened {s : Stream} {fault : IoFault} (hmade : made = .done s)
      (hopen : before.openToWrite false out = .error fault) :
      OutputAfterFailure made before out (.io fault) before
  /-- The file is a device without room for the artifact. -/
  | unwritten {s : Stream} {bytes : Bytes} (hmade : made = .done s)
      (hread : s.remaining before = .ok bytes)
      (hopen : before.openToWrite false out = .ok (.full, before)) :
      OutputAfterFailure made before out (.io noRoom) before
  /-- The artifact cannot be read, and the file, unless it is a device, is empty. -/
  | emptied {s : Stream} {fault : IoFault} {node : Node} {opened : FileSystem}
      (hmade : made = .done s) (hread : s.remaining before = .error fault)
      (hopen : before.openToWrite false out = .ok (node, opened))
      (hempty : ∀ id, node = .file id → opened.read out = .ok []) :
      OutputAfterFailure made before out (.io fault) opened

/-- A copy that fails leaves the file alone, unless the stream cannot be read. -/
theorem outputAfterFailure_of_handed {s : Stream} {out : String} {made after : Host ε} {f : Failure}
    (hhanded : Handed s out made (.failed f) after) :
    OutputAfterFailure (.done s) made.files out f after.files := by
  cases hhanded with
  | unopened hopen => exact .unopened rfl hopen
  | @unread node opened fault hopen hread =>
    have hopened := FileSystem.opened_of_openToWrite hopen
    refine .emptied rfl ((Stream.remaining_opened_eq_error_iff hopened).mp hread) hopen ?_
    rintro id rfl
    cases hopened with
    | file hfind hnodes hcontents =>
      rw [FileSystem.read_of_find hfind, hcontents, if_pos rfl]
    | device hdirectory hfile => exact absurd rfl (hfile id)
  | @unwritten opened bytes hopen hread =>
    -- a device is not changed by opening it
    cases FileSystem.opened_of_openToWrite hopen
    exact .unwritten rfl hread hopen

section Failing

variable {b : Backend ε} {c : Config.Context} {input source target : String}

/-- What failed is the making of the artifact or the copying of it. -/
theorem outputAfterFailure_of_failed {out : String} {host after : Host ε} {f : Failure}
    (hfailed : (exec b c input source target (some out)).run host = (.failed f, after)) :
    ∃ outcome before, (artifact b c input source target).run host = (outcome, before) ∧
      OutputAfterFailure outcome before.files out f after.files := by
  rw [exec_eq, Action.run_bind] at hfailed
  rcases hmade : (artifact b c input source target).run host with ⟨s | g | _, before⟩ <;>
    rw [hmade] at hfailed
  · have hcopied : (deliver s (some out)).run before = (.failed f, after) := hfailed
    have hhanded := handed_deliver s out before
    rw [hcopied] at hhanded
    exact ⟨_, _, rfl, outputAfterFailure_of_handed hhanded⟩
  · cases hfailed
    exact ⟨_, _, rfl, .unmade rfl⟩
  · cases hfailed

/-- **What a failure leaves of the file.** If the artifact is not made, the file is as the making
left it; if it is, the file is as it was then, or its contents were dropped, which takes an artifact
that cannot be read and a file that can be opened. From a state to itself the making leaves all files
alone, so if anything has changed afterwards, the input is a directory. -/
theorem output_after_failure {out : String} {host after : Host ε} {f : Failure}
    (hfailed : (exec b c input source target (some out)).run host = (.failed f, after)) :
    ∃ outcome before, (artifact b c input source target).run host = (outcome, before) ∧
      OutputAfterFailure outcome before.files out f after.files ∧
      (source = target → before.files = host.files ∧
        (after.files ≠ host.files →
          f = .io .isDirectory ∧ ∃ l, host.files.find input = .ok (l, .directory))) := by
  obtain ⟨outcome, before, hmade, hleft⟩ := outputAfterFailure_of_failed hfailed
  refine ⟨outcome, before, hmade, hleft, ?_⟩
  rintro rfl
  obtain ⟨hfiles, hinput⟩ := run_artifact_same b c input source host
  rw [hmade] at hfiles hinput
  have hfiles : before.files = host.files := hfiles
  refine ⟨hfiles, fun hchanged => ?_⟩
  generalize after.files = left at hleft hchanged
  cases hleft with
  | emptied hdone hread hopen hempty =>
    obtain ⟨l, node, hfind, rfl⟩ := hinput _ hdone
    rw [hfiles, remaining_ofNode hfind] at hread
    obtain ⟨rfl, rfl⟩ := eq_directory_of_read hfind hread
    exact ⟨rfl, l, hfind⟩
  | _ => exact absurd hfiles hchanged

end Failing

/-- A directory is handed over like a file, and fails. -/
theorem output_after_failure_of_directory :
    ∃ outcome before,
      OutputAfterFailure outcome before "out" (.io .isDirectory)
        (handOver "tmp" (some "out")).2.files ∧
      before = plainHost.files ∧ ∃ l, plainHost.files.find "tmp" = .ok (l, .directory) := by
  have hfailed : (handOver "tmp" (some "out")).1 = .failed (.io .isDirectory) := by
    decide +kernel
  have hchanged : (handOver "tmp" (some "out")).2.files ≠ plainHost.files := by
    intro heq
    have hreads : ((handOver "tmp" (some "out")).2.files.read "out").toOption ≠
        (plainHost.files.read "out").toOption := by decide +kernel
    exact hreads (by rw [heq])
  obtain ⟨outcome, before, -, hleft, hsame⟩ :=
    output_after_failure (Prod.ext hfailed rfl : handOver "tmp" (some "out") = (.failed _, _))
  exact ⟨outcome, before.files, hleft, (hsame rfl).1, ((hsame rfl).2 hchanged).2⟩

/-- **A failure can take the contents of the file with it**: an input that is a directory is opened
like any other, and when it turns out that it cannot be read, the file is empty. -/
theorem failed_copy_empties :
    (handOver "tmp" (some "out")).1 = .failed (.io .isDirectory) ∧
      (plainHost.files.read "out").toOption = some [120] ∧
      ((handOver "tmp" (some "out")).2.files.read "out").toOption = some [] := by
  decide +kernel

end Program

end ArtifactPipeline
