import ArtifactPipeline.Proofs.Remote.FakeHost
import ArtifactPipeline.Proofs.Remote.Session

/-!
# Sessions on a fake host

What the operations of a session come to when the remote host is a fake one. Most of them *spare*
both hosts (`Spares`): the local files stay, and on the fake host some files are touched and nothing
else. Two do not: provisioning makes a directory (`run_provision_fakeHost`), and the release removes
it (`release_fakeHost`).
-/

namespace ArtifactPipeline

/-! ### One line -/

/-- A line without blanks is read as it was written. -/
theorem Text.lines_of_line {text : String} (hplain : ∀ c ∈ text.toList, isBlank c = false) :
    lines (text ++ "\n") = [text] := by
  have hsplit : splitOn '\n' (text.toList ++ ['\n']) = [text.toList, []] := by
    have hfeed : ∀ c ∈ text.toList, (c == '\n') = false := by
      intro c hc
      refine beq_eq_false_iff_ne.mpr ?_
      rintro rfl
      exact absurd (hplain _ hc) (by decide)
    rw [splitOn_eq, List.splitOn,
      List.splitOnP_append_cons_of_forall_mem hfeed '\n' (beq_self_eq_true _)]
    rfl
  have hreturn : dropReturn '\r' text.toList = text.toList := by
    rw [dropReturn, if_neg]
    intro hlast
    obtain ⟨c, hc, hsame⟩ := (Option.any_eq_true _ _).mp hlast
    obtain rfl := eq_of_beq hsame
    exact absurd (hplain _ (List.mem_of_getLast? hc)) (by decide)
  have hchars : (text ++ "\n").toList = text.toList ++ ['\n'] := String.toList_append
  rw [lines, linesOf, hchars, hsplit]
  simp [hreturn]

/-- The end of a line is trimmed. -/
theorem Text.trimmed_line (text : String) : trimmed (text ++ "\n") = trimmed text := by
  have hfeed : isBlank '\n' = true := by decide
  have hchars : (text ++ "\n").toList = text.toList ++ ['\n'] := String.toList_append
  rw [trimmed, trimmed, hchars, trim, trim, trimStart, trimStart, List.dropWhile_append]
  split
  · next hnil =>
    rw [List.isEmpty_iff.mp hnil, List.dropWhile_cons_of_pos hfeed]
    rfl
  · rw [trimEnd, List.reverse_append, List.reverse_singleton, List.singleton_append,
      List.dropWhile_cons_of_pos hfeed]
    rfl

namespace Remote

variable {ε α β : Type} {part : Part ε FakeHost} {touched more : List String}
  {host middle after : Host ε}

/-! ### Sparing the hosts -/

/-- Going from one host to another, the local files stay, and on the fake host only some files were
touched. -/
structure Spared (part : Part ε FakeHost) (touched : List String) (host after : Host ε) : Prop where
  files : after.files = host.files
  outside : FakeHost.Besides touched (part.get host.outside) (part.get after.outside)

theorem Spared.refl (host : Host ε) : Spared part touched host host := ⟨rfl, .refl _⟩

theorem Spared.trans (h : Spared part touched host middle) (h' : Spared part touched middle after) :
    Spared part touched host after :=
  ⟨h'.files.trans h.files, h.outside.trans h'.outside⟩

/-- Only the local files and the outside world count. -/
theorem Spared.congr {host' after' : Host ε} (h : Spared part touched host after)
    (hhost : host'.files = host.files ∧ host'.outside = host.outside)
    (hafter : after'.files = after.files ∧ after'.outside = after.outside) :
    Spared part touched host' after' := by
  refine ⟨?_, ?_⟩
  · rw [hafter.1, hhost.1, h.files]
  · rw [hafter.2, hhost.2]
    exact h.outside

/-- **An action that spares the hosts.** It does not crash, and however it ends, the local files stay
and only some files of the fake host are touched. -/
def Spares (part : Part ε FakeHost) (touched : List String) (x : Action (Host ε) α) : Prop :=
  ∀ host, (x.run host).1 ≠ .crashed ∧ Spared part touched host (x.run host).2

theorem Spares.mono {x : Action (Host ε) α} (h : Spares part touched x)
    (hmore : ∀ path ∈ touched, path ∈ more) : Spares part more x :=
  fun host => ⟨(h host).1, (h host).2.files, (h host).2.outside.mono hmore⟩

theorem spares_pure (a : α) : Spares part touched (pure a : Action (Host ε) α) :=
  fun host => ⟨nofun, .refl host⟩

theorem spares_ofExcept (x : Except Failure α) :
    Spares part touched (.ofExcept x : Action (Host ε) α) := by
  intro host
  cases x with
  | ok a => exact ⟨nofun, .refl host⟩
  | error f => exact ⟨nofun, .refl host⟩

theorem spares_record (event : Event) :
    Spares part touched (Host.record event : Action (Host ε) Unit) :=
  fun _ => ⟨nofun, rfl, .refl _⟩

theorem Spares.bind {x : Action (Host ε) α} {f : α → Action (Host ε) β}
    (hx : Spares part touched x) (hf : ∀ a, Spares part touched (f a)) :
    Spares part touched (x >>= f) := by
  intro host
  obtain ⟨hsafe, hspared⟩ := hx host
  rw [Action.run_bind]
  generalize x.run host = ended at hsafe hspared ⊢
  obtain ⟨outcome, middle⟩ := ended
  cases outcome with
  | done a =>
    obtain ⟨hsafe', hspared'⟩ := hf a middle
    exact ⟨hsafe', hspared.trans hspared'⟩
  | failed f => exact ⟨nofun, hspared⟩
  | crashed => exact absurd rfl hsafe

/-! ### Commands -/

/-- A listener that leaves the files and the outside world alone. -/
def Quiet (listen : String → Host ε → Host ε) : Prop :=
  ∀ line host, (listen line host).files = host.files ∧ (listen line host).outside = host.outside

theorem quiet_id : Quiet fun _ => (id : Host ε → Host ε) := fun _ _ => ⟨rfl, rfl⟩

theorem quiet_note (event : String → Event) : Quiet (ε := ε) fun line => Host.note (event line) :=
  fun _ _ => ⟨rfl, rfl⟩

theorem Quiet.foldl {listen : String → Host ε → Host ε} (h : Quiet listen) (lines : List String)
    (host : Host ε) :
    (lines.foldl (fun host line => listen line host) host).files = host.files ∧
      (lines.foldl (fun host line => listen line host) host).outside = host.outside := by
  induction lines generalizing host with
  | nil => exact ⟨rfl, rfl⟩
  | cons line lines ih =>
    obtain ⟨hfiles, houtside⟩ := ih (listen line host)
    exact ⟨hfiles.trans (h line host).1, houtside.trans (h line host).2⟩

/-- **A command that is within its limits** is carried out by the fake host. -/
theorem FakeHost.exec_within (part : Part ε FakeHost) {listen : String → Host ε → Host ε}
    (hlisten : Quiet listen) (command : String) (limits : Limits) (host : Host ε)
    (hwithin : (limits.check host.interrupted .instant).failure? = none) :
    ∃ after, FakeHost.exec part command limits listen host =
        (⟨Text.lines ((part.get host.outside).perform command).1,
          .ok ((part.get host.outside).perform command).2.1⟩, after) ∧
      after.files = host.files ∧
      part.get after.outside = ((part.get host.outside).perform command).2.2 := by
  rw [FakeHost.exec, hwithin]
  rcases (part.get host.outside).perform command with ⟨stdout, output, fake⟩
  obtain ⟨hfiles, houtside⟩ := hlisten.foldl (Text.lines stdout)
    { host with outside := part.set fake host.outside }
  refine ⟨_, rfl, hfiles, ?_⟩
  dsimp only
  rw [houtside, part.get_set]

namespace Session

/-- An ordinary command touches nothing, whatever it is answered. -/
theorem spares_exec (s : Session) {command : String} (hordinary : FakeHost.Ordinary command)
    (limits : Limits) {listen : String → Host ε → Host ε} (hlisten : Quiet listen) :
    Spares part [] (exec (FakeHost.backend part) s command limits listen) := by
  intro host
  have hspared : Spared part [] (host.note (commandEvent command))
      (FakeHost.exec part command limits listen (host.note (commandEvent command))).2 := by
    cases hlimits : (limits.check host.interrupted .instant).failure? with
    | some cause =>
      rw [FakeHost.exec, Host.interrupted_note, hlimits]
      exact .refl _
    | none =>
      obtain ⟨after, hexec, hfiles, houtside⟩ := FakeHost.exec_within part hlisten command
        limits (host.note (commandEvent command)) hlimits
      rw [hexec]
      refine ⟨hfiles, ?_⟩
      rw [houtside]
      exact FakeHost.besides_perform _ hordinary
  rcases hx : FakeHost.exec part command limits listen (host.note (commandEvent command))
    with ⟨delivery, middle⟩
  rw [hx] at hspared
  obtain ⟨after, hrun, houtside, hfiles⟩ :=
    run_exec_eq (FakeHost.backend part) s command limits listen hx
  rw [hrun]
  refine ⟨?_, hspared.congr ⟨rfl, rfl⟩ ⟨hfiles, houtside⟩⟩
  dsimp only
  split <;> exact nofun

theorem spares_runLogged (s : Session) {command : String} (hordinary : FakeHost.Ordinary command)
    (limits : Limits) : Spares part [] (runLogged (FakeHost.backend part) s command limits) :=
  (spares_exec s hordinary limits (quiet_note _)).bind fun _ => spares_pure ()

/-! ### Connections and copies -/

/-- An operation of the fake host that touches some files spares the hosts. -/
theorem spared_set {fake : FakeHost}
    (h : FakeHost.Besides touched (part.get host.outside) fake) :
    Spared part touched host { host with outside := part.set fake host.outside } := by
  refine ⟨rfl, ?_⟩
  dsimp only
  rw [part.get_set]
  exact h

/-- An operation of a backend never crashes. -/
theorem spares_lift {x : Operation ε α} (h : ∀ host, Spared part touched host (x host).2) :
    Spares part touched (lift x) := by
  intro host
  have hspared := h host
  rw [Action.run, lift]
  generalize x host = ended at hspared ⊢
  obtain ⟨answer, after⟩ := ended
  cases answer <;> exact ⟨by simp, hspared⟩

theorem spares_connect (target : Target) :
    Spares part [] (lift ((FakeHost.backend part).connect target)) :=
  spares_lift fun _ => spared_set (FakeHost.besides_connect _ target)

/-- To copy a file to the fake host touches that file. -/
theorem spares_put (s : Session) (localPath remotePath : String) :
    Spares part [remotePath] (put (FakeHost.backend part) s localPath remotePath) :=
  (spares_record _).bind fun _ => spares_lift fun host =>
    spared_set (FakeHost.besides_accept _ host.files localPath remotePath)

/-- To close a connection touches nothing. -/
theorem spared_close (part : Part ε FakeHost) (connection : Nat) (host : Host ε) :
    Spared part [] host ((FakeHost.backend part).close connection host).2 :=
  spared_set (FakeHost.besides_close _)

/-- **To fetch a file** touches nothing on the fake host. Where it succeeds, what the file held was
written to the local host. -/
theorem run_get_fakeHost (part : Part ε FakeHost) (s : Session) (remotePath localPath : String)
    (host : Host ε) :
    ∃ outcome after,
      (get (FakeHost.backend part) s remotePath localPath).run host = (outcome, after) ∧
      outcome ≠ .crashed ∧
      FakeHost.Besides [] (part.get host.outside) (part.get after.outside) ∧
      (outcome = .done () → ∃ bytes, (part.get host.outside).file? remotePath = some bytes ∧
        host.files.write localPath bytes = .ok after.files) := by
  obtain ⟨hbesides, hdelivered⟩ := FakeHost.deliver_cases (part.get host.outside) remotePath
  rw [get, Action.run_bind]
  simp only [Action.run, Host.record, Action.change, lift, FakeHost.backend, Host.outside_note]
  generalize (part.get host.outside).deliver remotePath = answered at hbesides hdelivered ⊢
  obtain ⟨answer, fake⟩ := answered
  cases answer with
  | error cause => exact ⟨_, _, rfl, by simp, (spared_set hbesides).outside, by simp⟩
  | ok bytes =>
    dsimp only [Host.files_note]
    cases hwrite : host.files.write localPath bytes with
    | error fault => exact ⟨_, _, rfl, by simp, (spared_set hbesides).outside, by simp⟩
    | ok files =>
      exact ⟨_, _, rfl, by simp, (spared_set hbesides).outside,
        fun _ => ⟨bytes, hdelivered bytes rfl, hwrite⟩⟩

/-! ### The workspace -/

/-- What the command for a new directory writes, when it ends well, is the name of the directory. -/
theorem run_capture_fakeHost (part : Part ε FakeHost) (s : Session) (host : Host ε) :
    (∃ f after, (capture (FakeHost.backend part) s provisionCommand .unlimited).run host =
        (.failed f, after) ∧ Spared part [] host after) ∨
    ∃ after, (capture (FakeHost.backend part) s provisionCommand .unlimited).run host =
        (.done (FakeHost.directoryName ((part.get host.outside).made + 1) ++ "\n"), after) ∧
      after.files = host.files ∧
      FakeHost.Provisions (part.get host.outside) (part.get after.outside) := by
  obtain ⟨middle, hexec, hfiles, houtside⟩ := FakeHost.exec_within part quiet_id provisionCommand
    .unlimited (host.note (commandEvent provisionCommand)) rfl
  obtain ⟨after, hrun, hsame, hkept⟩ := run_exec_eq (FakeHost.backend part) s provisionCommand
    .unlimited (fun _ => id) hexec
  have hfiles : after.files = host.files := hkept.trans hfiles
  rw [← hsame, Host.outside_note] at houtside
  rw [Host.outside_note] at hrun
  rcases FakeHost.perform_provision (part.get host.outside) with
    ⟨output, fake, hperform, hbad, hbesides⟩ | ⟨fake, hperform, hprovisions⟩
  · -- the command ended badly
    rw [hperform] at houtside hrun
    have hfailure : (⟨Text.lines "", .ok output⟩ : Delivery).failure? provisionCommand =
        some (.command provisionCommand output.stderr) := by
      simp [Delivery.failure?, hbad]
    rw [hfailure] at hrun
    refine .inl ⟨.command provisionCommand output.stderr, after, ?_, hfiles, houtside ▸ hbesides⟩
    rw [capture, Action.run_bind, hrun]
  · -- the name was written on one line
    rw [hperform] at houtside hrun
    have hline := Text.lines_of_line fun c hc =>
      FakeHost.isBlank_of_mem_directoryName (n := (part.get host.outside).made + 1) hc
    have hjoined : ∀ text : String, String.join ([text].map (· ++ "\n")) = text ++ "\n" :=
      fun text => by simp [String.join]
    refine .inr ⟨after, ?_, hfiles, houtside ▸ hprovisions⟩
    rw [capture, Action.run_bind, hrun, hline, ← hjoined]
    rfl

/-- **Provisioning on a fake host** fails and changes nothing, or makes a directory and records its
name. -/
theorem run_provision_fakeHost (part : Part ε FakeHost) (s : Session) (host : Host ε) :
    (∃ f after, (provision (FakeHost.backend part)).run (s, host) = (.failed f, (s, after)) ∧
      Spared part [] host after) ∨
    ∃ workspace after, (provision (FakeHost.backend part)).run (s, host) =
        (.done workspace, ({ s with workspace := some workspace }, after)) ∧
      workspace = FakeHost.directoryName ((part.get host.outside).made + 1) ∧
      after.files = host.files ∧
      FakeHost.Provisions (part.get host.outside) (part.get after.outside) := by
  rcases run_capture_fakeHost part s host with
    ⟨f, after, hcapture, hspared⟩ | ⟨after, hcapture, hfiles, hprovisions⟩
  · refine .inl ⟨f, after, ?_, hspared⟩
    rw [Action.run, provision, hcapture]
  · -- the name is read from the line, and it is not empty
    have hread := Text.trimmed_line (FakeHost.directoryName ((part.get host.outside).made + 1))
    rw [FakeHost.trimmed_directoryName] at hread
    have hnamed : FakeHost.directoryName ((part.get host.outside).made + 1) ≠ "" := by
      rw [Ne, ← String.toList_eq_nil_iff, FakeHost.toList_directoryName]
      exact List.append_ne_nil_of_left_ne_nil (by decide) _
    refine .inr ⟨_, after.note ⟨.debug, "provisioned remote directory",
      [("remote_dir", FakeHost.directoryName ((part.get host.outside).made + 1))], none⟩,
      ?_, rfl, hfiles, hprovisions⟩
    rw [Action.run, provision, hcapture]
    simp only [hread, if_neg hnamed]

/-- **Removing the workspace** that the fake host has named: it goes with all that is below it,
unless the host was told to fail there. -/
theorem remove_fakeHost (part : Part ε FakeHost) {s : Session} {n : Nat}
    (hworkspace : s.workspace = some (FakeHost.directoryName n)) (host : Host ε) :
    ∃ result after, remove (FakeHost.backend part) s host = (result, after) ∧
      after.files = host.files ∧
      (part.get after.outside).made = (part.get host.outside).made ∧
      ((part.get host.outside).failingPattern? (removeCommand (FakeHost.directoryName n)) = none →
        FakeHost.Removes n (part.get host.outside) (part.get after.outside)) := by
  obtain ⟨after, hexec, hfiles, houtside⟩ := FakeHost.exec_within part quiet_id
    (removeCommand (FakeHost.directoryName n)) .unlimited host rfl
  obtain ⟨output, fake, hperform, hmade, hremoves⟩ :=
    FakeHost.perform_remove (part.get host.outside) n
  rw [hperform] at houtside
  have hexec : (FakeHost.backend part).exec s.connection
      (removeCommand (FakeHost.directoryName n)) .unlimited (fun _ => id) host = _ := hexec
  simp only [remove, hworkspace, hexec]
  -- a bad end shows in a note only
  split <;> exact ⟨_, _, rfl, hfiles, houtside ▸ hmade, houtside ▸ hremoves⟩

/-- A release without a workspace touches nothing. -/
theorem release_fakeHost_of_none (part : Part ε FakeHost) {s : Session}
    (hworkspace : s.workspace = none) (host : Host ε) :
    Spared part [] host (release (FakeHost.backend part) s host).2.2 := by
  rw [release, remove, hworkspace]
  exact spared_close part s.connection host

/-- **A release with a workspace** that the fake host has named removes it, unless the host was told
to fail there. -/
theorem release_fakeHost (part : Part ε FakeHost) {s : Session} {n : Nat}
    (hworkspace : s.workspace = some (FakeHost.directoryName n)) (host : Host ε) :
    (release (FakeHost.backend part) s host).2.2.files = host.files ∧
      (part.get (release (FakeHost.backend part) s host).2.2.outside).made =
        (part.get host.outside).made ∧
      ((part.get host.outside).failingPattern? (removeCommand (FakeHost.directoryName n)) = none →
        FakeHost.Removes n (part.get host.outside)
          (part.get (release (FakeHost.backend part) s host).2.2.outside)) := by
  obtain ⟨result, middle, hremove, hfiles, hmade, hremoves⟩ :=
    remove_fakeHost part hworkspace host
  have hclose := spared_close part s.connection middle
  rw [release, hremove]
  dsimp only
  refine ⟨hclose.files.trans hfiles, hclose.outside.made.trans hmade, fun hallowed => ?_⟩
  exact (hremoves hallowed).trans_besides hclose.outside

end Session

end Remote

end ArtifactPipeline
