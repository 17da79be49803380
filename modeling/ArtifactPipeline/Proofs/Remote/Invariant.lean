import ArtifactPipeline.Proofs.Remote.FakeSession

/-!
# Invariants of a session

A session acts on the local files and on the outside world through its backend alone, so it keeps
true of the two whatever every operation of the backend keeps true.

* `Action.Keeps` says of an action that it keeps a property of its state, however it ends, and has
  rules for sequences;
* `Backend.Keeps` says of a backend that its operations keep a property of the files and of the
  outside world, apart from fetching a file, for which `Backend.KeepsFetching` says it;
* there is one lemma for each operation of a session.
-/

namespace ArtifactPipeline

/-! ### Actions -/

namespace Action

variable {σ α β : Type} {P Q : σ → Prop}

/-- **An action keeps a property of the state**, however it ends. -/
def Keeps (P : σ → Prop) (x : Action σ α) : Prop := ∀ s, P s → P (x.run s).2

theorem keeps_pure (a : α) : (pure a : Action σ α).Keeps P := fun _ h => h

theorem keeps_ofExcept (x : Except Failure α) : (ofExcept x : Action σ α).Keeps P := fun _ h => h

/-- An action keeps a property, and what comes after it leads from there to a weaker one. -/
theorem Keeps.bind_weaken {x : Action σ α} {f : α → Action σ β} (hx : x.Keeps P)
    (hweaken : ∀ s, P s → Q s) (hf : ∀ a s, P s → Q ((f a).run s).2) (s : σ) (h : P s) :
    Q ((x >>= f).run s).2 := by
  have hmiddle := hx s h
  rw [run_bind]
  generalize x.run s = ended at hmiddle ⊢
  obtain ⟨outcome, middle⟩ := ended
  cases outcome with
  | done a => exact hf a middle hmiddle
  | failed f => exact hweaken middle hmiddle
  | crashed => exact hweaken middle hmiddle

theorem Keeps.bind {x : Action σ α} {f : α → Action σ β} (hx : x.Keeps P)
    (hf : ∀ a, (f a).Keeps P) : (x >>= f).Keeps P :=
  hx.bind_weaken (fun _ h => h) hf

end Action

namespace Remote

variable {ε α : Type} {I : FileSystem → ε → Prop}

/-- A property of the files and of the outside world, read on a host. -/
abbrev On (I : FileSystem → ε → Prop) (host : Host ε) : Prop := I host.files host.outside

/-- **A backend keeps a property of the files and of the outside world.** A command does so whenever
whoever listens to it leaves both alone. Fetching is apart, because it is for the sake of a change to
the files. -/
structure Backend.Keeps (I : FileSystem → ε → Prop) (b : Backend ε) : Prop where
  connect : ∀ target host, On I host → On I (b.connect target host).2
  exec : ∀ connection command limits listen, Quiet listen → ∀ host, On I host →
    On I (b.exec connection command limits listen host).2
  put : ∀ connection localPath remotePath host, On I host →
    On I (b.put connection localPath remotePath host).2
  close : ∀ connection host, On I host → On I (b.close connection host).2

/-- **Fetching a file keeps a property** of the files and of the outside world. -/
def Backend.KeepsFetching (I : FileSystem → ε → Prop) (b : Backend ε) : Prop :=
  ∀ connection remotePath localPath host, On I host →
    On I (b.get connection remotePath localPath host).2

theorem keeps_record (event : Event) : (Host.record event).Keeps (On I) := fun _ h => h

theorem keeps_onFiles {f : FileSystem → Except IoFault (α × FileSystem)}
    (hf : ∀ files e a files', f files = .ok (a, files') → I files e → I files' e) :
    (Host.onFiles f).Keeps (On I) := by
  intro host h
  rw [Action.run, Host.onFiles]
  split
  · next hdone => exact hf _ _ _ _ hdone h
  · exact h

/-! ### Sessions -/

namespace Session

theorem keeps_lift {x : Operation ε α} (hx : ∀ host, On I host → On I (x host).2) :
    (lift x).Keeps (On I) := by
  intro host h
  have hafter := hx host h
  rw [Action.run, lift]
  generalize x host = ended at hafter ⊢
  obtain ⟨answer, after⟩ := ended
  cases answer <;> exact hafter

theorem keeps_get {b : Backend ε} (hget : b.KeepsFetching I) (s : Session)
    (remotePath localPath : String) : (get b s remotePath localPath).Keeps (On I) :=
  (keeps_record _).bind fun _ => keeps_lift (hget s.connection remotePath localPath)

variable {b : Backend ε} (hb : b.Keeps I)

include hb

theorem keeps_exec (s : Session) (command : String) (limits : Limits)
    {listen : String → Host ε → Host ε} (hlisten : Quiet listen) :
    (exec b s command limits listen).Keeps (On I) := by
  intro host h
  have hmiddle := hb.exec s.connection command limits listen hlisten
    (host.note (commandEvent command)) h
  rcases hx : b.exec s.connection command limits listen (host.note (commandEvent command))
    with ⟨delivery, middle⟩
  rw [hx] at hmiddle
  -- looking at how the command ended reaches neither the files nor outside
  obtain ⟨after, hrun, houtside, hfiles⟩ := run_exec_eq b s command limits listen hx
  rw [hrun, On, houtside, hfiles]
  exact hmiddle

theorem keeps_runLogged (s : Session) (command : String) (limits : Limits) :
    (runLogged b s command limits).Keeps (On I) :=
  (keeps_exec hb s command limits (quiet_note _)).bind fun _ => Action.keeps_pure ()

theorem keeps_put (s : Session) (localPath remotePath : String) :
    (put b s localPath remotePath).Keeps (On I) :=
  (keeps_record _).bind fun _ => keeps_lift (hb.put s.connection localPath remotePath)

theorem keeps_provision : (provision b).Keeps fun state => On I state.2 := by
  intro (s, host) h
  have hcapture : (capture b s provisionCommand .unlimited).Keeps (On I) :=
    (keeps_exec hb s provisionCommand .unlimited quiet_id).bind fun _ => Action.keeps_pure _
  have hafter := hcapture host h
  rw [Action.run, provision]
  generalize (capture b s provisionCommand .unlimited).run host = ended at hafter ⊢
  obtain ⟨outcome, after⟩ := ended
  cases outcome with
  | done written =>
    dsimp only
    split <;> exact hafter
  | failed f => exact hafter
  | crashed => exact hafter

theorem keeps_release (s : Session) (host : Host ε) (h : On I host) :
    On I (release b s host).2.2 := by
  have hremoved : On I (remove b s host).2 := by
    rw [remove]
    cases s.workspace with
    | none => exact h
    | some workspace =>
      have hafter := hb.exec s.connection (removeCommand workspace) .unlimited (fun _ => id)
        quiet_id host h
      rcases hx : b.exec s.connection (removeCommand workspace) .unlimited (fun _ => id) host
        with ⟨delivery, after⟩
      rw [hx] at hafter
      simp only [hx]
      -- whether the command ended well shows in a note only
      split
      · exact hafter
      · split <;> exact hafter
  exact hb.close s.connection _ hremoved

end Session

end Remote

end ArtifactPipeline
