import ArtifactPipeline.Remote.Ssh

/-!
# Following a command

While a command runs over ssh, its lines are read one by one. After each line the limits are looked
at, and once more after the command has ended. `Watch.looked` numbers the looks: the one with the
number `n` comes after the line with that number, and the one after all lines is the last. What a
look finds depends on the listener, the clock and the user, and any of them may do anything.

The crux is `Watch.followed_of_within`: as long as every look finds the command within its limits,
following goes on as if it began there. So three things can end it: a look after a line, a line that
cannot be read, and the end of the command.

* `exec_outcome` : what comes of a command all of whose lines can be read;
* `exec_fate` : what becomes of the child, whatever can be read. It is waited for, and before that
  killed if it had not ended, but for one case: at a line that cannot be read it is left alone
  (`child_left_at_bytes`).
-/

namespace ArtifactPipeline.Remote

/-! ### The limits at one moment -/

namespace Limits

variable (limits : Limits) (interrupted : Bool) (elapsed : Duration)

theorem check_eq_cancelled_iff : limits.check interrupted elapsed = .cancelled ↔
    limits.cancellable = true ∧ interrupted = true := by
  unfold check
  rw [← Bool.and_eq_true]
  split
  · next hrequested => simp [hrequested]
  · next hrequested =>
    -- neither of the two answers that are left is a cancellation
    refine iff_of_false ?_ hrequested
    split
    · split <;> simp
    · simp

theorem check_eq_timedOut_iff (limit : Duration) :
    limits.check interrupted elapsed = .timedOut limit ↔
      ¬(limits.cancellable = true ∧ interrupted = true) ∧
        limits.timeout = some limit ∧ limit < elapsed := by
  unfold check
  rw [← Bool.and_eq_true]
  split
  · next hrequested => simp [hrequested]
  · next hrequested =>
    rw [and_iff_right hrequested]
    cases limits.timeout with
    | none => simp
    | some timeout =>
      by_cases hlate : timeout < elapsed
      · simp only [hlate, if_true, LimitStatus.timedOut.injEq, Option.some.injEq]
        constructor
        · rintro rfl
          exact ⟨rfl, hlate⟩
        · exact And.left
      · simp only [hlate, if_false, Option.some.injEq, reduceCtorEq, false_iff, not_and]
        rintro rfl
        exact hlate

end Limits

namespace LimitStatus

variable (s : LimitStatus)

theorem failure?_eq_none_iff : s.failure? = none ↔ s = .within := by
  cases s <;> simp [failure?]

theorem failure?_eq_cancelled_iff : s.failure? = some .cancelled ↔ s = .cancelled := by
  cases s <;> simp [failure?]

theorem failure?_eq_timedOut_iff (limit : Duration) :
    s.failure? = some (.timedOut limit) ↔ s = .timedOut limit := by
  cases s <;> simp [failure?]

end LimitStatus

namespace Ssh

variable {ε : Type}

/-! ### The looks at the limits -/

/-- What decides how a command is followed. -/
structure Watch (ε : Type) where
  limits : Limits
  listen : String → Host ε → Host ε
  run : ToolRun
  /-- The host once the command has been started. -/
  started : Host ε

namespace Watch

variable (w : Watch ε) (lines : List String)

/-- Show the line with a number to the listener, if there is one. -/
def shown (n : Nat) (host : Host ε) : Host ε :=
  match lines[n]? with
  | some line => w.listen line host
  | none => host

/-- The host after `n` lines and the looks after them. -/
def heard : Nat → Host ε
  | 0 => w.started
  | n + 1 => (look w.limits w.run n (w.shown lines n (heard n))).2

/-- A look at the limits: what it finds, and the host then. -/
def looked (n : Nat) : LimitStatus × Host ε :=
  look w.limits w.run n (w.shown lines n (w.heard lines n))

/-- What a look finds. -/
def status (n : Nat) : LimitStatus := (w.looked lines n).1

/-- The host after a look. -/
def after (n : Nat) : Host ε := (w.looked lines n).2

/-- Whether all looks before one find the command within its limits. -/
def WithinUntil (n : Nat) : Prop := ∀ m < n, w.status lines m = .within

/-- Whether at a look the user has asked for the command to be stopped, and the command heeds it. -/
def Tripped (n : Nat) : Prop :=
  w.limits.cancellable = true ∧ (w.after lines n).interrupted = true

/-- Follow the command from its first line on. -/
def followed (written : List (Except IoFault String)) : Followed × Host ε :=
  follow w.limits w.listen w.run 0 [] written w.started

theorem looked_of_lt {n : Nat} (hn : n < lines.length) :
    look w.limits w.run n (w.listen lines[n] (w.heard lines n)) =
      (w.status lines n, w.after lines n) := by
  have hshown : w.shown lines n (w.heard lines n) = w.listen lines[n] (w.heard lines n) := by
    unfold shown
    rw [List.getElem?_eq_getElem hn]
  rw [← hshown]
  rfl

/-- Nothing is shown before the last look. -/
theorem looked_length :
    look w.limits w.run lines.length (w.heard lines lines.length) =
      (w.status lines lines.length, w.after lines lines.length) := by
  have hshown (host : Host ε) : w.shown lines lines.length host = host := by
    unfold shown
    rw [List.getElem?_eq_none (Nat.le_refl _)]
  unfold status after looked
  rw [hshown]

/-- What a look finds depends on the host after it and the clock. -/
theorem status_eq (n : Nat) :
    w.status lines n = w.limits.check (w.after lines n).interrupted (w.run.elapsed n) := rfl

/-- A look finds the command stopped by the user when he has asked for it, late or not. -/
theorem failure?_status_eq_cancelled_iff (n : Nat) :
    (w.status lines n).failure? = some .cancelled ↔ w.Tripped lines n := by
  rw [LimitStatus.failure?_eq_cancelled_iff, status_eq, Limits.check_eq_cancelled_iff, Tripped]

/-- A look finds the command late only when the user has not asked for it to be stopped. -/
theorem failure?_status_eq_timedOut_iff (n : Nat) (limit : Duration) :
    (w.status lines n).failure? = some (.timedOut limit) ↔
      ¬w.Tripped lines n ∧ w.limits.timeout = some limit ∧ limit < w.run.elapsed n := by
  rw [LimitStatus.failure?_eq_timedOut_iff, status_eq, Limits.check_eq_timedOut_iff, Tripped]

variable {lines}

/-! ### The three ends -/

/-- **While the command is within its limits**, following goes on as if it began there. -/
theorem followed_of_within {n : Nat} (hn : n ≤ lines.length) (hwithin : w.WithinUntil lines n)
    (rest : List (Except IoFault String)) :
    w.followed (lines.map .ok ++ rest) =
      follow w.limits w.listen w.run n (lines.take n) ((lines.drop n).map .ok ++ rest)
        (w.heard lines n) := by
  induction n with
  | zero => rfl
  | succ n ih =>
    have hlt : n < lines.length := hn
    have hearlier : w.WithinUntil lines n := fun m hm => hwithin m (Nat.lt_succ_of_lt hm)
    rw [ih (Nat.le_of_lt hlt) hearlier, List.drop_eq_getElem_cons hlt, List.map_cons,
      List.cons_append, follow, w.looked_of_lt lines hlt, hwithin n (Nat.lt_succ_self n)]
    simp only [LimitStatus.failure?, List.take_append_getElem]
    rfl

/-- A look after a line stops the command. -/
theorem followed_of_stopped {n : Nat} {cause : TransportFailure} (hn : n < lines.length)
    (hwithin : w.WithinUntil lines n) (hcause : (w.status lines n).failure? = some cause)
    (rest : List (Except IoFault String)) :
    w.followed (lines.map .ok ++ rest) =
      (⟨lines.take (n + 1), .error cause, .killed⟩, w.after lines n) := by
  rw [w.followed_of_within (Nat.le_of_lt hn) hwithin, List.drop_eq_getElem_cons hn, List.map_cons,
    List.cons_append, follow, w.looked_of_lt lines hn]
  simp only [hcause, List.take_append_getElem]

/-- A line cannot be read. -/
theorem followed_of_unreadable (hwithin : w.WithinUntil lines lines.length) (fault : IoFault)
    (rest : List (Except IoFault String)) :
    w.followed (lines.map .ok ++ .error fault :: rest) =
      (⟨lines, .error (.io fault), .leftRunning⟩,
        (w.heard lines lines.length).abandon Tool.ssh.program) := by
  rw [w.followed_of_within (Nat.le_refl _) hwithin, List.take_length, List.drop_length]
  rfl

/-- The command ends. -/
theorem followed_of_ended (hwithin : w.WithinUntil lines lines.length) :
    w.followed (lines.map .ok) =
      (⟨lines, ((w.status lines lines.length).failure?.map .error).getD (concluded w.run), .waited⟩,
        w.after lines lines.length) := by
  have hfollowed := w.followed_of_within (Nat.le_refl _) hwithin []
  rw [List.append_nil, List.take_length, List.drop_length, List.map_nil, List.append_nil, follow,
    w.looked_length lines] at hfollowed
  rw [hfollowed]
  cases hcause : (w.status lines lines.length).failure? with
  | none => simp only [hcause, Option.map_none, Option.getD_none]
  | some cause => simp only [hcause, Option.map_some, Option.getD_some]

/-- Either no look finds the limits passed, or one is the first to do so. -/
theorem within_or_stopped (lines : List String) (n : Nat) :
    w.WithinUntil lines n ∨
      ∃ m < n, ∃ cause, w.WithinUntil lines m ∧ (w.status lines m).failure? = some cause := by
  induction n with
  | zero => exact .inl fun m hm => absurd hm (Nat.not_lt_zero m)
  | succ n ih =>
    rcases ih with hwithin | ⟨m, hm, hstopped⟩
    · cases hcause : (w.status lines n).failure? with
      | some cause => exact .inr ⟨n, Nat.lt_succ_self n, cause, hwithin, hcause⟩
      | none =>
        refine .inl fun m hm => ?_
        rcases Nat.lt_or_eq_of_le (Nat.le_of_lt_succ hm) with hlt | rfl
        · exact hwithin m hlt
        · exact (LimitStatus.failure?_eq_none_iff _).mp hcause
    · exact .inr ⟨m, Nat.lt_succ_of_lt hm, hstopped⟩

/-! ### What the listener has heard -/

/-- A listener that notes each line down in the outside world. -/
def Notes (noted : ε → List String) : Prop :=
  ∀ line host, noted (w.listen line host).outside = noted host.outside ++ [line]

variable {noted : ε → List String}

theorem outside_look (limits : Limits) (run : ToolRun) (n : Nat) (host : Host ε) :
    (look limits run n host).2.outside = host.outside := by
  unfold look
  cases run.interrupts n <;> rfl

theorem noted_after {n : Nat} (hnotes : w.Notes noted) (hn : n < lines.length) :
    noted (w.after lines n).outside = noted (w.heard lines n).outside ++ [lines[n]] := by
  have hafter : w.after lines n =
      (look w.limits w.run n (w.listen lines[n] (w.heard lines n))).2 :=
    congrArg Prod.snd (w.looked_of_lt lines hn).symm
  rw [hafter, outside_look, hnotes]

/-- **The lines are heard one by one**, in order. -/
theorem noted_heard {n : Nat} (hnotes : w.Notes noted) (hn : n ≤ lines.length) :
    noted (w.heard lines n).outside = noted w.started.outside ++ lines.take n := by
  induction n with
  | zero => rw [List.take_zero, List.append_nil, heard]
  | succ n ih =>
    calc noted (w.heard lines (n + 1)).outside
        = noted (w.heard lines n).outside ++ [lines[n]] := w.noted_after hnotes hn
      _ = noted w.started.outside ++ (lines.take n ++ [lines[n]]) := by
        rw [ih (Nat.le_of_lt hn), List.append_assoc]
      _ = noted w.started.outside ++ lines.take (n + 1) := by rw [List.take_append_getElem]

/-- The last look shows nothing. -/
theorem noted_after_length (hnotes : w.Notes noted) :
    noted (w.after lines lines.length).outside = noted w.started.outside ++ lines := by
  have hafter : w.after lines lines.length =
      (look w.limits w.run lines.length (w.heard lines lines.length)).2 :=
    congrArg Prod.snd (w.looked_length lines).symm
  rw [hafter, outside_look, w.noted_heard hnotes (Nat.le_refl _), List.take_length]

/-! ### The outcome of a command that can be read -/

/-- **What comes of a command** all of whose lines can be read. -/
structure Outcome (lines : List String) (result : Followed × Host ε) : Prop where
  /-- The first look that finds the limits passed, if it comes after a line, has the command killed,
  and no later line is shown. -/
  stopped : ∀ n < lines.length, ∀ cause, w.WithinUntil lines n →
    (w.status lines n).failure? = some cause →
      result = (⟨lines.take (n + 1), .error cause, .killed⟩, w.after lines n)
  /-- If it is the last look, the command has ended by itself; how it ended does not matter. -/
  overrun : ∀ cause, w.WithinUntil lines lines.length →
    (w.status lines lines.length).failure? = some cause →
      result = (⟨lines, .error cause, .waited⟩, w.after lines lines.length)
  /-- Within the limits, one exit code is that of ssh itself. -/
  refused : w.WithinUntil lines (lines.length + 1) → w.run.ending = .exited sshErrorCode →
    result = (⟨lines, .error (.ssh (Text.trimmed w.run.report)), .waited⟩,
      w.after lines lines.length)
  /-- Any other exit code is the command's. -/
  exited : w.WithinUntil lines (lines.length + 1) → ∀ code, code ≠ sshErrorCode →
    w.run.ending = .exited code →
      result = (⟨lines, .ok ⟨code, w.run.report⟩, .waited⟩, w.after lines lines.length)
  /-- A signal counts as the exit code `-1`. -/
  signalled : w.WithinUntil lines (lines.length + 1) → ∀ number,
    w.run.ending = .signalled number →
      result = (⟨lines, .ok ⟨-1, w.run.report⟩, .waited⟩, w.after lines lines.length)
  /-- The limits are passed by the user's request or by the clock, and the request comes first. -/
  cancelled : ∀ n, (w.status lines n).failure? = some .cancelled ↔ w.Tripped lines n
  timedOut : ∀ n limit, (w.status lines n).failure? = some (.timedOut limit) ↔
    ¬w.Tripped lines n ∧ w.limits.timeout = some limit ∧ limit < w.run.elapsed n
  /-- Only a command that no look has found beyond its limits has a result. -/
  within : ∀ output, result.1.result = .ok output → w.WithinUntil lines (lines.length + 1)
  /-- The listener has heard the lines that count as delivered, each once and in order. -/
  heardAll : ∀ noted, w.Notes noted →
    noted result.2.outside = noted w.started.outside ++ result.1.lines

/-- Every command that can be read ends in one of two ways: a look after a line stops it, or it is
waited for. -/
theorem followed_cases (lines : List String) :
    (∃ n < lines.length, ∃ cause, w.WithinUntil lines n ∧
      (w.status lines n).failure? = some cause ∧
        w.followed (lines.map .ok) =
          (⟨lines.take (n + 1), .error cause, .killed⟩, w.after lines n)) ∨
    w.WithinUntil lines lines.length ∧
      w.followed (lines.map .ok) =
        (⟨lines, ((w.status lines lines.length).failure?.map .error).getD (concluded w.run),
          .waited⟩, w.after lines lines.length) := by
  rcases w.within_or_stopped lines lines.length with
    hwithin | ⟨n, hn, cause, hwithin, hcause⟩
  · exact .inr ⟨hwithin, w.followed_of_ended hwithin⟩
  · refine .inl ⟨n, hn, cause, hwithin, hcause, ?_⟩
    rw [← w.followed_of_stopped hn hwithin hcause [], List.append_nil]

/-- Within its limits to the end, a command is judged by its end. -/
theorem followed_of_within_limits (hwithin : w.WithinUntil lines (lines.length + 1)) :
    w.followed (lines.map .ok) =
      (⟨lines, concluded w.run, .waited⟩, w.after lines lines.length) := by
  have hlast : w.status lines lines.length = .within := hwithin _ (Nat.lt_succ_self _)
  rw [w.followed_of_ended fun m hm => hwithin m (Nat.lt_succ_of_lt hm), hlast]
  rfl

theorem outcome_followed : w.Outcome lines (w.followed (lines.map .ok)) where
  stopped n hn cause hwithin hcause := by
    rw [← w.followed_of_stopped hn hwithin hcause [], List.append_nil]
  overrun cause hwithin hcause := by
    rw [w.followed_of_ended hwithin, hcause]
    rfl
  refused hwithin hending := by
    rw [w.followed_of_within_limits hwithin, concluded, if_pos hending]
  exited hwithin code hcode hending := by
    rw [w.followed_of_within_limits hwithin, concluded, hending,
      if_neg fun h => hcode (Ending.exited.inj h)]
    rfl
  signalled hwithin number hending := by
    rw [w.followed_of_within_limits hwithin, concluded, hending, if_neg Ending.noConfusion]
    rfl
  cancelled := w.failure?_status_eq_cancelled_iff lines
  timedOut := w.failure?_status_eq_timedOut_iff lines
  within output houtput := by
    rcases w.followed_cases lines with ⟨n, -, cause, -, -, hfollowed⟩ | ⟨hwithin, hfollowed⟩
    · rw [hfollowed] at houtput
      cases houtput
    · intro m hm
      rcases Nat.lt_or_eq_of_le (Nat.le_of_lt_succ hm) with hlt | rfl
      · exact hwithin m hlt
      · -- a last look that finds the limits passed leaves an error, whatever the end is
        rw [hfollowed] at houtput
        cases hcause : (w.status lines lines.length).failure? with
        | none => exact (LimitStatus.failure?_eq_none_iff _).mp hcause
        | some cause => simp [hcause] at houtput
  heardAll noted hnotes := by
    rcases w.followed_cases lines with ⟨n, hn, cause, -, -, hfollowed⟩ | ⟨-, hfollowed⟩
    · rw [hfollowed]
      exact w.noted_heard hnotes hn
    · rw [hfollowed]
      exact w.noted_after_length hnotes

end Watch

/-- **The outcome of a command.** -/
theorem exec_outcome {tools : Tools ε} {c : Client} {command : String} {host : Host ε}
    {lines : List String} (w : Watch ε)
    (hstarted : tools.run .ssh (c.commandArguments command) host = (.ok w.run, w.started))
    (hread : w.run.lines = lines.map .ok) :
    w.Outcome lines (c.exec tools command w.limits w.listen host) := by
  have hexec : c.exec tools command w.limits w.listen host = w.followed (lines.map .ok) := by
    rw [Client.exec, hstarted, ← hread]
    rfl
  rw [hexec]
  exact w.outcome_followed

/-- A command that has ended well, and of which the user has asked just then that it be stopped. -/
theorem exec_outcome_of_late_request :
    let run : ToolRun := { stdout := [0x61, 0x0A, 0x62], interrupts := fun n => n == 2 }
    let w : Watch (List String) :=
      { limits := { cancellable := true }, run,
        listen := fun line host => { host with outside := host.outside ++ [line] },
        started := { files := .empty, outside := [] } }
    let c : Client := ⟨{ host := "fpga01" }, "/tmp/master.sock", true⟩
    let tools : Tools (List String) := ⟨fun _ _ host => (.ok run, host)⟩
    tools.run .ssh (c.commandArguments "make") w.started = (.ok w.run, w.started) ∧
      w.run.lines = ["a", "b"].map .ok ∧
      w.Outcome ["a", "b"] (c.exec tools "make" w.limits w.listen w.started) :=
  ⟨rfl, rfl, exec_outcome _ rfl rfl⟩

/-! ### What becomes of the child -/

/-- Some lines can be read, and then no line is left or one cannot be read. -/
theorem exists_readable (written : List (Except IoFault String)) :
    ∃ lines : List String, written = lines.map .ok ∨
      ∃ fault rest, written = lines.map .ok ++ .error fault :: rest := by
  induction written with
  | nil => exact ⟨[], .inl rfl⟩
  | cons line written ih =>
    cases line with
    | error fault => exact ⟨[], .inr ⟨fault, written, rfl⟩⟩
    | ok line =>
      obtain ⟨lines, hread | ⟨fault, rest, hread⟩⟩ := ih
      · exact ⟨line :: lines, .inl (by rw [hread, List.map_cons])⟩
      · exact ⟨line :: lines, .inr ⟨fault, rest, by rw [hread, List.map_cons, List.cons_append]⟩⟩

namespace Watch

variable (w : Watch ε)

/-- A look after a line is the first one to find the command beyond its limits. -/
def Stops : Prop :=
  ∃ lines rest, w.run.lines = lines.map .ok ++ rest ∧
    ∃ n < lines.length, ∃ cause, w.WithinUntil lines n ∧
      (w.status lines n).failure? = some cause

/-- A line cannot be read, and the command has been within its limits before. -/
def Breaks (lines : List String) (fault : IoFault) : Prop :=
  w.WithinUntil lines lines.length ∧
    ∃ rest, w.run.lines = lines.map .ok ++ .error fault :: rest

/-- Every line can be read, and the command is within its limits at least until it has ended. -/
def Ends : Prop :=
  ∃ lines, w.run.lines = lines.map .ok ∧ w.WithinUntil lines lines.length

/-- **What becomes of the child.** There is no fourth case. -/
structure Fate (result : Followed × Host ε) : Prop where
  /-- It has ended, and this was waited for. -/
  waited : result.1.child = .waited ↔ w.Ends
  /-- It was killed, and its end was waited for. -/
  killed : result.1.child = .killed ↔ w.Stops
  /-- It is neither killed nor waited for. -/
  left : result.1.child = .leftRunning ↔ ∃ lines fault, w.Breaks lines fault
  waited_or_killed_or_left : result.1.child = .waited ∨ result.1.child = .killed ∨
    result.1.child = .leftRunning
  /-- When it is left, the lines before have been heard, and what is returned is the fault. -/
  broken : ∀ lines fault, w.Breaks lines fault →
    result = (⟨lines, .error (.io fault), .leftRunning⟩,
      (w.heard lines lines.length).abandon Tool.ssh.program)
  /-- A child that is left is still to be seen on the host. -/
  shown : result.1.child = .leftRunning → ∃ n, result.2.files.Shows n Tool.ssh.program "Z"

variable {w}

theorem Ends.child_eq (hends : w.Ends) : (w.followed w.run.lines).1.child = .waited := by
  obtain ⟨lines, hread, hwithin⟩ := hends
  rw [hread, w.followed_of_ended hwithin]

theorem Stops.child_eq (hstops : w.Stops) : (w.followed w.run.lines).1.child = .killed := by
  obtain ⟨lines, rest, hread, n, hn, cause, hwithin, hcause⟩ := hstops
  rw [hread, w.followed_of_stopped hn hwithin hcause]

theorem Breaks.followed_eq {lines : List String} {fault : IoFault} (hbreaks : w.Breaks lines fault) :
    w.followed w.run.lines =
      (⟨lines, .error (.io fault), .leftRunning⟩,
        (w.heard lines lines.length).abandon Tool.ssh.program) := by
  obtain ⟨hwithin, rest, hread⟩ := hbreaks
  rw [hread, w.followed_of_unreadable hwithin]

variable (w)

/-- One of the three cases is there. -/
theorem ends_or_stops_or_breaks : w.Ends ∨ w.Stops ∨ ∃ lines fault, w.Breaks lines fault := by
  obtain ⟨lines, hread⟩ := exists_readable w.run.lines
  rcases w.within_or_stopped lines lines.length with hwithin | hstopped
  · rcases hread with hread | ⟨fault, rest, hread⟩
    · exact .inl ⟨lines, hread, hwithin⟩
    · exact .inr (.inr ⟨lines, fault, hwithin, rest, hread⟩)
  · -- whether there is a line that cannot be read does not matter: it is not reached
    rcases hread with hread | ⟨fault, rest, hread⟩
    · exact .inr (.inl ⟨lines, [], by rw [hread, List.append_nil], hstopped⟩)
    · exact .inr (.inl ⟨lines, .error fault :: rest, hread, hstopped⟩)

theorem fate_followed : w.Fate (w.followed w.run.lines) := by
  have hbroken : (∃ lines fault, w.Breaks lines fault) →
      (w.followed w.run.lines).1.child = .leftRunning ∧
        ∃ n, (w.followed w.run.lines).2.files.Shows n Tool.ssh.program "Z" := by
    rintro ⟨lines, fault, hbreaks⟩
    rw [hbreaks.followed_eq]
    exact ⟨rfl, _, FileSystem.shows_leaveProcess _ _⟩
  have hcases := w.ends_or_stops_or_breaks
  -- each case settles what the child is, so the other two cannot be there
  have hwaited (h : (w.followed w.run.lines).1.child = .waited) : w.Ends := by
    rcases hcases with hends | hstops | hbreaks
    · exact hends
    · simp [hstops.child_eq] at h
    · simp [(hbroken hbreaks).1] at h
  have hkilled (h : (w.followed w.run.lines).1.child = .killed) : w.Stops := by
    rcases hcases with hends | hstops | hbreaks
    · simp [hends.child_eq] at h
    · exact hstops
    · simp [(hbroken hbreaks).1] at h
  have hleft (h : (w.followed w.run.lines).1.child = .leftRunning) :
      ∃ lines fault, w.Breaks lines fault := by
    rcases hcases with hends | hstops | hbreaks
    · simp [hends.child_eq] at h
    · simp [hstops.child_eq] at h
    · exact hbreaks
  refine ⟨⟨hwaited, Ends.child_eq⟩, ⟨hkilled, Stops.child_eq⟩,
    ⟨hleft, fun hbreaks => (hbroken hbreaks).1⟩, ?_, fun lines fault => Breaks.followed_eq,
    fun h => (hbroken (hleft h)).2⟩
  rcases hcases with hends | hstops | hbreaks
  · exact .inl hends.child_eq
  · exact .inr (.inl hstops.child_eq)
  · exact .inr (.inr (hbroken hbreaks).1)

end Watch

/-- **The fate of the child.** Whatever a command writes and however it ends, its child is waited
for, and before that killed if it had not ended; only at a line that cannot be read it is left
alone. -/
theorem exec_fate {tools : Tools ε} {c : Client} {command : String} {host : Host ε} (w : Watch ε)
    (hstarted : tools.run .ssh (c.commandArguments command) host = (.ok w.run, w.started)) :
    w.Fate (c.exec tools command w.limits w.listen host) := by
  have hexec : c.exec tools command w.limits w.listen host = w.followed w.run.lines := by
    rw [Client.exec, hstarted]
    rfl
  rw [hexec]
  exact w.fate_followed

/-- A command that writes a line and has run too long by then. -/
theorem exec_fate_of_late_line :
    let run : ToolRun := { stdout := [0x61, 0x0A], elapsed := fun _ => .ofSeconds 2 }
    let w : Watch Unit :=
      { limits := { timeout := some (.ofSeconds 1) }, run, listen := fun _ host => host,
        started := { files := .empty, outside := () } }
    let c : Client := ⟨{ host := "fpga01" }, "/tmp/master.sock", true⟩
    let tools : Tools Unit := ⟨fun _ _ host => (.ok run, host)⟩
    tools.run .ssh (c.commandArguments "make") w.started = (.ok w.run, w.started) ∧
      w.Fate (c.exec tools "make" w.limits w.listen w.started) :=
  ⟨rfl, exec_fate _ rfl⟩

/-- **Not every child is waited for.** A line of one byte that is no text is enough. -/
theorem child_left_at_bytes :
    ¬∀ (tools : Tools Unit) (c : Client) (command : String) (w : Watch Unit) (host : Host Unit),
      tools.run .ssh (c.commandArguments command) host = (.ok w.run, w.started) →
        (c.exec tools command w.limits w.listen host).1.child = .waited ∨
          (c.exec tools command w.limits w.listen host).1.child = .killed := by
  intro hended
  have hfate := hended ⟨fun _ _ host => (.ok { stdout := [0xFF, 0x0A] }, host)⟩
    ⟨{ host := "fpga01" }, "/tmp/master.sock", true⟩ "make"
    { limits := .unlimited, listen := fun _ host => host, run := { stdout := [0xFF, 0x0A] },
      started := { files := .empty, outside := () } }
    { files := .empty, outside := () } rfl
  rcases hfate with hwaited | hkilled
  · exact absurd hwaited (by decide)
  · exact absurd hkilled (by decide)

end Ssh

end ArtifactPipeline.Remote
