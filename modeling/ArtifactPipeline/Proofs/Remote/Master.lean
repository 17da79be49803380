import ArtifactPipeline.Proofs.Remote.Starts
import ArtifactPipeline.Remote.Playback

/-!
# One control master, one exit

Whatever the two programs answer, a connection tells its control master to exit once: when it is
closed for the first time, or else when it is let go. A connection that could not be opened does not
do it at all. And every start of a program names the same control master, port, key and remote host.

* `Use.starts` : what a use starts depends on the client alone; `Use.run_beside` and `life_beside`
  say that nothing else is started, and that writing it down changes nothing;
* `Client.countP_startsIn` : the first close starts the exit, and no later one does;
* `exit_once` : the exits of a life.
-/

namespace ArtifactPipeline.Remote.Ssh

variable {ε κ : Type}

/-! ### What a use starts -/

/-- One use of a client. -/
inductive Use (ε : Type) where
  | exec (command : String) (limits : Limits) (listen : String → Host ε → Host ε)
  | put (localPath remotePath : String)
  | get (remotePath localPath : String)
  | close

/-- What the close of a client starts. -/
def Client.exits (c : Client) : List Start :=
  if c.isOpen then startsOf .ssh c.exitArguments else []

theorem Client.names_exits (c : Client) : ∀ s ∈ c.exits, s.Names c.target c.socket := by
  intro s hs
  rw [exits] at hs
  split at hs
  · exact eq_of_mem_startsOf hs ▸ c.names_exit
  · cases hs

theorem Client.countP_exits (c : Client) : c.exits.countP Start.isExit = c.exits.length := by
  rw [List.countP_eq_length]
  intro s hs
  rw [exits] at hs
  split at hs
  · exact eq_of_mem_startsOf hs ▸ c.isExit_exit
  · cases hs

/-- A listener that does not see the record. -/
def listenBeside (listen : String → Host ε → Host ε) (line : String) (host : Host (ε × κ)) :
    Host (ε × κ) :=
  (listen line host.withoutRecord).withRecord host.outside.2

namespace Use

/-- The client and the host after a use, whatever was answered. -/
def run (tools : Tools ε) (use : Use ε) (c : Client) (host : Host ε) : Client × Host ε :=
  match use with
  | exec command limits listen => (c, (c.exec tools command limits listen host).2)
  | put localPath remotePath => (c, (c.put tools localPath remotePath host).2)
  | get remotePath localPath => (c, (c.get tools remotePath localPath host).2)
  | close => (c.close tools host).2

/-- The same use beside a record. -/
def beside : Use ε → Use (ε × κ)
  | exec command limits listen => exec command limits (listenBeside listen)
  | put localPath remotePath => put localPath remotePath
  | get remotePath localPath => get remotePath localPath
  | close => close

def isClose : Use ε → Bool
  | close => true
  | exec _ _ _ | put _ _ | get _ _ => false

/-- What a use starts. -/
def starts (use : Use ε) (c : Client) : List Start :=
  match use with
  | exec command _ _ => startsOf .ssh (c.commandArguments command)
  | put localPath remotePath => startsOf .scp (c.copyArguments localPath (c.remoteName remotePath))
  | get remotePath localPath => startsOf .scp (c.copyArguments (c.remoteName remotePath) localPath)
  | close => c.exits

/-- The client after a use. -/
def leaves (use : Use ε) (c : Client) : Client :=
  if use.isClose then { c with isOpen := false } else c

end Use

/-- Following a command starts nothing. -/
theorem follow_beside (limits : Limits) (listen : String → Host ε → Host ε) (run : ToolRun)
    (i : Nat) (delivered : List String) (lines : List (Except IoFault String)) (host : Host ε)
    (record : κ) :
    follow limits (listenBeside listen) run i delivered lines (host.withRecord record) =
      ((follow limits listen run i delivered lines host).1,
        (follow limits listen run i delivered lines host).2.withRecord record) := by
  have hlook (i : Nat) (host : Host ε) : look limits run i (host.withRecord record) =
      ((look limits run i host).1, (look limits run i host).2.withRecord record) := by
    rw [look, look]
    cases run.interrupts i <;> rfl
  -- the induction is on the lines, which the listener may answer with any host
  induction lines generalizing i delivered host with
  | nil =>
    rw [follow, follow, hlook]
    rcases look limits run i host with ⟨status, after⟩
    cases status <;> rfl
  | cons line rest ih =>
    cases line with
    | error fault => rfl
    | ok line =>
      have hheard : listenBeside listen line (host.withRecord record) =
          (listen line host).withRecord record := rfl
      rw [follow, follow, hheard, hlook]
      rcases look limits run i (listen line host) with ⟨status, after⟩
      cases status with
      | within => exact ih (i + 1) (delivered ++ [line]) after
      | cancelled => rfl
      | timedOut limit => rfl

namespace Client

theorem exec_recorded (c : Client) (tools : Tools ε) (command : String) (limits : Limits)
    (listen : String → Host ε → Host ε) (host : Host ε) (record : List Start) :
    c.exec tools.recorded command limits (listenBeside listen) (host.withRecord record) =
      ((c.exec tools command limits listen host).1,
        (c.exec tools command limits listen host).2.withRecord
          (record ++ startsOf .ssh (c.commandArguments command))) := by
  rw [exec, exec, run_recorded]
  rcases tools.run .ssh (c.commandArguments command) host with ⟨fault | run, after⟩
  · rfl
  · exact follow_beside limits listen run 0 [] run.lines after _

theorem copy_recorded (c : Client) (tools : Tools ε) (source target : String) (host : Host ε)
    (record : List Start) :
    c.copy tools.recorded source target (host.withRecord record) =
      ((c.copy tools source target host).1,
        (c.copy tools source target host).2.withRecord
          (record ++ startsOf .scp (c.copyArguments source target))) := by
  rw [copy, copy, run_recorded]
  rcases tools.run .scp (c.copyArguments source target) host with ⟨fault | run, after⟩
  · rfl
  · cases hsuccess : run.ending.success <;> simp [hsuccess]

theorem begin_recorded (c : Client) (tools : Tools ε) (host : Host ε) (record : List Start) :
    c.begin tools.recorded (host.withRecord record) =
      ((c.begin tools host).1,
        (c.begin tools host).2.withRecord (record ++ startsOf .ssh c.masterArguments)) := by
  have hnote : (host.withRecord record).note (openingEvent c.target) =
      (host.note (openingEvent c.target)).withRecord record := rfl
  rw [begin, begin, hnote, run_recorded]
  rcases tools.run .ssh c.masterArguments (host.note (openingEvent c.target))
    with ⟨fault | run, after⟩
  · rfl
  · cases hsuccess : run.ending.success with
    | false =>
      simp [hsuccess]
      rfl
    | true => simp [hsuccess]

/-- A client counts as closed when it has been closed. -/
theorem client_close (c : Client) (tools : Tools ε) (host : Host ε) :
    (c.close tools host).2.1 = { c with isOpen := false } := by
  rcases c with ⟨target, socket, _ | _⟩
  · rfl
  · rw [close, if_pos rfl]
    rcases tools.run .ssh (exitArguments ⟨target, socket, true⟩) host with ⟨fault | run, after⟩
    · rfl
    · cases hsuccess : run.ending.success <;> simp [hsuccess]

theorem close_recorded (c : Client) (tools : Tools ε) (host : Host ε) (record : List Start) :
    c.close tools.recorded (host.withRecord record) =
      ((c.close tools host).1, (c.close tools host).2.1,
        (c.close tools host).2.2.withRecord (record ++ c.exits)) := by
  rw [close, close, exits]
  split
  · rw [run_recorded]
    rcases tools.run .ssh c.exitArguments host with ⟨fault | run, after⟩
    · rfl
    · cases hsuccess : run.ending.success <;> simp [hsuccess]
  · rw [List.append_nil]

/-- **Opening.** A client that was opened differs in that only, and its control master was started:
the arguments could be passed on. -/
theorem of_begin {c opened : Client} {tools : Tools ε} {host : Host ε}
    (hopened : (c.begin tools host).1 = .ok opened) :
    opened = { c with isOpen := true } ∧
      startsOf .ssh c.masterArguments = [⟨.ssh, c.masterArguments⟩] ∧
      startsOf .ssh c.exitArguments = [⟨.ssh, c.exitArguments⟩] := by
  have hbegun : opened = { c with isOpen := true } ∧
      startsOf .ssh c.masterArguments = [⟨.ssh, c.masterArguments⟩] := by
    rw [begin] at hopened
    rcases hrun : tools.run .ssh c.masterArguments (host.note (openingEvent c.target))
      with ⟨fault | run, after⟩
    · simp [hrun] at hopened
    · cases hsuccess : run.ending.success with
      | false => simp [hrun, hsuccess] at hopened
      | true =>
        exact ⟨by simpa [hrun, hsuccess] using hopened.symm,
          startsOf_of_run (congrArg Prod.fst hrun)⟩
  obtain ⟨hclient, hpasses⟩ := hbegun
  refine ⟨hclient, hpasses, startsOf_eq_singleton_iff.mpr fun a ha => ?_⟩
  -- whatever tells the control master to exit was passed on when it was started
  have hmaster := startsOf_eq_singleton_iff.mp hpasses
  simp only [exitArguments, List.mem_append, List.mem_cons] at ha
  rcases ha with ha | rfl | rfl | rfl | ha
  · exact hmaster a (by simp [masterArguments, ha])
  · rfl
  · rfl
  · exact hmaster _ (by simp [masterArguments])
  · cases ha

end Client

/-! ### The starts of a life -/

namespace Use

theorem client_run (use : Use ε) (tools : Tools ε) (c : Client) (host : Host ε) :
    (use.run tools c host).1 = use.leaves c := by
  cases use with
  | close => exact c.client_close tools host
  | _ => rfl

/-- **One use** starts what the client says, whatever was answered before, and nothing else. -/
theorem run_beside (use : Use ε) (tools : Tools ε) (c : Client) (host : Host ε)
    (record : List Start) :
    use.beside.run tools.recorded c (host.withRecord record) =
      ((use.run tools c host).1,
        (use.run tools c host).2.withRecord (record ++ use.starts c)) := by
  cases use with
  | exec command limits listen =>
    rw [beside, run, c.exec_recorded]
    rfl
  | put localPath remotePath =>
    rw [beside, run, Client.put, c.copy_recorded]
    rfl
  | get remotePath localPath =>
    rw [beside, run, Client.get, c.copy_recorded]
    rfl
  | close =>
    rw [beside, run, c.close_recorded]
    rfl

/-- Whatever a use starts names what it has to, and only a close starts the exit. -/
theorem names_starts (use : Use ε) (c : Client) :
    ∀ s ∈ use.starts c, s.Names c.target c.socket := by
  intro s hs
  cases use with
  | exec command limits listen => exact eq_of_mem_startsOf hs ▸ c.names_command command
  | put localPath remotePath => exact eq_of_mem_startsOf hs ▸ c.names_put localPath remotePath
  | get remotePath localPath => exact eq_of_mem_startsOf hs ▸ c.names_get remotePath localPath
  | close => exact c.names_exits s hs

theorem countP_starts (use : Use ε) (c : Client) :
    (use.starts c).countP Start.isExit = if use.isClose then c.exits.length else 0 := by
  cases use with
  | exec command limits listen => exact countP_startsOf_eq_zero (c.isExit_command command)
  | put localPath remotePath => exact countP_startsOf_eq_zero (Start.isExit_scp _)
  | get remotePath localPath => exact countP_startsOf_eq_zero (Start.isExit_scp _)
  | close => exact c.countP_exits

end Use

/-- The client and the host after some uses. -/
def Client.used (tools : Tools ε) : List (Use ε) → Client → Host ε → Client × Host ε
  | [], c, host => (c, host)
  | use :: uses, c, host =>
    let (c, host) := use.run tools c host
    used tools uses c host

/-- What some uses start. -/
def Client.startsIn : List (Use ε) → Client → List Start
  | [], _ => []
  | use :: uses, c => use.starts c ++ startsIn uses (use.leaves c)

namespace Client

/-- A client is open until it is closed. -/
theorem client_used (tools : Tools ε) (uses : List (Use ε)) (c : Client) (host : Host ε) :
    (used tools uses c host).1 = { c with isOpen := c.isOpen && !uses.any Use.isClose } := by
  induction uses generalizing c host with
  | nil => simp [used]
  | cons use uses ih =>
    rw [used, ih, use.client_run, Use.leaves, List.any_cons]
    cases use.isClose <;> simp

/-- **Some uses** start what the client says, and nothing else. -/
theorem used_beside (tools : Tools ε) (uses : List (Use ε)) (c : Client) (host : Host ε)
    (record : List Start) :
    used tools.recorded (uses.map Use.beside) c (host.withRecord record) =
      ((used tools uses c host).1,
        (used tools uses c host).2.withRecord (record ++ startsIn uses c)) := by
  induction uses generalizing c host record with
  | nil => rw [startsIn, List.append_nil]; rfl
  | cons use uses ih =>
    rw [List.map_cons, used, use.run_beside, used]
    simp only [ih, startsIn, use.client_run, List.append_assoc]

theorem names_startsIn (uses : List (Use ε)) (c : Client) :
    ∀ s ∈ startsIn uses c, s.Names c.target c.socket := by
  induction uses generalizing c with
  | nil => simp [startsIn]
  | cons use uses ih =>
    have hleft := ih (use.leaves c)
    have hsame : (use.leaves c).target = c.target ∧ (use.leaves c).socket = c.socket := by
      rw [Use.leaves]
      split <;> exact ⟨rfl, rfl⟩
    rw [hsame.1, hsame.2] at hleft
    exact List.forall_mem_append.mpr ⟨use.names_starts c, hleft⟩

/-- **The exits of some uses**: the first close starts them, and no later one does. -/
theorem countP_startsIn (uses : List (Use ε)) (c : Client) :
    (startsIn uses c).countP Start.isExit = if uses.any Use.isClose then c.exits.length else 0 := by
  induction uses generalizing c with
  | nil => rfl
  | cons use uses ih =>
    rw [startsIn, List.countP_append, ih, use.countP_starts, List.any_cons, Use.leaves]
    cases use.isClose with
    | false => simp
    | true =>
      -- what comes after the close finds a client that is not open
      have hshut : exits { c with isOpen := false } = [] := rfl
      simp [hshut]

end Client

/-- The hosts in the life of a client. -/
structure Life (ε : Type) where
  /-- Whether the client was opened. -/
  opened : Bool
  /-- The host after the uses. -/
  used : Host ε
  /-- The host after the client was let go. -/
  dropped : Host ε

/-- **The life of a client.** It is opened, used and let go. When it cannot be opened it is let go
at once. -/
def life (tools : Tools ε) (target : Target) (socket : String) (uses : List (Use ε))
    (host : Host ε) : Life ε :=
  let c : Client := ⟨target, socket, false⟩
  match c.begin tools host with
  | (.error _, host) => ⟨false, host, (c.drop tools host).2⟩
  | (.ok c, host) =>
    let (c, host) := c.used tools uses host
    ⟨true, host, (c.drop tools host).2⟩

/-- How often the control master was told to exit. -/
def exitCount (host : Host (ε × List Start)) : Nat := host.outside.2.countP Start.isExit

section Life

variable (tools : Tools ε) (target : Target) (socket : String) (uses : List (Use ε))

/-- What a life starts before the client is let go. -/
def startsOfLife (opened : Bool) : List Start :=
  let master := startsOf .ssh (Client.masterArguments ⟨target, socket, opened⟩)
  match opened with
  | true => master ++ Client.startsIn uses ⟨target, socket, true⟩
  | false => master

/-- **The starts of a life**: the control master, what the uses start, and what the close of the
client that they leave starts. Writing them down changes nothing else. -/
theorem life_beside (host : Host ε) :
    let l := life tools target socket uses host
    let starts := startsOfLife target socket uses l.opened
    life tools.recorded target socket (uses.map Use.beside) (host.withRecord []) =
      ⟨l.opened, l.used.withRecord starts, l.dropped.withRecord
        (starts ++ Client.exits ⟨target, socket, l.opened && !uses.any Use.isClose⟩)⟩ := by
  rw [life, life, Client.begin_recorded]
  rcases hbegin : Client.begin tools ⟨target, socket, false⟩ host with ⟨cause | opened, after⟩
  · simp only [List.nil_append, Client.drop, Client.close_recorded]
    rfl
  · obtain ⟨rfl, -⟩ := Client.of_begin (congrArg Prod.fst hbegin)
    simp only [Client.used_beside, Client.drop, Client.close_recorded, Client.client_used]
    rfl

theorem names_startsOfLife (opened : Bool) :
    ∀ s ∈ startsOfLife target socket uses opened, s.Names target socket := by
  have hmaster : ∀ s ∈ startsOf .ssh (Client.masterArguments ⟨target, socket, opened⟩),
      s.Names target socket :=
    fun s hs => eq_of_mem_startsOf hs ▸ Client.names_master ⟨target, socket, opened⟩
  cases opened with
  | false => exact hmaster
  | true =>
    exact List.forall_mem_append.mpr ⟨hmaster, Client.names_startsIn uses ⟨target, socket, true⟩⟩

/-- Before the client is let go, the exits are those of its first close. -/
theorem countP_startsOfLife (opened : Bool) :
    (startsOfLife target socket uses opened).countP Start.isExit =
      if opened && uses.any Use.isClose then (Client.exits ⟨target, socket, true⟩).length else 0 := by
  have hmaster := countP_startsOf_eq_zero (Client.isExit_master ⟨target, socket, opened⟩)
  cases opened with
  | false => exact hmaster
  | true =>
    rw [startsOfLife, List.countP_append, hmaster, Nat.zero_add, Client.countP_startsIn,
      Bool.true_and]

/-- The exit of a client that was opened can be started. -/
theorem length_exits_of_opened (host : Host ε)
    (hopened : (life tools target socket uses host).opened = true) :
    (Client.exits ⟨target, socket, true⟩).length = 1 := by
  rw [life] at hopened
  rcases hbegin : Client.begin tools ⟨target, socket, false⟩ host with ⟨cause | opened, after⟩
  · simp [hbegin] at hopened
  · obtain ⟨rfl, -, hexit⟩ := Client.of_begin (congrArg Prod.fst hbegin)
    exact congrArg List.length hexit

end Life

/-- **One exit.** Whatever the programs answer: a client that was opened has told its control master
to exit when it was closed for the first time, or else when it was let go, and it did so once. One
that was not opened has never done it. Every start has named the same control master, port, key and
remote host. -/
theorem exit_once (tools : Tools ε) (target : Target) (socket : String) (uses : List (Use ε))
    (host : Host ε) :
    let l := life tools.recorded target socket (uses.map Use.beside) (host.withRecord [])
    exitCount l.used = (if l.opened && uses.any Use.isClose then 1 else 0) ∧
      exitCount l.dropped = (if l.opened then 1 else 0) ∧
      ∀ s ∈ l.dropped.outside.2, s.Names target socket := by
  rw [life_beside]
  have hlength := length_exits_of_opened tools target socket uses host
  generalize (life tools target socket uses host).opened = opened at hlength ⊢
  refine ⟨?_, ?_, ?_⟩
  · change (startsOfLife target socket uses opened).countP Start.isExit = _
    rw [countP_startsOfLife]
    cases opened with
    | false => rfl
    | true => rw [hlength rfl]
  · change (startsOfLife target socket uses opened ++ Client.exits _).countP Start.isExit = _
    rw [List.countP_append, countP_startsOfLife, Client.countP_exits]
    cases opened with
    | false => rfl
    | true =>
      -- whether a use has closed the client decides which of the two it is
      cases uses.any Use.isClose with
      | false => exact (Nat.zero_add _).trans (hlength rfl)
      | true => exact hlength rfl
  · exact List.forall_mem_append.mpr
      ⟨names_startsOfLife target socket uses opened, Client.names_exits ⟨target, socket, _⟩⟩

/-- A connection that is closed twice. -/
theorem exit_once_of_closes :
    let l := life (Playback.tools (.whole Playback)).recorded { host := "fpga01" } "/tmp/master.sock"
      ([.exec "make" .unlimited fun _ => id, .close, .close].map Use.beside)
      (Host.withRecord { files := .empty, outside := {} } [])
    l.opened = true ∧ exitCount l.used = 1 ∧ exitCount l.dropped = 1 ∧
      ∀ s ∈ l.dropped.outside.2, s.Names { host := "fpga01" } "/tmp/master.sock" :=
  ⟨rfl, exit_once (Playback.tools (.whole Playback)) { host := "fpga01" } "/tmp/master.sock"
    [.exec "make" .unlimited fun _ => id, .close, .close] { files := .empty, outside := {} }⟩

end ArtifactPipeline.Remote.Ssh
