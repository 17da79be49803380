import ArtifactPipeline.Proofs.Step.Call

/-!
# What a body does to its arguments

A body reaches its arguments through the functions of `Arguments` alone. An `Access` is one use of
one of them, together with what is written through whatever it lends, and `runAll` carries out a
sequence of accesses. It goes on after an access that fails, since a body may look at the failure
and carry on; whatever a body makes of the outcomes, it comes to some such sequence.

There are four ways in which an access can go (`Performed`): it is refused, it leaves the arguments
as they are, it takes one, or it replaces one that is there by another value. What holds of a
sequence is read off these by induction on the sequence: an argument is gone exactly if it was taken
(`gone_runAll_iff`), it is taken once at most (`taken_once`), and the others hold what was last
written in their place (`runAll_of_untouched`). `arguments_linear` says what this means for a call
and for the arguments that it hands back.
-/

namespace ArtifactPipeline

variable {ε : Type} {n : Nat}

namespace Arguments

/-! ### Accesses -/

/-- **One use of the arguments** by the body of a step. -/
inductive Access (ε : Type) : Type 1 where
  /-- Ask where the parameter with a name stands. -/
  | position (name : String)
  | get (i : Nat)
  /-- Write another value through an argument that is lent for that. -/
  | set (i : Nat) (source : Source)
  | take (i : Nat)
  | path (i : Nat)
  | text (i : Nat)
  /-- Do something with a stream that is lent, and with the host. -/
  | stream (i : Nat) (f : Stream × Host ε → Stream × Host ε)
  /-- Do something with a payload that is lent, and with the host. -/
  | payload {α : Type} (t : PayloadType α) (i : Nat) (f : α × Host ε → α × Host ε)
  /-- Do something that concerns no argument. -/
  | aside (f : Host ε → Host ε)

/-- The argument that an access is about. -/
def Access.index? : Access ε → Option Nat
  | .position _ | .aside _ => none
  | .get i | .set i _ | .take i | .path i | .text i | .stream i _ | .payload _ i _ => some i

/-- The argument that an access may change. -/
def Access.changed? : Access ε → Option Nat
  | .position _ | .get _ | .path _ | .text _ | .aside _ => none
  | .set i _ | .take i | .stream i _ | .payload _ i _ => some i

/-- Carry out an access. Whatever value it gives is dropped. -/
def perform (s : Signature) : Access ε → Action (Frame ε n) Unit
  | .position name => discard (Action.ofExcept (position s name))
  | .get i => discard (get s i)
  | .set i source => set s i source
  | .take i => discard (take s i)
  | .path i => discard (path s i)
  | .text i => discard (text s i)
  | .stream i f => withStream s i (.change f)
  | .payload t i f => withPayload t s i (.change f)
  | .aside f => onHost (.change f)

/-- Carry out one access after another, those after a failure too. Every access comes with its
outcome. -/
def runAll (s : Signature) :
    List (Access ε) → Frame ε n → List (Access ε × Outcome Unit) × Frame ε n
  | [], frame => ([], frame)
  | access :: later, frame =>
    let ended := (perform s access).run frame
    let rest := runAll s later ended.2
    ((access, ended.1) :: rest.1, rest.2)

/-- An argument is untouched by accesses if none that may change it is done. -/
def Untouched (i : Nat) (log : List (Access ε × Outcome Unit)) : Prop :=
  ∀ access : Access ε, access.changed? = some i → (access, .done ()) ∉ log

variable {s : Signature} {access : Access ε} {frame after : Frame ε n} {outcome : Outcome Unit}
  {i j : Nat}

theorem Access.index?_of_changed? (h : access.changed? = some i) : access.index? = some i := by
  cases access <;> first | exact h | cases h

/-! ### One access -/

theorem run_discard {σ α : Type} (x : Action σ α) (state : σ) :
    (discard x).run state = ((x.run state).1.map fun _ => (), (x.run state).2) := by
  change (x >>= fun _ => pure ()).run state = _
  rw [Action.run_bind]
  rcases x.run state with ⟨_ | _ | _, state'⟩ <;> rfl

theorem peek_eq_ok_iff {values : Vector (Option Source) n} {source : Source} :
    peek s values i = .ok source ↔ values[i]? = some (some source) := by
  rw [peek]
  split
  · next found h => rw [h, Except.ok.injEq, Option.some.injEq, Option.some.injEq]
  · next h =>
    constructor
    · intro hok
      cases hok
    · exact fun hsome => absurd hsome (h source)

/-- An argument that was taken is missed by the name of its parameter. -/
theorem peek_of_gone {values : Vector (Option Source) n} {p : Parameter}
    (hp : s.parameters[i]? = some p) (h : values[i]? = some none) :
    peek s values i = .error (.valueConsumed s.name p.name) := by
  obtain ⟨hi, -⟩ := Vector.getElem?_eq_some_iff.mp h
  rw [peek, h, missing, if_neg (Nat.not_le.mpr hi), nameAt, hp]

/-- One that there never was is missed by its number. -/
theorem peek_of_beyond {values : Vector (Option Source) n} (h : n ≤ i) :
    peek s values i = .error (.unknownParameter s.name ("#" ++ toString i)) := by
  rw [peek, Vector.getElem?_eq_none h, missing, if_pos h]

/-- What is missed is missed before anything else is looked at, its kind in particular. -/
theorem perform_of_missed {f : Failure} (hindex : access.index? = some i)
    (hpeek : peek s frame.values i = .error f) :
    (perform s access).run frame = (.failed f, frame) := by
  have hget : (get s i).run frame = (.failed f, frame) := by
    change (Outcome.ofExcept (peek s frame.values i), frame) = _
    rw [hpeek]
    rfl
  cases access with
  | position name => cases hindex
  | aside f => cases hindex
  | get i =>
    obtain rfl := Option.some.inj hindex
    rw [perform, run_discard, hget]
    rfl
  | path i =>
    obtain rfl := Option.some.inj hindex
    rw [perform, run_discard, path, Action.run_bind, hget]
    rfl
  | text i =>
    obtain rfl := Option.some.inj hindex
    rw [perform, run_discard, text, Action.run_bind, hget]
    rfl
  | set i source =>
    obtain rfl := Option.some.inj hindex
    rw [perform, Action.run, set, hpeek]
  | take i =>
    obtain rfl := Option.some.inj hindex
    rw [perform, run_discard, Action.run, take, hpeek]
    rfl
  | stream i f =>
    obtain rfl := Option.some.inj hindex
    rw [perform, withStream, Action.run, within, hpeek]
    rfl
  | payload t i f =>
    obtain rfl := Option.some.inj hindex
    rw [perform, withPayload, Action.run, within, hpeek]
    rfl

/-- **How an access can go.** -/
inductive Performed (frame : Frame ε n) : Access ε → Outcome Unit → Frame ε n → Prop where
  | refused (access : Access ε) (f : Failure) : Performed frame access (.failed f) frame
  | looked {access : Access ε} (h : access.changed? = none) (host : Host ε) :
    Performed frame access (.done ()) { frame with host }
  | taken {i : Nat} {source : Source} (h : frame.values[i]? = some (some source)) :
    Performed frame (.take i) (.done ()) { frame with values := frame.values.setIfInBounds i none }
  | replaced {access : Access ε} {i : Nat} {old : Source} (h : access.changed? = some i)
    (hkept : access ≠ .take i) (hi : frame.values[i]? = some (some old)) (new : Source)
    (host : Host ε) :
    Performed frame access (.done ()) ⟨frame.values.setIfInBounds i (some new), host⟩

/-- An action only looks if it does not crash and leaves the state as it was. -/
def Looks {σ α : Type} (x : Action σ α) : Prop :=
  ∀ state, ∃ e : Except Failure α, x.run state = (.ofExcept e, state)

theorem Looks.bind {σ α β : Type} {x : Action σ α} {k : α → Action σ β} (hx : Looks x)
    (hk : ∀ a, Looks (k a)) : Looks (x >>= k) := by
  intro state
  obtain ⟨e, he⟩ := hx state
  rw [Action.run_bind, he]
  cases e with
  | error f => exact ⟨.error f, rfl⟩
  | ok a => exact hk a state

theorem looks_get (s : Signature) (i : Nat) : Looks (get s i : Action (Frame ε n) Source) :=
  fun frame => ⟨peek s frame.values i, rfl⟩

theorem looks_path (s : Signature) (i : Nat) : Looks (path s i : Action (Frame ε n) String) := by
  refine (looks_get s i).bind fun source => ?_
  cases source.asPath? with
  | none => exact fun _ => ⟨.error _, rfl⟩
  | some name => exact fun _ => ⟨.ok name, rfl⟩

theorem looks_text (s : Signature) (i : Nat) : Looks (text s i : Action (Frame ε n) String) := by
  refine (looks_get s i).bind fun source => ?_
  cases source.asString? with
  | none => exact fun _ => ⟨.error _, rfl⟩
  | some text => exact fun _ => ⟨.ok text, rfl⟩

theorem Looks.performed {α : Type} {x : Action (Frame ε n) α} (hx : Looks x)
    (h : access.changed? = none) (frame : Frame ε n) :
    Performed frame access ((discard x).run frame).1 ((discard x).run frame).2 := by
  obtain ⟨e, he⟩ := hx frame
  rw [run_discard, he]
  cases e with
  | error f => exact .refused access f
  | ok a => exact .looked h frame.host

/-- Working on a value inside an argument replaces the argument, if it has such a value in it. -/
theorem performed_within {α : Type} {project : Source → Except Failure α} {inject : α → Source}
    {f : α × Host ε → α × Host ε} (h : access.changed? = some i) (hkept : access ≠ .take i)
    (frame : Frame ε n) :
    Performed frame access ((within s i project inject (.change f)).run frame).1
      ((within s i project inject (.change f)).run frame).2 := by
  rw [Action.run, within]
  cases hpeek : peek s frame.values i with
  | error f => exact .refused access f
  | ok source =>
    cases hproject : project source with
    | error f =>
      rw [show (Except.ok source >>= project) = .error f from hproject]
      exact .refused access f
    | ok a =>
      rw [show (Except.ok source >>= project) = .ok a from hproject]
      exact .replaced h hkept (peek_eq_ok_iff.mp hpeek) _ _

/-- Every access goes in one of these ways. -/
theorem performed (s : Signature) (access : Access ε) (frame : Frame ε n) :
    Performed frame access ((perform s access).run frame).1 ((perform s access).run frame).2 := by
  cases access with
  | position name => exact Looks.performed (fun _ => ⟨position s name, rfl⟩) rfl frame
  | get i => exact (looks_get s i).performed rfl frame
  | path i => exact (looks_path s i).performed rfl frame
  | text i => exact (looks_text s i).performed rfl frame
  | stream i f => exact performed_within rfl (by simp) frame
  | payload t i f => exact performed_within rfl (by simp) frame
  | aside f => exact .looked rfl (f frame.host)
  | set i new =>
    rw [perform, Action.run, set]
    cases hpeek : peek s frame.values i with
    | error f => exact .refused _ f
    | ok old => exact .replaced rfl (by simp) (peek_eq_ok_iff.mp hpeek) new frame.host
  | take i =>
    rw [perform, run_discard, Action.run, take]
    cases hpeek : peek s frame.values i with
    | error f => exact .refused _ f
    | ok source => exact .taken (peek_eq_ok_iff.mp hpeek)

/-! #### What follows, however it went -/

/-- An access that is not done changes nothing. -/
theorem Performed.eq_of_not_done (h : Performed frame access outcome after)
    (hfailed : outcome ≠ .done ()) : after = frame := by
  cases h with
  | refused => rfl
  | looked | taken | replaced => exact absurd rfl hfailed

/-- No access changes another argument than the one that it may change, nor that one unless it is
done. -/
theorem Performed.getElem?_values (h : Performed frame access outcome after)
    (hj : access.changed? = some j → outcome ≠ .done ()) :
    after.values[j]? = frame.values[j]? := by
  cases h with
  | refused => rfl
  | looked => rfl
  | @taken i source hi =>
    have hne : i ≠ j := by
      rintro rfl
      exact hj rfl rfl
    exact Vector.getElem?_setIfInBounds_ne hne
  | @replaced _ i old h hkept hi new host =>
    have hne : i ≠ j := by
      rintro rfl
      exact hj h rfl
    exact Vector.getElem?_setIfInBounds_ne hne

/-- What is taken was there. -/
theorem Performed.there_of_take (h : Performed frame (.take i) (.done ()) after) :
    ∃ source, frame.values[i]? = some (some source) := by
  cases h with
  | looked h => cases h
  | taken hi => exact ⟨_, hi⟩
  | replaced h hkept =>
    obtain rfl := Option.some.inj h
    exact absurd rfl hkept

theorem getElem?_setIfInBounds_of_there {values : Vector (Option Source) n}
    {old value : Option Source} (hi : values[i]? = some old) :
    (values.setIfInBounds i value)[i]? = some value := by
  obtain ⟨hlt, -⟩ := Vector.getElem?_eq_some_iff.mp hi
  exact Vector.getElem?_setIfInBounds_self_of_lt hlt

/-- An argument is gone afterwards if it was before or has just been taken. -/
theorem Performed.gone_iff (h : Performed frame access outcome after) :
    after.values[j]? = some none ↔
      frame.values[j]? = some none ∨ access = .take j ∧ outcome = .done () := by
  cases h with
  | refused => simp
  | looked h host =>
    have hother : access ≠ .take j := by
      rintro rfl
      cases h
    simp [hother]
  | @taken i source hi =>
    by_cases hij : i = j
    · subst hij
      simp [getElem?_setIfInBounds_of_there hi]
    · simp [Vector.getElem?_setIfInBounds_ne hij, hij]
  | @replaced _ i old h hkept hi new host =>
    by_cases hij : i = j
    · -- what is replaced is there before and after
      subst hij
      rw [getElem?_setIfInBounds_of_there hi, hi]
      simp [hkept]
    · have hother : access ≠ .take j := by
        rintro rfl
        exact hij (Option.some.inj h).symm
      simp [Vector.getElem?_setIfInBounds_ne hij, hother]

/-! ### Many accesses -/

theorem runAll_append (s : Signature) (before later : List (Access ε)) (frame : Frame ε n) :
    runAll s (before ++ later) frame =
      ((runAll s before frame).1 ++ (runAll s later (runAll s before frame).2).1,
        (runAll s later (runAll s before frame).2).2) := by
  induction before generalizing frame with
  | nil => rfl
  | cons access before ih => rw [List.cons_append, runAll, ih, runAll, List.cons_append]

/-- **An argument is gone exactly if it was taken**, unless it was gone from the start. -/
theorem gone_runAll_iff (s : Signature) (accesses : List (Access ε)) (frame : Frame ε n) (i : Nat) :
    (runAll s accesses frame).2.values[i]? = some none ↔
      frame.values[i]? = some none ∨ (.take i, .done ()) ∈ (runAll s accesses frame).1 := by
  induction accesses generalizing frame with
  | nil => simp [runAll]
  | cons access later ih =>
    rw [runAll, ih, (performed s access frame).gone_iff, List.mem_cons, Prod.mk.injEq, or_assoc]
    simp only [eq_comm]

/-- What is gone is not taken. -/
theorem not_taken_of_gone {accesses : List (Access ε)} {frame : Frame ε n}
    (h : frame.values[i]? = some none) :
    (.take i, .done ()) ∉ (runAll s accesses frame).1 := by
  induction accesses generalizing frame with
  | nil => simp [runAll]
  | cons access later ih =>
    have hperformed := performed s access frame
    rw [runAll, List.mem_cons, not_or]
    constructor
    · -- an access that took it would have found it there
      rintro heq
      obtain ⟨rfl, hdone⟩ := Prod.mk.inj heq
      rw [← hdone] at hperformed
      obtain ⟨source, hsource⟩ := hperformed.there_of_take
      rw [h] at hsource
      cases hsource
    · exact ih (hperformed.gone_iff.mpr (.inl h))

/-- **An argument is taken once at most.** -/
theorem taken_once (s : Signature) (accesses : List (Access ε)) (frame : Frame ε n) (i : Nat) :
    (runAll s accesses frame).1.Pairwise fun a b =>
      a = (.take i, .done ()) → b ≠ (.take i, .done ()) := by
  induction accesses generalizing frame with
  | nil => exact .nil
  | cons access later ih =>
    refine List.Pairwise.cons ?_ (ih _)
    rintro _ hlater htaken rfl
    -- the first one to take it leaves none for those after it
    exact not_taken_of_gone ((performed s access frame).gone_iff.mpr
      (.inr (Prod.mk.inj htaken))) hlater

/-- What no access that is done may change stays as it is. -/
theorem runAll_of_untouched {accesses : List (Access ε)} {frame : Frame ε n}
    (h : Untouched i (runAll s accesses frame).1) :
    (runAll s accesses frame).2.values[i]? = frame.values[i]? := by
  induction accesses generalizing frame with
  | nil => rfl
  | cons access later ih =>
    rw [runAll, ih fun other hother hmem => h other hother (List.mem_cons_of_mem _ hmem)]
    refine (performed s access frame).getElem?_values fun hchanged hdone => ?_
    exact h access hchanged (by rw [runAll, hdone]; exact List.mem_cons_self)

/-! ### What every access keeps to -/

/-- **What an access keeps to** on a frame, however it goes. -/
structure Contained (s : Signature) (access : Access ε) (frame : Frame ε n) : Prop where
  /-- An argument that is gone is missed by the name of its parameter, whatever is asked of it. -/
  gone : ∀ (i : Nat) (p : Parameter), access.index? = some i → s.parameters[i]? = some p →
    frame.values[i]? = some none →
    (perform s access).run frame = (.failed (.valueConsumed s.name p.name), frame)
  /-- One beyond the last is missed by its number. -/
  beyond : ∀ i : Nat, access.index? = some i → n ≤ i →
    (perform s access).run frame =
      (.failed (.unknownParameter s.name ("#" ++ toString i)), frame)
  /-- An access that fails changes nothing. -/
  refused : ((perform s access).run frame).1 ≠ .done () → ((perform s access).run frame).2 = frame
  /-- An access changes no argument that it is not about. -/
  others : ∀ j : Nat, access.index? ≠ some j →
    ((perform s access).run frame).2.values[j]? = frame.values[j]?

theorem contained (s : Signature) (access : Access ε) (frame : Frame ε n) :
    Contained s access frame where
  gone _ _ hindex hp hgone := perform_of_missed hindex (peek_of_gone hp hgone)
  beyond _ hindex hi := perform_of_missed hindex (peek_of_beyond hi)
  refused := (performed s access frame).eq_of_not_done
  others _ hj := (performed s access frame).getElem?_values fun hchanged =>
    absurd (Access.index?_of_changed? hchanged) hj

end Arguments

namespace Step

open Arguments

/-! ### The arguments of a call -/

theorem size_toArray_arguments {step : Step ε} {values : List (Option Source)}
    (hlength : values.length = step.parameters.length) :
    values.toArray.size = step.parameters.length := List.size_toArray.trans hlength

/-- The frame that the body of a step begins with. -/
def opening (step : Step ε) (values : List (Option Source)) (host : Host ε)
    (hlength : values.length = step.parameters.length) : Frame ε step.parameters.length :=
  ⟨⟨values.toArray, size_toArray_arguments hlength⟩, host.note (startEvent step.name)⟩

theorem getElem?_opening {step : Step ε} {values : List (Option Source)} {host : Host ε}
    (hlength : values.length = step.parameters.length) (i : Nat) :
    (step.opening values host hlength).values[i]? = values[i]? := by
  simp [opening]

/-- Arguments that pass the check are all there when the body begins. -/
theorem not_gone_opening {step : Step ε} {values : List (Option Source)} {host : Host ε}
    (hfits : step.checkArguments values = .ok ()) (i : Nat) :
    (step.opening values host (Signature.length_of_checkArguments hfits)).values[i]? ≠
      some none := by
  have hlength := Signature.length_of_checkArguments hfits
  rw [Signature.checkArguments, if_pos hlength, Signature.checkEach_eq_ok_iff _ hlength] at hfits
  obtain ⟨sources, rfl⟩ := Parameter.exists_sources_of_fits hfits
  rw [getElem?_opening hlength]
  simp

/-- A call hands back the arguments as the body left them, however the body ended. -/
theorem leftovers_call {step : Step ε} {values : List (Option Source)} {host : Host ε}
    (hfits : step.checkArguments values = .ok ()) (i : Nat) :
    (step.call.run (values, host)).2.1[i]? = (step.body.run
      (step.opening values host (Signature.length_of_checkArguments hfits))).2.values[i]? := by
  have hlength := Signature.length_of_checkArguments hfits
  have hcheck := hfits
  rw [Signature.checkArguments, if_pos hlength] at hcheck
  rw [run_call hlength hcheck]
  exact Vector.getElem?_toList

/-- **The arguments of a call are used linearly.** Let the arguments pass the check, and let there
be accesses to them of any kind and number, done and failed ones alike. Then an argument is gone
exactly if it was taken, and it was taken once at most. An access that asks for an argument that is
gone, or for one that there never was, is told so; one that fails changes nothing, and none changes
an argument that it is not about. And if these accesses are what the body came to, then the call
hands back, whatever the body returned, all arguments but those that were taken, each in its place
and as it was left by the last access that could change it. -/
theorem arguments_linear {step : Step ε} {values : List (Option Source)} {host : Host ε}
    {accesses : List (Access ε)} {log : List (Access ε × Outcome Unit)}
    {frame : Frame ε step.parameters.length} (hfits : step.checkArguments values = .ok ()) :
    let start := step.opening values host (Signature.length_of_checkArguments hfits)
    runAll step.toSignature accesses start = (log, frame) →
    (∀ i, frame.values[i]? = some none ↔ (.take i, .done ()) ∈ log) ∧
    (∀ i j k : Nat, log[j]? = some (.take i, .done ()) → log[k]? = some (.take i, .done ()) →
      j = k) ∧
    (∀ (access : Access ε) (middle : Frame ε step.parameters.length),
      Contained step.toSignature access middle) ∧
    ∀ outcome, step.body.run start = (outcome, frame) →
      let leftovers := (step.call.run (values, host)).2.1
      leftovers.length = values.length ∧
      (∀ i < values.length, leftovers[i]? = some none ↔ (.take i, .done ()) ∈ log) ∧
      (∀ i, Untouched i log → leftovers[i]? = values[i]?) ∧
      ∀ before later i, accesses = before ++ later →
        Untouched i (runAll step.toSignature later (runAll step.toSignature before start).2).1 →
        leftovers[i]? = (runAll step.toSignature before start).2.values[i]? := by
  intro start hrun
  obtain ⟨rfl, rfl⟩ := Prod.mk.inj hrun
  have hgone : ∀ i, (runAll step.toSignature accesses start).2.values[i]? = some none ↔
      (.take i, .done ()) ∈ (runAll step.toSignature accesses start).1 := fun i =>
    (gone_runAll_iff _ _ _ i).trans (or_iff_right (not_gone_opening hfits i))
  refine ⟨hgone, fun i j k hj hk => ?once, fun access middle => contained _ access middle,
    fun outcome hbody => ?leftovers⟩
  case once =>
    obtain ⟨hj, hjtake⟩ := List.getElem?_eq_some_iff.mp hj
    obtain ⟨hk, hktake⟩ := List.getElem?_eq_some_iff.mp hk
    -- of two that took it, one would come after the other
    have honce := List.pairwise_iff_getElem.mp (taken_once step.toSignature accesses start i)
    obtain hlt | heq | hgt := Nat.lt_trichotomy j k
    · exact absurd hktake (honce j k hj hk hlt hjtake)
    · exact heq
    · exact absurd hjtake (honce k j hk hj hgt hktake)
  case leftovers =>
    have hleft : ∀ i, (step.call.run (values, host)).2.1[i]? =
        (runAll step.toSignature accesses start).2.values[i]? := fun i => by
      rw [leftovers_call hfits, hbody]
    refine ⟨length_call step values host, fun i _ => by rw [hleft, hgone], fun i huntouched => ?_,
      fun before later i hsplit huntouched => ?_⟩
    · rw [hleft, runAll_of_untouched huntouched]
      exact getElem?_opening _ i
    · -- what is done before the split is done all the same
      rw [hleft, hsplit, runAll_append]
      exact runAll_of_untouched huntouched

/-- What the step of the next example declares. -/
def publication : Signature :=
  { name := "publish", parameters := [⟨"input", .path⟩, ⟨"note", .string⟩] }

/-- A step that takes its first argument, asks for it again and for a third one, replaces its second
argument, and fails in the end. -/
def publish : Step Unit where
  toSignature := publication
  body := do
    let _ ← take publication 0
    let _ ← (path publication 0).attempt
    let _ ← (get publication 2).attempt
    set publication 1 (.string "published")
    .fail (.missingSetting "key")

/-- The accesses that its body comes to. -/
def publishing : List (Access Unit) := [.take 0, .path 0, .get 2, .set 1 (.string "published")]

def publishArguments : List (Option Source) := [some (.path "kernel"), some (.string "new")]

def emptyHost : Host Unit := ⟨.standard, [], [], [], false, ()⟩

/-- The first argument is gone and stays gone, and the second one is handed back as it was left,
though the body fails. -/
theorem arguments_linear_of_failing_body :
    publish.checkArguments publishArguments = .ok () ∧
    let frame := (publish.body.run (publish.opening publishArguments emptyHost rfl)).2
    let leftovers := (publish.call.run (publishArguments, emptyHost)).2.1
    (perform publication (.take 0)).run frame =
      (.failed (.valueConsumed "publish" "input"), frame) ∧
    leftovers.length = 2 ∧ leftovers[0]? = some none ∧
    leftovers[1]? = some (some (.string "published")) := by
  have hfits : publish.checkArguments publishArguments = .ok () := by decide
  obtain ⟨hgone, -, hcontained, hleft⟩ :=
    @arguments_linear Unit publish publishArguments emptyHost publishing _ _ hfits rfl
  obtain ⟨hlength, htaken, -, hlast⟩ := hleft (.failed (.missingSetting "key")) rfl
  refine ⟨hfits, ?_, hlength, ?_, ?_⟩
  · exact (hcontained (.take 0) _).gone 0 ⟨"input", .path⟩ rfl rfl
      ((hgone 0).mpr List.mem_cons_self)
  · exact (htaken 0 (by decide)).mpr List.mem_cons_self
  · -- nothing comes after the last access that changes it
    exact (hlast publishing [] 1 (List.append_nil _).symm fun _ _ h => by cases h).trans rfl

end Step

end ArtifactPipeline
