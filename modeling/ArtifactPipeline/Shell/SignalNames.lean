/-!
# The names of signals

A signal has a number, and most signals have a name of their own. The others are named for the nearest one
of the two that bound the signals of their kind.

* `signalName` is the name of a signal, and `signalNamed?` finds the number for a name;
* `sentSignal?` reads how programs other than the shell are told of a signal.
-/

namespace ArtifactPipeline.Shell

/-- The names of the signals with names of their own, by their numbers. -/
def namedSignals : List (Nat × String) :=
  [(0, "EXIT"), (1, "HUP"), (2, "INT"), (3, "QUIT"), (4, "ILL"), (5, "TRAP"), (6, "ABRT"),
    (7, "BUS"), (8, "FPE"), (9, "KILL"), (10, "USR1"), (11, "SEGV"), (12, "USR2"), (13, "PIPE"),
    (14, "ALRM"), (15, "TERM"), (17, "CHLD"), (18, "CONT"), (19, "STOP"), (20, "TSTP"),
    (21, "TTIN"), (22, "TTOU"), (23, "URG"), (24, "XCPU"), (25, "XFSZ"), (26, "VTALRM"),
    (27, "PROF"), (28, "WINCH"), (29, "IO"), (30, "PWR"), (31, "SYS"), (34, "RTMIN"),
    (64, "RTMAX")]

/-- One more than the number of the last signal. -/
def signalLimit : Nat := 65

/-- The name of a signal. One without a name of its own is named for the nearest one of the two that
bound the signals of its kind, or by its number. -/
def signalName (n : Nat) : String :=
  match namedSignals.lookup n with
  | some name => name
  | none =>
    if 34 < n ∧ n < 50 then "RTMIN+" ++ toString (n - 34)
    else if 50 ≤ n ∧ n < 64 then "RTMAX-" ++ toString (64 - n)
    else toString n

/-- The number of the signal with a name, in capital letters or not. -/
def signalNamed? (name : String) : Option Nat :=
  let upper := String.ofList (name.toList.map Char.toUpper)
  (List.range signalLimit).find? fun n => signalName n == upper

/-- Second names of signals. -/
def otherSignalNames : List (String × Nat) := [("CLD", 17), ("IOT", 6), ("POLL", 29)]

/-- The number of a signal, by number or by name, where the name may start with three letters that all
signals share. -/
def sentSignal? (text : String) : Option Nat :=
  match text.toList with
  | [] => none
  | c :: cs =>
    if c.isDigit then
      if cs.all Char.isDigit then
        let n := (c :: cs).foldl (fun n c => 10 * n + (c.toNat - '0'.toNat)) 0
        let n := if 255 ≤ n then n % 256 else n % 128
        if n < signalLimit ∧ n ≠ 16 ∧ n ≠ 32 ∧ n ≠ 33 then some n else none
      else none
    else
      let upper := (c :: cs).map Char.toUpper
      let named (cs : List Char) : Option Nat :=
        if cs.all Char.isDigit then none
        else (signalNamed? (String.ofList cs)).orElse fun _ => otherSignalNames.lookup (String.ofList cs)
      match upper with
      | 'S' :: 'I' :: 'G' :: rest => named rest
      | upper => named upper

end ArtifactPipeline.Shell
