import ArtifactPipeline.Shell.State

/-!
# Redirections

A redirection whose target is known connects a channel: to a file that is opened for it, to what
another channel is connected to, or to the text of a document. Redirections are carried out from the
first to the last, and undone together.
-/

namespace ArtifactPipeline.Shell

/-- The words of a fault, without its number. -/
def faultText : IoFault → String
  | .notFound => "No such file or directory"
  | .notDirectory => "Not a directory"
  | .isDirectory => "Is a directory"
  | .nameTooLong => "File name too long"
  | .invalidArgument => "Invalid argument"
  | .tooManyLinks => "Too many levels of symbolic links"
  | fault => fault.message

/-- A redirection whose target is known. -/
structure Connection where
  channel : Nat
  mode : RedirectMode
  target : String

/-- The report on a file that cannot be opened. -/
def openFault (creating : Bool) (name : String) (fault : IoFault) : String :=
  let cause := match fault with
    | .notFound | .notDirectory => if creating then "Directory nonexistent" else "No such file"
    | fault => faultText fault
  (if creating then "cannot create " else "cannot open ") ++ name ++ ": " ++ cause

namespace Connection

/-- Connect a channel to what is opened under a name. -/
def openTarget (c : Connection) (access : Access) (s : State) : Except String State :=
  match s.toMachine.openName access (State.fileName c.target) with
  | .ok (machine, number) => .ok { s with toMachine := machine.connect c.channel (some number) }
  | .error fault => .error (openFault (access != .read) c.target fault)

/-- Whether a target is a file with contents. -/
def isFile (s : State) (name : String) : Bool :=
  match s.files.find (State.fileName name) with
  | .ok (_, .file _) => true
  | _ => false

/-- Connect a channel to what another one is connected to. -/
def share (c : Connection) (s : State) : Except String State :=
  match c.target.toList with
  | ['-'] => .ok { s with toMachine := s.toMachine.connect c.channel none }
  | [d] =>
    if d.isDigit then
      let n := d.toNat - '0'.toNat
      match s.toMachine.number? n with
      | none => .error (toString n ++ ": Bad file descriptor")
      | number => .ok { s with toMachine := s.toMachine.connect c.channel number }
    else .error "Syntax error: Bad fd number"
  | _ => .error "Syntax error: Bad fd number"

/-- Carry a redirection out. -/
def establish (s : State) (c : Connection) : Except String State :=
  match c.mode with
  | .input => c.openTarget .read s
  | .inputOutput => c.openTarget .both s
  | .output =>
    if s.hasOption 'C' ∧ isFile s c.target then
      .error ("cannot create " ++ c.target ++ ": File exists")
    else c.openTarget .replace s
  | .replace => c.openTarget .replace s
  | .append => c.openTarget .append s
  | .duplicate => c.share s
  | .document _ =>
    let (machine, number) := s.toMachine.openText (Octets.bytes c.target)
    .ok { s with toMachine := machine.connect c.channel (some number) }

end Connection

/-- Carry redirections out, from the first to the last. -/
def establish (cs : List Connection) (s : State) : Except String State :=
  cs.foldlM Connection.establish s

end ArtifactPipeline.Shell
