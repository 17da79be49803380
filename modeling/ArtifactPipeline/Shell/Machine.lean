import ArtifactPipeline.Files.System
import ArtifactPipeline.Shell.Octets

/-!
# Open files

A program reads and writes through numbered channels. A channel refers to an opening of something: a
file, which keeps the place up to which it was read or written, or a pipe. Several channels can refer
to one opening, and then they share the place; opening a file once more starts at a place of its own.

* `openName` opens what a path name leads to, or opens anew what a channel refers to;
* `takeAll` and `takeSome` read, and `write` writes.

What one program writes into a pipe is all there before the next one reads it.
-/

namespace ArtifactPipeline.Shell

/-- What is opened. -/
inductive Target where
  | node (n : Node)
  | pipe (n : Nat)
deriving Repr, DecidableEq

/-- An opening. -/
structure Opening where
  target : Target
  /-- The place up to which a file has been read or written. -/
  place : Nat := 0
  reads : Bool := false
  writes : Bool := false
  /-- Whether everything is written at the end. -/
  appends : Bool := false
deriving Repr, DecidableEq

/-- A pipe: what can be read from it, and what was written to it after that, the latest first. -/
structure Pipe where
  unread : Bytes := []
  written : List Bytes := []

/-- All octets in a pipe. -/
def Pipe.contents (p : Pipe) : Bytes :=
  if p.written.isEmpty then p.unread else p.unread ++ p.written.reverse.flatten

/-- The files, what is open of them, and the channels that refer to it. -/
structure Machine where
  files : FileSystem
  pipes : Array Pipe := #[]
  openings : Array Opening := #[]
  channels : List (Nat × Nat) := []

/-- How something is opened. -/
inductive Access where
  | read
  | replace
  | append
  /-- For reading and writing. -/
  | both
deriving Repr, DecidableEq

/-- The fault of a channel that refers to nothing that suits. -/
def badChannel : IoFault := .other "Bad file descriptor"

/-- The fault of a file that takes nothing in. -/
def noSpace : IoFault := .other "No space left on device"

/-- The number of zeros that are read where there is no end to them. -/
def manyZeros : Nat := 131072

namespace Machine

variable (m : Machine)

/-! ### Channels -/

/-- The number of the opening that a channel refers to. -/
def number? (channel : Nat) : Option Nat := m.channels.lookup channel

/-- The opening that a channel refers to. -/
def opening? (channel : Nat) : Option Opening := do m.openings[← m.number? channel]?

/-- Let a channel refer to an opening, or to none. -/
def connect (channel : Nat) (number : Option Nat) : Machine :=
  let others := m.channels.filter (·.1 != channel)
  { m with channels := match number with
    | some n => (channel, n) :: others
    | none => others }

/-- One more opening, and its number. -/
def addOpening (o : Opening) : Machine × Nat :=
  ({ m with openings := m.openings.push o }, m.openings.size)

/-- Forget what was opened since an earlier time, unless a channel still refers to it. -/
def reclaim (before : Machine) : Machine :=
  if m.channels.all fun c => c.2 < before.openings.size then
    { m with
      openings := m.openings.take before.openings.size
      pipes := m.pipes.take before.pipes.size }
  else m

/-- One more pipe with octets in it, and its number. -/
def addPipe (bytes : Bytes) : Machine × Nat :=
  ({ m with pipes := m.pipes.push { unread := bytes } }, m.pipes.size)

/-- The octets in a pipe. -/
def pipeContents (n : Nat) : Bytes := (m.pipes.getD n {}).contents

/-- Make a new pipe, and open it for writing; the answer is the number of the pipe and of the
opening. -/
def openPipe : Machine × Nat × Nat :=
  let (m, p) := m.addPipe []
  let (m, number) := m.addOpening { target := .pipe p, writes := true }
  (m, p, number)

/-- Open a pipe for reading. -/
def openRead (pipe : Nat) : Machine × Nat := m.addOpening { target := .pipe pipe, reads := true }

/-- Put octets into a new pipe, and open it for reading. -/
def openText (bytes : Bytes) : Machine × Nat :=
  let (m, p) := m.addPipe bytes
  m.openRead p

/-! ### Opening -/

/-- The channel that a path name stands for. -/
def namedChannel? (name : String) : Option Nat :=
  match name with
  | "/dev/stdin" => some 0
  | "/dev/stdout" => some 1
  | "/dev/stderr" => some 2
  | name =>
    match ["/dev/fd/", "/proc/self/fd/"].findSome? fun d => Text.without? d name with
    | some digits => digits.toNat?
    | none => none

/-- An opening for an access. -/
def openingFor (access : Access) (target : Target) : Opening where
  target
  reads := access == .read || access == .both
  writes := access != .read
  appends := access == .append

/-- Open a node. -/
def openNode (access : Access) (n : Node) : Except IoFault (Machine × Nat) :=
  match n, access with
  | .directory, .read => .ok (m.addOpening (openingFor access (.node n)))
  | .directory, _ => .error .isDirectory
  | .file id, .replace =>
    .ok ({ m with files := m.files.overwrite id [] }.addOpening (openingFor access (.node n)))
  | _, _ => .ok (m.addOpening (openingFor access (.node n)))

/-- Open what a path name leads to; a missing file is made, unless it is only read. -/
def openName (access : Access) (name : String) : Except IoFault (Machine × Nat) := do
  match namedChannel? name with
  | some channel =>
    match m.opening? channel with
    | none => .error .notFound
    | some o =>
      match o.target with
      | .node n => m.openNode access n
      | .pipe _ => .ok (m.addOpening (openingFor access o.target))
  | none =>
    match access with
    | .read =>
      let (_, n) ← m.files.find name
      m.openNode .read n
    | access =>
      let (n, files) ← m.files.openToWrite true name
      { m with files }.openNode access n

/-! ### Reading -/

/-- The octets that are left to an opening; `limit` says how many are wanted at most. -/
def left (o : Opening) (limit : Option Nat) : Except IoFault Bytes :=
  if !o.reads then .error badChannel
  else
    match o.target with
    | .pipe n => .ok (m.pipeContents n)
    | .node (.file id) => .ok ((m.files.contentsOf id).drop o.place)
    | .node .zeros => .ok (List.replicate (limit.getD manyZeros) 0)
    | .node .full => .ok (List.replicate (limit.getD manyZeros) 0)
    | .node n => m.files.readNode n

/-- Step over octets of an opening that has a number. -/
def advance (number n : Nat) : Machine :=
  match m.openings[number]? with
  | none => m
  | some o =>
    match o.target with
    | .pipe p => { m with pipes := m.pipes.modify p fun q => { unread := q.contents.drop n } }
    | .node _ => { m with openings := m.openings.modify number fun o => { o with place := o.place + n } }

/-- The octets that a numbered opening has left. -/
def leftOf (number : Nat) (limit : Option Nat) : Except IoFault Bytes :=
  match m.openings[number]? with
  | some o => m.left o limit
  | none => .error badChannel

/-- The octets that a channel has left. -/
def leftAt (channel : Nat) (limit : Option Nat) : Except IoFault Bytes :=
  match m.number? channel with
  | some n => m.leftOf n limit
  | none => .error badChannel

/-- Take all that a numbered opening has left. -/
def takeAll (number : Nat) : Except IoFault Bytes × Machine :=
  match m.leftOf number none with
  | .ok bytes => (.ok bytes, m.advance number bytes.length)
  | .error fault => (.error fault, m)

/-- Whether what was read too far can be given back. -/
def isSeekableOpening (number : Nat) : Bool :=
  match m.openings[number]? with
  | some o =>
    match o.target with
    | .node _ => true
    | .pipe _ => false
  | none => false

/-- Step over octets of a channel. -/
def advanceAt (channel n : Nat) : Machine :=
  match m.number? channel with
  | some number => m.advance number n
  | none => m

/-! ### Writing -/

/-- Contents with octets written at a place. -/
def spliced (contents : Bytes) (place : Nat) (bytes : Bytes) : Bytes :=
  let gap := List.replicate (place - contents.length) 0
  contents.take place ++ gap ++ bytes ++ contents.drop (place + bytes.length)

/-- Write to a numbered opening. -/
def writeTo (number : Nat) (bytes : Bytes) : Except IoFault Machine :=
  match m.openings[number]? with
  | none => .error badChannel
  | some o =>
    if !o.writes then .error badChannel
    else
      match o.target with
      | .pipe p =>
        .ok { m with pipes := m.pipes.modify p fun q => { q with written := bytes :: q.written } }
      | .node (.file id) =>
        let size := m.files.sizeOf id
        let place := if o.appends then size else o.place
        .ok { m with
          files :=
            if place = size then m.files.extend id bytes
            else m.files.overwrite id (spliced (m.files.contentsOf id) place bytes)
          openings := m.openings.modify number fun o => { o with place := place + bytes.length } }
      | .node .full => if bytes.isEmpty then .ok m else .error noSpace
      | .node _ => .ok m

/-- Write to a channel. -/
def write (channel : Nat) (bytes : Bytes) : Except IoFault Machine :=
  match m.number? channel with
  | some n => m.writeTo n bytes
  | none => .error badChannel

end Machine

end ArtifactPipeline.Shell
