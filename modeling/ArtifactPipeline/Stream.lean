import ArtifactPipeline.Files.System
import ArtifactPipeline.Text.Quoted

/-!
# Streams

A stream yields octets once. It reads from memory, where a fault may wait behind the last octet, or
from a node of the file system that was opened and is read as it is at the time of reading. A stream
may carry the name of a file that was made for it; that file belongs to whoever holds the stream.

`Stream.readAll` yields everything that is left and `Stream.readSome` a bounded part. Reading never
changes the file system.
-/

namespace ArtifactPipeline

/-- Where a stream reads from. -/
inductive Origin where
  /-- Octets in memory, and the fault behind them, if any. -/
  | memory (rest : Bytes) (fault : Option IoFault)
  /-- Memory that was found to be read to its end, where a fault answers from now on. -/
  | faulty (fault : IoFault)
  /-- A node that was opened, and how much of it has been read. -/
  | opened (node : Node) (offset : Nat)
deriving Repr, DecidableEq

/-- Octets that can be read once. -/
structure Stream where
  origin : Origin
  /-- A file that was made for the stream. -/
  backing : Option String := none
deriving Repr, DecidableEq

namespace Origin

/-- The octets that are left to read, and the fault behind them, if there is one. -/
def readable (fs : FileSystem) : Origin → Bytes × Option IoFault
  | memory rest fault => (rest, fault)
  | faulty fault => ([], some fault)
  | opened node offset =>
    match fs.readNode node with
    | .ok bytes => (bytes.drop offset, none)
    | .error fault => ([], some fault)

/-- What is left to read, or why it cannot be read to its end. -/
def remaining (fs : FileSystem) (o : Origin) : Except IoFault Bytes :=
  match o.readable fs with
  | (bytes, none) => .ok bytes
  | (_, some fault) => .error fault

/-- The origin after it has been read to its end. -/
def drained (fs : FileSystem) : Origin → Origin
  | memory _ none => memory [] none
  | memory _ (some fault) => faulty fault
  | faulty fault => faulty fault
  | opened node offset =>
    match fs.readNode node with
    | .ok bytes => opened node (max offset bytes.length)
    | .error _ => opened node offset

/-- At most `limit` octets, and the origin after them. Nothing is read at the end. The end of memory
shows only to a reader that asks for an octet; until then a fault behind it stays unseen. -/
def part (fs : FileSystem) (limit : Nat) : Origin → Except IoFault Bytes × Origin
  | faulty fault => (.error fault, faulty fault)
  | memory [] (some fault) =>
    if limit = 0 then (.ok [], memory [] (some fault)) else (.error fault, faulty fault)
  | memory rest fault => (.ok (rest.take limit), memory (rest.drop limit) fault)
  | opened node offset =>
    match fs.readNode node with
    | .ok bytes =>
      let next := (bytes.drop offset).take limit
      (.ok next, opened node (offset + next.length))
    | .error fault => (.error fault, opened node offset)

end Origin

namespace Stream

/-- A stream over octets in memory. -/
def ofBytes (bytes : Bytes) : Stream := ⟨.memory bytes none, none⟩

/-- A stream over a node that was opened. -/
def ofNode (node : Node) : Stream := ⟨.opened node 0, none⟩

/-- The octets that are left to read, and the fault behind them, if there is one. -/
def readable (fs : FileSystem) (s : Stream) : Bytes × Option IoFault := s.origin.readable fs

/-- What is left to read. -/
def remaining (fs : FileSystem) (s : Stream) : Except IoFault Bytes := s.origin.remaining fs

/-- Read to the end. -/
def readAll (fs : FileSystem) (s : Stream) : Except IoFault Bytes × Stream :=
  (s.remaining fs, { s with origin := s.origin.drained fs })

/-- Read a bounded part. -/
def readSome (fs : FileSystem) (limit : Nat) (s : Stream) : Except IoFault Bytes × Stream :=
  let (part, origin) := s.origin.part fs limit
  (part, { s with origin })

/-- A stream, shown for inspection. -/
def inspect (s : Stream) : String :=
  Text.RecordText.render ⟨"Stream", [("backing", Text.quotedOption s.backing)], true⟩

@[simp] theorem remaining_ofBytes (fs : FileSystem) (bytes : Bytes) :
    (ofBytes bytes).remaining fs = .ok bytes := rfl

@[simp] theorem backing_readAll (fs : FileSystem) (s : Stream) :
    (s.readAll fs).2.backing = s.backing := rfl

end Stream

end ArtifactPipeline
