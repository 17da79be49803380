import ArtifactPipeline.Shell.Utility.Attributes

/-!
# Copies in blocks

The program `dd` copies its input in blocks of one size, from a place in the input to a place in the output,
and may change the octets on the way. At the end it says how many blocks there were.

* `BlockRequest.with` reads an operand, and `Conversion.apply` changes octets;
* `blockCounts` are the numbers of whole and of short blocks.
-/

namespace ArtifactPipeline.Shell.Utility

/-- What `dd` is asked for. -/
structure BlockRequest where
  source : Option String := none
  target : Option String := none
  inputSize : Nat := 512
  outputSize : Nat := 512
  /-- The size of both kinds of blocks, where it is given for both. -/
  size : Option Nat := none
  recordSize : Nat := 0
  /-- How much is copied, and whether it is counted in octets. -/
  count : Option (Nat × Bool) := none
  skip : Nat × Bool := (0, false)
  seek : Nat × Bool := (0, false)
  conversions : List String := []
  inputFlags : List String := []
  outputFlags : List String := []
  status : String := ""

/-- The conversions that are known. -/
def knownConversions : List String :=
  ["ascii", "block", "ebcdic", "excl", "fdatasync", "fsync", "ibm", "lcase", "nocreat", "noerror",
    "notrunc", "sparse", "swab", "sync", "ucase", "unblock"]

/-- The flags that are known. -/
def knownFlags : List String :=
  ["append", "binary", "cio", "count_bytes", "direct", "directory", "dsync", "fullblock", "noatime",
    "nocache", "noctty", "nofollow", "nolinks", "nonblock", "seek_bytes", "skip_bytes", "sync", "text"]

/-- The number that a text gives: factors with a sign between them, each with letters behind it. -/
def blockNumber? (text : String) : Option (Nat × Bool) := do
  let factors := Text.splitOn 'x' text.toList
  let known := "bcEGkKMPQRTwYZ0".toList
  let inOctets := text.toList.getLast? == some 'B'
  let numbers ← factors.mapM fun cs => do
    let plain := cs.getLast? == some 'B' && cs.dropLast.getLast?.any Char.isDigit
    match Amount.read known (String.ofList (if plain then cs.dropLast else cs)) with
    | .exactly n => some n
    | _ => none
  if factors.any (fun cs => !cs.head?.any Char.isDigit) then none
  else some (numbers.foldl (· * ·) 1, inOctets)

/-- The words of a list with commas, all of which must be known. -/
def listedWords (what : String) (known : List String) (text : String) : Task (List String) := do
  let words := (Text.splitOn ',' text.toList).map String.ofList
  match words.find? fun w => !known.contains w with
  | some w => Task.misuse ("invalid " ++ what ++ ": " ++ Quoting.text w)
  | none => return words

/-- Take in an operand. -/
def BlockRequest.with (r : BlockRequest) (operand : String) : Task BlockRequest := do
  let unknown : Task BlockRequest := Task.misuse ("unrecognized operand " ++ Quoting.text operand)
  let number (value : String) (least : Nat) : Task (Nat × Bool) :=
    match blockNumber? value with
    | some found =>
      if found.1 < least then Task.fail ("invalid number: " ++ Quoting.text value) else pure found
    | none => Task.fail ("invalid number: " ++ Quoting.text value)
  match Text.splitOnce '=' operand with
  | none => unknown
  | some (name, value) =>
    match name with
    | "if" => return { r with source := some value }
    | "of" => return { r with target := some value }
    | "ibs" => return { r with inputSize := (← number value 1).1 }
    | "obs" => return { r with outputSize := (← number value 1).1 }
    | "bs" => return { r with size := some (← number value 1).1 }
    | "cbs" => return { r with recordSize := (← number value 1).1 }
    | "count" => return { r with count := some (← number value 0) }
    | "skip" => return { r with skip := ← number value 0 }
    | "iseek" => return { r with skip := ← number value 0 }
    | "seek" => return { r with seek := ← number value 0 }
    | "oseek" => return { r with seek := ← number value 0 }
    | "conv" =>
      let words ← listedWords "conversion" knownConversions value
      return { r with conversions := r.conversions ++ words }
    | "iflag" =>
      return { r with inputFlags := r.inputFlags ++ (← listedWords "input flag" knownFlags value) }
    | "oflag" =>
      return { r with outputFlags := r.outputFlags ++ (← listedWords "output flag" knownFlags value) }
    | "status" =>
      if ["none", "noxfer", "progress"].contains value then return { r with status := value }
      else Task.misuse ("invalid status level: " ++ Quoting.text value)
    | _ => unknown

/-- Octets with the two of each pair exchanged. -/
def swapPairs : Bytes → Bytes
  | a :: b :: rest => b :: a :: swapPairs rest
  | bytes => bytes

theorem swapPairs_swapPairs (bytes : Bytes) : swapPairs (swapPairs bytes) = bytes := by
  fun_induction swapPairs bytes with
  | case1 a b rest ih => rw [swapPairs, ih]
  | case2 bytes h =>
    match bytes, h with
    | [], _ => rfl
    | [_], _ => rfl
    | a :: b :: rest, h => exact absurd rfl (h a b rest)

/-- Parts of so many octets. -/
def chunksOf (size : Nat) : (fuel : Nat) → Bytes → List Bytes
  | 0, _ => []
  | fuel + 1, bytes =>
    if bytes.isEmpty then [] else bytes.take size :: chunksOf size fuel (bytes.drop size)

/-- Change octets as conversions say. -/
def BlockRequest.convert (r : BlockRequest) (bytes : Bytes) : Bytes :=
  let asks (name : String) : Bool := r.conversions.contains name
  let swapped := if asks "swab" then swapPairs bytes else bytes
  let cased :=
    if asks "ucase" then swapped.map upperByte
    else if asks "lcase" then swapped.map fun b => if 0x41 ≤ b ∧ b ≤ 0x5A then b + 0x20 else b
    else swapped
  if r.recordSize = 0 then cased
  else if asks "block" then
    (plainLines cased).flatMap fun line =>
      line.take r.recordSize ++ List.replicate (r.recordSize - line.length) 0x20
  else if asks "unblock" then
    (chunksOf r.recordSize (cased.length + 1) cased).flatMap fun record =>
      (record.reverse.dropWhile (· == 0x20)).reverse ++ [0x0A]
  else cased

/-- The numbers of whole and of short blocks. -/
def blockCounts (size length : Nat) : Nat × Nat := (length / size, if length % size = 0 then 0 else 1)

/-- Say how many blocks were read and written. -/
def reportBlocks (r : BlockRequest) (read written : Nat × Nat) (length : Nat) : Task Unit := do
  let counts (n : Nat × Nat) : String := toString n.1 ++ "+" ++ toString n.2
  if r.status != "none" then
    Task.note (counts read ++ " records in")
    Task.note (counts written ++ " records out")
    if r.status != "noxfer" then
      Task.note (toString length ++ (if length = 1 then " byte" else " bytes")
        ++ " copied, 0 s, Infinity B/s")

/-- Open the input of a copy. -/
def blockInput (r : BlockRequest) : Task Nat :=
  match r.source with
  | some name => do
    match ← Task.openName .read name with
    | .ok number => return number
    | .error fault => Task.fail ("failed to open " ++ Quoting.always name ++ ": " ++ faultText fault)
  | none => do
    match (← get).toMachine.number? 0 with
    | some number => return number
    | none => Task.fail "failed to open 'standard input': Bad file descriptor"

/-- Open the output of a copy, so that it is written from a place on. -/
def blockOutput (r : BlockRequest) (seek : Nat) : Task Nat :=
  match r.target with
  | some name => do
    let asks (word : String) : Bool := r.conversions.contains word
    let fail (fault : IoFault) : Task Nat :=
      Task.fail ("failed to open " ++ Quoting.always name ++ ": " ++ faultText fault)
    let there := (← get).files.has (State.fileName name)
    if asks "excl" && there then fail (.other "File exists")
    else if asks "nocreat" && !there then fail .notFound
    else
      let appends := r.outputFlags.contains "append"
      match ← Task.openName (if appends then .append else .both) name with
      | .error fault => fail fault
      | .ok number =>
        let d ← get
        match d.openings[number]? with
        | some { target := .node (.file id), .. } =>
          if !asks "notrunc" then
            Task.change (d.files.overwrite id (resized seek (d.files.contentsOf id)))
        | _ => pure ()
        stepOver number seek
        return number
  | none => do
    match (← get).toMachine.number? 1 with
    | some number =>
      if (← get).toMachine.isSeekableOpening number then stepOver number seek
      return number
    | none => Task.fail "failed to open 'standard output': Bad file descriptor"

/-- Copy in blocks. -/
def dd : Utility := fun arguments => do
  let a ← Task.options { flags := "", long := longNames "" } arguments
  let mut r : BlockRequest := {}
  for operand in a.operands do r ← r.with operand
  let inputSize := r.size.getD r.inputSize
  let outputSize := r.size.getD r.outputSize
  let octets (n : Nat × Bool) (size : Nat) (flags : List String) (flag : String) : Nat :=
    if n.2 || flags.contains flag then n.1 else n.1 * size
  let skip := octets r.skip inputSize r.inputFlags "skip_bytes"
  let seek := octets r.seek outputSize r.outputFlags "seek_bytes"
  let limit := r.count.map fun n => octets n inputSize r.inputFlags "count_bytes"
  let input ← blockInput r
  let output ← blockOutput r seek
  match (← get).toMachine.leftOf input (limit.map (· + skip)) with
  | .error fault =>
    Task.complain ("error reading " ++ Quoting.always (r.source.getD "standard input") ++ ": "
      ++ faultText fault)
    reportBlocks r (0, 0) (0, 0) 0
  | .ok all =>
    if all.length < skip && r.status != "none" then
      Task.remark (Quoting.always (r.source.getD "standard input")
        ++ ": cannot skip to specified offset")
    let left := all.drop skip
    let bytes := match limit with
      | some n => left.take n
      | none => left
    stepOver input (min skip all.length + bytes.length)
    let filled :=
      if r.conversions.contains "sync" then
        bytes ++ List.replicate ((inputSize - bytes.length % inputSize) % inputSize) 0
      else bytes
    let converted := r.convert filled
    match ← Task.writeTo output converted with
    | .ok () =>
      reportBlocks r (blockCounts inputSize bytes.length) (blockCounts outputSize converted.length)
        converted.length
    | .error fault =>
      Task.complain ("error writing " ++ Quoting.always (r.target.getD "standard output") ++ ": "
        ++ faultText fault)
      reportBlocks r (1, 0) (0, 0) 0

end ArtifactPipeline.Shell.Utility
