import ArtifactPipeline.Shell.Format
import ArtifactPipeline.Shell.Pattern
import ArtifactPipeline.Shell.Utility.Amount
import ArtifactPipeline.Shell.Utility.Rows

/-!
# Sets of octets

The program `tr` puts octets in the place of others, drops octets or squeezes repetitions of them. Its
arguments describe the octets in a row: single ones, ranges, classes with names, and repetitions, one of
which may be as long as needed.

* `SetPart.parts` reads a description;
* `Change.of` puts descriptions and options together, and `Change.apply` changes octets;
* `squeeze_nil_set` : what belongs to no set is kept.
-/

namespace ArtifactPipeline.Shell.Utility

/-- A part of the description of a set. -/
inductive SetPart where
  | single (octet : UInt8)
  | range (first last : UInt8)
  /-- The small or the capital letters. -/
  | letters (capital : Bool)
  /-- A class of octets that is not one of letters of one kind. -/
  | named (octets : Bytes)
  /-- An octet that stands for those that are sorted together with it. -/
  | alike (octet : UInt8)
  | repeated (octet : UInt8) (times : Nat)
  /-- One octet, as often as it takes. -/
  | fill (octet : UInt8)

/-- Why a description of a set makes no sense. -/
inductive SetFault where
  | reversed (first last : UInt8)
  | unnamedClass
  | unknownClass (name : Bytes)
  | unnamedAlike
  | severalAlike (name : Bytes)
  | badCount (text : Bytes)

/-- An octet that cannot be shown, in digits. -/
def octalForm (b : UInt8) : String := "\\" ++ zeroPadded 8 3 b.toNat

/-- How an octet is shown in a report. -/
def shownOctet (b : UInt8) : String :=
  if isPrintedByte b then textOf [b] else octalForm b

/-- How octets are shown in a report. -/
def shownOctets (bytes : Bytes) : String :=
  String.join (bytes.map fun b =>
    if b = 0x5C then "\\\\"
    else
      match Quoting.escapeLetter? (Char.ofUInt8 b) with
      | some letter => String.ofList ['\\', letter]
      | none => shownOctet b)

/-- The report of a fault. -/
def SetFault.message : SetFault → String
  | reversed first last =>
    "range-endpoints of '" ++ shownOctet first ++ "-" ++ shownOctet last
      ++ "' are in reverse collating sequence order"
  | unnamedClass => "missing character class name '[::]'"
  | unknownClass name => "invalid character class " ++ Quoting.text (shownOctets name)
  | unnamedAlike => "missing equivalence class character '[==]'"
  | severalAlike name => shownOctets name ++ ": equivalence class operand must be a single character"
  | badCount text => "invalid repeat count " ++ Quoting.text (shownOctets text) ++ " in [c*n] construct"

/-- The octets from one to another. -/
def octetRange (first last : Nat) : Bytes :=
  (List.range (last + 1 - first)).map fun i => UInt8.ofNat (first + i)

/-- All octets with a property, which is stated of characters. -/
def octetsWith (p : Char → Bool) : Bytes := (octetRange 0 127).filter fun b => p (Char.ofUInt8 b)

namespace SetPart

/-- The octets of a part; `wanted` is the number that fills up. -/
def octets (wanted : Nat) : SetPart → Bytes
  | single b => [b]
  | range first last => octetRange first.toNat last.toNat
  | letters true => octetRange 0x41 0x5A
  | letters false => octetRange 0x61 0x7A
  | named octets => octets
  | alike b => [b]
  | repeated b n => List.replicate n b
  | fill b => List.replicate wanted b

/-- Whether a part is as long as needed. -/
def isFill : SetPart → Bool
  | fill _ => true
  | _ => false

/-- Whether a part is a class with a name. -/
def isClass : SetPart → Bool
  | letters _ => true
  | named _ => true
  | _ => false

/-- Whether a part is a class that is not one of letters of one kind. -/
def isNamed : SetPart → Bool
  | named _ => true
  | _ => false

/-- Whether a part stands for octets that are sorted together. -/
def isAlike : SetPart → Bool
  | alike _ => true
  | _ => false

/-- The class with a name. -/
def class? (name : String) : Option SetPart :=
  match name with
  | "upper" => some (letters true)
  | "lower" => some (letters false)
  | name =>
    if Pattern.classNames.contains name then
      some (named (octetsWith fun c => Pattern.inClass name c))
    else none

end SetPart

/-! ### Reading descriptions -/

/-- An octet of a description, and whether a backslash stood before it. -/
abbrev MarkedOctet := UInt8 × Bool

/-- The octet for a letter after a backslash; others stand for themselves. -/
def letterOctet (b : UInt8) : UInt8 := if b = 0x65 then b else (Format.letterOctet? b).getD b

/-- The octets of a text, and remarks on backslashes that have no clear meaning. -/
def markedOctets : (fuel : Nat) → Bytes → List MarkedOctet × List String
  | 0, _ => ([], [])
  | _ + 1, [] => ([], [])
  | fuel + 1, b :: rest =>
    let before (o : MarkedOctet) (remarks : List String) (rest : Bytes) :
        List MarkedOctet × List String :=
      let (more, others) := markedOctets fuel rest
      (o :: more, remarks ++ others)
    if b ≠ 0x5C then before (b, false) [] rest
    else
      match rest with
      | [] => ([(b, false)], ["warning: an unescaped backslash at end of string is not portable"])
      | c :: more =>
        if Format.isOctal c then
          let digits := (rest.take 3).takeWhile Format.isOctal
          let value := digits.foldl (fun n d => 8 * n + (d.toNat - 0x30)) 0
          if value < 256 then before (UInt8.ofNat value, true) [] (rest.drop digits.length)
          else
            let all := textOf digits
            let two := textOf (digits.take 2)
            before (UInt8.ofNat (value / 8), true)
              ["warning: the ambiguous octal escape \\" ++ all ++ " is being\n\tinterpreted as the "
                ++ "2-byte sequence \\0" ++ two ++ ", " ++ textOf (digits.drop 2)]
              (rest.drop 2)
        else before (letterOctet c, true) [] more

/-- What stands before the sign and the bracket that end a class, and what stands after them. -/
def closedBy (sign : UInt8) : List MarkedOctet → Option (List MarkedOctet × List MarkedOctet)
  | a :: b :: rest =>
    if a = (sign, false) ∧ b = (0x5D, false) then some ([], rest)
    else (closedBy sign (b :: rest)).map fun (inside, rest) => (a :: inside, rest)
  | _ => none

/-- The number of repetitions that digits denote; after a zero they are octal. -/
def repetitions? (digits : Bytes) : Option Nat :=
  let base := if digits.head? = some 0x30 then 8 else 10
  if digits.all fun b => isDigitByte b && b.toNat - 0x30 < base then
    let n := digits.foldl (fun n b => base * n + (b.toNat - 0x30)) 0
    if n < Amount.bound then some n else none
  else none

/-- A repetition that starts with its octet, after the bracket, and what stands after it. -/
def repetition? : List MarkedOctet → Except SetFault (Option (SetPart × List MarkedOctet))
  | (b, _) :: (0x2A, false) :: rest =>
    let inside := rest.takeWhile fun o => !o.2 && o.1 != 0x5D
    match rest.drop inside.length with
    | (0x5D, false) :: more =>
      let digits := inside.map Prod.fst
      match repetitions? digits with
      | some 0 => .ok (some (.fill b, more))
      | some n => .ok (some (.repeated b n, more))
      | none => .error (.badCount digits)
    | _ => .ok none
  | _ => .ok none

/-- Whether a star, digits and a bracket come next. -/
def startsCounted : List MarkedOctet → Bool
  | (0x2A, false) :: rest => rest.find? (fun o => !isDigitByte o.1) == some (0x5D, false)
  | _ => false

/-- A class, an equivalence or a repetition after a bracket, and what stands after it. -/
def bracketed? (rest : List MarkedOctet) : Except SetFault (Option (SetPart × List MarkedOctet)) :=
  match rest with
  | (sign, false) :: more =>
    if sign ≠ 0x3A ∧ sign ≠ 0x3D then repetition? rest
    else
      match closedBy sign more with
      | none => repetition? rest
      | some (inside, after) =>
        let name := inside.map Prod.fst
        if sign = 0x3A then
          if name.isEmpty then .error .unnamedClass
          else
            match SetPart.class? (textOf name) with
            | some part => .ok (some (part, after))
            | none => if startsCounted more then repetition? rest else .error (.unknownClass name)
        else
          match name with
          | [] => .error .unnamedAlike
          | [b] => .ok (some (.alike b, after))
          | name => if startsCounted more then repetition? rest else .error (.severalAlike name)
  | rest => repetition? rest

/-- The parts of a description. -/
def SetPart.parts : (fuel : Nat) → List MarkedOctet → Except SetFault (List SetPart)
  | 0, _ => .ok []
  | fuel + 1, octets => do
    match octets with
    | (b, marked) :: (c, d) :: e :: rest =>
      let found ← if b = 0x5B ∧ !marked then bracketed? ((c, d) :: e :: rest) else .ok none
      match found with
      | some (part, after) => return part :: (← SetPart.parts fuel after)
      | none =>
        if (c, d) = (0x2D, false) then
          if e.1 < b then .error (.reversed b e.1)
          return .range b e.1 :: (← SetPart.parts fuel rest)
        else return .single b :: (← SetPart.parts fuel ((c, d) :: e :: rest))
    | short => return short.map fun o => .single o.1

/-! ### What is done -/

/-- Octets without the repetitions of those in a set. -/
def squeeze (set : Bytes) (bytes : Bytes) : Bytes :=
  bytes.foldr (fun b rest => if rest.head? = some b ∧ set.contains b then rest else b :: rest) []

theorem squeeze_nil_set (bytes : Bytes) : squeeze [] bytes = bytes := by
  induction bytes with
  | nil => rfl
  | cons b rest ih => simp [squeeze]

/-- What is done with the octets of the input. -/
structure Change where
  /-- The octets that are dropped. -/
  dropped : Bytes := []
  /-- The octets that are replaced, each with the one in its place; the last pair counts. -/
  replaced : List (UInt8 × UInt8) := []
  /-- The octets of which repetitions are squeezed. -/
  squeezed : Bytes := []

namespace Change

/-- Change octets. -/
def apply (t : Change) (bytes : Bytes) : Bytes :=
  let pairs := t.replaced.reverse
  let kept := if t.dropped.isEmpty then bytes else bytes.filter fun b => !t.dropped.contains b
  squeeze t.squeezed
    (if pairs.isEmpty then kept else kept.map fun b => (pairs.lookup b).getD b)

/-- The octets of parts; one that is as long as needed brings them to a number. -/
def octetsOf (wanted : Nat) (parts : List SetPart) : Bytes :=
  let others := (parts.flatMap (·.octets 0)).length
  parts.flatMap (·.octets (wanted - others))

/-- The places where letters of one kind start. -/
def letterPlaces : Nat → List SetPart → List Nat
  | _, [] => []
  | n, .letters _ :: rest => n :: letterPlaces (n + 26) rest
  | n, part :: rest => letterPlaces (n + (part.octets 0).length) rest

/-- The octets that are replaced with new ones. -/
def replacedWith (a : Arguments) (inverse : Bool) (first second : List SetPart) (old : Bytes) :
    Except String Bytes := do
  let new := octetsOf old.length second
  if second.any SetPart.isAlike then
    .error "[=c=] expressions may not appear in string2 when translating"
  if second.any SetPart.isNamed then
    .error ("when translating, the only character classes that may appear in\n"
      ++ "string2 are 'upper' and 'lower'")
  if !inverse && !(letterPlaces 0 second).all (letterPlaces 0 first).contains then
    .error "misaligned [:upper:] and/or [:lower:] construct"
  if new.length < old.length ∧ !a.has 't' then
    match second.getLast? with
    | none => .error "when not truncating set1, string2 must be non-empty"
    | some (.letters _) =>
      .error ("when translating with string1 longer than string2,\n"
        ++ "the latter string must not end with a character class")
    | some _ => pure ()
  let extended := if a.has 't' then new
    else new ++ List.replicate (old.length - new.length) (new.getLast?.getD 0)
  if inverse && first.any SetPart.isClass
      && !(extended.length == old.length && extended.all fun b => some b == extended.head?) then
    .error ("when translating with complemented character classes,\n"
      ++ "string2 must map all characters in the domain to one")
  return extended

/-- What the options and sets ask for. -/
def of (a : Arguments) (first : List SetPart) (second : Option (List SetPart)) :
    Except String Change := do
  if first.any SetPart.isFill then
    .error "the [c*] repeat construct may not appear in string1"
  let inverse := a.hasAny "cC"
  let listed := octetsOf 0 first
  let old := if inverse then (octetRange 0 255).filter fun b => !listed.contains b else listed
  if 1 < ((second.getD []).filter SetPart.isFill).length then
    .error "only one [c*] repeat construct may appear in string2"
  match a.has 'd', second with
  | false, some second =>
    let new ← replacedWith a inverse first second old
    return { replaced := old.zip new, squeezed := if a.has 's' then new else [] }
  | drops, second =>
    if (second.getD []).any SetPart.isFill then
      .error "the [c*] construct may appear in string2 only when translating"
    return {
      dropped := if drops then old else []
      squeezed := if !a.has 's' then [] else if drops then octetsOf 0 (second.getD []) else old }

end Change

/-- The report on the number of sets, if it is wrong. -/
def setCountFault? (a : Arguments) : Option String :=
  let drops := a.has 'd'
  let squeezes := a.has 's'
  let needed := if drops = squeezes then 2 else 1
  let most := if drops ∧ !squeezes then 1 else 2
  let sets := a.operands
  if sets.isEmpty then some "missing operand"
  else if sets.length < needed then
    some ("missing operand after " ++ Quoting.text (sets.getLast?.getD "") ++ "\n"
      ++ (if squeezes then "Two strings must be given when both deleting and squeezing repeats."
        else "Two strings must be given when translating."))
  else if most < sets.length then
    some ("extra operand " ++ Quoting.text (sets.getD most "")
      ++ (if sets.length = 2 then
        "\nOnly one string may be given when deleting without squeezing repeats." else ""))
  else none

/-- The options of `tr`. -/
def trOptions : OptionTable where
  flags := "AcCdst"
  long := longNames "c=complement d=delete s=squeeze-repeats t=truncate-set1"

/-- The set that an argument describes. -/
def describedSet (text : String) : Task (List SetPart) := do
  let bytes := Octets.bytes text
  let (octets, remarks) := markedOctets (bytes.length + 1) bytes
  for text in remarks do Task.remark text
  match SetPart.parts (octets.length + 1) octets with
  | .ok parts => return parts
  | .error fault => Task.fail fault.message

/-- Put octets of one set in the place of those of another, or drop them. -/
def tr : Utility := fun arguments => do
  let a ← Task.sorted false trOptions arguments fun _ _ => pure ()
  match setCountFault? a with
  | some text => Task.misuse text
  | none => pure ()
  let first ← describedSet (a.operands.getD 0 "")
  let second ← (a.operands[1]?).mapM describedSet
  match Change.of a first second with
  | .error text => Task.fail text
  | .ok change =>
    match ← Task.takeInput with
    | .ok bytes => Task.put (change.apply bytes)
    | .error fault => Task.fail ("read error: " ++ faultText fault)

end ArtifactPipeline.Shell.Utility
