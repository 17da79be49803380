import ArtifactPipeline.Shell.Regular.Expression

/-!
# Written regular expressions

There are two ways of writing a regular expression. In the simple one, groups, bounds and choices are
written with backslashes; in the extended one without. Programs differ in what they make of signs that
stand where they have no meaning.

* `Dialect` is a way of writing;
* `Expression.read` reads an expression, or says why it is none.
-/

namespace ArtifactPipeline.Shell.Regular

/-- A way of writing regular expressions. -/
structure Dialect where
  /-- Whether groups, bounds and choices are written without backslashes. -/
  extended : Bool := false
  /-- Whether signs without a meaning stand for themselves where possible. -/
  lenient : Bool := false
deriving Repr, DecidableEq

/-- Why a text is no regular expression. -/
inductive Fault where
  | openBracket
  /-- A bracket after which there is nothing. -/
  | lastBracket
  | openGroup
  | closedGroup
  | openBound
  | badBound
  | badRange
  | badClass
  | badElement
  | badReference
  | backslash
  | nothingRepeated
  | tooBig
  /-- A class without the brackets around it. -/
  | bareClass
deriving Repr, DecidableEq

/-- The report of a fault. -/
def Fault.message : Fault → String
  | openBracket => "Unmatched [, [^, [:, [., or [="
  | lastBracket => "Invalid regular expression"
  | openGroup => "Unmatched ( or \\("
  | closedGroup => "Unmatched ) or \\)"
  | openBound => "Unmatched \\\x7b"
  | badBound => "Invalid content of \\\x7b\\\x7d"
  | badRange => "Invalid range end"
  | badClass => "Invalid character class name"
  | badElement => "Invalid collation character"
  | badReference => "Invalid back reference"
  | backslash => "Trailing backslash"
  | nothingRepeated => "Invalid preceding regular expression"
  | tooBig => "Regular expression too big"
  | bareClass => "character class syntax is [[:space:]], not [:space:]"

/-! ### Sets -/

/-- The octets of a class. -/
def classSpans? (name : String) : Option (List (UInt8 × UInt8)) :=
  match name with
  | "alpha" => some [(0x41, 0x5A), (0x61, 0x7A)]
  | "digit" => some [(0x30, 0x39)]
  | "alnum" => some [(0x30, 0x39), (0x41, 0x5A), (0x61, 0x7A)]
  | "upper" => some [(0x41, 0x5A)]
  | "lower" => some [(0x61, 0x7A)]
  | "space" => some [(0x09, 0x0D), (0x20, 0x20)]
  | "blank" => some [(0x09, 0x09), (0x20, 0x20)]
  | "punct" => some [(0x21, 0x2F), (0x3A, 0x40), (0x5B, 0x60), (0x7B, 0x7E)]
  | "print" => some [(0x20, 0x7E)]
  | "graph" => some [(0x21, 0x7E)]
  | "cntrl" => some [(0x00, 0x1F), (0x7F, 0x7F)]
  | "xdigit" => some [(0x30, 0x39), (0x41, 0x46), (0x61, 0x66)]
  | _ => none

/-- The octets of words. -/
def wordSpans : List (UInt8 × UInt8) := [(0x30, 0x39), (0x41, 0x5A), (0x5F, 0x5F), (0x61, 0x7A)]

/-- The octets of blanks. -/
def spaceSpans : List (UInt8 × UInt8) := [(0x09, 0x0D), (0x20, 0x20)]

/-- One octet. -/
def Expression.just (c : Char) : Expression := .octet ⟨[(c.toUInt8, c.toUInt8)], false⟩

/-- A member of a set, before it is known whether it starts a range. -/
inductive SetItem where
  | single (octet : UInt8)
  | spans (list : List (UInt8 × UInt8))

/-- The characters up to a sign and a bracket, and what stands after those. -/
def upToBracket (sign : Char) : List Char → Option (List Char × List Char)
  | [] => none
  | c :: rest =>
    match c == sign, rest with
    | true, ']' :: more => some ([], more)
    | _, rest => (upToBracket sign rest).map fun found => (c :: found.1, found.2)

/-- Read a member of a set. -/
def readItem : List Char → Except Fault (SetItem × List Char)
  | [] => .error .openBracket
  | '[' :: ':' :: rest =>
    match upToBracket ':' rest with
    | none => .error .openBracket
    | some (name, more) =>
      match classSpans? (String.ofList name) with
      | some list => .ok (.spans list, more)
      | none => .error .badClass
  | '[' :: sign :: rest =>
    if sign = '.' ∨ sign = '=' then
      match upToBracket sign rest with
      | none => .error .openBracket
      | some ([c], more) =>
        .ok (if sign = '.' then .single c.toUInt8 else .spans [(c.toUInt8, c.toUInt8)], more)
      | some _ => .error .badElement
    else .ok (.single '['.toUInt8, sign :: rest)
  | c :: rest => .ok (.single c.toUInt8, rest)

/-- Read the members of a set up to the bracket that ends it. -/
def readItems : (fuel : Nat) → (first : Bool) → List Char →
    Except Fault (List (UInt8 × UInt8) × List Char)
  | 0, _, _ => .error .openBracket
  | _ + 1, _, [] => .error .openBracket
  | fuel + 1, first, c :: cs => do
    if c = ']' ∧ !first then return ([], cs)
    if c = '-' ∧ !first ∧ cs.head? ≠ some ']' then throw .badRange
    let (item, rest) ← readItem (c :: cs)
    match rest with
    | '-' :: ']' :: _ => more fuel item rest
    | '-' :: rest =>
      match item with
      | .spans _ => throw .badRange
      | .single a =>
        match ← readItem rest with
        | (.spans _, _) => throw .badRange
        | (.single b, rest) =>
          if b < a then throw .badRange
          more fuel (.spans [(a, b)]) rest
    | rest => more fuel item rest
where
  /-- Go on after a member. -/
  more (fuel : Nat) (item : SetItem) (rest : List Char) :
      Except Fault (List (UInt8 × UInt8) × List Char) := do
    let (others, rest) ← readItems fuel false rest
    match item with
    | .single b => return ((b, b) :: others, rest)
    | .spans list => return (list ++ others, rest)

/-- Whether the members of a set spell a class. -/
def spellsClass (list : List (UInt8 × UInt8)) : Bool :=
  let colon : UInt8 × UInt8 := (0x3A, 0x3A)
  2 < list.length && list.all (fun p => p.1 == p.2) && list.head? == some colon
    && list.getLast? == some colon && list.any (· != colon)

/-- Read a set after its first bracket. -/
def readSet (cs : List Char) : Except Fault (OctetSet × List Char) := do
  let (inverse, cs) := match cs with
    | '^' :: rest => (true, rest)
    | cs => (false, cs)
  if cs.isEmpty then throw .lastBracket
  let (list, rest) ← readItems (cs.length + 1) true cs
  if spellsClass list && cs.head? == some ':' then throw .bareClass
  return (⟨list, inverse⟩, rest)

/-! ### Signs -/

/-- A sign of a regular expression, whichever way it is written. -/
inductive Sign where
  | stop
  | plain (c : Char)
  | anyOctet
  | openSet
  | openGroup
  | closeGroup
  | choice
  /-- So many times, at least and at most. -/
  | times (least : Nat) (most : Option Nat) (written : Char)
  | openBound
  | edge (e : Edge)
  | octets (set : OctetSet)
  | again (number : Nat)
  | backslash
deriving Repr, DecidableEq

/-- What a backslash and a character stand for, apart from signs that the other way of writing has
without a backslash. -/
def afterBackslash (c : Char) : Sign :=
  match c with
  | 'w' => .octets ⟨wordSpans, false⟩
  | 'W' => .octets ⟨wordSpans, true⟩
  | 's' => .octets ⟨spaceSpans, false⟩
  | 'S' => .octets ⟨spaceSpans, true⟩
  | 'b' => .edge .wordEdge
  | 'B' => .edge .noWordEdge
  | '<' => .edge .wordStart
  | '>' => .edge .wordEnd
  | '\x60' => .edge .textStart
  | '\x27' => .edge .textEnd
  | c => if '1' ≤ c ∧ c ≤ '9' then .again (c.toNat - '0'.toNat) else .plain c

/-- The sign that a character is for groups, bounds or choices, if it is one. -/
def structural? (c : Char) : Option Sign :=
  match c with
  | '(' => some .openGroup
  | ')' => some .closeGroup
  | '|' => some .choice
  | '+' => some (.times 1 none '+')
  | '?' => some (.times 0 (some 1) '?')
  | '\x7b' => some .openBound
  | _ => none

/-- The next sign, and what stands after it; `anchors` says that a caret stands for the start of a line
here even if it would not otherwise. -/
def nextSign (d : Dialect) (anchors : Bool) : List Char → Sign × List Char
  | [] => (.stop, [])
  | ['\\'] => (.backslash, [])
  | '\\' :: c :: rest =>
    match structural? c with
    | some sign => if d.extended then (.plain c, rest) else (sign, rest)
    | none => (afterBackslash c, rest)
  | c :: rest =>
    match structural? c with
    | some sign => if d.extended then (sign, rest) else (.plain c, rest)
    | none =>
      match c with
      | '*' => (.times 0 none '*', rest)
      | '.' => (.anyOctet, rest)
      | '[' => (.openSet, rest)
      | '^' => (if d.extended || anchors then .edge .lineStart else .plain c, rest)
      | '$' =>
        let ends := match rest with
          | [] => true
          | '\\' :: ')' :: _ => true
          | '\\' :: '|' :: _ => true
          | _ => false
        (if d.extended || ends then .edge .lineEnd else .plain c, rest)
      | c => (.plain c, rest)

/-- The greatest number of a bound. -/
def boundLimit : Nat := 32767

/-- The end of a bound, in a way of writing, and what stands after it. -/
def boundEnd? (d : Dialect) : List Char → Option (List Char)
  | '\x7d' :: rest => if d.extended then some rest else none
  | '\\' :: '\x7d' :: rest => if d.extended then none else some rest
  | _ => none

/-- Whether the end of a bound stands somewhere. -/
def hasBoundEnd (d : Dialect) : List Char → Bool
  | [] => false
  | c :: rest => (boundEnd? d (c :: rest)).isSome || hasBoundEnd d rest

/-- A bound after the sign that opens it. A bound that makes no sense is `none` where the sign then
stands for itself. -/
def readBound (d : Dialect) (cs : List Char) :
    Except Fault (Option (Nat × Option Nat × List Char)) := do
  let number (cs : List Char) : Option Nat × List Char :=
    let digits := cs.takeWhile Char.isDigit
    let value := digits.foldl (fun n c => min (boundLimit + 1) (10 * n + (c.toNat - '0'.toNat))) 0
    (if digits.isEmpty then none else some value, cs.drop digits.length)
  let wrong : Except Fault (Option (Nat × Option Nat × List Char)) :=
    if d.lenient && d.extended then return none
    else if hasBoundEnd d cs then throw .badBound
    else throw .openBound
  let (least, rest) := number cs
  let found : Option (Option Nat × List Char) := match rest with
    | ',' :: more =>
      let (most, rest) := number more
      (boundEnd? d rest).map fun rest => (most, rest)
    | rest => if least.isSome then (boundEnd? d rest).map fun rest => (least, rest) else none
  match found with
  | none => wrong
  | some (most, rest) =>
    if most.any (· < least.getD 0) then throw .badBound
    if boundLimit < most.getD (least.getD 0) then throw .tooBig
    return some (least.getD 0, most, rest)

/-! ### Expressions -/

/-- How far an expression is read. -/
structure Reading where
  rest : List Char
  /-- The number of groups so far. -/
  groups : Nat := 0
  /-- The numbers of the groups that are closed. -/
  closed : List Nat := []

/-- Part of a reading: an expression, the next sign, and the reading after that sign. -/
abbrev Step := Expression × Sign × Reading

/-- The next sign of a reading. -/
def Reading.next (r : Reading) (d : Dialect) (anchors : Bool) : Sign × Reading :=
  let (sign, rest) := nextSign d anchors r.rest
  (sign, { r with rest })

/-- Read signs that repeat an expression. -/
def readTimes (d : Dialect) : (fuel : Nat) → Expression → Sign → Reading → Except Fault Step
  | 0, e, sign, r => .ok (e, sign, r)
  | fuel + 1, e, sign, r => do
    let again (least : Nat) (most : Option Nat) (r : Reading) (next : Sign) : Except Fault Step :=
      let strict := !d.extended && !d.lenient
      let repeats := match next with
        | .times _ _ '*' => true
        | .openBound => true
        | _ => false
      if strict && repeats then throw .nothingRepeated
      else readTimes d fuel (.repeated e least most) next r
    match sign with
    | .times least most _ =>
      let (next, r) := r.next d false
      again least most r next
    | .openBound =>
      match ← readBound d r.rest with
      | none => return (e, .plain '\x7b', r)
      | some (least, most, rest) =>
        let (next, r) := { r with rest }.next d false
        again least most r next
    | sign => return (e, sign, r)

/-- Put an expression after another one. -/
def Expression.then (a b : Expression) : Expression :=
  match a with
  | .empty => b
  | a => .both a b

mutual

/-- Read choices, up to the end of the text or of a group. -/
def readChoices (d : Dialect) : (fuel : Nat) → (depth : Nat) → Sign → Reading → Except Fault Step
  | 0, _, sign, r => .ok (.empty, sign, r)
  | fuel + 1, depth, sign, r => do
    let (e, sign, r) ← readRow d fuel depth .empty sign r
    match sign with
    | .choice =>
      let (next, r) := r.next d true
      let (others, sign, r) ← readChoices d fuel depth next r
      return (.either e others, sign, r)
    | sign => return (e, sign, r)

/-- Read what stands in a row, after what has been read of it. -/
def readRow (d : Dialect) : (fuel : Nat) → (depth : Nat) → Expression → Sign → Reading →
    Except Fault Step
  | 0, _, before, sign, r => .ok (before, sign, r)
  | fuel + 1, depth, before, sign, r => do
    let ends := match sign with
      | .stop | .choice => true
      | .closeGroup => depth != 0
      | _ => false
    if ends then return (before, sign, r)
    let (e, sign, r) ← readPart d fuel depth sign r
    readRow d fuel depth (before.then e) sign r

/-- Read one part of a row. -/
def readPart (d : Dialect) : (fuel : Nat) → (depth : Nat) → Sign → Reading → Except Fault Step
  | 0, _, sign, r => .ok (.empty, sign, r)
  | fuel + 1, depth, sign, r => do
    let repeated (e : Expression) (r : Reading) : Except Fault Step := do
      let (next, r) := r.next d false
      readTimes d (r.rest.length + 2) e next r
    match sign with
    | .stop | .choice => return (.empty, sign, r)
    | .plain c => repeated (.just c) r
    | .anyOctet => repeated (.octet ⟨[], true⟩) r
    | .octets set => repeated (.octet set) r
    | .backslash => throw .backslash
    | .edge e =>
      let (next, r) := r.next d false
      return (.edge e, next, r)
    | .again n =>
      if !r.closed.contains n then throw .badReference
      repeated (.again n) r
    | .openSet =>
      let (set, rest) ← readSet r.rest
      repeated (.octet set) { r with rest }
    | .closeGroup =>
      if d.lenient && d.extended then repeated (.just ')') r else throw .closedGroup
    | .openGroup =>
      let number := r.groups + 1
      let (next, r) := { r with groups := number }.next d true
      let (e, sign, r) ← readChoices d fuel (depth + 1) next r
      match sign with
      | .closeGroup => repeated (.group number e) { r with closed := number :: r.closed }
      | _ => throw .openGroup
    | .times _ _ written =>
      if !d.extended then repeated (.just written) r
      else if d.lenient then
        let (next, r) := r.next d false
        readPart d fuel depth next r
      else throw .nothingRepeated
    | .openBound =>
      if !d.lenient then throw .nothingRepeated
      match if d.extended then readBound d r.rest else .ok none with
      | .ok (some (_, _, rest)) =>
        let (next, r) := { r with rest }.next d false
        readPart d fuel depth next r
      | .ok none => repeated (.just '\x7b') r
      | .error fault => throw fault

end

/-- Read a regular expression. -/
def Expression.read (d : Dialect) (text : String) : Except Fault Expression := do
  let cs := text.toList
  let (sign, r) := ({ rest := cs } : Reading).next d true
  let (e, sign, _) ← readChoices d (4 * cs.length + 8) 0 sign r
  match sign with
  | .closeGroup => throw .closedGroup
  | _ => return e

end ArtifactPipeline.Shell.Regular
