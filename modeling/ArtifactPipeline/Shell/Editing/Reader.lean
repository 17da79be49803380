import ArtifactPipeline.Shell.Editing.Script
import ArtifactPipeline.Shell.Utility.Compare

/-!
# Reading scripts that edit lines

A script is given in pieces, each of which is an argument or a file. Commands end at the end of a line, at a
semicolon or at the end of a piece; a block of commands or a text can go on in the next piece.

* `ScriptFault` says why a piece makes no sense, with a report for each cause;
* `Draft.readPiece` takes in a piece, and `Draft.script` is the script that pieces make.
-/

namespace ArtifactPipeline.Shell.Editing

/-- Why a piece of a script makes no sense. -/
inductive ScriptFault where
  | repeatedNegation
  | unexpectedComma
  | relativeStart
  | openBlock
  | closedBlock
  | extraCharacters
  | missingText
  | blockEndAddress
  | labelAddress
  | commentAddress
  | missingCommand
  | oneAddress
  | openPattern
  | openSubstitution
  | openTransposition
  | unknownOption
  | repeatedPrint
  | repeatedGlobal
  | repeatedNumber
  | zeroNumber
  | differentLengths
  | newerVersion
  | lineZero
  | unknownCommand (c : Char)
  | missingLabel
  | missingFile
  | badReference (n : Nat)
  | emptyWithOptions
  | noPattern
  | guarded
  | pattern (fault : Regular.Fault)
deriving Repr, DecidableEq

/-- A name between the marks of reports. -/
def marked (name : String) : String := "\x60" ++ name ++ "'"

/-- The report of a fault. -/
def ScriptFault.message : ScriptFault → String
  | repeatedNegation => "multiple " ++ marked "!" ++ "s"
  | unexpectedComma => "unexpected " ++ marked ","
  | relativeStart => "invalid usage of +N or ~N as first address"
  | openBlock => "unmatched " ++ marked "\x7b"
  | closedBlock => "unexpected " ++ marked "\x7d"
  | extraCharacters => "extra characters after command"
  | missingText => "expected \\ after " ++ marked "a" ++ ", " ++ marked "c" ++ " or " ++ marked "i"
  | blockEndAddress => marked "\x7d" ++ " doesn't want any addresses"
  | labelAddress => ": doesn't want any addresses"
  | commentAddress => "comments don't accept any addresses"
  | missingCommand => "missing command"
  | oneAddress => "command only uses one address"
  | openPattern => "unterminated address regex"
  | openSubstitution => "unterminated " ++ marked "s" ++ " command"
  | openTransposition => "unterminated " ++ marked "y" ++ " command"
  | unknownOption => "unknown option to " ++ marked "s"
  | repeatedPrint => "multiple " ++ marked "p" ++ " options to " ++ marked "s" ++ " command"
  | repeatedGlobal => "multiple " ++ marked "g" ++ " options to " ++ marked "s" ++ " command"
  | repeatedNumber => "multiple number options to " ++ marked "s" ++ " command"
  | zeroNumber => "number option to " ++ marked "s" ++ " command may not be zero"
  | differentLengths => "strings for " ++ marked "y" ++ " command are different lengths"
  | newerVersion => "expected newer version of sed"
  | lineZero => "invalid usage of line address 0"
  | unknownCommand c => "unknown command: " ++ marked (String.singleton c)
  | missingLabel => "\x22:\x22 lacks a label"
  | missingFile => "missing filename in r/R/w/W commands"
  | badReference n =>
    "invalid reference \\" ++ toString n ++ " on " ++ marked "s" ++ " command's RHS"
  | emptyWithOptions => "cannot specify modifiers on empty regexp"
  | noPattern => "no previous regular expression"
  | guarded => "e/r/w commands disabled in sandbox mode"
  | pattern fault => fault.message

/-- Where a piece of a script comes from. -/
inductive PieceSource where
  /-- An argument, by its number among those. -/
  | argument (n : Nat)
  | file (name : String)
deriving Repr, DecidableEq

/-- A place in a piece: the number of characters before it, and the number of its line. -/
def PieceSource.place (used line : Nat) : PieceSource → String
  | argument n => "-e expression #" ++ toString n ++ ", char " ++ toString used
  | file name => "file " ++ name ++ " line " ++ toString line

/-- How far a script has been read. -/
structure Draft where
  /-- Whether expressions are written in the extended way. -/
  extended : Bool := false
  /-- Whether commands that name files are refused. -/
  guarded : Bool := false
  origin : PieceSource := .argument 1
  rest : List Char := []
  used : Nat := 0
  line : Nat := 1
  orders : Array Order := #[]
  /-- The blocks that are open: where their commands start, and where they are written. -/
  blocks : List (Nat × PieceSource × Nat) := []
  /-- The text of the last command, as it is written, if it goes on in the next piece. -/
  openText : Option (List Char) := none

/-- Reading a script. -/
abbrev Reading := ExceptT ScriptFault (StateM Draft)

namespace Reading

/-! ### Characters -/

/-- The next character. -/
def next : Reading (Option Char) := modifyGet fun d =>
  match d.rest with
  | [] => (none, d)
  | c :: rest =>
    (some c, { d with rest, used := d.used + 1, line := if c = '\n' then d.line + 1 else d.line })

/-- Put back the character that was read last. -/
def putBack (c : Option Char) : Reading Unit := modify fun d =>
  match c with
  | none => d
  | some c =>
    { d with
      rest := c :: d.rest
      used := d.used - 1
      line := if c = '\n' then d.line - 1 else d.line }

/-- Whether a character is a blank within a line. -/
def isBlank (c : Char) : Bool := c == ' ' || c == '\t'

/-- Whether a character separates commands or words. -/
def isSpace (c : Char) : Bool := c == ' ' || ('\t' ≤ c && c ≤ '\r')

/-- Step over the characters at the start that belong to a class, and take them. -/
def takeWhile (p : Char → Bool) : Reading (List Char) := modifyGet fun d =>
  let taken := d.rest.takeWhile p
  (taken, { d with
    rest := d.rest.drop taken.length
    used := d.used + taken.length
    line := d.line + taken.count '\n' })

/-- The next character that is no blank. -/
def nextFilled : Reading (Option Char) := do
  discard (takeWhile isBlank)
  next

/-- The number whose first digit was read. -/
def number (first : Char) : Reading Nat := do
  putBack (some first)
  let digits ← takeWhile Char.isDigit
  return digits.foldl (fun n c => 10 * n + (c.toNat - '0'.toNat)) 0

/-- The end of a command: nothing else may stand before the end of the line. -/
def commandEnd : Reading Unit := do
  match ← nextFilled with
  | none => pure ()
  | some c =>
    if c = '\x7d' ∨ c = '#' then putBack (some c)
    else if c = '\n' ∨ c = ';' then pure ()
    else throw .extraCharacters

/-! ### Texts between marks -/

/-- Where a set of an expression has been read up to: outside of a name, after a bracket that may open
one, within a name between signs, or after the sign that may close it. -/
inductive SetPlace where
  | outside
  | opened
  | within (sign : Char)
  | closing (sign : Char)

/-- The place after a character that means nothing there. -/
def SetPlace.settled : SetPlace → SetPlace
  | outside | opened => .outside
  | within sign | closing sign => .within sign

/-- The number of characters up to the bracket that ends a set, with that bracket, if it is ended. -/
def setLength? : SetPlace → List Char → Option Nat
  | _, [] => none
  | place, c :: rest =>
    let onward (place : SetPlace) : Option Nat := (setLength? place rest).map (· + 1)
    if c = '\n' then none
    else if c = '[' then
      match place with
      | .outside => onward .opened
      | place => onward place
    else if c = ']' then
      match place with
      | .outside | .opened => some 1
      | .closing _ => onward .outside
      | place => onward place
    else if c = '.' ∨ c = ':' ∨ c = '=' then
      match place with
      | .opened => onward (.within c)
      | .within sign => onward (if c = sign then .closing sign else .within sign)
      | place => onward place.settled
    else onward place.settled

/-- The number of characters of a set after its first bracket, if it is ended. A bracket at its start is
a member. -/
def fullSetLength? (cs : List Char) : Option Nat :=
  let inverse := if cs.head? = some '^' then 1 else 0
  let member := if cs[inverse]? = some ']' then 1 else 0
  (setLength? .outside (cs.drop (inverse + member))).map (· + inverse + member)

/-- Take so many characters. -/
def takeCount : (n : Nat) → Reading (List Char)
  | 0 => return []
  | n + 1 => do
    match ← next with
    | some c => return c :: (← takeCount n)
    | none => return []

/-- The text up to a mark. A backslash before the mark, or before a line break, is left out; in an
expression, `\n` is a line break, and a mark within a set belongs to the set. -/
def upTo (mark : Char) (inPattern : Bool) : (fuel : Nat) → Reading (Option (List Char))
  | 0 => return none
  | fuel + 1 => do
    match ← next with
    | none => return none
    | some c =>
      if c = mark then return some []
      else if c = '\n' then
        putBack (some c)
        return none
      else if c = '\\' then
        match ← next with
        | none => return none
        | some d =>
          let here :=
            if d = '\n' ∨ (d = mark ∧ (inPattern ∨ d ≠ '&')) then [d]
            else if d = 'n' ∧ inPattern then ['\n']
            else ['\\', d]
          return (← upTo mark inPattern fuel).map (here ++ ·)
      else if c = '[' ∧ inPattern then
        match fullSetLength? (← get).rest with
        | none =>
          discard (takeWhile (· != '\n'))
          return none
        | some n =>
          let set ← takeCount n
          return (← upTo mark inPattern fuel).map (c :: set ++ ·)
      else return (← upTo mark inPattern fuel).map (c :: ·)

/-- The text up to a mark. -/
def marked (mark : Char) (inPattern : Bool) : Reading (Option (List Char)) := do
  upTo mark inPattern ((← get).rest.length + 1)

/-- The character with a number that up to so many digits in a base give, and what stands after them. -/
def numbered? (base most : Nat) (cs : List Char) : Option (Char × List Char) :=
  let isDigit (c : Char) : Bool :=
    Utility.isHexDigit c && Utility.digitValue c < base
  let digits := (cs.take most).takeWhile isDigit
  if digits.isEmpty then none
  else
    let n := digits.foldl (fun n c => base * n + Utility.digitValue c) 0
    some (Char.ofNat (n % 256), cs.drop digits.length)

/-- The character that a backslash and what stands after it produce, and what stands after that. -/
def produced? : List Char → Option (Char × List Char)
  | 'a' :: rest => some ('\x07', rest)
  | 'f' :: rest => some ('\x0c', rest)
  | 'n' :: rest => some ('\n', rest)
  | 'r' :: rest => some ('\r', rest)
  | 't' :: rest => some ('\t', rest)
  | 'v' :: rest => some ('\x0b', rest)
  | 'c' :: c :: rest => some (Char.ofNat (Nat.xor c.toUpper.toNat 64), rest)
  | 'd' :: rest => numbered? 10 3 rest
  | 'o' :: rest => numbered? 8 3 rest
  | 'x' :: rest => numbered? 16 2 rest
  | _ => none

/-- An expression in which the characters that backslashes produce stand themselves. -/
def patternText : (fuel : Nat) → List Char → List Char
  | 0, cs => cs
  | _ + 1, [] => []
  | fuel + 1, '\\' :: c :: rest =>
    match produced? (c :: rest) with
    | some (d, rest) => d :: patternText fuel rest
    | none => '\\' :: c :: patternText fuel rest
  | fuel + 1, c :: rest => c :: patternText fuel rest

/-- A text without backslashes, with the characters that they produce. -/
def plainText : (fuel : Nat) → List Char → List Char
  | 0, _ => []
  | _ + 1, [] => []
  | fuel + 1, '\\' :: rest =>
    match produced? rest, rest with
    | some (c, rest), _ => c :: plainText fuel rest
    | none, c :: rest => c :: plainText fuel rest
    | none, [] => []
  | fuel + 1, c :: rest => c :: plainText fuel rest

/-- The octets of characters. -/
def octets (cs : List Char) : Bytes := cs.map Char.toUInt8

/-- The parts of a replacement. -/
def replacementParts : (fuel : Nat) → List Char → List ReplacementPart
  | 0, _ => []
  | _ + 1, [] => []
  | fuel + 1, '&' :: rest => .group 0 :: replacementParts fuel rest
  | fuel + 1, '\\' :: c :: rest =>
    let after (part : ReplacementPart) : List ReplacementPart := part :: replacementParts fuel rest
    if c.isDigit then after (.group (c.toNat - '0'.toNat))
    else
      match c with
      | 'L' => after (.letters .small)
      | 'U' => after (.letters .capital)
      | 'E' => after (.letters .same)
      | 'l' => after (.oneLetter .small)
      | 'u' => after (.oneLetter .capital)
      | c =>
        match produced? (c :: rest) with
        | some (d, rest) => .text [d.toUInt8] :: replacementParts fuel rest
        | none => after (.text [c.toUInt8])
  | fuel + 1, c :: rest => .text [c.toUInt8] :: replacementParts fuel rest

/-- The expression that a text between marks is. -/
def pattern (text : List Char) (folds byLines : Bool) : Reading LinePattern := do
  if text.isEmpty then
    if folds || byLines then throw .emptyWithOptions
    return {}
  let d ← get
  match Regular.Expression.read { extended := d.extended } (String.ofList (patternText (text.length + 1) text)) with
  | .ok e => return { expression := some e, folds, byLines }
  | .error fault => throw (.pattern fault)

/-! ### Addresses -/

/-- The letters after an expression of an address: whether capitals count as small letters, and whether
lines within the text count. -/
def addressLetters : (fuel : Nat) → (folds byLines : Bool) → Reading (Bool × Bool)
  | 0, folds, byLines => return (folds, byLines)
  | fuel + 1, folds, byLines => do
    match ← nextFilled with
    | some 'I' => addressLetters fuel true byLines
    | some 'M' => addressLetters fuel folds true
    | c =>
      putBack c
      return (folds, byLines)

/-- The pattern of an address, whose first character was read. -/
def addressPattern (c : Char) : Reading LinePattern := do
  let mark ← if c = '\\' then next else pure (some c)
  match mark with
  | none => throw .openPattern
  | some mark =>
    match ← marked mark true with
    | none => throw .openPattern
    | some text =>
      let (folds, byLines) ← addressLetters ((← get).rest.length + 1) false false
      pattern text folds byLines

/-- An address whose first character was read, if it is one. -/
def address? (c : Char) : Reading (Option Address) := do
  if c = '/' ∨ c = '\\' then return some (.pattern (← addressPattern c))
  else if c.isDigit then
    let n ← number c
    match ← nextFilled with
    | some '~' =>
      let step ← match ← nextFilled with
        | some d => if d.isDigit then number d else do putBack (some d); pure 0
        | none => pure 0
      return some (if step = 0 then .line n else .every n step)
    | c =>
      putBack c
      return some (.line n)
  else if c = '$' then return some .last
  else if c = '+' ∨ c = '~' then
    match ← nextFilled with
    | some d => if d.isDigit then discard (number d) else putBack (some d)
    | none => pure ()
    throw .relativeStart
  else return none

/-- The end of a range, whose first character was read. -/
def stop (c : Option Char) : Reading Stop := do
  match c with
  | some c =>
    if c = '+' ∨ c = '~' then
      let n ← match ← nextFilled with
        | some d => if d.isDigit then number d else do putBack (some d); pure 0
        | none => pure 0
      return if c = '+' then .more n else .multiple n
    else
      match ← address? c with
      | some (.line n) => return .line n
      | some (.every n _) => return .line n
      | some .last => return .last
      | some (.pattern p) => return .pattern p
      | none => throw .unexpectedComma
  | none => throw .unexpectedComma

/-- The scope of a command, whose first character was read, and the first character after it. -/
def scope (c : Char) : Reading (Scope × Option Char) := do
  let (start, c) ← match ← address? c with
    | some a => pure (some a, ← nextFilled)
    | none => pure (none, some c)
  let (stop, c) ← if start.isSome && c == some ',' then do
      let s ← stop (← nextFilled)
      pure (some s, ← nextFilled)
    else pure (none, c)
  let toPattern := match stop with
    | some (.pattern _) => true
    | _ => false
  if start = some (.line 0) ∧ !toPattern then throw .lineZero
  if c = some '!' then
    let c ← nextFilled
    if c = some '!' then throw .repeatedNegation
    return ({ start, stop, inverse := true }, c)
  else return ({ start, stop }, c)

/-! ### Commands -/

/-- The name of a label. -/
def labelName : Reading String := do
  discard (takeWhile isBlank)
  return String.ofList (← takeWhile fun c => !isSpace c && c != ';' && c != '\x7d')

/-- The name of a file, which goes on to the end of the line. -/
def readName : Reading String := do
  discard (takeWhile isBlank)
  let name ← takeWhile (· != '\n')
  discard next
  if name.isEmpty then throw .missingFile
  return String.ofList name

/-- Refuse a command that names a file, if such commands are refused. -/
def checkGuard : Reading Unit := do
  if (← get).guarded then throw .guarded

/-- A number after a command, if there is one, and the end of the command. -/
def commandNumber : Reading (Option Nat) := do
  match ← nextFilled with
  | some c =>
    if c.isDigit then
      let n ← number c
      commandEnd
      return some n
    else
      putBack (some c)
      commandEnd
      return none
  | none => return none

/-- The lines of a text, and whether it goes on in the next piece. -/
def textLines : (fuel : Nat) → Reading (List Char × Bool)
  | 0 => return ([], false)
  | fuel + 1 => do
    match ← next with
    | none => return (['\n'], false)
    | some '\n' => return (['\n'], false)
    | some '\\' =>
      match ← next with
      | none => return (['\n'], true)
      | some c =>
        let (rest, goesOn) ← textLines fuel
        return (if c = '\n' then c :: rest else '\\' :: c :: rest, goesOn)
    | some c =>
      let (rest, goesOn) ← textLines fuel
      return (c :: rest, goesOn)

/-- The text of a command, after what has been read of it. -/
def textAfter (before : List Char) : Reading Bytes := do
  let (text, goesOn) ← textLines ((← get).rest.length + 1)
  let text := before ++ text
  modify fun d => { d with openText := if goesOn then some text else none }
  return octets (plainText (text.length + 1) text)

/-- The text of a command that writes one. -/
def commandText : Reading Bytes := do
  match ← nextFilled with
  | none => throw .missingText
  | some '\\' =>
    match ← next with
    | none =>
      modify fun d => { d with openText := some [] }
      return []
    | some '\n' => textAfter []
    | c =>
      putBack c
      textAfter []
  | c =>
    putBack c
    textAfter []

/-- The letters after a change, which say more about it, and the letters for its expression. -/
def substitutionLetters (s : Substitution) (numbered folds byLines : Bool) : (fuel : Nat) →
    Reading (Substitution × Bool × Bool)
  | 0 => return (s, folds, byLines)
  | fuel + 1 => do
    match ← next with
    | none => return (s, folds, byLines)
    | some c =>
      match c with
      | 'i' | 'I' => substitutionLetters s numbered true byLines fuel
      | 'm' | 'M' => substitutionLetters s numbered folds true fuel
      | 'p' =>
        if s.prints then throw .repeatedPrint
        substitutionLetters { s with prints := true } numbered folds byLines fuel
      | 'g' =>
        if s.global then throw .repeatedGlobal
        substitutionLetters { s with global := true } numbered folds byLines fuel
      | 'w' =>
        checkGuard
        return ({ s with file := some (← readName) }, folds, byLines)
      | '\x7d' | '#' =>
        putBack (some c)
        return (s, folds, byLines)
      | '\n' | ';' => return (s, folds, byLines)
      | '\r' =>
        if (← next) = some '\n' then return (s, folds, byLines) else throw .unknownOption
      | c =>
        if c.isDigit then
          if numbered then throw .repeatedNumber
          let n ← number c
          if n = 0 then throw .zeroNumber
          substitutionLetters { s with first := n } true folds byLines fuel
        else if isBlank c then substitutionLetters s numbered folds byLines fuel
        else throw .unknownOption

/-- A change of matches. -/
def substitution : Reading Substitution := do
  match ← next with
  | none => throw .openSubstitution
  | some mark =>
    match ← marked mark true with
    | none => throw .openSubstitution
    | some text =>
      match ← marked mark false with
      | none => throw .openSubstitution
      | some replacement =>
        let parts := replacementParts (replacement.length + 1) replacement
        let start : Substitution := { pattern := {}, replacement := parts }
        let (s, folds, byLines) ← substitutionLetters start false false false ((← get).rest.length + 1)
        let p ← pattern text folds byLines
        let n := Replacement.greatestGroup parts
        match p.expression with
        | some e => if e.groupCount < n then throw (.badReference n)
        | none => pure ()
        return { s with pattern := p }

/-- Pairs of octets of which one takes the place of the other. The first pair for an octet counts. -/
def transposition : Reading (List (UInt8 × UInt8)) := do
  match ← next with
  | none => throw .openTransposition
  | some mark =>
    match ← marked mark false with
    | none => throw .openTransposition
    | some old =>
      match ← marked mark false with
      | none => throw .openTransposition
      | some new =>
        let old := octets (plainText (old.length + 1) old)
        let new := octets (plainText (new.length + 1) new)
        if old.length ≠ new.length then throw .differentLengths
        commandEnd
        return (old.zip new).reverse

/-- Add a command. -/
def add (scope : Scope) (command : Command) : Reading Unit := modify fun d =>
  { d with orders := d.orders.push { scope, command } }

/-- A command after its scope, whose first character was read. -/
def command (s : Scope) (c : Char) : Reading Unit := do
  let plain (command : Command) : Reading Unit := do
    commandEnd
    add s command
  if ['r', 'R', 'w', 'W'].contains c then checkGuard
  match c with
  | '#' =>
    if s.start.isSome then throw .commentAddress
    discard (takeWhile (· != '\n'))
    discard next
  | 'v' =>
    let version ← labelName
    if Utility.compareVersions (octets version.toList) (octets "4.9".toList) = .gt then throw .newerVersion
  | '\x7b' =>
    modify fun d => { d with blocks := (d.orders.size, d.origin, d.line) :: d.blocks }
    add s (.block 0)
  | '\x7d' =>
    match (← get).blocks with
    | [] => throw .closedBlock
    | (start, _, _) :: blocks =>
      if s.start.isSome then throw .blockEndAddress
      commandEnd
      modify fun d => { d with
        blocks
        orders := d.orders.modify start fun order => { order with command := .block d.orders.size } }
      add {} .blockEnd
  | ':' =>
    if s.start.isSome then throw .labelAddress
    let name ← labelName
    if name.isEmpty then throw .missingLabel
    add s (.label name)
  | 'b' => add s (.jump .always (← labelName))
  | 't' => add s (.jump .replaced (← labelName))
  | 'T' => add s (.jump .nothingReplaced (← labelName))
  | 'a' | 'i' | 'c' =>
    let text ← commandText
    add s (if c = 'a' then .append text else if c = 'i' then .insert text else .change text)
  | '=' => plain .number
  | 'd' => plain .delete
  | 'D' => plain .deleteFirst
  | 'F' => plain .fileName
  | 'g' => plain .get
  | 'G' => plain .getMore
  | 'h' => plain .hold
  | 'H' => plain .holdMore
  | 'x' => plain .exchange
  | 'n' => plain .next
  | 'N' => plain .nextMore
  | 'p' => plain .print
  | 'P' => plain .printFirst
  | 'z' => plain .clear
  | 'l' => add s (.list (← commandNumber))
  | 'q' | 'Q' =>
    if s.stop.isSome then throw .oneAddress
    add s (.quit ((← commandNumber).getD 0) (c == 'q'))
  | 'r' => add s (.readFile (← readName))
  | 'R' => add s (.readLine (← readName))
  | 'w' => add s (.writeTo (← readName))
  | 'W' => add s (.writeFirstTo (← readName))
  | 's' => add s (.substitute (← substitution))
  | 'y' => add s (.transpose (← transposition))
  | c => throw (.unknownCommand c)

/-- Read commands up to the end of a piece. -/
def commands : (fuel : Nat) → Reading Unit
  | 0 => pure ()
  | fuel + 1 => do
    discard (takeWhile fun c => isSpace c || c == ';')
    match ← next with
    | none => pure ()
    | some c =>
      let (s, c) ← scope c
      match c with
      | none => throw .missingCommand
      | some c =>
        command s c
        commands fuel

/-- Go on with the text of the last command. -/
def continueText (before : List Char) : Reading Unit := do
  let text ← textAfter before
  modify fun d => { d with
    orders := d.orders.modify (d.orders.size - 1) fun order =>
      { order with command := match order.command with
        | .append _ => .append text
        | .insert _ => .insert text
        | .change _ => .change text
        | command => command } }

end Reading

namespace Draft

/-- Take in a piece of a script. -/
def readPiece (d : Draft) (origin : PieceSource) (text : String) : Except ScriptFault Unit × Draft :=
  let cs := text.toList
  let d := { d with origin, rest := cs, used := 0, line := 1 }
  let work : Reading Unit := do
    match (← get).openText with
    | some before => Reading.continueText before
    | none => pure ()
    Reading.commands (cs.length + 1)
  work.run.run d

/-- A fault at the place that has been reached. -/
def report (d : Draft) (fault : ScriptFault) : String :=
  d.origin.place d.used d.line ++ ": " ++ fault.message

/-- The place that is named for faults that are noticed later. -/
def lastPlace (d : Draft) : String := d.origin.place 0 d.line

/-- The script that has been read, unless a block is open. -/
def script (d : Draft) : Except String (Array Order) :=
  match d.blocks with
  | [] => .ok d.orders
  | (_, origin, line) :: _ => .error (origin.place 0 line ++ ": " ++ ScriptFault.openBlock.message)

end Draft

end ArtifactPipeline.Shell.Editing
