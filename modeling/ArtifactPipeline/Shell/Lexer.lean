import ArtifactPipeline.Shell.Syntax

/-!
# Tokens of the shell

A text is cut into words and operators. Blanks separate words, and so do operators, unless they are
quoted: by a backslash, between apostrophes, or between double quotes, where a dollar sign keeps its
meaning. A number sign at the start of a word begins a comment, and a backslash at the end of a line
joins the next line to it.

A word can hold commands, so reading words takes a reader of commands (`commands` below). `Reading`
says how far a text is read: a token may have been read ahead, and documents may be awaited, whose
texts follow the line.

* `scanPieces` reads the pieces of a word, or of a text between quotes or braces;
* `readToken` reads the next token;
* `readDocuments` reads the texts of the documents that are awaited.
-/

namespace ArtifactPipeline.Shell

/-! ### Characters -/

/-- The characters that separate words within a line. -/
def isSeparator (c : Char) : Bool := c == ' ' || c == '\t'

/-- The characters that operators are made of. -/
def isOperator (c : Char) : Bool := "&|;<>()".toList.contains c

/-- The characters that end a word when they are not quoted. -/
def endsWord (c : Char) : Bool := isSeparator c || c == '\n' || isOperator c

/-- The characters that a name can start with. -/
def startsName (c : Char) : Bool := c.isAlpha || c == '_'

/-- The characters that a name is made of. -/
def isNameChar (c : Char) : Bool := c.isAlphanum || c == '_'

/-- Whether a text is a name. -/
def isName (s : String) : Bool :=
  match s.toList with
  | [] => false
  | c :: cs => startsName c && cs.all isNameChar

/-- The parameters that are named by one character that is no letter. -/
def isSpecial (c : Char) : Bool := c.isDigit || "$?#@*!-".toList.contains c

/-- The characters that can mean something in some kind of text. -/
def isMeaningful (c : Char) : Bool := "\\'\x22$\x60\x7d()\n".toList.contains c

/-! ### How far a text is read -/

/-- A token. -/
inductive Token where
  | word (w : Word)
  /-- A word with a meaning where a command can start. -/
  | keyword (text : String)
  | operator (text : String)
  /-- The sign of a redirection, and a digit before it. -/
  | redirection (channel : Option Nat) (text : String)
  | newline
  | ended

/-- A document whose text follows the line. -/
structure Awaited where
  number : Nat
  /-- The line that ends the text. -/
  delimiter : String
  /-- Whether nothing in the text is replaced. -/
  verbatim : Bool
  /-- Whether tabs at the start of a line are dropped. -/
  dropsTabs : Bool

/-- How far a text is read. -/
structure Reading where
  rest : List Char
  line : Nat := 1
  /-- A token that has been read ahead. -/
  held : Option Token := none
  awaited : List Awaited := []
  /-- The documents that have been met, by their numbers. -/
  documents : List Word := []
  /-- The second names of commands. -/
  aliases : List (String × String) := []
  /-- The second names that have been replaced, each with the number of characters that were left after
  the text in its place. -/
  replaced : List (String × Nat) := []

/-- A reader of a text for the shell. -/
abbrev Parse := StateT Reading (Except SyntaxError)

namespace Parse

variable {α : Type}

/-- Give up. -/
def fail (fault : SyntaxFault) : Parse α := do
  throw ⟨(← get).line, fault⟩

/-- The number of lines that are joined to the one before at this place, and the text after them. -/
def dropJoined : List Char → Nat × List Char
  | '\\' :: '\n' :: cs =>
    let (n, rest) := dropJoined cs
    (n + 1, rest)
  | cs => (0, cs)

/-- The same for blanks and joined lines. -/
def dropBlanks : List Char → Nat × List Char
  | ' ' :: cs => dropBlanks cs
  | '\t' :: cs => dropBlanks cs
  | '\\' :: '\n' :: cs =>
    let (n, rest) := dropBlanks cs
    (n + 1, rest)
  | cs => (0, cs)

/-- The next character, after joined lines. -/
def peek : Parse (Option Char) := do
  let s ← get
  let (n, rest) := dropJoined s.rest
  set { s with rest, line := s.line + n }
  return rest.head?

/-- Step over the next character. -/
def skip : Parse Unit := modify fun s =>
  { s with rest := s.rest.tail, line := if s.rest.head? = some '\n' then s.line + 1 else s.line }

/-- Read the next character, if it is a given one. -/
def accept (c : Char) : Parse Bool := do
  if (← peek) = some c then
    skip
    return true
  else return false

/-- Take characters as long as they have a property. -/
def takeWhile (p : Char → Bool) : Parse String := do
  let s ← get
  let taken := s.rest.takeWhile p
  set { s with rest := s.rest.drop taken.length, line := s.line + taken.count '\n' }
  return String.ofList taken

end Parse

open Parse

/-! ### Words -/

/-- Where a run of pieces ends. -/
inductive Bound where
  /-- At a character that ends words. -/
  | word
  /-- At a double quote. -/
  | quote
  /-- At a closing brace, unless quotes are open inside. -/
  | brace (quotesOpen : Bool)
  /-- At the end of the text. -/
  | document
  /-- At two closing parentheses, after those that belong to open ones. -/
  | arithmetic (depth : Nat)
deriving DecidableEq

/-- What the end of the text means for a run of pieces. -/
def atEnd (quoted : Bool) : Bound → Parse Word
  | .word => return []
  | .document => return []
  | .quote => fail .unterminatedQuote
  | .brace _ => fail (if quoted then .unterminatedQuote else .unterminatedBrace)
  | .arithmetic _ => fail .unterminatedArithmetic

/-- Whether a backslash between double quotes takes the meaning from a character. -/
def isEscapable (bound : Bound) (c : Char) : Bool :=
  c == '\\' || c == '\x60' || c == '$' || (c == '\x22' && bound != .document)
    || (c == '\x7d' && (match bound with
      | .brace _ => true
      | _ => false))

/-- Read the text after an accent up to the next one. -/
def scanAccent (quoted : Bool) : List Char → Except SyntaxFault (List Char × List Char)
  | [] => .error .unterminatedAccent
  | '\x60' :: rest => .ok ([], rest)
  | '\\' :: c :: rest => do
    let (inner, after) ← scanAccent quoted rest
    let escaped := c == '\\' || c == '\x60' || c == '$' || (quoted && c == '\x22')
    return (if escaped then c :: inner else '\\' :: c :: inner, after)
  | c :: rest => do
    let (inner, after) ← scanAccent quoted rest
    return (c :: inner, after)

/-- Read commands from a text of their own. -/
def inText {α : Type} (x : Parse α) (text : List Char) : Parse α := do
  let outer ← get
  let start : Reading :=
    { rest := text, line := outer.line, documents := outer.documents, aliases := outer.aliases }
  match x.run start with
  | .error e => throw e
  | .ok (a, inner) =>
    set { outer with documents := inner.documents }
    return a

/-- Read the commands between two accents, after the first. -/
def accented (commands : Parse Command) (quoted : Bool) : Parse Command := do
  let s ← get
  match scanAccent quoted s.rest with
  | .error fault =>
    set { s with line := s.line + s.rest.count '\n' }
    fail fault
  | .ok (inner, rest) =>
    let body ← inText commands inner
    let consumed := s.rest.take (s.rest.length - rest.length)
    modify fun s => { s with rest, line := s.line + consumed.count '\n' }
    return body

/-- How a token is named in a report. -/
def Token.name : Token → String
  | .word _ => "word"
  | .keyword text => "\x22" ++ text ++ "\x22"
  | .operator text => "\x22" ++ text ++ "\x22"
  | .redirection _ _ => "redirection"
  | .newline => "newline"
  | .ended => "end of file"

/-- Read commands inside a word, up to a closing parenthesis. -/
def enclosed (commands : Parse Command) : Parse Command := do
  let outer ← get
  set { outer with held := none, awaited := [] }
  let body ← commands
  match (← get).held with
  | some (.operator ")") => pure ()
  | some t => fail (.unexpected t.name (some "\x22)\x22"))
  | none => fail (.unexpected Token.ended.name (some "\x22)\x22"))
  modify fun s => { s with held := none, awaited := outer.awaited }
  return body

/-- Step over a line break after the name of a parameter. Such a one does not count as the end of a line. -/
def skipBreak : Parse Unit := modify fun s =>
  match s.rest with
  | '\n' :: rest => { s with rest }
  | _ => s

/-- The kind of an expansion that a character after a name asks for. -/
def fallback? : Char → Option Fallback
  | '-' => some .use
  | '=' => some .assign
  | '?' => some .complain
  | '+' => some .other
  | _ => none

/-- Read the name of a parameter between braces, and whether its length is asked for. No name is the
empty one. -/
def bracedName : Parse (String × Bool) := do
  let named : Parse String := do
    match ← peek with
    | some c =>
      if startsName c then Parse.takeWhile isNameChar
      else if c.isDigit then Parse.takeWhile Char.isDigit
      else if isSpecial c then
        skip
        return String.singleton c
      else return ""
    | none => return ""
  match (← get).rest with
  | '#' :: c :: d :: _ =>
    if isNameChar c || (isSpecial c && d == '\x7d') then
      skip
      return (← named, true)
    else return (← named, false)
  | _ => return (← named, false)

mutual

/-- Read pieces. -/
def scanPieces (commands : Parse Command) : (fuel : Nat) → (quoted : Bool) → Bound → Parse Word
  | 0, quoted, bound => atEnd quoted bound
  | fuel + 1, quoted, bound => do
    let literal (text : String) (bound : Bound) : Parse Word := do
      return .cons (.literal quoted text) (← scanPieces commands fuel quoted bound)
    match ← peek with
    | none => atEnd quoted bound
    | some c =>
      if bound = .word && endsWord c then return []
      else if !isMeaningful c then
        let stops (d : Char) : Bool := isMeaningful d || (bound == .word && endsWord d)
        literal (← Parse.takeWhile fun d => !stops d) bound
      else
        skip
        match c with
        | '\\' =>
          match (← get).rest with
          | [] => return .cons (.literal true "\\") (← scanPieces commands fuel quoted bound)
          | d :: _ =>
            skip
            let text :=
              if quoted && !isEscapable bound d then String.ofList ['\\', d] else String.singleton d
            return .cons (.literal true text) (← scanPieces commands fuel quoted bound)
        | '\x27' =>
          if quoted then literal "'" bound
          else
            let text ← Parse.takeWhile (· != '\x27')
            if (← get).rest.isEmpty then fail .unterminatedQuote
            skip
            return .quotes :: .literal true text :: (← scanPieces commands fuel quoted bound)
        | '\x22' =>
          match bound with
          | .quote => return []
          | .document | .arithmetic _ => literal "\x22" bound
          | .brace isOpen =>
            if quoted then scanPieces commands fuel quoted (.brace !isOpen)
            else quotedRun commands fuel bound
          | .word => quotedRun commands fuel bound
        | '$' =>
          let piece ← scanDollar commands fuel quoted
          return .cons piece (← scanPieces commands fuel quoted bound)
        | '\x60' =>
          let body ← accented commands quoted
          return .command quoted body :: (← scanPieces commands fuel quoted bound)
        | '\x7d' => if bound = .brace false then return [] else literal "\x7d" bound
        | '(' =>
          match bound with
          | .arithmetic depth => literal "(" (.arithmetic (depth + 1))
          | bound => literal "(" bound
        | ')' =>
          match bound with
          | .arithmetic 0 => if ← accept ')' then return [] else literal ")" bound
          | .arithmetic (depth + 1) => literal ")" (.arithmetic depth)
          | bound => literal ")" bound
        | c => literal (String.singleton c) bound

/-- Read a text between double quotes and go on. The list of all arguments between quotes needs no
mark, so that it counts as nothing when there are none. -/
def quotedRun (commands : Parse Command) : (fuel : Nat) → Bound → Parse Word
  | 0, bound => atEnd true bound
  | fuel + 1, bound => do
    let inner ← scanPieces commands fuel true .quote
    let rest ← scanPieces commands fuel false bound
    match inner with
    | [.parameter true "@" .value] => return inner ++ rest
    | _ => return .quotes :: inner ++ rest

/-- Read what stands after a dollar sign. -/
def scanDollar (commands : Parse Command) : (fuel : Nat) → (quoted : Bool) → Parse Piece
  | 0, quoted => return .literal quoted "$"
  | fuel + 1, quoted => do
    match ← peek with
    | none => return .literal quoted "$"
    | some c =>
      if c = '(' then
        skip
        if ← accept '(' then
          return .arithmetic quoted (← scanPieces commands fuel true (.arithmetic 0))
        else return .command quoted (← enclosed commands)
      else if c = '\x7b' then
        skip
        scanBraces commands fuel quoted
      else if startsName c then return .parameter quoted (← Parse.takeWhile isNameChar) .value
      else if isSpecial c then
        skip
        return .parameter quoted (String.singleton c) .value
      else return .literal quoted "$"

/-- Read what stands after a dollar sign and an opening brace. -/
def scanBraces (commands : Parse Command) : (fuel : Nat) → (quoted : Bool) → Parse Piece
  | 0, quoted => return .literal quoted "$"
  | fuel + 1, quoted => do
    let (name, isLength) ← bracedName
    let word := scanPieces commands fuel quoted (.brace false)
    let parameter (expansion : Expansion) : Parse Piece := return .parameter quoted name expansion
    if isLength then
      let _ ← word
      parameter .length
    else if name.isEmpty then
      skipBreak
      let _ ← word
      parameter .meaningless
    else if ← accept '\x7d' then parameter .value
    else
      let orEmpty ← accept ':'
      match ← peek with
      | none =>
        let _ ← word
        parameter .meaningless
      | some c =>
        match fallback? c with
        | some kind =>
          skip
          parameter (.fallback kind orEmpty (← word))
        | none =>
          if (c = '#' ∨ c = '%') ∧ !orEmpty then
            skip
            let longest ← accept c
            parameter (.trim (c = '#') longest (← scanPieces commands fuel false (.brace false)))
          else if c = '\n' then
            skipBreak
            let _ ← word
            parameter .meaningless
          else
            skip
            let _ ← word
            parameter .meaningless

end

/-! ### Tokens -/

/-- The words that have a meaning where a command can start. -/
def keywords : List String :=
  ["!", "case", "do", "done", "elif", "else", "esac", "fi", "for", "if", "in", "then", "until",
    "while", "\x7b", "\x7d"]

/-- The operators of one character that can be doubled. -/
def doubling : List Char := ['&', '|', ';']

/-- Read the sign of a redirection after its first character. -/
def scanRedirection (channel : Option Nat) (c : Char) : Parse Token := do
  let followers := if c = '<' then ['<', '&', '>'] else ['>', '|', '&']
  match ← peek with
  | some d =>
    if followers.contains d then
      skip
      let sign := String.ofList [c, d]
      if sign = "<<" then
        if ← accept '-' then return .redirection channel "<<-"
      return .redirection channel sign
    else return .redirection channel (String.singleton c)
  | none => return .redirection channel (String.singleton c)

/-- The digit that a word is. -/
def digit? (w : Word) : Option Nat :=
  match w.plain? with
  | some text =>
    match text.toList with
    | [c] => if c.isDigit then some (c.toNat - '0'.toNat) else none
    | _ => none
  | none => none

/-- Read a token. -/
def scanToken (commands : Parse Command) : Parse Token := do
  modify fun s =>
    let (n, rest) := dropBlanks s.rest
    let rest := if rest.head? = some '#' then rest.dropWhile (· != '\n') else rest
    { s with rest, line := s.line + n }
  match (← get).rest with
  | [] => return .ended
  | c :: _ =>
    if c = '\n' then
      skip
      return .newline
    else if c = '<' ∨ c = '>' then
      skip
      scanRedirection none c
    else if isOperator c then
      skip
      if doubling.contains c then
        if ← accept c then return .operator (String.ofList [c, c])
      return .operator (String.singleton c)
    else
      let w ← scanPieces commands ((← get).rest.length + 1) false .word
      match (← get).rest.head?, digit? w with
      | some '<', some n =>
        skip
        scanRedirection (some n) '<'
      | some '>', some n =>
        skip
        scanRedirection (some n) '>'
      | _, _ => return .word w

/-- Put a token back. -/
def hold (t : Token) : Parse Unit := modify fun s => { s with held := some t }

/-- A line, and the text after it if a line break ends it. -/
def cutLine (cs : List Char) : List Char × Option (List Char) :=
  let line := cs.takeWhile (· != '\n')
  match cs.drop line.length with
  | [] => (line, none)
  | _ :: rest => (line, some rest)

/-- Whether a line is joined to the next one. -/
def joins (line : List Char) : Bool := (line.reverse.takeWhile (· == '\\')).length % 2 == 1

/-- The text of a document, and the text after it. `joined` says that the next line belongs to the
one before. -/
def documentText (d : Awaited) : (fuel : Nat) → (joined : Bool) → List Char → List Char × List Char
  | 0, _, cs => ([], cs)
  | fuel + 1, joined, cs =>
    let (line, rest?) := cutLine cs
    let line := if d.dropsTabs && !joined then line.dropWhile (· == '\t') else line
    match rest? with
    | none => if String.ofList line = d.delimiter ∧ !joined then ([], []) else (line, [])
    | some rest =>
      if String.ofList line = d.delimiter ∧ !joined then ([], rest)
      else
        let (text, after) := documentText d fuel (!d.verbatim && joins line) rest
        (line ++ '\n' :: text, after)

/-- Read the text of a document. -/
def readDocument (commands : Parse Command) (d : Awaited) : Parse Unit := do
  let s ← get
  let (text, rest) := documentText d (s.rest.length + 1) false s.rest
  let body ←
    if d.verbatim then pure [.literal true (String.ofList text)]
    else inText (scanPieces commands (text.length + 1) true .document) text
  let consumed := s.rest.take (s.rest.length - rest.length)
  modify fun t =>
    { t with
      rest
      line := t.line + consumed.count '\n'
      documents := t.documents.set d.number body }

/-- Read the texts of the documents that are awaited. -/
def readDocuments (commands : Parse Command) : Parse Unit := do
  let awaited := (← get).awaited
  modify fun s => { s with awaited := [] }
  for d in awaited do readDocument commands d

/-- Step over line breaks. -/
def skipBreaks (commands : Parse Command) : (fuel : Nat) → Token → Parse Token
  | fuel + 1, .newline => do
    readDocuments commands
    skipBreaks commands fuel (← scanToken commands)
  | _, t => return t

/-- The text in the place of a word that is a second name of a command, unless the word stands in that
text itself. -/
def aliasFor? (s : Reading) (name : String) : Option String :=
  if s.replaced.any fun r => r.1 == name && r.2 ≤ s.rest.length then none
  else s.aliases.lookup name

/-- Whether the reader has just gone past a text in the place of a second name that ends in a blank. -/
def passesBlank (before after : Reading) : Bool :=
  before.replaced.any fun r =>
    r.2 ≤ before.rest.length && after.rest.length < r.2 &&
      (before.aliases.lookup r.1).any fun text => text.toList.getLast?.any isSeparator

/-- Where a token is read. -/
structure Position where
  /-- Whether line breaks are passed over. -/
  breaks : Bool
  /-- Whether words have a meaning. -/
  meaning : Bool
  /-- Whether second names of commands are replaced. -/
  aliases : Bool

/-- Read a token, or go on with one that has been read ahead. -/
def tokenFrom (commands : Parse Command) (p : Position) :
    (fuel : Nat) → (held : Option Token) → Parse Token
  | 0, _ => return .ended
  | fuel + 1, held => do
    let before ← get
    let t ← match held with
      | some t => pure t
      | none => scanToken commands
    let t ← if p.breaks then skipBreaks commands (before.rest.length + 1) t else pure t
    let after ← get
    match t with
    | .word w =>
      match w.plain? with
      | some text =>
        if p.meaning && keywords.contains text then return .keyword text
        else
          match if p.aliases || passesBlank before after then aliasFor? after text else none with
          | some value =>
            set { after with
              rest := value.toList ++ after.rest
              replaced := (text, after.rest.length) :: after.replaced }
            tokenFrom commands p fuel none
          | none => return t
      | none => return t
    | t => return t

/-- Read the next token. -/
def readToken (commands : Parse Command) (p : Position) : Parse Token := do
  let s ← get
  set { s with held := none }
  tokenFrom commands p (s.rest.length + s.aliases.length + 2) s.held

/-- The word that a text is where everything is quoted but what a dollar sign means. -/
def Token.wordOf (commands : Parse Command) (text : String) : Except SyntaxError Word :=
  let cs := text.toList
  ((scanPieces commands (cs.length + 1) true .document).run { rest := cs }).map Prod.fst

/-- Read the text up to the end of a word as the delimiter of a document, and whether a part of it
is quoted. -/
def scanDelimiter : (fuel : Nat) → List Char → Except SyntaxFault (List Char × Bool × List Char)
  | 0, cs => .ok ([], false, cs)
  | _ + 1, [] => .ok ([], false, [])
  | fuel + 1, c :: cs =>
    if endsWord c then .ok ([], false, c :: cs)
    else if c = '\\' then do
      let (text, _, rest) ← scanDelimiter fuel cs.tail
      return (cs.take 1 ++ text, true, rest)
    else if c = '\x27' ∨ c = '\x22' then
      match cs.dropWhile (· != c) with
      | [] => .error .unterminatedQuote
      | _ :: after => do
        let (text, _, rest) ← scanDelimiter fuel after
        return (cs.takeWhile (· != c) ++ text, true, rest)
    else do
      let (text, quoted, rest) ← scanDelimiter fuel cs
      return (c :: text, quoted, rest)

end ArtifactPipeline.Shell
