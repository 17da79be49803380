import ArtifactPipeline.Shell.Lexer

/-!
# Reading commands

Tokens are read into commands by the usual grammar: lists of pipelines joined by `&&` and `||`,
separated by `;`, `&` or line breaks; and compound commands between words that have a meaning where a
command can start.

Commands inside commands are read by a reader that is handed down (`inner` below), which may be asked
for a list or for a single command; `readCommands` ties the knot, as deep as the text is long.

* `nextLine` reads the commands up to the next line break outside any compound command, which is
  what the shell carries out at a time.
-/

namespace ArtifactPipeline.Shell

open Parse

/-- What a reader of commands is asked for. -/
inductive Wanted where
  /-- The commands up to the end of a line. -/
  | line
  /-- Commands up to a token that ends them; at least one, unless `mayBeEmpty`. -/
  | list (mayBeEmpty : Bool)
  /-- A single command, perhaps after line breaks. -/
  | command

/-- Whether a list of commands ends before a token. -/
def Token.endsList : Token → Bool
  | .ended => true
  | .operator text => text == ")" || text == ";;"
  | .keyword text => ["do", "done", "elif", "else", "esac", "fi", "then", "\x7d"].contains text
  | _ => false

/-- Complain about a token. -/
def unexpected {α : Type} (t : Token) (expected : Option String) : Parse α :=
  fail (.unexpected t.name expected)

/-- The commands that belong to the language; no other command can take their names. -/
def specialCommands : List String :=
  [".", ":", "break", "continue", "eval", "exec", "exit", "export", "local", "readonly", "return",
    "set", "shift", "times", "trap", "unset"]

/-! ### Parts of commands -/

/-- What the sign of a redirection means. -/
def redirectMode : String → RedirectMode
  | "<" => .input
  | "<>" => .inputOutput
  | ">|" => .replace
  | ">>" => .append
  | ">&" => .duplicate
  | "<&" => .duplicate
  | _ => .output

/-- The channel that the sign of a redirection means when no digit stands before it. -/
def usualChannel (sign : String) : Nat := if sign.toList.head? = some '<' then 0 else 1

section Readers

variable (inner : Wanted → Parse Command)

/-- Read the next token; words in it may hold commands. -/
def token (breaks meaning : Bool) : Parse Token :=
  readToken (inner (.list true)) { breaks, meaning, aliases := meaning }

/-- Read the next token among cases, perhaps after line breaks. -/
def caseToken : Parse Token :=
  readToken (inner (.list true)) { breaks := true, meaning := true, aliases := false }

/-- Read the next token of a simple command; a second name can stand where the name of the command can.
-/
def simpleToken (first : Bool) : Parse Token :=
  readToken (inner (.list true)) { breaks := false, meaning := false, aliases := first }

/-- Read the delimiter of a document, which is awaited from then on. -/
def awaitDocument (channel : Nat) (dropsTabs : Bool) : Parse Redirect := do
  modify fun s =>
    let (n, rest) := dropBlanks s.rest
    { s with rest, line := s.line + n }
  let s ← get
  if s.rest.head?.all endsWord then unexpected (← token inner false false) none
  match scanDelimiter (s.rest.length + 1) s.rest with
  | .error fault => fail fault
  | .ok (text, quoted, rest) =>
    let number := s.documents.length
    set { s with
      rest
      documents := s.documents ++ [[]]
      awaited := s.awaited ++ [Awaited.mk number (String.ofList text) quoted dropsTabs] }
    return .mk channel (.document number) []

/-- Read a redirection after its sign. -/
def redirection (channel : Option Nat) (sign : String) : Parse Redirect := do
  let channel := channel.getD (usualChannel sign)
  if sign = "<<" ∨ sign = "<<-" then awaitDocument inner channel (sign = "<<-")
  else
    match ← token inner false false with
    | .word target => return .mk channel (redirectMode sign) target
    | t => unexpected t none

/-- Read redirections as long as there are any. -/
def redirections : (fuel : Nat) → Parse (List Redirect)
  | 0 => return []
  | fuel + 1 => do
    match ← token inner false true with
    | .redirection channel sign =>
      let r ← redirection inner channel sign
      return r :: (← redirections fuel)
    | t =>
      hold t
      return []

/-- The name and the value of an assignment. -/
def assignment? (w : Word) : Option (String × Word) :=
  match w with
  | .literal false text :: rest =>
    let cs := text.toList
    let name := String.ofList (cs.takeWhile isNameChar)
    match cs.dropWhile isNameChar with
    | '=' :: value =>
      if isName name then
        let start := if value.isEmpty then [] else [Piece.literal false (String.ofList value)]
        some (name, start ++ rest)
      else none
    | _ => none
  | _ => none

/-- The parts of a simple command, as they are found. -/
structure SimpleParts where
  assignments : List (String × Word) := []
  words : List Word := []
  redirects : List Redirect := []

/-- The name of a function, if these parts are followed by the sign of a definition. -/
def SimpleParts.definedName? (p : SimpleParts) : Option Word :=
  match p.words with
  | [w] => if p.assignments.isEmpty && p.redirects.isEmpty then some w else none
  | _ => none

/-- Read the definition of a function after its opening parenthesis. -/
def definition (name : Word) : Parse Command := do
  match ← token inner false false with
  | .operator ")" => pure ()
  | t => unexpected t (some "\x22)\x22")
  let name := (name.literal?).getD ""
  if !isName name || specialCommands.contains name then fail .badFunctionName
  let line := (← get).line
  return .define line name (← inner .command)

/-- Read a simple command, or the definition of a function. -/
def simpleCommand (line : Nat) : (fuel : Nat) → SimpleParts → Parse Command
  | 0, p => return .simple line p.assignments p.words p.redirects
  | fuel + 1, p => do
    match ← simpleToken inner p.words.isEmpty with
    | .word w =>
      match if p.words.isEmpty then assignment? w else none with
      | some a => simpleCommand line fuel { p with assignments := p.assignments ++ [a] }
      | none => simpleCommand line fuel { p with words := p.words ++ [w] }
    | .redirection channel sign =>
      let r ← redirection inner channel sign
      simpleCommand line fuel { p with redirects := p.redirects ++ [r] }
    | .operator "(" =>
      match p.definedName? with
      | some name => definition inner name
      | none =>
        hold (.operator "(")
        return .simple line p.assignments p.words p.redirects
    | t =>
      hold t
      return .simple line p.assignments p.words p.redirects

/-! ### Compound commands -/

/-- Read a word with a meaning. -/
def expectKeyword (text : String) (breaks : Bool) : Parse Unit := do
  match ← token inner breaks true with
  | .keyword found =>
    if found = text then return
    else unexpected (.keyword found) (some ("\x22" ++ text ++ "\x22"))
  | t => unexpected t (some ("\x22" ++ text ++ "\x22"))

/-- Read what stands after `if` or `elif`, up to the closing word. -/
def conditional : (fuel : Nat) → Parse Command
  | 0 => fail .unterminatedBrace
  | fuel + 1 => do
    let test ← inner (.list false)
    expectKeyword inner "then" false
    let yes ← inner (.list false)
    match ← token inner false false with
    | .keyword "elif" => return .conditional test yes (← conditional fuel)
    | .keyword "else" => return .conditional test yes (← inner (.list false))
    | t =>
      hold t
      return .conditional test yes .nothing

/-- Read the words after `in`. -/
def loopWords : (fuel : Nat) → Parse (List Word)
  | 0 => return []
  | fuel + 1 => do
    match ← token inner false false with
    | .word w => return w :: (← loopWords fuel)
    | .newline => return []
    | .operator ";" => return []
    | t => unexpected t none

/-- Read what stands after `for`, up to the closing word. -/
def forLoop (line : Nat) : Parse Command := do
  let name ← match ← token inner false false with
    | .word w =>
      match w.plain? with
      | some name => if isName name then pure name else fail .badLoopVariable
      | none => fail .badLoopVariable
    | _ => fail .badLoopVariable
  let words ← match ← token inner true true with
    | .keyword "in" => loopWords inner ((← get).rest.length + 1)
    | t =>
      match t with
      | .operator ";" => pure ()
      | t => hold t
      pure [[.parameter true "@" .value]]
  expectKeyword inner "do" true
  return .each line name words (← inner (.list false))

/-- The word that a token stands for among patterns. -/
def Token.pattern : Token → Word
  | .word w => w
  | .keyword text => [.literal false text]
  | _ => []

/-- Read the patterns of a case from its first token on. -/
def casePatterns : (fuel : Nat) → Token → Parse (List Word)
  | 0, _ => return []
  | fuel + 1, first => do
    match ← token inner false false with
    | .operator "|" => return first.pattern :: (← casePatterns fuel (← token inner false false))
    | .operator ")" => return [first.pattern]
    | t => unexpected t (some "\x22)\x22")

/-- Read the cases up to the closing word. -/
def cases : (fuel : Nat) → Parse (List (List Word × Command))
  | 0 => return []
  | fuel + 1 => do
    match ← caseToken inner with
    | .keyword "esac" => return []
    | first =>
      let first ← match first with
        | .operator "(" => token inner false false
        | t => pure t
      let patterns ← casePatterns inner (fuel + 1) first
      let body ← inner (.list true)
      match ← caseToken inner with
      | .keyword "esac" => return [(patterns, body)]
      | .operator ";;" => return (patterns, body) :: (← cases fuel)
      | t => unexpected t (some "\x22;;\x22")

/-- Read what stands after `case`, with the closing word. -/
def selection (line : Nat) : Parse Command := do
  match ← token inner false false with
  | .word subject =>
    expectKeyword inner "in" true
    return .select line subject (← cases inner ((← get).rest.length + 1))
  | t => unexpected t (some "word")

/-- Read a command, perhaps after line breaks. -/
def oneCommand (breaks : Bool) : Parse Command := do
  let t ← token inner breaks true
  let s ← get
  let line := s.line
  let fuel := s.rest.length + 2
  let redirected (body : Command) : Parse Command := do
    match ← redirections inner ((← get).rest.length + 2) with
    | [] => return body
    | rs => return .redirected line body rs
  match t with
  | .keyword "if" =>
    let body ← conditional inner fuel
    expectKeyword inner "fi" false
    redirected body
  | .keyword "while" =>
    let test ← inner (.list false)
    expectKeyword inner "do" false
    let body ← inner (.list false)
    expectKeyword inner "done" false
    redirected (.loop true test body)
  | .keyword "until" =>
    let test ← inner (.list false)
    expectKeyword inner "do" false
    let body ← inner (.list false)
    expectKeyword inner "done" false
    redirected (.loop false test body)
  | .keyword "for" =>
    let body ← forLoop inner line
    expectKeyword inner "done" false
    redirected body
  | .keyword "case" => redirected (← selection inner line)
  | .keyword "\x7b" =>
    let body ← inner (.list false)
    expectKeyword inner "\x7d" false
    redirected body
  | .operator "(" =>
    let body ← inner (.list false)
    match ← token inner false false with
    | .operator ")" => pure ()
    | t => unexpected t (some "\x22)\x22")
    return .subshell line body (← redirections inner ((← get).rest.length + 2))
  | .word _ =>
    hold t
    simpleCommand inner line fuel {}
  | .redirection _ _ =>
    hold t
    simpleCommand inner line fuel {}
  | t => unexpected t none

/-! ### Lists -/

/-- Read the rest of a pipeline after its first part. -/
def moreParts : (fuel : Nat) → Parse (List Command)
  | 0 => return []
  | fuel + 1 => do
    match ← token inner false false with
    | .operator "|" =>
      let part ← oneCommand inner true
      return part :: (← moreParts fuel)
    | t =>
      hold t
      return []

/-- Read a pipeline, perhaps after line breaks. -/
def pipeline (breaks : Bool) : Parse Command := do
  let t ← token inner breaks true
  let negated ← match t with
    | .keyword "!" => pure true
    | t =>
      hold t
      pure false
  let first ← oneCommand inner false
  let whole := match ← moreParts inner ((← get).rest.length + 2) with
    | [] => first
    | parts => .pipeline (first :: parts)
  return if negated then .negated whole else whole

/-- Read what is joined to a pipeline by `&&` and `||`. -/
def joined : (fuel : Nat) → Command → Parse Command
  | 0, first => return first
  | fuel + 1, first => do
    match ← token inner false false with
    | .operator "&&" => joined fuel (.both first (← pipeline inner true))
    | .operator "||" => joined fuel (.either first (← pipeline inner true))
    | t =>
      hold t
      return first

/-- Two commands, one after the other. -/
def Command.followedBy : Command → Command → Command
  | .nothing, second => second
  | first, second => .sequence first second

/-- Read commands after some, up to the end that is wanted. -/
def commandList (wanted : Wanted) : (fuel : Nat) → (mayEnd : Bool) → Command → Parse Command
  | 0, _, before => return before
  | fuel + 1, mayEnd, before => do
    let byLine := match wanted with
      | .line => true
      | _ => false
    let t ← token inner (!byLine) true
    match t with
    | .newline =>
      readDocuments (inner (.list true))
      return before
    | .ended =>
      readDocuments (inner (.list true))
      hold .ended
      return before
    | t =>
      hold t
      if mayEnd && t.endsList then return before
      let first ← pipeline inner false
      let found ← joined inner ((← get).rest.length + 2) first
      let t ← token inner false false
      let line := (← get).line
      match t with
      | .operator "&" =>
        commandList wanted fuel (!byLine) (before.followedBy (.background line found))
      | .operator ";" => commandList wanted fuel (!byLine) (before.followedBy found)
      | .newline =>
        hold t
        commandList wanted fuel (!byLine) (before.followedBy found)
      | .ended =>
        hold t
        commandList wanted fuel (!byLine) (before.followedBy found)
      | t =>
        if byLine then unexpected t none
        hold t
        return before.followedBy found

/-- Read what is wanted. -/
def wantedCommands (wanted : Wanted) : Parse Command := do
  let fuel := (← get).rest.length + 2
  match wanted with
  | .command => oneCommand inner true
  | .line => commandList inner wanted fuel false .nothing
  | .list mayBeEmpty => commandList inner wanted fuel mayBeEmpty .nothing

end Readers

/-- Read what is wanted, with commands inside commands up to a depth. -/
def readCommands : (depth : Nat) → Wanted → Parse Command
  | 0, _ => fail .unterminatedBrace
  | depth + 1, wanted => wantedCommands (readCommands depth) wanted

/-- The word that a text is where everything is quoted but what a dollar sign means. -/
def textWord (text : String) : Except SyntaxError Word :=
  Token.wordOf (readCommands (text.length + 2) (.list true)) text

/-- Read the commands of the next line. There are none at the end of the text. -/
def nextLine (s : Reading) : Except SyntaxError (Option (Command × Reading)) :=
  match s.held, s.rest with
  | some .ended, _ => .ok none
  | _, [] => .ok none
  | _, rest => (readCommands (rest.length + 2) .line).run { s with held := none } |>.map some

end ArtifactPipeline.Shell
