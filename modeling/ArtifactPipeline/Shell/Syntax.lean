/-!
# The language of the shell

What a text for the shell says. A *word* is a run of pieces: texts, and things that are replaced when
the word is expanded, each of them quoted or not. A *command* is a simple one, which is a list of
words with assignments before it and redirections anywhere in it, or is put together from others.

A text that follows its command on lines of its own, a *document*, is kept apart; the redirection
refers to it by its number.
-/

namespace ArtifactPipeline.Shell

/-- What happens where the value of a parameter is missing. -/
inductive Fallback where
  /-- A word stands for the value. -/
  | use
  /-- A word becomes the value. -/
  | assign
  /-- The shell complains and gives up. -/
  | complain
  /-- A word stands for the value where there is one, and nothing where it is missing. -/
  | other
deriving Repr, DecidableEq

/-- What a redirection does. -/
inductive RedirectMode where
  | input
  | inputOutput
  | output
  /-- Replace a file even where that is switched off. -/
  | replace
  | append
  /-- Use what another channel is connected to. -/
  | duplicate
  /-- Read a document. -/
  | document (number : Nat)
deriving Repr, DecidableEq

mutual

/-- A part of a word. -/
inductive Piece where
  | literal (quoted : Bool) (text : String)
  /-- A pair of quotes: the word counts even when nothing stands between them. -/
  | quotes
  | parameter (quoted : Bool) (name : String) (expansion : Expansion)
  /-- What a command writes. -/
  | command (quoted : Bool) (body : Command)
  /-- The value of an arithmetic expression. -/
  | arithmetic (quoted : Bool) (inner : List Piece)

/-- What the value of a parameter is turned into. -/
inductive Expansion where
  /-- The value itself. -/
  | value
  /-- The length of the value. -/
  | length
  /-- The value, with a word for the case that it is missing; `orEmpty` counts the empty value as
  missing. -/
  | fallback (kind : Fallback) (orEmpty : Bool) (word : List Piece)
  /-- The value without the part at its start or end that a pattern matches. -/
  | trim (atStart longest : Bool) (pattern : List Piece)
  /-- Something that has no meaning. -/
  | meaningless

/-- A redirection of a numbered channel. -/
inductive Redirect where
  | mk (channel : Nat) (mode : RedirectMode) (target : List Piece)

/-- A command; lines are counted from one. -/
inductive Command where
  | nothing
  /-- Words to run. -/
  | simple (line : Nat) (assignments : List (String × List Piece)) (words : List (List Piece))
      (redirects : List Redirect)
  /-- Commands each of which reads what the one before it writes. -/
  | pipeline (parts : List Command)
  /-- A command whose success is failure. -/
  | negated (body : Command)
  | both (first second : Command)
  | either (first second : Command)
  | sequence (first second : Command)
  /-- A command that nobody waits for. -/
  | background (line : Nat) (body : Command)
  | redirected (line : Nat) (body : Command) (redirects : List Redirect)
  | subshell (line : Nat) (body : Command) (redirects : List Redirect)
  | conditional (test yes no : Command)
  /-- A loop that goes on while its test succeeds, or until it does. -/
  | loop (whileTrue : Bool) (test body : Command)
  | each (line : Nat) (name : String) (words : List (List Piece)) (body : Command)
  /-- The body of the first case that has a pattern for the subject. -/
  | select (line : Nat) (subject : List Piece) (cases : List (List (List Piece) × Command))
  /-- Give a command a name. -/
  | define (line : Nat) (name : String) (body : Command)

end

/-- A word, before it is expanded. -/
abbrev Word := List Piece

/-- The text of a word that is a single unquoted text. -/
def Word.plain? : Word → Option String
  | [.literal false text] => some text
  | _ => none

/-- The text of a word that is made of texts only, quoted or not. -/
def Word.literal? : Word → Option String
  | [] => some ""
  | .literal _ text :: rest => (literal? rest).map (text ++ ·)
  | .quotes :: rest => literal? rest
  | _ => none

/-- Put a piece before a word, joining texts that are quoted alike. -/
def Word.cons (piece : Piece) (w : Word) : Word :=
  match piece, w with
  | .literal p s, .literal q t :: rest =>
    if p = q then .literal p (s ++ t) :: rest else piece :: w
  | _, _ => piece :: w

/-- Why a text is no command. -/
inductive SyntaxFault where
  | unterminatedQuote
  | unterminatedBrace
  | unterminatedArithmetic
  | unterminatedAccent
  /-- A token stands where it may not; perhaps only one other might stand there. -/
  | unexpected (token : String) (expected : Option String)
  | badLoopVariable
  | badFunctionName
deriving Repr, DecidableEq

/-- The longest report of a token, in octets. -/
def reportLimit : Nat := 63

/-- The report of a fault. -/
def SyntaxFault.message (fault : SyntaxFault) : String :=
  "Syntax error: " ++ match fault with
    | unterminatedQuote => "Unterminated quoted string"
    | unterminatedBrace => "Missing '\x7d'"
    | unterminatedArithmetic => "Missing '))'"
    | unterminatedAccent => "EOF in backquote substitution"
    | unexpected token none => token ++ " unexpected"
    | unexpected token (some expected) =>
      let text := token ++ " unexpected (expecting " ++ expected ++ ")"
      String.ofList (text.toList.take reportLimit)
    | badLoopVariable => "Bad for loop variable"
    | badFunctionName => "Bad function name"

/-- A fault and the line where it shows. -/
structure SyntaxError where
  line : Nat
  fault : SyntaxFault
deriving Repr, DecidableEq

end ArtifactPipeline.Shell
