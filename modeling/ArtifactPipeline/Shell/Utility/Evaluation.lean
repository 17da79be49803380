import ArtifactPipeline.Shell.Regular.Reader
import ArtifactPipeline.Shell.Utility.Compare

/-!
# Expressions as arguments

The program `expr` evaluates an expression, each sign and each value of which is an argument. Values are texts,
which count as whole numbers where they look like them.

* `evaluate` reads and evaluates at once, from the signs that bind least to those that bind most;
* `isNull` says which values count as false.
-/

namespace ArtifactPipeline.Shell.Utility

/-- A value of an expression. -/
inductive Value where
  | number (n : Int)
  | text (s : String)
deriving Repr, DecidableEq

namespace Value

/-- A value as text. -/
def shown : Value → String
  | number n => toString n
  | text s => s

/-- The whole number that a text shows. -/
def wholeOf? (s : String) : Option Int :=
  match s.toList with
  | '-' :: digits =>
    if digits.isEmpty ∨ !digits.all Char.isDigit then none
    else some (-(digits.foldl (fun n c => 10 * n + (c.toNat - '0'.toNat)) 0 : Nat))
  | digits =>
    if digits.isEmpty ∨ !digits.all Char.isDigit then none
    else some (digits.foldl (fun n c => 10 * n + (c.toNat - '0'.toNat)) 0 : Nat)

/-- A value as a whole number. -/
def whole? : Value → Option Int
  | number n => some n
  | text s => wholeOf? s

/-- Whether a value counts as false: a text without characters, or zero. -/
def isNull : Value → Bool
  | number n => n == 0
  | text s =>
    let digits := if s.toList.head? = some '-' then s.toList.tail else s.toList
    s.isEmpty || (!digits.isEmpty && digits.all (· == '0'))

theorem isNull_text_empty : (text "").isNull = true := by decide

/-- The value of a comparison. -/
def ofBool (b : Bool) : Value := number (if b then 1 else 0)

end Value

/-- Where in the arguments an evaluation is: the argument before, and those that are left. -/
structure ArgumentPlace where
  before : String
  rest : List String

namespace ArgumentPlace

/-- The place after the next argument. -/
def next (p : ArgumentPlace) : ArgumentPlace := ⟨p.rest.headD "", p.rest.tail⟩

/-- The report of arguments that end too early. -/
def ended (p : ArgumentPlace) : String :=
  "syntax error: missing argument after " ++ Quoting.text p.before

end ArgumentPlace

/-- The signs of each level, those that bind least first. -/
def levelSigns : List (List String) :=
  [["|"], ["&"], ["<", "<=", "=", "==", "!=", ">=", ">"], ["+", "-"], ["*", "/", "%"], [":"]]

/-- Compare two values, as numbers where both look like them. -/
def compareValues (a b : Value) : Ordering :=
  match Value.wholeOf? a.shown, Value.wholeOf? b.shown with
  | some m, some n => compare m n
  | _, _ => compareBytes (Octets.bytes a.shown) (Octets.bytes b.shown)

/-- What of a text a pattern describes at its start: the part in the first group, or the length. -/
def matchStart (a b : Value) : Except String Value :=
  match Regular.Expression.read {} b.shown with
  | .error fault => .error fault.message
  | .ok e =>
    let bytes := Octets.bytes a.shown
    let subject : Regular.Subject := { octets := bytes.toArray }
    let groups := 0 < e.groupCount
    match e.longest? subject 0 with
    | none => .ok (if groups then .text "" else .number 0)
    | some spot =>
      if !groups then .ok (.number spot.place)
      else
        match spot.groups.lookup 1 with
        | some (i, j) => .ok (.text (Octets.ofBytes ((bytes.drop i).take (j - i))))
        | none => .ok (.text "")

/-- Put two values together by a sign. -/
def combine (sign : String) (a b : Value) : Except String Value := do
  let order := compareValues a b
  let whole (f : Int → Int → Except String Int) : Except String Value :=
    match a.whole?, b.whole? with
    | some m, some n => (f m n).map .number
    | _, _ => .error "non-integer argument"
  let divided (f : Int → Int → Int) : Except String Value :=
    whole fun m n => if n = 0 then .error "division by zero" else .ok (f m n)
  match sign with
  | "|" => return if !a.isNull then a else if b.isNull then .number 0 else b
  | "&" => return if a.isNull || b.isNull then .number 0 else a
  | "<" => return .ofBool (order == .lt)
  | "<=" => return .ofBool (order != .gt)
  | "=" => return .ofBool (order == .eq)
  | "==" => return .ofBool (order == .eq)
  | "!=" => return .ofBool (order != .eq)
  | ">=" => return .ofBool (order != .lt)
  | ">" => return .ofBool (order == .gt)
  | "+" => whole fun m n => .ok (m + n)
  | "-" => whole fun m n => .ok (m - n)
  | "*" => whole fun m n => .ok (m * n)
  | "/" => divided Int.tdiv
  | "%" => divided Int.tmod
  | _ => matchStart a b

/-- A part of a text from a place on. -/
def partOf (text start length : Value) : Value :=
  match start.whole?, length.whole? with
  | some i, some n =>
    if i < 1 ∨ n < 1 then .text ""
    else .text (String.ofList ((text.shown.toList.drop (i.toNat - 1)).take n.toNat))
  | _, _ => .text ""

/-- The place of the first character of a text that is one of some, or zero. -/
def placeOf (text characters : Value) : Value :=
  match text.shown.toList.findIdx? characters.shown.toList.contains with
  | some i => .number (i + 1)
  | none => .number 0

/-- What is evaluated next. -/
inductive Evaluating where
  /-- An expression with signs of a level and of those that bind more. -/
  | level (n : Nat)
  /-- What stands after a value, with signs of a level. -/
  | more (n : Nat) (a : Value)

/-- Evaluate arguments; `live` says whether the value is wanted. -/
def evaluate : (fuel : Nat) → Evaluating → (live : Bool) → ArgumentPlace →
    Except String (Value × ArgumentPlace)
  | 0, _, _, p => .error p.ended
  | fuel + 1, .more n a, live, p => do
    match p.rest with
    | [] => return (a, p)
    | sign :: _ =>
      if !(levelSigns.getD n []).contains sign then return (a, p)
      let wanted := live && (if n = 0 then a.isNull else n ≠ 1 || !a.isNull)
      let (b, p) ← evaluate fuel (.level (n + 1)) wanted p.next
      let value ← if live && (wanted || n ≤ 1) then combine sign a b else .ok a
      evaluate fuel (.more n value) live p
  | fuel + 1, .level n, live, p => do
    if n < 6 then
      let (a, p) ← evaluate fuel (.level (n + 1)) live p
      evaluate fuel (.more n a) live p
    else
      match p.rest with
      | [] => .error p.ended
      | "+" :: rest =>
        match rest with
        | [] => .error p.next.ended
        | text :: _ => return (.text text, p.next.next)
      | "length" :: _ =>
        let (a, p) ← evaluate fuel (.level 6) live p.next
        return (.number a.shown.length, p)
      | "match" :: _ =>
        let (a, p) ← evaluate fuel (.level 6) live p.next
        let (b, p) ← evaluate fuel (.level 6) live p
        return (← if live then matchStart a b else .ok a, p)
      | "index" :: _ =>
        let (a, p) ← evaluate fuel (.level 6) live p.next
        let (b, p) ← evaluate fuel (.level 6) live p
        return (placeOf a b, p)
      | "substr" :: _ =>
        let (a, p) ← evaluate fuel (.level 6) live p.next
        let (b, p) ← evaluate fuel (.level 6) live p
        let (c, p) ← evaluate fuel (.level 6) live p
        return (partOf a b c, p)
      | "(" :: _ =>
        let (a, p) ← evaluate fuel (.level 0) live p.next
        match p.rest with
        | [] => .error ("syntax error: expecting ')' after " ++ Quoting.text p.before)
        | ")" :: _ => return (a, p.next)
        | text :: _ => .error ("syntax error: expecting ')' instead of " ++ Quoting.text text)
      | ")" :: _ => .error "syntax error: unexpected ')'"
      | text :: _ => return (.text text, p.next)

/-- Evaluate an expression. -/
def expr : Utility := fun arguments => do
  Task.faultsEndWith 2
  let words := if arguments.head? = some "--" then arguments.tail else arguments
  if words.isEmpty then Task.misuse "missing operand"
  match evaluate (20 * words.length + 20) (.level 0) true ⟨"expr", words⟩ with
  | .error text => Task.fail text
  | .ok (value, p) =>
    match p.rest with
    | text :: _ => Task.fail ("syntax error: unexpected argument " ++ Quoting.text text)
    | [] =>
      Task.putLine value.shown
      Task.ends (if value.isNull then 1 else 0)

end ArtifactPipeline.Shell.Utility
