/-!
# UTF-8

A text is carried as octets by its UTF-8 form. `encode` writes a text, `scan` reads octets back as
a sequence of *pieces*: a piece is a character, or a run of octets that no text can contain. Both
ways of reading are views of the pieces:

* `decode?` accepts exactly the octets all of whose pieces are characters, and otherwise names the
  first bad piece and the number of octets before it (`Fault`);
* `decodeLossy` reads every octet sequence, with one replacement character for each bad piece.

A bad piece is as long as possible: it holds the octets that could still have begun a character
(`Piece.malformed`), and it is `Piece.truncated` when the octets end before the character does.
-/

namespace ArtifactPipeline

/-- Octets, in order. -/
abbrev Bytes := List UInt8

namespace Text.Utf8

/-- A piece of an octet sequence. -/
inductive Piece where
  /-- The octets of one character. -/
  | char (c : Char)
  /-- Octets, this many, that begin no character whatever octet follows. -/
  | malformed (length : Nat)
  /-- The last octets, this many: they begin a character that the end cuts off. -/
  | truncated (length : Nat)
deriving Repr, DecidableEq

/-- What the first octet of a longer form says of the rest. -/
structure Lead where
  /-- The bits of the character that the first octet holds, at their place. -/
  high : Nat
  /-- The least second octet. -/
  least : Nat
  /-- The greatest second octet. -/
  greatest : Nat
  /-- How many octets follow. -/
  more : Nat
deriving Repr, DecidableEq

/-- The first octet of a form of two, three or four octets. The bounds on the second octet rule
out forms longer than needed, surrogates and numbers above the last character. -/
def lead? (a : Nat) : Option Lead :=
  if 0xC2 ≤ a ∧ a ≤ 0xDF then some ⟨(a - 0xC0) * 0x40, 0x80, 0xBF, 1⟩
  else if a = 0xE0 then some ⟨0, 0xA0, 0xBF, 2⟩
  else if a = 0xED then some ⟨0xD000, 0x80, 0x9F, 2⟩
  else if 0xE1 ≤ a ∧ a ≤ 0xEF then some ⟨(a - 0xE0) * 0x1000, 0x80, 0xBF, 2⟩
  else if a = 0xF0 then some ⟨0, 0x90, 0xBF, 3⟩
  else if 0xF1 ≤ a ∧ a ≤ 0xF3 then some ⟨(a - 0xF0) * 0x40000, 0x80, 0xBF, 3⟩
  else if a = 0xF4 then some ⟨0x100000, 0x80, 0x8F, 3⟩
  else none

/-- Whether an octet may stand after the second one. -/
def isTail (b : Nat) : Bool := 0x80 ≤ b && b ≤ 0xBF

/-- The pieces of an octet sequence. -/
def scan : Bytes → List Piece
  | [] => []
  | a :: rest =>
    if a.toNat < 0x80 then .char (Char.ofNat a.toNat) :: scan rest
    else
      match lead? a.toNat with
      | none => .malformed 1 :: scan rest
      | some lead =>
        match rest with
        | [] => [.truncated 1]
        | b :: rest₁ =>
          if lead.least ≤ b.toNat ∧ b.toNat ≤ lead.greatest then
            if lead.more = 1 then
              .char (Char.ofNat (lead.high + (b.toNat - 0x80))) :: scan rest₁
            else
              match rest₁ with
              | [] => [.truncated 2]
              | c :: rest₂ =>
                if isTail c.toNat then
                  if lead.more = 2 then
                    .char (Char.ofNat (lead.high + (b.toNat - 0x80) * 0x40 + (c.toNat - 0x80)))
                      :: scan rest₂
                  else
                    match rest₂ with
                    | [] => [.truncated 3]
                    | d :: rest₃ =>
                      if isTail d.toNat then
                        .char (Char.ofNat (lead.high + (b.toNat - 0x80) * 0x1000
                          + (c.toNat - 0x80) * 0x40 + (d.toNat - 0x80))) :: scan rest₃
                      else .malformed 3 :: scan (d :: rest₃)
                else .malformed 2 :: scan (c :: rest₂)
          else .malformed 1 :: scan (b :: rest₁)

/-- The octets of a character. -/
def encodeChar (c : Char) : Bytes :=
  let n := c.toNat
  if n < 0x80 then [UInt8.ofNat n]
  else if n < 0x800 then [UInt8.ofNat (0xC0 + n / 0x40), UInt8.ofNat (0x80 + n % 0x40)]
  else if n < 0x10000 then
    [UInt8.ofNat (0xE0 + n / 0x1000), UInt8.ofNat (0x80 + n / 0x40 % 0x40),
      UInt8.ofNat (0x80 + n % 0x40)]
  else
    [UInt8.ofNat (0xF0 + n / 0x40000), UInt8.ofNat (0x80 + n / 0x1000 % 0x40),
      UInt8.ofNat (0x80 + n / 0x40 % 0x40), UInt8.ofNat (0x80 + n % 0x40)]

/-- The octets of a list of characters. -/
def encodeChars (cs : List Char) : Bytes := cs.flatMap encodeChar

/-- The octets of a text. -/
def encode (s : String) : Bytes := encodeChars s.toList

/-- Why octets are not a text: the number of good octets before the first bad piece, and the
length of that piece, which is not given when the octets end inside it. -/
structure Fault where
  validUpTo : Nat
  length : Option Nat
deriving Repr, DecidableEq

namespace Fault

/-- The report of a fault. -/
def message : Fault → String
  | ⟨upTo, some length⟩ =>
    "invalid utf-8 sequence of " ++ toString length ++ " bytes from index " ++ toString upTo
  | ⟨upTo, none⟩ => "incomplete utf-8 byte sequence from index " ++ toString upTo

end Fault

/-- The characters of the pieces, or the first bad one; `upTo` octets came before. -/
def chars? (upTo : Nat) : List Piece → Except Fault (List Char)
  | [] => .ok []
  | .char c :: pieces => (chars? (upTo + (encodeChar c).length) pieces).map (c :: ·)
  | .malformed length :: _ => .error ⟨upTo, some length⟩
  | .truncated _ :: _ => .error ⟨upTo, none⟩

/-- The text that the octets carry, if they carry one. -/
def decode? (bytes : Bytes) : Except Fault String :=
  (chars? 0 (scan bytes)).map String.ofList

/-- The character that stands for a bad piece. -/
def replacement : Char := '\ufffd'

/-- The character shown for a piece. -/
def Piece.shown : Piece → Char
  | .char c => c
  | .malformed _ | .truncated _ => replacement

/-- The text of any octets, each bad piece read as one replacement character. -/
def decodeLossy (bytes : Bytes) : String :=
  String.ofList ((scan bytes).map Piece.shown)

end Text.Utf8

end ArtifactPipeline
