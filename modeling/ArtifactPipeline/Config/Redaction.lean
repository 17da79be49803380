import ArtifactPipeline.Config.Value
import ArtifactPipeline.Text.Search

/-!
# Redaction

Before a configuration is shown, the scalars under keys that name a secret are replaced by a mark.
A key names a secret when its lower-case form contains one of a few words. Tables and lists under
such a key are kept and redacted in their turn.
-/

namespace ArtifactPipeline.Config

/-- The words that make a key secret. -/
def secretWords : List String := ["password", "token", "secret", "private_key", "passphrase"]

/-- The lower-case form of a character, as far as it can be an ASCII letter: the Kelvin sign is an
upper-case `k`. -/
def lowerLetter (c : Char) : Char := if c = '\u212a' then 'k' else c.toLower

/-- Whether a key names a secret. -/
def isSecretKey (key : String) : Bool :=
  let lower := key.toList.map lowerLetter
  secretWords.any fun word => Text.occursIn word.toList lower

/-- What is shown instead of a secret. -/
def redactionMark : Value := .string "[REDACTED]"

mutual

/-- A value without its secrets. -/
def Value.redact : Value → Value
  | .object entries => .object (redactEntries entries)
  | .array items => .array (redactItems items)
  | .null => .null
  | .bool b => .bool b
  | .int n => .int n
  | .float x => .float x
  | .string s => .string s

/-- Entries without their secrets. -/
def redactEntries : List (String × Value) → List (String × Value)
  | [] => []
  | (key, v) :: rest =>
    (key, if isSecretKey key && !v.isObject && !v.isArray then redactionMark else v.redact)
      :: redactEntries rest

/-- Items without their secrets. -/
def redactItems : List Value → List Value
  | [] => []
  | v :: rest => v.redact :: redactItems rest

end

end ArtifactPipeline.Config
