import ArtifactPipeline.Text.Utf8

/-!
# Texts of octets

The shell knows no characters, only octets. What it works on is kept as a text in which each
character stands for one octet, so that words, names and values of the shell can be written like any
other text and nothing is lost that is no text.

* `ofText` and `text` go from an ordinary text to its octets and back;
* `bytes_ofBytes` : the octets of a text of octets are the ones that it was made of.
-/

namespace ArtifactPipeline.Shell.Octets

/-- The text that stands for octets. -/
def ofBytes (bytes : Bytes) : String := String.ofList (bytes.map Char.ofUInt8)

/-- The octets that a text stands for. -/
def bytes (s : String) : Bytes := s.toList.map Char.toUInt8

/-- The text that stands for the octets of an ordinary text. -/
def ofText (s : String) : String := ofBytes (Text.Utf8.encode s)

/-- The ordinary text whose octets a text stands for. -/
def text (s : String) : String := Text.Utf8.decodeLossy (bytes s)

@[simp] theorem toUInt8_ofUInt8 (b : UInt8) : (Char.ofUInt8 b).toUInt8 = b := by
  change b.toUInt32.toUInt8 = b
  simp

@[simp] theorem bytes_ofBytes (bs : Bytes) : bytes (ofBytes bs) = bs := by
  simp [bytes, ofBytes, Function.comp_def]

end ArtifactPipeline.Shell.Octets
