import ArtifactPipeline.Text.Utf8

/-!
# The contents of files

What a file holds is kept in the parts in which it was written, the latest first, so that writing
more at the end does not go through all that was written before.

* `bytes_ofBytes` and `bytes_add` say what each operation does to the octets;
* `size_eq` : the size is the number of octets.
-/

namespace ArtifactPipeline

/-- The octets of a file, in the parts in which they were written, the latest first. -/
structure Contents where
  parts : List Bytes := []
  size : Nat := 0
  sized : size = parts.flatten.length := by simp

namespace Contents

/-- All octets. -/
def bytes (c : Contents) : Bytes :=
  match c.parts with
  | [part] => part
  | parts => parts.reverse.flatten

/-- Octets that were written at once. -/
def ofBytes (bytes : Bytes) : Contents := ⟨[bytes], bytes.length, by simp⟩

/-- Contents with more octets at the end. -/
def add (c : Contents) (more : Bytes) : Contents :=
  ⟨more :: c.parts, more.length + c.size, by simp [c.sized]⟩

theorem bytes_eq (c : Contents) : c.bytes = c.parts.reverse.flatten := by
  rw [bytes]
  split
  · next part only => simp [only]
  · rfl

@[simp] theorem bytes_ofBytes (bytes : Bytes) : (ofBytes bytes).bytes = bytes := by
  simp [bytes_eq, ofBytes]

@[simp] theorem bytes_add (c : Contents) (more : Bytes) : (c.add more).bytes = c.bytes ++ more := by
  simp [bytes_eq, add]

theorem size_eq (c : Contents) : c.size = c.bytes.length := by
  rw [c.sized, bytes_eq, List.length_flatten, List.length_flatten, List.map_reverse,
    List.sum_reverse]

end Contents

end ArtifactPipeline
