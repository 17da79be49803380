import ArtifactPipeline.Host
import ArtifactPipeline.Source

/-!
# Conversions

An artifact becomes one of another kind by a single *hop*: a path is opened as a stream or taken as
a directory, a stream is put into a temporary file or decoded as text, and a text is read as a
stream. There is no way from one kind to another by two hops at once. An artifact that already has
the kind asked for, or for which no particular kind is asked, is left as it is.

* `hops` lists the hops and `hasHop` decides whether there is one;
* `convert` converts, and changes the file system only when a stream becomes a path;
* `kind_of_convert` says that a conversion that succeeds yields the kind asked for.
-/

namespace ArtifactPipeline.Conversion

/-- The pairs of kinds between which there is a hop. -/
def hops : List (Kind × Kind) :=
  [(.path, .directory), (.path, .stream), (.stream, .path), (.stream, .string), (.string, .stream)]

/-- Whether there is a hop from one kind to another. -/
def hasHop (source target : Kind) : Bool := hops.contains (source, target)

/-- How the temporary files of the pipeline begin. -/
def temporaryBeginning : String := "stagewright-"

/-- Take a path as a directory. -/
def pathToDirectory (name : String) (fs : FileSystem) : Except ConversionFailure Source :=
  if fs.hasDirectory name then .ok (.directory name) else .error (.notDirectory name)

/-- Open a path as a stream. -/
def pathToStream (name : String) (fs : FileSystem) : Except ConversionFailure Source :=
  match fs.find name with
  | .ok (_, node) => .ok (.stream (.ofNode node))
  | .error fault => .error (.io fault)

/-- Put what is left of a stream into a temporary file, which belongs to the caller. The file is
made first and takes in what the stream yields; when a fault cuts the stream off, the file goes
again. -/
def streamToPath (s : Stream) (fs : FileSystem) :
    Except ConversionFailure Source × FileSystem :=
  match fs.freshLocation temporaryBeginning with
  | .error fault => (.error (.io fault), fs)
  | .ok l =>
    let made := fs.addFile l []
    let (bytes, fault) := s.readable made
    let filled := made.extend fs.contents.length bytes
    match fault with
    | none => (.ok (.path (FileSystem.pathOf l)), filled)
    | some fault => (.error (.io fault), filled.forget (· == l))

/-- Decode what is left of a stream. -/
def streamToString (s : Stream) (fs : FileSystem) : Except ConversionFailure Source :=
  match s.remaining fs with
  | .error fault => .error (.io fault)
  | .ok bytes =>
    match Text.Utf8.decode? bytes with
    | .ok text => .ok (.string text)
    | .error _ => .error (.io .notText)

/-- Read a text as a stream. -/
def stringToStream (text : String) : Source := .stream (.ofBytes (Text.Utf8.encode text))

/-- Take the hop from an artifact to another kind, if there is one. -/
def hop (source : Source) (target : Kind) (fs : FileSystem) :
    Except ConversionFailure Source × FileSystem :=
  match source, target with
  | .path name, .directory => (pathToDirectory name fs, fs)
  | .path name, .stream => (pathToStream name fs, fs)
  | .stream s, .path => streamToPath s fs
  | .stream s, .string => (streamToString s fs, fs)
  | .string text, .stream => (.ok (stringToStream text), fs)
  | source, target => (.error (.unsupported source.kind target), fs)

/-- Make an artifact one of the kind asked for, by at most one hop. -/
def convert (source : Source) (target : Kind) (fs : FileSystem) :
    Except ConversionFailure Source × FileSystem :=
  if target.accepts source.kind then (.ok source, fs) else hop source target fs

/-- Convert as part of a pipeline. -/
def convertAction {ε : Type} (source : Source) (target : Kind) : Action (Host ε) Source := fun h =>
  match convert source target h.files with
  | (.ok converted, files) => (.done converted, { h with files })
  | (.error cause, files) => (.failed (.conversion cause), { h with files })

/-- An artifact of the kind asked for is left as it is. -/
theorem convert_of_accepts {source : Source} {target : Kind} (h : target.accepts source.kind)
    (fs : FileSystem) : convert source target fs = (.ok source, fs) := by
  rw [convert, if_pos h]

/-- A hop that succeeds yields an artifact of the kind asked for. -/
theorem kind_of_hop {source result : Source} {target : Kind} {fs fs' : FileSystem}
    (h : hop source target fs = (.ok result, fs')) : result.kind = target := by
  unfold hop at h
  split at h
  · rw [pathToDirectory] at h
    split at h <;> simp at h
    rw [← h.1]
    rfl
  · rw [pathToStream] at h
    split at h <;> simp at h
    rw [← h.1]
    rfl
  · rw [streamToPath] at h
    split at h
    · simp at h
    · simp only at h
      split at h <;> simp at h
      rw [← h.1]
      rfl
  · rw [streamToString] at h
    split at h
    · simp at h
    · split at h <;> simp at h
      rw [← h.1]
      rfl
  · simp [stringToStream] at h
    rw [← h.1]
    rfl
  · simp at h

/-- A conversion that succeeds yields an artifact that may stand where the kind is asked for. -/
theorem kind_of_convert {source result : Source} {target : Kind} {fs fs' : FileSystem}
    (h : convert source target fs = (.ok result, fs')) : target.accepts result.kind := by
  rw [convert] at h
  split at h
  · next same =>
    simp at h
    rw [← h.1]
    exact same
  · exact Kind.accepts_iff.2 (.inr (kind_of_hop h).symm)

end ArtifactPipeline.Conversion
