/-!
# Faults of input and output

What the operating system, or a stream, answers instead of doing what it was asked. The message of
a fault of the system ends with the system's number for it.
-/

namespace ArtifactPipeline

/-- A failed operation on a file, a stream or a program. -/
inductive IoFault where
  /-- No file or directory has the name. -/
  | notFound
  /-- A name is used as a directory and is none. -/
  | notDirectory
  /-- A directory is used as a file. -/
  | isDirectory
  /-- A name cannot be used for what is asked. -/
  | invalidArgument
  /-- Links lead to links without end. -/
  | tooManyLinks
  /-- A name, or one of its parts, is longer than the system allows. -/
  | nameTooLong
  /-- A name holds the character zero. -/
  | zeroInName
  /-- An argument of a program holds the character zero. -/
  | zeroInArgument
  /-- Octets are read as text and are not in UTF-8. -/
  | notText
  /-- Every temporary name that was tried is in use. -/
  | noFreeName
  /-- A fault that only its own text describes. -/
  | other (text : String)
deriving Repr, DecidableEq

namespace IoFault

/-- The report of a fault. -/
def message : IoFault → String
  | notFound => "No such file or directory (os error 2)"
  | notDirectory => "Not a directory (os error 20)"
  | isDirectory => "Is a directory (os error 21)"
  | invalidArgument => "Invalid argument (os error 22)"
  | nameTooLong => "File name too long (os error 36)"
  | tooManyLinks => "Too many levels of symbolic links (os error 40)"
  | zeroInName => "file name contained an unexpected NUL byte"
  | zeroInArgument => "nul byte found in provided data"
  | notText => "stream did not contain valid UTF-8"
  | noFreeName => "too many temporary files exist"
  | other text => text

end IoFault

end ArtifactPipeline
