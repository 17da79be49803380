/-!
# Command lines

A command line is a text for the shell. It is written from tokens, which may themselves hold several
words, with one blank between any two.
-/

namespace ArtifactPipeline

/-- A text for the shell. -/
abbrev CommandLine := String

/-- The command line of some tokens. -/
def CommandLine.ofTokens (tokens : List String) : CommandLine := String.intercalate " " tokens

end ArtifactPipeline
