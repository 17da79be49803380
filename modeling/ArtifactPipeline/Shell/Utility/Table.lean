import ArtifactPipeline.Shell.Utility.Attributes
import ArtifactPipeline.Shell.Utility.Blocks
import ArtifactPipeline.Shell.Utility.Checksums
import ArtifactPipeline.Shell.Utility.Contents
import ArtifactPipeline.Shell.Utility.Count
import ArtifactPipeline.Shell.Utility.Difference
import ArtifactPipeline.Shell.Utility.Digits
import ArtifactPipeline.Shell.Utility.Directories
import ArtifactPipeline.Shell.Utility.Dump
import ArtifactPipeline.Shell.Utility.Editing
import ArtifactPipeline.Shell.Utility.Evaluation
import ArtifactPipeline.Shell.Utility.Formatted
import ArtifactPipeline.Shell.Utility.Identity
import ArtifactPipeline.Shell.Utility.Judgement
import ArtifactPipeline.Shell.Utility.Layout
import ArtifactPipeline.Shell.Utility.Lines
import ArtifactPipeline.Shell.Utility.Links
import ArtifactPipeline.Shell.Utility.Listing
import ArtifactPipeline.Shell.Utility.Matching
import ArtifactPipeline.Shell.Utility.Numbers
import ArtifactPipeline.Shell.Utility.Pauses
import ArtifactPipeline.Shell.Utility.Sets
import ArtifactPipeline.Shell.Utility.Sort
import ArtifactPipeline.Shell.Utility.Transfer

/-!
# The programs that every machine has

The programs are found by their names in two directories. Some of them carry out other programs, and
only their names are known here.

* `find?` knows the programs that carry out no others.
-/

namespace ArtifactPipeline.Shell.Utility

/-- Programs that write what files hold, or parts of it. -/
def readers : List (String × Utility) :=
  [("base32", base32), ("base64", base64), ("cat", cat), ("cksum", cksum), ("cmp", cmp), ("comm", comm),
    ("cut", cut), ("egrep", egrep), ("expand", expand), ("fgrep", fgrep), ("fold", fold), ("grep", grep),
    ("head", head), ("join", join), ("md5sum", digestProgram .md5), ("nl", nl), ("od", od),
    ("paste", paste), ("rev", rev), ("sed", sed), ("sha1sum", digestProgram .sha1), ("sha224sum", digestProgram .sha224),
    ("sha256sum", digestProgram .sha256), ("sha384sum", digestProgram .sha384),
    ("sha512sum", digestProgram .sha512), ("sort", sort), ("sum", sum), ("tac", tac), ("tail", tail),
    ("tee", tee), ("tr", tr), ("unexpand", unexpand), ("uniq", uniq), ("wc", wc)]

/-- Programs that change files, or tell of them. -/
def filers : List (String × Utility) :=
  [("chgrp", chgrp), ("chmod", chmod), ("chown", chown), ("cp", cp), ("dd", dd), ("du", du),
    ("link", link), ("ln", ln), ("ls", ls), ("mkdir", mkdir), ("mktemp", mktemp), ("mv", mv),
    ("readlink", readlink), ("realpath", realpath), ("rm", rm), ("rmdir", rmdir), ("stat", stat),
    ("sync", sync), ("touch", touch), ("truncate", truncate), ("unlink", unlink)]

/-- Programs that need no files. -/
def tellers : List (String × Utility) :=
  [("arch", arch), ("basename", basename), ("dirname", dirname), ("echo", echo), ("expr", expr),
    ("factor", factor), ("false", failing), ("groups", userGroups), ("hostname", hostname),
    ("id", userNumbers), ("logname", logname), ("nproc", nproc), ("printenv", printenv),
    ("printf", printf), ("pwd", printDirectory), ("seq", seq), ("sleep", sleep), ("true", succeed),
    ("tty", tty), ("uname", uname), ("whoami", whoami), ("yes", yes)]

/-- The programs that carry out others. -/
def carriers : List String :=
  ["bash", "dash", "env", "nice", "nohup", "setsid", "sh", "stdbuf", "timeout", "which", "xargs"]

/-- The names of the program that asks about files, among which are the programs themselves. -/
def judges : List String := ["test", "["]

/-- The names of all programs. -/
def programs : List String :=
  (readers ++ filers ++ tellers).map Prod.fst ++ judges ++ carriers

/-- The programs that carry out no others. -/
def table : List (String × Utility) :=
  readers ++ filers ++ tellers ++ judges.map fun name => (name, judge programs (name == "["))

/-- A program that carries out no others. -/
def find? (name : String) : Option Utility := table.lookup name

end ArtifactPipeline.Shell.Utility
