import ArtifactPipeline.Text.Quoted

/-!
# Targets and sessions

A `Target` says how to reach a remote host. A `Session` is an open connection, known by its number,
together with the workspace that was provisioned on the remote host, if one was.
-/

namespace ArtifactPipeline.Remote

/-- How to reach a remote host. -/
structure Target where
  host : String := ""
  /-- The user to log in as, if not the usual one. -/
  user : Option String := none
  port : Nat := 22
  /-- The file with the private key, if not the usual one. -/
  keyPath : Option String := none
  /-- Seconds to wait for an answer. -/
  connectTimeout : Nat := 30
  /-- Seconds between signs of life. -/
  aliveInterval : Nat := 15
  /-- Signs of life that may be missed. -/
  aliveCount : Nat := 2
deriving Repr, DecidableEq

/-- The host, with the user to log in as. -/
def Target.destination (t : Target) : String :=
  match t.user with
  | some user => user ++ "@" ++ t.host
  | none => t.host

/-- An open connection and the workspace behind it. -/
structure Session where
  /-- The number of the connection. -/
  connection : Nat
  /-- The directory provisioned on the remote host. -/
  workspace : Option String := none
deriving Repr, DecidableEq

/-- A session, shown for inspection. -/
def Session.inspect (s : Session) : String :=
  Text.RecordText.render
    ⟨"RemoteSession", [("remote_dir", Text.quotedOption s.workspace)], true⟩

end ArtifactPipeline.Remote
