/-!
# The journal

What the program does is written down as *events* in the order in which they happen. An event has a
level of importance, a message and named texts; some events carry the name of the channel they
report on. Levels are ordered from the most severe to the most detailed (`Level.rank`), and a reader
who asks for a level sees the events at that level and the more severe ones (`Journal.upTo`).
-/

namespace ArtifactPipeline

/-- The importance of an event. -/
inductive Level where
  | error
  | warn
  | info
  | debug
  | trace
deriving Repr, DecidableEq, Inhabited

namespace Level

/-- Every level, the most severe first. -/
def all : List Level := [error, warn, info, debug, trace]

/-- The name of a level. -/
def name : Level → String
  | error => "ERROR"
  | warn => "WARN"
  | info => "INFO"
  | debug => "DEBUG"
  | trace => "TRACE"

/-- The level with a name. -/
def ofName? (s : String) : Option Level := all.find? fun l => l.name == s

/-- How detailed a level is. -/
def rank : Level → Nat
  | error => 0
  | warn => 1
  | info => 2
  | debug => 3
  | trace => 4

instance : LE Level := ⟨fun a b => a.rank ≤ b.rank⟩

instance (a b : Level) : Decidable (a ≤ b) := inferInstanceAs (Decidable (a.rank ≤ b.rank))

/-- The level that a number of requests for more detail asks for. -/
def ofVerbosity : Nat → Level
  | 0 => warn
  | 1 => info
  | _ => debug

@[simp] theorem ofName?_name (l : Level) : ofName? l.name = some l := by cases l <;> decide

end Level

/-- Something worth writing down. -/
structure Event where
  level : Level
  message : String
  fields : List (String × String) := []
  /-- The channel that the event reports on, if it names one. -/
  channel : Option String := none
deriving Repr, DecidableEq

/-- Events in the order in which they happened. -/
abbrev Journal := List Event

/-- The events that a reader of a level sees. -/
def Journal.upTo (level : Level) (journal : Journal) : Journal :=
  journal.filter fun event => event.level ≤ level

end ArtifactPipeline
