import ArtifactPipeline.Toml.Moment
import ArtifactPipeline.Config.Value

/-!
# Tables in the making

The entries of a document are filled in one after the other, and every key may be given once. A
table remembers how it came about, because that decides what may still be added to it:

* a table that only stands on the way to another one may get a heading of its own later;
* a table that was made by the dots of a key may get more dotted keys, but no heading;
* a value, inline tables included, is finished.

A name may also hold a list of tables; what is added under the name goes into the latest one.

The entries of a table keep the order in which their names first came up, and a heading of its own
moves a table behind its neighbours. The order shows in one place: a table below the document whose
first entry has the name `momentKey` stands for the moment that this entry spells.
-/

namespace ArtifactPipeline.Toml

open ArtifactPipeline.Config (Value Entries)

/-- A value as a document spells it. -/
inductive Spelled where
  /-- A text between quotes. -/
  | quoted (s : String)
  /-- Anything else. -/
  | plain (v : Value)

/-- What is spelled. -/
def Spelled.value : Spelled → Value
  | .quoted s => .string s
  | .plain v => v

/-- The name of an entry that spells a moment in place of its table. -/
def momentKey : String := "$__toml_private_datetime"

/-- What a name holds while the document is read. -/
inductive Draft where
  /-- A finished value. -/
  | done (v : Spelled)
  /-- A table. `implicit`: it has no heading of its own. `dotted`: the dots of a key made it. -/
  | table (implicit dotted : Bool) (entries : List (String × Draft))
  /-- A list of tables, the latest first. -/
  | tables (latestFirst : List (List (String × Draft)))

/-- The entries of a table in the making. -/
abbrev Drafts := List (String × Draft)

namespace Drafts

/-- What a name holds. -/
def lookup (key : String) : Drafts → Option Draft
  | [] => none
  | (k, d) :: rest => if key = k then some d else lookup key rest

/-- Let a name hold something, in place of what it held. -/
def put (key : String) (draft : Draft) : Drafts → Drafts
  | [] => [(key, draft)]
  | (k, d) :: rest => if key = k then (key, draft) :: rest else (k, d) :: put key draft rest

/-- The entries without a name. -/
def erase (key : String) (drafts : Drafts) : Drafts :=
  drafts.filter fun entry => entry.1 != key

/-- Add an entry under a dotted key: `path` are the parts before the last. A key may be given once,
and the dots lead only through tables without a heading. The last table on the way must itself be
made by dots. -/
def addEntry (key : String) (v : Spelled) : (path : List String) → Drafts → Option Drafts
  | [], drafts =>
    match lookup key drafts with
    | some _ => none
    | none => some (put key (.done v) drafts)
  | name :: path, drafts =>
    match lookup name drafts with
    | none => (addEntry key v path []).map fun sub => put name (.table true true sub) drafts
    | some (.table true dotted sub) =>
      if path.isEmpty && !dotted then none
      else (addEntry key v path sub).map fun sub => put name (.table true dotted sub) drafts
    | some (.tables (latest :: earlier)) =>
      if path.isEmpty then none
      else (addEntry key v path latest).map fun latest =>
        put name (.tables (latest :: earlier)) drafts
    | _ => none

/-- Change the table that a heading leads to; tables on the way are made where they are missing. -/
def within (change : Drafts → Option Drafts) : (path : List String) → Drafts → Option Drafts
  | [], drafts => change drafts
  | name :: path, drafts =>
    match lookup name drafts with
    | none => (within change path []).map fun sub => put name (.table true false sub) drafts
    | some (.table implicit dotted sub) =>
      (within change path sub).map fun sub => put name (.table implicit dotted sub) drafts
    | some (.tables (latest :: earlier)) =>
      (within change path latest).map fun latest => put name (.tables (latest :: earlier)) drafts
    | _ => none

/-- Give a table its heading, once; it goes behind its neighbours. -/
def openTable (key : String) (drafts : Drafts) : Option Drafts :=
  match lookup key drafts with
  | none => some (put key (.table false false []) drafts)
  | some (.table true false sub) => some (put key (.table false false sub) (erase key drafts))
  | _ => none

/-- Begin one more table of a list. -/
def openElement (key : String) (drafts : Drafts) : Option Drafts :=
  match lookup key drafts with
  | none => some (put key (.tables [[]]) drafts)
  | some (.tables latestFirst) => some (put key (.tables ([] :: latestFirst)) drafts)
  | _ => none

end Drafts

/-- The moment that a table stands for, if its first entry has the name for that: nothing inside when
the entry spells none. -/
def momentOf? : Drafts → Option (Option String)
  | (key, draft) :: _ =>
    if key = momentKey then
      match draft with
      | .done (.quoted s) => some (momentOfText? s)
      | _ => some none
    else none
  | [] => none

mutual

/-- The finished form of what a name holds. Nothing when a table in it should spell a moment and
does not. -/
def Draft.value? : Draft → Option Value
  | .done v => some v.value
  | .table _ _ entries =>
    match momentOf? entries with
    | some moment => moment.map .string
    | none => (finishEntries? entries).map .object
  | .tables latestFirst => (finishTables? latestFirst []).map .array

/-- The finished form of entries, in the order of their keys. -/
def finishEntries? : List (String × Draft) → Option Entries
  | [] => some []
  | (key, draft) :: rest => do
    let v ← draft.value?
    let others ← finishEntries? rest
    pure (Entries.insert key v others)

/-- The finished form of a list of tables, put before those after it. -/
def finishTables? : List (List (String × Draft)) → List Value → Option (List Value)
  | [], after => some after
  | latest :: earlier, after => do
    let v ←
      match momentOf? latest with
      | some moment => moment.map .string
      | none => (finishEntries? latest).map .object
    finishTables? earlier (v :: after)

end

end ArtifactPipeline.Toml
