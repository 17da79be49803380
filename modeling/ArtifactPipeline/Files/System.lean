import ArtifactPipeline.Files.Contents
import ArtifactPipeline.Files.Fault
import ArtifactPipeline.Files.Path
import ArtifactPipeline.Files.Permission
import ArtifactPipeline.Text.Search
import ArtifactPipeline.Text.Utf8

/-!
# The file system

A file system gives names to nodes. A *location* is the list of names on the way from the root to
a node; a file node refers to its contents by a number, so that a file that has been opened can be
read after its name is gone, and a reader sees what others write to it. That every number in use
has contents is part of the type (`FileSystem.filed`).

All changes are made of these: binding a location to a node without contents (`bindPlain`), adding a
file (`addFile`, `addContents`, `addName`), replacing the contents of a file or writing more at their
end (`overwrite`, `extend`), and dropping locations (`forget`). What they do to `node?` and
`contentsOf` is stated beside them; the operations on path names find a location by `resolve` and then
use these.
-/

namespace ArtifactPipeline

/-- The names on the way from the root. -/
abbrev Location := List String

/-- What a location holds. -/
inductive Node where
  | directory
  /-- A file and the number of its contents. -/
  | file (id : Nat)
  /-- A file that is always empty and swallows what is written to it. -/
  | sink
  /-- A file of endless zeros that swallows what is written to it. -/
  | zeros
  /-- A file of endless zeros that takes nothing in. -/
  | full
  /-- Another path name, which is followed from where the link stands. -/
  | link (target : String)
deriving Repr, DecidableEq

/-- Named nodes and the contents of files. -/
structure FileSystem where
  nodes : List (Location × Node)
  contents : List Contents
  /-- Where relative names start. -/
  workingDirectory : Location
  /-- Who may do what with the file with a number, where it is not as usual. -/
  modes : List (Nat × Nat) := []
  /-- Who may do what with a directory, where it is not as usual. -/
  directoryModes : List (Location × Nat) := []
  /-- What others may not do with new files. -/
  umask : Nat := 18
  /-- Every file node refers to contents. -/
  filed : ∀ entry ∈ nodes, ∀ id, entry.2 = .file id → id < contents.length

namespace FileSystem

variable (fs : FileSystem)

/-- The file system that holds the root directory only. -/
def empty : FileSystem where
  nodes := []
  contents := []
  workingDirectory := []
  filed := by simp

instance : Inhabited FileSystem := ⟨empty⟩

/-- The node at a location. The root is a directory. -/
def node? (l : Location) : Option Node :=
  if l = [] then some .directory else fs.nodes.lookup l

/-- The octets of the file with a number. -/
def contentsOf (id : Nat) : Bytes :=
  match fs.contents[id]? with
  | some c => c.bytes
  | none => []

/-- The number of octets of the file with a number. -/
def sizeOf (id : Nat) : Nat :=
  match fs.contents[id]? with
  | some c => c.size
  | none => 0

theorem mem_of_lookup {l : Location} {n : Node} {nodes : List (Location × Node)}
    (h : nodes.lookup l = some n) : (l, n) ∈ nodes := by
  induction nodes with
  | nil => simp at h
  | cons entry nodes ih =>
    obtain ⟨k, m⟩ := entry
    rw [List.lookup_cons] at h
    split at h
    · next same =>
      obtain rfl := Option.some.inj h
      simp [eq_of_beq same]
    · exact List.mem_cons_of_mem _ (ih h)

/-- A file that is found has contents. -/
theorem id_lt_of_node? {l : Location} {id : Nat} (h : fs.node? l = some (.file id)) :
    id < fs.contents.length := by
  rw [node?] at h
  split at h
  · simp at h
  · exact fs.filed _ (mem_of_lookup h) id rfl

/-! ### The changes -/

/-- Bind a location to a node that has no contents. -/
def bindPlain (l : Location) (n : Node) (plain : ∀ id, n ≠ .file id) : FileSystem :=
  { fs with
    nodes := (l, n) :: fs.nodes.filter (·.1 != l)
    filed := by
      intro entry mem id eq
      rcases List.mem_cons.1 mem with rfl | mem
      · exact absurd eq (plain id)
      · exact fs.filed entry (List.mem_filter.1 mem).1 id eq }

/-- Who may usually do what with a directory: all may read it and enter it, and its owner may change
it. -/
def usualDirectoryMode : Nat := 493

/-- Say who may do what with the directory at a location. -/
def setDirectoryMode (l : Location) (mode : Nat) : FileSystem :=
  let others := fs.directoryModes.filter (·.1 != l)
  { fs with
    directoryModes := if mode = usualDirectoryMode then others else (l, mode) :: others }

/-- Who may do what with the directory at a location. -/
def directoryModeOf (l : Location) : Nat :=
  (fs.directoryModes.lookup l).getD usualDirectoryMode

/-- Bind a location to a directory. -/
def addDirectory (l : Location) : FileSystem :=
  (fs.bindPlain l .directory (by simp)).setDirectoryMode l (Permission.without 511 fs.umask)

/-- Bind a location to a link. -/
def bindLink (l : Location) (text : String) : FileSystem := fs.bindPlain l (.link text) (by simp)

/-- Who may usually do what with a file: all may read it, and its owner may write it. -/
def usualMode : Nat := 420

/-- Who may do what with a new file. -/
def newMode : Nat := Permission.without 438 fs.umask

/-- Who may do what with the file with a number. -/
def modeOf (id : Nat) : Nat := (fs.modes.lookup id).getD usualMode

/-- Whether somebody may carry out the file with a number. -/
def isExecutable (id : Nat) : Bool := Nat.land (fs.modeOf id) 73 != 0

/-- Say who may do what with the file with a number. -/
def setMode (id mode : Nat) : FileSystem :=
  { fs with modes := (id, mode) :: fs.modes.filter (·.1 != id) }

/-- Bind a location to a new file. -/
def addFile (l : Location) (bytes : Bytes) : FileSystem :=
  { fs with
    nodes := (l, .file fs.contents.length) :: fs.nodes.filter (·.1 != l)
    contents := fs.contents ++ [.ofBytes bytes]
    modes :=
      if fs.newMode = usualMode then fs.modes else (fs.contents.length, fs.newMode) :: fs.modes
    filed := by
      intro entry mem id eq
      rcases List.mem_cons.1 mem with rfl | mem
      · obtain rfl := Node.file.inj eq
        simp
      · have := fs.filed entry (List.mem_filter.1 mem).1 id eq
        simp
        omega }

/-- Contents that no location refers to, for a new file without a name. -/
def addContents (bytes : Bytes) : FileSystem :=
  { fs with
    contents := fs.contents ++ [.ofBytes bytes]
    filed := by
      intro entry mem id eq
      have := fs.filed entry mem id eq
      simp
      omega }

/-- Bind a location to a file that is there already. -/
def addName (l : Location) (id : Nat) : FileSystem :=
  if h : id < fs.contents.length then
    { fs with
      nodes := (l, .file id) :: fs.nodes.filter (·.1 != l)
      filed := by
        intro entry mem other eq
        rcases List.mem_cons.1 mem with rfl | mem
        · obtain rfl := Node.file.inj eq
          exact h
        · exact fs.filed entry (List.mem_filter.1 mem).1 other eq }
  else fs

/-- Replace the octets of a file. -/
def overwrite (id : Nat) (bytes : Bytes) : FileSystem :=
  { fs with
    contents := fs.contents.set id (.ofBytes bytes)
    filed := by
      intro entry mem other eq
      simpa using fs.filed entry mem other eq }

/-- Write more octets at the end of a file. -/
def extend (id : Nat) (bytes : Bytes) : FileSystem :=
  { fs with
    contents := fs.contents.modify id (·.add bytes)
    filed := by
      intro entry mem other eq
      simpa using fs.filed entry mem other eq }

/-- The location of something after a directory above it, or itself, has got another name. -/
def movedLocation (source target l : Location) : Location :=
  match Text.restAfter source l with
  | some rest => target ++ rest
  | none => l

/-- Give what is at a location, and all below it, another name. -/
def move (source target : Location) : FileSystem :=
  { fs with
    nodes := fs.nodes.map fun entry => (movedLocation source target entry.1, entry.2)
    directoryModes := fs.directoryModes.map fun entry => (movedLocation source target entry.1, entry.2)
    workingDirectory := movedLocation source target fs.workingDirectory
    filed := by
      intro entry mem id eq
      obtain ⟨old, there, rfl⟩ := List.mem_map.1 mem
      exact fs.filed old there id eq }

/-- Drop the locations with a property. -/
def forget (gone : Location → Bool) : FileSystem :=
  { fs with
    nodes := fs.nodes.filter fun entry => !gone entry.1
    filed := by
      intro entry mem id eq
      exact fs.filed entry (List.mem_filter.1 mem).1 id eq }

theorem lookup_filter_ne {l k : Location} (nodes : List (Location × Node)) (h : l ≠ k) :
    (nodes.filter (·.1 != k)).lookup l = nodes.lookup l := by
  induction nodes with
  | nil => rfl
  | cons entry nodes ih =>
    obtain ⟨j, m⟩ := entry
    by_cases hj : j = k
    · subst hj
      have hl : (l == j) = false := by simpa using h
      simp [List.lookup_cons, hl, ih]
    · have keep : ((j, m).1 != k) = true := by simpa using hj
      rw [List.filter_cons, if_pos keep, List.lookup_cons, List.lookup_cons, ih]

@[simp] theorem node?_bindPlain (l k : Location) (n : Node) (plain : ∀ id, n ≠ .file id)
    (hk : k ≠ []) :
    (fs.bindPlain k n plain).node? l = if l = k then some n else fs.node? l := by
  by_cases hl : l = []
  · subst hl
    have : ¬ [] = k := fun h => hk h.symm
    simp [node?, this]
  · by_cases hlk : l = k
    · subst hlk
      simp [node?, hl, bindPlain]
    · have hb : (l == k) = false := by simpa using hlk
      simp [node?, hl, bindPlain, List.lookup_cons, hb, hlk, lookup_filter_ne _ hlk]

@[simp] theorem node?_addFile (l k : Location) (bytes : Bytes) (hk : k ≠ []) :
    (fs.addFile k bytes).node? l =
      if l = k then some (.file fs.contents.length) else fs.node? l := by
  by_cases hl : l = []
  · subst hl
    have : ¬ [] = k := fun h => hk h.symm
    simp [node?, this]
  · by_cases hlk : l = k
    · subst hlk
      simp [node?, hl, addFile]
    · have hb : (l == k) = false := by simpa using hlk
      simp [node?, hl, addFile, List.lookup_cons, hb, hlk, lookup_filter_ne _ hlk]

@[simp] theorem node?_overwrite (l : Location) (id : Nat) (bytes : Bytes) :
    (fs.overwrite id bytes).node? l = fs.node? l := rfl

@[simp] theorem contentsOf_bindPlain (k : Location) (n : Node) (plain : ∀ id, n ≠ .file id)
    (id : Nat) : (fs.bindPlain k n plain).contentsOf id = fs.contentsOf id := rfl

@[simp] theorem node?_extend (l : Location) (id : Nat) (bytes : Bytes) :
    (fs.extend id bytes).node? l = fs.node? l := rfl

theorem contentsOf_addFile (k : Location) (bytes : Bytes) (id : Nat) :
    (fs.addFile k bytes).contentsOf id =
      if id = fs.contents.length then bytes else fs.contentsOf id := by
  simp only [contentsOf, addFile]
  by_cases h : id = fs.contents.length
  · subst h
    simp
  · rw [if_neg h]
    by_cases hlt : id < fs.contents.length
    · rw [List.getElem?_append_left hlt]
    · rw [List.getElem?_append_right (by omega), List.getElem?_eq_none (by simp; omega),
        List.getElem?_eq_none (by omega)]

theorem contentsOf_overwrite (id other : Nat) (bytes : Bytes) :
    (fs.overwrite id bytes).contentsOf other =
      if other = id ∧ id < fs.contents.length then bytes else fs.contentsOf other := by
  simp only [contentsOf, overwrite, List.getElem?_set]
  by_cases h : other = id
  · subst h
    by_cases hlt : other < fs.contents.length
    · simp [hlt]
    · simp [hlt]
  · have h' : ¬ id = other := fun e => h e.symm
    simp [h, h']

theorem contentsOf_extend (id other : Nat) (bytes : Bytes) :
    (fs.extend id bytes).contentsOf other =
      if other = id ∧ id < fs.contents.length then fs.contentsOf id ++ bytes
      else fs.contentsOf other := by
  simp only [contentsOf, extend, List.getElem?_modify]
  by_cases h : other = id
  · subst h
    by_cases hlt : other < fs.contents.length
    · simp [hlt]
    · simp [hlt]
  · have h' : ¬ id = other := fun e => h e.symm
    simp [h, h']

/-! ### From path names to locations -/

/-- The longest name of one part, in octets. -/
def partLimit : Nat := 255

/-- The longest path name, in octets. -/
def pathLimit : Nat := 4095

/-- The directory at a location, or the one to which a link there leads. -/
def directoryAt (follow : Location → String → Except IoFault Location) (here : Location) :
    Except IoFault Location :=
  match fs.node? here with
  | none => .error .notFound
  | some .directory => .ok here
  | some (.link target) => do
    let l ← follow here.dropLast target
    match fs.node? l with
    | none => .error .notFound
    | some .directory => .ok l
    | some _ => .error .notDirectory
  | some _ => .error .notDirectory

/-- Follow the parts of a path name from a location. Every part but the last must lead to a
directory; the last may lead to nothing. -/
def walk (follow : Location → String → Except IoFault Location) :
    Location → List String → Except IoFault Location
  | here, [] => .ok here
  | here, part :: rest => do
    let here ← fs.directoryAt follow here
    if part = "" ∨ part = "." then walk follow here rest
    else if part = ".." then walk follow here.dropLast rest
    else if partLimit < part.utf8ByteSize then .error .nameTooLong
    else walk follow (here ++ [part]) rest

/-- Where the way of a path name starts. -/
def startOf (path : String) (here : Location) : Location :=
  if Path.isAbsolute path then [] else here

/-- Follow a link in a directory, and the links to which it leads, up to a number of them. -/
def follow : Nat → Location → String → Except IoFault Location
  | 0, _, _ => .error .tooManyLinks
  | n + 1, here, target => do
    let l ← fs.walk (follow n) (startOf target here) (Path.parts target)
    match fs.node? l with
    | some (.link next) => follow n l.dropLast next
    | _ => .ok l

/-- The most links that are followed one after the other. -/
def linkLimit : Nat := 40

/-- The location that a path name leads to, which may hold a link. -/
def resolve (path : String) : Except IoFault Location :=
  if path.isEmpty then .error .notFound
  else if path.toList.contains '\x00' then .error .zeroInName
  else if pathLimit < path.utf8ByteSize then .error .nameTooLong
  else fs.walk (fs.follow linkLimit) (startOf path fs.workingDirectory) (Path.parts path)

/-- The location that a path name leads to after a link at its end. -/
def locate (path : String) : Except IoFault Location := do
  let l ← fs.resolve path
  match fs.node? l with
  | some (.link target) => fs.follow linkLimit l.dropLast target
  | _ => .ok l

/-- A location that holds something. -/
def withNode (l : Location) : Except IoFault (Location × Node) :=
  match fs.node? l with
  | none => .error .notFound
  | some n => .ok (l, n)

/-- The location and the node that a path name leads to. -/
def find (path : String) : Except IoFault (Location × Node) := do fs.withNode (← fs.locate path)

/-- The same, where a link at the end of the name is not followed. -/
def findLink (path : String) : Except IoFault (Location × Node) := do
  fs.withNode (← fs.resolve path)

/-- Whether a path name leads to something. -/
def has (path : String) : Bool := (fs.find path).toOption.isSome

/-- Whether a path name leads to a directory. -/
def hasDirectory (path : String) : Bool :=
  (fs.find path).toOption.any fun (_, n) => n == .directory

/-! ### Reading -/

/-- The octets of a node that has been opened. -/
def readNode : Node → Except IoFault Bytes
  | .directory => .error .isDirectory
  | .file id => .ok (fs.contentsOf id)
  | .sink | .zeros | .full | .link _ => .ok []

/-- The octets of the file that a path name leads to. -/
def read (path : String) : Except IoFault Bytes :=
  match fs.find path with
  | .error fault => .error fault
  | .ok (_, n) => fs.readNode n

/-- The names in a directory and what they lead to, in ascending order. -/
def list (l : Location) : List (String × Node) :=
  let below := fs.nodes.filterMap fun (k, n) =>
    match Text.restAfter l k with
    | some [name] => some (name, n)
    | _ => none
  below.mergeSort fun a b => a.1 ≤ b.1

/-! ### Writing -/

/-- The location where a path name may put a file. -/
def place (path : String) : Except IoFault Location :=
  if Path.endsWithSlash path then
    let named := Path.withoutEndSlashes path
    match if named.isEmpty then .ok [] else fs.locate named with
    | .error fault => .error fault
    | .ok _ => .error .isDirectory
  else fs.locate path

/-- Open a file for writing, with or without its old contents; a missing one is made. -/
def openToWrite (keep : Bool) (path : String) : Except IoFault (Node × FileSystem) :=
  match fs.place path with
  | .error fault => .error fault
  | .ok l =>
    match fs.node? l with
    | some .directory => .error .isDirectory
    | some (.file id) => .ok (.file id, if keep then fs else fs.overwrite id [])
    | some n => .ok (n, fs)
    | none => .ok (.file fs.contents.length, fs.addFile l [])

/-- Add octets to the end of a node that has been opened. -/
def append (n : Node) (bytes : Bytes) : FileSystem :=
  match n with
  | .file id => fs.extend id bytes
  | _ => fs

/-- Give the file that a path name leads to these octets; a missing one is made. -/
def write (path : String) (bytes : Bytes) : Except IoFault FileSystem :=
  (fs.openToWrite false path).map fun (n, fs) => fs.append n bytes

/-- Remove what is in a directory, and then the directory under its name. That a name which led
through the directory itself is gone by then is no fault; a name that ends in a part for "here"
cannot be removed. -/
def removeTree (path : String) : Except IoFault Unit × FileSystem :=
  match fs.findLink path with
  | .error fault => (.error fault, fs)
  | .ok (l, .link _) => (.ok (), fs.forget (· == l))
  | .ok (l, .directory) =>
    let emptied := fs.forget fun k => l.isPrefixOf k && k != l
    if !emptied.has path then (.ok (), emptied)
    else if Path.endsHere path then (.error .invalidArgument, emptied)
    else (.ok (), emptied.forget (· == l))
  | .ok _ => (.error .notDirectory, fs)

/-- Add a directory and the directories on the way to it. -/
def addDirectories (l : Location) : FileSystem :=
  (List.range l.length).foldl (fun fs i =>
    let k := l.take (i + 1)
    if fs.node? k = none then fs.addDirectory k else fs) fs

/-- The directories that every machine has, and the files that are no files. -/
def standard : FileSystem :=
  let directories := [["bin"], ["dev"], ["etc"], ["home"], ["root"], ["tmp"], ["usr", "bin"]]
  let plain := directories.foldl addDirectories empty
  ((((plain.bindPlain ["dev", "null"] .sink (by simp)).bindPlain ["dev", "zero"] .zeros
    (by simp)).bindPlain ["dev", "full"] .full (by simp)).bindPlain ["dev", "random"] .zeros
    (by simp)).bindPlain ["dev", "urandom"] .zeros (by simp)

/-! ### Temporary names -/

/-- The directory that holds temporary files. -/
def temporaryDirectory : Location := ["tmp"]

/-- The temporary name with a number: a beginning and the digits, at least six. -/
def temporaryName (beginning : String) (n : Nat) : String :=
  let digits := Nat.toDigits 10 n
  beginning ++ String.ofList (List.replicate (6 - digits.length) '0' ++ digits)

/-- How many temporary names there are: as many as six letters and digits can spell. -/
def temporaryNames : Nat := 56800235584

/-- A temporary location that is not in use. -/
def freshLocation (beginning : String) : Except IoFault Location :=
  if fs.node? temporaryDirectory ≠ some .directory then .error .notFound
  else
    let candidates := (List.range (min (fs.nodes.length + 1) temporaryNames)).map fun n =>
      temporaryDirectory ++ [temporaryName beginning n]
    match candidates.find? fun l => fs.node? l == none with
    | some l => .ok l
    | none => .error .noFreeName

/-- The path name of a location. -/
def pathOf (l : Location) : String := "/" ++ String.intercalate "/" l

/-- A fresh location holds nothing. -/
theorem node?_of_freshLocation {beginning : String} {l : Location}
    (h : fs.freshLocation beginning = .ok l) : fs.node? l = none ∧ l ≠ [] := by
  rw [freshLocation] at h
  split at h
  · simp at h
  · simp only at h
    split at h
    · next found =>
      obtain rfl := Except.ok.inj h
      have free := List.find?_some found
      have mem := List.mem_of_find?_eq_some found
      obtain ⟨n, -, rfl⟩ := List.mem_map.1 mem
      exact ⟨by simpa using free, by simp⟩
    · simp at h

end FileSystem

end ArtifactPipeline
