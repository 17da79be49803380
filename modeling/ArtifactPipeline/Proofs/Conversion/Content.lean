import ArtifactPipeline.Conversion
import ArtifactPipeline.Proofs.Files.Growth
import ArtifactPipeline.Proofs.Text.Utf8

/-!
# Conversions keep the content

The *content* of an artifact is what somebody would read who has it (`Source.content?`): the octets
of the file that a path names, what is left of a stream, the octets of a text. A hop hands the
content on as it is, and does nothing to the file system but add the temporary file into which a
stream is put:

* `Origin.yields_iff` : reading a stream in parts, of whatever size, yields what is left of it;
* `convert_cases` says what one conversion does, from which follow that it keeps the content
  (`content_convert`), that it only adds files (`grown_convert`), and that it adds none when it
  fails (`same_of_failed`), although a stream that breaks off has filled part of a temporary file;
* `converts_iff` says when a conversion succeeds;
* `conversions_keep_content` puts these together along any list of kinds.
-/

namespace ArtifactPipeline

open FileSystem

/-! ### Reading in parts -/

namespace Origin

variable {fs : FileSystem} {limit : Nat} {o o' : Origin} {bytes first : Bytes} {fault : IoFault}

/-- **A stream is read to its end**, or to the fault behind it, in parts of at most `limit`
octets. -/
inductive Yields (fs : FileSystem) (limit : Nat) : Origin → Bytes → Option IoFault → Prop
  /-- An empty part is the end. -/
  | ended {o o' : Origin} (hpart : o.part fs limit = (.ok [], o')) : Yields fs limit o [] none
  /-- A fault cuts the stream off. -/
  | broken {o o' : Origin} {fault : IoFault} (hpart : o.part fs limit = (.error fault, o')) :
      Yields fs limit o [] (some fault)
  /-- A part comes, and then the rest. -/
  | more {o o' : Origin} {first rest : Bytes} {fault : Option IoFault}
      (hpart : o.part fs limit = (.ok first, o')) (hne : first ≠ [])
      (hrest : Yields fs limit o' rest fault) : Yields fs limit o (first ++ rest) fault

/-- A part is the first of what is left, and the origin after it has the rest. -/
theorem readable_of_part (hpart : o.part fs limit = (.ok first, o')) :
    o.readable fs = (first ++ (o'.readable fs).1, (o'.readable fs).2) := by
  unfold part at hpart
  split at hpart
  · cases hpart
  · split at hpart
    · obtain ⟨hfirst, rfl⟩ := Prod.mk.inj hpart
      obtain rfl := Except.ok.inj hfirst
      rfl
    · cases hpart
  · obtain ⟨hfirst, rfl⟩ := Prod.mk.inj hpart
    obtain rfl := Except.ok.inj hfirst
    simp only [readable, List.take_append_drop]
  · split at hpart
    · next bytes hread =>
      obtain ⟨hfirst, rfl⟩ := Prod.mk.inj hpart
      obtain rfl := Except.ok.inj hfirst
      simp only [readable, hread, ← List.drop_drop]
      rw [List.prefix_iff_eq_append.1 (List.take_prefix limit _)]
    · cases hpart

/-- Nothing is left where nothing comes. -/
theorem readable_of_part_nil (hlimit : 0 < limit) (hpart : o.part fs limit = (.ok [], o')) :
    o.readable fs = ([], none) := by
  unfold part at hpart
  split at hpart
  · cases hpart
  · rw [if_neg (Nat.pos_iff_ne_zero.1 hlimit)] at hpart
    cases hpart
  · next rest fault hbroken =>
    have htake := Except.ok.inj (Prod.mk.inj hpart).1
    obtain rfl := (List.take_eq_nil_iff.1 htake).resolve_left (Nat.ne_of_gt hlimit)
    cases fault with
    | none => rfl
    | some fault => exact absurd rfl (hbroken fault rfl)
  · split at hpart
    · next bytes hread =>
      have htake := Except.ok.inj (Prod.mk.inj hpart).1
      have hdrop := (List.take_eq_nil_iff.1 htake).resolve_left (Nat.ne_of_gt hlimit)
      simp only [readable, hread, hdrop]
    · cases hpart

/-- Nothing is left but the fault where a fault comes. -/
theorem readable_of_part_error (hpart : o.part fs limit = (.error fault, o')) :
    o.readable fs = ([], some fault) := by
  unfold part at hpart
  split at hpart
  · obtain ⟨hfault, rfl⟩ := Prod.mk.inj hpart
    obtain rfl := Except.error.inj hfault
    rfl
  · split at hpart
    · cases hpart
    · obtain ⟨hfault, rfl⟩ := Prod.mk.inj hpart
      obtain rfl := Except.error.inj hfault
      rfl
  · cases hpart
  · split at hpart
    · cases hpart
    · next hread =>
      obtain ⟨hfault, rfl⟩ := Prod.mk.inj hpart
      obtain rfl := Except.error.inj hfault
      simp only [readable, hread]

/-- **Reading in parts yields what is left**, however large the parts may be. -/
theorem yields_iff (hlimit : 0 < limit) {fault : Option IoFault} :
    Yields fs limit o bytes fault ↔ o.readable fs = (bytes, fault) := by
  constructor
  · intro h
    induction h with
    | ended hpart => exact readable_of_part_nil hlimit hpart
    | broken hpart => exact readable_of_part_error hpart
    | more hpart _ _ ih => rw [readable_of_part hpart, ih]
  · -- every part takes away from what is left
    intro h
    induction hlength : bytes.length using Nat.strongRecOn generalizing o bytes with
    | _ n ih =>
      rcases hpart : o.part fs limit with ⟨outcome, o'⟩
      cases outcome with
      | error cause =>
        obtain ⟨rfl, rfl⟩ := Prod.mk.inj ((readable_of_part_error hpart).symm.trans h)
        exact .broken hpart
      | ok first =>
        by_cases hfirst : first = []
        · subst hfirst
          obtain ⟨rfl, rfl⟩ := Prod.mk.inj ((readable_of_part_nil hlimit hpart).symm.trans h)
          exact .ended hpart
        · obtain ⟨rfl, rfl⟩ := Prod.mk.inj ((readable_of_part hpart).symm.trans h)
          refine .more hpart hfirst (ih _ ?_ rfl rfl)
          have hpos := List.length_pos_iff.2 hfirst
          rw [← hlength, List.length_append]
          omega

end Origin

namespace Stream

variable {fs : FileSystem} {s : Stream} {bytes : Bytes} {fault : IoFault}

/-- What is left is all that can be read, when no fault stands behind it. -/
theorem remaining_eq_ok_iff : s.remaining fs = .ok bytes ↔ s.readable fs = (bytes, none) := by
  rw [remaining, readable, Origin.remaining]
  rcases s.origin.readable fs with ⟨octets, _ | fault⟩ <;> simp

/-- A stream cannot be read to its end when a fault stands before it. -/
theorem remaining_eq_error_iff :
    s.remaining fs = .error fault ↔ ∃ bytes, s.readable fs = (bytes, some fault) := by
  simp only [remaining, readable, Origin.remaining]
  rcases s.origin.readable fs with ⟨octets, _ | other⟩ <;> simp

/-- A stream does not see a new file that is still empty. -/
theorem readable_addFile (s : Stream) (fs : FileSystem) (l : Location) :
    s.readable (fs.addFile l []) = s.readable fs := by
  rw [readable, readable]
  cases s.origin with
  | memory rest fault => rfl
  | faulty fault => rfl
  | opened node offset =>
    have hnode : (fs.addFile l []).readNode node = fs.readNode node := by
      cases node with
      | file id =>
        simp only [readNode, contentsOf_addFile]
        split
        · -- the number of the new file was that of no file, which reads as an empty one
          next hid => simp [FileSystem.contentsOf, hid]
        · rfl
      | _ => rfl
    simp only [Origin.readable, hnode]

end Stream

/-! ### Content -/

namespace Source

variable {fs : FileSystem} {bytes : Bytes} {name : String} {s : Stream}

/-- The octets that an artifact stands for, if they can be read. -/
def content? (fs : FileSystem) : Source → Option Bytes
  | path name => (fs.read name).toOption
  | stream s => (s.remaining fs).toOption
  | string text => some (Text.Utf8.encode text)
  | directory _ | untyped _ => none

theorem content?_path : (path name).content? fs = some bytes ↔ fs.read name = .ok bytes := by
  rw [content?]
  cases fs.read name <;> simp [Except.toOption]

theorem content?_stream : (stream s).content? fs = some bytes ↔ s.remaining fs = .ok bytes := by
  rw [content?]
  cases s.remaining fs <;> simp [Except.toOption]

end Source

namespace Conversion

variable {source result : Source} {target : Kind} {fs : FileSystem} {bytes : Bytes}
  {cause : ConversionFailure}

/-- All names lead in one file system to what they lead to in another: growth by nothing. -/
structure Same (before after : FileSystem) : Prop
    extends Grown temporaryBeginning before after where
  node?_eq : ∀ l, after.node? l = before.node? l

theorem Same.refl (fs : FileSystem) : Same fs fs := ⟨.refl fs, fun _ => rfl⟩

/-! ### A stream in a file -/

/-- A file system in which a stream has been put into a file. -/
def filled (fs : FileSystem) (l : Location) (bytes : Bytes) : FileSystem :=
  (fs.addFile l []).extend fs.contents.length bytes

section Filled

variable {l : Location}

/-- Temporary files of the pipeline have a plain beginning. -/
theorem isBeginning_temporaryBeginning : IsBeginning temporaryBeginning := by
  constructor <;> decide

theorem grown_filled (h : fs.freshLocation temporaryBeginning = .ok l) (bytes : Bytes) :
    Grown temporaryBeginning fs (filled fs l bytes) :=
  (grown_addFile h []).extend (Nat.le_refl _) bytes

theorem node?_filled (h : fs.freshLocation temporaryBeginning = .ok l) (bytes : Bytes)
    (k : Location) :
    (filled fs l bytes).node? k =
      if k = l then some (.file fs.contents.length) else fs.node? k := by
  rw [filled, node?_extend, node?_addFile _ _ _ _ (fs.node?_of_freshLocation h).2]

/-- A temporary file is read back under the path name that is handed out for it. -/
theorem read_filled (h : fs.freshLocation temporaryBeginning = .ok l) (bytes : Bytes) :
    (filled fs l bytes).read (pathOf l) = .ok bytes := by
  obtain ⟨hdir, -, k, hk, hl⟩ := of_freshLocation h
  have hnode : (filled fs l bytes).node? l = some (.file fs.contents.length) := by
    rw [node?_filled h, if_pos rfl]
  have hdirectory : (filled fs l bytes).node? temporaryDirectory = some .directory :=
    (grown_filled h bytes).kept hdir
  rw [FileSystem.read, find_of_temporary isBeginning_temporaryBeginning hk hl hdirectory hnode]
  simp only [readNode, filled, contentsOf_extend, contentsOf_addFile, if_true, List.nil_append]
  rw [if_pos ⟨trivial, by simp [addFile]⟩]

/-- A temporary file that goes again has changed nothing, whatever was in it. -/
theorem same_forget_filled (h : fs.freshLocation temporaryBeginning = .ok l) (bytes : Bytes) :
    Same fs ((filled fs l bytes).forget (· == l)) := by
  obtain ⟨hfree, hne⟩ := fs.node?_of_freshLocation h
  refine ⟨(grown_filled h bytes).forget fun k hk => eq_of_beq hk ▸ hfree, fun k => ?_⟩
  rw [node?_forget, node?_filled h]
  by_cases hk : k = l
  · rw [if_pos ⟨hk ▸ hne, by simpa using hk⟩, hk, hfree]
  · rw [if_neg fun hgone => hk (by simpa using hgone.2), if_neg hk]

end Filled

/-! ### One conversion -/

/-- A path that can be read is no directory. -/
theorem pathToDirectory_of_read {name : String} (hread : fs.read name = .ok bytes) :
    pathToDirectory name fs = .error (.notDirectory name) := by
  have hdirectory : fs.hasDirectory name = false := by
    rw [FileSystem.read] at hread
    rw [hasDirectory]
    rcases hfind : fs.find name with fault | ⟨l, node⟩
    · rfl
    · rw [hfind] at hread
      cases node with
      | directory => cases hread
      | _ => rfl
  rw [pathToDirectory, hdirectory, if_neg Bool.false_ne_true]

/-- What is read from a path that was opened is what is read under its name. -/
theorem content_pathToStream {name : String} (hread : fs.read name = .ok bytes)
    (h : pathToStream name fs = .ok result) : result.content? fs = some bytes := by
  rw [pathToStream] at h
  rw [FileSystem.read] at hread
  rcases hfind : fs.find name with fault | ⟨l, node⟩
  · rw [hfind] at h
    cases h
  · rw [hfind] at h hread
    obtain rfl := Except.ok.inj h
    rw [Source.content?_stream, Stream.remaining_eq_ok_iff]
    simp only [Stream.readable, Stream.ofNode, Origin.readable, hread, List.drop_zero]

/-- The octets of a text that was decoded are the octets that were decoded. -/
theorem content_streamToString {s : Stream} (hremaining : s.remaining fs = .ok bytes)
    (h : streamToString s fs = .ok result) : result.content? fs = some bytes := by
  simp only [streamToString, hremaining] at h
  cases hdecode : Text.Utf8.decode? bytes with
  | error fault =>
    rw [hdecode] at h
    cases h
  | ok text =>
    rw [hdecode] at h
    obtain rfl := Except.ok.inj h
    rw [Source.content?, Text.Utf8.decode?_eq_ok_iff.1 hdecode]

/-- A hop that leaves the files alone hands the content on. -/
def HandsOn (source : Source) (fs : FileSystem) (outcome : Except ConversionFailure Source) :
    Prop :=
  ∀ result bytes, source.content? fs = some bytes → outcome = .ok result →
    result.content? fs = some bytes

theorem HandsOn.of_error (source : Source) (fs : FileSystem) (cause : ConversionFailure) :
    HandsOn source fs (.error cause) := by
  intro _ _ _ hmade
  cases hmade

/-- **What a conversion does.** A stream that is put into a file leaves the file behind when it
comes to its end, and nothing when it breaks off. All else hands the content on and leaves the files
alone. -/
theorem convert_cases (source : Source) (target : Kind) (fs : FileSystem) :
    (∃ outcome, convert source target fs = (outcome, fs) ∧ HandsOn source fs outcome) ∨
    ∃ l bytes, fs.freshLocation temporaryBeginning = .ok l ∧
      (convert source target fs = (.ok (.path (pathOf l)), filled fs l bytes) ∧
          source.content? fs = some bytes ∨
        ∃ fault, convert source target fs =
          (.error (.io fault), (filled fs l bytes).forget (· == l))) := by
  rw [convert]
  split
  · -- nothing is to be done
    exact .inl ⟨_, rfl, fun result bytes hcontent h => Except.ok.inj h ▸ hcontent⟩
  · unfold hop
    split
    · -- a path as a directory
      refine .inl ⟨_, rfl, fun result bytes hcontent h => ?_⟩
      rw [pathToDirectory_of_read (Source.content?_path.1 hcontent)] at h
      cases h
    · -- a path as a stream
      exact .inl ⟨_, rfl, fun result bytes hcontent h =>
        content_pathToStream (Source.content?_path.1 hcontent) h⟩
    · -- a stream as a path, the one hop that touches the files
      next s _ =>
      rw [streamToPath]
      cases hfresh : fs.freshLocation temporaryBeginning with
      | error fault => exact .inl ⟨_, rfl, .of_error _ fs _⟩
      | ok l =>
        simp only [Stream.readable_addFile]
        rcases hread : s.readable fs with ⟨bytes, _ | fault⟩
        · have hcontent := Source.content?_stream.2 (Stream.remaining_eq_ok_iff.2 hread)
          exact .inr ⟨l, bytes, rfl, .inl ⟨rfl, hcontent⟩⟩
        · exact .inr ⟨l, bytes, rfl, .inr ⟨fault, rfl⟩⟩
    · -- a stream as a text
      exact .inl ⟨_, rfl, fun result bytes hcontent h =>
        content_streamToString (Source.content?_stream.1 hcontent) h⟩
    · -- a text as a stream
      refine .inl ⟨_, rfl, fun result bytes hcontent h => ?_⟩
      obtain rfl := Except.ok.inj h
      exact hcontent
    · -- no hop
      exact .inl ⟨_, rfl, .of_error _ fs _⟩

/-- **A conversion makes the file system grow**, if it changes it. -/
theorem grown_convert (source : Source) (target : Kind) (fs : FileSystem) :
    Grown temporaryBeginning fs (convert source target fs).2 := by
  obtain ⟨outcome, h, -⟩ | ⟨l, bytes, hfresh, ⟨h, -⟩ | ⟨fault, h⟩⟩ := convert_cases source target fs
  · rw [h]
    exact .refl fs
  · rw [h]
    exact grown_filled hfresh bytes
  · rw [h]
    exact (same_forget_filled hfresh bytes).toGrown

/-- **A conversion that fails adds nothing.** -/
theorem same_of_failed (hfailed : (convert source target fs).1 = .error cause) :
    Same fs (convert source target fs).2 := by
  obtain ⟨outcome, h, -⟩ | ⟨l, bytes, hfresh, ⟨h, -⟩ | ⟨fault, h⟩⟩ := convert_cases source target fs
  · rw [h]
    exact .refl fs
  · rw [h] at hfailed
    cases hfailed
  · rw [h]
    exact same_forget_filled hfresh bytes

/-- **A conversion keeps the content.** -/
theorem content_convert (hcontent : source.content? fs = some bytes)
    (hmade : (convert source target fs).1 = .ok result) :
    result.content? (convert source target fs).2 = some bytes := by
  obtain ⟨outcome, h, hhands⟩ | ⟨l, octets, hfresh, ⟨h, hoctets⟩ | ⟨fault, h⟩⟩ :=
    convert_cases source target fs
  · rw [h] at hmade ⊢
    exact hhands result bytes hcontent hmade
  · rw [h] at hmade ⊢
    obtain rfl := Except.ok.inj hmade
    obtain rfl := Option.some.inj (hoctets.symm.trans hcontent)
    exact Source.content?_path.2 (read_filled hfresh octets)
  · rw [h] at hmade
    cases hmade

/-! ### When a conversion succeeds -/

/-- What the hop between two kinds needs of an artifact with a content: a stream becomes a path
where there is a temporary name left for it, and a text where the content is that of a text. -/
def Hops (fs : FileSystem) (bytes : Bytes) : Kind → Kind → Prop
  | .path, .stream | .string, .stream => True
  | .stream, .path => ∃ l, fs.freshLocation temporaryBeginning = .ok l
  | .stream, .string => ∃ text, Text.Utf8.encode text = bytes
  | _, _ => False

/-- A path that can be read can be opened. -/
theorem exists_pathToStream {name : String} (hread : fs.read name = .ok bytes) :
    ∃ result, pathToStream name fs = .ok result := by
  rw [FileSystem.read] at hread
  rw [pathToStream]
  cases hfind : fs.find name with
  | error fault =>
    rw [hfind] at hread
    cases hread
  | ok found => exact ⟨_, rfl⟩

/-- A stream without a fault needs a name for its file, and nothing else. -/
theorem exists_streamToPath_iff {s : Stream} (hread : s.readable fs = (bytes, none)) :
    (∃ result, (streamToPath s fs).1 = .ok result) ↔
      ∃ l, fs.freshLocation temporaryBeginning = .ok l := by
  rw [streamToPath]
  cases fs.freshLocation temporaryBeginning with
  | error fault => simp
  | ok l => simp [Stream.readable_addFile, hread]

/-- What a stream holds is decoded where it is what some text is encoded as. -/
theorem exists_streamToString_iff {s : Stream} (hremaining : s.remaining fs = .ok bytes) :
    (∃ result, streamToString s fs = .ok result) ↔ ∃ text, Text.Utf8.encode text = bytes := by
  simp only [streamToString, hremaining, ← Text.Utf8.decode?_eq_ok_iff]
  cases Text.Utf8.decode? bytes <;> simp

/-- **A conversion succeeds** when it has nothing to do, and else exactly when its hop has what it
needs. -/
theorem converts_iff (hcontent : source.content? fs = some bytes) :
    (∃ result, (convert source target fs).1 = .ok result) ↔
      target.accepts source.kind = true ∨ Hops fs bytes source.kind target := by
  rw [convert]
  split
  · next haccepts => exact iff_of_true ⟨_, rfl⟩ (.inl haccepts)
  · next haccepts =>
    rw [or_iff_right haccepts]
    unfold hop
    split
    · -- a path as a directory
      rw [pathToDirectory_of_read (Source.content?_path.1 hcontent)]
      simp [Hops]
    · -- a path as a stream
      exact iff_of_true (exists_pathToStream (Source.content?_path.1 hcontent)) trivial
    · -- a stream as a path
      exact exists_streamToPath_iff
        (Stream.remaining_eq_ok_iff.1 (Source.content?_stream.1 hcontent))
    · -- a stream as a text
      exact exists_streamToString_iff (Source.content?_stream.1 hcontent)
    · -- a text as a stream
      exact iff_of_true ⟨_, rfl⟩ trivial
    · -- no hop, which the list of what hops need leaves out as well
      next hpd hps hsp hst hts =>
      have hnone : ¬ Hops fs bytes source.kind target := by
        cases source <;> cases target <;> simp_all [Hops]
      simp [hnone]

/-! ### Streams that cannot be converted -/

section Streams

variable {s : Stream} {limit : Nat}

/-- A stream that breaks off becomes neither a file nor a text. -/
theorem convert_of_broken (hlimit : 0 < limit) {fault : IoFault}
    (hbroken : s.origin.Yields fs limit bytes (some fault)) :
    (∃ cause, (convert (.stream s) .path fs).1 = .error cause) ∧
      (convert (.stream s) .string fs).1 = .error (.io fault) := by
  have hread : s.readable fs = (bytes, some fault) := (Origin.yields_iff hlimit).1 hbroken
  constructor
  · change ∃ cause, (streamToPath s fs).1 = .error cause
    rw [streamToPath]
    cases fs.freshLocation temporaryBeginning with
    | error other => exact ⟨_, rfl⟩
    | ok l =>
      simp only [Stream.readable_addFile, hread]
      exact ⟨_, rfl⟩
  · change streamToString s fs = .error (.io fault)
    rw [streamToString, Stream.remaining_eq_error_iff.2 ⟨bytes, hread⟩]

/-- A stream that carries no text becomes none. -/
theorem convert_of_no_text (hlimit : 0 < limit) (hyields : s.origin.Yields fs limit bytes none)
    (hnone : ∀ text, Text.Utf8.encode text ≠ bytes) :
    (convert (.stream s) .string fs).1 = .error (.io .notText) := by
  have hread : s.readable fs = (bytes, none) := (Origin.yields_iff hlimit).1 hyields
  change streamToString s fs = .error (.io .notText)
  simp only [streamToString, Stream.remaining_eq_ok_iff.2 hread]
  cases hdecode : Text.Utf8.decode? bytes with
  | error flaw => rfl
  | ok text => exact absurd (Text.Utf8.decode?_eq_ok_iff.1 hdecode) (hnone text)

end Streams

/-! ### Along a list of kinds -/

/-- Convert to one kind after another, up to the first failure. -/
def convertAlong : List Kind → Source → FileSystem → Except ConversionFailure Source × FileSystem
  | [], source, fs => (.ok source, fs)
  | target :: targets, source, fs =>
    match convert source target fs with
    | (.ok next, files) => convertAlong targets next files
    | (.error cause, files) => (.error cause, files)

/-- What conversions keep, from a file system and a content on. -/
structure Keeps (fs : FileSystem) (bytes : Bytes)
    (ended : Except ConversionFailure Source × FileSystem) : Prop where
  /-- What was made has the content. -/
  content : ∀ result, ended.1 = .ok result → result.content? ended.2 = some bytes
  /-- Only fresh temporary files were added. -/
  grown : Grown temporaryBeginning fs ended.2
  /-- What could be read is read as before. -/
  read : ∀ name octets, fs.read name = .ok octets → ended.2.read name = .ok octets

/-- One conversion keeps what a run keeps. -/
theorem keeps_convert (hcontent : source.content? fs = some bytes) (target : Kind) :
    Keeps fs bytes (convert source target fs) where
  content _ hmade := content_convert hcontent hmade
  grown := grown_convert source target fs
  read _ _ hread := (grown_convert source target fs).read hread

/-- A run keeps what each of its conversions keeps. -/
theorem keeps_convertAlong (hcontent : source.content? fs = some bytes) (targets : List Kind) :
    Keeps fs bytes (convertAlong targets source fs) := by
  induction targets generalizing source fs with
  | nil => exact ⟨fun result h => Except.ok.inj h ▸ hcontent, .refl fs, fun _ _ hread => hread⟩
  | cons target targets ih =>
    have hfirst := keeps_convert hcontent target
    rw [convertAlong]
    split
    · next next files hconvert =>
      rw [hconvert] at hfirst
      have hrest := ih (hfirst.content next rfl)
      exact ⟨hrest.content, hfirst.grown.trans hrest.grown,
        fun name octets hread => hrest.read name octets (hfirst.read name octets hread)⟩
    · next cause files hconvert =>
      rw [hconvert] at hfirst
      refine ⟨fun _ hmade => ?_, hfirst.grown, hfirst.read⟩
      cases hmade

/-- **Conversions keep the content and touch nothing else.** Along any list of kinds, what comes out
has the content of what went in; what could be read before is read as before, and only fresh
temporary files are new. A conversion succeeds whenever its hop has what it needs, and one that
fails adds nothing. A stream that breaks off, after however many octets, makes a conversion fail,
and so does one that carries no text where a text is asked for. -/
theorem conversions_keep_content (hcontent : source.content? fs = some bytes)
    (targets : List Kind) :
    Keeps fs bytes (convertAlong targets source fs) ∧
    (∀ target, (∃ result, (convert source target fs).1 = .ok result) ↔
      target.accepts source.kind = true ∨ Hops fs bytes source.kind target) ∧
    (∀ (other : Source) (target : Kind) (files : FileSystem) (cause : ConversionFailure),
      (convert other target files).1 = .error cause → Same files (convert other target files).2) ∧
    ∀ (s : Stream) (files : FileSystem) (limit : Nat) (octets : Bytes), 0 < limit →
      (∀ fault, s.origin.Yields files limit octets (some fault) →
        (∃ cause, (convert (.stream s) .path files).1 = .error cause) ∧
          (convert (.stream s) .string files).1 = .error (.io fault)) ∧
      (s.origin.Yields files limit octets none → (∀ text, Text.Utf8.encode text ≠ octets) →
        (convert (.stream s) .string files).1 = .error (.io .notText)) := by
  refine ⟨keeps_convertAlong hcontent targets, fun _ => converts_iff hcontent,
    fun _ _ _ _ => same_of_failed, fun s files limit octets hlimit => ⟨fun fault hbroken => ?_,
      fun hyields hnone => ?_⟩⟩
  · exact convert_of_broken hlimit hbroken
  · exact convert_of_no_text hlimit hyields hnone

/-- A file system with a note in it. -/
def noted : FileSystem := FileSystem.standard.addFile ["home", "note"] [0xCE, 0xBB, 0x0A]

/-- The kinds through which the note goes. -/
def detour : List Kind := [.stream, .path, .untyped, .stream, .string, .stream, .string]

/-- A stream that is cut off after the first octet of a character. -/
def torn : Stream := ⟨.memory [0xCE] (some (.other "cut off")), none⟩

/-- A note that goes through streams and a temporary file comes out as its text, and a stream that
is cut off leaves no file behind. -/
theorem conversions_keep_content_of_note :
    (Source.path "/home/note").content? noted = some [0xCE, 0xBB, 0x0A] ∧
      (convertAlong detour (.path "/home/note") noted).1 = .ok (.string "λ\n") ∧
      Keeps noted [0xCE, 0xBB, 0x0A] (convertAlong detour (.path "/home/note") noted) ∧
      ∃ cause, (convert (.stream torn) .path noted).1 = .error cause ∧
        Same noted (convert (.stream torn) .path noted).2 := by
  have hcontent : (Source.path "/home/note").content? noted = some [0xCE, 0xBB, 0x0A] := by
    decide +kernel
  obtain ⟨hkeeps, -, hfailed, hstreams⟩ := conversions_keep_content hcontent detour
  have hyields : torn.origin.Yields noted 1 [0xCE] (some (.other "cut off")) :=
    (Origin.yields_iff Nat.one_pos).2 rfl
  obtain ⟨⟨cause, hcause⟩, -⟩ := (hstreams torn noted 1 [0xCE] Nat.one_pos).1 _ hyields
  exact ⟨hcontent, by decide +kernel, hkeeps, cause, hcause, hfailed _ _ _ cause hcause⟩

end Conversion

end ArtifactPipeline
