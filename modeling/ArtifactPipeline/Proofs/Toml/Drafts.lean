import ArtifactPipeline.Proofs.Toml.Readers
import Mathlib.Data.Option.Basic

/-!
# An entry and the lines after it

A document in the making is a list of names with what they hold. Each line that says something
changes it at one name (`Drafts.ChangesAt`): the name of the entry or heading where that is a single
one, else the first name on the way. What the change makes of that name depends on what the name
holds, and a finished value is not changed: a line that would do so is refused.

So the lines after an entry `name = v` do to all other names what they would do without the entry,
and never come back to `name` (`Progress.add_beside`, and `linesFrom_beside` for all of them). The
entry of a document's first line is thus an entry of the document, whatever follows it.

Names do not get lost either (`Progress.lookup_add`), which is why it is enough to ask at the end
whether the further lines have the name `name` as well.
-/

namespace ArtifactPipeline.Toml

open ArtifactPipeline.Config (Value Entries)

namespace Drafts

variable {key name : String} {draft : Draft} {v : Spelled} {drafts after : Drafts}

/-! ### What names hold -/

@[simp] theorem lookup_nil : lookup key [] = none := rfl

@[simp] theorem lookup_cons_self : lookup key ((key, draft) :: drafts) = some draft := by
  simp [lookup]

theorem lookup_cons_of_ne (h : name ≠ key) :
    lookup name ((key, draft) :: drafts) = lookup name drafts := by
  simp [lookup, h]

@[simp] theorem lookup_put_self : lookup key (put key draft drafts) = some draft := by
  induction drafts with
  | nil => simp [put]
  | cons entry rest ih =>
    obtain ⟨k, d⟩ := entry
    rw [put]
    split
    · simp
    · next other => rw [lookup_cons_of_ne other, ih]

theorem lookup_put_of_ne (h : name ≠ key) :
    lookup name (put key draft drafts) = lookup name drafts := by
  induction drafts with
  | nil => simp [put, lookup, h]
  | cons entry rest ih =>
    obtain ⟨k, d⟩ := entry
    rw [put]
    split
    · next same =>
      subst same
      simp [lookup, h]
    · simp [lookup, ih]

theorem lookup_erase_of_ne (h : name ≠ key) :
    lookup name (erase key drafts) = lookup name drafts := by
  induction drafts with
  | nil => rfl
  | cons entry rest ih =>
    obtain ⟨k, d⟩ := entry
    by_cases hk : k = key
    · subst hk
      simpa [erase, lookup_cons_of_ne h] using ih
    · simpa [erase, hk, lookup] using congrArg (fun found => if name = k then some d else found) ih

theorem put_cons_of_ne (h : key ≠ name) :
    put key draft ((name, .done v) :: drafts) = (name, .done v) :: put key draft drafts := by
  simp [put, h]

theorem erase_cons_of_ne (h : key ≠ name) :
    erase key ((name, .done v) :: drafts) = (name, .done v) :: erase key drafts := by
  simp [erase, Ne.symm h]

theorem erase_of_lookup_eq_none (h : lookup key drafts = none) : erase key drafts = drafts := by
  induction drafts with
  | nil => rfl
  | cons entry rest ih =>
    obtain ⟨k, d⟩ := entry
    by_cases hk : key = k
    · simp [lookup, hk] at h
    · rw [lookup_cons_of_ne hk] at h
      simpa [erase, Ne.symm hk] using ih h

/-! ### Changes at one name -/

/-- **A change at one name.** It has the name afterwards, leaves the other names, does the same beside
an entry for another name, and refuses to change a value. -/
structure ChangesAt (key : String) (change : Drafts → Option Drafts) : Prop where
  refuses : ∀ {drafts : Drafts} {v}, lookup key drafts = some (.done v) → change drafts = none
  makes : ∀ {drafts after}, change drafts = some after → lookup key after ≠ none
  leaves : ∀ {drafts after name}, change drafts = some after → name ≠ key →
    lookup name after = lookup name drafts
  beside : ∀ {drafts : Drafts} {name v}, name ≠ key →
    change ((name, .done v) :: drafts) = (change drafts).map ((name, .done v) :: ·)

/-- What is put for a name is found there. -/
theorem bind_lookup_put {α : Type} (x : Option α) (f : α → Draft) (g : Draft → Drafts) :
    ((x.map fun a => put key (f a) drafts).bind fun ds => (lookup key ds).map g) =
      x.map fun a => g (f a) := by
  cases x <;> simp

/-- What a change makes of a name that holds something, or nothing, with no other name beside it. -/
def alone (key : String) (change : Drafts → Option Drafts) (held : Option Draft) : Option Draft :=
  (change (held.toList.map (key, ·))).bind (lookup key)

/-- The changes that make something of what the name holds, and let the name hold that: in its place,
or behind its neighbours. -/
theorem ChangesAt.of_alone {change : Drafts → Option Drafts} (moves : Bool)
    (hrefuses : ∀ v, alone key change (some (.done v)) = none)
    (halone : ∀ drafts, change drafts = (alone key change (lookup key drafts)).map fun draft =>
      put key draft (if moves then erase key drafts else drafts)) :
    ChangesAt key change where
  refuses h := by rw [halone, h, hrefuses, Option.map_none]
  makes h := by
    rw [halone] at h
    obtain ⟨draft, -, rfl⟩ := Option.map_eq_some_iff.mp h
    simp
  leaves h hne := by
    rw [halone] at h
    obtain ⟨draft, -, rfl⟩ := Option.map_eq_some_iff.mp h
    rw [lookup_put_of_ne hne]
    cases moves with
    | false => rfl
    | true => exact lookup_erase_of_ne hne
  beside hne := by
    rw [halone, halone, lookup_cons_of_ne hne.symm, Option.map_map]
    congr 1
    funext draft
    cases moves with
    | false => exact put_cons_of_ne hne.symm
    | true =>
      simp only [if_true, erase_cons_of_ne hne.symm]
      exact put_cons_of_ne hne.symm

theorem ChangesAt.never (key : String) : ChangesAt key fun _ => none :=
  .of_alone false (fun _ => rfl) fun _ => rfl

theorem changesAt_addEntry (last : String) (v : Spelled) (path : List String) :
    ChangesAt (path.headD last) (addEntry last v path) := by
  cases path with
  | nil =>
    refine .of_alone false (fun v => by simp [alone, addEntry]) fun drafts => ?_
    rw [List.headD_nil, addEntry]
    cases lookup last drafts <;> simp [alone, addEntry]
  | cons name path =>
    refine .of_alone false (fun v => by simp [alone, addEntry]) fun drafts => ?_
    rw [List.headD_cons, addEntry]
    rcases lookup name drafts with _ | _ | ⟨_ | _, dotted, sub⟩ | _ | ⟨latest, earlier⟩
    · simp [alone, addEntry, bind_lookup_put]
    · simp [alone, addEntry]
    · simp [alone, addEntry]
    · cases h : path.isEmpty && !dotted <;> simp [alone, addEntry, h, bind_lookup_put]
    · simp [alone, addEntry]
    · by_cases h : path = [] <;> simp [alone, addEntry, h, bind_lookup_put]

theorem changesAt_within (change : Drafts → Option Drafts) (name : String) (path : List String) :
    ChangesAt name (within change (name :: path)) := by
  refine .of_alone false (fun v => by simp [alone, within]) fun drafts => ?_
  rw [within]
  rcases lookup name drafts with _ | _ | _ | _ | ⟨latest, earlier⟩
  · simp [alone, within, bind_lookup_put]
  · simp [alone, within]
  · simp [alone, within, bind_lookup_put]
  · simp [alone, within]
  · simp [alone, within, bind_lookup_put]

theorem changesAt_openTable (key : String) : ChangesAt key (openTable key) := by
  refine .of_alone true (fun v => by simp [alone, openTable]) fun drafts => ?_
  rw [openTable, if_pos rfl]
  cases hheld : lookup key drafts with
  | none => simp [alone, openTable, erase_of_lookup_eq_none hheld]
  | some held => rcases held with _ | ⟨_ | _, _ | _, _⟩ | _ <;> simp [alone, openTable]

theorem changesAt_openElement (key : String) : ChangesAt key (openElement key) := by
  refine .of_alone false (fun v => by simp [alone, openElement]) fun drafts => ?_
  rw [openElement]
  rcases lookup key drafts with _ | _ | _ | _ <;> simp [alone, openElement]

/-- The change that an entry makes, if its key has parts. -/
theorem changesAt_addTo (path : List String) (v : Spelled) :
    ∃ key, ChangesAt key fun drafts => addTo drafts path v := by
  unfold addTo
  cases path.getLast? with
  | none => exact ⟨"", .never ""⟩
  | some last => exact ⟨_, changesAt_addEntry last v path.dropLast⟩

/-- A change in the table that a heading leads to is a change at one name of the document. -/
theorem changesAt_within_of_changesAt {change : Drafts → Option Drafts}
    (h : ∃ key, ChangesAt key change) (path : List String) :
    ∃ key, ChangesAt key (within change path) := by
  cases path with
  | nil => exact h
  | cons name path => exact ⟨name, changesAt_within change name path⟩

end Drafts

/-! ### The lines after an entry -/

namespace Progress

variable {name : String} {v : Spelled} {p after : Progress} {content : Line}

/-- A document that has an entry besides. -/
def beside (name : String) (v : Spelled) (p : Progress) : Progress :=
  { p with drafts := (name, .done v) :: p.drafts }

/-- **What a line does** under a heading: nothing, or a change at one name. -/
theorem add_cases (content : Line) (heading : List String) :
    (∀ drafts, add ⟨drafts, heading⟩ content = some ⟨drafts, heading⟩) ∨
    ∃ key change, Drafts.ChangesAt key change ∧ ∃ next : List String,
      ∀ drafts, add ⟨drafts, heading⟩ content = (change drafts).map (⟨·, next⟩) := by
  cases content with
  | blank => exact .inl fun _ => rfl
  | entry path v =>
    obtain ⟨key, hkey⟩ := Drafts.changesAt_within_of_changesAt (Drafts.changesAt_addTo path v) heading
    exact .inr ⟨key, _, hkey, heading, fun _ => rfl⟩
  | table path =>
    cases hlast : path.getLast? with
    | none => exact .inr ⟨"", _, .never "", path, fun _ => by simp [add, hlast]⟩
    | some last =>
      obtain ⟨key, hkey⟩ := Drafts.changesAt_within_of_changesAt
        ⟨last, Drafts.changesAt_openTable last⟩ path.dropLast
      exact .inr ⟨key, _, hkey, path, fun _ => by simp [add, hlast]⟩
  | element path =>
    cases hlast : path.getLast? with
    | none => exact .inr ⟨"", _, .never "", path, fun _ => by simp [add, hlast]⟩
    | some last =>
      obtain ⟨key, hkey⟩ := Drafts.changesAt_within_of_changesAt
        ⟨last, Drafts.changesAt_openElement last⟩ path.dropLast
      exact .inr ⟨key, _, hkey, path, fun _ => by simp [add, hlast]⟩

/-- **A name that is there stays there.** -/
theorem lookup_add (h : p.add content = some after) (hname : Drafts.lookup name p.drafts ≠ none) :
    Drafts.lookup name after.drafts ≠ none := by
  obtain hsame | ⟨key, change, hchange, next, hadd⟩ := add_cases content p.heading
  · obtain rfl := Option.some.inj ((hsame p.drafts).symm.trans h)
    exact hname
  · obtain ⟨drafts, hdrafts, rfl⟩ := Option.map_eq_some_iff.mp ((hadd p.drafts).symm.trans h)
    by_cases hkey : name = key
    · subst hkey
      exact hchange.makes hdrafts
    · rwa [hchange.leaves hdrafts hkey]

/-- **A line after an entry** does what it does without the entry, and is refused where that would make
something of the entry's name. -/
theorem add_beside (hname : Drafts.lookup name p.drafts = none) :
    (p.beside name v).add content = some after ↔
      ∃ q, p.add content = some q ∧ Drafts.lookup name q.drafts = none ∧
        after = q.beside name v := by
  obtain hsame | ⟨key, change, hchange, next, hadd⟩ := add_cases content p.heading
  · rw [show p.add content = some p from hsame p.drafts,
      show (p.beside name v).add content = some (p.beside name v) from hsame _]
    constructor
    · intro h
      exact ⟨p, rfl, hname, (Option.some.inj h).symm⟩
    · rintro ⟨q, hq, -, rfl⟩
      rw [Option.some.inj hq]
  · rw [show p.add content = _ from hadd p.drafts,
      show (p.beside name v).add content = _ from hadd ((name, .done v) :: p.drafts)]
    by_cases hkey : name = key
    · subst hkey
      rw [hchange.refuses Drafts.lookup_cons_self, Option.map_none]
      constructor
      · intro h
        cases h
      · rintro ⟨q, hq, hnone, -⟩
        obtain ⟨drafts, hdrafts, rfl⟩ := Option.map_eq_some_iff.mp hq
        exact absurd hnone (hchange.makes hdrafts)
    · rw [hchange.beside hkey, Option.map_map]
      constructor
      · intro h
        obtain ⟨drafts, hdrafts, rfl⟩ := Option.map_eq_some_iff.mp h
        refine ⟨⟨drafts, next⟩, by rw [hdrafts, Option.map_some], ?_, rfl⟩
        exact (hchange.leaves hdrafts hkey).trans hname
      · rintro ⟨q, hq, -, rfl⟩
        obtain ⟨drafts, hdrafts, rfl⟩ := Option.map_eq_some_iff.mp hq
        rw [hdrafts]
        rfl

end Progress

variable {name : String} {v : Spelled} {p after : Progress} {cs rest : List Char}

/-- What a line and the lines after it make. -/
theorem linesFrom_cons_eq_some_iff {fuel : Nat} {c : Char} :
    linesFrom (fuel + 1) p (c :: cs) = some (after, rest) ↔
      ∃ content more q, line (c :: cs) = some (content, more) ∧ p.add content = some q ∧
        linesFrom fuel q more = some (after, rest) := by
  rw [linesFrom.eq_2]
  dsimp only
  cases line (c :: cs) with
  | none => simp
  | some found =>
    obtain ⟨content, more⟩ := found
    cases hadd : p.add content with
    | none => simp [hadd]
    | some q =>
      simp only [hadd]
      constructor
      · intro h
        exact ⟨content, more, q, rfl, hadd, h⟩
      · rintro ⟨_, _, q', hfound, hadd', h⟩
        obtain ⟨rfl, rfl⟩ := Prod.mk.inj (Option.some.inj hfound)
        rwa [Option.some.inj (hadd.symm.trans hadd')]

/-- Names that are there stay there in all further lines. -/
theorem lookup_linesFrom {fuel : Nat} (h : linesFrom fuel p cs = some (after, rest))
    (hname : Drafts.lookup name p.drafts ≠ none) : Drafts.lookup name after.drafts ≠ none := by
  induction fuel generalizing p cs with
  | zero => cases h
  | succ fuel ih =>
    cases cs with
    | nil =>
      obtain ⟨rfl, -⟩ := Prod.mk.inj (Option.some.inj h)
      exact hname
    | cons c cs =>
      obtain ⟨content, more, q, -, hadd, hmore⟩ := linesFrom_cons_eq_some_iff.mp h
      exact ih hmore (Progress.lookup_add hadd hname)

/-- **The lines after an entry** make the document that they are without it, and the entry; they are
refused where they have its name. -/
theorem linesFrom_beside {fuel : Nat} (hname : Drafts.lookup name p.drafts = none) :
    linesFrom fuel (p.beside name v) cs = some (after, rest) ↔
      ∃ q, linesFrom fuel p cs = some (q, rest) ∧ Drafts.lookup name q.drafts = none ∧
        after = q.beside name v := by
  induction fuel generalizing p cs with
  | zero => simp [linesFrom, Text.Reader.refuse]
  | succ fuel ih =>
    cases cs with
    | nil =>
      constructor
      · intro h
        obtain ⟨rfl, rfl⟩ := Prod.mk.inj (Option.some.inj h)
        exact ⟨p, rfl, hname, rfl⟩
      · rintro ⟨q, hq, -, rfl⟩
        obtain ⟨rfl, rfl⟩ := Prod.mk.inj (Option.some.inj hq)
        rfl
    | cons c cs =>
      simp only [linesFrom_cons_eq_some_iff]
      constructor
      · rintro ⟨content, more, after', hline, hadd, hmore⟩
        obtain ⟨q, hq, hnone, rfl⟩ := (Progress.add_beside hname).mp hadd
        obtain ⟨final, hfinal, hlast, rfl⟩ := (ih hnone).mp hmore
        exact ⟨final, ⟨content, more, q, hline, hq, hfinal⟩, hlast, rfl⟩
      · rintro ⟨final, ⟨content, more, q, hline, hadd, hmore⟩, hlast, rfl⟩
        -- a name that is not there in the end never was
        have hnone : Drafts.lookup name q.drafts = none := by
          by_contra hthere
          exact lookup_linesFrom hmore hthere hlast
        exact ⟨content, more, q.beside name v, hline,
          (Progress.add_beside hname).mpr ⟨q, hadd, hnone, rfl⟩,
          (ih hnone).mpr ⟨final, hmore, hlast, rfl⟩⟩

end ArtifactPipeline.Toml
