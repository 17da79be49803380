import ArtifactPipeline.Text.Lines

/-!
# Searching in texts

A *part* of a text is a run of neighbouring characters in it. The questions asked here are on
lists, and the functions on strings answer them for the characters of the strings:

* `contains` : whether a text has another as a part;
* `without?` : the rest of a text after a given beginning;
* `splitOnce` : the texts before and after the first occurrence of a character;
* `splitLast` : the same for its last occurrence;
* `replaceBy` : a text with the parts that a rule finds replaced.
-/

namespace ArtifactPipeline.Text

/-- Whether `part` occurs in `whole`. -/
def occursIn (part : List Char) : List Char → Bool
  | [] => part.isEmpty
  | c :: cs => part.isPrefixOf (c :: cs) || occursIn part cs

/-- Whether `part` occurs in `whole`. -/
def contains (whole part : String) : Bool := occursIn part.toList whole.toList

/-- The rest of a list after a given beginning. -/
def restAfter {α : Type} [BEq α] : List α → List α → Option (List α)
  | [], rest => some rest
  | _ :: _, [] => none
  | a :: as, b :: bs => if a == b then restAfter as bs else none

/-- The rest of a text after a given beginning. -/
def without? (beginning whole : String) : Option String :=
  (restAfter beginning.toList whole.toList).map String.ofList

/-- Whether a text starts with another. -/
def startsWith (whole beginning : String) : Bool := beginning.toList.isPrefixOf whole.toList

/-- What stands before and after the first occurrence of `separator`. -/
def cutOnce {α : Type} [BEq α] (separator : α) : List α → Option (List α × List α)
  | [] => none
  | a :: as =>
    if a == separator then some ([], as)
    else (cutOnce separator as).map fun (before, after) => (a :: before, after)

/-- What stands before and after the first occurrence of a character. -/
def splitOnce (separator : Char) (s : String) : Option (String × String) :=
  (cutOnce separator s.toList).map fun (before, after) => (String.ofList before, String.ofList after)

/-- What stands before and after the last occurrence of a character. -/
def splitLast (separator : Char) (s : String) : Option (String × String) :=
  (cutOnce separator s.toList.reverse).map fun (after, before) =>
    (String.ofList before.reverse, String.ofList after.reverse)

/-- A list with the parts that a rule finds replaced, from the left to the right and without overlap,
after the first `skip` members. The rule sees the list from some place on, and answers with what to
write there and how many members that stands for, of which there is at least one. -/
def replaceFrom {α : Type} (rule : List α → Option (List α × Nat)) (skip : Nat) : List α → List α
  | [] => []
  | a :: as =>
    match skip with
    | skip + 1 => replaceFrom rule skip as
    | 0 =>
      match rule (a :: as) with
      | some (new, covered) => new ++ replaceFrom rule (covered - 1) as
      | none => a :: replaceFrom rule 0 as

/-- A text with the parts that a rule finds replaced. -/
def replaceBy (rule : List Char → Option (List Char × Nat)) (s : String) : String :=
  String.ofList (replaceFrom rule 0 s.toList)

/-- The rule that replaces a text by another. -/
def replacing (old new : String) (cs : List Char) : Option (List Char × Nat) :=
  if old.toList.isPrefixOf cs then some (new.toList, old.length) else none

/-- A rule that finds nothing changes nothing. -/
theorem replaceFrom_eq_self {α : Type} {rule : List α → Option (List α × Nat)}
    (h : ∀ as, rule as = none) (as : List α) : replaceFrom rule 0 as = as := by
  induction as with
  | nil => rfl
  | cons a as ih => simp [replaceFrom, h, ih]

/-- A cut puts the list together again around the separator. -/
theorem eq_of_cutOnce {α : Type} [BEq α] [LawfulBEq α] {separator : α} {as before after : List α}
    (h : cutOnce separator as = some (before, after)) :
    as = before ++ separator :: after ∧ separator ∉ before := by
  induction as generalizing before with
  | nil => simp [cutOnce] at h
  | cons a as ih =>
    rw [cutOnce] at h
    split at h
    · next same =>
      obtain ⟨rfl, rfl⟩ := Prod.mk.inj (Option.some.inj h)
      simp [eq_of_beq same]
    · next other =>
      obtain ⟨⟨b, r⟩, hcut, heq⟩ := Option.map_eq_some_iff.1 h
      obtain ⟨rfl, rfl⟩ := Prod.mk.inj heq
      obtain ⟨rfl, hb⟩ := ih hcut
      have hne : separator ≠ a := fun same => other (by simp [same])
      exact ⟨rfl, by simp [hne, hb]⟩

/-- There is a cut exactly when the separator occurs. -/
theorem cutOnce_eq_none_iff {α : Type} [BEq α] [LawfulBEq α] {separator : α} {as : List α} :
    cutOnce separator as = none ↔ separator ∉ as := by
  induction as with
  | nil => simp [cutOnce]
  | cons a as ih =>
    rw [cutOnce]
    split
    · next same => simp [eq_of_beq same]
    · next other =>
      have hne : separator ≠ a := fun same => other (by simp [same])
      simp [ih, hne]

/-- The shortest text whose end is `separator` is cut there. -/
theorem cutOnce_append {α : Type} [BEq α] [LawfulBEq α] {separator : α} {before : List α}
    (after : List α) (h : separator ∉ before) :
    cutOnce separator (before ++ separator :: after) = some (before, after) := by
  induction before with
  | nil => simp [cutOnce]
  | cons a as ih =>
    have hne : ¬ (a == separator) = true := by
      intro same
      exact h (by simp [eq_of_beq same])
    simp [cutOnce, hne, ih (fun m => h (List.mem_cons_of_mem _ m))]

end ArtifactPipeline.Text
