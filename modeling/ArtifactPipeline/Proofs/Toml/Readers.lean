import ArtifactPipeline.Proofs.Text.Reader
import ArtifactPipeline.Toml.Document

/-!
# The readers of a document

Every reader of a document takes what it reads off the front of the text (`Reader.Takes`). The proof
follows the definitions from the characters of a quoted text up to a whole line.
-/

namespace ArtifactPipeline.Toml

open Text (Reader hexValue?)
open Text.Reader

/-! ### Blanks, line ends and comments -/

instance takes_inlineBlanks : Takes inlineBlanks := by
  unfold inlineBlanks
  infer_instance

instance takes_newline : Takes newline := by
  unfold newline
  infer_instance

instance takes_lineEnd : Takes lineEnd := by
  unfold lineEnd
  infer_instance

instance takes_comment : Takes comment := by
  unfold comment
  infer_instance

instance takes_gap : Takes gap := by
  unfold gap
  infer_instance

/-! ### Quoted texts -/

instance takes_numbered (n : Nat) : Takes (numbered n) where
  suffix {cs c rest} h := by
    obtain ⟨values, -, h⟩ := Option.bind_eq_some_iff.mp h
    obtain ⟨-, h⟩ := Option.ite_none_left_eq_some.mp h
    obtain ⟨valid, h⟩ := Option.dite_none_right_eq_some.mp h
    obtain ⟨-, rfl⟩ := Prod.mk.inj (Option.some.inj h)
    exact List.drop_suffix n cs

instance takes_escapeTail : Takes escapeTail := by
  unfold escapeTail
  refine @Takes.bind _ _ _ _ inferInstance fun c => ?_
  split <;> infer_instance

instance takes_escape : Takes escape := by
  unfold escape
  infer_instance

instance takes_closingQuotes (quote : Char) : Takes (closingQuotes quote) where
  suffix {cs _ _} h := by
    unfold closingQuotes at h
    extract_lets count at h
    split at h
    · cases h
    · obtain ⟨-, rfl⟩ := Prod.mk.inj (Option.some.inj h)
      exact List.drop_suffix _ cs

instance takes_tripled (quote : Char) (piece : Reader (List Char)) [Takes piece] :
    Takes (tripled quote piece) := by
  unfold tripled innerQuotes
  infer_instance

instance takes_basicText : Takes basicText := by
  unfold basicText
  infer_instance

instance takes_literalText : Takes literalText := by
  unfold literalText
  infer_instance

instance takes_quotedText : Takes quotedText := by
  unfold quotedText basicLines literalLines joinedLines lineFeed
  infer_instance

/-! ### Numbers and moments -/

instance takes_digitsWith (isDigit : Char → Bool) : Takes (digitsWith isDigit) := by
  unfold digitsWith
  infer_instance

instance takes_sign : Takes sign := by
  unfold sign
  infer_instance

instance takes_strictDigits : Takes strictDigits := by
  unfold strictDigits looseDigits
  infer_instance

instance takes_integer : Takes integer := by
  unfold integer based decimalInteger
  infer_instance

instance takes_float : Takes float := by
  unfold float digitFloat namedFloat fraction exponent looseDigits
  infer_instance

instance takes_field (n least greatest : Nat) : Takes (field n least greatest) where
  suffix {cs _ _} h := by
    unfold field at h
    extract_lets digits value at h
    split at h
    · cases h
    · split at h
      · obtain ⟨-, rfl⟩ := Prod.mk.inj (Option.some.inj h)
        exact List.drop_suffix n cs
      · cases h

instance takes_date : Takes date := by
  unfold date
  infer_instance

instance takes_time : Takes time := by
  unfold time secondFraction
  infer_instance

instance takes_offset : Takes offset := by
  unfold offset
  infer_instance

instance takes_moment : Takes moment := by
  unfold moment timeAfterDate
  infer_instance

/-! ### Values and lines -/

instance takes_key : Takes key := by
  unfold key keyPart
  infer_instance

instance takes_scalar : Takes scalar := by
  unfold scalar
  infer_instance

instance takes_entry (item : Reader Spelled) [Takes item] : Takes (entry item) := by
  unfold entry
  infer_instance

instance takes_list (item : Reader Spelled) [Takes item] : Takes (list item) := by
  unfold list
  infer_instance

instance takes_inlineTable (item : Reader Spelled) [Takes item] : Takes (inlineTable item) := by
  unfold inlineTable
  infer_instance

instance takes_value (depth : Nat) : Takes (value depth) := by
  induction depth with
  | zero => exact takes_scalar
  | succ depth ih =>
    unfold value
    infer_instance

instance takes_headingLine : Takes headingLine := by
  unfold headingLine
  infer_instance

instance takes_lineContent : Takes lineContent := by
  unfold lineContent
  refine @Takes.bind _ _ _ _ inferInstance fun _ => @Takes.bind _ _ _ _ inferInstance fun c => ?_
  split <;> infer_instance

end ArtifactPipeline.Toml
