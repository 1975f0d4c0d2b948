import Foragers.Binary64.Decimal
import Foragers.Compass
import Foragers.Instruction
import Foragers.Text.Line
import Mathlib.Data.List.Basic

/-! # Lines and their parts

What is printed or written is put together from lines, and these from words between
separators. A word has no separator in it and a line has no end in it, so taking the
text apart again gives the same lines and the same words.
-/

namespace Foragers

namespace Text

/-! ## Words -/

/-- A character of the words that reports consist of. -/
def isCompact (character : Char) : Bool :=
  character.isAlphanum || character = '-' || character = '.' || character = '_'

/-- Text without any separator. -/
def Compact (text : String) : Prop :=
  ∀ character ∈ text.toList, isCompact character = true

instance (text : String) : Decidable (Compact text) :=
  List.decidableBAll (isCompact · = true) text.toList

theorem isCompact_of_isDigit {character : Char} (digit : character.isDigit = true) :
    isCompact character = true := by
  simp [isCompact, Char.isAlphanum, digit]

theorem Compact.not_mem {text : String} (compact : Compact text) {separator : Char}
    (separates : isCompact separator = false) : separator ∉ text.toList := by
  intro member
  rw [compact separator member] at separates
  cases separates

theorem Compact.append {left right : String} (leftCompact : Compact left)
    (rightCompact : Compact right) : Compact (left ++ right) := by
  rw [Compact, String.toList_append]
  exact List.forall_mem_append.mpr ⟨leftCompact, rightCompact⟩

theorem compact_ofList {characters : List Char}
    (compact : ∀ character ∈ characters, isCompact character = true) :
    Compact (String.ofList characters) := by
  rwa [Compact, String.toList_ofList]

theorem compact_natural (number : Nat) : Compact (toString number) := by
  rw [Nat.toString_eq_ofList_toDigits]
  apply compact_ofList
  intro character member
  exact isCompact_of_isDigit (Nat.isDigit_of_mem_toDigits (by decide) (by decide) member)

theorem compact_integer (number : Int) : Compact (toString number) := by
  rw [Int.toString_eq_repr, Int.repr_eq_if]
  split
  · exact compact_natural number.toNat
  · exact .append (by decide) (compact_natural (-number).toNat)

theorem isCompact_of_mem_paddedDigits {width number : Nat} {character : Char}
    (member : character ∈ paddedDigits 10 width number) : isCompact character = true := by
  rcases List.mem_append.mp member with padding | digit
  · rw [(List.mem_replicate.mp padding).2]
    decide
  · exact isCompact_of_isDigit (Nat.isDigit_of_mem_toDigits (by decide) (by decide) digit)

theorem compact_fixed (places : Nat) (number : Binary64) : Compact (number.fixed places) := by
  cases number with
  | nan negative => exact (by decide : Compact "nan")
  | infinite negative =>
      cases negative with
      | false => exact (by decide : Compact "inf")
      | true => exact (by decide : Compact "-inf")
  | finite negative units representable =>
      simp only [Binary64.fixed]
      refine .append (.append ?_ (compact_ofList ?_)) ?_
      · split <;> decide
      · intro character member
        exact isCompact_of_mem_paddedDigits (List.mem_of_mem_take member)
      · split
        · decide
        · refine .append (by decide) (compact_ofList fun character member => ?_)
          exact isCompact_of_mem_paddedDigits (List.mem_of_mem_drop member)

theorem compact_heading (heading : Heading) : Compact heading.label := by
  cases heading <;> decide

theorem compact_program (program : Program) : Compact program.text := by
  apply compact_ofList
  intro character member
  rcases List.mem_map.mp member with ⟨instruction, _, symbolEq⟩
  rw [← symbolEq]
  cases instruction <;> decide

/-! ## Parts of a line -/

/-- The parts of a text between the places where a separator stands. -/
def parts (separator : Char) (text : String) : List String :=
  (text.toList.splitOn separator).map String.ofList

theorem parts_intercalate {separator : Char} {texts : List String} (nonempty : texts ≠ [])
    (without : ∀ text ∈ texts, separator ∉ text.toList) :
    parts separator ((String.singleton separator).intercalate texts) = texts := by
  rw [parts, String.toList_intercalate, String.toList_singleton,
    List.splitOn_intercalate separator]
  · rw [List.map_map]
    exact (List.map_congr_left fun text _ => String.ofList_toList).trans (List.map_id texts)
  · rintro characters member
    rcases List.mem_map.mp member with ⟨text, present, charactersEq⟩
    rw [← charactersEq]
    exact without text present
  · exact mt List.map_eq_nil_iff.mp nonempty

/-- What stands behind a label, if the text begins with it. -/
def behind? (label text : String) : Option String :=
  (text.toList.dropPrefix? label.toList).map String.ofList

theorem behind?_append (label text : String) : behind? label (label ++ text) = some text := by
  rw [behind?, String.toList_append, List.dropPrefix?_append_of_beq text.toList (BEq.refl _),
    Option.map_some, String.ofList_toList]

/-! ## Lines of a text -/

/-- None of some characters is in a text. -/
def Avoids (avoided : List Char) (text : String) : Prop :=
  ∀ character ∈ avoided, character ∉ text.toList

instance (avoided : List Char) (text : String) : Decidable (Avoids avoided text) :=
  List.decidableBAll (· ∉ text.toList) avoided

def lineEnds : List Char := ['\n', '\r']

/-- Characters that separate the fields of a row or quote them, and line ends. -/
def separators : List Char := ',' :: '\x22' :: lineEnds

theorem lineEnds_subset : lineEnds ⊆ separators :=
  List.subset_append_right [',', '\x22'] lineEnds

theorem Compact.avoids_separators {text : String} (compact : Compact text) :
    Avoids separators text := by
  have separate : separators.any isCompact = false := by decide
  intro character member within
  exact List.any_eq_false.mp separate character member (compact character within)

namespace Avoids

variable {avoided fewer : List Char} {left right : String}

theorem subset (avoids : Avoids avoided left) (subset : fewer ⊆ avoided) :
    Avoids fewer left :=
  fun character member => avoids character (subset member)

theorem append (leftAvoids : Avoids avoided left) (rightAvoids : Avoids avoided right) :
    Avoids avoided (left ++ right) := by
  intro character member
  rw [String.toList_append, List.mem_append, not_or]
  exact ⟨leftAvoids character member, rightAvoids character member⟩

theorem join {texts : List String} (avoid : ∀ text ∈ texts, Avoids avoided text) :
    Avoids avoided (String.join texts) := by
  intro character member
  rw [String.toList_join, List.mem_flatMap]
  rintro ⟨text, present, within⟩
  exact avoid text present character member within

theorem intercalate {between : String} (betweenAvoids : Avoids avoided between)
    {texts : List String} (avoid : ∀ text ∈ texts, Avoids avoided text) :
    Avoids avoided (between.intercalate texts) := by
  induction texts with
  | nil =>
      intro character _
      rw [String.intercalate_nil]
      exact List.not_mem_nil
  | cons first rest induction =>
      rcases List.forall_mem_cons.mp avoid with ⟨firstAvoids, restAvoid⟩
      by_cases last : rest = []
      · rw [last, String.intercalate_singleton]
        exact firstAvoids
      · rw [String.intercalate_cons_of_ne_nil last]
        exact (firstAvoids.append betweenAvoids).append (induction restAvoid)

end Avoids

theorem linesFrom_append {line : List Char} (noFeed : '\n' ∉ line) (noReturn : '\r' ∉ line)
    (reversed rest : List Char) :
    linesFrom reversed (line ++ rest) = linesFrom (line.reverse ++ reversed) rest := by
  induction line generalizing reversed with
  | nil => rfl
  | cons character others induction =>
      rw [List.mem_cons, not_or] at noFeed noReturn
      rw [List.cons_append, linesFrom, induction noFeed.2 noReturn.2, List.reverse_cons,
        List.append_assoc, List.singleton_append]
      · intro _ isReturn _
        exact noReturn.1 isReturn.symm
      · intro isReturn
        exact noReturn.1 isReturn.symm
      · intro isFeed
        exact noFeed.1 isFeed.symm

/-- Lines that all have the same end are read back. -/
theorem lines_join {lineEnd : String} (ends : lineEnd = "\n" ∨ lineEnd = "\r\n")
    {lines : List String} (unbroken : ∀ line ∈ lines, Avoids lineEnds line) :
    Text.lines (String.join (lines.map (· ++ lineEnd))) = lines := by
  induction lines with
  | nil => rfl
  | cons line rest induction =>
      rcases List.forall_mem_cons.mp unbroken with ⟨lineUnbroken, restUnbroken⟩
      have others := induction restUnbroken
      rw [Text.lines] at others ⊢
      rw [List.map_cons, String.join_cons, String.toList_append, String.toList_append,
        List.append_assoc, linesFrom_append (lineUnbroken '\n' (by decide))
          (lineUnbroken '\r' (by decide)), List.append_nil]
      generalize (String.join (rest.map (· ++ lineEnd))).toList = following at others ⊢
      rcases ends with feed | returnFeed
      · subst feed
        change (linesFrom line.toList.reverse ('\n' :: following)).map String.ofList = _
        rw [linesFrom, List.map_cons, List.reverse_reverse, String.ofList_toList, others]
      · subst returnFeed
        change (linesFrom line.toList.reverse ('\r' :: '\n' :: following)).map
          String.ofList = _
        rw [linesFrom, List.map_cons, List.reverse_reverse, String.ofList_toList, others]

theorem fromUTF8?_toUTF8 (text : String) : String.fromUTF8? text.toUTF8 = some text :=
  dif_pos text.isValidUTF8

end Text

end Foragers
