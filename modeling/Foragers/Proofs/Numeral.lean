import Foragers.Text.Numeral
import Mathlib.Data.List.DropRight
import Mathlib.Data.Nat.Digits.Defs

/-! # Integers that are written out

A text denotes an integer when it consists, between blanks, of decimal digits of any
scripts, with a sign in front that may be missing and with at most one underscore between
two digits. What is read from a text is the integer that it denotes, and nothing is read
from any other text.
-/

namespace Foragers.Text

/-! ## Characters -/

/-- The blanks that may stand around a number: all but the information separators. -/
def isPadding (character : Char) : Bool :=
  isBlank character && !(0x1c ≤ character.toNat && character.toNat ≤ 0x1f)

theorem decimalDigit?_eq_some {character : Char} {digit : Nat}
    (found : decimalDigit? character = some digit) :
    ∃ first ∈ digitZeros, character.toNat = first + digit ∧ digit < 10 := by
  rcases Option.map_eq_some_iff.mp found with ⟨first, hit, rfl⟩
  have within := Array.find?_some hit
  simp only [Bool.and_eq_true, decide_eq_true_eq] at within
  exact ⟨first, Array.mem_of_find?_eq_some hit, by omega, by omega⟩

theorem decimalDigit?_of_isBlank {character : Char} (blank : isBlank character = true) :
    decimalDigit? character = none := by
  have apart : ∀ first ∈ digitZeros, ∀ digit < 10,
      isBlank (Char.ofNat (first + digit)) = false := by decide +kernel
  cases found : decimalDigit? character with
  | none => rfl
  | some digit =>
      rcases decimalDigit?_eq_some found with ⟨first, member, code, small⟩
      have separate := apart first member digit small
      rw [← code, Char.ofNat_toNat, blank] at separate
      cases separate

theorem of_ascii (property : Char → Prop)
    (holds : ∀ code < 127, property (Char.ofNat code)) {character : Char}
    (ascii : character.toNat < 127) : property character := by
  have here := holds _ ascii
  rwa [Char.ofNat_toNat] at here

/-- What a character is replaced with before a number is read. -/
inductive Replaced (character : Char) : Prop
  | kept (ascii : character.toNat < 127) (eq : plainCharacter character = character)
  | space (beyond : 127 ≤ character.toNat) (blank : isBlank character = true)
      (eq : plainCharacter character = ' ')
  | digit {digit : Nat} (beyond : 127 ≤ character.toNat) (solid : isBlank character = false)
      (found : decimalDigit? character = some digit) (small : digit < 10)
      (eq : plainCharacter character = Char.ofNat (48 + digit))
  | unknown (beyond : 127 ≤ character.toNat) (solid : isBlank character = false)
      (noDigit : decimalDigit? character = none) (eq : plainCharacter character = '?')

theorem replaced (character : Char) : Replaced character := by
  by_cases ascii : character.toNat < 127
  · exact .kept ascii (if_pos ascii)
  have beyond : 127 ≤ character.toNat := Nat.le_of_not_lt ascii
  cases blank : isBlank character with
  | true => exact .space beyond blank (by simp [plainCharacter, ascii, blank])
  | false =>
      cases found : decimalDigit? character with
      | none => exact .unknown beyond blank found (by simp [plainCharacter, ascii, blank, found])
      | some digit =>
          rcases decimalDigit?_eq_some found with ⟨_, _, _, small⟩
          exact .digit beyond blank found small
            (by simp [plainCharacter, ascii, blank, found])

@[simp] theorem isPlainBlank_plainCharacter (character : Char) :
    isPlainBlank (plainCharacter character) = isPadding character := by
  cases replaced character with
  | kept ascii eq =>
      rw [eq]
      exact of_ascii (fun character => isPlainBlank character = isPadding character)
        (by decide +kernel) ascii
  | space beyond blank eq =>
      have noSeparator : ¬character.toNat ≤ 0x1f := by omega
      rw [eq, isPadding, blank]
      simp [noSeparator, isPlainBlank]
  | digit beyond solid found small eq =>
      have noBlank : ∀ digit < 10, isPlainBlank (Char.ofNat (48 + digit)) = false := by decide
      rw [eq, isPadding, solid, noBlank _ small, Bool.false_and]
  | unknown beyond solid noDigit eq =>
      rw [eq, isPadding, solid, Bool.false_and]
      rfl

@[simp] theorem digitInBase?_plainCharacter (character : Char) :
    digitInBase? 10 (plainCharacter character) = decimalDigit? character := by
  cases replaced character with
  | kept ascii eq =>
      rw [eq]
      exact of_ascii (fun character => digitInBase? 10 character = decimalDigit? character)
        (by decide +kernel) ascii
  | space beyond blank eq =>
      rw [eq, decimalDigit?_of_isBlank blank]
      decide
  | digit beyond solid found small eq =>
      have own : ∀ digit < 10, digitInBase? 10 (Char.ofNat (48 + digit)) = some digit := by
        decide
      rw [eq, found, own _ small]
  | unknown beyond solid noDigit eq =>
      rw [eq, noDigit]
      decide

/-- Signs and underscores stay what they are, and nothing else becomes one. -/
theorem plainCharacter_eq_iff {character mark : Char} (isMark : mark ∈ ['-', '+', '_']) :
    plainCharacter character = mark ↔ character = mark := by
  have special : mark.toNat < 127 ∧ mark ≠ ' ' ∧ mark ≠ '?' ∧
      ∀ digit < 10, Char.ofNat (48 + digit) ≠ mark := by
    simp only [List.mem_cons, List.not_mem_nil, or_false] at isMark
    rcases isMark with rfl | rfl | rfl <;> decide
  rcases special with ⟨low, notBlank, known, notDigit⟩
  have apart (beyond : 127 ≤ character.toNat) : character ≠ mark := by
    rintro rfl
    omega
  cases replaced character with
  | kept _ eq => rw [eq]
  | space beyond _ eq => simp [eq, apart beyond, notBlank.symm]
  | digit beyond _ _ small eq => simp [eq, apart beyond, notDigit _ small]
  | unknown beyond _ _ eq => simp [eq, apart beyond, known.symm]

/-! ## Digits -/

/-- Some text consists of digits one after the other, with single underscores between
them. -/
inductive DigitsOf (digit? : Char → Option Nat) : List Char → List Nat → Prop
  | last {character : Char} {digit : Nat} (found : digit? character = some digit) :
      DigitsOf digit? [character] [digit]
  | next {character : Char} {digit : Nat} {text : List Char} {digits : List Nat}
      (found : digit? character = some digit) (rest : DigitsOf digit? text digits) :
      DigitsOf digit? (character :: text) (digit :: digits)
  | apart {character : Char} {digit : Nat} {text : List Char} {digits : List Nat}
      (found : digit? character = some digit) (rest : DigitsOf digit? text digits) :
      DigitsOf digit? (character :: '_' :: text) (digit :: digits)

variable {digit? : Char → Option Nat} {text : List Char} {digits : List Nat}

theorem DigitsOf.exists_cons (spelled : DigitsOf digit? text digits) :
    ∃ character rest, text = character :: rest ∧ (digit? character).isSome = true := by
  cases spelled with
  | last found => exact ⟨_, _, rfl, by rw [found, Option.isSome_some]⟩
  | next found rest => exact ⟨_, _, rfl, by rw [found, Option.isSome_some]⟩
  | apart found rest => exact ⟨_, _, rfl, by rw [found, Option.isSome_some]⟩

theorem digits?_cons {base : Nat} {character : Char} {rest : List Char} (more : rest ≠ [])
    (joined : ∀ others, rest ≠ '_' :: others) :
    digits? base (character :: rest) =
      (digitInBase? base character).bind fun digit =>
        (digits? base rest).bind fun others => some (digit :: others) := by
  rw [digits?]
  · rfl
  · exact more
  · exact joined

theorem digits?_eq_some_iff {base : Nat} :
    digits? base text = some digits ↔ DigitsOf (digitInBase? base) text digits := by
  constructor
  · intro read
    induction text using digits?.induct generalizing digits with
    | case1 => cases read
    | case2 character =>
        rcases Option.map_eq_some_iff.mp read with ⟨digit, found, rfl⟩
        exact .last found
    | case3 character rest induction =>
        rcases Option.bind_eq_some_iff.mp read with ⟨digit, found, continued⟩
        rcases Option.bind_eq_some_iff.mp continued with ⟨others, restRead, digitsEq⟩
        cases digitsEq
        exact .apart found (induction restRead)
    | case4 character rest more joined induction =>
        rw [digits?_cons more joined] at read
        rcases Option.bind_eq_some_iff.mp read with ⟨digit, found, continued⟩
        rcases Option.bind_eq_some_iff.mp continued with ⟨others, restRead, digitsEq⟩
        cases digitsEq
        exact .next found (induction restRead)
  · intro spelled
    induction spelled with
    | last found => exact Option.map_eq_some_iff.mpr ⟨_, found, rfl⟩
    | next found rest induction =>
        rcases rest.exists_cons with ⟨first, others, rfl, isDigit⟩
        have joined : ∀ behind, first :: others ≠ '_' :: behind := by
          intro behind same
          cases same
          cases isDigit
        rw [digits?_cons (List.cons_ne_nil first others) joined, found, induction]
        rfl
    | apart found rest induction =>
        rw [digits?, found, induction]
        rfl

/-- Replacing the characters of a text does not change its digits. -/
theorem digitsOf_plain_iff :
    DigitsOf (digitInBase? 10) (text.map plainCharacter) digits ↔
      DigitsOf decimalDigit? text digits := by
  constructor
  · intro spelled
    generalize textEq : text.map plainCharacter = replacedText at spelled
    induction spelled generalizing text with
    | last found =>
        rcases List.map_eq_singleton_iff.mp textEq with ⟨character, rfl, rfl⟩
        rw [digitInBase?_plainCharacter] at found
        exact .last found
    | next found rest induction =>
        rcases List.map_eq_cons_iff.mp textEq with ⟨character, others, rfl, rfl, othersEq⟩
        rw [digitInBase?_plainCharacter] at found
        exact .next found (induction othersEq)
    | apart found rest induction =>
        rcases List.map_eq_cons_iff.mp textEq with ⟨character, behind, rfl, rfl, behindEq⟩
        rcases List.map_eq_cons_iff.mp behindEq with ⟨mark, others, rfl, markEq, othersEq⟩
        rw [digitInBase?_plainCharacter] at found
        rw [(plainCharacter_eq_iff (by decide)).mp markEq]
        exact .apart found (induction othersEq)
  · intro spelled
    induction spelled with
    | last found => exact .last (by rwa [digitInBase?_plainCharacter])
    | next found rest induction => exact .next (by rwa [digitInBase?_plainCharacter]) induction
    | apart found rest induction => exact .apart (by rwa [digitInBase?_plainCharacter]) induction

theorem isPadding_of_decimalDigit? {character : Char} {digit : Nat}
    (found : decimalDigit? character = some digit) : isPadding character = false := by
  cases blank : isBlank character with
  | false => rw [isPadding, blank, Bool.false_and]
  | true =>
      rw [decimalDigit?_of_isBlank blank] at found
      cases found

theorem DigitsOf.solid (spelled : DigitsOf decimalDigit? text digits) :
    ∀ character ∈ text, isPadding character = false := by
  induction spelled with
  | last found => exact List.forall_mem_singleton.mpr (isPadding_of_decimalDigit? found)
  | next found rest induction =>
      exact List.forall_mem_cons.mpr ⟨isPadding_of_decimalDigit? found, induction⟩
  | apart found rest induction =>
      exact List.forall_mem_cons.mpr ⟨isPadding_of_decimalDigit? found,
        List.forall_mem_cons.mpr ⟨by decide, induction⟩⟩

/-- The first digit counts most. -/
theorem ofDigits_eq (base : Nat) (digits : List Nat) :
    (ofDigits base digits : Int) = Nat.ofDigits (base : Int) digits.reverse := by
  rw [← Nat.coe_ofDigits, Nat.ofDigits_eq_foldr, List.foldr_reverse, ofDigits]
  congr 2
  funext number digit
  rw [Nat.add_comm, Nat.mul_comm, Nat.cast_id]

/-! ## Signs -/

/-- A number of not too many digits, the first of which counts most, with a sign that may
be missing. -/
inductive Signed : List Char → Int → Prop
  | unsigned {text : List Char} {digits : List Nat} (spelled : DigitsOf decimalDigit? text digits)
      (short : digits.length ≤ digitLimit) :
      Signed text (Nat.ofDigits 10 digits.reverse)
  | plus {text : List Char} {digits : List Nat} (spelled : DigitsOf decimalDigit? text digits)
      (short : digits.length ≤ digitLimit) :
      Signed ('+' :: text) (Nat.ofDigits 10 digits.reverse)
  | minus {text : List Char} {digits : List Nat} (spelled : DigitsOf decimalDigit? text digits)
      (short : digits.length ≤ digitLimit) :
      Signed ('-' :: text) (-Nat.ofDigits 10 digits.reverse)

variable {number : Int}

theorem splitSign_cons {first : Char} {rest : List Char} (plus : first ≠ '+')
    (minus : first ≠ '-') : splitSign (first :: rest) = (false, first :: rest) := by
  simp [splitSign, plus, minus]

theorem splitSign_plain (text : List Char) :
    splitSign (text.map plainCharacter) =
      ((splitSign text).1, (splitSign text).2.map plainCharacter) := by
  cases text with
  | nil => rfl
  | cons first rest =>
      by_cases plus : first = '+'
      · subst plus
        rfl
      by_cases minus : first = '-'
      · subst minus
        rfl
      have plusKept := (plainCharacter_eq_iff (by decide)).not.mpr plus
      have minusKept := (plainCharacter_eq_iff (by decide)).not.mpr minus
      rw [splitSign_cons plus minus, List.map_cons, splitSign_cons plusKept minusKept]

theorem DigitsOf.splitSign (spelled : DigitsOf decimalDigit? text digits) :
    splitSign text = (false, text) := by
  have plus : decimalDigit? '+' = none := by decide +kernel
  have minus : decimalDigit? '-' = none := by decide +kernel
  rcases spelled.exists_cons with ⟨first, rest, rfl, isDigit⟩
  apply splitSign_cons
  · rintro rfl
    rw [plus] at isDigit
    cases isDigit
  · rintro rfl
    rw [minus] at isDigit
    cases isDigit

theorem signed_iff :
    Signed text number ↔ ∃ digits, DigitsOf decimalDigit? (splitSign text).2 digits ∧
      digits.length ≤ digitLimit ∧
        (if (splitSign text).1 then -(ofDigits 10 digits : Int) else ofDigits 10 digits) =
          number := by
  simp only [ofDigits_eq]
  constructor
  · intro signed
    cases signed with
    | unsigned spelled short =>
        rw [spelled.splitSign]
        exact ⟨_, spelled, short, rfl⟩
    | plus spelled short => exact ⟨_, spelled, short, rfl⟩
    | minus spelled short => exact ⟨_, spelled, short, rfl⟩
  · rintro ⟨digits, spelled, short, rfl⟩
    unfold splitSign at spelled ⊢
    split at spelled
    · exact .minus spelled short
    · exact .plus spelled short
    · exact .unsigned spelled short

theorem Signed.solid (signed : Signed text number) :
    ∀ character ∈ text, isPadding character = false := by
  cases signed with
  | unsigned spelled short => exact spelled.solid
  | plus spelled short => exact List.forall_mem_cons.mpr ⟨by decide, spelled.solid⟩
  | minus spelled short => exact List.forall_mem_cons.mpr ⟨by decide, spelled.solid⟩

@[simp] theorem dropBase_ten (text : List Char) : dropBase 10 text = text := by
  unfold dropBase
  split <;> simp [baseLetter?]

theorem integer?_eq_signed {inner : List Char} (trimmed : plain text = inner.map plainCharacter) :
    integer? text = some number ↔ Signed inner number := by
  have ten : isPowerOfTwo 10 = false := by decide +kernel
  rw [integer?, integerIn?, trimmed, splitSign_plain, signed_iff]
  simp only [dropBase_ten, ten, Option.bind_eq_bind, Option.bind_eq_some_iff,
    digits?_eq_some_iff, digitsOf_plain_iff]
  constructor
  · rintro ⟨digits, spelled, checked⟩
    split at checked
    · cases checked
    · rename_i short
      exact ⟨digits, spelled, by simpa using short, Option.some.inj checked⟩
  · rintro ⟨digits, spelled, short, rfl⟩
    exact ⟨digits, spelled, if_neg (by simpa using short)⟩

/-! ## Blanks around a number -/

/-- A text denotes the number that stands in it between blanks. -/
inductive Denotes : List Char → Int → Prop
  | intro {before inner after : List Char} {number : Int}
      (blankBefore : ∀ character ∈ before, isPadding character = true)
      (signed : Signed inner number)
      (blankAfter : ∀ character ∈ after, isPadding character = true) :
      Denotes (before ++ (inner ++ after)) number

theorem plain_eq (text : List Char) :
    plain text = ((text.dropWhile isPadding).rdropWhile isPadding).map plainCharacter := by
  have same : isPlainBlank ∘ plainCharacter = isPadding := by
    funext character
    exact isPlainBlank_plainCharacter character
  rw [plain, trimBlanks, List.dropWhile_map, same, ← List.map_reverse, List.dropWhile_map, same,
    ← List.map_reverse, List.rdropWhile]

theorem dropWhile_of_solid {inner : List Char}
    (solid : ∀ character ∈ inner, isPadding character = false) :
    inner.dropWhile isPadding = inner :=
  List.dropWhile_eq_self_iff.mpr fun nonempty => by
    simp [solid _ (List.getElem_mem nonempty)]

theorem plain_of_solid {before inner after : List Char}
    (blankBefore : ∀ character ∈ before, isPadding character = true)
    (solid : ∀ character ∈ inner, isPadding character = false)
    (blankAfter : ∀ character ∈ after, isPadding character = true) :
    plain (before ++ (inner ++ after)) = inner.map plainCharacter := by
  have blankBehind : ∀ character ∈ after.reverse, isPadding character = true := by
    simpa using blankAfter
  have solidBehind : ∀ character ∈ inner.reverse, isPadding character = false := by
    simpa using solid
  rw [plain_eq, List.dropWhile_append_of_pos blankBefore, List.dropWhile_append,
    dropWhile_of_solid solid]
  cases inner with
  | nil => simp [List.dropWhile_eq_nil_iff.mpr blankAfter]
  | cons first rest =>
      rw [if_neg (by simp), List.rdropWhile, List.reverse_append,
        List.dropWhile_append_of_pos blankBehind, dropWhile_of_solid solidBehind,
        List.reverse_reverse]

theorem exists_plain (text : List Char) :
    ∃ before inner after, text = before ++ (inner ++ after) ∧
      (∀ character ∈ before, isPadding character = true) ∧
      (∀ character ∈ after, isPadding character = true) ∧
      plain text = inner.map plainCharacter := by
  refine ⟨text.takeWhile isPadding, _, (text.dropWhile isPadding).rtakeWhile isPadding, ?_,
    fun _ => List.mem_takeWhile_imp, fun _ => List.mem_rtakeWhile_imp, plain_eq text⟩
  rw [List.rdropWhile_append_rtakeWhile, List.takeWhile_append_dropWhile]

theorem integer?_eq_some_iff : integer? text = some number ↔ Denotes text number := by
  constructor
  · intro read
    rcases exists_plain text with ⟨before, inner, after, rfl, blankBefore, blankAfter, trimmed⟩
    exact .intro blankBefore ((integer?_eq_signed trimmed).mp read) blankAfter
  · rintro ⟨blankBefore, signed, blankAfter⟩
    exact (integer?_eq_signed (plain_of_solid blankBefore signed.solid blankAfter)).mpr signed

end Foragers.Text
