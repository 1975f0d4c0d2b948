import Foragers.Proofs.Denotation
import Foragers.Proofs.Numeral
import Foragers.Proofs.Refusal
import Mathlib.Tactic.FieldSimp

/-! # Seeds

A seed is given as an integer, as a number that is one, or as the text of one. It is taken
as that integer, and everything else is refused. A number that is no integer is the only
exception: it is truncated, or ends the reading in another way when it is infinite.
-/

namespace Foragers

namespace Binary64

/-- An integer is a number without its fraction. -/
structure Truncates (amount : ℚ) (whole : Int) : Prop where
  towardZero : |(whole : ℚ)| ≤ |amount|
  near : |amount - whole| < 1

theorem truncates_tdiv (units : Int) {denominator : Nat} (positive : 0 < denominator) :
    Truncates (units / denominator) (units.tdiv denominator) := by
  have divided : (0 : ℚ) < denominator := Nat.cast_pos.mpr positive
  have rest : (units : ℚ) / denominator - units.tdiv denominator =
      units.tmod denominator / denominator := by
    rw [Int.tmod_def]
    push_cast
    field_simp
  constructor
  · rw [abs_div, Nat.abs_cast, le_div_iff₀ divided, ← Int.cast_abs, ← Int.cast_abs,
      Int.abs_eq_natAbs, Int.abs_eq_natAbs, Int.natAbs_tdiv, Int.natAbs_natCast]
    exact_mod_cast Nat.div_mul_le_self units.natAbs denominator
  · rw [rest, abs_div, Nat.abs_cast, div_lt_one divided, ← Int.cast_abs, Int.abs_eq_natAbs,
      Int.natAbs_tmod, Int.natAbs_natCast]
    exact_mod_cast Nat.mod_lt units.natAbs positive

theorem Truncates.eq_of_whole {whole other : Int} (truncates : Truncates whole other) :
    other = whole := by
  have near : |whole - other| < 1 := by exact_mod_cast truncates.near
  rw [Int.abs_lt_one_iff] at near
  omega

variable {number : Binary64}

theorem exists_truncate? {amount : ℚ} (found : number.amount? = some amount) :
    ∃ whole, number.truncate? = some whole ∧ Truncates amount whole := by
  rcases Option.map_eq_some_iff.mp found with ⟨units, unitsEq, rfl⟩
  exact ⟨_, by rw [truncate?, unitsEq]; rfl, truncates_tdiv units unitsPerOne_pos⟩

end Binary64

namespace Value

/-- A raw value means a seed: nothing does for a seed that is chosen later, and an integer
for itself, be it given as an integer, as a number or as text. -/
inductive MeansSeed : Value → Option Int → Prop
  | nothing : MeansSeed .null none
  | integer {number : Int} : MeansSeed (.integer number) (some number)
  | decimal {number : Binary64} {whole : Int} (found : number.amount? = some (whole : ℚ)) :
      MeansSeed (.decimal number) (some whole)
  | text {content : String} {number : Int} (denotes : Text.Denotes content.toList number) :
      MeansSeed (.text content) (some number)
  | bytes {content : List UInt8} {number : Int}
      (denotes : Text.Denotes (charactersOfBytes content) number) :
      MeansSeed (.bytes content) (some number)

/-- A number that is no integer. -/
inductive Inexact : Value → Prop
  | infinite (negative : Bool) : Inexact (.decimal (.infinite negative))
  | fractional {number : Binary64} {amount : ℚ} (found : number.amount? = some amount)
      (fractional : ∀ whole : Int, (whole : ℚ) ≠ amount) : Inexact (.decimal number)

end Value

namespace Settings

open Value (MeansSeed)

variable {raw : Value} {seed : Option Int}

/-- A number that is read as a seed is truncated. -/
theorem readSeed_decimal {number : Binary64} {amount : ℚ}
    (found : number.amount? = some amount) :
    ∃ whole, readSeed (.decimal number) = .ok (some whole) ∧
      Binary64.Truncates amount whole := by
  rcases Binary64.exists_truncate? found with ⟨whole, truncated, truncates⟩
  refine ⟨whole, ?_, truncates⟩
  cases number with
  | nan negative => cases found
  | infinite negative => cases found
  | finite negative units representable =>
      rw [readSeed, truncated]
      rintro _ ⟨⟩

theorem readSeed_of_means (means : raw.MeansSeed seed) : readSeed raw = .ok seed := by
  cases means with
  | nothing => rfl
  | integer => rfl
  | decimal found =>
      rcases readSeed_decimal found with ⟨whole, read, truncates⟩
      rw [read, truncates.eq_of_whole]
  | text denotes => rw [readSeed, Text.integer?_eq_some_iff.mpr denotes]
  | bytes denotes => rw [readSeed, Text.integer?_eq_some_iff.mpr denotes]

/-- What is read as a seed means it, or is a number that is no integer. -/
theorem means_of_readSeed (read : readSeed raw = .ok seed) :
    raw.MeansSeed seed ∨ raw.Inexact := by
  cases raw with
  | null =>
      cases read
      exact .inl .nothing
  | integer number =>
      cases read
      exact .inl .integer
  | boolean value => cases read
  | list items => cases read
  | other => cases read
  | text content =>
      simp only [readSeed] at read
      split at read
      · rename_i number spelled
        cases read
        exact .inl (.text (Text.integer?_eq_some_iff.mp spelled))
      · cases read
  | bytes content =>
      simp only [readSeed] at read
      split at read
      · rename_i number spelled
        cases read
        exact .inl (.bytes (Text.integer?_eq_some_iff.mp spelled))
      · cases read
  | decimal number =>
      cases foundEq : number.amount? with
      | none =>
          cases number with
          | nan negative => cases read
          | infinite negative => cases read
          | finite negative units representable => cases foundEq
      | some amount =>
          by_cases isWhole : ∃ whole : Int, (whole : ℚ) = amount
          · rcases isWhole with ⟨whole, rfl⟩
            have means : Value.MeansSeed (.decimal number) (some whole) := .decimal foundEq
            rw [readSeed_of_means means] at read
            cases read
            exact .inl means
          · exact .inr (.fractional foundEq fun whole same => isWhole ⟨whole, same⟩)

/-- What means no seed is of the wrong type, unless it is a number that is no integer. -/
theorem readSeed_of_meaningless (meaningless : ∀ seed, ¬raw.MeansSeed seed)
    (isExact : ¬raw.Inexact) : readSeed raw = .error (.incorrect .wrongType none) := by
  cases read : readSeed raw with
  | ok seed =>
      rcases means_of_readSeed read with means | inexact
      · exact absurd means (meaningless seed)
      · exact absurd inexact isExact
  | error error =>
      rcases readSeed_error_cases read with rfl | ⟨_, negative, rfl⟩
      · rfl
      · exact absurd (.infinite negative) isExact

/-! ## Mappings with a seed -/

variable {entries : List (String × Value)} {settings : Settings}

/-- The raw seed of a mapping, which is nothing when there is none. -/
def givenSeed (entries : List (String × Value)) : Value :=
  (entries.lookup seedName).getD .null

/-- All that a mapping gives apart from a seed. -/
def unseeded (entries : List (String × Value)) : List (String × Value) :=
  entries.filter fun entry => entry.1 != seedName

/-- The seed of a mapping is either taken as what it means or refused. -/
structure TakesSeed (entries : List (String × Value)) : Prop where
  exactly : ∀ settings, ofMapping Parameter.all entries = .ok settings →
    (givenSeed entries).MeansSeed settings.seed
  refused : (∀ seed, ¬(givenSeed entries).MeansSeed seed) →
    ∃ problem, ofMapping Parameter.all entries = .error (.incorrect problem none) ∧
      (SettingsError.incorrect problem none).message = "Wrong type."

theorem ofMapping_of_readSeed_error {error : SettingsError}
    (failed : readSeed (givenSeed entries) = .error error) :
    ofMapping Parameter.all entries = .error error := by
  rw [ofMapping, ← givenSeed, failed]
  rfl

/-- A mapping that is accepted without its seed is accepted with any seed that can be
read. -/
theorem ofMapping_of_unseeded (distinct : (entries.map Prod.fst).Nodup)
    (accepted : ofMapping Parameter.all (unseeded entries) = .ok settings)
    (read : readSeed (givenSeed entries) = .ok seed) :
    ofMapping Parameter.all entries = .ok { settings with seed } := by
  have others : ((unseeded entries).map Prod.fst).Nodup :=
    distinct.sublist (List.filter_sublist.map Prod.fst)
  have noSeed : ∀ entry ∈ unseeded entries, entry.1 ≠ seedName := by simp [unseeded]
  rcases (ofMapping_eq_ok_iff others).mp accepted with ⟨_, described⟩
  rw [filter_unseeded noSeed] at described
  refine (ofMapping_eq_ok_iff distinct).mpr ⟨read, described.known, ?_, described.subset⟩
  intro parameter
  have same : setting { settings with seed } parameter = settings.setting parameter := by
    cases parameter <;> rfl
  rw [same]
  exact described.held parameter

theorem exists_ofMapping_truncated {number : Binary64} {amount : ℚ}
    (distinct : (entries.map Prod.fst).Nodup)
    (accepted : ofMapping Parameter.all (unseeded entries) = .ok settings)
    (given : givenSeed entries = .decimal number) (found : number.amount? = some amount) :
    ∃ whole, Binary64.Truncates amount whole ∧
      ofMapping Parameter.all entries = .ok { settings with seed := some whole } := by
  rcases readSeed_decimal found with ⟨whole, read, truncates⟩
  rw [← given] at read
  exact ⟨whole, truncates, ofMapping_of_unseeded distinct accepted read⟩

theorem ofMapping_of_infinite {negative : Bool}
    (given : givenSeed entries = .decimal (.infinite negative)) :
    ofMapping Parameter.all entries = .error .tooLarge := by
  apply ofMapping_of_readSeed_error
  rw [given]
  rfl

theorem takesSeed_of_not_inexact (distinct : (entries.map Prod.fst).Nodup)
    (isExact : ¬(givenSeed entries).Inexact) : TakesSeed entries where
  exactly settings accepted := by
    rcases means_of_readSeed ((ofMapping_eq_ok_iff distinct).mp accepted).1 with
      means | inexact
    · exact means
    · exact absurd inexact isExact
  refused meaningless :=
    ⟨.wrongType, ofMapping_of_readSeed_error (readSeed_of_meaningless meaningless isExact), rfl⟩

theorem TakesSeed.not_inexact (takes : TakesSeed entries)
    (distinct : (entries.map Prod.fst).Nodup)
    (accepted : ofMapping Parameter.all (unseeded entries) = .ok settings) :
    ¬(givenSeed entries).Inexact := by
  intro inexact
  generalize given : givenSeed entries = raw at inexact
  cases inexact with
  | infinite negative =>
      have meaningless : ∀ seed, ¬(givenSeed entries).MeansSeed seed := by
        rintro seed means
        rw [given] at means
        cases means with
        | decimal found => cases found
      rcases takes.refused meaningless with ⟨problem, failed, _⟩
      rw [ofMapping_of_infinite given] at failed
      cases failed
  | fractional found fractional =>
      rcases exists_ofMapping_truncated distinct accepted given found with ⟨whole, _, read⟩
      have means := takes.exactly _ read
      rw [given] at means
      cases means with
      | decimal same =>
          rw [found] at same
          exact fractional whole (Option.some.inj same).symm

/-- With values for all parameters, a mapping has its seed taken exactly or refused unless
the seed is a number that is no integer. A number with a fraction then loses it, and an
infinite one is no error of the settings. -/
theorem takesSeed_iff (distinct : (entries.map Prod.fst).Nodup)
    (accepted : ofMapping Parameter.all (unseeded entries) = .ok settings) :
    (TakesSeed entries ↔ ¬(givenSeed entries).Inexact) ∧
    (∀ seed, (givenSeed entries).MeansSeed seed →
      ofMapping Parameter.all entries = .ok { settings with seed }) ∧
    (∀ number amount, givenSeed entries = .decimal number → number.amount? = some amount →
      ∃ whole, Binary64.Truncates amount whole ∧
        ofMapping Parameter.all entries = .ok { settings with seed := some whole }) ∧
    ∀ negative, givenSeed entries = .decimal (.infinite negative) →
      ofMapping Parameter.all entries = .error .tooLarge := by
  refine ⟨⟨?_, takesSeed_of_not_inexact distinct⟩, ?_, ?_, fun _ => ofMapping_of_infinite⟩
  · intro takes
    exact takes.not_inexact distinct accepted
  · intro seed means
    exact ofMapping_of_unseeded distinct accepted (readSeed_of_means means)
  · intro number amount given found
    exact exists_ofMapping_truncated distinct accepted given found

/-- The values for two founders with a seed. -/
def seeded (seed : Value) : List (String × Value) :=
  Chronicle.prolificEntries ++ [(seedName, seed)]

theorem seeded_taken :
    ((seeded (.decimal .one)).map Prod.fst).Nodup ∧
      ofMapping Parameter.all (unseeded (seeded (.decimal .one))) = .ok Chronicle.prolific ∧
      ofMapping Parameter.all (seeded (.decimal .one)) =
        .ok { Chronicle.prolific with seed := some 1 } := by
  have distinct : ((seeded (.decimal .one)).map Prod.fst).Nodup := by decide +kernel
  have accepted : ofMapping Parameter.all (unseeded (seeded (.decimal .one))) =
      .ok Chronicle.prolific := by decide +kernel
  have means : (givenSeed (seeded (.decimal .one))).MeansSeed (some 1) :=
    .decimal (by decide +kernel)
  exact ⟨distinct, accepted, (takesSeed_iff distinct accepted).2.1 _ means⟩

/-- One and a half. -/
def oneAndHalf : Binary64 :=
  .ofDecimal false 15 (-1)

theorem seeded_not_taken :
    ((seeded (.decimal oneAndHalf)).map Prod.fst).Nodup ∧
      ofMapping Parameter.all (unseeded (seeded (.decimal oneAndHalf))) =
        .ok Chronicle.prolific ∧
      ofMapping Parameter.all (seeded (.decimal oneAndHalf)) =
        .ok { Chronicle.prolific with seed := some 1 } ∧
      ¬TakesSeed (seeded (.decimal oneAndHalf)) := by
  have accepted : ofMapping Parameter.all (seeded (.decimal oneAndHalf)) =
      .ok { Chronicle.prolific with seed := some 1 } := by decide +kernel
  have amount : oneAndHalf.amount? = some (3 / 2) := by decide +kernel
  refine ⟨by decide +kernel, by decide +kernel, accepted, fun takes => ?_⟩
  have means : (Value.decimal oneAndHalf).MeansSeed (some 1) := takes.exactly _ accepted
  cases means with
  | decimal same =>
      rw [amount] at same
      norm_num at same

end Settings

end Foragers
