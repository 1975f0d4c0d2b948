import Foragers.Proofs.Description
import Foragers.Proofs.Lineage
import Foragers.Proofs.Overflow
import Mathlib.Algebra.Order.Field.Basic
import Mathlib.Algebra.Order.Field.Rat

/-! # What values mean

A value means a setting of the parameter that it is given to: a number of the right kind
and in the right range, written as a number or spelled as text, or the text of a program.
A mapping is accepted when it has one meaningful value for every parameter and nothing
else, and the settings then hold what the values mean.
-/

namespace Foragers

namespace Binary64

/-- The rational number that a finite number is. -/
def amount? (number : Binary64) : Option ℚ :=
  number.units?.map fun units : Int => (units : ℚ) / unitsPerOne

/-- The number is one from zero to one. -/
def InUnit (number : Binary64) : Prop :=
  ∃ amount, number.amount? = some amount ∧ 0 ≤ amount ∧ amount ≤ 1

theorem isFraction_iff_units {number : Binary64} :
    number.isFraction = true ↔
      ∃ units, number.units? = some units ∧ 0 ≤ units ∧ units ≤ (unitsPerOne : Int) := by
  cases number with
  | nan negative => simp [isFraction, zero, le, units?]
  | infinite negative => cases negative <;> simp [isFraction, zero, one, le, units?]
  | finite negative units representable => simp [isFraction, zero, one, le, units?, signed]

theorem isFraction_iff_inUnit {number : Binary64} :
    number.isFraction = true ↔ number.InUnit := by
  have positive : (0 : ℚ) < unitsPerOne := Nat.cast_pos.mpr unitsPerOne_pos
  have bounds : ∀ units : Int, (0 ≤ units ∧ units ≤ (unitsPerOne : Int)) ↔
      (0 : ℚ) ≤ units / unitsPerOne ∧ (units : ℚ) / unitsPerOne ≤ 1 := by
    intro units
    rw [le_div_iff₀ positive, zero_mul, div_le_one positive]
    norm_cast
  rw [isFraction_iff_units]
  simp only [InUnit, amount?, Option.map_eq_some_iff]
  constructor
  · rintro ⟨units, unitsEq, within⟩
    exact ⟨_, ⟨units, unitsEq, rfl⟩, (bounds units).mp within⟩
  · rintro ⟨_, ⟨units, unitsEq, rfl⟩, within⟩
    exact ⟨units, unitsEq, (bounds units).mpr within⟩

theorem units?_of_ofInt? {value : Int} {nearest : Binary64}
    (found : ofInt? value = some nearest) :
    nearest.units? =
      some (signed (value < 0) (roundSignificant (value.natAbs * unitsPerOne) 1)) := by
  simp only [ofInt?, ofQuotient, finite?] at found
  split at found
  · split at found
    · cases found
      rfl
    · cases found
  · simp [isFinite] at found

theorem eq_zero_or_one_of_isFraction {value : Int} {nearest : Binary64}
    (found : ofInt? value = some nearest) (isFraction : nearest.isFraction = true) :
    value = 0 ∨ value = 1 := by
  rcases isFraction_iff_units.mp isFraction with ⟨units, unitsEq, nonneg, atMost⟩
  rw [units?_of_ofInt? found, Option.some.injEq] at unitsEq
  have one := roundSignificant_unitsPerOne (show 1 ≤ 2 ^ 53 by decide)
  have two := roundSignificant_unitsPerOne (show 2 ≤ 2 ^ 53 by decide)
  have positive := unitsPerOne_pos
  by_contra outside
  -- Rounding keeps what is at most minus one, or at least two, where it is.
  rcases lt_or_ge value 0 with negative | notNegative
  · have atLeast := roundSignificant_mono Nat.one_pos
      (Nat.mul_le_mul_right unitsPerOne (show 1 ≤ value.natAbs by omega))
    rw [signed, if_pos (by simpa using negative)] at unitsEq
    omega
  · have atLeast := roundSignificant_mono Nat.one_pos
      (Nat.mul_le_mul_right unitsPerOne (show 2 ≤ value.natAbs by omega))
    rw [signed, if_neg (by simpa using notNegative)] at unitsEq
    omega

/-- Only the integers zero and one have a nearest number from zero to one, and it is
they themselves. -/
theorem ofInt?_isFraction_iff {value : Int} {nearest : Binary64} :
    ofInt? value = some nearest ∧ nearest.isFraction = true ↔
      value = 0 ∧ nearest = zero ∨ value = 1 ∧ nearest = one := by
  have nearestZero : ofInt? 0 = some zero := by decide +kernel
  have nearestOne : ofInt? 1 = some one := by decide +kernel
  constructor
  · rintro ⟨found, isFraction⟩
    rcases eq_zero_or_one_of_isFraction found isFraction with rfl | rfl
    · rw [nearestZero] at found
      exact .inl ⟨rfl, (Option.some.inj found).symm⟩
    · rw [nearestOne] at found
      exact .inr ⟨rfl, (Option.some.inj found).symm⟩
  · rintro (⟨rfl, rfl⟩ | ⟨rfl, rfl⟩)
    · exact ⟨nearestZero, by decide +kernel⟩
    · exact ⟨nearestOne, by decide +kernel⟩

end Binary64

/-- A value means a setting: a number in the range of the parameter, or a program. -/
inductive Value.Means : Value → Setting → Prop
  | integer {parameter : CountParameter} {number : Int}
      (within : parameter.least ≤ number) :
      Means (.integer number) (.count parameter number)
  | integerText {parameter : CountParameter} {content : String} {number : Int}
      (spelled : Text.integer? content.toList = some number)
      (within : parameter.least ≤ number) :
      Means (.text content) (.count parameter number)
  | zero {parameter : FractionParameter} :
      Means (.integer 0) (.fraction parameter .zero)
  | one {parameter : FractionParameter} :
      Means (.integer 1) (.fraction parameter .one)
  | decimal {parameter : FractionParameter} {number : Binary64}
      (within : number.InUnit) :
      Means (.decimal number) (.fraction parameter number)
  | decimalText {parameter : FractionParameter} {content : String} {number : Binary64}
      (spelled : Text.decimal? content.toList = some number) (within : number.InUnit) :
      Means (.text content) (.fraction parameter number)
  | decimalBytes {parameter : FractionParameter} {content : List UInt8} {number : Binary64}
      (spelled : Text.decimal? (charactersOfBytes content) = some number)
      (within : number.InUnit) :
      Means (.bytes content) (.fraction parameter number)
  | program {parameter : ProgramParameter} {program : Program} (nonempty : program ≠ []) :
      Means (.text program.text) (.program parameter program)

theorem Program.symbols_of_ofSymbols {symbols : List Char} {program : Program}
    (read : ofSymbols symbols = .ok program) : program.symbols = symbols := by
  induction symbols generalizing program with
  | nil =>
      cases read
      rfl
  | cons symbol rest induction =>
      simp only [ofSymbols] at read
      split at read
      · cases read
      · rename_i instruction found
        split at read
        · cases read
        · rename_i others othersRead
          cases read
          rw [Program.symbols, List.map_cons, Instruction.symbol_of_ofSymbol? found]
          exact congrArg (symbol :: ·) (induction othersRead)

/-- Exactly the texts of programs are read as programs. -/
theorem Program.ofText_eq_ok_iff {text : String} {program : Program} :
    ofText text = .ok program ↔ text = program.text := by
  constructor
  · intro read
    rw [Program.text, symbols_of_ofSymbols read, String.ofList_toList]
  · rintro rfl
    exact ofText_text program

theorem Program.text_injective : Function.Injective Program.text := by
  intro left right same
  have read := ofText_text left
  rw [same, ofText_text] at read
  exact (Except.ok.inj read).symm

theorem Value.finiteDecimal_eq_ok_iff {converted : Option Binary64} {number : Binary64} :
    finiteDecimal converted = .ok (some number) ↔ converted = some number := by
  cases converted <;> simp [finiteDecimal]

namespace Value.Means

variable {value : Value}

theorem count_iff {parameter : CountParameter} {number : Int} :
    value.Means (.count parameter number) ↔ parameter.read value = .ok number := by
  constructor
  · intro means
    cases means with
    | integer within => exact if_pos within
    | integerText spelled within =>
        rw [CountParameter.read, asInteger?, spelled]
        exact if_pos within
  · intro read
    unfold CountParameter.read at read
    split at read
    · cases read
    · rename_i found given
      split at read
      · rename_i within
        cases read
        cases value with
        | integer number =>
            cases given
            exact .integer within
        | text content => exact .integerText given within
        | null => cases given
        | boolean value => cases given
        | decimal value => cases given
        | bytes content => cases given
        | list items => cases given
        | other => cases given
      · cases read

theorem fraction_iff {parameter : FractionParameter} {number : Binary64} :
    value.Means (.fraction parameter number) ↔
      value.asDecimal? = .ok (some number) ∧ number.isFraction = true := by
  constructor
  · intro means
    cases means with
    | zero =>
        rcases Binary64.ofInt?_isFraction_iff.mpr (.inl ⟨rfl, rfl⟩) with ⟨found, isFraction⟩
        exact ⟨finiteDecimal_eq_ok_iff.mpr found, isFraction⟩
    | one =>
        rcases Binary64.ofInt?_isFraction_iff.mpr (.inr ⟨rfl, rfl⟩) with ⟨found, isFraction⟩
        exact ⟨finiteDecimal_eq_ok_iff.mpr found, isFraction⟩
    | decimal within => exact ⟨rfl, Binary64.isFraction_iff_inUnit.mpr within⟩
    | decimalText spelled within =>
        exact ⟨congrArg Except.ok spelled, Binary64.isFraction_iff_inUnit.mpr within⟩
    | decimalBytes spelled within =>
        exact ⟨congrArg Except.ok spelled, Binary64.isFraction_iff_inUnit.mpr within⟩
  · rintro ⟨given, isFraction⟩
    have within := Binary64.isFraction_iff_inUnit.mp isFraction
    cases value with
    | integer whole =>
        have found := finiteDecimal_eq_ok_iff.mp given
        rcases Binary64.ofInt?_isFraction_iff.mp ⟨found, isFraction⟩ with
          ⟨rfl, rfl⟩ | ⟨rfl, rfl⟩
        · exact .zero
        · exact .one
    | decimal value =>
        cases given
        exact .decimal within
    | text content => exact .decimalText (Except.ok.inj given) within
    | bytes content => exact .decimalBytes (Except.ok.inj given) within
    | null => cases given
    | boolean value => cases given
    | list items => cases given
    | other => cases given

theorem program_iff {parameter : ProgramParameter} {program : Program} :
    value.Means (.program parameter program) ↔ parameter.read value = .ok program := by
  constructor
  · intro means
    cases means with
    | program nonempty =>
        rw [ProgramParameter.read, Program.ofText_text]
        cases program with
        | nil => exact absurd rfl nonempty
        | cons first rest => rfl
  · intro read
    unfold ProgramParameter.read at read
    split at read
    · rename_i text
      split at read
      · cases read
      · cases read
      · rename_i nonempty found
        cases read
        rw [Program.ofText_eq_ok_iff.mp found]
        exact .program fun empty => nonempty (by rw [empty])
    · cases read

theorem eq_text {parameter : ProgramParameter} {program : Program}
    (means : value.Means (.program parameter program)) : value = .text program.text := by
  cases means with
  | program nonempty => rfl

end Value.Means

namespace Parameter

/-- What is read for a parameter is what the value means there. -/
theorem read_eq_ok_iff {parameter : Parameter} {value : Value} {line : Option Int}
    {setting : Setting} :
    parameter.read value line = .ok setting ↔
      setting.parameter = parameter ∧ value.Means setting := by
  constructor
  · intro read
    refine ⟨read_parameter read, ?_⟩
    cases parameter with
    | count parameter =>
        simp only [Parameter.read] at read
        split at read
        · cases read
        · rename_i number counted
          cases read
          exact Value.Means.count_iff.mpr counted
    | fraction parameter =>
        simp only [Parameter.read] at read
        split at read
        · cases read
        · cases read
        · rename_i number given
          split at read
          · rename_i isFraction
            cases read
            exact Value.Means.fraction_iff.mpr ⟨given, isFraction⟩
          · cases read
    | program parameter =>
        simp only [Parameter.read] at read
        split at read
        · cases read
        · rename_i program written
          cases read
          exact Value.Means.program_iff.mpr written
  · rintro ⟨rfl, means⟩
    cases setting with
    | count parameter number =>
        simp only [Setting.parameter, Parameter.read, Value.Means.count_iff.mp means]
    | fraction parameter number =>
        rcases Value.Means.fraction_iff.mp means with ⟨given, isFraction⟩
        simp only [Setting.parameter, Parameter.read, given, isFraction, if_true]
    | program parameter program =>
        simp only [Setting.parameter, Parameter.read, Value.Means.program_iff.mp means]

theorem names_nodup : (all.map name).Nodup :=
  List.Nodup.map name_injective (by decide)

theorem mem_names_iff {entryName : String} :
    entryName ∈ all.map name ↔ ∃ parameter : Parameter, entryName = parameter.name := by
  constructor
  · intro member
    rcases List.mem_map.mp member with ⟨parameter, _, nameEq⟩
    exact ⟨parameter, nameEq.symm⟩
  · rintro ⟨parameter, rfl⟩
    exact List.mem_map_of_mem parameter.mem_all

end Parameter

namespace Settings

variable {entries : List (String × Value)}

/-- There is one value for every parameter and nothing else, and the settings hold what
the values mean. -/
structure DenotedBy (settings : Settings) (entries : List (String × Value)) : Prop where
  complete : (entries.map Prod.fst).Perm (Parameter.all.map Parameter.name)
  means : ∀ (parameter : Parameter) (value : Value), (parameter.name, value) ∈ entries →
    value.Means (settings.setting parameter)
  subset : settings.initialProgram ⊆ settings.instructionPool

theorem describedBy_iff_denotedBy (distinct : (entries.map Prod.fst).Nodup)
    {settings : Settings} : settings.DescribedBy entries ↔ settings.DenotedBy entries := by
  constructor
  · intro described
    refine ⟨?_, ?_, described.subset⟩
    · rw [List.perm_ext_iff_of_nodup distinct Parameter.names_nodup]
      intro name
      rw [Parameter.mem_names_iff]
      constructor
      · intro member
        rcases List.mem_map.mp member with ⟨entry, present, rfl⟩
        exact described.known entry present
      · rintro ⟨parameter, rfl⟩
        rcases described.held parameter with ⟨value, present, _⟩
        exact List.mem_map_of_mem present
    · intro parameter value member
      rcases described.held parameter with ⟨heldValue, heldMember, read⟩
      have same := List.inj_on_of_nodup_map distinct member heldMember rfl
      cases same
      exact (Parameter.read_eq_ok_iff.mp read).2
  · intro denoted
    refine ⟨?_, ?_, denoted.subset⟩
    · intro entry member
      exact Parameter.mem_names_iff.mp
        (denoted.complete.mem_iff.mp (List.mem_map_of_mem member))
    · intro parameter
      have named := denoted.complete.mem_iff.mpr (List.mem_map_of_mem parameter.mem_all)
      rcases List.mem_map.mp named with ⟨⟨name, value⟩, member, rfl⟩
      exact ⟨value, member, Parameter.read_eq_ok_iff.mpr
        ⟨settings.setting_parameter parameter, denoted.means parameter value member⟩⟩

/-- Settings can hold any values. -/
theorem exists_setting_eq (seed : Option Int) (held : Parameter → Setting)
    (own : ∀ parameter, (held parameter).parameter = parameter) :
    ∃ settings : Settings, settings.seed = seed ∧
      ∀ parameter, settings.setting parameter = held parameter := by
  have parameters : (Parameter.all.map held).map Setting.parameter = Parameter.all := by
    rw [List.map_map]
    exact (List.map_congr_left fun parameter _ => own parameter).trans (List.map_id _)
  have distinct : ((Parameter.all.map held).map Setting.parameter).Nodup := by
    rw [parameters]
    decide
  refine ⟨(Parameter.all.map held).foldl assign { seed }, seed_foldl_assign _ _, ?_⟩
  intro parameter
  have same := setting_foldl_assign { seed } distinct (List.mem_map_of_mem parameter.mem_all)
  rwa [own] at same

/-- There is one value for every parameter and nothing else, every value means something
there, and the program of the founders is drawn from the pool. -/
structure Meaningful (entries : List (String × Value)) : Prop where
  complete : (entries.map Prod.fst).Perm (Parameter.all.map Parameter.name)
  means : ∀ (parameter : Parameter) (value : Value), (parameter.name, value) ∈ entries →
    ∃ setting : Setting, setting.parameter = parameter ∧ value.Means setting
  drawn : ∀ program pool : Program,
    ((Parameter.program .initialProgram).name, .text program.text) ∈ entries →
    ((Parameter.program .instructionPool).name, .text pool.text) ∈ entries →
    program ⊆ pool

theorem Meaningful.exists_denotedBy (distinct : (entries.map Prod.fst).Nodup)
    (meaningful : Meaningful entries) :
    ∃ settings : Settings, settings.seed = none ∧ settings.DenotedBy entries := by
  have given : ∀ parameter : Parameter, ∃ setting : Setting,
      setting.parameter = parameter ∧
        ∃ value, (parameter.name, value) ∈ entries ∧ value.Means setting := by
    intro parameter
    have named := meaningful.complete.mem_iff.mpr (List.mem_map_of_mem parameter.mem_all)
    rcases List.mem_map.mp named with ⟨⟨name, value⟩, member, rfl⟩
    rcases meaningful.means parameter value member with ⟨setting, own, means⟩
    exact ⟨setting, own, value, member, means⟩
  choose held own value member means using given
  rcases exists_setting_eq none held own with ⟨settings, unseeded, holds⟩
  refine ⟨settings, unseeded, meaningful.complete, ?_, ?_⟩
  · intro parameter another anotherMember
    have same := List.inj_on_of_nodup_map distinct anotherMember (member parameter) rfl
    cases same
    rw [holds]
    exact means parameter
  · have program := means (.program .initialProgram)
    have pool := means (.program .instructionPool)
    rw [← holds] at program pool
    apply meaningful.drawn
    · rw [← program.eq_text]
      exact member _
    · rw [← pool.eq_text]
      exact member _

theorem DenotedBy.meaningful {settings : Settings} (denoted : settings.DenotedBy entries) :
    Meaningful entries where
  complete := denoted.complete
  means parameter value member :=
    ⟨settings.setting parameter, settings.setting_parameter parameter,
      denoted.means parameter value member⟩
  drawn program pool programMember poolMember := by
    have programText := (denoted.means _ _ programMember).eq_text
    have poolText := (denoted.means _ _ poolMember).eq_text
    rw [Value.text.injEq] at programText poolText
    rw [Program.text_injective programText, Program.text_injective poolText]
    exact denoted.subset

/-- A mapping without a seed is accepted exactly when it is meaningful, and then as the
settings that it denotes. -/
theorem mapping_accepted_iff (distinct : (entries.map Prod.fst).Nodup)
    (unseeded : ∀ entry ∈ entries, entry.1 ≠ seedName) :
    ((∃ settings, ofMapping Parameter.all entries = .ok settings) ↔ Meaningful entries) ∧
    ∀ settings, ofMapping Parameter.all entries = .ok settings ↔
      settings.seed = none ∧ settings.DenotedBy entries := by
  have denoted : ∀ settings, ofMapping Parameter.all entries = .ok settings ↔
      settings.seed = none ∧ settings.DenotedBy entries := by
    intro settings
    have noSeed : entries.lookup seedName = none :=
      List.lookup_eq_none_iff.mpr fun entry member => bne_iff_ne.mpr (unseeded entry member).symm
    rw [ofMapping_eq_ok_iff distinct, noSeed, filter_unseeded unseeded,
      describedBy_iff_denotedBy distinct]
    simp [readSeed, eq_comm]
  refine ⟨?_, denoted⟩
  constructor
  · rintro ⟨settings, accepted⟩
    exact ((denoted settings).mp accepted).2.meaningful
  · intro meaningful
    rcases meaningful.exists_denotedBy distinct with ⟨settings, seedEq, denotedBy⟩
    exact ⟨settings, (denoted settings).mpr ⟨seedEq, denotedBy⟩⟩

theorem prolific_accepted :
    (Chronicle.prolificEntries.map Prod.fst).Nodup ∧
      (∀ entry ∈ Chronicle.prolificEntries, entry.1 ≠ seedName) ∧
      Meaningful Chronicle.prolificEntries ∧
      Chronicle.prolific.DenotedBy Chronicle.prolificEntries := by
  have distinct : (Chronicle.prolificEntries.map Prod.fst).Nodup := by decide +kernel
  have unseeded : ∀ entry ∈ Chronicle.prolificEntries, entry.1 ≠ seedName := by decide +kernel
  have accepted : ofMapping Parameter.all Chronicle.prolificEntries =
      .ok Chronicle.prolific := by
    decide +kernel
  rcases mapping_accepted_iff distinct unseeded with ⟨meaningful, denoted⟩
  exact ⟨distinct, unseeded, meaningful.mp ⟨_, accepted⟩, ((denoted _).mp accepted).2⟩

end Settings

end Foragers
