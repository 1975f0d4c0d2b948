import Foragers.Proofs.Description
import Foragers.Proofs.Overflow
import Foragers.Session.Command

/-! # Refused settings

A mapping that describes no settings is refused for the first value that cannot be read,
or else for what is wrong with the settings as a whole. Nearly every refusal is told to
the user. Only a number that is too large to be converted is not: an infinite seed, or an
integer in the place of a fraction. On lines there are no such numbers.
-/

namespace Foragers

/-- Something is wrong with the settings as such, whatever the reason that is given. -/
def SettingsError.IsConfiguration : SettingsError → Prop
  | incorrect _ _ | missing _ => True
  | tooLarge | noPrograms => False

/-- The errors of settings that are told to the user are those of the settings as such. -/
theorem SettingsError.explanation?_eq (error : SettingsError) :
    (error.IsConfiguration →
      (SessionFault.load (.settings error)).explanation? = some error.message) ∧
    (¬error.IsConfiguration →
      (SessionFault.load (.settings error)).explanation? = none) := by
  cases error with
  | incorrect problem line => exact ⟨fun _ => rfl, fun no => absurd trivial no⟩
  | missing parameter => exact ⟨fun _ => rfl, fun no => absurd trivial no⟩
  | tooLarge => exact ⟨fun no => absurd no id, fun _ => rfl⟩
  | noPrograms => exact ⟨fun no => absurd no id, fun _ => rfl⟩

theorem Value.finiteDecimal_eq_error_iff {converted : Option Binary64}
    {error : SettingsError} :
    finiteDecimal converted = .error error ↔ error = .tooLarge ∧ converted = none := by
  cases converted with
  | none => simp [finiteDecimal, eq_comm]
  | some amount => simp [finiteDecimal]

/-- Only an integer can be too large to be converted, and it is from the limit on. -/
theorem Value.asDecimal?_eq_error_iff {value : Value} {error : SettingsError} :
    value.asDecimal? = .error error ↔
      error = .tooLarge ∧ ∃ number, value = .integer number ∧
        Binary64.limit ≤ number.natAbs := by
  cases value with
  | integer number =>
      rw [asDecimal?, finiteDecimal_eq_error_iff, Binary64.ofInt?_eq_none_iff]
      simp
  | null => simp [asDecimal?]
  | boolean value => simp [asDecimal?]
  | decimal value => simp [asDecimal?]
  | text content => simp [asDecimal?]
  | bytes content => simp [asDecimal?]
  | list items => simp [asDecimal?]
  | other => simp [asDecimal?]

namespace Parameter

/-- An integer that is given for a fraction although no finite number is near it. -/
inductive Oversized : Parameter → Value → Prop
  | intro {parameter : FractionParameter} {number : Int}
      (large : Binary64.limit ≤ number.natAbs) :
      Oversized (.fraction parameter) (.integer number)

variable {parameter : Parameter} {value : Value} {line : Option Int} {error : SettingsError}

/-- A value that cannot be read is incorrect, unless it is an oversized integer. -/
theorem read_error_cases (failed : parameter.read value line = .error error) :
    (∃ problem, error = .incorrect problem line) ∨
      error = .tooLarge ∧ Oversized parameter value := by
  cases parameter with
  | count parameter =>
      simp only [Parameter.read] at failed
      split at failed
      · cases failed
        exact .inl ⟨_, rfl⟩
      · cases failed
  | program parameter =>
      simp only [Parameter.read] at failed
      split at failed
      · cases failed
        exact .inl ⟨_, rfl⟩
      · cases failed
  | fraction parameter =>
      simp only [Parameter.read] at failed
      split at failed
      · rename_i tooLarge
        cases failed
        rcases Value.asDecimal?_eq_error_iff.mp tooLarge with ⟨rfl, number, rfl, large⟩
        exact .inr ⟨rfl, .intro large⟩
      · cases failed
        exact .inl ⟨_, rfl⟩
      · split at failed
        · cases failed
        · cases failed
          exact .inl ⟨_, rfl⟩

theorem read_of_oversized (oversized : Oversized parameter value) :
    parameter.read value line = .error .tooLarge := by
  cases oversized with
  | @intro parameter number large =>
      rw [Parameter.read, Value.asDecimal?_eq_error_iff.mpr ⟨rfl, number, rfl, large⟩]

theorem readNamed_eq_tooLarge_iff {name : String} :
    readNamed all name value line = .error .tooLarge ↔
      ∃ parameter : Parameter, name = parameter.name ∧ Oversized parameter value := by
  constructor
  · intro failed
    unfold readNamed at failed
    split at failed
    · cases failed
    · rename_i parameter found
      rcases read_error_cases failed with ⟨problem, incorrect⟩ | ⟨_, oversized⟩
      · cases incorrect
      · exact ⟨parameter, ofName?_eq_some_iff.mp found, oversized⟩
  · rintro ⟨parameter, rfl, oversized⟩
    rw [readNamed, ofName?_name]
    exact read_of_oversized oversized

theorem readNamed_isConfiguration {schema : List Parameter} {name : String}
    (failed : readNamed schema name value line = .error error) (small : error ≠ .tooLarge) :
    error.IsConfiguration := by
  unfold readNamed at failed
  split at failed
  · cases failed
    trivial
  · rcases read_error_cases failed with ⟨problem, rfl⟩ | ⟨tooLarge, _⟩
    · trivial
    · exact absurd tooLarge small

end Parameter

namespace Settings

variable {entries : List (String × Value)} {given : List Setting} {error : SettingsError}

/-- The values in front of the first one that cannot be read do not matter. -/
theorem readEntries_eq_error_iff {schema : List Parameter} :
    readEntries schema entries = .error error ↔
      ∃ before entry after, entries = before ++ entry :: after ∧
        (∀ earlier ∈ before, ∃ setting,
          Parameter.readNamed schema earlier.1 earlier.2 none = .ok setting) ∧
        Parameter.readNamed schema entry.1 entry.2 none = .error error := by
  constructor
  · intro failed
    induction entries with
    | nil => cases failed
    | cons entry rest induction =>
        simp only [readEntries] at failed
        rcases bind_eq_error failed with here | ⟨setting, first, continued⟩
        · exact ⟨[], entry, rest, rfl, by simp, here⟩
        · rcases bind_eq_error continued with later | ⟨others, _, done⟩
          · rcases induction later with ⟨before, bad, after, rfl, readable, bad_failed⟩
            refine ⟨entry :: before, bad, after, rfl, ?_, bad_failed⟩
            exact List.forall_mem_cons.mpr ⟨⟨setting, first⟩, readable⟩
          · cases done
  · rintro ⟨before, entry, after, rfl, readable, failed⟩
    induction before with
    | nil =>
        rw [List.nil_append, readEntries, failed]
        rfl
    | cons first rest induction =>
        rcases List.forall_mem_cons.mp readable with ⟨⟨setting, firstRead⟩, others⟩
        rw [List.cons_append, readEntries_cons firstRead, induction others]
        rfl

theorem exists_givenProgram?
    (complete : Parameter.all.find?
      (fun parameter => !(given.map Setting.parameter).contains parameter) = none)
    (wanted : ProgramParameter) : ∃ program, givenProgram? wanted given = some program := by
  have present : .program wanted ∈ given.map Setting.parameter := by
    simpa using List.find?_eq_none.mp complete (.program wanted) (Parameter.mem_all _)
  rcases List.mem_map.mp present with ⟨setting, member, parameterEq⟩
  cases setting with
  | count parameter value => cases parameterEq
  | fraction parameter value => cases parameterEq
  | program parameter value =>
      cases parameterEq
      cases found : givenProgram? wanted given with
      | some program => exact ⟨program, rfl⟩
      | none =>
          have noProgram := List.findSome?_eq_none_iff.mp found _ member
          simp [Setting.program?] at noProgram

theorem build_isConfiguration {seed line : Option Int}
    (failed : build Parameter.all given seed line = .error error) :
    error.IsConfiguration := by
  simp only [build] at failed
  split at failed
  · cases failed
    trivial
  · rename_i complete
    split at failed
    · split at failed
      · cases failed
      · cases failed
        trivial
    · rename_i noPrograms
      -- With all parameters given, both programs are.
      rcases exists_givenProgram? complete .instructionPool with ⟨pool, poolGiven⟩
      rcases exists_givenProgram? complete .initialProgram with ⟨program, programGiven⟩
      exact absurd programGiven (noPrograms pool program poolGiven)

/-- What is wrong with a line is an error of the settings: text is never too large. -/
theorem readLine_isConfiguration {schema : List Parameter} {earlier : List Setting}
    {number : Int} {line : String}
    (failed : readLine schema earlier number line = .error error) :
    error.IsConfiguration := by
  simp only [readLine] at failed
  split at failed
  · cases failed
  · split at failed
    · cases failed
      trivial
    · split at failed
      · cases failed
        trivial
      · cases failed
        trivial
      · split at failed
        · rename_i unread
          cases failed
          rcases Parameter.read_error_cases unread with ⟨problem, rfl⟩ | ⟨_, oversized⟩
          · trivial
          · cases oversized
        · cases failed
      · cases failed
        trivial

theorem readLines_isConfiguration {schema : List Parameter} {lines : List String}
    {earlier : List Setting} {number : Int}
    (failed : readLines schema earlier number lines = .error error) :
    error.IsConfiguration := by
  induction lines generalizing earlier number with
  | nil => cases failed
  | cons line rest induction =>
      simp only [readLines] at failed
      split at failed
      · rename_i here
        cases failed
        exact readLine_isConfiguration here
      · exact induction failed
      · exact induction failed

/-- Lines are refused for what is wrong with the settings, and for nothing else. -/
theorem ofLines_isConfiguration {lines : List String} {seed : Option Int}
    (failed : ofLines Parameter.all lines seed = .error error) : error.IsConfiguration := by
  simp only [ofLines] at failed
  split at failed
  · rename_i unread
    cases failed
    exact readLines_isConfiguration unread
  · exact build_isConfiguration failed

/-- A seed that cannot be read is of the wrong type, unless it is infinite. -/
theorem readSeed_error_cases {value : Value} (failed : readSeed value = .error error) :
    error = .incorrect .wrongType none ∨
      error = .tooLarge ∧ ∃ negative, value = .decimal (.infinite negative) := by
  cases value with
  | null => cases failed
  | integer number => cases failed
  | boolean value => exact .inl (Except.error.inj failed).symm
  | list items => exact .inl (Except.error.inj failed).symm
  | other => exact .inl (Except.error.inj failed).symm
  | text content =>
      simp only [readSeed] at failed
      split at failed
      · cases failed
      · exact .inl (Except.error.inj failed).symm
  | bytes content =>
      simp only [readSeed] at failed
      split at failed
      · cases failed
      · exact .inl (Except.error.inj failed).symm
  | decimal number =>
      cases number with
      | infinite negative => exact .inr ⟨(Except.error.inj failed).symm, negative, rfl⟩
      | nan negative => exact .inl (Except.error.inj failed).symm
      | finite negative units representable => cases failed

/-- A number of the mapping escapes its conversion before anything else is found to be
wrong: the seed is infinite, or the first value that cannot be read is oversized. -/
inductive Escapes (entries : List (String × Value)) : Prop
  | seed {negative : Bool}
      (infinite : entries.lookup seedName = some (.decimal (.infinite negative)))
  | entry {seed : Option Int} (before : List (String × Value)) (parameter : Parameter)
      (value : Value) (after : List (String × Value))
      (seedRead : readSeed ((entries.lookup seedName).getD .null) = .ok seed)
      (split : entries.filter (fun entry => entry.1 != seedName) =
        before ++ (parameter.name, value) :: after)
      (readable : ∀ earlier ∈ before, ∃ setting,
        Parameter.readNamed Parameter.all earlier.1 earlier.2 none = .ok setting)
      (oversized : parameter.Oversized value)

theorem readEntries_eq_tooLarge_iff :
    readEntries Parameter.all entries = .error .tooLarge ↔
      ∃ before, ∃ parameter : Parameter, ∃ value after,
        entries = before ++ (parameter.name, value) :: after ∧
          (∀ earlier ∈ before, ∃ setting,
            Parameter.readNamed Parameter.all earlier.1 earlier.2 none = .ok setting) ∧
          parameter.Oversized value := by
  rw [readEntries_eq_error_iff]
  constructor
  · rintro ⟨before, ⟨name, value⟩, after, split, readable, failed⟩
    rcases Parameter.readNamed_eq_tooLarge_iff.mp failed with ⟨parameter, rfl, oversized⟩
    exact ⟨before, parameter, value, after, split, readable, oversized⟩
  · rintro ⟨before, parameter, value, after, split, readable, oversized⟩
    exact ⟨before, (parameter.name, value), after, split, readable,
      Parameter.readNamed_eq_tooLarge_iff.mpr ⟨parameter, rfl, oversized⟩⟩

theorem ofMapping_eq_tooLarge_iff :
    ofMapping Parameter.all entries = .error .tooLarge ↔ Escapes entries := by
  constructor
  · intro failed
    rcases bind_eq_error failed with seedFailed | ⟨seed, seedRead, continued⟩
    · rcases readSeed_error_cases seedFailed with incorrect | ⟨_, negative, infinite⟩
      · cases incorrect
      · cases found : entries.lookup seedName with
        | none =>
            rw [found] at infinite
            cases infinite
        | some value =>
            rw [found] at infinite
            exact .seed (found.trans (congrArg some infinite))
    · rcases bind_eq_error continued with readFailed | ⟨given, _, buildFailed⟩
      · rcases readEntries_eq_tooLarge_iff.mp readFailed with
          ⟨before, parameter, value, after, split, readable, oversized⟩
        exact .entry before parameter value after seedRead split readable oversized
      · exact absurd (build_isConfiguration buildFailed) id
  · intro escapes
    cases escapes with
    | seed infinite =>
        rw [ofMapping, infinite]
        rfl
    | entry before parameter value after seedRead split readable oversized =>
        have failed := readEntries_eq_tooLarge_iff.mpr
          ⟨before, parameter, value, after, split, readable, oversized⟩
        rw [ofMapping_of_readSeed seedRead, failed]
        rfl

theorem ofMapping_isConfiguration
    (failed : ofMapping Parameter.all entries = .error error) (small : error ≠ .tooLarge) :
    error.IsConfiguration := by
  rcases bind_eq_error failed with seedFailed | ⟨seed, _, continued⟩
  · rcases readSeed_error_cases seedFailed with rfl | ⟨tooLarge, _⟩
    · trivial
    · exact absurd tooLarge small
  · rcases bind_eq_error continued with readFailed | ⟨given, _, buildFailed⟩
    · rcases readEntries_eq_error_iff.mp readFailed with ⟨_, _, _, _, _, entryFailed⟩
      exact Parameter.readNamed_isConfiguration entryFailed small
    · exact build_isConfiguration buildFailed

/-- A refused mapping is told to the user as an error of its settings, except for exactly
those in which a number escapes its conversion: these the user is never told about. -/
theorem mapping_refused (entries : List (String × Value)) :
    (∀ error, ofMapping Parameter.all entries = .error error → ¬Escapes entries →
      error.IsConfiguration ∧
        (SessionFault.load (.settings error)).explanation? = some error.message) ∧
    (Escapes entries → ∃ error, ofMapping Parameter.all entries = .error error ∧
      ¬error.IsConfiguration ∧
        (SessionFault.load (.settings error)).explanation? = none) := by
  constructor
  · intro error failed converted
    have small : error ≠ .tooLarge := by
      rintro rfl
      exact converted (ofMapping_eq_tooLarge_iff.mp failed)
    have configuration := ofMapping_isConfiguration failed small
    exact ⟨configuration, error.explanation?_eq.1 configuration⟩
  · intro escapes
    exact ⟨.tooLarge, ofMapping_eq_tooLarge_iff.mpr escapes, id,
      SettingsError.tooLarge.explanation?_eq.2 id⟩

/-- A probability that is far beyond all fractions. -/
def oversizedEntries : List (String × Value) :=
  [("reproduction_probability", .integer (10 ^ 400))]

theorem oversizedEntries_refused :
    Escapes oversizedEntries ∧ ∃ error,
      ofMapping Parameter.all oversizedEntries = .error error ∧
        ¬error.IsConfiguration ∧
          (SessionFault.load (.settings error)).explanation? = none := by
  have large : Binary64.limit ≤ (10 ^ 400 : Int).natAbs := by decide +kernel
  have escapes : Escapes oversizedEntries :=
    .entry [] (.fraction .reproductionProbability) (.integer (10 ^ 400)) [] rfl rfl (by simp)
      (.intro large)
  exact ⟨escapes, (mapping_refused oversizedEntries).2 escapes⟩

theorem not_all_refused_isConfiguration :
    ¬∀ entries error, ofMapping Parameter.all entries = .error error →
      error.IsConfiguration := by
  intro always
  have failed : ofMapping Parameter.all oversizedEntries = .error .tooLarge := by
    decide +kernel
  exact always _ _ failed

end Settings

end Foragers
