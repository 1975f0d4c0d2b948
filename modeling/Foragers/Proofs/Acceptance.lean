import Foragers.Proofs.Outcome
import Foragers.Settings.Load
import Mathlib.Data.List.Nodup

/-! # Accepted settings

Settings that were put together from raw values hold, for every parameter, a value
that passes the parameter's own check: one that was read, or else the default.
-/

namespace Foragers

/-- A value passes the check of the parameter that it is given to. -/
def Setting.Valid : Setting → Prop
  | .count parameter value => parameter.least ≤ value
  | .fraction _ value => value.isFraction = true
  | .program _ value => value ≠ []

instance : DecidablePred Setting.Valid
  | .count parameter value => inferInstanceAs (Decidable (parameter.least ≤ value))
  | .fraction _ value => inferInstanceAs (Decidable (value.isFraction = true))
  | .program _ value => inferInstanceAs (Decidable (value ≠ []))

def Settings.Valid (settings : Settings) : Prop :=
  ∀ parameter, (settings.setting parameter).Valid

namespace Parameter

theorem read_count_valid {parameter : CountParameter} {value : Value} {number : Int}
    (read : parameter.read value = .ok number) : (Setting.count parameter number).Valid := by
  unfold CountParameter.read at read
  split at read
  · cases read
  · split at read
    · rename_i within
      cases read
      exact within
    · cases read

theorem read_program_valid {parameter : ProgramParameter} {value : Value}
    {program : Program} (read : parameter.read value = .ok program) :
    (Setting.program parameter program).Valid := by
  unfold ProgramParameter.read at read
  split at read
  · split at read
    · cases read
    · cases read
    · rename_i nonempty _
      cases read
      exact nonempty
  · cases read

theorem read_valid {parameter : Parameter} {value : Value} {line : Option Int}
    {setting : Setting} (read : parameter.read value line = .ok setting) :
    setting.Valid := by
  cases parameter with
  | count parameter =>
      simp only [Parameter.read] at read
      split at read
      · cases read
      · rename_i number
        cases read
        exact read_count_valid number
  | fraction parameter =>
      simp only [Parameter.read] at read
      split at read
      · cases read
      · cases read
      · split at read
        · rename_i isFraction
          cases read
          exact isFraction
        · cases read
  | program parameter =>
      simp only [Parameter.read] at read
      split at read
      · cases read
      · rename_i program
        cases read
        exact read_program_valid program

theorem read_parameter {parameter : Parameter} {value : Value} {line : Option Int}
    {setting : Setting} (read : parameter.read value line = .ok setting) :
    setting.parameter = parameter := by
  cases parameter with
  | count parameter =>
      simp only [Parameter.read] at read
      split at read
      · cases read
      · cases read
        rfl
  | fraction parameter =>
      simp only [Parameter.read] at read
      split at read
      · cases read
      · cases read
      · split at read
        · cases read
          rfl
        · cases read
  | program parameter =>
      simp only [Parameter.read] at read
      split at read
      · cases read
      · cases read
        rfl

theorem name_of_ofName? {schema : List Parameter} {name : String} {parameter : Parameter}
    (found : ofName? schema name = some parameter) : parameter.name = name := by
  simpa using List.find?_some found

theorem readNamed_name {schema : List Parameter} {name : String} {value : Value}
    {line : Option Int} {setting : Setting}
    (read : readNamed schema name value line = .ok setting) :
    setting.parameter.name = name := by
  unfold readNamed at read
  split at read
  · cases read
  · rename_i found
    rw [read_parameter read]
    exact name_of_ofName? found

theorem readNamed_valid {schema : List Parameter} {name : String} {value : Value}
    {line : Option Int} {setting : Setting}
    (read : readNamed schema name value line = .ok setting) : setting.Valid := by
  unfold readNamed at read
  split at read
  · cases read
  · exact read_valid read

end Parameter

namespace Settings

theorem setting_assign_other (settings : Settings) (setting : Setting)
    {parameter : Parameter} (other : parameter ≠ setting.parameter) :
    (settings.assign setting).setting parameter = settings.setting parameter := by
  cases setting with
  | count assigned value =>
      cases parameter with
      | count parameter =>
          cases assigned <;> cases parameter <;> first | rfl | exact absurd rfl other
      | fraction parameter => cases assigned <;> rfl
      | program parameter => cases assigned <;> rfl
  | fraction assigned value =>
      cases parameter with
      | count parameter => cases assigned <;> rfl
      | fraction parameter =>
          cases assigned <;> cases parameter <;> first | rfl | exact absurd rfl other
      | program parameter => cases assigned <;> rfl
  | program assigned value =>
      cases parameter with
      | count parameter => cases assigned <;> rfl
      | fraction parameter => cases assigned <;> rfl
      | program parameter =>
          cases assigned <;> cases parameter <;> first | rfl | exact absurd rfl other

theorem Valid.assign {settings : Settings} {setting : Setting} (valid : settings.Valid)
    (given : setting.Valid) : (settings.assign setting).Valid := by
  intro parameter
  by_cases same : parameter = setting.parameter
  · rw [same, setting_assign_same]
    exact given
  · rw [setting_assign_other settings setting same]
    exact valid parameter

theorem valid_default (seed : Option Int) : Valid { seed } := by
  have valid : Valid {} := by
    intro parameter
    cases parameter with
    | count parameter => cases parameter <;> decide
    | fraction parameter => cases parameter <;> decide +kernel
    | program parameter => cases parameter <;> decide
  intro parameter
  exact valid parameter

theorem Valid.foldl_assign {settings : Settings} {given : List Setting}
    (valid : settings.Valid) (givenValid : ∀ setting ∈ given, setting.Valid) :
    (given.foldl Settings.assign settings).Valid := by
  induction given generalizing settings with
  | nil => exact valid
  | cons setting rest induction =>
      apply induction (valid.assign (givenValid setting List.mem_cons_self))
      intro other member
      exact givenValid other (List.mem_cons_of_mem _ member)

theorem readEntries_valid {schema : List Parameter} {entries : List (String × Value)}
    {given : List Setting} (read : readEntries schema entries = .ok given) :
    ∀ setting ∈ given, setting.Valid := by
  induction entries generalizing given with
  | nil =>
      cases read
      intro setting member
      cases member
  | cons entry rest induction =>
      simp only [readEntries] at read
      rcases bind_eq_ok read with ⟨setting, first, continued⟩
      rcases bind_eq_ok continued with ⟨others, later, givenEq⟩
      cases givenEq
      intro other member
      rcases List.mem_cons.mp member with same | member
      · rw [same]
        exact Parameter.readNamed_valid first
      · exact induction later other member

theorem build_valid {schema : List Parameter} {given : List Setting}
    {seed line : Option Int} {settings : Settings}
    (built : build schema given seed line = .ok settings)
    (givenValid : ∀ setting ∈ given, setting.Valid) : settings.Valid := by
  simp only [build] at built
  split at built
  · cases built
  · split at built
    · split at built
      · cases built
        exact (valid_default seed).foldl_assign givenValid
      · cases built
    · cases built

theorem setting_foldl_assign_other {settings : Settings} {given : List Setting}
    {parameter : Parameter} (absent : parameter ∉ given.map Setting.parameter) :
    (given.foldl assign settings).setting parameter = settings.setting parameter := by
  induction given generalizing settings with
  | nil => rfl
  | cons head rest induction =>
      rw [List.map_cons, List.mem_cons, not_or] at absent
      rw [List.foldl_cons, induction absent.2]
      exact setting_assign_other settings head absent.1

/-- When no parameter is given twice, what was given is what the settings hold. -/
theorem setting_foldl_assign (settings : Settings) {given : List Setting}
    (distinct : (given.map Setting.parameter).Nodup) {setting : Setting}
    (member : setting ∈ given) :
    (given.foldl assign settings).setting setting.parameter = setting := by
  induction given generalizing settings with
  | nil => cases member
  | cons head rest induction =>
      rw [List.map_cons, List.nodup_cons] at distinct
      rw [List.foldl_cons]
      rcases List.mem_cons.mp member with same | later
      · subst same
        rw [setting_foldl_assign_other distinct.1]
        exact setting_assign_same settings setting
      · exact induction _ distinct.2 later

theorem mem_of_givenProgram? {wanted : ProgramParameter} {given : List Setting}
    {program : Program} (found : givenProgram? wanted given = some program) :
    .program wanted program ∈ given := by
  rcases List.exists_of_findSome?_eq_some found with ⟨setting, member, isProgram⟩
  cases setting with
  | count parameter value => cases isProgram
  | fraction parameter value => cases isProgram
  | program parameter value =>
      simp only [Setting.program?] at isProgram
      split at isProgram
      · rename_i same
        cases isProgram
        rwa [same] at member
      · cases isProgram

theorem all_contains_iff_subset {program pool : Program} :
    program.all pool.contains = true ↔ program ⊆ pool := by
  simp [List.subset_def]

/-- Settings are put together only when the founders' program is drawn from the pool. -/
theorem build_program_subset {schema : List Parameter} {given : List Setting}
    {seed line : Option Int} {settings : Settings}
    (built : build schema given seed line = .ok settings)
    (distinct : (given.map Setting.parameter).Nodup) :
    settings.initialProgram ⊆ settings.instructionPool := by
  simp only [build] at built
  split at built
  · cases built
  · split at built
    · rename_i pool program poolGiven programGiven
      split at built
      · rename_i within
        cases built
        have poolHeld := setting_foldl_assign { seed } distinct
          (mem_of_givenProgram? poolGiven)
        have programHeld := setting_foldl_assign { seed } distinct
          (mem_of_givenProgram? programGiven)
        simp only [Setting.parameter, setting, Setting.program.injEq, true_and]
          at poolHeld programHeld
        rw [poolHeld, programHeld]
        exact all_contains_iff_subset.mp within
      · cases built
    · cases built

theorem readEntries_names {schema : List Parameter} {entries : List (String × Value)}
    {given : List Setting} (read : readEntries schema entries = .ok given) :
    given.map (fun setting => setting.parameter.name) = entries.map Prod.fst := by
  induction entries generalizing given with
  | nil =>
      cases read
      rfl
  | cons entry rest induction =>
      simp only [readEntries] at read
      rcases bind_eq_ok read with ⟨setting, first, continued⟩
      rcases bind_eq_ok continued with ⟨others, later, givenEq⟩
      cases givenEq
      rw [List.map_cons, List.map_cons, Parameter.readNamed_name first, induction later]

theorem readEntries_distinct {schema : List Parameter} {entries : List (String × Value)}
    {given : List Setting} (read : readEntries schema entries = .ok given)
    (distinct : (entries.map Prod.fst).Nodup) :
    (given.map Setting.parameter).Nodup := by
  rw [← readEntries_names read] at distinct
  apply List.Nodup.of_map Parameter.name
  rwa [List.map_map]

theorem ofMapping_valid {schema : List Parameter} {entries : List (String × Value)}
    {settings : Settings} (accepted : ofMapping schema entries = .ok settings) :
    settings.Valid := by
  unfold ofMapping at accepted
  rcases bind_eq_ok accepted with ⟨seed, _, continued⟩
  rcases bind_eq_ok continued with ⟨given, read, built⟩
  exact build_valid built (readEntries_valid read)

theorem ofMapping_program_subset {schema : List Parameter}
    {entries : List (String × Value)} {settings : Settings}
    (distinct : (entries.map Prod.fst).Nodup)
    (accepted : ofMapping schema entries = .ok settings) :
    settings.initialProgram ⊆ settings.instructionPool := by
  unfold ofMapping at accepted
  rcases bind_eq_ok accepted with ⟨seed, _, continued⟩
  rcases bind_eq_ok continued with ⟨given, read, built⟩
  refine build_program_subset built (readEntries_distinct read ?_)
  exact distinct.sublist (List.filter_sublist.map Prod.fst)

/-- A line gives a valid value to a parameter that no earlier line gave one to. -/
theorem readLine_valid {schema : List Parameter} {earlier : List Setting} {number : Int}
    {line : String} {setting : Setting}
    (read : readLine schema earlier number line = .ok (some setting)) :
    setting.Valid ∧ setting.parameter ∉ earlier.map Setting.parameter := by
  simp only [readLine] at read
  split at read
  · cases read
  · split at read
    · cases read
    · rename_i name values _ fresh
      split at read
      · cases read
      · cases read
      · rename_i parameter text found _
        split at read
        · cases read
        · rename_i value
          cases read
          refine ⟨Parameter.read_valid value, fun given => fresh ?_⟩
          rcases List.mem_map.mp given with ⟨other, member, same⟩
          rw [List.any_eq_true]
          refine ⟨other, member, ?_⟩
          rw [same, Parameter.read_parameter value, Parameter.name_of_ofName? found]
          exact beq_self_eq_true name
      · cases read

theorem readLines_valid {schema : List Parameter} {earlier : List Setting} {number : Int}
    {lines : List String} {given : List Setting}
    (read : readLines schema earlier number lines = .ok given)
    (valid : ∀ setting ∈ earlier, setting.Valid)
    (distinct : (earlier.map Setting.parameter).Nodup) :
    (∀ setting ∈ given, setting.Valid) ∧ (given.map Setting.parameter).Nodup := by
  induction lines generalizing earlier number with
  | nil =>
      cases read
      refine ⟨fun setting member => valid setting (List.mem_reverse.mp member), ?_⟩
      rw [List.map_reverse]
      exact List.nodup_reverse.mpr distinct
  | cons line rest induction =>
      simp only [readLines] at read
      split at read
      · cases read
      · exact induction read valid distinct
      · rename_i setting first
        have fresh := readLine_valid first
        apply induction read
        · intro other member
          rcases List.mem_cons.mp member with same | before
          · rw [same]
            exact fresh.1
          · exact valid other before
        · exact List.nodup_cons.mpr ⟨fresh.2, distinct⟩

/-- Settings that were read, from a mapping with distinct names or from lines. -/
inductive Loaded : Settings → Prop
  | ofMapping {schema : List Parameter} {entries : List (String × Value)}
      {settings : Settings} (distinct : (entries.map Prod.fst).Nodup)
      (accepted : Settings.ofMapping schema entries = .ok settings) : Loaded settings
  | ofLines {schema : List Parameter} {lines : List String} {seed : Option Int}
      {settings : Settings}
      (accepted : Settings.ofLines schema lines seed = .ok settings) : Loaded settings

theorem ofLines_built {schema : List Parameter} {lines : List String} {seed : Option Int}
    {settings : Settings} (accepted : Settings.ofLines schema lines seed = .ok settings) :
    settings.Valid ∧ settings.initialProgram ⊆ settings.instructionPool := by
  unfold Settings.ofLines at accepted
  split at accepted
  · cases accepted
  · rename_i given read
    have given := readLines_valid read (by simp) .nil
    exact ⟨build_valid accepted given.1, build_program_subset accepted given.2⟩

namespace Loaded

variable {settings : Settings}

theorem valid (loaded : Loaded settings) : settings.Valid := by
  cases loaded with
  | ofMapping distinct accepted => exact ofMapping_valid accepted
  | ofLines accepted => exact (ofLines_built accepted).1

theorem program_subset (loaded : Loaded settings) :
    settings.initialProgram ⊆ settings.instructionPool := by
  cases loaded with
  | ofMapping distinct accepted => exact ofMapping_program_subset distinct accepted
  | ofLines accepted => exact (ofLines_built accepted).2

theorem pool_ne_nil (loaded : Loaded settings) : settings.instructionPool ≠ [] :=
  loaded.valid (.program .instructionPool)

theorem printInterval_pos (loaded : Loaded settings) : 1 ≤ settings.printInterval :=
  loaded.valid (.count .printInterval)

end Loaded

end Settings

end Foragers
