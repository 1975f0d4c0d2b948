import Foragers.Proofs.Acceptance

/-! # What describes settings

Settings are described by named values when every name is that of a parameter and every
parameter is given a value that is read as what the settings hold. The order of the
values is of no importance, nor is it in which form they are written down.
-/

namespace Foragers

namespace Parameter

@[simp] theorem ofName?_name (parameter : Parameter) :
    ofName? all parameter.name = some parameter := by
  cases parameter with
  | count parameter => cases parameter <;> decide
  | fraction parameter => cases parameter <;> decide
  | program parameter => cases parameter <;> decide

theorem ofName?_eq_some_iff {name : String} {parameter : Parameter} :
    ofName? all name = some parameter ↔ name = parameter.name := by
  constructor
  · exact fun found => (name_of_ofName? found).symm
  · rintro rfl
    exact ofName?_name parameter

theorem name_injective : Function.Injective name := by
  intro left right same
  have found := ofName?_name left
  rw [same, ofName?_name] at found
  exact (Option.some.inj found).symm

theorem mem_all (parameter : Parameter) : parameter ∈ all :=
  List.mem_of_find?_eq_some (ofName?_name parameter)

/-- The line that a value is on does not decide what it is read as. -/
theorem read_on_line {parameter : Parameter} {value : Value} {line : Option Int}
    {setting : Setting} (read : parameter.read value line = .ok setting)
    (other : Option Int) : parameter.read value other = .ok setting := by
  cases parameter with
  | count parameter =>
      simp only [Parameter.read] at read ⊢
      split at read
      · cases read
      · exact read
  | fraction parameter =>
      simp only [Parameter.read] at read ⊢
      split at read
      · cases read
      · cases read
      · split at read
        · rename_i isFraction
          rw [if_pos isFraction]
          exact read
        · cases read
  | program parameter =>
      simp only [Parameter.read] at read ⊢
      split at read
      · cases read
      · exact read

theorem readNamed_eq_ok_iff {name : String} {value : Value} {line : Option Int}
    {setting : Setting} :
    readNamed all name value line = .ok setting ↔
      ∃ parameter : Parameter,
        name = parameter.name ∧ parameter.read value line = .ok setting := by
  constructor
  · intro read
    unfold readNamed at read
    split at read
    · cases read
    · rename_i parameter found
      exact ⟨parameter, ofName?_eq_some_iff.mp found, read⟩
  · rintro ⟨parameter, rfl, read⟩
    rw [readNamed, ofName?_name]
    exact read

end Parameter

namespace Settings

@[simp] theorem setting_parameter (settings : Settings) (parameter : Parameter) :
    (settings.setting parameter).parameter = parameter := by
  cases parameter <;> rfl

/-- Settings are known when the value of every parameter is, and the seed. -/
theorem ext_setting {left right : Settings} (seed : left.seed = right.seed)
    (same : ∀ parameter, left.setting parameter = right.setting parameter) :
    left = right := by
  have rounds := same (.count .rounds)
  have population := same (.count .initialPopulation)
  have energy := same (.count .initialEnergy)
  have foodEnergy := same (.count .foodEnergy)
  have ripening := same (.count .foodRipeningTime)
  have cost := same (.count .roundCost)
  have threshold := same (.count .reproductionThreshold)
  have interval := same (.count .printInterval)
  have reproduction := same (.fraction .reproductionProbability)
  have fraction := same (.fraction .energyFraction)
  have removal := same (.fraction .removalProbability)
  have addition := same (.fraction .additionProbability)
  have change := same (.fraction .changeProbability)
  have program := same (.program .initialProgram)
  have pool := same (.program .instructionPool)
  cases left
  cases right
  simp_all [setting]

@[simp] theorem seed_assign (settings : Settings) (setting : Setting) :
    (settings.assign setting).seed = settings.seed := by
  cases setting with
  | count parameter value => cases parameter <;> rfl
  | fraction parameter value => cases parameter <;> rfl
  | program parameter value => cases parameter <;> rfl

theorem seed_foldl_assign (settings : Settings) (given : List Setting) :
    (given.foldl assign settings).seed = settings.seed := by
  induction given generalizing settings with
  | nil => rfl
  | cons setting rest induction => rw [List.foldl_cons, induction, seed_assign]

/-! ## Values that are read one after the other -/

variable {entries : List (String × Value)} {given : List Setting}

theorem readEntries_cons {schema : List Parameter} {entry : String × Value}
    {setting : Setting}
    (first : Parameter.readNamed schema entry.1 entry.2 none = .ok setting)
    (rest : List (String × Value)) :
    readEntries schema (entry :: rest) = (setting :: ·) <$> readEntries schema rest := by
  rw [readEntries, first]
  rfl

theorem exists_of_readEntries {schema : List Parameter}
    (read : readEntries schema entries = .ok given) :
    (∀ entry ∈ entries, ∃ setting ∈ given,
      Parameter.readNamed schema entry.1 entry.2 none = .ok setting) ∧
    ∀ setting ∈ given, ∃ entry ∈ entries,
      Parameter.readNamed schema entry.1 entry.2 none = .ok setting := by
  induction entries generalizing given with
  | nil =>
      cases read
      simp
  | cons entry rest induction =>
      simp only [readEntries] at read
      rcases bind_eq_ok read with ⟨first, firstRead, continued⟩
      rcases bind_eq_ok continued with ⟨others, othersRead, givenEq⟩
      cases givenEq
      rcases induction othersRead with ⟨forth, back⟩
      refine ⟨List.forall_mem_cons.mpr ⟨⟨first, List.mem_cons_self, firstRead⟩, ?_⟩,
        List.forall_mem_cons.mpr ⟨⟨entry, List.mem_cons_self, firstRead⟩, ?_⟩⟩
      · intro other member
        rcases forth other member with ⟨setting, present, otherRead⟩
        exact ⟨setting, List.mem_cons_of_mem first present, otherRead⟩
      · intro setting member
        rcases back setting member with ⟨other, present, otherRead⟩
        exact ⟨other, List.mem_cons_of_mem entry present, otherRead⟩

theorem exists_readEntries {schema : List Parameter}
    (readable : ∀ entry ∈ entries, ∃ setting,
      Parameter.readNamed schema entry.1 entry.2 none = .ok setting) :
    ∃ given, readEntries schema entries = .ok given := by
  induction entries with
  | nil => exact ⟨[], rfl⟩
  | cons entry rest induction =>
      rcases readable entry List.mem_cons_self with ⟨first, firstRead⟩
      rcases induction fun other member => readable other (List.mem_cons_of_mem _ member)
        with ⟨others, othersRead⟩
      exact ⟨first :: others, by rw [readEntries_cons firstRead, othersRead]; rfl⟩

/-! ## Settings that are put together -/

theorem givenProgram?_eq_some_iff (distinct : (given.map Setting.parameter).Nodup)
    {wanted : ProgramParameter} {program : Program} :
    givenProgram? wanted given = some program ↔ .program wanted program ∈ given := by
  refine ⟨mem_of_givenProgram?, fun member => ?_⟩
  cases found : givenProgram? wanted given with
  | none =>
      have noProgram := List.findSome?_eq_none_iff.mp found _ member
      simp [Setting.program?] at noProgram
  | some other =>
      have same := List.inj_on_of_nodup_map distinct (mem_of_givenProgram? found) member rfl
      cases same
      rfl

/-- Settings are put together from what they hold: all of it and nothing else. -/
theorem build_eq_ok_iff (distinct : (given.map Setting.parameter).Nodup)
    {seed line : Option Int} {settings : Settings} :
    build Parameter.all given seed line = .ok settings ↔
      settings.seed = seed ∧ (∀ parameter, settings.setting parameter ∈ given) ∧
        settings.initialProgram ⊆ settings.instructionPool := by
  constructor
  · intro built
    have subset := build_program_subset built distinct
    simp only [build] at built
    split at built
    · cases built
    · rename_i complete
      split at built
      · split at built
        · cases built
          refine ⟨seed_foldl_assign _ given, ?_, subset⟩
          intro parameter
          have present : parameter ∈ given.map Setting.parameter := by
            simpa using List.find?_eq_none.mp complete parameter parameter.mem_all
          rcases List.mem_map.mp present with ⟨setting, member, rfl⟩
          rwa [setting_foldl_assign _ distinct member]
        · cases built
      · cases built
  · rintro ⟨rfl, held, subset⟩
    have complete : Parameter.all.find?
        (fun parameter => !(given.map Setting.parameter).contains parameter) = none := by
      rw [List.find?_eq_none]
      intro parameter _
      simpa using ⟨settings.setting parameter, held parameter, settings.setting_parameter parameter⟩
    have pool := (givenProgram?_eq_some_iff distinct).mpr (held (.program .instructionPool))
    have program := (givenProgram?_eq_some_iff distinct).mpr (held (.program .initialProgram))
    have within := all_contains_iff_subset.mpr subset
    have assigned : given.foldl assign { seed := settings.seed } = settings := by
      refine ext_setting (seed_foldl_assign { seed := settings.seed } given) ?_
      intro parameter
      have same := setting_foldl_assign { seed := settings.seed } distinct (held parameter)
      rwa [setting_parameter] at same
    simp only [build, complete, pool, program, within, assigned, if_true]

/-- Every name is that of a parameter, and what the settings hold for a parameter is what
its value is read as. The program of the founders is drawn from the pool. -/
structure DescribedBy (settings : Settings) (entries : List (String × Value)) : Prop where
  known : ∀ entry ∈ entries, ∃ parameter : Parameter, entry.1 = parameter.name
  held : ∀ parameter : Parameter, ∃ value, (parameter.name, value) ∈ entries ∧
    parameter.read value none = .ok (settings.setting parameter)
  subset : settings.initialProgram ⊆ settings.instructionPool

theorem DescribedBy.perm {settings : Settings} {others : List (String × Value)}
    (described : settings.DescribedBy entries) (perm : entries.Perm others) :
    settings.DescribedBy others where
  known entry member := described.known entry (perm.mem_iff.mpr member)
  held parameter := by
    rcases described.held parameter with ⟨value, member, read⟩
    exact ⟨value, perm.mem_iff.mp member, read⟩
  subset := described.subset

/-- Values with distinct names are read and put together to the settings that they
describe. -/
theorem build_readEntries_iff (distinct : (entries.map Prod.fst).Nodup)
    (seed line : Option Int) {settings : Settings} :
    (∃ given, readEntries Parameter.all entries = .ok given ∧
      build Parameter.all given seed line = .ok settings) ↔
      settings.seed = seed ∧ settings.DescribedBy entries := by
  constructor
  · rintro ⟨given, read, built⟩
    rcases exists_of_readEntries read with ⟨forth, back⟩
    rcases (build_eq_ok_iff (readEntries_distinct read distinct)).mp built with
      ⟨seedEq, held, subset⟩
    refine ⟨seedEq, ?_, ?_, subset⟩
    · intro entry member
      rcases forth entry member with ⟨setting, _, entryRead⟩
      rcases Parameter.readNamed_eq_ok_iff.mp entryRead with ⟨parameter, nameEq, _⟩
      exact ⟨parameter, nameEq⟩
    · intro parameter
      rcases back _ (held parameter) with ⟨⟨name, value⟩, member, entryRead⟩
      rcases Parameter.readNamed_eq_ok_iff.mp entryRead with ⟨named, rfl, valueRead⟩
      have same := Parameter.read_parameter valueRead
      rw [setting_parameter] at same
      subst same
      exact ⟨value, member, valueRead⟩
  · rintro ⟨rfl, described⟩
    -- A name has one value, which is the one that the settings were described with.
    have readable : ∀ entry ∈ entries, ∃ setting,
        Parameter.readNamed Parameter.all entry.1 entry.2 none = .ok setting := by
      rintro ⟨name, value⟩ member
      rcases described.known _ member with ⟨parameter, rfl⟩
      rcases described.held parameter with ⟨heldValue, heldMember, read⟩
      have same := List.inj_on_of_nodup_map distinct member heldMember rfl
      cases same
      exact ⟨settings.setting parameter,
        Parameter.readNamed_eq_ok_iff.mpr ⟨parameter, rfl, read⟩⟩
    rcases exists_readEntries readable with ⟨given, read⟩
    refine ⟨given, read, ?_⟩
    rw [build_eq_ok_iff (readEntries_distinct read distinct)]
    refine ⟨rfl, ?_, described.subset⟩
    intro parameter
    rcases described.held parameter with ⟨value, member, valueRead⟩
    rcases (exists_of_readEntries read).1 _ member with ⟨setting, present, entryRead⟩
    rw [Parameter.readNamed_eq_ok_iff.mpr ⟨parameter, rfl, valueRead⟩] at entryRead
    cases entryRead
    exact present

/-- Once its seed is read, a mapping is read and put together without it. -/
theorem ofMapping_of_readSeed {schema : List Parameter} {seed : Option Int}
    (seedRead : readSeed ((entries.lookup seedName).getD .null) = .ok seed) :
    ofMapping schema entries =
      readEntries schema (entries.filter fun entry => entry.1 != seedName) >>=
        fun given => build schema given seed none := by
  rw [ofMapping, seedRead]
  rfl

theorem filter_unseeded (unseeded : ∀ entry ∈ entries, entry.1 ≠ seedName) :
    entries.filter (fun entry => entry.1 != seedName) = entries :=
  List.filter_eq_self.mpr fun entry member => bne_iff_ne.mpr (unseeded entry member)

/-- A mapping is accepted exactly as the settings that it describes, with its seed. -/
theorem ofMapping_eq_ok_iff (distinct : (entries.map Prod.fst).Nodup)
    {settings : Settings} :
    ofMapping Parameter.all entries = .ok settings ↔
      readSeed ((entries.lookup seedName).getD .null) = .ok settings.seed ∧
        settings.DescribedBy (entries.filter fun entry => entry.1 != seedName) := by
  have others : ((entries.filter fun entry => entry.1 != seedName).map Prod.fst).Nodup :=
    distinct.sublist (List.filter_sublist.map Prod.fst)
  constructor
  · intro accepted
    rcases bind_eq_ok accepted with ⟨seed, seedRead, continued⟩
    rcases bind_eq_ok continued with ⟨given, read, built⟩
    rcases (build_readEntries_iff others seed none).mp ⟨given, read, built⟩ with
      ⟨rfl, described⟩
    exact ⟨seedRead, described⟩
  · rintro ⟨seedRead, described⟩
    rcases (build_readEntries_iff others settings.seed none).mpr ⟨rfl, described⟩ with
      ⟨given, read, built⟩
    rw [ofMapping_of_readSeed seedRead, read]
    exact built

end Settings

end Foragers
