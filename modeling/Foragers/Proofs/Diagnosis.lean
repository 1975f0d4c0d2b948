import Foragers.Proofs.Denotation
import Foragers.Proofs.FirstFault
import Foragers.Proofs.Listing

/-! # What is wrong with lines

Settings are read from lines with a name and a value each, up to the first line at which
something is wrong. When nothing is, the parameters are looked for in their order, and when
none of them is missing, the program of the founders is compared with the pool. Whichever
lines there are, this decides what is told about them, or else which settings they make.
-/

namespace Foragers

namespace Text

theorem mem_closeWord {reversed : List Char} {others : List String} {word : String}
    (member : word ∈ closeWord reversed others) : word ≠ "" ∨ word ∈ others := by
  unfold closeWord at member
  split at member
  · exact .inr member
  · rename_i kept
    rcases List.mem_cons.mp member with rfl | later
    · refine .inl fun empty => kept ?_
      simpa using congrArg String.toList empty
    · exact .inr later

theorem ne_empty_of_mem_wordsFrom {reversed characters : List Char} {word : String}
    (member : word ∈ wordsFrom reversed characters) : word ≠ "" := by
  induction characters generalizing reversed with
  | nil => exact (mem_closeWord member).resolve_right List.not_mem_nil
  | cons character rest induction =>
      rw [wordsFrom] at member
      split at member
      · rcases mem_closeWord member with nonempty | later
        · exact nonempty
        · exact induction later
      · exact induction member

theorem ne_empty_of_mem_words {line word : String} (member : word ∈ words line) :
    word ≠ "" :=
  ne_empty_of_mem_wordsFrom member

end Text

/-- A character that is the symbol of no instruction. -/
def Instruction.Foreign (symbol : Char) : Prop :=
  ∀ instruction : Instruction, instruction.symbol ≠ symbol

theorem Instruction.ofSymbol?_eq_none_iff {symbol : Char} :
    ofSymbol? symbol = none ↔ Foreign symbol := by
  constructor
  · rintro notFound instruction rfl
    rw [ofSymbol?_symbol] at notFound
    cases notFound
  · intro foreign
    cases found : ofSymbol? symbol with
    | none => rfl
    | some instruction => exact absurd (symbol_of_ofSymbol? found) (foreign instruction)

/-- A text that is no program is one up to its first foreign character. -/
theorem Program.ofSymbols_eq_error_iff {symbols : List Char} {symbol : Char} :
    ofSymbols symbols = .error symbol ↔
      ∃ (program : Program) (rest : List Char),
        symbols = program.symbols ++ symbol :: rest ∧ Instruction.Foreign symbol := by
  constructor
  · intro failed
    induction symbols with
    | nil => cases failed
    | cons first others induction =>
        simp only [ofSymbols] at failed
        split at failed
        · rename_i notFound
          cases failed
          exact ⟨[], others, rfl, Instruction.ofSymbol?_eq_none_iff.mp notFound⟩
        · rename_i instruction found
          split at failed
          · rename_i later
            cases failed
            rcases induction later with ⟨program, rest, rfl, foreign⟩
            refine ⟨instruction :: program, rest, ?_, foreign⟩
            rw [← Instruction.symbol_of_ofSymbol? found]
            rfl
          · cases failed
  · rintro ⟨program, rest, rfl, foreign⟩
    induction program with
    | nil =>
        rw [symbols, List.map_nil, List.nil_append, ofSymbols,
          Instruction.ofSymbol?_eq_none_iff.mpr foreign]
    | cons instruction others induction =>
        rw [symbols, List.map_cons, List.cons_append, ofSymbols, Instruction.ofSymbol?_symbol]
        rw [symbols] at induction
        rw [induction]

namespace Parameter

/-- Why a word is no value of a parameter. As no word is empty, it is no empty program. -/
inductive Unfit : Parameter → String → Problem → Prop
  | notInteger {parameter : CountParameter} {text : String}
      (unspelled : Text.integer? text.toList = none) :
      Unfit (.count parameter) text .wrongType
  | tooSmall {parameter : CountParameter} {text : String} {number : Int}
      (spelled : Text.integer? text.toList = some number)
      (small : number < parameter.least) : Unfit (.count parameter) text .outOfRange
  | notNumber {parameter : FractionParameter} {text : String}
      (unspelled : Text.decimal? text.toList = none) :
      Unfit (.fraction parameter) text .wrongType
  | outsideUnit {parameter : FractionParameter} {text : String} {number : Binary64}
      (spelled : Text.decimal? text.toList = some number) (outside : ¬number.InUnit) :
      Unfit (.fraction parameter) text .outOfRange
  | foreign {parameter : ProgramParameter} {text : String} {program : Program}
      {symbol : Char} {rest : List Char}
      (split : text.toList = program.symbols ++ symbol :: rest)
      (foreign : Instruction.Foreign symbol) :
      Unfit (.program parameter) text (.unknownInstruction symbol)

theorem read_of_unfit {parameter : Parameter} {text : String} {problem : Problem}
    (unfit : parameter.Unfit text problem) (line : Option Int) :
    parameter.read (.text text) line = .error (.incorrect problem line) := by
  cases unfit with
  | notInteger unspelled =>
      simp only [Parameter.read, CountParameter.read, Value.asInteger?, unspelled]
  | tooSmall spelled small =>
      simp only [Parameter.read, CountParameter.read, Value.asInteger?, spelled,
        if_neg (not_le.mpr small)]
  | notNumber unspelled =>
      simp only [Parameter.read, Value.asDecimal?, unspelled]
  | outsideUnit spelled outside =>
      rw [← Binary64.isFraction_iff_inUnit] at outside
      simp only [Parameter.read, Value.asDecimal?, spelled, if_neg outside]
  | foreign split foreign =>
      have failed := Program.ofSymbols_eq_error_iff.mpr ⟨_, _, split, foreign⟩
      simp only [Parameter.read, ProgramParameter.read, Program.ofText, failed]

theorem unfit_or_means (parameter : Parameter) {text : String} (nonempty : text ≠ "") :
    (∃ problem, parameter.Unfit text problem) ∨
      ∃ setting : Setting,
        setting.parameter = parameter ∧ (Value.text text).Means setting := by
  cases parameter with
  | count parameter =>
      cases spelled : Text.integer? text.toList with
      | none => exact .inl ⟨_, .notInteger spelled⟩
      | some number =>
          rcases lt_or_ge number parameter.least with small | within
          · exact .inl ⟨_, .tooSmall spelled small⟩
          · exact .inr ⟨.count parameter number, rfl, .integerText spelled within⟩
  | fraction parameter =>
      cases spelled : Text.decimal? text.toList with
      | none => exact .inl ⟨_, .notNumber spelled⟩
      | some number =>
          by_cases within : number.InUnit
          · exact .inr ⟨.fraction parameter number, rfl, .decimalText spelled within⟩
          · exact .inl ⟨_, .outsideUnit spelled within⟩
  | program parameter =>
      cases read : Program.ofText text with
      | error symbol =>
          rcases Program.ofSymbols_eq_error_iff.mp read with ⟨program, rest, split, foreign⟩
          exact .inl ⟨_, .foreign split foreign⟩
      | ok program =>
          have textEq := Program.ofText_eq_ok_iff.mp read
          subst textEq
          refine .inr ⟨.program parameter program, rfl, .program ?_⟩
          rintro rfl
          exact nonempty rfl

theorem ofName?_eq_none_iff {name : String} :
    ofName? all name = none ↔ ∀ parameter : Parameter, name ≠ parameter.name := by
  simp [Option.eq_none_iff_forall_ne_some, ofName?_eq_some_iff]

end Parameter

namespace Settings

/-- The names that lines begin with. -/
def namesOn (lines : List String) : List String :=
  lines.filterMap fun line => (Text.words line).head?

/-- The name and the value on a line that has nothing else. -/
def entryOn? (line : String) : Option (String × String) :=
  match Text.words line with
  | [name, value] => some (name, value)
  | _ => none

def entriesOn (lines : List String) : List (String × String) :=
  lines.filterMap entryOn?

/-- What is wrong with a line behind others. A line is looked at for one thing after the
other: whether its name is on an earlier line, whether there is such a parameter, how many
values there are, and what the value is. -/
inductive Misstated (earlier : List String) (line : String) : Problem → Prop
  | repeated {name : String} {values : List String}
      (wordsEq : Text.words line = name :: values) (seen : name ∈ namesOn earlier) :
      Misstated earlier line .repeated
  | unknown {name : String} {values : List String}
      (wordsEq : Text.words line = name :: values) (fresh : name ∉ namesOn earlier)
      (unknown : ∀ parameter : Parameter, name ≠ parameter.name) :
      Misstated earlier line .unknownParameter
  | missing {parameter : Parameter}
      (wordsEq : Text.words line = [parameter.name])
      (fresh : parameter.name ∉ namesOn earlier) : Misstated earlier line .missingValue
  | extra {parameter : Parameter} {first second : String} {more : List String}
      (wordsEq : Text.words line = parameter.name :: first :: second :: more)
      (fresh : parameter.name ∉ namesOn earlier) : Misstated earlier line .extraValues
  | unfit {parameter : Parameter} {value : String} {problem : Problem}
      (wordsEq : Text.words line = [parameter.name, value])
      (fresh : parameter.name ∉ namesOn earlier) (unfit : parameter.Unfit value problem) :
      Misstated earlier line problem

/-- What is told about lines, or the settings that they make. -/
inductive Verdict (lines : List String) (seed : Option Int) :
    Except SettingsError Settings → Prop
  | misstated {number : Nat} {problem : Problem}
      (first : FirstFault Misstated lines number problem) :
      Verdict lines seed (.error (.incorrect problem (some number)))
  | missing {before after : List Parameter} {parameter : Parameter}
      (faultless : Faultless Misstated lines)
      (split : Parameter.all = before ++ parameter :: after)
      (present : ∀ earlier ∈ before, earlier.name ∈ namesOn lines)
      (absent : parameter.name ∉ namesOn lines) :
      Verdict lines seed (.error (.missing parameter))
  | outsidePool {program pool : Program} (faultless : Faultless Misstated lines)
      (complete : ∀ parameter : Parameter, parameter.name ∈ namesOn lines)
      (programGiven :
        ((Parameter.program .initialProgram).name, program.text) ∈ entriesOn lines)
      (poolGiven : ((Parameter.program .instructionPool).name, pool.text) ∈ entriesOn lines)
      (outside : ¬program ⊆ pool) :
      Verdict lines seed (.error (.incorrect .outsidePool (some lines.length)))
  | accepted {settings : Settings} (faultless : Faultless Misstated lines)
      (seedEq : settings.seed = seed)
      (denoted : settings.DenotedBy (textValues (entriesOn lines))) :
      Verdict lines seed (.ok settings)

/-! ## Single lines -/

variable {lines before : List String} {line : String} {given earlier : List Setting}
  {seed : Option Int}

theorem readLine_of_blank (blank : Text.words line = []) (number : Int) :
    readLine Parameter.all earlier number line = .ok none := by
  rw [readLine, blank]

theorem readLine_of_misstated {problem : Problem}
    (named : ∀ name, name ∈ earlier.map (·.parameter.name) ↔ name ∈ namesOn before)
    (misstated : Misstated before line problem) (number : Int) :
    readLine Parameter.all earlier number line =
      .error (.incorrect problem (some number)) := by
  have seen_iff : ∀ name, earlier.any (fun setting => setting.parameter.name == name) = true ↔
      name ∈ namesOn before := by
    intro name
    rw [← named]
    simp
  cases misstated with
  | repeated wordsEq seen =>
      simp only [readLine, wordsEq, if_pos ((seen_iff _).mpr seen)]
  | unknown wordsEq fresh unknown =>
      simp only [readLine, wordsEq, if_neg (mt (seen_iff _).mp fresh),
        Parameter.ofName?_eq_none_iff.mpr unknown]
  | missing wordsEq fresh =>
      simp only [readLine, wordsEq, if_neg (mt (seen_iff _).mp fresh), Parameter.ofName?_name]
  | extra wordsEq fresh =>
      simp only [readLine, wordsEq, if_neg (mt (seen_iff _).mp fresh), Parameter.ofName?_name]
  | unfit wordsEq fresh unfit =>
      simp only [readLine, wordsEq, if_neg (mt (seen_iff _).mp fresh), Parameter.ofName?_name,
        Parameter.read_of_unfit unfit]

theorem line_cases (before : List String) (line : String) :
    Text.words line = [] ∨ (∃ problem, Misstated before line problem) ∨
      ∃ setting value, Text.words line = [setting.parameter.name, value] ∧
        setting.parameter.name ∉ namesOn before ∧ (Value.text value).Means setting := by
  cases wordsEq : Text.words line with
  | nil => exact .inl rfl
  | cons name values =>
      refine .inr ?_
      by_cases seen : name ∈ namesOn before
      · exact .inl ⟨_, .repeated wordsEq seen⟩
      by_cases unknown : ∀ parameter : Parameter, name ≠ parameter.name
      · exact .inl ⟨_, .unknown wordsEq seen unknown⟩
      simp only [ne_eq, not_forall, not_not] at unknown
      rcases unknown with ⟨parameter, rfl⟩
      match values with
      | [] => exact .inl ⟨_, .missing wordsEq seen⟩
      | first :: second :: more => exact .inl ⟨_, .extra wordsEq seen⟩
      | [value] =>
          have member : value ∈ Text.words line := by simp [wordsEq]
          have nonempty := Text.ne_empty_of_mem_words member
          rcases parameter.unfit_or_means nonempty with
            ⟨problem, unfit⟩ | ⟨setting, rfl, means⟩
          · exact .inl ⟨_, .unfit wordsEq seen unfit⟩
          · exact .inr ⟨setting, value, rfl, seen, means⟩

/-! ## Line after line -/

theorem readLines_append {schema : List Parameter} {number : Int}
    (read : readLines schema earlier number before = .ok given) (after : List String) :
    readLines schema earlier number (before ++ after) =
      readLines schema given.reverse (number + before.length) after := by
  induction before generalizing earlier number with
  | nil =>
      cases read
      simp
  | cons line rest induction =>
      have count : number + (line :: rest).length = number + 1 + rest.length := by
        push_cast [List.length_cons]
        ring
      rw [count]
      -- The line is read alike in both lists, and what it gave joins the earlier settings.
      simp only [readLines, List.cons_append] at read ⊢
      split at read
      · cases read
      · exact induction read
      · exact induction read

theorem readEntries_concat {schema : List Parameter} {entries : List (String × Value)}
    {entry : String × Value} {setting : Setting}
    (read : readEntries schema entries = .ok given)
    (last : Parameter.readNamed schema entry.1 entry.2 none = .ok setting) :
    readEntries schema (entries ++ [entry]) = .ok (given ++ [setting]) := by
  induction entries generalizing given with
  | nil =>
      cases read
      exact readEntries_cons last []
  | cons first rest induction =>
      rcases bind_eq_ok read with ⟨firstSetting, firstRead, continued⟩
      rcases bind_eq_ok continued with ⟨others, othersRead, givenEq⟩
      cases givenEq
      rw [List.cons_append, readEntries_cons firstRead, induction othersRead]
      rfl

/-- Lines have been read as settings, one for every name and value on them. -/
structure ReadAs (lines : List String) (given : List Setting) : Prop where
  read : readLines Parameter.all [] 1 lines = .ok given
  entries : readEntries Parameter.all (textValues (entriesOn lines)) = .ok given
  named : (entriesOn lines).map Prod.fst = namesOn lines
  distinct : (namesOn lines).Nodup

namespace ReadAs

theorem names_eq (readAs : ReadAs lines given) :
    given.map (·.parameter.name) = namesOn lines := by
  rw [readEntries_names readAs.entries, textValues_names, readAs.named]

theorem mem_parameters_iff (readAs : ReadAs lines given) {parameter : Parameter} :
    parameter ∈ given.map Setting.parameter ↔ parameter.name ∈ namesOn lines := by
  rw [← readAs.names_eq, ← List.mem_map_of_injective Parameter.name_injective, List.map_map]
  rfl

theorem values_distinct (readAs : ReadAs lines given) :
    ((textValues (entriesOn lines)).map Prod.fst).Nodup := by
  rw [textValues_names, readAs.named]
  exact readAs.distinct

theorem nil : ReadAs [] [] :=
  ⟨rfl, rfl, rfl, .nil⟩

theorem blank (readAs : ReadAs before given) (blank : Text.words line = []) :
    ReadAs (before ++ [line]) given := by
  have names : namesOn (before ++ [line]) = namesOn before := by simp [namesOn, blank]
  have entries : entriesOn (before ++ [line]) = entriesOn before := by
    simp [entriesOn, entryOn?, blank]
  refine ⟨?_, ?_, ?_, ?_⟩
  · rw [readLines_append readAs.read, readLines, readLine_of_blank blank]
    exact congrArg Except.ok given.reverse_reverse
  · rw [entries]
    exact readAs.entries
  · rw [entries, names]
    exact readAs.named
  · rw [names]
    exact readAs.distinct

theorem entry (readAs : ReadAs before given) {setting : Setting} {value : String}
    (wordsEq : Text.words line = [setting.parameter.name, value])
    (fresh : setting.parameter.name ∉ namesOn before)
    (means : (Value.text value).Means setting) :
    ReadAs (before ++ [line]) (given ++ [setting]) := by
  have names : namesOn (before ++ [line]) = namesOn before ++ [setting.parameter.name] := by
    simp [namesOn, wordsEq]
  have entries : entriesOn (before ++ [line]) =
      entriesOn before ++ [(setting.parameter.name, value)] := by
    simp [entriesOn, entryOn?, wordsEq]
  have valueRead : Parameter.readNamed Parameter.all setting.parameter.name (.text value) none =
      .ok setting :=
    Parameter.readNamed_eq_ok_iff.mpr ⟨_, rfl, Parameter.read_eq_ok_iff.mpr ⟨rfl, means⟩⟩
  have lineRead (number : Int) :
      readLine Parameter.all given.reverse number line = .ok (some setting) := by
    refine (readLine_eq_ok_iff wordsEq ?_ number _).mpr ⟨setting, valueRead, rfl⟩
    rwa [List.map_reverse, List.mem_reverse, readAs.names_eq]
  refine ⟨?_, ?_, ?_, ?_⟩
  · rw [readLines_append readAs.read, readLines, lineRead]
    simp [readLines]
  · rw [entries, textValues, List.map_append]
    exact readEntries_concat readAs.entries valueRead
  · rw [entries, names, List.map_append, readAs.named]
    rfl
  · rw [names, ← List.concat_eq_append]
    exact readAs.distinct.concat fresh

end ReadAs

/-- Lines with nothing wrong are read. -/
theorem exists_readAs (faultless : Faultless Misstated lines) :
    ∃ given, ReadAs lines given := by
  induction faultless using Faultless.induction with
  | nil => exact ⟨[], .nil⟩
  | concat before line faultless right induction =>
      rcases induction with ⟨given, readAs⟩
      -- The next line is blank or has one more value: anything else is wrong with it.
      rcases line_cases before line with
        blank | ⟨problem, wrong⟩ | ⟨setting, value, wordsEq, fresh, means⟩
      · exact ⟨given, readAs.blank blank⟩
      · exact absurd wrong (right problem)
      · exact ⟨given ++ [setting], readAs.entry wordsEq fresh means⟩

/-! ## All lines -/

theorem ofLines_of_firstFault {number : Nat} {problem : Problem}
    (first : FirstFault Misstated lines number problem) :
    ofLines Parameter.all lines seed = .error (.incorrect problem (some number)) := by
  cases first with
  | @intro before line _ faultless here after =>
      rcases exists_readAs faultless with ⟨given, readAs⟩
      have named : ∀ name, name ∈ given.reverse.map (·.parameter.name) ↔
          name ∈ namesOn before := by
        intro name
        rw [List.map_reverse, List.mem_reverse, readAs.names_eq]
      rw [ofLines, readLines_append readAs.read, readLines,
        readLine_of_misstated named here]
      simp [add_comm]

namespace ReadAs

theorem ofLines_eq (readAs : ReadAs lines given) :
    ofLines Parameter.all lines seed =
      build Parameter.all given seed (some lines.length) := by
  rw [ofLines, readAs.read]

theorem find?_eq_some_iff (readAs : ReadAs lines given) {parameter : Parameter} :
    Parameter.all.find? (fun parameter => !(given.map Setting.parameter).contains parameter) =
        some parameter ↔
      parameter.name ∉ namesOn lines ∧ ∃ before after,
        Parameter.all = before ++ parameter :: after ∧
          ∀ earlier ∈ before, earlier.name ∈ namesOn lines := by
  simp only [List.find?_eq_some_iff_append, Bool.not_eq_true', List.contains_eq_mem,
    decide_eq_false_iff_not, readAs.mem_parameters_iff, Bool.not_not, decide_eq_true_eq]

theorem find?_eq_none_iff (readAs : ReadAs lines given) :
    Parameter.all.find? (fun parameter => !(given.map Setting.parameter).contains parameter) =
        none ↔ ∀ parameter : Parameter, parameter.name ∈ namesOn lines := by
  simp only [List.find?_eq_none, Bool.not_eq_true', List.contains_eq_mem,
    decide_eq_false_iff_not, readAs.mem_parameters_iff, not_not]
  exact ⟨fun present parameter => present parameter parameter.mem_all,
    fun present parameter _ => present parameter⟩

theorem mem_iff (readAs : ReadAs lines given) {setting : Setting} :
    setting ∈ given ↔ ∃ value, (setting.parameter.name, value) ∈ entriesOn lines ∧
      (Value.text value).Means setting := by
  rcases exists_of_readEntries readAs.entries with ⟨forth, back⟩
  constructor
  · intro member
    rcases back setting member with ⟨entry, present, read⟩
    rcases List.mem_map.mp present with ⟨⟨name, value⟩, listed, rfl⟩
    rcases Parameter.readNamed_eq_ok_iff.mp read with ⟨parameter, rfl, valueRead⟩
    rcases Parameter.read_eq_ok_iff.mp valueRead with ⟨rfl, means⟩
    exact ⟨value, listed, means⟩
  · rintro ⟨value, listed, means⟩
    rcases forth _ (List.mem_map_of_mem listed) with ⟨other, member, read⟩
    rw [Parameter.readNamed_eq_ok_iff.mpr
      ⟨_, rfl, Parameter.read_eq_ok_iff.mpr ⟨rfl, means⟩⟩] at read
    cases read
    exact member

/-- The program that was given to a parameter is the one whose text is on a line. -/
theorem givenProgram?_eq_some_iff (readAs : ReadAs lines given) {wanted : ProgramParameter}
    {program : Program} :
    givenProgram? wanted given = some program ↔
      ((Parameter.program wanted).name, program.text) ∈ entriesOn lines := by
  rw [Settings.givenProgram?_eq_some_iff
    (readEntries_distinct readAs.entries readAs.values_distinct)]
  constructor
  · intro member
    rcases readAs.mem_iff.mp member with ⟨value, listed, means⟩
    rwa [Value.text.inj means.eq_text] at listed
  · intro listed
    rcases (exists_of_readEntries readAs.entries).1 _ (List.mem_map_of_mem listed) with
      ⟨setting, member, read⟩
    rcases Parameter.readNamed_eq_ok_iff.mp read with ⟨parameter, nameEq, valueRead⟩
    rcases Parameter.read_eq_ok_iff.mp valueRead with ⟨own, means⟩
    cases Parameter.name_injective nameEq
    cases setting with
    | count parameter value => cases own
    | fraction parameter value => cases own
    | program parameter value =>
        cases own
        rwa [Program.text_injective (Value.text.inj means.eq_text)]

end ReadAs

theorem ofLines_of_verdict {result : Except SettingsError Settings}
    (verdict : Verdict lines seed result) : ofLines Parameter.all lines seed = result := by
  cases verdict with
  | misstated first => exact ofLines_of_firstFault first
  | missing faultless split present absent =>
      rcases exists_readAs faultless with ⟨given, readAs⟩
      have found := readAs.find?_eq_some_iff.mpr ⟨absent, _, _, split, present⟩
      simp only [readAs.ofLines_eq, build, found]
  | @outsidePool program pool faultless complete programGiven poolGiven outside =>
      rcases exists_readAs faultless with ⟨given, readAs⟩
      have notWithin := mt all_contains_iff_subset.mp outside
      simp only [readAs.ofLines_eq, build, readAs.find?_eq_none_iff.mpr complete,
        readAs.givenProgram?_eq_some_iff.mpr programGiven,
        readAs.givenProgram?_eq_some_iff.mpr poolGiven, if_neg notWithin]
  | accepted faultless seedEq denoted =>
      rcases exists_readAs faultless with ⟨given, readAs⟩
      have described := (describedBy_iff_denotedBy readAs.values_distinct).mpr denoted
      rcases (build_readEntries_iff readAs.values_distinct seed (some lines.length)).mpr
        ⟨seedEq, described⟩ with ⟨others, read, built⟩
      rw [readAs.entries] at read
      cases read
      rw [readAs.ofLines_eq, built]

theorem exists_verdict_of_faultless (faultless : Faultless Misstated lines)
    (seed : Option Int) : ∃ result, Verdict lines seed result := by
  rcases exists_readAs faultless with ⟨given, readAs⟩
  cases missing : Parameter.all.find?
      (fun parameter => !(given.map Setting.parameter).contains parameter) with
  | some parameter =>
      rcases readAs.find?_eq_some_iff.mp missing with ⟨absent, before, after, split, present⟩
      exact ⟨_, .missing faultless split present absent⟩
  | none =>
      rcases exists_givenProgram? missing .initialProgram with ⟨program, programGiven⟩
      rcases exists_givenProgram? missing .instructionPool with ⟨pool, poolGiven⟩
      by_cases subset : program ⊆ pool
      · have within := all_contains_iff_subset.mpr subset
        have built : build Parameter.all given seed (some lines.length) =
            .ok (given.foldl assign { seed }) := by
          simp only [build, missing, programGiven, poolGiven, within, if_true]
        rcases (build_readEntries_iff readAs.values_distinct seed _).mp
          ⟨given, readAs.entries, built⟩ with ⟨seedEq, described⟩
        exact ⟨_, .accepted faultless seedEq
          ((describedBy_iff_denotedBy readAs.values_distinct).mp described)⟩
      · exact ⟨_, .outsidePool faultless (readAs.find?_eq_none_iff.mp missing)
          (readAs.givenProgram?_eq_some_iff.mp programGiven)
          (readAs.givenProgram?_eq_some_iff.mp poolGiven) subset⟩

theorem exists_verdict (lines : List String) (seed : Option Int) :
    ∃ result, Verdict lines seed result := by
  rcases faultless_or_firstFault Misstated lines with faultless | ⟨number, problem, first⟩
  · exact exists_verdict_of_faultless faultless seed
  · exact ⟨_, .misstated first⟩

/-- Lines come to what is told about the first of them at which something is wrong, or else
about the first parameter that is missing, or else about the pool, or else to the settings
that they make, and to nothing besides. -/
theorem lines_verdict (lines : List String) (seed : Option Int) :
    (∀ result, ofLines Parameter.all lines seed = result ↔ Verdict lines seed result) ∧
    [Problem.repeated, .unknownParameter, .missingValue, .extraValues, .wrongType,
        .outOfRange].map Problem.message =
      ["Repeated parameter.", "Unknown parameter name.", "Missing parameter value.",
        "Wrong number of values in line.", "Wrong type.", "Value out of range."] ∧
    ∀ symbol, (Problem.unknownInstruction symbol).message =
      s!"Unknown instruction: {symbol}" := by
  refine ⟨?_, rfl, fun symbol => rfl⟩
  intro result
  constructor
  · rintro rfl
    rcases exists_verdict lines seed with ⟨result, verdict⟩
    rwa [ofLines_of_verdict verdict]
  · exact ofLines_of_verdict

/-- The blank line counts, and a name that is repeated is noticed before its missing value.
Lines with nothing wrong are accepted. -/
theorem repeated_rounds_verdict :
    Verdict ["rounds 9", "", "rounds", "hunger 1"] none
        (.error (.incorrect .repeated (some 3))) ∧
      Verdict (plainLines prolificWords.entries) none (.ok Chronicle.prolific) := by
  have refused : ofLines Parameter.all ["rounds 9", "", "rounds", "hunger 1"] none =
      .error (.incorrect .repeated (some 3)) := by
    decide +kernel
  have accepted : ofLines Parameter.all (plainLines prolificWords.entries) none =
      .ok Chronicle.prolific := by
    decide +kernel
  exact ⟨((lines_verdict _ none).1 _).mp refused, ((lines_verdict _ none).1 _).mp accepted⟩

end Settings

end Foragers
