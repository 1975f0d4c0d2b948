import Foragers.Proofs.Lineage
import Foragers.Proofs.Refusal
import Mathlib.Data.List.Forall2

/-! # Listed settings

The same values can be listed on lines, a name and a value each, or be given as a mapping.
Lines are read in one pass that keeps what it has seen, and a mapping is read entry by
entry, but both accept the same values as the same settings: the order of the lines, the
blanks around the words and blank lines between them are of no importance.
-/

namespace Foragers

namespace Text

def AllBlank (characters : List Char) : Prop :=
  ∀ character ∈ characters, isBlank character = true

instance (characters : List Char) : Decidable (AllBlank characters) :=
  decidable_of_iff (characters.all isBlank = true) List.all_eq_true

/-- The text stands as one word on a line. -/
structure IsWord (text : String) : Prop where
  nonempty : text.toList ≠ []
  solid : ∀ character ∈ text.toList, isBlank character = false

instance (text : String) : Decidable (IsWord text) :=
  decidable_of_iff (text.toList ≠ [] ∧ text.toList.all (fun character => !isBlank character))
    ⟨fun ⟨nonempty, solid⟩ => ⟨nonempty, by simpa using solid⟩,
      fun word => ⟨word.nonempty, by simpa using word.solid⟩⟩

/-- There are two words on the line, with blanks around and between them. -/
def Spells (line first second : String) : Prop :=
  ∃ before between after : List Char, AllBlank before ∧ AllBlank between ∧ AllBlank after ∧
    between ≠ [] ∧
      line.toList = before ++ first.toList ++ between ++ second.toList ++ after

theorem wordsFrom_blanks {blanks : List Char} (blank : AllBlank blanks) (rest : List Char) :
    wordsFrom [] (blanks ++ rest) = wordsFrom [] rest := by
  induction blanks with
  | nil => rfl
  | cons character others induction =>
      rcases List.forall_mem_cons.mp blank with ⟨first, remaining⟩
      rw [List.cons_append, wordsFrom, if_pos first, induction remaining]
      rfl

theorem wordsFrom_solid {word : List Char}
    (solid : ∀ character ∈ word, isBlank character = false) (reversed rest : List Char) :
    wordsFrom reversed (word ++ rest) = wordsFrom (word.reverse ++ reversed) rest := by
  induction word generalizing reversed with
  | nil => rfl
  | cons character others induction =>
      rcases List.forall_mem_cons.mp solid with ⟨first, remaining⟩
      rw [List.cons_append, wordsFrom, if_neg (by simp [first]), induction remaining]
      simp

theorem closeWord_word {word : String} (isWord : IsWord word) (others : List String) :
    closeWord word.toList.reverse others = word :: others := by
  have kept : word.toList.reverse.isEmpty = false := by
    simpa [List.isEmpty_eq_false_iff] using isWord.nonempty
  rw [closeWord, if_neg (by simp [kept]), List.reverse_reverse, String.ofList_toList]

/-- A word ends where the line does, or at a blank. -/
theorem wordsFrom_word {word : String} (isWord : IsWord word) {rest : List Char}
    (ends : ∀ character ∈ rest.head?, isBlank character = true) :
    wordsFrom [] (word.toList ++ rest) = word :: wordsFrom [] rest := by
  rw [wordsFrom_solid isWord.solid, List.append_nil]
  cases rest with
  | nil => exact closeWord_word isWord []
  | cons character others =>
      have blank := ends character rfl
      rw [wordsFrom, if_pos blank, wordsFrom, if_pos blank]
      exact closeWord_word isWord _

theorem wordsFrom_allBlank {blanks : List Char} (blank : AllBlank blanks) :
    wordsFrom [] blanks = [] := by
  have skipped := wordsFrom_blanks blank []
  rwa [List.append_nil] at skipped

theorem words_of_spells {line first second : String} (isFirst : IsWord first)
    (isSecond : IsWord second) (spells : Spells line first second) :
    words line = [first, second] := by
  rcases spells with
    ⟨before, between, after, blankBefore, blankBetween, blankAfter, apart, lineEq⟩
  have firstEnds : ∀ character ∈ (between ++ (second.toList ++ after)).head?,
      isBlank character = true := by
    intro character atHead
    rw [List.head?_append_of_ne_nil _ apart] at atHead
    exact blankBetween character (List.mem_of_mem_head? atHead)
  have secondEnds : ∀ character ∈ after.head?, isBlank character = true :=
    fun character atHead => blankAfter character (List.mem_of_mem_head? atHead)
  simp only [List.append_assoc] at lineEq
  calc
    words line
      = wordsFrom [] (first.toList ++ (between ++ (second.toList ++ after))) := by
        rw [words, lineEq, wordsFrom_blanks blankBefore]
    _ = first :: wordsFrom [] (second.toList ++ after) := by
        rw [wordsFrom_word isFirst firstEnds, wordsFrom_blanks blankBetween]
    _ = [first, second] := by
        rw [wordsFrom_word isSecond secondEnds, wordsFrom_allBlank blankAfter]

end Text

/-- Words for names. No name has two of them, and none is that of the seed. -/
structure WordMap where
  entries : List (String × String)
  distinct : (entries.map Prod.fst).Nodup
  unseeded : ∀ entry ∈ entries, entry.1 ≠ Settings.seedName
  worded : ∀ entry ∈ entries, Text.IsWord entry.1 ∧ Text.IsWord entry.2

/-- The lines list the entries in their order, with blank lines anywhere. -/
inductive Lists : List String → List (String × String) → Prop
  | done : Lists [] []
  | blank {line : String} {lines : List String} {entries : List (String × String)}
      (blank : Text.AllBlank line.toList) (rest : Lists lines entries) :
      Lists (line :: lines) entries
  | entry {line name value : String} {lines : List String}
      {entries : List (String × String)} (spelled : Text.Spells line name value)
      (rest : Lists lines entries) :
      Lists (line :: lines) ((name, value) :: entries)

/-- A line for every entry. -/
def plainLines (entries : List (String × String)) : List String :=
  entries.map fun entry => entry.1 ++ " " ++ entry.2

theorem lists_plainLines (entries : List (String × String)) :
    Lists (plainLines entries) entries := by
  induction entries with
  | nil => exact .done
  | cons entry rest induction =>
      have spelled : Text.Spells (entry.1 ++ " " ++ entry.2) entry.1 entry.2 :=
        ⟨[], [' '], [], by decide, by decide, by decide, by decide, by simp⟩
      exact .entry spelled induction

/-- The raw values of words. -/
def textValues (entries : List (String × String)) : List (String × Value) :=
  entries.map fun entry => (entry.1, .text entry.2)

@[simp] theorem textValues_names (entries : List (String × String)) :
    (textValues entries).map Prod.fst = entries.map Prod.fst := by
  rw [textValues, List.map_map]
  rfl

/-- A name that is given once is found with its value. -/
theorem lookup_eq_some {entries : List (String × Value)}
    (distinct : (entries.map Prod.fst).Nodup) {name : String} {value : Value}
    (member : (name, value) ∈ entries) : entries.lookup name = some value := by
  rcases List.append_of_mem member with ⟨before, after, rfl⟩
  refine List.lookup_eq_some_iff.mpr ⟨before, after, rfl, ?_⟩
  intro earlier present
  rw [List.map_append, List.nodup_append] at distinct
  exact bne_iff_ne.mpr
    (distinct.2.2 earlier.1 (List.mem_map_of_mem present) name (by simp)).symm

namespace WordMap

/-- The lines list everything once, in any order. -/
def ListedOn (words : WordMap) (lines : List String) : Prop :=
  ∃ listed, listed.Perm words.entries ∧ Lists lines listed

/-- The same values as those of a mapping, with a seed beside them, in any order. -/
def MappedBy (words : WordMap) (seed : Option Int) (entries : List (String × Value)) : Prop :=
  entries.Perm ((Settings.seedName, seed.elim .null .integer) :: textValues words.entries)

variable {words : WordMap} {seed : Option Int} {entries : List (String × Value)}

theorem name_ne_seedName {entry : String × Value}
    (member : entry ∈ textValues words.entries) : entry.1 ≠ Settings.seedName := by
  rcases List.mem_map.mp member with ⟨original, present, rfl⟩
  exact words.unseeded original present

theorem MappedBy.distinct (mapped : words.MappedBy seed entries) :
    (entries.map Prod.fst).Nodup := by
  rw [(mapped.map Prod.fst).nodup_iff, List.map_cons, textValues_names, List.nodup_cons]
  refine ⟨?_, words.distinct⟩
  intro member
  rcases List.mem_map.mp member with ⟨entry, present, nameEq⟩
  exact words.unseeded entry present nameEq

/-- Without the seed, there are the values that could be on lines. -/
theorem MappedBy.filter_perm (mapped : words.MappedBy seed entries) :
    (entries.filter fun entry => entry.1 != Settings.seedName).Perm
      (textValues words.entries) := by
  have filtered := mapped.filter fun entry => entry.1 != Settings.seedName
  rwa [List.filter_cons_of_neg (by simp),
    Settings.filter_unseeded fun _ member => name_ne_seedName member] at filtered

end WordMap

namespace Settings

/-- A line is read as the value on it is, as long as its name is new. -/
theorem readLine_eq_ok_iff {line name value : String}
    (wordsEq : Text.words line = [name, value])
    {earlier : List Setting} (fresh : name ∉ earlier.map (·.parameter.name))
    (number : Int) (found : Option Setting) :
    readLine Parameter.all earlier number line = .ok found ↔
      ∃ setting, Parameter.readNamed Parameter.all name (.text value) none = .ok setting ∧
        found = some setting := by
  have notRepeated : earlier.any (fun setting => setting.parameter.name == name) = false := by
    simpa [List.any_eq_false] using fresh
  rw [readLine, wordsEq, Parameter.readNamed]
  simp only [notRepeated, Bool.false_eq_true, if_false]
  cases named : Parameter.ofName? Parameter.all name with
  | none => simp
  | some parameter =>
      cases read : parameter.read (.text value) (some number) with
      | error error =>
          have unread : ∀ setting, parameter.read (.text value) none ≠ .ok setting := by
            intro setting readThere
            have readHere := Parameter.read_on_line readThere (some number)
            rw [read] at readHere
            cases readHere
          simp [read, unread]
      | ok setting =>
          simp [read, Parameter.read_on_line read none, eq_comm]

/-- Lines are read as what the values on them are read as, one after the other. No name
repeats as long as none is that of an earlier setting. -/
theorem readLines_listed {lines : List String} {listed : List (String × String)}
    (lists : Lists lines listed)
    (worded : ∀ entry ∈ listed, Text.IsWord entry.1 ∧ Text.IsWord entry.2)
    {earlier given : List Setting} {number : Int}
    (distinct : (earlier.map (·.parameter.name) ++ listed.map Prod.fst).Nodup) :
    readLines Parameter.all earlier number lines = .ok given ↔
      ∃ later, readEntries Parameter.all (textValues listed) = .ok later ∧
        given = earlier.reverse ++ later := by
  induction lists generalizing earlier number with
  | done => simp [readLines, readEntries, textValues, eq_comm]
  | @blank line lines entries blank rest induction =>
      have skipped : readLine Parameter.all earlier number line = .ok none := by
        rw [readLine, Text.words, Text.wordsFrom_allBlank blank]
      rw [readLines, skipped]
      exact induction worded distinct
  | @entry line name value lines entries spelled rest induction =>
      rcases List.forall_mem_cons.mp worded with ⟨⟨isName, isValue⟩, othersWorded⟩
      have fresh : name ∉ earlier.map (·.parameter.name) := fun member =>
        (List.nodup_append.mp distinct).2.2 name member name List.mem_cons_self rfl
      have wordsEq := Text.words_of_spells isName isValue spelled
      have line_iff := readLine_eq_ok_iff wordsEq fresh number
      -- The name on this line joins the earlier ones.
      have extended {setting : Setting}
          (read : Parameter.readNamed Parameter.all name (.text value) none = .ok setting) :
          ((setting :: earlier).map (·.parameter.name) ++ entries.map Prod.fst).Nodup := by
        rw [List.map_cons, Parameter.readNamed_name read]
        exact List.perm_middle.nodup_iff.mp distinct
      rw [readLines]
      constructor
      · intro read
        split at read
        · cases read
        · rename_i here
          rcases (line_iff _).mp here with ⟨_, _, impossible⟩
          cases impossible
        · rename_i setting here
          rcases (line_iff _).mp here with ⟨_, firstRead, same⟩
          cases same
          rcases (induction othersWorded (extended firstRead)).mp read with
            ⟨later, othersRead, rfl⟩
          refine ⟨setting :: later, ?_, by simp⟩
          change readEntries _ ((name, .text value) :: textValues entries) = _
          rw [readEntries_cons firstRead, othersRead]
          rfl
      · rintro ⟨later, read, rfl⟩
        rcases bind_eq_ok read with ⟨setting, firstRead, continued⟩
        rcases bind_eq_ok continued with ⟨others, othersRead, laterEq⟩
        cases laterEq
        rw [(line_iff _).mpr ⟨setting, firstRead, rfl⟩]
        exact (induction othersWorded (extended firstRead)).mpr ⟨others, othersRead, by simp⟩

variable {words : WordMap} {seed : Option Int} {settings : Settings}

/-- Lines are accepted exactly as the settings that the values on them describe. -/
theorem ofLines_eq_ok_iff {lines : List String} (listedOn : words.ListedOn lines) :
    ofLines Parameter.all lines seed = .ok settings ↔
      settings.seed = seed ∧ settings.DescribedBy (textValues words.entries) := by
  rcases listedOn with ⟨listed, perm, lists⟩
  have worded : ∀ entry ∈ listed, Text.IsWord entry.1 ∧ Text.IsWord entry.2 :=
    fun entry member => words.worded entry (perm.mem_iff.mp member)
  have distinct : (listed.map Prod.fst).Nodup :=
    (perm.map Prod.fst).nodup_iff.mpr words.distinct
  have fresh : (([] : List Setting).map (·.parameter.name) ++ listed.map Prod.fst).Nodup := by
    simpa using distinct
  have valuesPerm : (textValues listed).Perm (textValues words.entries) := perm.map _
  calc
    ofLines Parameter.all lines seed = .ok settings
      ↔ ∃ given, readLines Parameter.all [] 1 lines = .ok given ∧
          build Parameter.all given seed (some lines.length) = .ok settings := by
        rw [ofLines]
        cases readLines Parameter.all [] 1 lines <;> simp
    _ ↔ ∃ given, readEntries Parameter.all (textValues listed) = .ok given ∧
          build Parameter.all given seed (some lines.length) = .ok settings := by
        simp [readLines_listed lists worded fresh]
    _ ↔ settings.seed = seed ∧ settings.DescribedBy (textValues listed) :=
        build_readEntries_iff (by rwa [textValues_names]) seed _
    _ ↔ settings.seed = seed ∧ settings.DescribedBy (textValues words.entries) :=
        and_congr_right fun _ =>
          ⟨fun described => described.perm valuesPerm,
            fun described => described.perm valuesPerm.symm⟩

/-- So is a mapping of the same values. -/
theorem ofMapping_mapped_iff {entries : List (String × Value)}
    (mapped : words.MappedBy seed entries) :
    ofMapping Parameter.all entries = .ok settings ↔
      settings.seed = seed ∧ settings.DescribedBy (textValues words.entries) := by
  have seedGiven := lookup_eq_some mapped.distinct (mapped.mem_iff.mpr List.mem_cons_self)
  have seedRead : readSeed (seed.elim .null .integer) = .ok seed := by
    cases seed <;> rfl
  rw [ofMapping_eq_ok_iff mapped.distinct, seedGiven, Option.getD_some, seedRead]
  constructor
  · rintro ⟨seedEq, described⟩
    exact ⟨(Except.ok.inj seedEq).symm, described.perm mapped.filter_perm⟩
  · rintro ⟨rfl, described⟩
    exact ⟨rfl, described.perm mapped.filter_perm.symm⟩

/-- Neither a word nor an integer seed is too large to be converted. -/
theorem not_escapes {entries : List (String × Value)} (mapped : words.MappedBy seed entries) :
    ¬Escapes entries := by
  intro escapes
  cases escapes with
  | seed infinite =>
      rw [lookup_eq_some mapped.distinct (mapped.mem_iff.mpr List.mem_cons_self)] at infinite
      cases seed <;> cases infinite
  | entry before parameter value after seedRead split readable oversized =>
      have member : (parameter.name, value) ∈ textValues words.entries := by
        rw [← mapped.filter_perm.mem_iff, split]
        simp
      rcases List.mem_map.mp member with ⟨entry, _, same⟩
      have isText : Value.text entry.2 = value := congrArg Prod.snd same
      subst isText
      cases oversized

end Settings

/-- The text of an integer is replaced by the integer, if the parameter is a count. -/
inductive Restated : String × Value → String × Value → Prop
  | same (entry : String × Value) : Restated entry entry
  | integer {parameter : CountParameter} {content : String} {number : Int}
      (spelled : Text.integer? content.toList = some number) :
      Restated ((Parameter.count parameter).name, .text content)
        ((Parameter.count parameter).name, .integer number)

theorem Parameter.name_ne_seedName (parameter : Parameter) :
    parameter.name ≠ Settings.seedName := by
  cases parameter with
  | count parameter => cases parameter <;> decide
  | fraction parameter => cases parameter <;> decide
  | program parameter => cases parameter <;> decide

namespace Restated

variable {entry restated : String × Value} {entries others : List (String × Value)}

theorem name_eq (changed : Restated entry restated) : restated.1 = entry.1 := by
  cases changed <;> rfl

theorem readNamed_eq (changed : Restated entry restated) (line : Option Int) :
    Parameter.readNamed Parameter.all restated.1 restated.2 line =
      Parameter.readNamed Parameter.all entry.1 entry.2 line := by
  cases changed with
  | same => rfl
  | integer spelled =>
      simp only [Parameter.readNamed, Parameter.ofName?_name, Parameter.read,
        CountParameter.read, Value.asInteger?, spelled]

theorem readEntries_eq (changed : List.Forall₂ Restated entries others) :
    Settings.readEntries Parameter.all others = Settings.readEntries Parameter.all entries := by
  induction changed with
  | nil => rfl
  | cons first _ induction =>
      rw [Settings.readEntries, Settings.readEntries, first.readNamed_eq, induction]

theorem filter_changed (changed : List.Forall₂ Restated entries others) :
    List.Forall₂ Restated (entries.filter fun entry => entry.1 != Settings.seedName)
      (others.filter fun entry => entry.1 != Settings.seedName) :=
  List.rel_filter (fun _ _ first => by simp only [first.name_eq]) changed

theorem lookup_seedName_eq (changed : List.Forall₂ Restated entries others) :
    others.lookup Settings.seedName = entries.lookup Settings.seedName := by
  induction changed with
  | nil => rfl
  | cons first _ induction =>
      cases first with
      | same entry => rw [List.lookup_cons, List.lookup_cons, induction]
      | @integer parameter content number spelled =>
          have apart := beq_false_of_ne (Parameter.count parameter).name_ne_seedName.symm
          rw [List.lookup_cons, List.lookup_cons, apart]
          exact induction

theorem ofMapping_eq (changed : List.Forall₂ Restated entries others) :
    Settings.ofMapping Parameter.all others = Settings.ofMapping Parameter.all entries := by
  rw [Settings.ofMapping, Settings.ofMapping, lookup_seedName_eq changed,
    readEntries_eq (filter_changed changed)]

end Restated

namespace Settings

/-- The same words are accepted on lines and as a mapping, as the same settings, and
otherwise refused for what is wrong with the settings. The order of the lines does not
matter, nor whether counts are written as text or as integers. -/
theorem words_accepted (words : WordMap) (seed : Option Int) :
    (∀ lines entries, words.ListedOn lines → words.MappedBy seed entries →
      (∀ settings, ofLines Parameter.all lines seed = .ok settings ↔
        ofMapping Parameter.all entries = .ok settings) ∧
      (∀ error, ofLines Parameter.all lines seed = .error error → error.IsConfiguration) ∧
      ∀ error, ofMapping Parameter.all entries = .error error → error.IsConfiguration) ∧
    (∀ lines others, words.ListedOn lines → words.ListedOn others → ∀ settings,
      ofLines Parameter.all lines seed = .ok settings ↔
        ofLines Parameter.all others seed = .ok settings) ∧
    ∀ entries restated, List.Forall₂ Restated entries restated →
      ofMapping Parameter.all restated = ofMapping Parameter.all entries := by
  refine ⟨?_, ?_, ?_⟩
  · intro lines entries listedOn mapped
    refine ⟨?_, fun error => ofLines_isConfiguration, ?_⟩
    · intro settings
      rw [ofLines_eq_ok_iff listedOn, ofMapping_mapped_iff mapped]
    · intro error failed
      apply ofMapping_isConfiguration failed
      rintro rfl
      exact not_escapes mapped (ofMapping_eq_tooLarge_iff.mp failed)
  · intro lines others listedOn othersListedOn settings
    rw [ofLines_eq_ok_iff listedOn, ofLines_eq_ok_iff othersListedOn]
  · exact fun entries restated => Restated.ofMapping_eq

/-- Words for two founders that reproduce as often as they can. -/
def prolificWords : WordMap where
  entries := [
    ("rounds", "9"),
    ("initial_population", "2"),
    ("initial_energy", "20"),
    ("food_energy", "5"),
    ("food_ripening_time", "8"),
    ("round_cost", "1"),
    ("reproduction_threshold", "10"),
    ("print_interval", "10"),
    ("reproduction_probability", "1"),
    ("parent_energy_fraction", "0.5"),
    ("instruction_removal_probability", "0"),
    ("instruction_addition_probability", "0"),
    ("instruction_change_probability", "0"),
    ("initial_program", "wij"),
    ("instruction_pool", "ijwlp")]
  distinct := by decide +kernel
  unseeded := by decide +kernel
  worded := by decide +kernel

theorem prolificWords_accepted :
    prolificWords.ListedOn ("" :: plainLines prolificWords.entries.reverse) ∧
      prolificWords.MappedBy (some 5) (("seed", .integer 5) :: textValues prolificWords.entries) ∧
      ofLines Parameter.all ("" :: plainLines prolificWords.entries.reverse) (some 5) =
        .ok { Chronicle.prolific with seed := some 5 } ∧
      ofMapping Parameter.all (("seed", .integer 5) :: ("rounds", .integer 9) ::
          textValues prolificWords.entries.tail) =
        .ok { Chronicle.prolific with seed := some 5 } := by
  have listedOn : prolificWords.ListedOn ("" :: plainLines prolificWords.entries.reverse) :=
    ⟨_, List.reverse_perm _, .blank (by decide) (lists_plainLines _)⟩
  have mapped : prolificWords.MappedBy (some 5)
      (("seed", .integer 5) :: textValues prolificWords.entries) := .refl _
  have accepted : ofMapping Parameter.all
      (("seed", .integer 5) :: textValues prolificWords.entries) =
        .ok { Chronicle.prolific with seed := some 5 } := by
    decide +kernel
  have spelled : Text.integer? "9".toList = some 9 := by decide +kernel
  have changed : List.Forall₂ Restated
      (("seed", .integer 5) :: textValues prolificWords.entries)
      (("seed", .integer 5) :: ("rounds", .integer 9) ::
        textValues prolificWords.entries.tail) :=
    .cons (.same _) (.cons (@Restated.integer .rounds _ _ spelled)
      (List.forall₂_same.mpr fun entry _ => .same entry))
  rcases words_accepted prolificWords (some 5) with ⟨agree, _, same⟩
  refine ⟨listedOn, mapped, ?_, ?_⟩
  · exact ((agree _ _ listedOn mapped).1 _).mpr accepted
  · rw [same _ _ changed]
    exact accepted

end Settings

end Foragers
