import Foragers.Proofs.Lines
import Foragers.Proofs.Trace
import Foragers.Report.Console
import Foragers.Report.Table
import Std.Data.String.ToInt

/-! # Figures of a round

A round has a line among those that are printed and a row in the table. Both give the
same figures to whoever reads them, and nothing else that is printed looks like the line
of a round. The lines of a snapshot are those that begin with a star.
-/

namespace Foragers

/-- The least and the largest of some numbers. -/
structure Extremes where
  minimum : Int
  maximum : Int
  deriving DecidableEq, Repr

/-- What both the line and the row of a round say. -/
structure Figures where
  round : Int
  ripeFood : Int
  population : Int
  programLength : Extremes
  energy : Extremes
  age : Extremes
  deriving DecidableEq, Repr

def Summary.extremes (summary : Summary) : Extremes where
  minimum := summary.minimum
  maximum := summary.maximum

def RoundMetrics.figures (metrics : RoundMetrics) : Figures where
  round := metrics.round
  ripeFood := metrics.ripeFood
  population := metrics.population
  programLength := metrics.programLength.extremes
  energy := metrics.energy.extremes
  age := metrics.age.extremes

/-! ## Reading -/

/-- Reads minimum, mean and maximum, of which the mean does not matter. -/
def Extremes.read? : List String → Option Extremes
  | [minimum, _, maximum] => do
      return ⟨← minimum.toInt?, ← maximum.toInt?⟩
  | _ => none

namespace Figures

/-- Reads the printed line of a round. -/
def ofLine? (line : String) : Option Figures :=
  match Text.parts ',' line with
  | [round, food, agents, program, energy, age] => do
      let food ← Text.behind? " food: " food
      let agents ← Text.behind? " agents: " agents
      let program ← Text.behind? " prog: " program
      let energy ← Text.behind? " energy: " energy
      let age ← Text.behind? " age: " age
      return {
        round := ← round.toInt?
        ripeFood := ← food.toInt?
        population := ← agents.toInt?
        programLength := ← Extremes.read? (Text.parts '/' program)
        energy := ← Extremes.read? (Text.parts '/' energy)
        age := ← Extremes.read? (Text.parts '/' age) }
  | _ => none

/-- Reads the fourteen fields of a row. -/
def ofFields? : List String → Option Figures
  | [round, food, population, _, _, leastProgram, meanProgram, mostProgram, leastEnergy,
      meanEnergy, mostEnergy, leastAge, meanAge, mostAge] => do
      return {
        round := ← round.toInt?
        ripeFood := ← food.toInt?
        population := ← population.toInt?
        programLength := ← Extremes.read? [leastProgram, meanProgram, mostProgram]
        energy := ← Extremes.read? [leastEnergy, meanEnergy, mostEnergy]
        age := ← Extremes.read? [leastAge, meanAge, mostAge] }
  | _ => none

end Figures

namespace Report

open Text

/-! ## Summaries -/

/-- The numbers of a summary as they are printed. -/
def summaryTexts (summary : Summary) : List String :=
  [toString summary.minimum, summary.mean.fixed 2, toString summary.maximum]

theorem compact_of_mem_summaryTexts {summary : Summary} :
    ∀ text ∈ summaryTexts summary, Compact text := by
  simp only [summaryTexts, List.forall_mem_cons]
  exact ⟨compact_integer _, compact_fixed _ _, compact_integer _, List.forall_mem_nil _⟩

theorem compact_of_mem_summaryFields {summary : Summary} :
    ∀ field ∈ summaryFields summary, Compact field := by
  simp only [summaryFields, List.forall_mem_cons]
  exact ⟨compact_integer _, compact_fixed _ _, compact_integer _, List.forall_mem_nil _⟩

theorem read?_summaryTexts (summary : Summary) :
    Extremes.read? (summaryTexts summary) = some summary.extremes := by
  simp [summaryTexts, Extremes.read?, Summary.extremes]

theorem summaryText_eq (label : String) (summary : Summary) :
    summaryText label summary = label ++ (": " ++ "/".intercalate (summaryTexts summary)) := by
  change label ++ ": " ++ toString summary.minimum ++ "/" ++ summary.mean.fixed 2 ++ "/" ++
    toString summary.maximum = _
  simp only [summaryTexts, String.intercalate_cons_cons, String.intercalate_singleton,
    String.append_assoc]

theorem parts_summaryTexts (summary : Summary) :
    parts '/' ("/".intercalate (summaryTexts summary)) = summaryTexts summary := by
  apply parts_intercalate (List.cons_ne_nil _ _)
  intro text member
  exact (compact_of_mem_summaryTexts text member).not_mem (by decide)

/-! ## Lines -/

/-- The parts of the line of a round. -/
def roundParts (metrics : RoundMetrics) : List String :=
  [toString metrics.round,
    " food: " ++ toString metrics.ripeFood,
    " agents: " ++ toString metrics.population,
    " prog: " ++ "/".intercalate (summaryTexts metrics.programLength),
    " energy: " ++ "/".intercalate (summaryTexts metrics.energy),
    " age: " ++ "/".intercalate (summaryTexts metrics.age)]

/-- The parts of the line of an agent in a snapshot. -/
def agentParts (agent : AgentRecord) : List String :=
  ["* Agent " ++ toString agent.id ++ ": age: " ++ toString agent.age,
    " energy: " ++ toString agent.energy,
    " position (" ++ toString agent.position.x,
    " " ++ toString agent.position.y ++ ")",
    " direction: " ++ agent.heading.label,
    " program: " ++ agent.program.text]

theorem roundLine_eq (metrics : RoundMetrics) :
    roundLine metrics = ",".intercalate (roundParts metrics) := by
  change ", ".intercalate [toString metrics.round, "food: " ++ toString metrics.ripeFood,
    "agents: " ++ toString metrics.population, summaryText "prog" metrics.programLength,
    summaryText "energy" metrics.energy, summaryText "age" metrics.age] = _
  have comma : ", " = "," ++ " " := rfl
  simp only [roundParts, summaryText_eq, String.intercalate_cons_cons,
    String.intercalate_singleton, comma, String.append_assoc]
  rfl

theorem agentLine_eq (agent : AgentRecord) :
    "* " ++ agentText agent = ",".intercalate (agentParts agent) := by
  change "* " ++ ("Agent " ++ toString agent.id ++ ": age: " ++ toString agent.age ++
    ", energy: " ++ toString agent.energy ++ ", " ++ ("position (" ++
    toString agent.position.x ++ ", " ++ toString agent.position.y ++ "), ") ++
    ("direction: " ++ agent.heading.label ++ ", program: " ++ agent.program.text)) = _
  simp only [agentParts, String.intercalate_cons_cons, String.intercalate_singleton,
    String.append_assoc]
  rfl

theorem avoids_summaryTexts (summary : Summary) :
    Avoids separators ("/".intercalate (summaryTexts summary)) := by
  apply Avoids.intercalate (by decide)
  intro text member
  exact (compact_of_mem_summaryTexts text member).avoids_separators

theorem avoids_of_mem_roundParts {metrics : RoundMetrics} :
    ∀ part ∈ roundParts metrics, Avoids separators part := by
  simp only [roundParts, List.forall_mem_cons]
  refine ⟨?_, ?_, ?_, ?_, ?_, ?_, List.forall_mem_nil _⟩
  · exact (compact_integer _).avoids_separators
  · exact .append (by decide) ((compact_natural _).avoids_separators)
  · exact .append (by decide) ((compact_natural _).avoids_separators)
  · exact .append (by decide) (avoids_summaryTexts _)
  · exact .append (by decide) (avoids_summaryTexts _)
  · exact .append (by decide) (avoids_summaryTexts _)

theorem avoids_of_mem_agentParts {agent : AgentRecord} :
    ∀ part ∈ agentParts agent, Avoids separators part := by
  have number (value : Int) : Avoids separators (toString value) :=
    (compact_integer value).avoids_separators
  simp only [agentParts, List.forall_mem_cons]
  refine ⟨?_, ?_, ?_, ?_, ?_, ?_, List.forall_mem_nil _⟩
  · exact (((Avoids.append (by decide) (number _)).append (by decide)).append (number _))
  · exact .append (by decide) (number _)
  · exact .append (by decide) (number _)
  · exact (Avoids.append (by decide) (number _)).append (by decide)
  · exact .append (by decide) ((compact_heading _).avoids_separators)
  · exact .append (by decide) ((compact_program _).avoids_separators)

/-- Parts that have no separator are found again between commas. -/
theorem parts_line {texts : List String} (nonempty : texts ≠ [])
    (avoid : ∀ text ∈ texts, Avoids separators text) :
    parts ',' (",".intercalate texts) = texts :=
  parts_intercalate nonempty fun text member => avoid text member ',' (by decide)

/-- Commas end no line. -/
theorem avoids_line {texts : List String} (avoid : ∀ text ∈ texts, Avoids separators text) :
    Avoids ('\x22' :: lineEnds) (",".intercalate texts) :=
  .intercalate (by decide) fun text member =>
    (avoid text member).subset (List.subset_cons_self _ _)

theorem parts_roundLine (metrics : RoundMetrics) :
    parts ',' (roundLine metrics) = roundParts metrics := by
  rw [roundLine_eq]
  exact parts_line (List.cons_ne_nil _ _) avoids_of_mem_roundParts

theorem parts_agentLine (agent : AgentRecord) :
    parts ',' ("* " ++ agentText agent) = agentParts agent := by
  rw [agentLine_eq]
  exact parts_line (List.cons_ne_nil _ _) avoids_of_mem_agentParts

/-! ## What is printed -/

theorem ofLine?_roundLine (metrics : RoundMetrics) :
    Figures.ofLine? (roundLine metrics) = some metrics.figures := by
  rw [Figures.ofLine?, parts_roundLine]
  simp only [roundParts, behind?_append, parts_summaryTexts, read?_summaryTexts,
    Int.toString_eq_repr, Int.toInt?_repr, Nat.toString_eq_repr, Nat.toInt?_repr,
    Option.bind_eq_bind, Option.bind_some]
  rfl

theorem ofLine?_of_mem_snapshotLines {snapshot : Snapshot} :
    ∀ line ∈ snapshotLines snapshot, Figures.ofLine? line = none := by
  refine List.forall_mem_cons.mpr ⟨by decide, fun line member => ?_⟩
  rcases List.mem_map.mp member with ⟨agent, _, lineEq⟩
  -- The second part of an agent's line has the label of its energy, not that of food.
  have noFood (text : String) : behind? " food: " (" energy: " ++ text) = none := by
    simp [behind?, List.dropPrefix?]
  rw [← lineEq, Figures.ofLine?, parts_agentLine]
  exact congrArg (Option.bind · _) (noFood (toString agent.energy))

theorem ofLine?_extinctionLine (round : Int) :
    Figures.ofLine? (extinctionLine round) = none := by
  have avoids : ',' ∉ (extinctionLine round).toList := by
    have number := (compact_integer round).not_mem (by decide : isCompact ',' = false)
    simp only [extinctionLine, String.toList_append, List.mem_append, not_or]
    exact ⟨⟨by decide, number⟩, by decide⟩
  rw [Figures.ofLine?, parts, List.splitOn_eq_singleton avoids]
  rfl

/-- The lines of a snapshot begin with a star. -/
def isStarred (line : String) : Bool :=
  line.toList.head? = some '*'

theorem isStarred_of_mem_snapshotLines {snapshot : Snapshot} :
    ∀ line ∈ snapshotLines snapshot, isStarred line = true := by
  refine List.forall_mem_cons.mpr ⟨by decide, fun line member => ?_⟩
  rcases List.mem_map.mp member with ⟨agent, _, lineEq⟩
  rw [← lineEq, isStarred, String.toList_append]
  rfl

theorem isStarred_roundLine (metrics : RoundMetrics) :
    isStarred (roundLine metrics) = false := by
  have compact := compact_integer metrics.round
  rw [roundLine_eq, roundParts, String.intercalate_cons_cons, isStarred, String.append_assoc,
    String.toList_append]
  rw [Compact] at compact
  cases number : (toString metrics.round).toList with
  | nil => rw [List.nil_append, String.toList_append]; rfl
  | cons first rest =>
      rw [number] at compact
      rw [List.cons_append, List.head?_cons, decide_eq_false_iff_not, Option.some.injEq]
      intro star
      have firstCompact := compact first List.mem_cons_self
      rw [star] at firstCompact
      cases firstCompact

theorem isStarred_extinctionLine (round : Int) : isStarred (extinctionLine round) = false := by
  simp only [isStarred, extinctionLine, String.toList_append]
  rfl

theorem avoids_of_mem_consoleLines {snapshots : Bool} {event : Event} :
    ∀ line ∈ consoleLines snapshots event, Avoids lineEnds line := by
  cases event with
  | round metrics =>
      refine List.forall_mem_cons.mpr ⟨?_, List.forall_mem_nil _⟩
      rw [roundLine_eq]
      exact (avoids_line avoids_of_mem_roundParts).subset (List.subset_cons_self _ _)
  | snapshot taken =>
      cases snapshots with
      | false => exact List.forall_mem_nil _
      | true =>
          refine List.forall_mem_cons.mpr ⟨by decide, fun line member => ?_⟩
          rcases List.mem_map.mp member with ⟨agent, _, lineEq⟩
          rw [← lineEq, agentLine_eq]
          exact (avoids_line avoids_of_mem_agentParts).subset (List.subset_cons_self _ _)
  | extinction round =>
      refine List.forall_mem_cons.mpr ⟨?_, List.forall_mem_nil _⟩
      have number : Avoids lineEnds (toString round) :=
        (compact_integer round).avoids_separators.subset lineEnds_subset
      exact (Avoids.append (by decide) number).append (by decide)

/-- The printed lines can be told apart. -/
theorem lines_consoleText (snapshots : Bool) (events : List Event) :
    Text.lines (consoleText snapshots events) = events.flatMap (consoleLines snapshots) := by
  apply lines_join (.inl rfl)
  intro line member
  rcases List.mem_flatMap.mp member with ⟨event, _, within⟩
  exact avoids_of_mem_consoleLines line within

/-- The lines of a text that do not begin with a star. -/
def unstarred (text : String) : String :=
  String.join (((Text.lines text).filter fun line => !isStarred line).map (· ++ "\n"))

theorem filter_consoleLines (event : Event) :
    ((consoleLines true event).filter fun line => !isStarred line) =
      consoleLines false event := by
  cases event with
  | round metrics =>
      rw [consoleLines, List.filter_singleton, isStarred_roundLine]
      rfl
  | snapshot taken =>
      apply List.filter_eq_nil_iff.mpr
      intro line member
      rw [isStarred_of_mem_snapshotLines line member]
      decide
  | extinction round =>
      rw [consoleLines, List.filter_singleton, isStarred_extinctionLine]
      rfl

/-- Without snapshots the same is printed but for the lines that begin with a star. -/
theorem unstarred_consoleText (events : List Event) :
    unstarred (consoleText true events) = consoleText false events := by
  rw [unstarred, lines_consoleText, List.filter_flatMap]
  simp only [filter_consoleLines]
  rfl

theorem filterMap_consoleLines (snapshots : Bool) (event : Event) :
    (consoleLines snapshots event).filterMap Figures.ofLine? =
      (event.metrics?.map RoundMetrics.figures).toList := by
  cases event with
  | round metrics =>
      rw [consoleLines, List.filterMap_cons, ofLine?_roundLine]
      rfl
  | snapshot taken =>
      cases snapshots with
      | false => rfl
      | true => exact List.filterMap_eq_nil_iff.mpr ofLine?_of_mem_snapshotLines
  | extinction round =>
      rw [consoleLines, List.filterMap_cons, ofLine?_extinctionLine]
      rfl

/-- What is printed of the rounds, whether snapshots are or not. -/
theorem figures_printed (snapshots : Bool) (events : List Event) :
    (Text.lines (consoleText snapshots events)).filterMap Figures.ofLine? =
      (events.filterMap Event.metrics?).map RoundMetrics.figures := by
  rw [lines_consoleText, List.filterMap_flatMap]
  simp only [filterMap_consoleLines]
  rw [← List.filterMap_eq_flatMap_toList, ← List.map_filterMap]

/-! ## What is written -/

theorem ofFields?_roundFields (metrics : RoundMetrics) :
    Figures.ofFields? (roundFields metrics) = some metrics.figures := by
  simp [roundFields, summaryFields, Figures.ofFields?, Extremes.read?, Summary.extremes,
    RoundMetrics.figures]

theorem length_roundFields (metrics : RoundMetrics) : (roundFields metrics).length = 14 :=
  rfl

theorem avoids_of_mem_roundFields {metrics : RoundMetrics} :
    ∀ field ∈ roundFields metrics, Avoids separators field := by
  have summary (summary : Summary) : ∀ field ∈ summaryFields summary, Avoids separators field :=
    fun field member => (compact_of_mem_summaryFields field member).avoids_separators
  simp only [roundFields, List.forall_mem_append, List.forall_mem_cons]
  refine ⟨⟨⟨⟨?_, ?_, ?_, ?_, ?_, List.forall_mem_nil _⟩, summary _⟩, summary _⟩, summary _⟩
  · exact (compact_integer _).avoids_separators
  · exact (compact_natural _).avoids_separators
  · exact (compact_natural _).avoids_separators
  · exact (compact_natural _).avoids_separators
  · exact (compact_natural _).avoids_separators

/-- The rows of a table, the header first, without the ends of their lines. -/
def tableLines (events : List Event) : List String :=
  (tableHeader :: (events.filterMap Event.metrics?).map roundFields).map (",".intercalate ·)

theorem tableText_eq (events : List Event) :
    tableText events = String.join ((tableLines events).map (· ++ "\r\n")) := by
  have row (event : Event) : tableRow? event =
      event.metrics?.map fun metrics => ",".intercalate (roundFields metrics) ++ "\r\n" := by
    cases event <;> rfl
  have rows : events.filterMap tableRow? = (events.filterMap Event.metrics?).map
      fun metrics => ",".intercalate (roundFields metrics) ++ "\r\n" := by
    rw [List.map_filterMap]
    exact List.filterMap_congr fun event _ => row event
  rw [tableText, rows, tableLines, List.map_map, List.map_cons, List.map_map]
  rfl

theorem avoids_of_mem_tableLines {events : List Event} :
    ∀ line ∈ tableLines events, Avoids ('\x22' :: lineEnds) line := by
  intro line member
  rcases List.mem_map.mp member with ⟨fields, present, lineEq⟩
  rw [← lineEq]
  apply avoids_line
  rcases List.mem_cons.mp present with header | row
  · rw [header]
    decide
  · rcases List.mem_map.mp row with ⟨metrics, _, fieldsEq⟩
    rw [← fieldsEq]
    exact avoids_of_mem_roundFields

theorem lines_tableText (events : List Event) :
    Text.lines (tableText events) = tableLines events := by
  rw [tableText_eq]
  apply lines_join (.inr rfl)
  intro line member
  exact (avoids_of_mem_tableLines line member).subset (List.subset_cons_self _ _)

/-- What a table says about rounds. Nothing in it is in quotes, so the fields of a row
are what stands between the commas. -/
structure Tabulates (figures : List Figures) (table : String) : Prop where
  unquoted : '\x22' ∉ table.toList
  header : (Text.lines table).head?.map (parts ',') = some tableHeader
  length : ∀ row ∈ (Text.lines table).tail, (parts ',' row).length = 14
  rows : (Text.lines table).tail.map (fun row => Figures.ofFields? (parts ',' row)) =
    figures.map some

theorem tableText_tabulates (events : List Event) :
    Tabulates ((events.filterMap Event.metrics?).map RoundMetrics.figures)
      (tableText events) := by
  have fields (metrics : RoundMetrics) :
      parts ',' (",".intercalate (roundFields metrics)) = roundFields metrics :=
    parts_line (List.cons_ne_nil _ _) avoids_of_mem_roundFields
  have tail : (tableLines events).tail = (events.filterMap Event.metrics?).map fun metrics =>
      ",".intercalate (roundFields metrics) := by
    rw [tableLines, List.map_cons, List.tail_cons, List.map_map]
    rfl
  constructor
  case unquoted =>
    have avoids : Avoids ['\x22'] (tableText events) := by
      rw [tableText_eq]
      apply Avoids.join
      intro line member
      rcases List.mem_map.mp member with ⟨row, present, lineEq⟩
      rw [← lineEq]
      have row := (avoids_of_mem_tableLines row present).subset
        (List.cons_subset_cons '\x22' (List.nil_subset lineEnds))
      exact row.append (by decide)
    exact avoids '\x22' List.mem_cons_self
  case header =>
    rw [lines_tableText, tableLines, List.map_cons, List.head?_cons, Option.map_some,
      parts_line (by decide) (by decide)]
  case length =>
    rw [lines_tableText, tail]
    intro row member
    rcases List.mem_map.mp member with ⟨metrics, _, rowEq⟩
    rw [← rowEq, fields, length_roundFields]
  case rows =>
    rw [lines_tableText, tail, List.map_map, List.map_map]
    apply List.map_congr_left
    intro metrics _
    simp only [Function.comp_apply, fields, ofFields?_roundFields]

end Report

end Foragers
