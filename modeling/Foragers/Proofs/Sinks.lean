import Foragers.Proofs.Acceptance
import Foragers.Proofs.Course
import Foragers.Proofs.Figures
import Foragers.Session.Basic

/-! # What a session leaves

A session prints lines and may write a table. Neither changes how it ends: with or
without snapshots and with or without a table the same events are told, and what is
printed and what is written are made of these alone.
-/

namespace Foragers

variable {access : FileAccess}

/-! ## Loaded settings -/

/-- A seed from elsewhere changes nothing that is checked. -/
theorem Settings.Valid.withSeed {settings : Settings} (valid : settings.Valid)
    (seed : Option Int) : { settings with seed }.Valid :=
  valid

/-- Settings are valid whatever a reader finds in a document. -/
theorem readDocument_valid {reader : DocumentReader} {text : String} {seed : Option Int}
    {settings : Settings} (read : readDocument reader text seed = .ok settings) :
    settings.Valid := by
  unfold readDocument at read
  split at read
  · cases read
  · cases read
  · split at read
    · rename_i accepted
      cases read
      exact (Settings.ofMapping_valid accepted).withSeed _
    · split at read <;> cases read

theorem readLines_valid {text : String} {seed : Option Int} {settings : Settings}
    (read : readLines text seed = .ok settings) : settings.Valid := by
  unfold readLines at read
  split at read
  · cases read
  · rename_i accepted
    cases read
    exact (Settings.Loaded.ofLines accepted).valid

theorem loadSettings_valid {path : Path} {seed : Option Int} {settings : Settings}
    (loaded : loadSettings access path seed = .ok settings) : settings.Valid := by
  unfold loadSettings at loaded
  split at loaded
  · cases loaded
  · split at loaded
    · cases loaded
    · split at loaded
      · exact readDocument_valid loaded
      · exact readLines_valid loaded

theorem loadSettings_eq_ok {path : Path} {text : String} {seed : Option Int}
    {settings : Settings} (read : access.read path = .ok text.toUTF8)
    (listed : path.isDocument = false)
    (accepted : Settings.ofLines Parameter.all (Text.lines text) seed = .ok settings) :
    loadSettings access path seed = .ok settings := by
  simp only [loadSettings, read, Text.fromUTF8?_toUTF8, listed, readLines, accepted]
  rfl

theorem loadBoard_eq_ok {path : Path} {text : String} {settings : Settings} {board : Board}
    (read : access.read path = .ok text.toUTF8)
    (drawn : Board.ofLines settings.foodEnergy settings.foodRipeningTime (Text.lines text) =
      .ok board) : loadBoard access path settings = .ok board := by
  simp only [loadBoard, FileAccess.readText, read, Text.fromUTF8?_toUTF8, drawn]

namespace SessionRequest

variable {request : SessionRequest} {spareSeed : Int} {settings : Settings} {board : Board}
  {ending : Ending}

theorem load_valid (loaded : request.load access = .ok (settings, board)) :
    settings.Valid := by
  unfold load at loaded
  rcases bind_eq_ok loaded with ⟨path, _, continued⟩
  rcases bind_eq_ok continued with ⟨found, foundEq, continued⟩
  rcases bind_eq_ok continued with ⟨boardPath, _, continued⟩
  rcases bind_eq_ok continued with ⟨drawn, _, returned⟩
  cases returned
  cases read : loadSettings access path request.seed.seed? with
  | error fault =>
      rw [read] at foundEq
      cases foundEq
  | ok given =>
      rw [read] at foundEq
      cases foundEq
      exact loadSettings_valid read

theorem load_eq_ok {path boardPath : Path} (hasSettings : request.settings = some path)
    (hasBoard : request.board = some boardPath)
    (read : loadSettings access path request.seed.seed? = .ok settings)
    (drawn : loadBoard access boardPath settings = .ok board) :
    request.load access = .ok (settings, board) := by
  rw [load, hasSettings, hasBoard]
  change (loadSettings access path request.seed.seed?).mapError SessionFault.load >>= _ = _
  rw [read]
  change (loadBoard access boardPath settings).mapError SessionFault.load >>= _ = _
  rw [drawn]
  rfl

/-! ## Sessions that return -/

/-- The world that a session plays. -/
def startWorld (settings : Settings) (board : Board) (spareSeed : Int) : World Twister :=
  .create settings board (.ofSeed (settings.seed.getD spareSeed))

/-- A session finds everything that it needs and plays its world to an end. -/
structure Ran (request : SessionRequest) (access : FileAccess) (spareSeed : Int)
    (settings : Settings) (board : Board) (ending : Ending) : Prop where
  loaded : request.load access = .ok (settings, board)
  writable : request.table.elim (.ok ()) access.checkWritable = .ok ()
  seeded : request.seed ≠ .void
  ended : (startWorld settings board spareSeed).play.ending = .ok ending

theorem exists_ran (returned : (request.run access spareSeed).ending = .ok ending) :
    ∃ settings board, request.Ran access spareSeed settings board ending := by
  unfold run at returned
  split at returned
  · cases returned
  · rename_i settings board loaded
    split at returned
    · cases returned
    · rename_i writable
      unfold playBoard at returned
      split at returned
      · cases returned
      · rename_i seeded
        refine ⟨settings, board, loaded, writable, seeded, ?_⟩
        change (request.play (startWorld settings board spareSeed) _).ending = _ at returned
        generalize startWorld settings board spareSeed = world at returned ⊢
        simp only [play] at returned
        split at returned
        · cases returned
        · rename_i ended
          cases returned
          exact ended

namespace Ran

/-- The events that a session tells. -/
def events (settings : Settings) (board : Board) (spareSeed : Int) : List Event :=
  (startWorld settings board spareSeed).play.events.toList

variable (ran : request.Ran access spareSeed settings board ending)

include ran

theorem run_eq : request.run access spareSeed =
    request.play (startWorld settings board spareSeed) [Report.loadedRecord board] := by
  simp only [run, ran.loaded, ran.writable, playBoard, if_neg ran.seeded]
  rfl

theorem ending_eq : (request.run access spareSeed).ending = .ok ending := by
  have ended := ran.ended
  rw [ran.run_eq]
  generalize startWorld settings board spareSeed = world at ended ⊢
  simp only [play, ended]

theorem printed_eq : (request.run access spareSeed).printed =
    Report.consoleText request.snapshots (events settings board spareSeed) := by
  rw [ran.run_eq]
  rfl

theorem written_eq : (request.run access spareSeed).written =
    request.table.map fun path =>
      (path, Report.tableText (events settings board spareSeed)) := by
  rw [ran.run_eq]
  rfl

theorem withSnapshots (snapshots : Bool) :
    { request with snapshots }.Ran access spareSeed settings board ending :=
  ⟨ran.loaded, ran.writable, ran.seeded, ran.ended⟩

theorem withTable {table : Option Path}
    (writable : table.elim (.ok ()) access.checkWritable = .ok ()) :
    { request with table }.Ran access spareSeed settings board ending :=
  ⟨ran.loaded, writable, ran.seeded, ran.ended⟩

end Ran

/-! ## Reported rounds -/

/-- The rounds that a session reports follow each other from the first one on. They are
all that were asked for, or those before the one that nobody survived. -/
structure Reported (settings : Settings) (ending : Ending) (figures : List Figures) : Prop where
  rounds : figures.map Figures.round =
    (List.range figures.length).map fun (index : Nat) => (index : Int) + 1
  length : ending.status = .completed ∧ (figures.length : Int) = settings.rounds ∨
    ∃ round, ending.status = .extinct round ∧ (figures.length : Int) = round - 1

theorem Ran.reported (ran : request.Ran access spareSeed settings board ending) :
    Reported settings ending
      (((events settings board spareSeed).filterMap Event.metrics?).map
        RoundMetrics.figures) := by
  have valid := load_valid ran.loaded
  have interval : 1 ≤ settings.printInterval := valid (.count .printInterval)
  have planned : 0 ≤ settings.rounds := valid (.count .rounds)
  have ended : (startWorld settings board spareSeed).play.ending.isOk = true := by
    rw [ran.ended]
    rfl
  have running : (startWorld settings board spareSeed).status = .running := rfl
  have numbered : (startWorld settings board spareSeed).round = 0 := rfl
  have settingsEq : (startWorld settings board spareSeed).settings = settings := rfl
  rw [← settingsEq] at interval
  have ends := World.play_ends running interval ended
  rw [settingsEq, numbered, ran.ended] at ends
  rcases ends with ⟨metrics, measures, ends⟩
  have rounds := (measures.outlived running).rounds_eq
  have told : (events settings board spareSeed).filterMap Event.metrics? = metrics := by
    rcases ends with extinct | completed
    · exact extinct.metrics_told measures
    · exact completed.metrics_told measures
  rw [told]
  constructor
  case rounds =>
    rw [List.map_map, List.length_map]
    refine rounds.trans (List.map_congr_left fun index _ => ?_)
    rw [numbered, Int.zero_add]
  case length =>
    rw [List.length_map]
    rcases ends with extinct | completed
    · have status := extinct.ending_eq
      rw [numbered, Int.zero_add] at status
      cases status
      exact .inr ⟨_, rfl, (Int.add_sub_cancel _ _).symm⟩
    · have all := completed.all
      have status := completed.ending_eq
      cases status
      refine .inl ⟨rfl, ?_⟩
      omega

/-- Whether snapshots are printed and whether a table is written changes nothing about
how a session ends. Snapshots add nothing but the lines that begin with a star, and the
table has a row for every printed line of a round, in the same order and with the same
figures. All this is so whatever the files hold and whatever is read from documents. -/
theorem sinks_agree (request : SessionRequest) (access : FileAccess) (spareSeed : Int)
    {ending : Ending} (returned : (request.run access spareSeed).ending = .ok ending) :
    let result := request.run access spareSeed
    let loud := { request with snapshots := true }.run access spareSeed
    let quiet := { request with snapshots := false }.run access spareSeed
    (loud.ending = .ok ending ∧ quiet.ending = .ok ending ∧
      loud.written = result.written ∧ quiet.written = result.written ∧
      quiet.printed = Report.unstarred loud.printed) ∧
    (∀ table, table.elim (.ok ()) access.checkWritable = .ok () →
      ({ request with table }.run access spareSeed).ending = .ok ending ∧
      ({ request with table }.run access spareSeed).printed = result.printed) ∧
    ∃ settings board figures, request.load access = .ok (settings, board) ∧
      Reported settings ending figures ∧
      (Text.lines loud.printed).filterMap Figures.ofLine? = figures ∧
      (Text.lines quiet.printed).filterMap Figures.ofLine? = figures ∧
      ∀ path, request.table = some path →
        ∃ table, result.written = some (path, table) ∧ Report.Tabulates figures table := by
  intro result loud quiet
  rcases exists_ran returned with ⟨settings, board, ran⟩
  have ranLoud := ran.withSnapshots true
  have ranQuiet := ran.withSnapshots false
  have written : result.written = _ := ran.written_eq
  have printed : result.printed = _ := ran.printed_eq
  have loudPrinted : loud.printed = _ := ranLoud.printed_eq
  have quietPrinted : quiet.printed = _ := ranQuiet.printed_eq
  have loudWritten : loud.written = _ := ranLoud.written_eq
  have quietWritten : quiet.written = _ := ranQuiet.written_eq
  refine ⟨⟨ranLoud.ending_eq, ranQuiet.ending_eq, loudWritten.trans written.symm,
    quietWritten.trans written.symm, ?_⟩, fun table writable => ?_,
    settings, board, _, ran.loaded, ran.reported, ?_, ?_, fun path isPath => ?_⟩
  · rw [quietPrinted, loudPrinted, Report.unstarred_consoleText]
  · have ranTable := ran.withTable writable
    exact ⟨ranTable.ending_eq, ranTable.printed_eq.trans printed.symm⟩
  · rw [loudPrinted, Report.figures_printed]
  · rw [quietPrinted, Report.figures_printed]
  · rw [written, isPath, Option.map_some]
    exact ⟨_, rfl, Report.tableText_tabulates _⟩

/-! ## One agent that only turns around -/

def lonerSettings : Settings where
  rounds := 1
  initialPopulation := 1
  initialEnergy := 5
  foodRipeningTime := 3
  printInterval := 1
  initialProgram := [.turnLeft]
  instructionPool := [.turnLeft]
  seed := some 7

def lonerLines : List String := [
  "rounds 1",
  "initial_population 1",
  "initial_energy 5",
  "food_energy 5",
  "food_ripening_time 3",
  "round_cost 1",
  "reproduction_threshold 10",
  "print_interval 1",
  "reproduction_probability 0.2",
  "parent_energy_fraction 0.5",
  "instruction_removal_probability 0.01",
  "instruction_addition_probability 0.01",
  "instruction_change_probability 0.01",
  "initial_program l",
  "instruction_pool l"]

/-- The settings in one file and a meadow in another. -/
def lonerFiles : FileAccess where
  read path :=
    if path.parts = ["settings"] then
      .ok (String.join (lonerLines.map (· ++ "\n"))).toUTF8
    else if path.parts = ["board"] then .ok (String.join (["x "].map (· ++ "\n"))).toUTF8
    else .error (.missing path)
  checkWritable _ := .ok ()
  reader := Document.reader

def loner : SessionRequest where
  settings := some ⟨"", ["settings"]⟩
  board := some ⟨"", ["board"]⟩
  seed := .fixed 7
  table := some ⟨"", ["table"]⟩
  snapshots := true

theorem loner_load : loner.load lonerFiles = .ok (lonerSettings, .meadow) := by
  have lines : Text.lines (String.join (lonerLines.map (· ++ "\n"))) = lonerLines :=
    Text.lines_join (.inl rfl) (by decide +kernel)
  have boardLines : Text.lines (String.join (["x "].map (· ++ "\n"))) = ["x "] :=
    Text.lines_join (.inl rfl) (by decide +kernel)
  have accepted : Settings.ofLines Parameter.all lonerLines (some 7) = .ok lonerSettings := by
    decide +kernel
  have listed : Path.isDocument ⟨"", ["settings"]⟩ = false := by decide +kernel
  have drawn : Board.ofLines 5 3 ["x "] = .ok .meadow := rfl
  rw [← lines] at accepted
  rw [← boardLines] at drawn
  exact load_eq_ok rfl rfl (loadSettings_eq_ok rfl listed accepted) (loadBoard_eq_ok rfl drawn)

/-- Whatever is drawn, the agent lives through its round. -/
theorem loner_step {σ : Type} [RandomSource σ] (random : σ) :
    ∃ metrics, ((World.create lonerSettings .meadow random).step 1).2 =
      .ok (some metrics) := by
  have one : ∃ summary, Summary.ofList [1] = .ok summary := exists_of_isOk (by decide +kernel)
  have three : ∃ summary, Summary.ofList [3] = .ok summary := exists_of_isOk (by decide +kernel)
  rcases one with ⟨one, oneEq⟩
  rcases three with ⟨three, threeEq⟩
  have measured (board : Board) (agents : List Agent) (births deaths : Nat) (fault : Fault)
      (lengths : agents.map (fun agent => (agent.program.length : Int)) = [1])
      (energies : agents.map (fun agent => agent.energy) = [3])
      (ages : agents.map (fun agent => agent.age) = [1]) :
      RoundMetrics.measure 1 board agents births deaths ≠ .error fault := by
    rw [RoundMetrics.measure, lengths, energies, ages, oneEq, threeEq]
    nofun
  have running : (World.create lonerSettings .meadow random).status = .running := rfl
  have settingsEq : ((World.create lonerSettings .meadow random).beginRound 1).settings =
      lonerSettings := rfl
  have alone : ((World.create lonerSettings .meadow random).beginRound 1).agents =
      [(Agent.spawn lonerSettings 0 .meadow random).1] := rfl
  have unable (board : Board) (random later : σ) :
      ((Agent.spawn lonerSettings 0 .meadow random).1.liveRound lonerSettings.traits board
        later).agent.canReproduce lonerSettings.traits = false :=
    Bool.and_eq_false_iff.mpr (.inr rfl)
  rw [World.step, if_pos running]
  simp only [World.act, alone, settingsEq, Surroundings.turns,
    Surroundings.turn_of_unable (unable _ _ _)]
  rw [World.conclude, if_neg (by exact Bool.false_ne_true)]
  split
  · rename_i fault failed
    exact absurd failed (measured _ _ _ _ _ rfl rfl rfl)
  · exact ⟨_, rfl⟩

theorem loner_ended {σ : Type} [RandomSource σ] (random : σ) :
    ∃ ending, (World.create lonerSettings .meadow random).play.ending = .ok ending := by
  rcases loner_step random with ⟨metrics, returned⟩
  have running : (World.create lonerSettings .meadow random).status = .running := rfl
  have interval : ((World.create lonerSettings .meadow random).step 1).1.settings.printInterval ≠
      0 := by
    rw [World.step_settings]
    exact Int.one_ne_zero
  have plays := World.Plays.next returned (World.snapshotDue_eq interval 1)
    (.completed (World.snapshotDue_eq interval _))
  rw [plays.play_eq running]
  exact ⟨_, rfl⟩

theorem loner_sinks :
    ∃ ending figures table, (loner.run lonerFiles 0).ending = .ok ending ∧
      Reported lonerSettings ending figures ∧
      (loner.run lonerFiles 0).written = some (⟨"", ["table"]⟩, table) ∧
      Report.Tabulates figures table := by
  rcases loner_ended (Twister.ofSeed 7) with ⟨ending, ended⟩
  have ran : loner.Ran lonerFiles 0 lonerSettings .meadow ending :=
    ⟨loner_load, rfl, nofun, ended⟩
  rcases sinks_agree loner lonerFiles 0 ran.ending_eq with
    ⟨_, _, settings, board, figures, loaded, reported, _, _, tables⟩
  rw [loner_load] at loaded
  cases loaded
  rcases tables _ rfl with ⟨table, written, tabulates⟩
  exact ⟨ending, figures, table, ran.ending_eq, reported, written, tabulates⟩

end SessionRequest

end Foragers
