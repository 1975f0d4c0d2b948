import Foragers.World.Play

namespace Foragers.Report

/-! Log records for those who want to know what the program is about. -/

inductive LogLevel where
  | debug
  | info
  | warning
  | error
  deriving DecidableEq, Repr

namespace LogLevel

def all : List LogLevel := [.debug, .info, .warning, .error]

def label : LogLevel → String
  | debug => "DEBUG"
  | info => "INFO"
  | warning => "WARNING"
  | error => "ERROR"

def severity : LogLevel → Nat
  | debug => 10
  | info => 20
  | warning => 30
  | error => 40

def ofLabel? (text : String) : Option LogLevel :=
  all.find? fun level => level.label == text

end LogLevel

structure LogRecord where
  level : LogLevel
  logger : String
  message : String
  deriving DecidableEq, Repr

namespace LogRecord

def text (record : LogRecord) : String :=
  s!"{record.level.label} {record.logger}: {record.message}"

/-- The records that are at least as severe as a level, one on a line. -/
def textFrom (level : LogLevel) (records : List LogRecord) : String :=
  String.join <| (records.filter fun record => level.severity ≤ record.level.severity).map
    fun record => record.text ++ "\n"

end LogRecord

def programLogger : String := "robsim.app.headless"

def worldLogger : String := "robsim.sim.core.world"

def loadedRecord (board : Board) : LogRecord where
  level := .info
  logger := programLogger
  message := s!"Loaded {board.width}x{board.height} board with {board.ripeCount} ripe cells"

def startRecord {σ : Type} (world : World σ) : LogRecord where
  level := .info
  logger := worldLogger
  message :=
    let seed := world.settings.seed.elim "None" toString
    s!"Starting simulation: rounds={world.settings.rounds} " ++
      s!"population={world.agents.length} seed={seed}"

def eventRecord? : Event → Option LogRecord
  | .round metrics => some {
      level := .debug
      logger := worldLogger
      message := s!"Round {metrics.round}: population={metrics.population} " ++
        s!"births={metrics.births} deaths={metrics.deaths} ripe_food={metrics.ripeFood}" }
  | .snapshot _ => none
  | .extinction round => some {
      level := .info
      logger := worldLogger
      message := s!"Population extinct in round {round}" }

def completionRecord? {σ : Type} (playback : Playback σ) : Option LogRecord :=
  let world := playback.world
  if world.status = .completed then
    some {
      level := .info
      logger := worldLogger
      message := s!"Simulation completed after {world.settings.rounds} rounds, " ++
        s!"population={world.agents.length}" }
  else none

def playRecords {σ : Type} (world : World σ) (playback : Playback σ) : List LogRecord :=
  startRecord world :: playback.events.toList.filterMap eventRecord? ++
    (completionRecord? playback).toList

end Foragers.Report
