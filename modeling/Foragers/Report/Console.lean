import Foragers.World.Play

namespace Foragers.Report

/-! What is printed while a world is played: one line for a round, a block of
starred lines for a snapshot, one line for the extinction. -/

def summaryText (label : String) (summary : Summary) : String :=
  s!"{label}: {summary.minimum}/{summary.mean.fixed 2}/{summary.maximum}"

def roundLine (metrics : RoundMetrics) : String :=
  ", ".intercalate [
    toString metrics.round,
    s!"food: {metrics.ripeFood}",
    s!"agents: {metrics.population}",
    summaryText "prog" metrics.programLength,
    summaryText "energy" metrics.energy,
    summaryText "age" metrics.age]

def agentText (agent : AgentRecord) : String :=
  s!"Agent {agent.id}: age: {agent.age}, energy: {agent.energy}, " ++
    s!"position ({agent.position.x}, {agent.position.y}), " ++
    s!"direction: {agent.heading.label}, program: {Program.text agent.program}"

def snapshotLines (snapshot : Snapshot) : List String :=
  "* Simulation state." :: snapshot.agents.map fun agent => "* " ++ agentText agent

def extinctionLine (round : Int) : String :=
  s!"Round {round}. No living agents. Simulation finished."

/-- The lines printed for an event. Snapshots may be left out. -/
def consoleLines (snapshots : Bool) : Event → List String
  | .round metrics => [roundLine metrics]
  | .snapshot snapshot => if snapshots then snapshotLines snapshot else []
  | .extinction round => [extinctionLine round]

def consoleText (snapshots : Bool) (events : List Event) : String :=
  String.join ((events.flatMap (consoleLines snapshots)).map (· ++ "\n"))

end Foragers.Report
