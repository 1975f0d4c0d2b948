import Foragers.World.Play

namespace Foragers.Report

/-! The table of all rounds, as comma-separated values. No field needs quotes,
since all of them are numbers. -/

def summaryColumns (label : String) : List String :=
  [label ++ "_min", label ++ "_mean", label ++ "_max"]

def tableHeader : List String :=
  ["round", "ripe_food", "population", "births", "deaths"] ++
    summaryColumns "program" ++ summaryColumns "energy" ++ summaryColumns "age"

def summaryFields (summary : Summary) : List String :=
  [toString summary.minimum, summary.mean.fixed 4, toString summary.maximum]

def roundFields (metrics : RoundMetrics) : List String :=
  [toString metrics.round, toString metrics.ripeFood, toString metrics.population,
    toString metrics.births, toString metrics.deaths] ++
    summaryFields metrics.programLength ++ summaryFields metrics.energy ++
    summaryFields metrics.age

def tableRow (fields : List String) : String :=
  ",".intercalate fields ++ "\x0d\n"

/-- The row that an event adds to the table. Only rounds add one. -/
def tableRow? : Event → Option String
  | .round metrics => some (tableRow (roundFields metrics))
  | _ => none

def tableText (events : List Event) : String :=
  String.join (tableRow tableHeader :: events.filterMap tableRow?)

end Foragers.Report
