import Foragers.Proofs.Playback

/-! # The trace of a run

A run tells of its rounds in order, each with its measurements and, when the
interval divides its number, a snapshot. It stops with one event when nobody is
left; otherwise the last round is always among the snapshots.
-/

namespace Foragers

/-- The snapshot that an event tells, if it does. -/
def Event.snapshot? : Event → Option Snapshot
  | .snapshot taken => some taken
  | _ => none

/-- The measurements that an event tells, if it does. -/
def Event.metrics? : Event → Option RoundMetrics
  | .round metrics => some metrics
  | _ => none

@[simp] theorem Event.filterMap_metrics?_snapshot (due : Prop) [Decidable due]
    (taken : Snapshot) :
    (if due then [Event.snapshot taken] else []).filterMap Event.metrics? = [] := by
  split <;> rfl

/-- A snapshot shows the agents that its measurements are about. -/
def Snapshot.Faithful (taken : Snapshot) : Prop :=
  ∃ metrics, taken.metrics = some metrics ∧ metrics.round = taken.round ∧
    metrics.population = taken.agents.length

variable {σ : Type}

namespace World

/-- The numbers of the rounds that follow a world's own. -/
def nextRounds (world : World σ) (count : Nat) : List Int :=
  (List.range count).map fun (index : Nat) => world.round + index + 1

theorem nextRounds_eq_append {world : World σ} (later : world.round < world.settings.rounds) :
    ∃ count, (world.settings.rounds - world.round).toNat = count + 1 ∧
      world.nextRounds (count + 1) = world.nextRounds count ++ [world.settings.rounds] ∧
      ∀ round ∈ world.nextRounds count, round ≠ world.settings.rounds := by
  refine ⟨(world.settings.rounds - world.round).toNat - 1, by omega, ?_, ?_⟩
  · rw [nextRounds, nextRounds, List.range_succ, List.map_append, List.map_singleton]
    congr 2
    omega
  · intro round member
    rcases List.mem_map.mp member with ⟨index, within, roundEq⟩
    rw [List.mem_range] at within
    omega

theorem Survived.faithful {round : Int} {world later : World σ} {metrics : RoundMetrics}
    (survived : Survived round world metrics later) : (later.snapshot round).Faithful := by
  refine ⟨metrics, survived.metrics_eq, survived.round_metrics, ?_⟩
  rw [survived.population]
  exact (List.length_map _).symm

variable [RandomSource σ]

/-- The world after some of the rounds that follow its own, whatever these come to. -/
def afterRounds : Nat → World σ → World σ
  | 0, world => world
  | count + 1, world => afterRounds count (world.step (world.round + 1)).1

/-- None of the next rounds fails, as long as there is a next one to play. -/
def Undisturbed (count : Nat) (world : World σ) : Prop :=
  ∀ index < count, (world.afterRounds index).status = .running →
    ((world.afterRounds index).step (world.round + index + 1)).2.isOk = true

/-- The next rounds are survived and give these measurements, one after the other. -/
def Measures : List RoundMetrics → World σ → Prop
  | [], _ => True
  | metrics :: rest, world =>
      (world.step (world.round + 1)).2 = .ok (some metrics) ∧
        Measures rest (world.step (world.round + 1)).1

/-- What is told of a later round with given measurements, the next one being that
of index zero. -/
def report (world : World σ) (index : Nat) (metrics : RoundMetrics) : List Event :=
  let round := world.round + index + 1
  .round metrics ::
    if world.settings.printInterval ∣ round then
      [.snapshot ((world.afterRounds (index + 1)).snapshot round)]
    else []

/-- What is told of the next rounds, given their measurements. -/
def reports (world : World σ) (metrics : List RoundMetrics) : List Event :=
  (metrics.mapIdx world.report).flatten

theorem Undisturbed.step {count : Nat} {world : World σ}
    (undisturbed : world.Undisturbed (count + 1))
    (numbered : (world.step (world.round + 1)).1.round = world.round + 1) :
    (world.step (world.round + 1)).1.Undisturbed count := by
  intro index below running
  have returned := undisturbed (index + 1) (Nat.succ_lt_succ below) running
  rw [numbered]
  rwa [Int.natCast_succ, ← Int.add_assoc, Int.add_right_comm world.round] at returned

theorem nextRounds_succ {count : Nat} {world : World σ}
    (numbered : (world.step (world.round + 1)).1.round = world.round + 1) :
    world.nextRounds (count + 1) =
      (world.round + 1) :: (world.step (world.round + 1)).1.nextRounds count := by
  rw [nextRounds, nextRounds, List.range_succ_eq_map, List.map_cons, List.map_map,
    numbered]
  congr 1
  · simp
  · apply List.map_congr_left
    intro index _
    simp only [Function.comp, Int.natCast_succ]
    omega

theorem reports_cons {metrics : RoundMetrics} {rest : List RoundMetrics} {world : World σ}
    (numbered : (world.step (world.round + 1)).1.round = world.round + 1) :
    world.reports (metrics :: rest) =
      world.report 0 metrics ++ (world.step (world.round + 1)).1.reports rest := by
  rw [reports, reports, List.mapIdx_cons, List.flatten_cons]
  congr 3
  funext index other
  have round : world.round + (index + 1 : Nat) + 1 = world.round + 1 + index + 1 := by
    rw [Int.natCast_succ]
    omega
  simp only [report, numbered, round, step_settings]
  rfl

/-! ## Rounds that are survived -/

theorem afterRounds_succ (count : Nat) (world : World σ) :
    world.afterRounds (count + 1) =
      ((world.afterRounds count).step ((world.afterRounds count).round + 1)).1 := by
  induction count generalizing world with
  | zero => rfl
  | succ count induction => exact induction _

/-- Each of the rounds that are survived gives its own measurements. -/
theorem Measures.returned {metrics : List RoundMetrics} {world : World σ}
    (measures : Measures metrics world) {index : Nat} (within : index < metrics.length) :
    (world.afterRounds index).round = world.round + index ∧
      ((world.afterRounds index).step (world.round + index + 1)).2 =
        .ok (some metrics[index]) := by
  induction metrics generalizing world index with
  | nil => cases within
  | cons first rest induction =>
      cases index with
      | zero =>
          rw [Int.natCast_zero, Int.add_zero]
          exact ⟨rfl, measures.1⟩
      | succ index =>
          have later := induction measures.2 (Nat.lt_of_succ_lt_succ within)
          rw [(step_survived measures.1).round_eq] at later
          rw [Int.natCast_succ, ← Int.add_assoc, Int.add_right_comm world.round]
          exact later

theorem Measures.afterRounds_eq {metrics : List RoundMetrics} {world : World σ}
    (measures : Measures metrics world) {index : Nat} (within : index < metrics.length) :
    world.afterRounds (index + 1) =
      ((world.afterRounds index).step (world.round + index + 1)).1 := by
  rw [afterRounds_succ, (measures.returned within).1]

/-- Where surviving some rounds leads. -/
structure Outlived (metrics : List RoundMetrics) (world later : World σ) : Prop where
  status_eq : later.status = .running
  round_eq : later.round = world.round + metrics.length
  settings_eq : later.settings = world.settings
  history_eq : later.history.toList = world.history.toList ++ metrics
  rounds_eq : metrics.map RoundMetrics.round = world.nextRounds metrics.length
  faithful : metrics ≠ [] → (later.snapshot later.round).Faithful

theorem Measures.outlived {metrics : List RoundMetrics} {world : World σ}
    (measures : Measures metrics world) (running : world.status = .running) :
    Outlived metrics world (world.afterRounds metrics.length) := by
  induction metrics generalizing world with
  | nil =>
      refine ⟨running, ?_, rfl, ?_, rfl, fun nonempty => absurd rfl nonempty⟩
      · exact (Int.add_zero _).symm
      · exact (List.append_nil _).symm
  | cons first rest induction =>
      have survived := step_survived measures.1
      have others := induction measures.2 survived.status_eq
      constructor
      case status_eq => exact others.status_eq
      case round_eq =>
        have roundEq := others.round_eq
        rw [survived.round_eq] at roundEq
        rw [List.length_cons, afterRounds, roundEq, Int.natCast_succ]
        omega
      case settings_eq => exact others.settings_eq.trans (world.step_settings _)
      case history_eq =>
        have historyEq := others.history_eq
        rw [survived.history_eq, Array.toList_push, List.append_assoc] at historyEq
        exact historyEq
      case rounds_eq =>
        rw [List.map_cons, List.length_cons, nextRounds_succ survived.round_eq,
          others.rounds_eq, survived.round_metrics]
      case faithful =>
        intro _
        cases rest with
        | nil =>
            change ((world.step _).1.snapshot (world.step _).1.round).Faithful
            rw [survived.round_eq]
            exact survived.faithful
        | cons second later => exact others.faithful (List.cons_ne_nil _ _)

theorem report_zero (world : World σ) (metrics : RoundMetrics) :
    world.report 0 metrics = .round metrics ::
      if world.settings.printInterval ∣ world.round + 1 then
        [.snapshot ((world.step (world.round + 1)).1.snapshot (world.round + 1))]
      else [] := by
  simp only [report, afterRounds, Int.natCast_zero, Int.add_zero]

theorem Measures.faithful_of_mem {metrics : List RoundMetrics} {world : World σ}
    (measures : Measures metrics world) {taken : Snapshot}
    (told : .snapshot taken ∈ world.reports metrics) : taken.Faithful := by
  induction metrics generalizing world with
  | nil => cases told
  | cons first rest induction =>
      have survived := step_survived measures.1
      rw [reports_cons survived.round_eq, report_zero] at told
      rcases List.mem_append.mp told with now | later
      · have snapshot := (List.mem_cons.mp now).resolve_left (by simp)
        split at snapshot
        · cases List.mem_singleton.mp snapshot
          exact survived.faithful
        · cases snapshot
      · exact induction measures.2 later

/-- Among the next rounds there are snapshots of those that the interval divides. -/
theorem Measures.snapshot_rounds {metrics : List RoundMetrics} {world : World σ}
    (measures : Measures metrics world) :
    ((world.reports metrics).filterMap Event.snapshot?).map Snapshot.round =
      (world.nextRounds metrics.length).filter (world.settings.printInterval ∣ ·) := by
  induction metrics generalizing world with
  | nil => rfl
  | cons first rest induction =>
      have survived := step_survived measures.1
      have others := induction measures.2
      rw [step_settings] at others
      rw [reports_cons survived.round_eq, report_zero, List.length_cons,
        nextRounds_succ survived.round_eq, List.filter_cons, List.filterMap_append,
        List.map_append, others]
      by_cases divides : world.settings.printInterval ∣ world.round + 1
      · simp [divides, List.filterMap_cons, Event.snapshot?, World.snapshot]
      · simp [divides, List.filterMap_cons, Event.snapshot?]

/-! ## Whole runs -/

/-- A run ends in the round after some that were survived, as nobody survives it. -/
structure EndsExtinct (count : Nat) (world : World σ) (metrics : List RoundMetrics)
    (told : List Event) (last : World σ) (ending : Except Fault Ending) : Prop where
  early : metrics.length < count
  nobody : ((world.afterRounds metrics.length).step
    (world.round + metrics.length + 1)).2 = .ok none
  last_eq : last = ((world.afterRounds metrics.length).step
    (world.round + metrics.length + 1)).1
  told_eq : told = world.reports metrics ++
    [.extinction (world.round + metrics.length + 1)]
  ending_eq : ending = .ok {
    status := .extinct (world.round + metrics.length + 1)
    roundsCompleted := world.round + metrics.length + 1
    metrics := none }

/-- A run ends after its last round, with a snapshot unless the last round told one. -/
structure EndsCompleted (count : Nat) (world : World σ) (metrics : List RoundMetrics)
    (told : List Event) (last : World σ) (ending : Except Fault Ending) : Prop where
  all : metrics.length = count
  last_eq : last = (world.afterRounds count).completed
  told_eq : told = world.reports metrics ++
    if world.settings.printInterval ∣ world.settings.rounds then []
    else [.snapshot ((world.afterRounds count).snapshot world.settings.rounds)]
  ending_eq : ending = .ok {
    status := .completed
    roundsCompleted := world.round + count
    metrics := (world.afterRounds count).metrics }

section

variable {count : Nat} {world : World σ} {metrics : RoundMetrics}
  {rest : List RoundMetrics} {told : List Event} {last : World σ}
  {ending : Except Fault Ending}

theorem EndsExtinct.cons
    (ends : EndsExtinct count (world.step (world.round + 1)).1 rest told last ending)
    (numbered : (world.step (world.round + 1)).1.round = world.round + 1) :
    EndsExtinct (count + 1) world (metrics :: rest) (world.report 0 metrics ++ told) last
      ending := by
  rcases ends with ⟨early, nobody, lastEq, toldEq, endingEq⟩
  have number : world.round + 1 + rest.length + 1 =
      world.round + (metrics :: rest).length + 1 := by
    rw [List.length_cons, Int.natCast_succ]
    omega
  rw [numbered, number] at nobody lastEq toldEq endingEq
  refine ⟨Nat.succ_lt_succ early, nobody, lastEq, ?_, endingEq⟩
  rw [reports_cons numbered, toldEq, List.append_assoc]

theorem EndsCompleted.cons
    (ends : EndsCompleted count (world.step (world.round + 1)).1 rest told last ending)
    (numbered : (world.step (world.round + 1)).1.round = world.round + 1) :
    EndsCompleted (count + 1) world (metrics :: rest) (world.report 0 metrics ++ told) last
      ending := by
  rcases ends with ⟨all, lastEq, toldEq, endingEq⟩
  rw [step_settings] at toldEq
  refine ⟨congrArg Nat.succ all, lastEq, ?_, ?_⟩
  · rw [reports_cons numbered, toldEq, List.append_assoc]
    rfl
  · rw [endingEq, numbered, Int.natCast_succ, Int.add_assoc, Int.add_comm 1]
    rfl

end

/-- The events of a run and what it leaves, by the rounds that are survived. -/
theorem Plays.ends {count : Nat} {round : Int} {world last : World σ} {told : List Event}
    {ending : Except Fault Ending} (plays : Plays count round world told last ending)
    (next : round = world.round + 1) (running : world.status = .running)
    (interval : world.settings.printInterval ≠ 0) (undisturbed : world.Undisturbed count) :
    ∃ metrics, Measures metrics world ∧
      (EndsExtinct count world metrics told last ending ∨
        EndsCompleted count world metrics told last ending) := by
  induction plays with
  | undecidedEnd undecided => exact absurd (snapshotDue_eq_error undecided) interval
  | @completed round world due decided =>
      rw [snapshotDue_eq interval] at decided
      cases decided
      refine ⟨[], trivial, .inr ⟨rfl, rfl, ?_, ?_⟩⟩
      · simp [reports, afterRounds]
      · simp only [Int.natCast_zero, Int.add_zero]
        rfl
  | @failed count round world fault raised =>
      have returned := undisturbed 0 (Nat.succ_pos _) running
      simp only [afterRounds, Int.natCast_zero, Int.add_zero, ← next, raised] at returned
      cases returned
  | @extinct count round world nobody =>
      subst next
      have died := step_diedOut nobody
      refine ⟨[], trivial, .inl ⟨Nat.succ_pos _, ?_, ?_, ?_, ?_⟩⟩
      · simpa [afterRounds] using nobody
      · simp [afterRounds]
      · simp [reports]
      · rw [World.ending, died.status_eq, died.round_eq, died.metrics_eq]
        simp
  | undecided returned undecided =>
      rw [← step_settings] at interval
      exact absurd (snapshotDue_eq_error undecided) interval
  | @next count round world metrics due told last ending returned decided rest induction =>
      subst next
      have survived := step_survived returned
      rw [← step_settings world (world.round + 1)] at interval
      rw [snapshotDue_eq interval] at decided
      cases decided
      rcases induction (by rw [survived.round_eq]) survived.status_eq interval
          (undisturbed.step survived.round_eq) with ⟨measured, measures, ends⟩
      refine ⟨metrics :: measured, ⟨returned, measures⟩, ?_⟩
      rw [← List.cons_append, step_settings]
      simp only [decide_eq_true_eq, ← report_zero]
      exact ends.imp (.cons · survived.round_eq) (.cons · survived.round_eq)

theorem Measures.metrics_told {metrics : List RoundMetrics} {world : World σ}
    (measures : Measures metrics world) :
    (world.reports metrics).filterMap Event.metrics? = metrics := by
  induction metrics generalizing world with
  | nil => rfl
  | cons first rest induction =>
      rw [reports_cons (step_survived measures.1).round_eq, report_zero,
        List.filterMap_append, induction measures.2]
      split <;> simp [List.filterMap_cons, Event.metrics?]

section

variable {count : Nat} {world last : World σ} {metrics : List RoundMetrics}
  {told : List Event} {ending : Except Fault Ending}

theorem EndsExtinct.metrics_told
    (ends : EndsExtinct count world metrics told last ending)
    (measures : Measures metrics world) : told.filterMap Event.metrics? = metrics := by
  rw [ends.told_eq, List.filterMap_append, measures.metrics_told]
  simp [List.filterMap_cons, Event.metrics?]

theorem EndsCompleted.metrics_told
    (ends : EndsCompleted count world metrics told last ending)
    (measures : Measures metrics world) : told.filterMap Event.metrics? = metrics := by
  rw [ends.told_eq, List.filterMap_append, measures.metrics_told]
  split <;> simp [List.filterMap_cons, Event.metrics?]

theorem EndsExtinct.history_eq (ends : EndsExtinct count world metrics told last ending)
    (measures : Measures metrics world) (running : world.status = .running) :
    last.history.toList = world.history.toList ++ metrics := by
  rw [ends.last_eq, (step_diedOut ends.nobody).history_eq]
  exact (measures.outlived running).history_eq

theorem EndsCompleted.history_eq (ends : EndsCompleted count world metrics told last ending)
    (measures : Measures metrics world) (running : world.status = .running) :
    last.history.toList = world.history.toList ++ metrics := by
  rw [ends.last_eq, ← ends.all]
  exact (measures.outlived running).history_eq

theorem EndsExtinct.faithful_of_mem
    (ends : EndsExtinct count world metrics told last ending)
    (measures : Measures metrics world) {taken : Snapshot}
    (member : .snapshot taken ∈ told) : taken.Faithful := by
  rw [ends.told_eq] at member
  rcases List.mem_append.mp member with reported | final
  · exact measures.faithful_of_mem reported
  · cases List.mem_singleton.mp final

end

section

variable {world last : World σ} {metrics : List RoundMetrics} {told : List Event}
  {ending : Except Fault Ending}

theorem EndsCompleted.faithful_of_mem
    (ends : EndsCompleted (world.settings.rounds - world.round).toNat world metrics told
      last ending)
    (measures : Measures metrics world) (running : world.status = .running)
    (later : world.round < world.settings.rounds) {taken : Snapshot}
    (member : .snapshot taken ∈ told) : taken.Faithful := by
  rw [ends.told_eq, ← ends.all] at member
  rcases List.mem_append.mp member with reported | final
  · exact measures.faithful_of_mem reported
  -- The last snapshot is of the world after its last round, as there was one.
  · split at final
    · cases final
    · cases List.mem_singleton.mp final
      have outlived := measures.outlived running
      have all := ends.all
      have nonempty : metrics ≠ [] := by
        intro none
        rw [none, List.length_nil] at all
        omega
      have number : (world.afterRounds metrics.length).round = world.settings.rounds := by
        rw [outlived.round_eq]
        omega
      rw [← number]
      exact outlived.faithful nonempty

/-- A completed run shows every round that the interval divides and the last one, once. -/
theorem EndsCompleted.snapshot_rounds
    (ends : EndsCompleted (world.settings.rounds - world.round).toNat world metrics told
      last ending)
    (measures : Measures metrics world) (later : world.round < world.settings.rounds) :
    (told.filterMap Event.snapshot?).map Snapshot.round =
      (world.nextRounds metrics.length).filter fun round =>
        world.settings.printInterval ∣ round ∨ round = world.settings.rounds := by
  rcases nextRounds_eq_append later with ⟨count, countEq, split, others⟩
  have front : ((world.nextRounds count).filter fun round =>
      world.settings.printInterval ∣ round ∨ round = world.settings.rounds) =
      (world.nextRounds count).filter (world.settings.printInterval ∣ ·) := by
    apply List.filter_congr
    intro round member
    simp [others round member]
  rw [ends.told_eq, List.filterMap_append, List.map_append, measures.snapshot_rounds,
    ends.all, countEq, split, List.filter_append, List.filter_append, front,
    List.append_assoc]
  congr 1
  by_cases divides : world.settings.printInterval ∣ world.settings.rounds
  · simp [divides]
  · simp [divides, Event.snapshot?, World.snapshot]

end

/-- What a run in which no step fails tells and leaves. Its rounds are told in order, as
long as somebody survives them, and the measurements told are those that the history
gains. It ends with nobody left, or with a snapshot of the last round; then every
round that the interval divides and the last one were shown, once each. -/
theorem play_trace {world : World σ} (running : world.status = .running)
    (interval : 1 ≤ world.settings.printInterval)
    (undisturbed : world.Undisturbed (world.settings.rounds - world.round).toNat) :
    let count := (world.settings.rounds - world.round).toNat
    let told := world.play.events.toList
    ∃ metrics, Measures metrics world ∧
      metrics.map RoundMetrics.round = world.nextRounds metrics.length ∧
      told.filterMap Event.metrics? = metrics ∧
      world.play.world.history.toList = world.history.toList ++ metrics ∧
      (EndsExtinct count world metrics told world.play.world world.play.ending ∨
        EndsCompleted count world metrics told world.play.world world.play.ending ∧
        (world.round < world.settings.rounds →
          (told.filterMap Event.snapshot?).map Snapshot.round =
            (world.nextRounds metrics.length).filter fun round =>
              world.settings.printInterval ∣ round ∨ round = world.settings.rounds)) ∧
      (world.round < world.settings.rounds →
        ∀ taken, .snapshot taken ∈ told → taken.Faithful) := by
  intro count told
  rcases (play_plays running).ends rfl running (by omega) undisturbed with
    ⟨metrics, measures, extinct | completed⟩
  · exact ⟨metrics, measures, (measures.outlived running).rounds_eq,
      extinct.metrics_told measures, extinct.history_eq measures running, .inl extinct,
      fun _ _ => extinct.faithful_of_mem measures⟩
  · exact ⟨metrics, measures, (measures.outlived running).rounds_eq,
      completed.metrics_told measures, completed.history_eq measures running,
      .inr ⟨completed, completed.snapshot_rounds measures⟩,
      fun later _ => completed.faithful_of_mem measures running later⟩

/-- Two agents who live through three rounds, the second of which is shown. -/
def visitors : World Zeros :=
  .create { initialPopulation := 2, rounds := 3, printInterval := 2 } .meadow Zeros.mk

theorem visitors_trace :
    visitors.status = .running ∧ 1 ≤ visitors.settings.printInterval ∧
      visitors.Undisturbed 3 ∧ visitors.play.ending.isOk = true ∧
      ∃ metrics, visitors.play.events.toList.filterMap Event.metrics? = metrics ∧
        metrics.map RoundMetrics.round = visitors.nextRounds metrics.length := by
  have running : visitors.status = .running := by decide +kernel
  have interval : 1 ≤ visitors.settings.printInterval := by decide +kernel
  have undisturbed : visitors.Undisturbed 3 := by
    unfold Undisturbed
    decide +kernel
  have ended : visitors.play.ending.isOk = true := by decide +kernel
  rcases play_trace running interval undisturbed with ⟨metrics, _, numbers, told, _⟩
  exact ⟨running, interval, undisturbed, ended, metrics, told, numbers⟩

end World

end Foragers
