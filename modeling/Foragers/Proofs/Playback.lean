import Foragers.Proofs.Round
import Foragers.World.Play

/-! # Playing to the end

A world is played by stepping through the rounds that are left. What is told on
the way are the measurements of every round, a snapshot of every round that the
interval divides and one event for the end.
-/

namespace Foragers

/-- What was measured of a population on its board. -/
structure RoundMetrics.Measured (round : Int) (board : Board) (agents : List Agent)
    (births deaths : Nat) (metrics : RoundMetrics) : Prop where
  round_eq : metrics.round = round
  ripeFood_eq : metrics.ripeFood = board.ripeCount
  population_eq : metrics.population = agents.length
  births_eq : metrics.births = births
  deaths_eq : metrics.deaths = deaths
  programLength_eq :
    Summary.ofList (agents.map fun agent => agent.program.length) = .ok metrics.programLength
  energy_eq : Summary.ofList (agents.map fun agent => agent.energy) = .ok metrics.energy
  age_eq : Summary.ofList (agents.map fun agent => agent.age) = .ok metrics.age

theorem RoundMetrics.measure_eq_ok {round : Int} {board : Board} {agents : List Agent}
    {births deaths : Nat} {metrics : RoundMetrics}
    (measured : measure round board agents births deaths = .ok metrics) :
    Measured round board agents births deaths metrics := by
  unfold measure at measured
  rcases bind_eq_ok measured with ⟨programLength, programLengthEq, measured⟩
  rcases bind_eq_ok measured with ⟨energy, energyEq, measured⟩
  rcases bind_eq_ok measured with ⟨age, ageEq, measured⟩
  cases measured
  exact ⟨rfl, rfl, rfl, rfl, rfl, programLengthEq, energyEq, ageEq⟩

variable {σ : Type}

namespace World

/-- The world that a completed run leaves. -/
def completed (world : World σ) : World σ :=
  { world with status := .completed }

theorem snapshotDue_eq {world : World σ} (interval : world.settings.printInterval ≠ 0)
    (round : Int) :
    world.snapshotDue round = .ok (decide (world.settings.printInterval ∣ round)) := by
  simp only [snapshotDue, if_neg interval, Int.dvd_iff_emod_eq_zero]

theorem snapshotDue_eq_error {world : World σ} {round : Int} {fault : Fault}
    (failed : world.snapshotDue round = .error fault) :
    world.settings.printInterval = 0 := by
  simp only [snapshotDue] at failed
  split at failed
  · assumption
  · cases failed

variable [RandomSource σ]

/-! ## What a step leaves -/

@[simp] theorem step_settings (world : World σ) (round : Int) :
    (world.step round).1.settings = world.settings := by
  have stepped := world.step_stepped round
  generalize world.step round = result at stepped ⊢
  cases stepped with
  | refused ended => rfl
  | interrupted running fault stopped => rfl
  | concluded running done => exact (world.acted round).conclude_settings round

/-- A step returns measurements of those who are left, when there are any. -/
theorem step_measured {world : World σ} {round : Int} {metrics : RoundMetrics}
    (returned : (world.step round).2 = .ok (some metrics)) :
    (world.acted round).settle.agents ≠ [] ∧
      (world.acted round).measure round = .ok metrics ∧
      (world.step round).1 =
        { (world.acted round).settle with
          metrics := some metrics
          history := (world.acted round).settle.history.push metrics } := by
  rcases step_returned returned with ⟨running, done, stepEq⟩
  have concluded := (world.acted round).conclude_concluded round
  rw [stepEq] at returned ⊢
  generalize (world.acted round).conclude round = result at concluded returned ⊢
  cases concluded with
  | extinct nobody => cases returned
  | unmeasured somebody fault failed => cases returned
  | measured somebody found measured =>
      cases returned
      exact ⟨somebody, measured, rfl⟩

/-- A step that returned measurements ended a round which somebody survived. -/
structure Survived (round : Int) (world : World σ) (metrics : RoundMetrics)
    (later : World σ) : Prop where
  status_eq : later.status = .running
  round_eq : later.round = round
  metrics_eq : later.metrics = some metrics
  history_eq : later.history = world.history.push metrics
  round_metrics : metrics.round = round
  population : metrics.population = later.agents.length

theorem step_survived {world : World σ} {round : Int} {metrics : RoundMetrics}
    (returned : (world.step round).2 = .ok (some metrics)) :
    Survived round world metrics (world.step round).1 := by
  have running := (step_returned returned).1
  rcases step_measured returned with ⟨_, measured, stepEq⟩
  have fields := RoundMetrics.measure_eq_ok measured
  rw [stepEq]
  exact ⟨running, rfl, rfl, rfl, fields.round_eq, fields.population_eq⟩

/-- Those who survive a round are alive, and there are some. -/
theorem step_survivors {world : World σ} {round : Int} {metrics : RoundMetrics}
    (returned : (world.step round).2 = .ok (some metrics)) :
    (world.step round).1.agents ≠ [] ∧
      ∀ agent ∈ (world.step round).1.agents, 0 ≤ agent.energy := by
  rcases step_measured returned with ⟨somebody, _, stepEq⟩
  rw [stepEq]
  refine ⟨somebody, fun agent member => ?_⟩
  exact of_decide_eq_true (List.mem_filter.mp member).2

/-- A step that returned nothing left nobody. -/
structure DiedOut (round : Int) (world later : World σ) : Prop where
  status_eq : later.status = .extinct round
  round_eq : later.round = round
  metrics_eq : later.metrics = none
  history_eq : later.history = world.history
  agents_eq : later.agents = []

theorem step_diedOut {world : World σ} {round : Int}
    (returned : (world.step round).2 = .ok none) :
    DiedOut round world (world.step round).1 := by
  rcases step_returned returned with ⟨running, done, stepEq⟩
  have concluded := (world.acted round).conclude_concluded round
  rw [stepEq] at returned ⊢
  generalize (world.acted round).conclude round = result at concluded returned ⊢
  cases concluded with
  | extinct nobody => exact ⟨rfl, rfl, rfl, rfl, nobody⟩
  | unmeasured somebody fault failed => cases returned
  | measured somebody found measured => cases returned

/-! ## What playing comes to -/

/-- Everything that playing a number of rounds can come to: the events told, the
world left behind and the ending. -/
inductive Plays : Nat → Int → World σ → List Event → World σ → Except Fault Ending → Prop
  | undecidedEnd {round world fault}
      (undecided : world.snapshotDue world.settings.rounds = .error fault) :
      Plays 0 round world [] world (.error fault)
  | completed {round world due}
      (decided : world.snapshotDue world.settings.rounds = .ok due) :
      Plays 0 round world
        (if due then [] else [.snapshot (world.snapshot world.settings.rounds)])
        world.completed (.ok world.completed.ending)
  | failed {count round world fault} (raised : (world.step round).2 = .error fault) :
      Plays (count + 1) round world [] (world.step round).1 (.error fault)
  | extinct {count round world} (nobody : (world.step round).2 = .ok none) :
      Plays (count + 1) round world [.extinction round] (world.step round).1
        (.ok (world.step round).1.ending)
  | undecided {count round world metrics fault}
      (returned : (world.step round).2 = .ok (some metrics))
      (undecided : (world.step round).1.snapshotDue round = .error fault) :
      Plays (count + 1) round world [.round metrics] (world.step round).1 (.error fault)
  | next {count round world metrics due told last ending}
      (returned : (world.step round).2 = .ok (some metrics))
      (decided : (world.step round).1.snapshotDue round = .ok due)
      (rest : Plays count (round + 1) (world.step round).1 told last ending) :
      Plays (count + 1) round world
        (.round metrics ::
          ((if due then [.snapshot ((world.step round).1.snapshot round)] else []) ++ told))
        last ending

/-- The events told earlier only stand in front. -/
theorem playRounds_plays (count : Nat) (round : Int) (world : World σ)
    (earlier : Array Event) :
    ∃ told, (playRounds count round world earlier).events.toList = earlier.toList ++ told ∧
      Plays count round world told (playRounds count round world earlier).world
        (playRounds count round world earlier).ending := by
  induction count generalizing round world earlier with
  | zero =>
      simp only [playRounds, complete]
      cases decided : world.snapshotDue world.settings.rounds with
      | error fault => exact ⟨[], by simp, .undecidedEnd decided⟩
      | ok due =>
          refine ⟨_, ?_, .completed decided⟩
          cases due <;> simp
  | succ count induction =>
      have called : world.step round = ((world.step round).1, (world.step round).2) := rfl
      rw [playRounds, called]
      cases outcome : (world.step round).2 with
      | error fault => exact ⟨[], by simp, .failed outcome⟩
      | ok result =>
          cases result with
          | none => exact ⟨[.extinction round], by simp, .extinct outcome⟩
          | some metrics =>
              cases decided : (world.step round).1.snapshotDue round with
              | error fault =>
                  simp only [decided]
                  exact ⟨[.round metrics], by simp, .undecided outcome decided⟩
              | ok due =>
                  simp only [decided]
                  rcases induction (round + 1) (world.step round).1
                      (if due then (earlier.push (.round metrics)).push
                          (.snapshot ((world.step round).1.snapshot round))
                        else earlier.push (.round metrics)) with ⟨told, events, plays⟩
                  refine ⟨_, ?_, .next outcome decided plays⟩
                  rw [events]
                  cases due <;> simp

theorem play_plays {world : World σ} (running : world.status = .running) :
    Plays (world.settings.rounds - world.round).toNat (world.round + 1) world
      world.play.events.toList world.play.world world.play.ending := by
  rw [play, if_pos running]
  rcases playRounds_plays (world.settings.rounds - world.round).toNat (world.round + 1)
    world #[] with ⟨told, events, plays⟩
  rw [events]
  exact plays

/-- What playing comes to leaves no other outcome. -/
theorem Plays.playRounds_eq {count : Nat} {round : Int} {world last : World σ}
    {told : List Event} {ending : Except Fault Ending}
    (plays : Plays count round world told last ending) (earlier : Array Event) :
    playRounds count round world earlier = ⟨last, earlier ++ told.toArray, ending⟩ := by
  induction plays generalizing earlier with
  | undecidedEnd undecided => simp [playRounds, complete, undecided]
  | @completed round world due decided =>
      cases due <;> simp [playRounds, complete, decided, World.completed]
  | @failed count round world fault raised =>
      have called : world.step round = ((world.step round).1, .error fault) :=
        Prod.ext rfl raised
      rw [playRounds, called]
      simp
  | @extinct count round world nobody =>
      have called : world.step round = ((world.step round).1, .ok none) :=
        Prod.ext rfl nobody
      rw [playRounds, called]
      simp
  | @undecided count round world metrics fault returned undecided =>
      have called : world.step round = ((world.step round).1, .ok (some metrics)) :=
        Prod.ext rfl returned
      rw [playRounds, called]
      simp [undecided]
  | @next count round world metrics due told last ending returned decided rest induction =>
      have called : world.step round = ((world.step round).1, .ok (some metrics)) :=
        Prod.ext rfl returned
      rw [playRounds, called]
      simp only [decided, induction]
      cases due <;> simp

theorem Plays.unique {count : Nat} {round : Int} {world left right : World σ}
    {leftTold rightTold : List Event} {leftEnding rightEnding : Except Fault Ending}
    (leftPlays : Plays count round world leftTold left leftEnding)
    (rightPlays : Plays count round world rightTold right rightEnding) :
    leftTold = rightTold ∧ left = right ∧ leftEnding = rightEnding := by
  have same := (leftPlays.playRounds_eq #[]).symm.trans (rightPlays.playRounds_eq #[])
  simp only [Array.empty_append, Playback.mk.injEq] at same
  exact ⟨congrArg Array.toList same.2.1, same.1, same.2.2⟩

theorem Plays.play_eq {world last : World σ} {told : List Event}
    {ending : Except Fault Ending} (running : world.status = .running)
    (plays : Plays (world.settings.rounds - world.round).toNat (world.round + 1) world
      told last ending) :
    world.play = ⟨last, told.toArray, ending⟩ := by
  rw [play, if_pos running, plays.playRounds_eq, Array.empty_append]

/-- What every step keeps, and completion too, is kept to the end. -/
theorem Plays.preserves {count : Nat} {round : Int} {world last : World σ}
    {told : List Event} {ending : Except Fault Ending}
    (plays : Plays count round world told last ending) (invariant : World σ → Prop)
    (stepped : ∀ world round, invariant world → invariant (world.step round).1)
    (completed : ∀ world, invariant world → invariant world.completed)
    (initially : invariant world) : invariant last := by
  induction plays with
  | undecidedEnd undecided => exact initially
  | completed decided => exact completed _ initially
  | failed raised => exact stepped _ _ initially
  | extinct nobody => exact stepped _ _ initially
  | undecided returned undecided => exact stepped _ _ initially
  | next returned decided rest induction => exact induction (stepped _ _ initially)

end World

end Foragers
