import Foragers.Proofs.Trace

/-! # The course of a simulation

A world may be stepped and played in any order. It runs until a round leaves nobody or
until it was played to its end, and from then on nothing changes it. What it holds in
each of these conditions is what its last round left.
-/

namespace Foragers

/-- The type of conditions sees to this: none but extinction has a round. -/
theorem Status.label_eq_extinct_iff (status : Status) :
    status.label = "Extinct" ↔ status.extinctRound?.isSome = true := by
  cases status <;> simp [label, extinctRound?]

/-- What can be asked of a world. -/
inductive Call where
  | step (round : Int)
  | play

/-- The world that a call leaves, the events told meanwhile and whether it failed. -/
structure Reply (σ : Type) where
  world : World σ
  events : List Event
  outcome : Except Fault Unit

variable {σ : Type}

namespace World

/-- A world has no agents and no measurements when it is extinct. Otherwise, once a
round was played, it has agents that are alive and the last measurements of its
history. -/
structure Coherent (played : Prop) (world : World σ) : Prop where
  extinct : ∀ round, world.status.extinctRound? = some round →
    world.agents = [] ∧ world.metrics = none ∧ world.round = round
  alive : world.status.extinctRound? = none → played →
    world.agents ≠ [] ∧ (∀ agent ∈ world.agents, 0 ≤ agent.energy) ∧
      world.metrics.isSome = true ∧ world.metrics = world.history.back?

theorem Coherent.imp {played other : Prop} {world : World σ}
    (coherent : Coherent played world) (implies : other → played) : Coherent other world :=
  ⟨coherent.extinct, fun alive begun => coherent.alive alive (implies begun)⟩

theorem Coherent.completed {played : Prop} {world : World σ}
    (coherent : Coherent played world) (running : world.status = .running) :
    Coherent played world.completed := by
  refine ⟨?_, ?_⟩
  · intro round extinct
    cases extinct
  · intro _
    apply coherent.alive
    rw [running]
    rfl

variable [RandomSource σ]

def call (world : World σ) : Call → Reply σ
  | .step round => {
      world := (world.step round).1
      events := []
      outcome := (world.step round).2.map fun _ => () }
  | .play => {
      world := world.play.world
      events := world.play.events.toList
      outcome := world.play.ending.map fun _ => () }

def afterCalls : List Call → World σ → World σ
  | [], world => world
  | call :: rest, world => afterCalls rest (world.call call).world

/-- No call fails while the world is running. -/
def Calm : List Call → World σ → Prop
  | [], _ => True
  | call :: rest, world =>
      (world.status = .running → (world.call call).outcome.isOk = true) ∧
        Calm rest (world.call call).world

/-- A call begins a round of a running world, unless it is to be played to the end and
no round is left. -/
def Begun (world : World σ) : Call → Prop
  | .step _ => world.status = .running
  | .play => world.status = .running ∧ world.round < world.settings.rounds

/-- At least one of the calls begins a round. -/
def Played : List Call → World σ → Prop
  | [], _ => False
  | call :: rest, world => world.Begun call ∨ Played rest (world.call call).world

/-- Every way in which a call that does not fail changes the condition of a running
world. -/
inductive Passes (world : World σ) : Call → World σ → Prop
  | survived {round metrics} (returned : (world.step round).2 = .ok (some metrics))
      (running : (world.step round).1.status = .running) :
      Passes world (.step round) (world.step round).1
  | diedOut {round} (nobody : (world.step round).2 = .ok none)
      (extinct : (world.step round).1.status = .extinct round) :
      Passes world (.step round) (world.step round).1
  | playedDiedOut {metrics} (measures : Measures metrics world)
      (early : world.round + metrics.length < world.settings.rounds)
      (running : ∀ index ≤ metrics.length, (world.afterRounds index).status = .running)
      (nobody : ((world.afterRounds metrics.length).step
        (world.round + metrics.length + 1)).2 = .ok none)
      (extinct : ((world.afterRounds metrics.length).step
        (world.round + metrics.length + 1)).1.status =
          .extinct (world.round + metrics.length + 1)) :
      Passes world .play ((world.afterRounds metrics.length).step
        (world.round + metrics.length + 1)).1
  | playedOut {metrics} (measures : Measures metrics world)
      (all : metrics.length = (world.settings.rounds - world.round).toNat)
      (running : ∀ index ≤ metrics.length, (world.afterRounds index).status = .running) :
      Passes world .play (world.afterRounds metrics.length).completed

/-! ## Worlds that are over -/

theorem call_of_ended {world : World σ} (ended : world.status ≠ .running) (call : Call) :
    world.call call = ⟨world, [], .error (.finished world.status)⟩ := by
  cases call with
  | step round =>
      rw [World.call, step, if_neg ended]
      rfl
  | play =>
      rw [World.call, play, if_neg ended]
      rfl

theorem afterRounds_of_ended {world : World σ} (ended : world.status ≠ .running)
    (count : Nat) : world.afterRounds count = world := by
  induction count with
  | zero => rfl
  | succ count induction =>
      rw [afterRounds, step, if_neg ended, induction]

/-! ## Calls that do not fail -/

theorem coherent_of_returned {world : World σ} {round : Int} {result : Option RoundMetrics}
    (returned : (world.step round).2 = .ok result) (played : Prop) :
    Coherent played (world.step round).1 := by
  cases result with
  | none =>
      have died := step_diedOut returned
      refine ⟨?_, ?_⟩
      · intro other extinct
        rw [died.status_eq] at extinct
        cases extinct
        exact ⟨died.agents_eq, died.metrics_eq, died.round_eq⟩
      · intro extinct
        rw [died.status_eq] at extinct
        cases extinct
  | some metrics =>
      have survived := step_survived returned
      refine ⟨?_, ?_⟩
      · intro other extinct
        rw [survived.status_eq] at extinct
        cases extinct
      · intro _ _
        rcases step_survivors returned with ⟨somebody, energies⟩
        refine ⟨somebody, energies, ?_, ?_⟩
        · rw [survived.metrics_eq]
          rfl
        · rw [survived.metrics_eq, survived.history_eq, Array.back?_push]

/-- A run that ends was not disturbed by any fault. -/
theorem Plays.undisturbed {count : Nat} {round : Int} {world last : World σ}
    {told : List Event} {ending : Ending}
    (plays : Plays count round world told last (.ok ending))
    (next : round = world.round + 1) : world.Undisturbed count := by
  generalize outcomeEq : Except.ok ending = outcome at plays
  induction plays with
  | undecidedEnd undecided => cases outcomeEq
  | completed decided =>
      intro index below
      exact absurd below (Nat.not_lt_zero index)
  | failed raised => cases outcomeEq
  | undecided returned undecided => cases outcomeEq
  | @extinct count round world nobody =>
      subst next
      intro index below running
      cases index with
      | zero =>
          rw [afterRounds, Int.natCast_zero, Int.add_zero, nobody]
          rfl
      | succ index =>
          -- Nobody was left to be disturbed.
          have extinct := (step_diedOut nobody).status_eq
          have ended : (world.step (world.round + 1)).1.status ≠ .running := by
            rw [extinct]
            intro same
            cases same
          rw [afterRounds, afterRounds_of_ended ended] at running
          exact absurd running ended
  | @next count round world metrics due told last ending returned decided rest induction =>
      subst next
      have numbered := (step_survived returned).round_eq
      intro index below running
      cases index with
      | zero =>
          rw [afterRounds, Int.natCast_zero, Int.add_zero, returned]
          rfl
      | succ index =>
          have later := induction (by rw [numbered]) outcomeEq index
            (Nat.lt_of_succ_lt_succ below) running
          rw [numbered, Int.add_right_comm world.round] at later
          rwa [Int.natCast_succ, ← Int.add_assoc]

theorem play_ends {world : World σ} (running : world.status = .running)
    (interval : 1 ≤ world.settings.printInterval) (ended : world.play.ending.isOk = true) :
    let count := (world.settings.rounds - world.round).toNat
    ∃ metrics, Measures metrics world ∧
      (EndsExtinct count world metrics world.play.events.toList world.play.world
          world.play.ending ∨
        EndsCompleted count world metrics world.play.events.toList world.play.world
          world.play.ending) := by
  intro count
  rcases exists_of_isOk ended with ⟨ending, endingEq⟩
  have plays := play_plays running
  rw [endingEq] at plays ⊢
  exact plays.ends rfl running (by omega) (plays.undisturbed rfl)

theorem Measures.running {metrics : List RoundMetrics} {world : World σ}
    (measures : Measures metrics world) (running : world.status = .running) {index : Nat}
    (within : index ≤ metrics.length) : (world.afterRounds index).status = .running := by
  rcases Nat.lt_or_eq_of_le within with before | atEnd
  · exact (step_returned (measures.returned before).2).1
  · rw [atEnd]
    exact (measures.outlived running).status_eq

/-- The last of some rounds that were survived leaves a coherent world. -/
theorem Measures.coherent {metrics : List RoundMetrics} {world : World σ}
    (measures : Measures metrics world) (nonempty : metrics ≠ []) (played : Prop) :
    Coherent played (world.afterRounds metrics.length) := by
  rcases List.exists_cons_of_ne_nil nonempty with ⟨first, rest, rfl⟩
  have within : rest.length < (first :: rest).length := Nat.lt_succ_self _
  rw [List.length_cons, measures.afterRounds_eq within]
  exact coherent_of_returned (measures.returned within).2 played

theorem call_passes {world : World σ} (running : world.status = .running)
    (interval : 1 ≤ world.settings.printInterval) {call : Call}
    (calm : (world.call call).outcome.isOk = true) :
    Passes world call (world.call call).world := by
  cases call with
  | step round =>
      rw [World.call, isOk_map] at calm
      rcases exists_of_isOk calm with ⟨result, returned⟩
      cases result with
      | none => exact .diedOut returned (step_diedOut returned).status_eq
      | some metrics => exact .survived returned (step_survived returned).status_eq
  | play =>
      rw [World.call, isOk_map] at calm
      change Passes world .play world.play.world
      rcases play_ends running interval calm with ⟨metrics, measures, extinct | completed⟩
      · have early := extinct.early
        rw [extinct.last_eq]
        apply Passes.playedDiedOut measures (by omega) _ extinct.nobody
        · exact (step_diedOut extinct.nobody).status_eq
        · exact fun index => measures.running running
      · rw [completed.last_eq, ← completed.all]
        apply Passes.playedOut measures completed.all
        exact fun index => measures.running running

theorem Coherent.passes {played : Prop} {world later : World σ} {call : Call}
    (coherent : Coherent played world) (passes : Passes world call later) :
    Coherent (played ∨ world.Begun call) later := by
  cases passes with
  | survived returned running => exact coherent_of_returned returned _
  | diedOut nobody extinct => exact coherent_of_returned nobody _
  | playedDiedOut measures early running nobody extinct =>
      exact coherent_of_returned nobody _
  | @playedOut metrics measures all running =>
      apply Coherent.completed _ (running _ (Nat.le_refl _))
      by_cases nonempty : metrics = []
      -- No round was left to be played.
      · subst nonempty
        apply coherent.imp
        rintro (played | ⟨_, later⟩)
        · exact played
        · rw [List.length_nil] at all
          omega
      · exact measures.coherent nonempty _

theorem Coherent.call {played : Prop} {world : World σ} (coherent : Coherent played world)
    (interval : 1 ≤ world.settings.printInterval) {call : Call}
    (calm : world.status = .running → (world.call call).outcome.isOk = true) :
    Coherent (played ∨ world.Begun call) (world.call call).world := by
  by_cases running : world.status = .running
  · exact coherent.passes (call_passes running interval (calm running))
  · rw [call_of_ended running]
    apply coherent.imp
    rintro (played | begun)
    · exact played
    · cases call with
      | step round => exact absurd begun running
      | play => exact absurd begun.1 running

@[simp] theorem call_settings (world : World σ) (call : Call) :
    (world.call call).world.settings = world.settings := by
  by_cases running : world.status = .running
  · cases call with
    | step round => exact world.step_settings round
    | play =>
        apply (play_plays running).preserves (fun later => later.settings = world.settings)
        · intro later round kept
          rw [step_settings, kept]
        · intro later kept
          exact kept
        · rfl
  · rw [call_of_ended running]

/-! ## Calls one after the other -/

theorem afterCalls_settings (calls : List Call) (world : World σ) :
    (world.afterCalls calls).settings = world.settings := by
  induction calls generalizing world with
  | nil => rfl
  | cons call rest induction => rw [afterCalls, induction, call_settings]

theorem Coherent.afterCalls {played : Prop} {calls : List Call} {world : World σ}
    (coherent : Coherent played world) (interval : 1 ≤ world.settings.printInterval)
    (calm : Calm calls world) :
    Coherent (played ∨ Played calls world) (world.afterCalls calls) := by
  induction calls generalizing world played with
  | nil =>
      apply coherent.imp
      rintro (played | none)
      · exact played
      · cases none
  | cons call rest induction =>
      have called := coherent.call interval calm.1
      rw [← call_settings world call] at interval
      rw [World.afterCalls, Played, ← or_assoc]
      exact induction called interval calm.2

theorem coherent_create (settings : Settings) (board : Board) (random : σ) :
    Coherent False (create settings board random) := by
  refine ⟨?_, ?_⟩
  · intro round extinct
    cases extinct
  · intro _ none
    cases none

/-- A simulation that is stepped and played in any order, whatever the rounds are
numbered, holds what its condition says. While it is running, a call leads to extinction
by a round that leaves nobody, or to completion when no round is left, or nowhere else.
When it is over, every call fails, tells nothing and changes nothing. That it has a round
of extinction exactly when it is extinct does not come from its calls: it is so of every
condition by its type. -/
theorem course_of_calls (settings : Settings) (interval : 1 ≤ settings.printInterval)
    (board : Board) (random : σ) {calls : List Call}
    (calm : Calm calls (create settings board random)) :
    let fresh := create settings board random
    let world := fresh.afterCalls calls
    (world.status.label = "Extinct" ↔ world.status.extinctRound?.isSome = true) ∧
    Coherent (Played calls fresh) world ∧
    (world.status = .running → ∀ call, (world.call call).outcome.isOk = true →
      Passes world call (world.call call).world) ∧
    (world.status ≠ .running → ∀ call,
      world.call call = ⟨world, [], .error (.finished world.status)⟩) := by
  intro fresh world
  have intervalThere : 1 ≤ world.settings.printInterval := by
    rw [afterCalls_settings]
    exact interval
  refine ⟨Status.label_eq_extinct_iff _, ?_, ?_, ?_⟩
  · have coherent := (coherent_create settings board random).afterCalls interval calm
    exact coherent.imp .inr
  · intro running call
    exact call_passes running intervalThere
  · intro ended call
    exact call_of_ended ended call

/-- One round is played by itself, then the others, and then one more is asked for. -/
theorem visitors_course :
    (1 : Int) ≤ 2 ∧ Calm [.step 1, .play, .step 4] visitors ∧
      (visitors.afterCalls [.step 1, .play, .step 4]).status = .completed ∧
      Coherent (Played [.step 1, .play, .step 4] visitors)
        (visitors.afterCalls [.step 1, .play, .step 4]) := by
  have interval : (1 : Int) ≤ 2 := by decide
  have calm : Calm [.step 1, .play, .step 4] visitors :=
    ⟨by decide +kernel, by decide +kernel, by decide +kernel, trivial⟩
  have completed : (visitors.afterCalls [.step 1, .play, .step 4]).status = .completed := by
    decide +kernel
  have course := course_of_calls { initialPopulation := 2, rounds := 3, printInterval := 2 }
    interval .meadow Zeros.mk calm
  exact ⟨interval, calm, completed, course.2.1⟩

end World

end Foragers
