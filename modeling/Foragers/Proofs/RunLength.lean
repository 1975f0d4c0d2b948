import Foragers.Proofs.Trace

/-! # The length of a run

The number of rounds and the interval between snapshots are read when a run goes on
or shows the population, and by nothing that happens in a round. A longer run begins
with the rounds of a shorter one, and rounds that were played one by one are the
beginning of a run.
-/

namespace Foragers

/-- The same simulation, with another length of the run and other snapshots. -/
def Settings.replan (settings : Settings) (rounds printInterval : Int) : Settings :=
  { settings with rounds, printInterval }

variable {σ : Type}

namespace World

def replan (world : World σ) (rounds printInterval : Int) : World σ :=
  { world with settings := world.settings.replan rounds printInterval }

/-! ## Rounds under another plan -/

section

variable (world : World σ) (rounds printInterval : Int)

theorem conclude_replan (round : Int) :
    (world.replan rounds printInterval).conclude round =
      ((world.conclude round).1.replan rounds printInterval, (world.conclude round).2) := by
  have settle : (world.replan rounds printInterval).settle =
      world.settle.replan rounds printInterval := rfl
  have measure : (world.replan rounds printInterval).measure round =
      world.measure round := rfl
  have agents : (world.settle.replan rounds printInterval).agents =
      world.settle.agents := rfl
  simp only [conclude, settle, measure, agents]
  split
  · rfl
  · cases world.measure round <;> rfl

variable [RandomSource σ]

theorem step_replan (round : Int) :
    (world.replan rounds printInterval).step round =
      ((world.step round).1.replan rounds printInterval, (world.step round).2) := by
  have status : (world.replan rounds printInterval).status = world.status := rfl
  have act : ((world.replan rounds printInterval).beginRound round).act =
      ((world.acted round).replan rounds printInterval, (world.played round).fault) := rfl
  have actBefore : (world.beginRound round).act =
      (world.acted round, (world.played round).fault) := rfl
  simp only [step, status, act, actBefore]
  split
  · cases (world.played round).fault with
    | some fault => rfl
    | none => exact (world.acted round).conclude_replan rounds printInterval round
  · rfl

end

variable [RandomSource σ]

theorem populate_replan (settings : Settings) (rounds printInterval : Int) (board : Board)
    (count : Nat) (id : Int) (random : σ) :
    populate (settings.replan rounds printInterval) board count id random =
      populate settings board count id random := by
  induction count generalizing id random with
  | zero => rfl
  | succ count induction =>
      have first : Agent.spawn (settings.replan rounds printInterval) id board random =
          Agent.spawn settings id board random := rfl
      simp only [populate, first, induction]

theorem create_replan (settings : Settings) (rounds printInterval : Int) (board : Board)
    (random : σ) :
    create (settings.replan rounds printInterval) board random =
      (create settings board random).replan rounds printInterval := by
  have founders := populate_replan settings rounds printInterval board
    settings.initialPopulation.toNat 0 random
  have count : (settings.replan rounds printInterval).initialPopulation =
      settings.initialPopulation := rfl
  simp only [create, count, founders]
  rfl

/-! ## Runs of different length -/

/-- What a run has in common with one that is to be at least as long: its rounds, and
its end when nobody is left. -/
structure Begins (count : Nat) (rounds printInterval : Int) (told : List Event)
    (last : World σ) (ending : Except Fault Ending) (longTold : List Event)
    (longLast : World σ) (longEnding : Except Fault Ending) : Prop where
  metrics_eq : told.filterMap Event.metrics? =
    (longTold.filterMap Event.metrics?).take count
  extinct : ∀ result round, ending = .ok result → result.status = .extinct round →
    longEnding = ending ∧ longLast = last.replan rounds printInterval

theorem Plays.begins {count more : Nat} {rounds printInterval round : Int}
    {world last longLast : World σ} {told longTold : List Event}
    {ending longEnding : Except Fault Ending}
    (plays : Plays count round world told last ending) (longer : count ≤ more)
    (shown : world.settings.printInterval ≠ 0) (longShown : printInterval ≠ 0)
    (others : Plays more round (world.replan rounds printInterval) longTold longLast
      longEnding) :
    Begins count rounds printInterval told last ending longTold longLast longEnding := by
  -- The runs go on together until the shorter one ends.
  induction plays generalizing more longTold with
  | undecidedEnd undecided => exact absurd (snapshotDue_eq_error undecided) shown
  | @completed round world due decided =>
      refine ⟨?_, ?_⟩
      · cases due <;> rfl
      · intro result round ended extinct
        cases ended
        cases extinct
  | @failed count round world fault raised =>
      rcases Nat.exists_eq_add_one.mpr (Nat.lt_of_lt_of_le (Nat.succ_pos _) longer) with
        ⟨later, rfl⟩
      have raisedThere : ((world.replan rounds printInterval).step round).2 =
          .error fault := by
        rwa [step_replan]
      rcases others.unique (.failed raisedThere) with ⟨rfl, rfl, rfl⟩
      refine ⟨rfl, ?_⟩
      intro result round ended
      cases ended
  | @extinct count round world nobody =>
      rcases Nat.exists_eq_add_one.mpr (Nat.lt_of_lt_of_le (Nat.succ_pos _) longer) with
        ⟨later, rfl⟩
      have nobodyThere : ((world.replan rounds printInterval).step round).2 = .ok none := by
        rwa [step_replan]
      rcases others.unique (.extinct nobodyThere) with ⟨rfl, rfl, rfl⟩
      rw [step_replan]
      exact ⟨rfl, fun result round ended extinct => ⟨rfl, rfl⟩⟩
  | undecided returned undecided =>
      rw [← step_settings] at shown
      exact absurd (snapshotDue_eq_error undecided) shown
  | @next count round world metrics due told last ending returned decided rest induction =>
      rcases Nat.exists_eq_add_one.mpr (Nat.lt_of_lt_of_le (Nat.succ_pos _) longer) with
        ⟨later, rfl⟩
      have returnedThere : ((world.replan rounds printInterval).step round).2 =
          .ok (some metrics) := by
        rwa [step_replan]
      have decidedThere : ((world.replan rounds printInterval).step round).1.snapshotDue
          round = .ok (decide (printInterval ∣ round)) := by
        rw [step_replan]
        exact snapshotDue_eq longShown round
      rcases playRounds_plays later (round + 1)
        ((world.step round).1.replan rounds printInterval) #[] with ⟨restTold, _, longRest⟩
      rcases others.unique (.next returnedThere decidedThere (by rwa [step_replan])) with
        ⟨rfl, rfl, rfl⟩
      rw [← step_settings world round] at shown
      have begins := induction (Nat.le_of_succ_le_succ longer) shown longRest
      refine ⟨?_, begins.extinct⟩
      simp only [List.filterMap_cons, Event.metrics?, List.filterMap_append,
        Event.filterMap_metrics?_snapshot, List.nil_append, List.take_succ_cons,
        begins.metrics_eq]

/-! ## Runs that go on -/

/-- Rounds that are survived can stand in front of what is played after them. -/
theorem Measures.plays {metrics : List RoundMetrics} {world last : World σ} {count : Nat}
    {told : List Event} {ending : Except Fault Ending} (measures : Measures metrics world)
    (shown : world.settings.printInterval ≠ 0)
    (rest : Plays count (world.round + metrics.length + 1)
      (world.afterRounds metrics.length) told last ending) :
    Plays (metrics.length + count) (world.round + 1) world (world.reports metrics ++ told)
      last ending := by
  induction metrics generalizing world with
  | nil =>
      rw [List.length_nil, Int.natCast_zero, Int.add_zero] at rest
      rw [List.length_nil, Nat.zero_add]
      exact rest
  | cons first others induction =>
      have survived := step_survived measures.1
      have number : world.round + (first :: others).length + 1 =
          (world.step (world.round + 1)).1.round + others.length + 1 := by
        rw [survived.round_eq, List.length_cons, Int.natCast_succ]
        omega
      rw [number] at rest
      rw [← step_settings world (world.round + 1)] at shown
      have later := induction measures.2 shown rest
      rw [survived.round_eq] at later
      have played := Plays.next measures.1 (snapshotDue_eq shown (world.round + 1)) later
      rw [List.length_cons, Nat.succ_add, reports_cons survived.round_eq, report_zero,
        List.append_assoc, List.cons_append]
      simpa only [step_settings, decide_eq_true_eq] using played

/-- A run tells of the rounds that were already played and then what is told by going
on, and it ends as that does. -/
theorem Measures.play_eq {metrics : List RoundMetrics} {world : World σ}
    (measures : Measures metrics world) (running : world.status = .running)
    (shown : world.settings.printInterval ≠ 0)
    (within : world.round + metrics.length ≤ world.settings.rounds) :
    world.play = {
      (world.afterRounds metrics.length).play with
      events := (world.reports metrics).toArray ++
        (world.afterRounds metrics.length).play.events } := by
  have outlived := measures.outlived running
  have rest := play_plays outlived.status_eq
  rw [outlived.round_eq, outlived.settings_eq] at rest
  have number : (world.settings.rounds - world.round).toNat = metrics.length +
      (world.settings.rounds - (world.round + metrics.length)).toNat := by
    omega
  have played := measures.plays shown rest
  rw [← number] at played
  rw [played.play_eq running, ← List.append_toArray, Array.toArray_toList]

/-- A run that is to be shorter tells the same measurements as a longer one, as far as it
goes, and if it ends because nobody is left then so does the longer one, in the same
world. A run that goes on from rounds played one by one ends like the run as a whole,
and it tells what that tells after these rounds. -/
theorem play_replan (settings : Settings) {rounds printInterval : Int}
    (longer : settings.rounds ≤ rounds) (shown : 1 ≤ settings.printInterval)
    (longShown : 1 ≤ printInterval) (board : Board) (random : σ) :
    let fresh := create settings board random
    let short := fresh.play
    let long := (create (settings.replan rounds printInterval) board random).play
    short.events.toList.filterMap Event.metrics? =
      (long.events.toList.filterMap Event.metrics?).take settings.rounds.toNat ∧
    (∀ result round, short.ending = .ok result → result.status = .extinct round →
      long.ending = short.ending ∧ long.world = short.world.replan rounds printInterval) ∧
    ∀ metrics, Measures metrics fresh → metrics.length ≤ settings.rounds →
      let resumed := (fresh.afterRounds metrics.length).play
      resumed.world = short.world ∧ resumed.ending = short.ending ∧
        short.events.toList = fresh.reports metrics ++ resumed.events.toList := by
  intro fresh short long
  have longEq : long = (fresh.replan rounds printInterval).play :=
    congrArg play (create_replan settings rounds printInterval board random)
  have count : (fresh.settings.rounds - fresh.round).toNat = settings.rounds.toNat :=
    congrArg Int.toNat (Int.sub_zero settings.rounds)
  have longCount : (fresh.settings.rounds - fresh.round).toNat ≤ (rounds - 0).toNat := by
    rw [count, Int.sub_zero]
    exact Int.toNat_le_toNat longer
  have shownHere : fresh.settings.printInterval ≠ 0 := by
    change settings.printInterval ≠ 0
    omega
  have shownThere : printInterval ≠ 0 := by omega
  have running : fresh.status = .running := rfl
  have longRunning : (fresh.replan rounds printInterval).status = .running := rfl
  have begins := (play_plays running).begins longCount shownHere shownThere
    (play_plays longRunning)
  rw [longEq, ← count]
  refine ⟨begins.metrics_eq, begins.extinct, ?_⟩
  intro metrics measures within resumed
  have within : fresh.round + metrics.length ≤ fresh.settings.rounds := by
    change 0 + (metrics.length : Int) ≤ settings.rounds
    omega
  have whole : short = _ := measures.play_eq rfl shownHere within
  rw [whole]
  exact ⟨rfl, rfl, Array.toList_append⟩

/-- One round is played before the run, which is to have three. -/
theorem visitors_resumed :
    (3 : Int) ≤ 5 ∧ (1 : Int) ≤ 2 ∧ (1 : Int) ≤ 3 ∧
      (∃ metrics, Measures [metrics] visitors ∧
        (visitors.afterRounds 1).play.ending = visitors.play.ending) ∧
      visitors.play.events.toList.filterMap Event.metrics? =
        ((visitors.replan 5 3).play.events.toList.filterMap Event.metrics?).take 3 := by
  have returns : ∃ metrics, (visitors.step (visitors.round + 1)).2 = .ok (some metrics) :=
    exists_of_isSome (by decide +kernel)
  rcases returns with ⟨metrics, returned⟩
  have measures : Measures [metrics] visitors := ⟨returned, trivial⟩
  rcases play_replan { initialPopulation := 2, rounds := 3, printInterval := 2 }
    (by decide : (3 : Int) ≤ 5) (by decide) (by decide : (1 : Int) ≤ 3) .meadow Zeros.mk
    with ⟨shorter, _, resumes⟩
  rw [create_replan] at shorter
  have within : (1 : Int) ≤ 3 := by decide
  exact ⟨by decide, by decide, within,
    ⟨metrics, measures, (resumes [metrics] measures within).2.1⟩, shorter⟩

end World

end Foragers
