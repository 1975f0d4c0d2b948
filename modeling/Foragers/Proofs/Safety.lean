import Foragers.Proofs.Draws
import Foragers.Proofs.Overflow
import Foragers.Proofs.WellFormed
import Foragers.Settings.Document

/-! # Safety

A simulation whose settings were loaded fails for one reason only: a number of one
of its agents is too large for a share or a mean to be taken of it. There is always
an instruction to choose, an interval to divide by and a cell to look at.
-/

namespace Foragers

/-- One of an agent's numbers has no finite nearest binary64 number. -/
def Agent.Oversized (agent : Agent) : Prop :=
  Binary64.limit ≤ agent.energy ∨ Binary64.limit ≤ agent.age ∨
    Binary64.limit ≤ agent.program.length

theorem Summary.ofList_map_eq_error {agents : List Agent} {value : Agent → Int}
    {fault : Fault} (nonneg : ∀ agent ∈ agents, 0 ≤ value agent)
    (failed : ofList (agents.map value) = .error fault) :
    fault = .tooLarge ∧ ∃ agent ∈ agents, Binary64.limit ≤ value agent := by
  have valuesNonneg : ∀ number ∈ agents.map value, 0 ≤ number := by
    intro number member
    rcases List.mem_map.mp member with ⟨agent, present, valueEq⟩
    rw [← valueEq]
    exact nonneg agent present
  rcases ofList_eq_error valuesNonneg failed with ⟨faultEq, number, member, large⟩
  rcases List.mem_map.mp member with ⟨agent, present, valueEq⟩
  exact ⟨faultEq, agent, present, valueEq ▸ large⟩

theorem RoundMetrics.measure_eq_error {round : Int} {board : Board} {agents : List Agent}
    {births deaths : Nat} {fault : Fault} (energies : ∀ agent ∈ agents, 0 ≤ agent.energy)
    (ages : ∀ agent ∈ agents, 0 ≤ agent.age)
    (failed : measure round board agents births deaths = .error fault) :
    fault = .tooLarge ∧ ∃ agent ∈ agents, agent.Oversized := by
  unfold measure at failed
  rcases bind_eq_error failed with programLength | ⟨_, _, failed⟩
  · rcases Summary.ofList_map_eq_error (fun _ _ => Int.natCast_nonneg _) programLength with
      ⟨faultEq, agent, present, large⟩
    exact ⟨faultEq, agent, present, .inr (.inr (Int.ofNat_le.mp large))⟩
  rcases bind_eq_error failed with energy | ⟨_, _, failed⟩
  · rcases Summary.ofList_map_eq_error energies energy with
      ⟨faultEq, agent, present, large⟩
    exact ⟨faultEq, agent, present, .inl large⟩
  rcases bind_eq_error failed with age | ⟨_, _, returned⟩
  · rcases Summary.ofList_map_eq_error ages age with ⟨faultEq, agent, present, large⟩
    exact ⟨faultEq, agent, present, .inr (.inl large)⟩
  · cases returned

variable {σ : Type}

/-- A fault is an overflow, and somebody is too large for the world that it leaves. -/
structure World.Overflowed (fault : Fault) (world : World σ) : Prop where
  fault_eq : fault = .tooLarge
  oversized : ∃ agent ∈ world.agents, agent.Oversized

theorem World.measure_overflowed {world : World σ} {round : Int} {fault : Fault}
    (ages : ∀ agent ∈ world.everyone, 0 ≤ agent.age)
    (failed : world.measure round = .error fault) : Overflowed fault world.settle := by
  have alive : ∀ agent ∈ world.settle.agents, 0 ≤ agent.energy := by
    intro agent member
    exact of_decide_eq_true (List.mem_filter.mp member).2
  have grown : ∀ agent ∈ world.settle.agents, 0 ≤ agent.age := by
    intro agent member
    exact ages agent (List.mem_of_mem_filter member)
  rcases RoundMetrics.measure_eq_error alive grown failed with ⟨faultEq, oversized⟩
  exact ⟨faultEq, oversized⟩

theorem World.conclude_overflowed {world : World σ} {round : Int} {fault : Fault}
    (ages : ∀ agent ∈ world.everyone, 0 ≤ agent.age)
    (failed : (world.conclude round).2 = .error fault) :
    Overflowed fault (world.conclude round).1 := by
  have concluded := world.conclude_concluded round
  generalize world.conclude round = result at concluded failed ⊢
  cases concluded with
  | extinct nobody => cases failed
  | measured somebody metrics measured => cases failed
  | unmeasured somebody reason unmeasured =>
      cases failed
      exact measure_overflowed ages unmeasured

/-- A round in which no survivor is too large can be measured. -/
theorem World.conclude_isOk {world : World σ} {round : Int}
    (ages : ∀ agent ∈ world.everyone, 0 ≤ agent.age)
    (small : ∀ agent ∈ world.everyone, agent.alive = true → ¬agent.Oversized) :
    (world.conclude round).2.isOk = true := by
  cases failed : (world.conclude round).2 with
  | ok result => rfl
  | error fault =>
      rcases (conclude_overflowed ages failed).oversized with ⟨agent, member, large⟩
      rw [conclude_agents] at member
      rcases List.mem_filter.mp member with ⟨present, alive⟩
      exact absurd large (small agent present alive)

theorem World.WellFormed.printInterval_ne_zero {settings : Settings} {first : Board}
    {world : World σ} (wellFormed : WellFormed settings first world)
    (loaded : settings.Loaded) : world.settings.printInterval ≠ 0 := by
  have positive := loaded.printInterval_pos
  rw [wellFormed.settings_eq]
  omega

variable [source : RandomSource σ] {settings : Settings}

/-- With loaded settings an agent fails to reproduce only when its energy is too large. -/
theorem Surroundings.turn_eq_error (loaded : settings.Loaded) {agent : Agent}
    {surroundings : Surroundings σ} {fault : Fault}
    (failed : (turn settings.traits agent surroundings).child = .error fault) :
    fault = .tooLarge ∧
      Binary64.limit ≤ (turn settings.traits agent surroundings).agent.energy := by
  have bred := turn_bred settings.traits agent surroundings
  generalize turn settings.traits agent surroundings = taken at bred failed ⊢
  cases bred with
  | idle unable => cases failed
  | bore able program later mutated share shared child offspring => cases failed
  | failed able reason later cause =>
      cases failed
      rcases cause with mutated | ⟨program, mutated, shared⟩
      · exact absurd (Program.mutate_eq_error mutated) loaded.pool_ne_nil
      · have threshold : 0 ≤ settings.reproductionThreshold :=
          loaded.valid (.count .reproductionThreshold)
        have isFraction : settings.energyFraction.isFraction = true :=
          loaded.valid (.fraction .energyFraction)
        simp only [Agent.canReproduce, Bool.and_eq_true, decide_eq_true_eq] at able
        exact Agent.energyShare_eq_error (Int.le_trans threshold able.2) isFraction shared

namespace World

variable {world : World σ} {round : Int} {fault : Fault}

theorem acted_overflowed (loaded : world.settings.Loaded)
    (stopped : (world.played round).fault = some fault) :
    Overflowed fault (world.acted round) := by
  rcases Surroundings.exists_of_stopped _ _ _ stopped with
    ⟨front, failing, waiting, order, done, failure, playedEq⟩
  rcases Surroundings.turn_eq_error loaded failure with ⟨faultEq, large⟩
  refine ⟨faultEq, _, ?_, .inl large⟩
  change _ ∈ (world.played round).agents
  rw [played, playedEq]
  simp

theorem step_overflowed (loaded : world.settings.Loaded) (running : world.status = .running)
    (ages : ∀ agent ∈ (world.acted round).everyone, 0 ≤ agent.age)
    (failed : (world.step round).2 = .error fault) :
    Overflowed fault (world.step round).1 := by
  have stepped := world.step_stepped round
  generalize world.step round = result at stepped failed ⊢
  cases stepped with
  | refused ended => contradiction
  | interrupted running reason stopped =>
      cases failed
      exact acted_overflowed loaded stopped
  | concluded running done => exact conclude_overflowed ages failed

namespace WellFormed

variable {first : Board}

theorem step_overflowed (wellFormed : WellFormed settings first world)
    (loaded : settings.Loaded) (running : world.status = .running)
    (failed : (world.step round).2 = .error fault) :
    Overflowed fault (world.step round).1 := by
  rw [← wellFormed.settings_eq] at loaded
  apply World.step_overflowed loaded running _ failed
  intro agent member
  exact ((wellFormed.acted round).everyone agent member).age_nonneg

/-- Playing fails only where one of its rounds does. -/
theorem plays_overflowed {count : Nat} {last : World σ} {told : List Event}
    {ending : Except Fault Ending} (plays : Plays count round world told last ending)
    (wellFormed : WellFormed settings first world) (loaded : settings.Loaded)
    (running : world.status = .running) (failed : ending = .error fault) :
    Overflowed fault last := by
  induction plays with
  | undecidedEnd undecided =>
      exact absurd (snapshotDue_eq_error undecided) (wellFormed.printInterval_ne_zero loaded)
  | completed decided => cases failed
  | failed raised =>
      cases failed
      exact wellFormed.step_overflowed loaded running raised
  | extinct nobody => cases failed
  | undecided returned undecided =>
      exact absurd (snapshotDue_eq_error undecided)
        ((wellFormed.step _).printInterval_ne_zero loaded)
  | next returned decided rest induction =>
      exact induction (wellFormed.step _) (step_survived returned).status_eq failed

end WellFormed

/-- What can become of a simulation whose settings were loaded. It is created with all
of its founders, no look at a cell fails and nothing is drawn below zero. From then on
a call for a round or for all of them fails, as long as the simulation is running,
only by an overflow, and only when somebody is that large. -/
theorem overflowed_of_error (loaded : settings.Loaded) {energy ripeningTime : Int}
    {lines : List String} {board : Board}
    (drawn : Board.ofLines energy ripeningTime lines = .ok board) (random : σ) :
    ((create settings board random).agents.length : Int) = settings.initialPopulation ∧
    (∀ program scene, Scene.run? program scene = some (Scene.run program scene)) ∧
    (∀ other, source.Alike other →
      @create σ other settings board random = create settings board random ∧
      ∀ world : World σ, @play σ other world = world.play ∧
        ∀ round, @step σ other round world = world.step round) ∧
    ∀ world, Reachable (create settings board random) world → world.status = .running →
      (∀ fault, world.play.ending = .error fault → Overflowed fault world.play.world) ∧
      ∀ round fault, (world.step round).2 = .error fault →
        Overflowed fault (world.step round).1 := by
  refine ⟨?_, Scene.run?_eq, ?_, ?_⟩
  · have population : 0 ≤ settings.initialPopulation :=
      loaded.valid (.count .initialPopulation)
    rw [length_create, Int.toNat_of_nonneg population]
  · intro other alike
    exact ⟨alike.create_eq settings board random,
      fun world => ⟨alike.play_eq world, fun round => alike.step_eq round world⟩⟩
  · intro world reached running
    have created :=
      WellFormed.create loaded.program_subset (Board.ofLines_counted drawn) random
    have wellFormed := created.reachable reached
    refine ⟨?_, ?_⟩
    · intro fault failed
      exact WellFormed.plays_overflowed (play_plays running) wellFormed loaded running failed
    · intro round fault failed
      exact wellFormed.step_overflowed loaded running failed

/-- Raw values for two founders with too much energy to share. -/
def giantEntries : List (String × Value) :=
  assignValue ("initial_energy", .integer (2 ^ 1024)) Chronicle.prolificEntries

def giant : Settings :=
  { Chronicle.prolific with initialEnergy := 2 ^ 1024 }

theorem giant_overflowed :
    Settings.Loaded giant ∧ Board.ofLines 5 3 ["x "] = .ok .meadow ∧
      (create giant .meadow Zeros.mk).status = .running ∧
      ((create giant .meadow Zeros.mk).step 1).2 = .error .tooLarge ∧
      Overflowed .tooLarge ((create giant .meadow Zeros.mk).step 1).1 := by
  have distinct : (giantEntries.map Prod.fst).Nodup := by decide +kernel
  have accepted : Settings.ofMapping Parameter.all giantEntries = .ok giant := by
    decide +kernel
  have loaded : Settings.Loaded giant := .ofMapping distinct accepted
  have drawn : Board.ofLines 5 3 ["x "] = .ok .meadow := rfl
  have running : (create giant .meadow Zeros.mk).status = .running := rfl
  have failed : ((create giant .meadow Zeros.mk).step 1).2 = .error .tooLarge := by
    decide +kernel
  have simulation := overflowed_of_error loaded drawn Zeros.mk
  have faults := simulation.2.2.2 _ .start running
  exact ⟨loaded, drawn, running, failed, faults.2 1 .tooLarge failed⟩

end World

end Foragers
