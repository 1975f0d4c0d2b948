import Foragers.Proofs.EnergyShare
import Foragers.Proofs.Trace
import Foragers.Proofs.WellFormed

/-! # The balance of a population

A round counts the children when they join and the dead when they are removed, and
the population changes by the difference. As long as no parent has more energy than
binary64 numbers tell apart, a parent and its child live to the end of the round, so
everybody who was there before accounts for at most one birth or one death.
-/

namespace Foragers

/-- The minimum is one of the numbers that it is taken of. -/
theorem Summary.minimum_mem {values : List Int} {summary : Summary} (nonempty : values ≠ [])
    (summarized : ofList values = .ok summary) : summary.minimum ∈ values := by
  cases values with
  | nil => exact absurd rfl nonempty
  | cons first rest =>
      rw [ofList] at summarized
      cases mean : Binary64.ofRatio? (rest.foldl (· + ·) first) (rest.length + 1) with
      | none =>
          rw [mean] at summarized
          cases summarized
      | some nearest =>
          rw [mean] at summarized
          cases summarized
          exact List.min?_mem List.min?_cons'

variable {σ : Type} [RandomSource σ]

/-! ## Turns -/

/-- The agent when it has acted and may reproduce. -/
def Occasion.lived (traits : Traits) (occasion : Occasion σ) : Agent :=
  (occasion.agent.liveRound traits occasion.surroundings.board
    occasion.surroundings.random).agent

/-- If the agent can reproduce, its energy is a binary64 number as it is. -/
def Occasion.Modest (traits : Traits) (occasion : Occasion σ) : Prop :=
  (occasion.lived traits).canReproduce traits = true →
    (occasion.lived traits).energy ≤ 2 ^ 53

namespace Surroundings

theorem Bred.length_newborns_le {traits : Traits} {agent : Agent}
    {surroundings : Surroundings σ} {taken : Turn σ}
    (bred : Bred traits agent surroundings taken) :
    (Agent.newborns taken.child).length ≤ 1 := by
  cases bred with
  | idle unable => exact Nat.zero_le 1
  | failed able fault later cause => exact Nat.zero_le 1
  | bore able program later mutated share shared child offspring => exact Nat.le_refl 1

/-- A share of a modest energy leaves something to the parent. -/
theorem Bred.energies_nonneg {traits : Traits} {agent : Agent}
    {surroundings : Surroundings σ} {taken : Turn σ}
    (bred : Bred traits agent surroundings taken)
    (threshold : 0 ≤ traits.reproductionThreshold)
    (isFraction : traits.energyFraction.isFraction = true)
    (modest : agent.canReproduce traits = true → agent.energy ≤ 2 ^ 53) {child : Agent}
    (born : child ∈ Agent.newborns taken.child) :
    0 ≤ child.energy ∧ 0 ≤ taken.agent.energy := by
  cases bred with
  | idle unable => cases born
  | failed able fault later cause => cases born
  | bore able program later mutated share shared delivered offspring =>
      have modest := modest able
      simp only [Agent.canReproduce, Bool.and_eq_true, decide_eq_true_eq] at able
      rcases Int.eq_ofNat_of_zero_le (Int.le_trans threshold able.2) with
        ⟨energy, energyEq⟩
      rw [energyEq] at shared modest
      rcases Agent.energyShare_bounds isFraction shared with ⟨shareNonneg, within⟩
      have shareLe : share ≤ energy := by
        apply within.mpr
        intro overdrawn
        exact Binary64.not_roundsUp_of_le (Int.ofNat_le.mp modest) overdrawn.2
      rw [List.mem_singleton.mp born, offspring]
      exact ⟨shareNonneg, by simp only [energyEq]; omega⟩

/-- When all who bore a child live on, there is at most one birth or one death for
every agent. -/
theorem Acts.length_newborns_add_length_dead {traits : Traits} {agents : List Agent}
    {surroundings : Surroundings σ} {occasions : List (Occasion σ)} {played : Turns σ}
    (acts : Acts traits agents surroundings occasions played)
    (spared : ∀ occasion ∈ occasions, occasion.newborns traits ≠ [] →
      (occasion.turn traits).agent.alive = true) :
    (occasions.flatMap (Occasion.newborns traits)).length +
      (played.agents.filter fun agent => !agent.alive).length ≤ agents.length := by
  induction acts with
  | done surroundings => exact Nat.le_refl 0
  | @stopped agent waiting surroundings fault failing =>
      have nobody : Occasion.newborns traits ⟨agent, surroundings⟩ = [] := by
        rw [Occasion.newborns, Occasion.turn, failing]
        rfl
      rw [List.flatMap_singleton, nobody, List.length_nil, Nat.zero_add]
      exact List.length_filter_le _ (_ :: waiting)
  | @next agent rest surroundings child later played taken others induction =>
      have counted := induction fun occasion member =>
        spared occasion (List.mem_cons_of_mem _ member)
      have atMostOne : (Occasion.newborns traits ⟨agent, surroundings⟩).length ≤ 1 :=
        (turn_bred traits agent surroundings).length_newborns_le
      have first := spared ⟨agent, surroundings⟩ List.mem_cons_self
      rw [List.flatMap_cons, List.length_append, List.length_cons, List.filter_cons]
      by_cases nobody : Occasion.newborns traits ⟨agent, surroundings⟩ = []
      · rw [nobody, List.length_nil]
        split
        · rw [List.length_cons]
          omega
        · omega
      · have alive : (turn traits agent surroundings).agent.alive = true := first nobody
        rw [alive, if_neg (by decide)]
        omega

end Surroundings

namespace World

/-! ## Rounds -/

/-- How the measurements of a round account for the change of the population. -/
structure Balanced (round : Int) (world : World σ) (metrics : RoundMetrics)
    (later : World σ) : Prop where
  round_eq : metrics.round = round
  births_eq : metrics.births = (world.births round).length
  deaths_eq : metrics.deaths = (world.culled round).length
  population_eq : metrics.population = later.agents.length
  balance : (metrics.population : Int) =
    world.agents.length + metrics.births - metrics.deaths
  minimum_nonneg : 0 ≤ metrics.energy.minimum
  ripeFood_eq : metrics.ripeFood = later.board.cells.toList.countP Cell.hasFood

/-- Nobody who was born in a round or bore a child dies in it. -/
structure Spared (round : Int) (world later : World σ) : Prop where
  children : ∀ child ∈ world.births round,
    child ∈ later.agents ∧ child ∉ world.culled round
  parents : ∀ occasion ∈ world.occasions round,
    occasion.newborns world.settings.traits ≠ [] →
      (occasion.turn world.settings.traits).agent ∈ later.agents ∧
        (occasion.turn world.settings.traits).agent ∉ world.culled round
  length_le : (world.births round).length + (world.culled round).length ≤
    world.agents.length

theorem length_played (round : Int) (world : World σ) :
    (world.played round).agents.length = world.agents.length := by
  have ids := congrArg List.length (world.acts round).ids_eq
  rwa [List.length_map, List.length_map, length_beginRound] at ids

theorem step_balanced {world : World σ} {round : Int} {metrics : RoundMetrics}
    (noneWaiting : world.unborn = []) (counted : (world.step round).1.board.Counted)
    (returned : (world.step round).2 = .ok (some metrics)) :
    Balanced round world metrics (world.step round).1 := by
  rcases step_returned returned with ⟨running, done, concludeEq⟩
  rcases step_measured returned with ⟨somebody, measured, stepEq⟩
  have fields := RoundMetrics.measure_eq_ok measured
  have survivors := step_survivors returned
  have queue : (world.acted round).unborn = world.births round := by
    have unborn := (world.acts round).unborn_eq
    rwa [beginRound, noneWaiting] at unborn
  have partition : (world.acted round).settle.agents.length +
      (world.culled round).length = (world.acted round).everyone.length := by
    have perm := survivors_culled_perm done
    rw [← concludeEq, stepEq] at perm
    exact List.length_append.symm.trans perm.length_eq
  have everyone : (world.acted round).everyone.length =
      world.agents.length + (world.births round).length := by
    rw [acted_everyone, noneWaiting, List.nil_append, List.length_append, length_played]
  have births := fields.births_eq
  have deaths := fields.deaths_eq
  have population := fields.population_eq
  rw [queue] at births
  rw [stepEq] at survivors counted ⊢
  constructor
  case round_eq => exact fields.round_eq
  case births_eq => exact births
  case deaths_eq => omega
  case population_eq => exact population
  case balance => omega
  case minimum_nonneg =>
    have nonempty : ((world.acted round).settle.agents.map fun agent => agent.energy) ≠ [] :=
      mt List.map_eq_nil_iff.mp somebody
    rcases List.mem_map.mp (Summary.minimum_mem nonempty fields.energy_eq) with
      ⟨agent, present, minimumEq⟩
    rw [← minimumEq]
    exact survivors.2 agent present
  case ripeFood_eq => exact fields.ripeFood_eq.trans counted

/-- Whoever acted or was born is still there when alive, and is not among the dead. -/
theorem survives_of_alive {world : World σ} {round : Int}
    (done : (world.played round).fault = none) {agent : Agent}
    (member : agent ∈ (world.acted round).everyone) (alive : agent.alive = true) :
    agent ∈ ((world.acted round).conclude round).1.agents ∧
      agent ∉ world.culled round := by
  rw [conclude_agents, culled_of_done done]
  refine ⟨List.mem_filter.mpr ⟨member, alive⟩, fun dead => ?_⟩
  have notAlive := (List.mem_filter.mp dead).2
  rw [alive] at notAlive
  cases notAlive

theorem step_spared {world : World σ} {round : Int} {metrics : Option RoundMetrics}
    (noneWaiting : world.unborn = [])
    (threshold : 0 ≤ world.settings.reproductionThreshold)
    (isFraction : world.settings.energyFraction.isFraction = true)
    (modest : ∀ occasion ∈ world.occasions round, occasion.Modest world.settings.traits)
    (returned : (world.step round).2 = .ok metrics) :
    Spared round world (world.step round).1 := by
  rcases step_returned returned with ⟨running, done, stepEq⟩
  have acts := world.acts round
  have everyone := world.acted_everyone round
  rw [noneWaiting, List.nil_append] at everyone
  have energies : ∀ occasion ∈ world.occasions round,
      ∀ child ∈ occasion.newborns world.settings.traits,
        0 ≤ child.energy ∧ 0 ≤ (occasion.turn world.settings.traits).agent.energy := by
    intro occasion present child born
    exact (Surroundings.turn_bred _ _ _).energies_nonneg threshold isFraction
      (modest occasion present) born
  have childrenAlive : ∀ child ∈ world.births round, child.alive = true := by
    intro child born
    rcases List.mem_flatMap.mp born with ⟨occasion, present, now⟩
    exact decide_eq_true (energies occasion present child now).1
  have parentsAlive : ∀ occasion ∈ world.occasions round,
      occasion.newborns world.settings.traits ≠ [] →
        (occasion.turn world.settings.traits).agent.alive = true := by
    intro occasion present bore
    rcases List.exists_mem_of_ne_nil _ bore with ⟨child, born⟩
    exact decide_eq_true (energies occasion present child born).2
  rw [stepEq]
  constructor
  case children =>
    intro child born
    apply survives_of_alive done _ (childrenAlive child born)
    rw [everyone]
    exact List.mem_append_right _ born
  case parents =>
    intro occasion present bore
    apply survives_of_alive done _ (parentsAlive occasion present bore)
    rw [everyone, acts.acted_eq_of_done done]
    exact List.mem_append_left _ (List.mem_map_of_mem present)
  case length_le =>
    have noChild : (world.births round).filter (fun agent => !agent.alive) = [] := by
      apply List.filter_eq_nil_iff.mpr
      intro child born
      rw [childrenAlive child born]
      decide
    rw [culled_of_done done, everyone, List.filter_append, noChild, List.append_nil,
      ← length_beginRound round]
    exact acts.length_newborns_add_length_dead parentsAlive

end World

/-! ## Histories -/

namespace RoundMetrics

/-- The entries of a history keep a law about the population before each of them. -/
def Linked (law : Int → RoundMetrics → Prop) : Int → List RoundMetrics → Prop
  | _, [] => True
  | before, entry :: rest => law before entry ∧ Linked law entry.population rest

/-- The population is the one before, with the births and without the deaths. -/
def Balances (before : Int) (entry : RoundMetrics) : Prop :=
  (entry.population : Int) = before + entry.births - entry.deaths

/-- There was somebody before for every birth and for every death. -/
def Covers (before : Int) (entry : RoundMetrics) : Prop :=
  (entry.births + entry.deaths : Int) ≤ before

end RoundMetrics

namespace World

open RoundMetrics

namespace Measures

variable {metrics : List RoundMetrics} {world : World σ}

theorem noneWaiting (measures : Measures metrics world) (noneWaiting : world.unborn = [])
    {index : Nat} (within : index ≤ metrics.length) :
    (world.afterRounds index).unborn = [] := by
  cases index with
  | zero => exact noneWaiting
  | succ index =>
      rcases step_returned (measures.returned within).2 with ⟨running, done, _⟩
      rw [measures.afterRounds_eq within]
      exact (step_settled running done).unborn_eq

theorem linked (measures : Measures metrics world) (law : Int → RoundMetrics → Prop)
    (holds : ∀ index (within : index < metrics.length),
      law (world.afterRounds index).agents.length metrics[index]) :
    Linked law world.agents.length metrics := by
  induction metrics generalizing world with
  | nil => trivial
  | cons first rest induction =>
      refine ⟨holds 0 (Nat.succ_pos _), ?_⟩
      rw [(step_survived measures.1).population]
      apply induction measures.2
      intro index within
      exact holds (index + 1) (Nat.succ_lt_succ within)

theorem length_agents (measures : Measures metrics world)
    (balanced : Linked Balances world.agents.length metrics) :
    ((world.afterRounds metrics.length).agents.length : Int) =
      world.agents.length + ((metrics.map RoundMetrics.births).sum : Nat) -
        ((metrics.map RoundMetrics.deaths).sum : Nat) := by
  induction metrics generalizing world with
  | nil =>
      change (world.agents.length : Int) = world.agents.length + 0 - 0
      omega
  | cons first rest induction =>
      have population := (step_survived measures.1).population
      rcases balanced with ⟨now, later⟩
      rw [Balances] at now
      rw [population] at now later
      have others := induction measures.2 later
      rw [List.map_cons, List.sum_cons, List.map_cons, List.sum_cons, List.length_cons,
        afterRounds, others, now]
      omega

end Measures

theorem afterRounds_reachable (world : World σ) (count : Nat) :
    Reachable world (world.afterRounds count) := by
  induction count with
  | zero => exact .start
  | succ count induction =>
      rw [afterRounds_succ]
      exact induction.step _

section

variable {settings : Settings} {board : Board} {random : σ} {metrics : List RoundMetrics}
  {index : Nat}

theorem Measures.balanced (loaded : settings.Loaded) (counted : board.Counted)
    (measures : Measures metrics (create settings board random))
    (within : index < metrics.length) :
    Balanced (index + 1) ((create settings board random).afterRounds index) metrics[index]
      ((create settings board random).afterRounds (index + 1)) := by
  have created := WellFormed.create loaded.program_subset counted random
  have later := created.reachable (afterRounds_reachable _ (index + 1))
  have round : (create settings board random).round + index + 1 = index + 1 :=
    congrArg (· + 1) (Int.zero_add _)
  have returned := (measures.returned within).2
  rw [measures.afterRounds_eq within, round] at later ⊢
  rw [round] at returned
  exact step_balanced (measures.noneWaiting rfl (Nat.le_of_lt within))
    later.surroundings.grown.counted returned

theorem Measures.spared (loaded : settings.Loaded) (counted : board.Counted)
    (measures : Measures metrics (create settings board random))
    (within : index < metrics.length)
    (modest : ∀ occasion ∈
      ((create settings board random).afterRounds index).occasions (index + 1),
        occasion.Modest settings.traits) :
    Spared (index + 1) ((create settings board random).afterRounds index)
      ((create settings board random).afterRounds (index + 1)) := by
  have created := WellFormed.create loaded.program_subset counted random
  have same := (created.reachable (afterRounds_reachable _ index)).settings_eq
  have round : (create settings board random).round + index + 1 = index + 1 :=
    congrArg (· + 1) (Int.zero_add _)
  have returned := (measures.returned within).2
  rw [measures.afterRounds_eq within, round]
  rw [round] at returned
  apply step_spared (measures.noneWaiting rfl (Nat.le_of_lt within)) _ _ _ returned
  · rw [same]
    exact loaded.valid (.count .reproductionThreshold)
  · rw [same]
    exact loaded.valid (.fraction .energyFraction)
  · rw [same]
    exact modest

end

/-- The history of a simulation whose rounds so far were all survived. It has an entry for
every round, in order, and the entries account for every change of the population: for
the number of children and dead, for the energy of the poorest and for the ripe food.
As long as nobody who can reproduce has more energy than `2 ^ 53`, nobody who was born
or bore a child dies in the same round. -/
theorem balance_of_measures {settings : Settings} (loaded : settings.Loaded)
    {rows : List (List Cell)} {board : Board} (built : Board.ofCells rows = .ok board)
    (random : σ) {metrics : List RoundMetrics}
    (measures : Measures metrics (create settings board random)) :
    let after := fun count => (create settings board random).afterRounds count
    (after metrics.length).history.toList = metrics ∧
    metrics.map RoundMetrics.round =
      (List.range metrics.length).map (fun (index : Nat) => (index : Int) + 1) ∧
    Linked Balances settings.initialPopulation metrics ∧
    ((after metrics.length).agents.length : Int) =
      settings.initialPopulation + ((metrics.map RoundMetrics.births).sum : Nat) -
        ((metrics.map RoundMetrics.deaths).sum : Nat) ∧
    (∀ index (within : index < metrics.length),
      Balanced (index + 1) (after index) metrics[index] (after (index + 1))) ∧
    ((∀ index < metrics.length, ∀ occasion ∈ (after index).occasions (index + 1),
        occasion.Modest settings.traits) →
      Linked Covers settings.initialPopulation metrics ∧
      ∀ index < metrics.length, Spared (index + 1) (after index) (after (index + 1))) := by
  intro after
  have counted := Board.ofCells_counted built
  have founders : ((create settings board random).agents.length : Int) =
      settings.initialPopulation := by
    have population : 0 ≤ settings.initialPopulation :=
      loaded.valid (.count .initialPopulation)
    rw [length_create, Int.toNat_of_nonneg population]
  have balanced : ∀ index (within : index < metrics.length),
      Balanced (index + 1) (after index) metrics[index] (after (index + 1)) :=
    fun index => measures.balanced loaded counted
  have linked := measures.linked Balances fun index within => (balanced index within).balance
  have outlived := measures.outlived rfl
  rw [← founders]
  refine ⟨outlived.history_eq, ?_, linked, measures.length_agents linked, balanced, ?_⟩
  · rw [outlived.rounds_eq]
    apply List.map_congr_left
    intro index _
    exact congrArg (· + 1) (Int.zero_add _)
  · intro modest
    have spared : ∀ index < metrics.length,
        Spared (index + 1) (after index) (after (index + 1)) :=
      fun index within => measures.spared loaded counted within (modest index within)
    refine ⟨measures.linked Covers fun index within => ?_, spared⟩
    have entry := balanced index within
    have few := (spared index within).length_le
    rw [Covers, entry.births_eq, entry.deaths_eq]
    exact Int.ofNat_le.mpr few

/-- Two founders who have children in both of their first rounds. -/
def family : World Zeros :=
  .create Chronicle.prolific .meadow Zeros.mk

theorem family_balance :
    Settings.Loaded Chronicle.prolific ∧
      Board.ofCells [[.food 5 3, .empty]] = .ok .meadow ∧
      ∃ first second, Measures [first, second] family ∧
        Linked Balances 2 [first, second] ∧ Linked Covers 2 [first, second] := by
  have built : Board.ofCells [[.food 5 3, .empty]] = .ok .meadow := rfl
  have firstReturns : ∃ metrics, (family.step (family.round + 1)).2 = .ok (some metrics) :=
    exists_of_isSome (by decide +kernel)
  rcases firstReturns with ⟨first, firstReturned⟩
  have secondReturns : ∃ metrics, ((family.step (family.round + 1)).1.step
      ((family.step (family.round + 1)).1.round + 1)).2 = .ok (some metrics) :=
    exists_of_isSome (by decide +kernel)
  rcases secondReturns with ⟨second, secondReturned⟩
  have measures : Measures [first, second] family := ⟨firstReturned, secondReturned, trivial⟩
  rcases balance_of_measures Chronicle.prolific_loaded built Zeros.mk measures with
    ⟨_, _, linked, _, _, covers⟩
  have modest : ∀ index < 2, ∀ occasion ∈
      (family.afterRounds index).occasions (index + 1),
        occasion.Modest Chronicle.prolific.traits := by
    unfold Occasion.Modest
    decide +kernel
  exact ⟨Chronicle.prolific_loaded, built, first, second, measures, linked,
    (covers modest).1⟩

end World

end Foragers
