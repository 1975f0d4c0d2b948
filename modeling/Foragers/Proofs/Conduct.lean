import Foragers.Proofs.Playback

/-! # What agents act by

An agent acts by its body and its program. Its number, its age and its ancestors are
only told, and whether it means to reproduce is drawn anew before it is asked. So
worlds whose agents agree in body and program go on alike, whatever else is noted in
them, and what they measure differs at most in the ages and in the round's number.
-/

namespace Foragers

/-- What an agent acts by. -/
def Agent.core (agent : Agent) : Body × Program :=
  (agent.toBody, agent.program)

/-- The measurements but for the number of the round and the ages. -/
def RoundMetrics.timeless (metrics : RoundMetrics) : RoundMetrics :=
  { metrics with round := 0, age := {} }

variable {σ : Type}

/-- Surroundings in which agents find the same. -/
structure Surroundings.Akin (left right : Surroundings σ) : Prop where
  board_eq : left.board = right.board
  random_eq : left.random = right.random
  unborn_eq : left.unborn.map Agent.core = right.unborn.map Agent.core

structure Turn.Akin (left right : Turn σ) : Prop where
  agent_eq : left.agent.core = right.agent.core
  surroundings : left.surroundings.Akin right.surroundings
  child_eq : left.child.map (Option.map Agent.core) = right.child.map (Option.map Agent.core)

structure Turns.Akin (left right : Turns σ) : Prop where
  agents_eq : left.agents.map Agent.core = right.agents.map Agent.core
  surroundings : left.surroundings.Akin right.surroundings
  fault_eq : left.fault = right.fault

/-- Worlds between rounds that agree in everything that rounds depend on. -/
structure World.Akin (left right : World σ) : Prop where
  traits_eq : left.settings.traits = right.settings.traits
  board_eq : left.board = right.board
  random_eq : left.random = right.random
  agents_eq : left.agents.map Agent.core = right.agents.map Agent.core
  left_unborn : left.unborn = []
  right_unborn : right.unborn = []

/-- What can be told from the parts that agents act by is the same. -/
theorem Agent.map_eq {β : Type} (read : Body × Program → β) {left right : List Agent}
    (same : left.map core = right.map core) :
    (left.map fun agent => read agent.core) = right.map fun agent => read agent.core := by
  have mapped := congrArg (List.map read) same
  rwa [List.map_map, List.map_map] at mapped

theorem Agent.energies_eq {left right : List Agent}
    (same : left.map core = right.map core) :
    (left.map fun agent => agent.energy) = right.map fun agent => agent.energy :=
  map_eq (fun parts => parts.1.energy) same

theorem Agent.programLengths_eq {left right : List Agent}
    (same : left.map core = right.map core) :
    (left.map fun agent => (agent.program.length : Int)) =
      right.map fun agent => (agent.program.length : Int) :=
  map_eq (fun parts => (parts.2.length : Int)) same

theorem Agent.length_eq {left right : List Agent} (same : left.map core = right.map core) :
    left.length = right.length := by
  have lengths := congrArg List.length same
  rwa [List.length_map, List.length_map] at lengths

/-- Whether an agent is alive is up to its body. -/
theorem Agent.survivors_eq {left right : List Agent}
    (same : left.map core = right.map core) :
    (left.filter alive).map core = (right.filter alive).map core := by
  have survivors := congrArg (List.filter fun parts => decide (0 ≤ parts.1.energy)) same
  rwa [List.filter_map, List.filter_map] at survivors

variable [RandomSource σ]

/-! ## Turns -/

/-- The round that an agent lives through leaves its number and its ancestors alone,
and tells nothing of its will from before. -/
theorem Agent.liveRound_eq (traits : Traits) {left right : Agent}
    (same : left.core = right.core) (board : Board) (random : σ) :
    right.liveRound traits board random =
      { left.liveRound traits board random with
        agent := { (left.liveRound traits board random).agent with
          id := right.id
          age := right.age + 1
          generation := right.generation } } := by
  cases left
  cases right
  simp only [core, Prod.mk.injEq] at same
  rcases same with ⟨rfl, rfl⟩
  rfl

namespace Surroundings

theorem breed_akin (traits : Traits) {left right : Agent} (same : left.core = right.core)
    (willing : left.willing = right.willing) {here there : Surroundings σ}
    (akin : here.Akin there) :
    Turn.Akin (breed traits left here) (breed traits right there) := by
  have body : left.toBody = right.toBody := congrArg Prod.fst same
  have program : left.program = right.program := congrArg Prod.snd same
  have able : left.canReproduce traits = right.canReproduce traits := by
    rw [Agent.canReproduce, Agent.canReproduce, willing, body]
  have bred := breed_bred traits left here
  generalize breed traits left here = taken at bred ⊢
  cases bred with
  | idle unable =>
      rw [able] at unable
      rw [(Bred.idle unable : Bred traits right there _).breed_eq]
      exact ⟨same, akin, rfl⟩
  | failed leftAble fault later cause =>
      rw [able] at leftAble
      rw [program, akin.random_eq, body] at cause
      rw [(Bred.failed leftAble fault later cause : Bred traits right there _).breed_eq]
      exact ⟨same, ⟨akin.board_eq, rfl, akin.unborn_eq⟩, rfl⟩
  | bore leftAble drawn later mutated share shared child offspring =>
      rw [able] at leftAble
      rw [program, akin.random_eq] at mutated
      rw [body] at shared
      rw [(Bred.bore leftAble drawn later mutated share shared _ rfl :
        Bred traits right there _).breed_eq]
      have childSame : child.core = (right.offspring there.nextId drawn share
          (Agent.drawWilling traits later).1).core := by
        rw [offspring]
        simp only [Agent.core, Agent.offspring, body]
      refine ⟨?_, ⟨akin.board_eq, rfl, ?_⟩, ?_⟩
      · simp only [Agent.core, body, program]
      · simp only [List.map_append, akin.unborn_eq, List.map_singleton, childSame]
      · exact congrArg (Except.ok ∘ some) childSame

theorem turn_akin (traits : Traits) {left right : Agent} (same : left.core = right.core)
    {here there : Surroundings σ} (akin : here.Akin there) :
    Turn.Akin (turn traits left here) (turn traits right there) := by
  have lived := Agent.liveRound_eq traits same there.board there.random
  have core : (left.liveRound traits there.board there.random).agent.core =
      (right.liveRound traits there.board there.random).agent.core := by
    rw [lived]
    rfl
  have willing : (left.liveRound traits there.board there.random).agent.willing =
      (right.liveRound traits there.board there.random).agent.willing := by
    rw [lived]
  have surroundings : (here.after (left.liveRound traits there.board there.random)).Akin
      (there.after (right.liveRound traits there.board there.random)) := by
    rw [lived]
    exact ⟨rfl, rfl, akin.unborn_eq⟩
  unfold turn
  rw [akin.board_eq, akin.random_eq]
  exact breed_akin traits core willing surroundings

theorem turns_akin (traits : Traits) {lefts rights : List Agent}
    (same : lefts.map Agent.core = rights.map Agent.core) {here there : Surroundings σ}
    (akin : here.Akin there) :
    Turns.Akin (turns traits lefts here) (turns traits rights there) := by
  induction lefts generalizing rights here there with
  | nil =>
      cases rights with
      | nil => exact ⟨rfl, akin, rfl⟩
      | cons right rest => cases same
  | cons left leftRest induction =>
      cases rights with
      | nil => cases same
      | cons right rightRest =>
          simp only [List.map_cons, List.cons.injEq] at same
          have first := turn_akin traits same.1 akin
          have child := first.child_eq
          rw [turns, turns]
          cases leftChild : (turn traits left here).child with
          | error fault =>
              rw [leftChild] at child
              cases rightChild : (turn traits right there).child with
              | error otherFault =>
                  rw [rightChild] at child
                  cases child
                  refine ⟨?_, first.surroundings, rfl⟩
                  simp only [List.map_cons, first.agent_eq, same.2]
              | ok born =>
                  rw [rightChild] at child
                  cases child
          | ok born =>
              rw [leftChild] at child
              cases rightChild : (turn traits right there).child with
              | error otherFault =>
                  rw [rightChild] at child
                  cases child
              | ok otherBorn =>
                  have others := induction same.2 first.surroundings
                  refine ⟨?_, others.surroundings, others.fault_eq⟩
                  simp only [List.map_cons, first.agent_eq, others.agents_eq]

end Surroundings

namespace World

/-! ## Rounds -/

section

variable {left right : World σ} (akin : left.Akin right) (leftRound rightRound : Int)

include akin

theorem played_akin : (left.played leftRound).Akin (right.played rightRound) := by
  have leftOrder := RandomSource.shuffle_map Agent.core left.agents left.random
  have rightOrder := RandomSource.shuffle_map Agent.core right.agents right.random
  rw [akin.agents_eq, akin.random_eq, rightOrder, Prod.mk.injEq] at leftOrder
  unfold played
  rw [akin.traits_eq]
  apply Surroundings.turns_akin
  · change (RandomSource.shuffle left.agents left.random).1.map Agent.core = _
    rw [akin.random_eq]
    exact leftOrder.1.symm
  · refine ⟨congrArg Board.advance akin.board_eq, ?_, ?_⟩
    · change (RandomSource.shuffle left.agents left.random).2 = _
      rw [akin.random_eq]
      exact leftOrder.2.symm
    · change left.unborn.map Agent.core = right.unborn.map Agent.core
      rw [akin.left_unborn, akin.right_unborn]

theorem everyone_akin : (left.acted leftRound).everyone.map Agent.core =
    (right.acted rightRound).everyone.map Agent.core := by
  have played := played_akin akin leftRound rightRound
  change ((left.played leftRound).agents ++ (left.played leftRound).surroundings.unborn).map
      Agent.core =
    ((right.played rightRound).agents ++
      (right.played rightRound).surroundings.unborn).map Agent.core
  rw [List.map_append, List.map_append, played.agents_eq, played.surroundings.unborn_eq]

theorem settle_akin : (left.acted leftRound).settle.agents.map Agent.core =
    (right.acted rightRound).settle.agents.map Agent.core :=
  Agent.survivors_eq (everyone_akin akin leftRound rightRound)

/-- What is measured is the same but for the ages. -/
theorem measure_akin {leftMetrics rightMetrics : RoundMetrics}
    (leftMeasured : (left.acted leftRound).measure leftRound = .ok leftMetrics)
    (rightMeasured : (right.acted rightRound).measure rightRound = .ok rightMetrics) :
    leftMetrics.timeless = rightMetrics.timeless := by
  have surroundings := (played_akin akin leftRound rightRound).surroundings
  have everyone := Agent.length_eq (everyone_akin akin leftRound rightRound)
  have settled := settle_akin akin leftRound rightRound
  have here := RoundMetrics.measure_eq_ok leftMeasured
  have there := RoundMetrics.measure_eq_ok rightMeasured
  have ripeFood : leftMetrics.ripeFood = rightMetrics.ripeFood := by
    rw [here.ripeFood_eq, there.ripeFood_eq]
    exact congrArg Board.ripeCount surroundings.board_eq
  have population : leftMetrics.population = rightMetrics.population := by
    rw [here.population_eq, there.population_eq, Agent.length_eq settled]
  have births : leftMetrics.births = rightMetrics.births := by
    rw [here.births_eq, there.births_eq]
    exact Agent.length_eq surroundings.unborn_eq
  have deaths : leftMetrics.deaths = rightMetrics.deaths := by
    rw [here.deaths_eq, there.deaths_eq, everyone, Agent.length_eq settled]
  have programLength : leftMetrics.programLength = rightMetrics.programLength := by
    have found := here.programLength_eq
    rw [Agent.programLengths_eq settled, there.programLength_eq] at found
    exact (Except.ok.inj found).symm
  have energy : leftMetrics.energy = rightMetrics.energy := by
    have found := here.energy_eq
    rw [Agent.energies_eq settled, there.energy_eq] at found
    exact (Except.ok.inj found).symm
  simp only [RoundMetrics.timeless, ripeFood, population, births, deaths, programLength,
    energy]

end

/-- What a returned round leaves around the agents. -/
theorem step_surroundings {world : World σ} {round : Int} {result : Option RoundMetrics}
    (returned : (world.step round).2 = .ok result) :
    (world.step round).1.toSurroundings =
      { (world.played round).surroundings with unborn := [] } := by
  rw [(step_returned returned).2.2, conclude_surroundings]
  rfl

theorem step_eq_none_iff {world : World σ} {round : Int} {result : Option RoundMetrics}
    (returned : (world.step round).2 = .ok result) :
    result = none ↔ (world.step round).1.agents = [] := by
  cases result with
  | none => exact iff_of_true rfl (step_diedOut returned).agents_eq
  | some metrics => exact iff_of_false (Option.some_ne_none _) (step_survivors returned).1

theorem step_akin {left right : World σ} (akin : left.Akin right)
    {leftRound rightRound : Int} {leftResult rightResult : Option RoundMetrics}
    (leftReturned : (left.step leftRound).2 = .ok leftResult)
    (rightReturned : (right.step rightRound).2 = .ok rightResult) :
    leftResult.map RoundMetrics.timeless = rightResult.map RoundMetrics.timeless ∧
      (left.step leftRound).1.Akin (right.step rightRound).1 := by
  have surroundings := (played_akin akin leftRound rightRound).surroundings
  have agents : (left.step leftRound).1.agents.map Agent.core =
      (right.step rightRound).1.agents.map Agent.core := by
    rw [(step_returned leftReturned).2.2, (step_returned rightReturned).2.2,
      conclude_agents, conclude_agents]
    exact settle_akin akin leftRound rightRound
  have nobody : leftResult = none ↔ rightResult = none := by
    rw [step_eq_none_iff leftReturned, step_eq_none_iff rightReturned,
      ← List.length_eq_zero_iff, Agent.length_eq agents, List.length_eq_zero_iff]
  refine ⟨?_, ?_⟩
  · cases leftResult with
    | none => rw [nobody.mp rfl]
    | some leftMetrics =>
        cases rightResult with
        | none => cases nobody.mpr rfl
        | some rightMetrics =>
            exact congrArg some (measure_akin akin leftRound rightRound
              (step_measured leftReturned).2.1 (step_measured rightReturned).2.1)
  · refine ⟨?_, ?_, ?_, agents, ?_, ?_⟩
    · rw [step_settings, step_settings, akin.traits_eq]
    · rw [step_surroundings leftReturned, step_surroundings rightReturned]
      exact surroundings.board_eq
    · rw [step_surroundings leftReturned, step_surroundings rightReturned]
      exact surroundings.random_eq
    · rw [step_surroundings leftReturned]
    · rw [step_surroundings rightReturned]

end World

/-! ## Round after round -/

/-- A call for a round, before which the first agents are told whether they mean to
reproduce. -/
structure Prompt where
  wills : List Bool
  round : Int

def Agent.resolve : List Bool → List Agent → List Agent
  | willing :: wills, agent :: agents => { agent with willing } :: resolve wills agents
  | _, agents => agents

omit [RandomSource σ] in
theorem Agent.resolve_core (wills : List Bool) (agents : List Agent) :
    (resolve wills agents).map core = agents.map core := by
  induction wills generalizing agents with
  | nil => cases agents <;> rfl
  | cons willing wills induction =>
      cases agents with
      | nil => rfl
      | cons agent agents =>
          rw [resolve, List.map_cons, List.map_cons, induction]
          rfl

namespace World

def answer (prompt : Prompt) (world : World σ) : World σ × Except Fault (Option RoundMetrics) :=
  { world with agents := Agent.resolve prompt.wills world.agents }.step prompt.round

/-- Rounds that are called for one after the other and all return. -/
inductive Answers : List Prompt → World σ → List (Option RoundMetrics) → World σ → Prop
  | done (world) : Answers [] world [] world
  | next {prompt prompts world result results last}
      (returned : (world.answer prompt).2 = .ok result)
      (rest : Answers prompts (world.answer prompt).1 results last) :
      Answers (prompt :: prompts) world (result :: results) last

theorem answer_akin {left right : World σ} (akin : left.Akin right)
    {leftPrompt rightPrompt : Prompt} {leftResult rightResult : Option RoundMetrics}
    (leftReturned : (left.answer leftPrompt).2 = .ok leftResult)
    (rightReturned : (right.answer rightPrompt).2 = .ok rightResult) :
    leftResult.map RoundMetrics.timeless = rightResult.map RoundMetrics.timeless ∧
      (left.answer leftPrompt).1.Akin (right.answer rightPrompt).1 := by
  apply step_akin _ leftReturned rightReturned
  refine { akin with agents_eq := ?_ }
  rw [Agent.resolve_core, Agent.resolve_core, akin.agents_eq]

theorem Answers.akin {left right leftLast rightLast : World σ} (akin : left.Akin right)
    {leftPrompts rightPrompts : List Prompt}
    (lengths : leftPrompts.length = rightPrompts.length)
    {leftResults rightResults : List (Option RoundMetrics)}
    (leftAnswers : Answers leftPrompts left leftResults leftLast)
    (rightAnswers : Answers rightPrompts right rightResults rightLast) :
    leftResults.map (Option.map RoundMetrics.timeless) =
        rightResults.map (Option.map RoundMetrics.timeless) ∧
      leftLast.Akin rightLast := by
  induction leftAnswers generalizing right rightPrompts rightResults with
  | done world =>
      cases rightAnswers with
      | done right => exact ⟨rfl, akin⟩
      | next returned rest => cases lengths
  | next leftReturned leftRest induction =>
      cases rightAnswers with
      | done right => cases lengths
      | next rightReturned rightRest =>
          rcases answer_akin akin leftReturned rightReturned with ⟨results, later⟩
          rcases induction later (Nat.succ.inj lengths) rightRest with ⟨others, last⟩
          refine ⟨?_, last⟩
          rw [List.map_cons, List.map_cons, results, others]

/-- Worlds that agree in what agents act by go on alike, whatever the rounds are numbered
and whatever the agents are told to want before each of them. -/
theorem rounds_akin {left right : World σ} (akin : left.Akin right) :
    (∀ leftRound rightRound leftResult rightResult,
      (left.step leftRound).2 = .ok leftResult →
      (right.step rightRound).2 = .ok rightResult →
      leftResult.map RoundMetrics.timeless = rightResult.map RoundMetrics.timeless ∧
        (left.step leftRound).1.Akin (right.step rightRound).1) ∧
    ∀ leftPrompts rightPrompts leftResults rightResults leftLast rightLast,
      leftPrompts.length = rightPrompts.length →
      Answers leftPrompts left leftResults leftLast →
      Answers rightPrompts right rightResults rightLast →
      leftResults.map (Option.map RoundMetrics.timeless) =
          rightResults.map (Option.map RoundMetrics.timeless) ∧
        leftLast.Akin rightLast := by
  refine ⟨?_, ?_⟩
  · intro leftRound rightRound leftResult rightResult leftReturned rightReturned
    exact step_akin akin leftReturned rightReturned
  · intro leftPrompts rightPrompts leftResults rightResults leftLast rightLast lengths
    exact Answers.akin akin lengths

/-- The settlers with other numbers, ages and ancestors, and of another will. -/
def strangers : World Zeros :=
  { settlers with
    agents := settlers.agents.map fun agent =>
      { agent with
        id := agent.id + 40
        age := 9
        generation := 3
        willing := !agent.willing }
    nextId := 77
    round := 5 }

theorem strangers_answer :
    settlers.Akin strangers ∧
      ∃ leftResults rightResults leftLast rightLast,
        Answers [⟨[false, true], 1⟩, ⟨[], 2⟩] settlers leftResults leftLast ∧
        Answers [⟨[], 7⟩, ⟨[false, false, true], -3⟩] strangers rightResults rightLast ∧
        leftResults.map (Option.map RoundMetrics.timeless) =
          rightResults.map (Option.map RoundMetrics.timeless) ∧
        leftLast.Akin rightLast := by
  have akin : settlers.Akin strangers := ⟨rfl, rfl, rfl, by decide +kernel, rfl, rfl⟩
  have leftFirst : ∃ result, (settlers.answer ⟨[false, true], 1⟩).2 = .ok result :=
    exists_of_isOk (by decide +kernel)
  have leftSecond : ∃ result,
      ((settlers.answer ⟨[false, true], 1⟩).1.answer ⟨[], 2⟩).2 = .ok result :=
    exists_of_isOk (by decide +kernel)
  have rightFirst : ∃ result, (strangers.answer ⟨[], 7⟩).2 = .ok result :=
    exists_of_isOk (by decide +kernel)
  have rightSecond : ∃ result,
      ((strangers.answer ⟨[], 7⟩).1.answer ⟨[false, false, true], -3⟩).2 = .ok result :=
    exists_of_isOk (by decide +kernel)
  rcases leftFirst with ⟨leftOne, leftFirst⟩
  rcases leftSecond with ⟨leftTwo, leftSecond⟩
  rcases rightFirst with ⟨rightOne, rightFirst⟩
  rcases rightSecond with ⟨rightTwo, rightSecond⟩
  have left := Answers.next leftFirst (.next leftSecond (.done _))
  have right := Answers.next rightFirst (.next rightSecond (.done _))
  refine ⟨akin, _, _, _, _, left, right, (rounds_akin akin).2 _ _ _ _ _ _ ?_ left right⟩
  rfl

end World

end Foragers
