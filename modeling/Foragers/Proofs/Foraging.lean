import Foragers.Proofs.Certainty
import Foragers.Proofs.Course
import Foragers.Proofs.Regrowth
import Foragers.Proofs.Safety
import Mathlib.Algebra.Ring.Divisibility.Basic

/-! # Foraging

A body that goes straight ahead on a board full of food finds food in every round, as
long as a lap around the board takes as many rounds as food takes to ripen.
-/

namespace Foragers

namespace Board

/-! ## Straight ahead -/

/-- The number of steps straight ahead that lead back to where they began. -/
def lap (board : Board) : Heading → Nat
  | .up => board.height
  | .down => board.height
  | .right => board.width
  | .left => board.width

/-- The cell that some steps straight ahead lead to. -/
def along (board : Board) (start : Position) (heading : Heading) (steps : Int) : Position :=
  board.wrap (start.shift (steps * heading.dx) (steps * heading.dy))

variable (board : Board) (start : Position) (heading : Heading)

theorem along_eq_iff (steps others : Int) :
    board.along start heading steps = board.along start heading others ↔
      (board.lap heading : Int) ∣ steps - others := by
  have backwards (size : Int) : size ∣ -(steps - others) ↔ size ∣ steps - others :=
    Int.dvd_neg
  rw [along, along, wrap_shift_eq_iff, ← Int.sub_mul, ← Int.sub_mul]
  cases heading with
  | up => simp [lap, Heading.dx, Heading.dy, -neg_sub, backwards]
  | down => simp [lap, Heading.dx, Heading.dy]
  | right => simp [lap, Heading.dx, Heading.dy]
  | left => simp [lap, Heading.dx, Heading.dy, -neg_sub, backwards]

theorem wrap_along (steps : Int) :
    board.wrap (board.along start heading steps) = board.along start heading steps :=
  board.wrap_wrap _

theorem neighbour_along (steps : Int) :
    board.neighbour (board.along start heading steps) heading =
      board.along start heading (steps + 1) := by
  rw [neighbour, Position.ahead, along, wrap_shift_wrap, along]
  simp only [Position.shift, Int.add_mul, Int.one_mul, Int.add_assoc]

/-- What a body does to the board that goes ahead and eats once in every round. -/
def strides : Nat → List Deed
  | 0 => []
  | rounds + 1 =>
      .meal (board.along start heading (rounds + 1)) :: .growth :: strides rounds

/-- Where somebody ate so many rounds ago is where the body was then. -/
theorem along_of_roundsSinceMeal? {position : Position} {rounds since : Nat}
    (meal : board.roundsSinceMeal? position (board.strides start heading rounds) =
      some since) :
    since < rounds ∧
      board.along start heading ((rounds : Int) - since) = board.wrap position := by
  induction rounds generalizing since with
  | zero => cases meal
  | succ rounds induction =>
      rw [strides, roundsSinceMeal?] at meal
      split at meal
      · rename_i eaten
        cases meal
        rw [wrap_along] at eaten
        exact ⟨Nat.succ_pos rounds, by simpa using eaten.2⟩
      · rw [roundsSinceMeal?] at meal
        rcases Option.map_eq_some_iff.mp meal with ⟨earlier, found, sinceEq⟩
        rcases induction found with ⟨before, there⟩
        subst sinceEq
        refine ⟨Nat.succ_lt_succ before, ?_⟩
        rw [← there]
        congr 1
        omega

variable {board}

/-- The cell ahead has food on its first lap, and on every lap if food ripens meanwhile. -/
theorem hasFood_ahead {energy ripeningTime : Int}
    (full : ∀ position, board.cellAt position = .food energy ripeningTime) {rounds : Nat}
    (lap : rounds + 1 ≤ board.lap heading ∨ max 1 ripeningTime ≤ board.lap heading) :
    (board.after (.growth :: board.strides start heading rounds)).hasFood
      (board.along start heading (rounds + 1)) = true := by
  cases meal : board.roundsSinceMeal? (board.along start heading (rounds + 1))
      (board.strides start heading rounds) with
  | none =>
      have noMeal : board.roundsSinceMeal? (board.along start heading (rounds + 1))
          (.growth :: board.strides start heading rounds) = none := by
        rw [roundsSinceMeal?, meal]
        rfl
      rw [board.hasFood_after_of_noMeal _ noMeal, full]
      exact ⟨rfl, .inl rfl⟩
  | some since =>
      have mealThere : board.roundsSinceMeal? (board.along start heading (rounds + 1))
          (.growth :: board.strides start heading rounds) = some (since + 1) := by
        rw [roundsSinceMeal?, meal]
        rfl
      -- The last meal in the cell was some laps ago.
      rcases board.along_of_roundsSinceMeal? start heading meal with ⟨before, there⟩
      rw [wrap_along, along_eq_iff, dvd_sub_comm] at there
      have lapLe := Int.le_of_dvd (by omega) there
      rw [board.hasFood_after_of_meal _ mealThere, full]
      refine ⟨rfl, ?_⟩
      simp only [Cell.food]
      rcases lap with first | ripens
      · omega
      · omega

/-- A board full of food. -/
def orchard : Board where
  width := 3
  height := 2
  cells := #v[.food 5 2, .food 5 2, .food 5 2, .food 5 2, .food 5 2, .food 5 2]
  ripeCount := 6
  width_pos := Nat.succ_pos 2
  height_pos := Nat.two_pos

theorem orchard_cellAt (position : Position) : orchard.cellAt position = .food 5 2 := by
  have cells : ∀ cell ∈ orchard.cells.toList, cell = .food 5 2 := by decide
  exact cells _ (orchard.cellAt_mem position)

end Board

variable {σ : Type}

namespace World

/-- The world is running with nobody in it but one agent. -/
structure Alone (agent : Agent) (world : World σ) : Prop where
  running : world.status = .running
  agents_eq : world.agents = [agent]
  unborn_eq : world.unborn = []

/-- An agent is alone on a board full of food. It only moves, and a meal pays for a round
with one move. -/
structure Pasture (energy ripeningTime : Int) (forager : Agent) (world : World σ) : Prop
    extends Alone forager world where
  full : ∀ position, world.board.cellAt position = .food energy ripeningTime
  inside : world.board.Inside forager.position
  program_eq : forager.program = [.move]
  childless : world.settings.reproductionProbability.isZero = true
  cost_nonneg : 0 ≤ world.settings.roundCost
  profitable : world.settings.roundCost + 1 ≤ energy
  able : world.settings.roundCost ≤ forager.energy

/-- What is left of a meal after a round with one move. -/
def profit (energy : Int) (world : World σ) : Int :=
  energy - world.settings.roundCost - 1

/-- There is food ahead of a forager in each of so many rounds. -/
def Lasts (ripeningTime : Int) (forager : Agent) (world : World σ) (rounds : Nat) : Prop :=
  rounds ≤ world.board.lap forager.heading ∨
    max 1 ripeningTime ≤ world.board.lap forager.heading

theorem Lasts.mono {ripeningTime : Int} {forager : Agent} {world : World σ}
    {rounds more : Nat} (lasts : world.Lasts ripeningTime forager more)
    (fewer : rounds ≤ more) : world.Lasts ripeningTime forager rounds :=
  lasts.imp_left fewer.trans

/-- What some rounds made of a forager and of its world. -/
structure Foraged (energy : Int) (forager : Agent) (first : World σ) (rounds : Nat)
    (agent : Agent) (world : World σ) : Prop extends Alone agent world where
  settings_eq : world.settings = first.settings
  board_eq : world.board =
    first.board.after (first.board.strides forager.position forager.heading rounds)
  program_eq : agent.program = forager.program
  heading_eq : agent.heading = forager.heading
  position_eq : agent.position = first.board.along forager.position forager.heading rounds
  energy_eq : agent.energy = forager.energy + rounds * first.profit energy
  age_eq : agent.age = forager.age + rounds

section

variable {energy ripeningTime : Int} {forager agent : Agent} {first world : World σ}
  {rounds : Nat}

theorem Pasture.profit_nonneg (pasture : Pasture energy ripeningTime forager first) :
    0 ≤ first.profit energy := by
  have profitable := pasture.profitable
  rw [profit]
  omega

theorem Pasture.foraged (pasture : Pasture energy ripeningTime forager first) :
    Foraged energy forager first 0 forager first := by
  constructor
  case toAlone => exact pasture.toAlone
  case position_eq =>
    rw [Board.along, Int.natCast_zero, Int.zero_mul, Int.zero_mul, Position.shift_zero,
      pasture.inside.wrap_eq]
  case energy_eq => simp
  case age_eq => simp
  all_goals rfl

/-- Nobody gets poorer on a pasture. -/
theorem Foraged.energy_ge (foraged : Foraged energy forager first rounds agent world)
    (pasture : Pasture energy ripeningTime forager first) : forager.energy ≤ agent.energy := by
  rw [foraged.energy_eq]
  exact Int.le_add_of_nonneg_right
    (Int.mul_nonneg (Int.natCast_nonneg rounds) pasture.profit_nonneg)

theorem Foraged.childless (foraged : Foraged energy forager first rounds agent world)
    (pasture : Pasture energy ripeningTime forager first) :
    world.settings.reproductionProbability.isZero = true := by
  rw [foraged.settings_eq]
  exact pasture.childless

end

end World

variable [RandomSource σ]

/-! ## One round -/

/-- A mover that can pay for the round eats what is ahead of it. -/
theorem Agent.liveRound_of_food {traits : Traits} {agent : Agent} {board : Board}
    (program : agent.program = [.move]) (able : traits.roundCost ≤ agent.energy)
    (food : board.hasFood (board.neighbour agent.position agent.heading) = true)
    (random : σ) :
    let target := board.neighbour agent.position agent.heading
    let acted := agent.liveRound traits board random
    acted.board = (board.consume target).2 ∧ acted.agent.position = target ∧
      acted.agent.heading = agent.heading ∧
      acted.agent.energy =
        agent.energy - traits.roundCost + (board.cellAt target).energy - 1 := by
  intro target acted
  have run (body : Body) (paid : 0 ≤ body.energy) : Scene.run [.move] ⟨body, board⟩ =
      ((Scene.move ⟨body, board⟩).pay 1, 1) := by
    rw [Scene.run, if_pos paid]
    rfl
  simp only [acted, liveRound, program]
  rw [run _ (Int.sub_nonneg_of_le able), Scene.move, Scene.visit_of_food food]
  exact ⟨rfl, rfl, rfl, rfl⟩

namespace World

/-- What the turn of one agent in a round comes to when nobody acts before it. -/
def firstTurn (agent : Agent) (world : World σ) (round : Int) : Agent.Acted σ :=
  agent.liveRound world.settings.traits world.board.advance (world.beginRound round).random

namespace Alone

variable {agent : Agent} {world : World σ} {round : Int}

theorem played_eq (alone : Alone agent world)
    (childless : world.settings.reproductionProbability.isZero = true) :
    world.played round = {
      agents := [(firstTurn agent world round).agent]
      surroundings := (world.beginRound round).toSurroundings.after (firstTurn agent world round)
      fault := none } := by
  have agents : (world.beginRound round).agents = [agent] := by
    have perm := world.beginRound_perm round
    rw [alone.agents_eq] at perm
    exact List.perm_singleton.mp perm
  rw [played, agents, Surroundings.turns,
    Surroundings.turn_of_unable (Agent.not_able_of_isZero childless _ _ _)]
  rfl

theorem everyone_eq (alone : Alone agent world)
    (childless : world.settings.reproductionProbability.isZero = true) :
    (world.acted round).everyone = [(firstTurn agent world round).agent] := by
  rw [acted_everyone, alone.played_eq childless, alone.unborn_eq, births_eq_nil childless]
  rfl

theorem step_eq (alone : Alone agent world)
    (childless : world.settings.reproductionProbability.isZero = true) :
    world.step round = (world.acted round).conclude round := by
  apply step_of_done alone.running
  rw [alone.played_eq childless]

/-- Without reproduction an agent stays alone as long as it survives, even when a round
could not be measured. -/
theorem step (alone : Alone agent world)
    (childless : world.settings.reproductionProbability.isZero = true)
    (survives : (firstTurn agent world round).agent.alive = true) :
    Alone (firstTurn agent world round).agent (world.step round).1 ∧
      (world.step round).1.board = (firstTurn agent world round).board := by
  have left : (world.acted round).everyone.filter Agent.alive =
      [(firstTurn agent world round).agent] := by
    rw [alone.everyone_eq childless, List.filter_singleton, survives]
    rfl
  have somebody : (world.acted round).settle.agents ≠ [] := by
    rw [settle, left]
    exact List.cons_ne_nil _ _
  have board : (world.acted round).board = (firstTurn agent world round).board := by
    change (world.played round).surroundings.board = _
    rw [alone.played_eq childless]
    rfl
  rw [alone.step_eq childless]
  refine ⟨⟨?_, ?_, ?_⟩, ?_⟩
  · rw [conclude_status somebody]
    exact alone.running
  · rw [conclude_agents, left]
  · rw [conclude_surroundings]
  · rw [conclude_surroundings, board]

/-- A round that one agent lives through fails only when that agent is too large. -/
theorem step_isOk (alone : Alone agent world)
    (childless : world.settings.reproductionProbability.isZero = true)
    (grown : 0 ≤ (firstTurn agent world round).agent.age)
    (small : ¬(firstTurn agent world round).agent.Oversized) :
    (world.step round).2.isOk = true := by
  rw [alone.step_eq childless]
  apply conclude_isOk
  · rw [alone.everyone_eq childless, List.forall_mem_singleton]
    exact grown
  · rw [alone.everyone_eq childless, List.forall_mem_singleton]
    exact fun _ => small

end Alone

namespace Foraged

variable {energy ripeningTime : Int} {forager agent : Agent} {first world : World σ}
  {rounds : Nat}

/-- A round takes a forager one cell further, to another meal. -/
theorem turn (foraged : Foraged energy forager first rounds agent world)
    (pasture : Pasture energy ripeningTime forager first)
    (lasts : first.Lasts ripeningTime forager (rounds + 1)) (round : Int) :
    let ahead := first.board.along forager.position forager.heading (rounds + 1 : Nat)
    let taken := firstTurn agent world round
    taken.board =
        first.board.after (first.board.strides forager.position forager.heading (rounds + 1)) ∧
      taken.agent.position = ahead ∧ taken.agent.heading = forager.heading ∧
      taken.agent.energy = forager.energy + (rounds + 1 : Nat) * first.profit energy := by
  intro ahead taken
  have cost : world.settings.traits.roundCost = first.settings.roundCost := by
    rw [foraged.settings_eq]
    rfl
  have able : world.settings.traits.roundCost ≤ agent.energy := by
    rw [cost]
    exact Int.le_trans pasture.able (foraged.energy_ge pasture)
  have board : world.board.advance = first.board.after
      (.growth :: first.board.strides forager.position forager.heading rounds) := by
    rw [foraged.board_eq]
    rfl
  have target : world.board.advance.neighbour agent.position agent.heading = ahead := by
    rw [board, Board.neighbour, Board.wrap_after, foraged.position_eq, foraged.heading_eq]
    exact first.board.neighbour_along _ _ _
  have food : world.board.advance.hasFood ahead = true := by
    rw [board]
    exact Board.hasFood_ahead _ _ pasture.full lasts
  have meal : (world.board.advance.cellAt ahead).energy = energy := by
    rw [board, (first.board.sameGrowth_after _ _).energy_eq, pasture.full]
    rfl
  rw [← target] at food
  have program := foraged.program_eq.trans pasture.program_eq
  rcases Agent.liveRound_of_food program able food (world.beginRound round).random with
    ⟨boardEq, positionEq, headingEq, energyEq⟩
  rw [target] at boardEq positionEq energyEq
  refine ⟨?_, positionEq, headingEq.trans foraged.heading_eq, ?_⟩
  · apply boardEq.trans
    rw [board]
    rfl
  · have total : taken.agent.energy = agent.energy + first.profit energy := by
      rw [meal, cost] at energyEq
      rw [profit]
      exact energyEq.trans (by omega)
    rw [total, foraged.energy_eq, Int.natCast_succ, Int.add_mul, Int.one_mul, Int.add_assoc]

theorem survives (foraged : Foraged energy forager first rounds agent world)
    (pasture : Pasture energy ripeningTime forager first)
    (lasts : first.Lasts ripeningTime forager (rounds + 1)) (round : Int) :
    (firstTurn agent world round).agent.alive = true := by
  rcases foraged.turn pasture lasts round with ⟨_, _, _, energyEq⟩
  have gained := Int.mul_nonneg (Int.natCast_nonneg (rounds + 1)) pasture.profit_nonneg
  have able := pasture.able
  have cost := pasture.cost_nonneg
  rw [Agent.alive, energyEq, decide_eq_true_eq]
  omega

theorem step (foraged : Foraged energy forager first rounds agent world)
    (pasture : Pasture energy ripeningTime forager first)
    (lasts : first.Lasts ripeningTime forager (rounds + 1)) (round : Int) :
    Foraged energy forager first (rounds + 1) (firstTurn agent world round).agent
      (world.step round).1 := by
  rcases foraged.toAlone.step (foraged.childless pasture)
    (foraged.survives pasture lasts round) with ⟨alone, boardThere⟩
  rcases foraged.turn pasture lasts round with ⟨boardEq, positionEq, headingEq, energyEq⟩
  constructor
  case toAlone => exact alone
  case settings_eq => rw [step_settings, foraged.settings_eq]
  case board_eq => rw [boardThere, boardEq]
  case program_eq => exact foraged.program_eq
  case heading_eq => exact headingEq
  case position_eq => exact positionEq
  case energy_eq => exact energyEq
  case age_eq =>
    change agent.age + 1 = _
    rw [foraged.age_eq, Int.natCast_succ, Int.add_assoc]

/-- A round fails only when it takes the energy or the age of a forager beyond the range of
binary64. -/
theorem step_isOk (foraged : Foraged energy forager first rounds agent world)
    (pasture : Pasture energy ripeningTime forager first)
    (lasts : first.Lasts ripeningTime forager (rounds + 1)) (born : 0 ≤ forager.age)
    (light : forager.energy + (rounds + 1 : Nat) * first.profit energy < Binary64.limit)
    (young : forager.age + (rounds + 1 : Nat) < Binary64.limit) (round : Int) :
    (world.step round).2.isOk = true := by
  have later := foraged.step pasture lasts round
  have grown : 0 ≤ (firstTurn agent world round).agent.age := by
    rw [later.age_eq]
    exact Int.add_nonneg born (Int.natCast_nonneg _)
  have small : ¬(firstTurn agent world round).agent.Oversized := by
    have short : (1 : Nat) < Binary64.limit := Nat.lt_trans (by decide) Binary64.two_pow_lt_limit
    rintro (heavy | old | long)
    · rw [later.energy_eq] at heavy
      exact Int.not_le.mpr light heavy
    · rw [later.age_eq] at old
      exact Int.not_le.mpr young old
    · rw [later.program_eq, pasture.program_eq] at long
      exact Nat.not_le.mpr short long
  exact foraged.toAlone.step_isOk (foraged.childless pasture) grown small

/-- Rounds that follow each other add up, whatever they are numbered. -/
theorem run (foraged : Foraged energy forager first rounds agent world)
    (pasture : Pasture energy ripeningTime forager first) (numbers : List Int)
    (lasts : first.Lasts ripeningTime forager (rounds + numbers.length)) :
    ∃ last, Foraged energy forager first (rounds + numbers.length) last
      (world.afterCalls (numbers.map Call.step)) := by
  induction numbers generalizing rounds agent world with
  | nil => exact ⟨agent, foraged⟩
  | cons number rest induction =>
      rw [List.length_cons, ← Nat.add_assoc, Nat.add_right_comm] at lasts ⊢
      have next := foraged.step pasture (lasts.mono (Nat.le_add_right _ _)) number
      exact induction next lasts

theorem calm (foraged : Foraged energy forager first rounds agent world)
    (pasture : Pasture energy ripeningTime forager first) (numbers : List Int)
    (lasts : first.Lasts ripeningTime forager (rounds + numbers.length))
    (born : 0 ≤ forager.age)
    (light : forager.energy + (rounds + numbers.length : Nat) * first.profit energy <
      Binary64.limit)
    (young : forager.age + (rounds + numbers.length : Nat) < Binary64.limit) :
    Calm (numbers.map Call.step) world := by
  induction numbers generalizing rounds agent world with
  | nil => trivial
  | cons number rest induction =>
      rw [List.length_cons, ← Nat.add_assoc, Nat.add_right_comm] at lasts light young
      have lastsNext := lasts.mono (Nat.le_add_right (rounds + 1) rest.length)
      have lightNext : forager.energy + (rounds + 1 : Nat) * first.profit energy <
          Binary64.limit := by
        apply Int.lt_of_le_of_lt _ light
        apply Int.add_le_add_left
        exact Int.mul_le_mul_of_nonneg_right (by omega) pasture.profit_nonneg
      have next := foraged.step pasture lastsNext number
      refine ⟨fun _ => ?_, induction next lasts light young⟩
      rw [call, isOk_map]
      exact foraged.step_isOk pasture lastsNext born lightNext (by omega) number

end Foraged

/-- A forager alone on a pasture lives on as long as its first lap lasts, and for ever if
food ripens within a lap. In each round it gets one cell further, one round older and
richer by what is left of a meal after the round and the move. No round fails as long as
its energy and its age stay within the range of binary64; the state of the world is the
same if one does. -/
theorem pasture_foraged {energy ripeningTime : Int} {forager : Agent} {world : World σ}
    (pasture : Pasture energy ripeningTime forager world) (numbers : List Int)
    (lasts : numbers.length ≤ world.board.lap forager.heading ∨
      max 1 ripeningTime ≤ world.board.lap forager.heading) :
    let rounds := numbers.length
    let profit := energy - world.settings.roundCost - 1
    let later := world.afterCalls (numbers.map Call.step)
    (∃ agent, later.agents = [agent] ∧ agent.alive = true ∧
      agent.energy = forager.energy + rounds * profit ∧
      agent.age = forager.age + rounds ∧
      agent.position = {
        x := (forager.position.x + rounds * forager.heading.dx) % world.board.width
        y := (forager.position.y + rounds * forager.heading.dy) % world.board.height }) ∧
    later.status = .running ∧
    (0 ≤ forager.age → forager.energy + rounds * profit < Binary64.limit →
      forager.age + rounds < Binary64.limit → Calm (numbers.map Call.step) world) := by
  intro rounds profit later
  have lasting : world.Lasts ripeningTime forager (0 + numbers.length) := by
    rw [Nat.zero_add]
    exact lasts
  rcases pasture.foraged.run pasture numbers lasting with ⟨agent, foraged⟩
  rw [Nat.zero_add] at foraged
  refine ⟨⟨agent, foraged.agents_eq, ?_, foraged.energy_eq, foraged.age_eq,
    foraged.position_eq⟩, foraged.running, ?_⟩
  · have cost := pasture.cost_nonneg
    have able := pasture.able
    have energyGe := foraged.energy_ge pasture
    rw [Agent.alive, decide_eq_true_eq]
    omega
  · intro born light young
    apply pasture.foraged.calm pasture numbers lasting born
    · rw [Nat.zero_add]
      exact light
    · rw [Nat.zero_add]
      exact young

/-- An agent that heads left on a board where food ripens sooner than it comes around. -/
def drifter : Agent where
  id := 0
  energy := 1
  position := ⟨2, 1⟩
  heading := .left
  program := [.move]

def drift : World Zeros :=
  { World.create { initialPopulation := 0, reproductionProbability := .zero } .orchard
      Zeros.mk with agents := [drifter] }

/-- After two laps and one more step it has eaten seven times. -/
theorem drift_foraged :
    Pasture 5 2 drifter drift ∧ (max 1 2 : Int) ≤ drift.board.lap drifter.heading ∧
      ∃ agent, (drift.afterCalls (List.replicate 7 (.step 1))).agents = [agent] ∧
        agent.energy = 22 ∧ agent.position = ⟨1, 1⟩ ∧
        Calm (List.replicate 7 (.step 1)) drift := by
  have pasture : Pasture 5 2 drifter drift := by
    constructor
    case toAlone => exact ⟨rfl, rfl, rfl⟩
    case full => exact Board.orchard_cellAt
    case inside => constructor <;> decide
    case program_eq => rfl
    all_goals decide +kernel
  have lasts : (max 1 2 : Int) ≤ drift.board.lap drifter.heading := by decide
  rcases pasture_foraged pasture (List.replicate 7 1) (.inr lasts) with
    ⟨⟨agent, agents, _, energyEq, _, positionEq⟩, _, calm⟩
  have limit := Binary64.two_pow_lt_limit
  have light : (22 : Int) < Binary64.limit := by omega
  have young : (7 : Int) < Binary64.limit := by omega
  rw [List.map_replicate] at agents calm
  exact ⟨pasture, lasts, agent, agents, energyEq, positionEq, calm (by decide) light young⟩

end World

end Foragers
