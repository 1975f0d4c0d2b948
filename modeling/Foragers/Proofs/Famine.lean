import Foragers.Proofs.Chronicle
import Foragers.Proofs.Course
import Foragers.Proofs.Ledger
import Foragers.Proofs.Regrowth
import Foragers.Proofs.Safety

/-! # Famine

Where nothing grows, everyone gets poorer in every round, and a child has no more than
its parent had. So what a founder began with tells how long anybody can live at most.
-/

namespace Foragers

/-! ## Boards without food -/

namespace Board

/-- No cell of the board has food, now or later. -/
def Barren (board : Board) : Prop :=
  ∀ position, (board.cellAt position).kind = .empty

namespace Barren

variable {board : Board}

theorem consume (barren : board.Barren) (target : Position) :
    (board.consume target).2 = board := by
  have nothing : (board.cellAt target).hasFood = false := by
    rw [Cell.hasFood, barren target]
    rfl
  rw [Board.consume, nothing]
  rfl

theorem advance (barren : board.Barren) : board.advance.Barren := by
  intro position
  rw [cellAt_advance, ((Cell.SameGrowth.refl _).grow).kind_eq]
  exact barren position

end Barren

/-- Two cells where nothing grows. -/
def desert : Board where
  width := 2
  height := 1
  cells := #v[.empty, .empty]
  ripeCount := 0
  width_pos := Nat.two_pos
  height_pos := Nat.one_pos

end Board

theorem Scene.run_board_of_barren (program : Program) {scene : Scene}
    (barren : scene.board.Barren) : (run program scene).1.board = scene.board := by
  apply run_preserves (fun later => later.board = scene.board) _ _ _ program rfl
  · intro later position same
    rw [visit, same]
    exact barren.consume _
  · intro later change same
    exact same
  · intro later cost same
    exact same

variable {σ : Type} {settings : Settings} {rounds : Nat}

/-! ## Agents and worlds that run out of energy -/

/-- Settings that bound the time for which a founder can live, and thereby every number
that a population can reach until then. -/
structure Settings.Scarce (settings : Settings) : Prop where
  loaded : settings.Loaded
  cost_pos : 1 ≤ settings.roundCost
  energy_exact : settings.initialEnergy ≤ 2 ^ 53
  length_lt : settings.initialProgram.length + settings.initialEnergy / settings.roundCost <
    Binary64.limit

/-- What an agent can be like after a number of rounds without food. -/
structure Agent.Waning (settings : Settings) (rounds : Nat) (agent : Agent) : Prop where
  energy_le : agent.energy ≤ settings.initialEnergy - rounds * settings.roundCost
  age_nonneg : 0 ≤ agent.age
  age_le : agent.age ≤ rounds
  length_le : agent.program.length ≤ settings.initialProgram.length + rounds

namespace Agent.Waning

variable {agent : Agent}

theorem energy_exact (waning : agent.Waning settings rounds) (scarce : settings.Scarce) :
    agent.energy ≤ 2 ^ 53 := by
  have energyLe := waning.energy_le
  have initially := scarce.energy_exact
  have spent : 0 ≤ (rounds : Int) * settings.roundCost :=
    Int.mul_nonneg (Int.natCast_nonneg rounds) (Int.le_of_lt scarce.cost_pos)
  omega

theorem rounds_le (waning : agent.Waning settings rounds) (scarce : settings.Scarce)
    (alive : agent.alive = true) :
    (rounds : Int) ≤ settings.initialEnergy / settings.roundCost := by
  have nonneg : 0 ≤ agent.energy := of_decide_eq_true alive
  have energyLe := waning.energy_le
  have costPos := scarce.cost_pos
  apply Int.le_ediv_of_mul_le (by omega)
  omega

/-- Nobody who is alive is too large to be measured. -/
theorem not_oversized (waning : agent.Waning settings rounds) (scarce : settings.Scarce)
    (alive : agent.alive = true) : ¬agent.Oversized := by
  have limit := Binary64.two_pow_lt_limit
  have roundsLe := waning.rounds_le scarce alive
  rintro (heavy | old | long)
  · have exact := waning.energy_exact scarce
    omega
  · have ageLe := waning.age_le
    have initially := scarce.energy_exact
    have quotientLe : settings.initialEnergy / settings.roundCost ≤ settings.initialEnergy :=
      Int.ediv_le_self _ (scarce.loaded.valid (.count .initialEnergy))
    omega
  · have lengthLe := waning.length_le
    have lengthLt := scarce.length_lt
    omega

end Agent.Waning

variable [RandomSource σ]

/-! ## Turns -/

theorem Agent.Waning.liveRound {agent : Agent} {board : Board}
    (waning : agent.Waning settings rounds) (barren : board.Barren) (random : σ) :
    (agent.liveRound settings.traits board random).agent.Waning settings (rounds + 1) := by
  have energy := agent.liveRound_energy settings.traits board random
  have boardEq : (agent.liveRound settings.traits board random).board = board :=
    Scene.run_board_of_barren agent.program barren
  have cost : settings.traits.roundCost = settings.roundCost := rfl
  rw [boardEq, cost] at energy
  constructor
  case energy_le =>
    have energyLe := waning.energy_le
    rw [Int.natCast_succ, Int.add_mul, Int.one_mul]
    omega
  case age_nonneg =>
    have ageNonneg := waning.age_nonneg
    change 0 ≤ agent.age + 1
    omega
  case age_le =>
    have ageLe := waning.age_le
    change agent.age + 1 ≤ _
    omega
  case length_le => exact Nat.le_succ_of_le waning.length_le

namespace Surroundings

theorem turn_board_of_barren (traits : Traits) (agent : Agent) {surroundings : Surroundings σ}
    (barren : surroundings.board.Barren) :
    (turn traits agent surroundings).surroundings.board = surroundings.board := by
  rw [(turn_bred traits agent surroundings).board_eq]
  exact Scene.run_board_of_barren agent.program barren

/-- What a parent has left is shared with its child, so neither of them has more. -/
theorem turn_waning (scarce : settings.Scarce) {agent : Agent} {surroundings : Surroundings σ}
    (barren : surroundings.board.Barren) (waning : agent.Waning settings rounds) :
    (turn settings.traits agent surroundings).agent.Waning settings (rounds + 1) ∧
      ∀ child ∈ Agent.newborns (turn settings.traits agent surroundings).child,
        child.Waning settings (rounds + 1) := by
  have lived := waning.liveRound barren surroundings.random
  have bred := turn_bred settings.traits agent surroundings
  generalize turn settings.traits agent surroundings = taken at bred ⊢
  cases bred with
  | idle unable => exact ⟨lived, List.forall_mem_nil _⟩
  | failed able fault later cause => exact ⟨lived, List.forall_mem_nil _⟩
  | bore able program later mutated share shared child offspring =>
      have energyLe := lived.energy_le
      have threshold : 0 ≤ settings.traits.reproductionThreshold :=
        scarce.loaded.valid (.count .reproductionThreshold)
      have isFraction := scarce.loaded.valid (.fraction .energyFraction)
      simp only [Agent.canReproduce, Bool.and_eq_true, decide_eq_true_eq] at able
      rcases Agent.energyShare_within (Int.le_trans threshold able.2)
        (lived.energy_exact scarce) isFraction shared with ⟨shareNonneg, shareLe⟩
      refine ⟨{ lived with energy_le := ?_ }, fun born member => ?_⟩
      · exact Int.le_trans (Int.sub_le_self _ shareNonneg) energyLe
      · rw [List.mem_singleton.mp member, offspring]
        constructor
        case energy_le => exact Int.le_trans shareLe energyLe
        case age_nonneg => exact Int.le_refl 0
        case age_le => exact Int.natCast_nonneg _
        case length_le =>
          have grown : program.length ≤ agent.program.length + 1 :=
            (Program.mutate_edited mutated).length_le
          exact Nat.le_trans grown (Nat.succ_le_succ waning.length_le)

/-- Nobody has enough energy left to meet a fault. -/
theorem Acts.waning {agents : List Agent} {surroundings : Surroundings σ}
    {occasions : List (Occasion σ)} {played : Turns σ}
    (acts : Acts settings.traits agents surroundings occasions played)
    (scarce : settings.Scarce) (barren : surroundings.board.Barren)
    (waning : ∀ agent ∈ agents, agent.Waning settings rounds) :
    played.fault = none ∧ played.surroundings.board = surroundings.board ∧
      (∀ agent ∈ played.agents, agent.Waning settings (rounds + 1)) ∧
      ∀ child ∈ occasions.flatMap (Occasion.newborns settings.traits),
        child.Waning settings (rounds + 1) := by
  induction acts with
  | done surroundings => exact ⟨rfl, rfl, List.forall_mem_nil _, List.forall_mem_nil _⟩
  | @stopped agent waiting surroundings fault failing =>
      rcases List.forall_mem_cons.mp waning with ⟨acting, behind⟩
      -- Only an energy beyond the range of binary64 could make a turn fail.
      have exact := (turn_waning scarce barren acting).1.energy_exact scarce
      have large := (turn_eq_error scarce.loaded failing).2
      have limit := Binary64.two_pow_lt_limit
      omega
  | @next agent rest surroundings child later played taken others induction =>
      rcases List.forall_mem_cons.mp waning with ⟨acting, behind⟩
      have first := turn_waning scarce barren acting
      have board := turn_board_of_barren settings.traits agent barren
      rw [← board] at barren
      rcases induction barren behind with ⟨done, boardThere, left, born⟩
      rw [List.flatMap_cons]
      exact ⟨done, boardThere.trans board, List.forall_mem_cons.mpr ⟨first.1, left⟩,
        List.forall_mem_append.mpr ⟨first.2, born⟩⟩

end Surroundings

namespace World

/-! ## Rounds -/

/-- What a world can be like after a number of rounds without food. -/
structure Waning (settings : Settings) (rounds : Nat) (world : World σ) : Prop where
  settings_eq : world.settings = settings
  barren : world.board.Barren
  unborn_eq : world.unborn = []
  agents : ∀ agent ∈ world.agents, agent.Waning settings rounds

namespace Waning

variable {world : World σ}

theorem create {board : Board} (barren : board.Barren) (random : σ) :
    Waning settings 0 (create settings board random) where
  settings_eq := rfl
  barren := barren
  unborn_eq := rfl
  agents := by
    apply forall_mem_populate
    intro id random
    constructor
    case energy_le => simp [Agent.spawn]
    case age_nonneg => exact Int.le_refl 0
    case age_le => exact Int.le_refl 0
    case length_le => exact Nat.le_refl _

/-- A round is played to its end, and all who lived in it lost energy. -/
theorem acted (waning : Waning settings rounds world) (scarce : settings.Scarce)
    (round : Int) :
    (world.played round).fault = none ∧ (world.acted round).board.Barren ∧
      ∀ agent ∈ (world.acted round).everyone, agent.Waning settings (rounds + 1) := by
  have acts := world.acts round
  have order := world.beginRound_perm round
  have barren : (world.beginRound round).board.Barren := waning.barren.advance
  rw [waning.settings_eq] at acts
  rcases acts.waning scarce barren fun agent member =>
    waning.agents agent (order.mem_iff.mp member) with ⟨done, board, left, born⟩
  refine ⟨done, ?_, ?_⟩
  · change (world.played round).surroundings.board.Barren
    rw [board]
    exact barren
  · rw [acted_everyone, births, waning.unborn_eq, waning.settings_eq]
    exact List.forall_mem_append.mpr ⟨left, born⟩

theorem step (waning : Waning settings rounds world) (scarce : settings.Scarce)
    (running : world.status = .running) (round : Int) :
    (world.step round).2.isOk = true ∧ Waning settings (rounds + 1) (world.step round).1 := by
  rcases waning.acted scarce round with ⟨done, barren, everyone⟩
  rw [step_of_done running done]
  refine ⟨?_, ⟨?_, ?_, ?_, ?_⟩⟩
  · apply conclude_isOk
    · exact fun agent member => (everyone agent member).age_nonneg
    · exact fun agent member => (everyone agent member).not_oversized scarce
  · rw [conclude_settings]
    exact waning.settings_eq
  · rw [conclude_surroundings]
    exact barren
  · rw [conclude_surroundings]
  · rw [conclude_agents]
    intro agent member
    exact everyone agent (List.mem_of_mem_filter member)

/-! ## Runs -/

theorem afterRounds (waning : Waning settings 0 world) (scarce : settings.Scarce)
    {count : Nat} (running : (world.afterRounds count).status = .running) :
    Waning settings count (world.afterRounds count) := by
  induction count with
  | zero => exact waning
  | succ count induction =>
      rw [afterRounds_succ] at running ⊢
      have earlier : (world.afterRounds count).status = .running := by
        by_contra ended
        rw [World.step, if_neg ended] at running
        exact ended running
      exact ((induction earlier).step scarce earlier _).2

theorem undisturbed (waning : Waning settings 0 world) (scarce : settings.Scarce)
    (count : Nat) : world.Undisturbed count := by
  intro index below running
  exact ((waning.afterRounds scarce running).step scarce running _).1

/-- Whoever survives a round had the energy for all rounds up to it. -/
theorem length_le (waning : Waning settings 0 world) (scarce : settings.Scarce)
    (running : world.status = .running) {metrics : List RoundMetrics}
    (measures : Measures metrics world) :
    (metrics.length : Int) ≤ settings.initialEnergy / settings.roundCost := by
  by_cases empty : metrics = []
  · subst empty
    have energyNonneg : 0 ≤ settings.initialEnergy :=
      scarce.loaded.valid (.count .initialEnergy)
    exact Int.ediv_nonneg energyNonneg (Int.le_of_lt scarce.cost_pos)
  · have coherent := measures.coherent empty True
    have last := measures.running running (Nat.le_refl _)
    have extinct : (world.afterRounds metrics.length).status.extinctRound? = none := by
      rw [last]
      rfl
    rcases coherent.alive extinct trivial with ⟨somebody, energies, _⟩
    rcases List.exists_mem_of_ne_nil _ somebody with ⟨agent, member⟩
    have survivor := (waning.afterRounds scarce last).agents agent member
    exact survivor.rounds_le scarce (decide_eq_true (energies agent member))

end Waning

/-- On a board without food a population dies out, whatever its programs are and however it
reproduces and mutates, and whatever is drawn. No round fails, and at the end of each round
before the last one nobody has more than what a founder has left when it paid for all rounds
so far. Somebody with no energy left is still alive, so the last round comes at most one
after those that a founder can pay for.

A mean of lengths around 2 ^ 1024 is beyond binary64, so the initial program must be shorter
than that by one instruction for each round, as every program is that fits in a memory. -/
theorem extinct_of_barren {settings : Settings} (loaded : settings.Loaded)
    (costPos : 1 ≤ settings.roundCost) (energyExact : settings.initialEnergy ≤ 2 ^ 53)
    (lengthLt : settings.initialProgram.length +
      settings.initialEnergy / settings.roundCost < Binary64.limit)
    (enough : settings.initialEnergy / settings.roundCost < settings.rounds)
    {board : Board} (barren : board.Barren) (random : σ) :
    let world := World.create settings board random
    ∃ last : Nat, 1 ≤ last ∧ (last : Int) ≤ settings.initialEnergy / settings.roundCost + 1 ∧
      world.play.world = world.afterRounds last ∧
      world.play.world.status = .extinct last ∧
      world.play.ending =
        .ok { status := .extinct last, roundsCompleted := last, metrics := none } ∧
      ∀ round < last, (world.afterRounds round).status = .running ∧
        ∀ agent ∈ (world.afterRounds round).agents,
          agent.energy ≤ settings.initialEnergy - round * settings.roundCost := by
  intro world
  have scarce : settings.Scarce := ⟨loaded, costPos, energyExact, lengthLt⟩
  have waning : Waning settings 0 world := .create barren random
  have running : world.status = .running := rfl
  have undisturbed := waning.undisturbed scarce (world.settings.rounds - world.round).toNat
  rcases play_trace running loaded.printInterval_pos undisturbed with
    ⟨metrics, measures, _, _, _, ends, _⟩
  have lengthLe := waning.length_le scarce running measures
  have number : world.round + metrics.length + 1 = (metrics.length + 1 : Nat) := by
    change 0 + (metrics.length : Int) + 1 = _
    rw [Int.zero_add, Int.natCast_succ]
  rcases ends with extinct | ⟨completed, _⟩
  · have playEq := extinct.last_eq
    have endingEq := extinct.ending_eq
    have died := step_diedOut extinct.nobody
    have before := (measures.outlived running).round_eq
    rw [number] at playEq endingEq died
    refine ⟨metrics.length + 1, Nat.succ_pos _, ?_, ?_, ?_, endingEq, ?_⟩
    · rw [Int.natCast_succ]
      exact Int.add_le_add_right lengthLe 1
    · rw [playEq, afterRounds_succ, before, number]
    · rw [playEq, died.status_eq]
    · intro round earlier
      have within := measures.running running (Nat.le_of_lt_succ earlier)
      have left := waning.afterRounds scarce within
      exact ⟨within, fun agent member => (left.agents agent member).energy_le⟩
  -- There were more rounds than anybody could survive.
  · have all := completed.all
    have rounds : (world.settings.rounds - world.round).toNat = settings.rounds.toNat := by
      change (settings.rounds - 0).toNat = _
      rw [Int.sub_zero]
    omega

/-- Raw values for two founders who can pay for five rounds. -/
def doomedEntries : List (String × Value) :=
  assignValue ("round_cost", .integer 4) Chronicle.prolificEntries

def doomed : Settings :=
  { Chronicle.prolific with roundCost := 4 }

/-- Both founders have a child in the first round, which leaves nobody enough for a third. -/
theorem doomed_extinct :
    Settings.Loaded doomed ∧ Board.desert.Barren ∧
      (create doomed .desert Zeros.mk).play.world.status = .extinct 3 ∧
      ∃ last : Nat, (last : Int) ≤ 6 ∧
        (create doomed .desert Zeros.mk).play.world.status = .extinct last := by
  have distinct : (doomedEntries.map Prod.fst).Nodup := by decide +kernel
  have accepted : Settings.ofMapping Parameter.all doomedEntries = .ok doomed := by
    decide +kernel
  have loaded : Settings.Loaded doomed := .ofMapping distinct accepted
  have barren : Board.desert.Barren := by
    have cells : ∀ cell ∈ Board.desert.cells.toList, cell.kind = .empty := by decide
    exact fun position => cells _ (Board.desert.cellAt_mem position)
  have lengthLt : doomed.initialProgram.length + doomed.initialEnergy / doomed.roundCost <
      Binary64.limit := by
    have limit := Binary64.two_pow_lt_limit
    have small : doomed.initialProgram.length + doomed.initialEnergy / doomed.roundCost = 8 := by
      decide
    omega
  have died : (create doomed .desert Zeros.mk).play.world.status = .extinct 3 := by
    decide +kernel
  rcases extinct_of_barren loaded (by decide) (by decide) lengthLt (by decide) barren
    Zeros.mk with ⟨last, _, lastLe, _, extinct, _⟩
  exact ⟨loaded, barren, died, last, lastLe, extinct⟩

end World

end Foragers
