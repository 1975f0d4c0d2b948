import Foragers.Proofs.Behaviour
import Foragers.Proofs.Growth
import Foragers.Proofs.Lineage
import Foragers.Proofs.Mutation
import Foragers.Proofs.Reachable

/-! # Well-formed worlds

Nothing that happens in a world takes an agent off the board, puts a foreign
instruction into a program or changes what grows where. A program has at most one
instruction more or less than that of the parent, so its length stays near that of
the founders as far as the number of ancestors allows.

This is shown for one instruction, for a turn, for the turns of a round and for
calls, and it holds at every moment of every history.
-/

namespace Foragers

/-- An agent of a world with some settings, on a board of some size. -/
structure Agent.WellFormed (settings : Settings) (first : Board) (agent : Agent) : Prop where
  inside : first.Inside agent.position
  program_subset : agent.program ⊆ settings.instructionPool
  length_near :
    |(agent.program.length : Int) - settings.initialProgram.length| ≤ agent.generation
  age_nonneg : 0 ≤ agent.age

/-- A body on the board, which is still the same but for what is ripe. -/
structure Scene.WellFormed (first : Board) (scene : Scene) : Prop where
  inside : first.Inside scene.body.position
  grown : first.GrownFrom scene.board

namespace Scene.WellFormed

variable {first : Board} {scene : Scene}

theorem visit (wellFormed : WellFormed first scene) (position : Position) :
    WellFormed first (scene.visit (scene.board.wrap position)) where
  inside := wellFormed.grown.inside.mp (scene.board.inside_wrap position)
  grown := wellFormed.grown.consume _

theorem run (wellFormed : WellFormed first scene) (program : Program) :
    WellFormed first (Scene.run program scene).1 := by
  apply run_preserves (WellFormed first) _ _ _ program wellFormed
  · intro scene position wellFormed
    exact wellFormed.visit position
  · intro scene change wellFormed
    exact ⟨wellFormed.inside, wellFormed.grown⟩
  · intro scene cost wellFormed
    exact ⟨wellFormed.inside, wellFormed.grown⟩

end Scene.WellFormed

variable {σ : Type}

/-- The board and the children that wait. -/
structure Surroundings.WellFormed (settings : Settings) (first : Board)
    (surroundings : Surroundings σ) : Prop where
  grown : first.GrownFrom surroundings.board
  unborn : ∀ child ∈ surroundings.unborn, child.WellFormed settings first

structure World.WellFormed (settings : Settings) (first : Board) (world : World σ) :
    Prop where
  settings_eq : world.settings = settings
  surroundings : world.toSurroundings.WellFormed settings first
  agents : ∀ agent ∈ world.agents, agent.WellFormed settings first

variable {settings : Settings} {first : Board}

namespace World.WellFormed

variable {world : World σ}

theorem everyone (wellFormed : WellFormed settings first world) :
    ∀ agent ∈ world.everyone, agent.WellFormed settings first :=
  List.forall_mem_append.mpr ⟨wellFormed.agents, wellFormed.surroundings.unborn⟩

theorem joined (wellFormed : WellFormed settings first world) :
    WellFormed settings first world.joined where
  settings_eq := wellFormed.settings_eq
  surroundings := ⟨wellFormed.surroundings.grown, fun child member => by cases member⟩
  agents := wellFormed.everyone

theorem conclude (wellFormed : WellFormed settings first world) (round : Int) :
    WellFormed settings first (world.conclude round).1 := by
  constructor
  case settings_eq => rw [conclude_settings, wellFormed.settings_eq]
  case surroundings =>
    rw [conclude_surroundings]
    exact ⟨wellFormed.surroundings.grown, fun child member => by cases member⟩
  case agents =>
    rw [conclude_agents]
    intro agent member
    exact wellFormed.everyone agent (List.mem_of_mem_filter member)

theorem completed (wellFormed : WellFormed settings first world) :
    WellFormed settings first world.completed :=
  ⟨wellFormed.settings_eq, wellFormed.surroundings, wellFormed.agents⟩

end World.WellFormed

variable [RandomSource σ]

/-! ## Turns -/

namespace Agent.WellFormed

variable {agent : Agent} {board : Board}

theorem executing (wellFormed : WellFormed settings first agent)
    (grown : first.GrownFrom board) (traits : Traits) (steps : Nat) :
    (agent.executing traits steps board).WellFormed first := by
  apply Scene.WellFormed.run
  exact ⟨wellFormed.inside, grown⟩

/-- In the middle of a turn the agent is older and elsewhere, but still well-formed. -/
theorem withBody (wellFormed : WellFormed settings first agent) {scene : Scene}
    (sceneWellFormed : scene.WellFormed first) (willing : Bool) :
    WellFormed settings first
      { agent with toBody := scene.body, age := agent.age + 1, willing } where
  inside := sceneWellFormed.inside
  program_subset := wellFormed.program_subset
  length_near := wellFormed.length_near
  age_nonneg := Int.add_nonneg wellFormed.age_nonneg (by decide)

theorem withEnergy (wellFormed : WellFormed settings first agent) (energy : Int) :
    WellFormed settings first { agent with energy } :=
  ⟨wellFormed.inside, wellFormed.program_subset, wellFormed.length_near,
    wellFormed.age_nonneg⟩

/-- The program of a child is at most one instruction longer or shorter, and the
child has one ancestor more. -/
theorem offspring (wellFormed : WellFormed settings first agent) {traits : Traits}
    (pool : traits.instructionPool = settings.instructionPool) {program : Program}
    (mutated : Program.Edited traits.instructionPool 1 1 agent.program program)
    (id share : Int) (willing : Bool) :
    WellFormed settings first (agent.offspring id program share willing) where
  inside := wellFormed.inside
  program_subset := by
    intro instruction member
    rcases List.mem_append.mp (mutated.subset member) with inherited | drawn
    · exact wellFormed.program_subset inherited
    · rwa [pool] at drawn
  length_near := by
    have near := abs_le.mp wellFormed.length_near
    have longer := mutated.length_le
    have shorter := mutated.le_length
    simp only [Agent.offspring]
    apply abs_le.mpr
    omega
  age_nonneg := Int.le_refl 0

end Agent.WellFormed

namespace Surroundings

variable {agent : Agent} {surroundings : Surroundings σ} {taken : Turn σ}

theorem Bred.wellFormed {traits : Traits} (bred : Bred traits agent surroundings taken)
    (pool : traits.instructionPool = settings.instructionPool)
    (present : agent.WellFormed settings first)
    (wellFormed : surroundings.WellFormed settings first) :
    taken.agent.WellFormed settings first ∧
      taken.surroundings.WellFormed settings first := by
  cases bred with
  | idle unable => exact ⟨present, wellFormed⟩
  | failed able fault later cause =>
      exact ⟨present, wellFormed.grown, wellFormed.unborn⟩
  | bore able program later mutated share shared child offspring =>
      refine ⟨present.withEnergy _, wellFormed.grown,
        List.forall_mem_append.mpr ⟨wellFormed.unborn, ?_⟩⟩
      rw [List.forall_mem_singleton, offspring]
      exact present.offspring pool (Program.mutate_edited mutated) _ _ _

theorem turn_wellFormed (present : agent.WellFormed settings first)
    (wellFormed : surroundings.WellFormed settings first) :
    (turn settings.traits agent surroundings).agent.WellFormed settings first ∧
      (turn settings.traits agent surroundings).surroundings.WellFormed settings first := by
  have lived := (present.executing wellFormed.grown settings.traits agent.program.length)
  rw [agent.executing_length settings.traits surroundings.board surroundings.random] at lived
  apply (turn_bred settings.traits agent surroundings).wellFormed rfl
  · exact present.withBody lived _
  · exact ⟨lived.grown, wellFormed.unborn⟩

theorem Acts.wellFormed {agents : List Agent} {occasions : List (Occasion σ)}
    {played : Turns σ} (acts : Acts settings.traits agents surroundings occasions played)
    (present : ∀ agent ∈ agents, agent.WellFormed settings first)
    (wellFormed : surroundings.WellFormed settings first) :
    (∀ agent ∈ played.agents, agent.WellFormed settings first) ∧
      played.surroundings.WellFormed settings first := by
  induction acts with
  | done surroundings => exact ⟨present, wellFormed⟩
  | @stopped agent waiting surroundings fault failing =>
      rcases List.forall_mem_cons.mp present with ⟨acting, behind⟩
      have taken := turn_wellFormed acting wellFormed
      -- Those behind the failing agent did not act.
      exact ⟨List.forall_mem_cons.mpr ⟨taken.1, behind⟩, taken.2⟩
  | @next agent rest surroundings child later played returned others induction =>
      rcases List.forall_mem_cons.mp present with ⟨acting, behind⟩
      have taken := turn_wellFormed acting wellFormed
      have left := induction behind taken.2
      exact ⟨List.forall_mem_cons.mpr ⟨taken.1, left.1⟩, left.2⟩

end Surroundings

/-! ## Rounds -/

theorem Agent.spawn_wellFormed (subset : settings.initialProgram ⊆ settings.instructionPool)
    (id : Int) (board : Board) (random : σ) :
    (spawn settings id board random).1.WellFormed settings board where
  inside := by
    have column := RandomSource.below_lt board.width random board.width_pos
    have row := RandomSource.below_lt board.height
      (RandomSource.below board.width random).2 board.height_pos
    constructor
    · exact Int.natCast_nonneg _
    · exact Int.ofNat_lt.mpr column
    · exact Int.natCast_nonneg _
    · exact Int.ofNat_lt.mpr row
  program_subset := subset
  length_near := by simp [spawn]
  age_nonneg := Int.le_refl 0

namespace World

namespace WellFormed

variable {world : World σ}

theorem create (subset : settings.initialProgram ⊆ settings.instructionPool)
    (counted : first.Counted) (random : σ) :
    WellFormed settings first (World.create settings first random) where
  settings_eq := rfl
  surroundings := ⟨.refl counted, fun child member => by cases member⟩
  agents := forall_mem_populate (fun id => Agent.spawn_wellFormed subset id first) _ _ _

theorem beginRound (wellFormed : WellFormed settings first world) (round : Int) :
    WellFormed settings first (world.beginRound round) where
  settings_eq := wellFormed.settings_eq
  surroundings :=
    ⟨wellFormed.surroundings.grown.advance, wellFormed.surroundings.unborn⟩
  agents := by
    intro agent member
    exact wellFormed.agents agent ((world.beginRound_perm round).mem_iff.mp member)

/-- The turns of some agents at the beginning of a round. -/
theorem turns (wellFormed : WellFormed settings first world) (round : Int)
    {front : List Agent} (present : front ⊆ (world.beginRound round).agents) :
    let played := Surroundings.turns world.settings.traits front
      (world.beginRound round).toSurroundings
    (∀ agent ∈ played.agents, agent.WellFormed settings first) ∧
      played.surroundings.WellFormed settings first := by
  have begun := wellFormed.beginRound round
  rw [wellFormed.settings_eq]
  apply (Surroundings.turns_acts _ _ _).wellFormed _ begun.surroundings
  intro agent member
  exact begun.agents agent (present member)

theorem actedBy (wellFormed : WellFormed settings first world) (count : Nat)
    (round : Int) : WellFormed settings first (world.actedBy count round) := by
  have played := wellFormed.turns round (List.take_subset count _)
  refine ⟨wellFormed.settings_eq, played.2, List.forall_mem_append.mpr ⟨played.1, ?_⟩⟩
  intro agent waiting
  exact (wellFormed.beginRound round).agents agent (List.mem_of_mem_drop waiting)

theorem executing (wellFormed : WellFormed settings first world) (round : Int)
    {front waiting : List Agent} {agent : Agent}
    (order : (world.beginRound round).agents = front ++ agent :: waiting) (steps : Nat) :
    WellFormed settings first (world.executing round front agent waiting steps) := by
  have begun := (wellFormed.beginRound round).agents
  rw [order] at begun
  rcases List.forall_mem_cons.mp (List.forall_mem_append.mp begun).2 with ⟨acting, behind⟩
  have played := wellFormed.turns round
    (order ▸ List.subset_append_left front (agent :: waiting))
  have scene := acting.executing played.2.grown world.settings.traits steps
  refine ⟨wellFormed.settings_eq, ⟨scene.grown, played.2.unborn⟩, ?_⟩
  exact List.forall_mem_append.mpr
    ⟨played.1, List.forall_mem_cons.mpr ⟨acting.withBody scene _, behind⟩⟩

theorem acted (wellFormed : WellFormed settings first world) (round : Int) :
    WellFormed settings first (world.acted round) := by
  rw [← actedBy_length]
  exact wellFormed.actedBy _ round

theorem step (wellFormed : WellFormed settings first world) (round : Int) :
    WellFormed settings first (world.step round).1 := by
  have stepped := world.step_stepped round
  generalize world.step round = result at stepped ⊢
  cases stepped with
  | refused ended => exact wellFormed
  | interrupted running fault stopped => exact wellFormed.acted round
  | concluded running done => exact (wellFormed.acted round).conclude round

theorem reachable {later : World σ} (wellFormed : WellFormed settings first world)
    (reached : Reachable world later) : WellFormed settings first later := by
  apply reached.preserves (WellFormed settings first) _ _ wellFormed
  · intro world round wellFormed
    exact wellFormed.step round
  · intro world wellFormed
    exact wellFormed.completed

theorem moment {later : World σ} (wellFormed : WellFormed settings first world)
    (reached : Moment world later) : WellFormed settings first later := by
  cases reached with
  | between reached => exact wellFormed.reachable reached
  | acting reached running round count =>
      exact (wellFormed.reachable reached).actedBy count round
  | executing reached running round order done steps =>
      exact (wellFormed.reachable reached).executing round order steps
  | joining reached running round done =>
      exact ((wellFormed.reachable reached).acted round).joined

end WellFormed

/-- At every moment of every history of a world with loaded settings, everyone is on
the board and has a program of known instructions, as long as its ancestors allow.
The board is the one that was drawn, and its count of ripe cells is right. -/
theorem wellFormed_of_moment (loaded : settings.Loaded) {energy ripeningTime : Int}
    {lines : List String} {board : Board}
    (drawn : Board.ofLines energy ripeningTime lines = .ok board) (random : σ)
    {moment : World σ} (reached : Moment (create settings board random) moment) :
    (∀ agent ∈ moment.everyone,
      moment.board.Inside agent.position ∧ agent.program ⊆ settings.instructionPool ∧
      |(agent.program.length : Int) - settings.initialProgram.length| ≤
        agent.generation) ∧
    moment.board.width = board.width ∧ moment.board.height = board.height ∧
    moment.board.ripeCount = moment.board.cells.toList.countP Cell.hasFood ∧
    ∀ position, Cell.SameGrowth (board.cellAt position) (moment.board.cellAt position) := by
  have created := WellFormed.create loaded.program_subset (Board.ofLines_counted drawn) random
  have wellFormed := created.moment reached
  have grown := wellFormed.surroundings.grown
  refine ⟨?_, grown.width_eq, grown.height_eq, grown.counted, grown.sameGrowth⟩
  intro agent member
  have present := wellFormed.everyone agent member
  exact ⟨grown.inside.mpr present.inside, present.program_subset, present.length_near⟩

/-- Two founders and their two children meet at the end of the first round. -/
theorem prolific_wellFormed :
    Settings.Loaded Chronicle.prolific ∧ Board.ofLines 5 3 ["x "] = .ok .meadow ∧
      Moment (create Chronicle.prolific .meadow Zeros.mk)
        ((create Chronicle.prolific .meadow Zeros.mk).acted 1).joined ∧
      ((create Chronicle.prolific .meadow Zeros.mk).acted 1).joined.everyone.length = 4 ∧
      ∀ agent ∈ ((create Chronicle.prolific .meadow Zeros.mk).acted 1).joined.everyone,
        |(agent.program.length : Int) - 3| ≤ agent.generation := by
  have distinct : (Chronicle.prolificEntries.map Prod.fst).Nodup := by decide +kernel
  have accepted : Settings.ofMapping Parameter.all Chronicle.prolificEntries =
      .ok Chronicle.prolific := by
    decide +kernel
  have loaded : Settings.Loaded Chronicle.prolific := .ofMapping distinct accepted
  have drawn : Board.ofLines 5 3 ["x "] = .ok .meadow := rfl
  have running : (create Chronicle.prolific .meadow Zeros.mk).status = .running := rfl
  have done : ((create Chronicle.prolific .meadow Zeros.mk).played 1).fault = none := by
    decide +kernel
  have reached : Moment (create Chronicle.prolific .meadow Zeros.mk)
      ((create Chronicle.prolific .meadow Zeros.mk).acted 1).joined :=
    .joining .start running 1 done
  have wellFormed := wellFormed_of_moment loaded drawn Zeros.mk reached
  exact ⟨loaded, drawn, reached, by decide +kernel,
    fun agent member => (wellFormed.1 agent member).2.2⟩

end World

end Foragers
