import Foragers.Proofs.Balance
import Foragers.Proofs.Heredity

/-! # Certain probabilities

A trial with the probability zero never succeeds, and one with the probability one
always does, whatever is drawn for it. What this means for a single trial carries over
to all rounds of a simulation.
-/

namespace Foragers

variable {σ : Type} [RandomSource σ]

namespace RandomSource

theorem chance_of_isZero {probability : Binary64} (never : probability.isZero = true)
    (random : σ) : (chance probability random).1 = false := by
  cases probability with
  | nan negative => cases never
  | infinite negative => cases never
  | finite negative units representable =>
      have nothing : units = 0 := of_decide_eq_true never
      subst nothing
      simp only [chance, fractionValue, Binary64.lt, decide_eq_false_iff_not]
      cases negative <;> exact Int.not_lt.mpr (Int.natCast_nonneg _)

theorem chance_one (random : σ) : (chance .one random).1 = true := by
  have below := fraction_lt random
  rw [Nat.one_shiftLeft] at below
  simp only [chance, fractionValue, Binary64.one, Binary64.lt, decide_eq_true_eq]
  apply Int.ofNat_lt.mpr
  rw [Binary64.unitsPerOne_eq, Nat.shiftLeft_eq]
  generalize 1021 = shift
  exact Nat.mul_lt_mul_of_pos_right below (Nat.two_pow_pos shift)

end RandomSource

/-! ## Mutations -/

namespace Draw

variable {β : Type} {next : Bool → Draw σ β} {result : β} {random later : σ}

/-- What follows an impossible trial goes on as after a failed one. -/
theorem failed_of_isZero {probability : Binary64} (never : probability.isZero = true)
    (bound : (chance probability >>= next) random = .ok result later) :
    ∃ between, next false between = .ok result later := by
  rcases bind_eq_ok bound with ⟨success, between, chanced, continued⟩
  cases chanced
  rw [RandomSource.chance_of_isZero never random] at continued
  exact ⟨_, continued⟩

theorem succeeded_of_one (bound : (chance .one >>= next) random = .ok result later) :
    ∃ between, next true between = .ok result later := by
  rcases bind_eq_ok bound with ⟨success, between, chanced, continued⟩
  cases chanced
  rw [RandomSource.chance_one random] at continued
  exact ⟨_, continued⟩

end Draw

namespace Program

variable {traits : Traits} {program child : Program} {random later : σ}

theorem trim_eq_self (never : traits.removalProbability.isZero = true)
    (trimmed : trim traits program random = .ok child later) : child = program := by
  rcases Draw.failed_of_isZero never trimmed with ⟨between, returned⟩
  cases returned
  rfl

theorem trim_eq_dropLast (always : traits.removalProbability = .one)
    (trimmed : trim traits program random = .ok child later) : child = program.dropLast := by
  rw [trim, always] at trimmed
  rcases Draw.succeeded_of_one trimmed with ⟨between, returned⟩
  cases returned
  rfl

theorem extend_eq_self (never : traits.additionProbability.isZero = true)
    (extended : extend traits program random = .ok child later) : child = program := by
  rcases Draw.failed_of_isZero never extended with ⟨between, returned⟩
  cases returned
  rfl

theorem overwrite_eq_self (never : traits.changeProbability.isZero = true)
    (overwritten : overwrite traits program random = .ok child later) : child = program := by
  rcases Draw.failed_of_isZero never overwritten with ⟨between, returned⟩
  cases returned
  rfl

/-- Without additions and changes the first trial alone makes the child. -/
theorem trim_of_mutate (addsNever : traits.additionProbability.isZero = true)
    (changesNever : traits.changeProbability.isZero = true)
    (mutated : mutate traits program random = .ok child later) :
    ∃ between, trim traits program random = .ok child between := by
  rcases Draw.bind_eq_ok mutated with ⟨trimmed, between, trim, continued⟩
  rcases Draw.bind_eq_ok continued with ⟨extended, _, extend, overwrite⟩
  rw [overwrite_eq_self changesNever overwrite, extend_eq_self addsNever extend]
  exact ⟨between, trim⟩

end Program

/-- Without mutations every program is the initial one. -/
theorem Settings.hereditary_of_never (settings : Settings)
    (removesNever : settings.removalProbability.isZero = true)
    (addsNever : settings.additionProbability.isZero = true)
    (changesNever : settings.changeProbability.isZero = true) :
    settings.Hereditary σ fun _ program => program = settings.initialProgram where
  founder := rfl
  child := by
    intro generation program child random later inherited mutated
    rcases Program.trim_of_mutate addsNever changesNever mutated with ⟨_, trimmed⟩
    exact (Program.trim_eq_self removesNever trimmed).trans inherited

/-- When every mutation only removes the last instruction, what is left of the initial
program depends on the number of ancestors. -/
theorem Settings.hereditary_of_removal (settings : Settings)
    (removesAlways : settings.removalProbability = .one)
    (addsNever : settings.additionProbability.isZero = true)
    (changesNever : settings.changeProbability.isZero = true) :
    settings.Hereditary σ fun generation program => 0 ≤ generation ∧
      program = settings.initialProgram.take
        (settings.initialProgram.length - generation).toNat where
  founder := ⟨Int.le_refl 0, by simp⟩
  child := by
    intro generation program child random later inherited mutated
    rcases inherited with ⟨nonneg, programEq⟩
    rcases Program.trim_of_mutate addsNever changesNever mutated with ⟨_, trimmed⟩
    refine ⟨Int.le_add_one nonneg, ?_⟩
    rw [Program.trim_eq_dropLast removesAlways trimmed, programEq, List.dropLast_eq_take,
      List.take_take, List.length_take]
    congr 1
    omega

/-! ## Births -/

section

variable {traits : Traits}

theorem Agent.not_able_of_isZero (never : traits.reproductionProbability.isZero = true)
    (agent : Agent) (board : Board) (random : σ) :
    (agent.liveRound traits board random).agent.canReproduce traits = false := by
  have unwilling : (drawWilling traits random).1 = false :=
    RandomSource.chance_of_isZero never random
  simp [liveRound, canReproduce, unwilling]

theorem Agent.able_iff_of_one (always : traits.reproductionProbability = .one)
    (agent : Agent) (board : Board) (random : σ) :
    (agent.liveRound traits board random).agent.canReproduce traits = true ↔
      traits.reproductionThreshold ≤ (agent.liveRound traits board random).agent.energy := by
  have willing : (drawWilling traits random).1 = true := by
    rw [drawWilling, always]
    exact RandomSource.chance_one random
  simp [liveRound, canReproduce, willing]

theorem Occasion.newborns_eq_nil (never : traits.reproductionProbability.isZero = true)
    (occasion : Occasion σ) : occasion.newborns traits = [] := by
  rw [newborns, turn, Surroundings.turn_of_unable (Agent.not_able_of_isZero never _ _ _)]
  rfl

/-- An agent that can reproduce and meets no fault has one child. -/
theorem Surroundings.Bred.length_newborns_eq {agent : Agent} {surroundings : Surroundings σ}
    {taken : Turn σ} (bred : Bred traits agent surroundings taken) {child : Option Agent}
    (ok : taken.child = .ok child) :
    (Agent.newborns taken.child).length =
      if agent.canReproduce traits = true then 1 else 0 := by
  cases bred with
  | idle unable => rw [unable, if_neg (by decide)]; rfl
  | failed able fault later cause => cases ok
  | bore able program later mutated share shared child offspring => rw [if_pos able]; rfl

end

theorem length_flatMap_eq_countP {α β : Type} {items : List α} {produce : α → List β}
    {able : α → Bool}
    (one : ∀ item ∈ items, (produce item).length = if able item = true then 1 else 0) :
    (items.flatMap produce).length = items.countP able := by
  induction items with
  | nil => rfl
  | cons item rest induction =>
      rcases List.forall_mem_cons.mp one with ⟨first, others⟩
      rw [List.flatMap_cons, List.length_append, first, induction others, List.countP_cons]
      exact Nat.add_comm _ _

/-- Without a fault nobody who acts meets one. -/
theorem Surroundings.Acts.exists_child_of_done {traits : Traits} {agents : List Agent}
    {surroundings : Surroundings σ} {occasions : List (Occasion σ)} {played : Turns σ}
    (acts : Acts traits agents surroundings occasions played) (done : played.fault = none) :
    ∀ occasion ∈ occasions, ∃ child, (occasion.turn traits).child = .ok child := by
  induction acts with
  | done surroundings => exact List.forall_mem_nil _
  | stopped failing => cases done
  | @next agent rest surroundings child later played taken others induction =>
      exact List.forall_mem_cons.mpr ⟨⟨child, taken⟩, induction done⟩

namespace World

variable {settings : Settings} {world : World σ}

/-- The births that a round counts are those of the round and of rounds before that did
not end. -/
theorem step_births {round : Int} {metrics : RoundMetrics}
    (returned : (world.step round).2 = .ok (some metrics)) :
    metrics.births = world.unborn.length + (world.births round).length := by
  rw [(RoundMetrics.measure_eq_ok (step_measured returned).2.1).births_eq,
    ← List.length_append]
  exact congrArg List.length (world.acts round).unborn_eq

theorem births_eq_nil (never : world.settings.reproductionProbability.isZero = true)
    (round : Int) : world.births round = [] := by
  apply List.flatMap_eq_nil_iff.mpr
  intro occasion present
  exact occasion.newborns_eq_nil never

/-! ## Without reproduction -/

/-- Nobody was born, and there are at most as many agents as there were at some time. -/
structure Childless (settings : Settings) (bound : Nat) (world : World σ) : Prop where
  settings_eq : world.settings = settings
  unborn_eq : world.unborn = []
  length_le : world.agents.length ≤ bound
  id_lt : ∀ agent ∈ world.agents, agent.id < settings.initialPopulation
  births_eq : ∀ metrics ∈ world.history, metrics.births = 0

namespace Childless

variable {bound : Nat}

theorem create (settings : Settings) (board : Board) (random : σ) :
    Childless settings settings.initialPopulation.toNat (create settings board random) where
  settings_eq := rfl
  unborn_eq := rfl
  length_le := Nat.le_of_eq (length_create settings board random)
  id_lt := by
    intro agent member
    have bounds := (create_numbered settings board random).bounds member
    rw [length_create] at bounds
    omega
  births_eq := by
    intro metrics member
    cases List.not_mem_nil (Array.mem_def.mp member)

theorem acted (childless : Childless settings bound world)
    (never : settings.reproductionProbability.isZero = true) (round : Int) :
    Childless settings bound (world.acted round) where
  settings_eq := childless.settings_eq
  unborn_eq := by
    have born := births_eq_nil (by rw [childless.settings_eq]; exact never) round
    have unborn := (world.acts round).unborn_eq
    exact unborn.trans (List.append_eq_nil_iff.mpr ⟨childless.unborn_eq, born⟩)
  length_le := Nat.le_trans (Nat.le_of_eq (world.length_played round)) childless.length_le
  id_lt := by
    intro agent member
    have ids : ((world.played round).agents.map Agent.id).Perm (world.agents.map Agent.id) :=
      (List.Perm.of_eq (world.acts round).ids_eq).trans
        ((world.beginRound_perm round).map Agent.id)
    rcases List.mem_map.mp (ids.mem_iff.mp (List.mem_map_of_mem member)) with
      ⟨earlier, present, idEq⟩
    rw [← idEq]
    exact childless.id_lt earlier present
  births_eq := childless.births_eq

theorem step (childless : Childless settings bound world)
    (never : settings.reproductionProbability.isZero = true) (round : Int) :
    Childless settings bound (world.step round).1 := by
  have acted := childless.acted never round
  have everyone : (world.acted round).everyone = (world.acted round).agents := by
    rw [World.everyone, acted.unborn_eq, List.append_nil]
  have stepped := world.step_stepped round
  generalize called : world.step round = result at stepped ⊢
  cases stepped with
  | refused ended => exact childless
  | interrupted running fault stopped => exact acted
  | concluded running done =>
      have concluded := (world.acted round).conclude_concluded round
      have survivors := (world.acted round).conclude_agents round
      constructor
      case settings_eq => rw [conclude_settings, acted.settings_eq]
      case unborn_eq => rw [conclude_surroundings]
      case length_le =>
        rw [survivors, everyone]
        exact Nat.le_trans (List.length_filter_le _ _) acted.length_le
      case id_lt =>
        intro agent member
        rw [survivors, everyone] at member
        exact acted.id_lt agent (List.mem_filter.mp member).1
      case births_eq =>
        generalize concludes : (world.acted round).conclude round = result at concluded ⊢
        cases concluded with
        | extinct nobody => exact acted.births_eq
        | unmeasured somebody fault failed => exact acted.births_eq
        | measured somebody metrics measured =>
            intro entry member
            rcases Array.mem_push.mp member with before | now
            · exact acted.births_eq entry before
            · rw [now, (RoundMetrics.measure_eq_ok measured).births_eq, acted.unborn_eq]
              rfl

theorem reachable (childless : Childless settings bound world)
    (never : settings.reproductionProbability.isZero = true) {later : World σ}
    (reached : Reachable world later) : Childless settings bound later := by
  apply reached.preserves (Childless settings bound) _ _ childless
  · intro world round childless
    exact childless.step never round
  · intro world childless
    exact { childless with }

end Childless

/-! ## With certain reproduction -/

/-- The agents of a round that reproduce are those which have the energy for it when
their program is over, and the births that the round counts are as many. -/
structure Prolific (round : Int) (world : World σ) (metrics : Option RoundMetrics) :
    Prop where
  everyone : ((world.occasions round).map Occasion.agent).Perm world.agents
  reproduces_iff : ∀ occasion ∈ world.occasions round,
    occasion.newborns world.settings.traits ≠ [] ↔
      world.settings.reproductionThreshold ≤
        (occasion.lived world.settings.traits).energy
  length_births : (world.births round).length = (world.occasions round).countP fun occasion =>
    world.settings.reproductionThreshold ≤ (occasion.lived world.settings.traits).energy
  counted : ∀ measured, metrics = some measured →
    measured.births = (world.births round).length

theorem step_prolific (always : world.settings.reproductionProbability = .one)
    (noneWaiting : world.unborn = []) {round : Int} {metrics : Option RoundMetrics}
    (returned : (world.step round).2 = .ok metrics) : Prolific round world metrics := by
  have done := (step_returned returned).2.1
  have acts := world.acts round
  have oneEach : ∀ occasion ∈ world.occasions round,
      (occasion.newborns world.settings.traits).length =
        if decide (world.settings.reproductionThreshold ≤
          (occasion.lived world.settings.traits).energy) = true then 1 else 0 := by
    intro occasion present
    rcases acts.exists_child_of_done done occasion present with ⟨child, ok⟩
    have certain : world.settings.traits.reproductionProbability = .one := always
    have able := occasion.agent.able_iff_of_one certain occasion.surroundings.board
      occasion.surroundings.random
    rw [Occasion.newborns, Occasion.turn,
      (Surroundings.turn_bred _ _ _).length_newborns_eq ok]
    simp only [decide_eq_true_eq]
    exact if_congr able rfl rfl
  constructor
  case everyone =>
    rw [acts.agents_eq_of_done done]
    exact world.beginRound_perm round
  case reproduces_iff =>
    intro occasion present
    rw [← List.length_pos_iff, oneEach occasion present]
    by_cases enough : world.settings.reproductionThreshold ≤
        (occasion.lived world.settings.traits).energy
    · simp [enough]
    · simp [enough]
  case length_births => exact length_flatMap_eq_countP oneEach
  case counted =>
    intro measured isMeasured
    rw [isMeasured] at returned
    rw [step_births returned, noneWaiting, List.length_nil, Nat.zero_add]

/-! ## Calls one after the other -/

theorem Reachable.afterCalls {first : World σ} (reached : Reachable first world)
    (calls : List Call) : Reachable first (world.afterCalls calls) := by
  induction calls generalizing world with
  | nil => exact reached
  | cons call rest induction =>
      cases call with
      | step round => exact induction (reached.step round)
      | play => exact induction reached.play

/-- When a run returns, nobody waits at its end who did not wait at its beginning. -/
theorem Plays.noneWaiting {count : Nat} {round : Int} {last : World σ} {told : List Event}
    {result : Except Fault Ending} (plays : Plays count round world told last result)
    {ending : Ending} (returned : result = .ok ending) (noneWaiting : world.unborn = []) :
    last.unborn = [] := by
  induction plays with
  | undecidedEnd undecided => cases returned
  | completed decided => exact noneWaiting
  | failed raised => cases returned
  | extinct nobody =>
      rcases step_returned nobody with ⟨running, done, _⟩
      exact (step_settled running done).unborn_eq
  | undecided measured undecided => cases returned
  | next measured decided rest induction =>
      rcases step_returned measured with ⟨running, done, _⟩
      exact induction returned (step_settled running done).unborn_eq

theorem Calm.noneWaiting {calls : List Call} (calm : Calm calls world)
    (noneWaiting : world.unborn = []) : (world.afterCalls calls).unborn = [] := by
  induction calls generalizing world with
  | nil => exact noneWaiting
  | cons call rest induction =>
      apply induction calm.2
      by_cases running : world.status = .running
      · have ok := calm.1 running
        cases call with
        | step round =>
            rw [call, isOk_map] at ok
            rcases exists_of_isOk ok with ⟨metrics, returned⟩
            exact (step_settled running (step_returned returned).2.1).unborn_eq
        | play =>
            rw [call, isOk_map] at ok
            rcases exists_of_isOk ok with ⟨ending, returned⟩
            exact (play_plays running).noneWaiting returned noneWaiting
      · rw [call_of_ended running]
        exact noneWaiting

/-- Whatever is called for, as long as no call fails: if nobody ever means to reproduce,
then nobody is born and the population does not grow; if everybody does, then exactly
those reproduce who have the energy; without mutations all programs are the initial one;
and if a mutation always removes and does nothing else, every generation has lost one
instruction more. -/
theorem certain_probabilities (settings : Settings) (board : Board) (random : σ)
    {calls : List Call} (calm : Calm calls (create settings board random)) :
    let world := (create settings board random).afterCalls calls
    (settings.reproductionProbability.isZero = true →
      (∀ metrics ∈ world.history, metrics.births = 0) ∧
      (∀ round, world.births round = [] ∧
        ∀ metrics, (world.step round).2 = .ok (some metrics) → metrics.births = 0) ∧
      (∀ later, Reachable world later → later.agents.length ≤ world.agents.length) ∧
      ∀ agent ∈ world.agents, agent.id < settings.initialPopulation) ∧
    (settings.reproductionProbability = .one → ∀ round metrics,
      (world.step round).2 = .ok metrics → Prolific round world metrics) ∧
    (settings.removalProbability.isZero = true → settings.additionProbability.isZero = true →
      settings.changeProbability.isZero = true →
      ∀ agent ∈ world.agents, agent.program = settings.initialProgram) ∧
    (settings.removalProbability = .one → settings.additionProbability.isZero = true →
      settings.changeProbability.isZero = true →
      ∀ agent ∈ world.agents, 0 ≤ agent.generation ∧
        agent.program = settings.initialProgram.take
          (settings.initialProgram.length - agent.generation).toNat) := by
  intro world
  have reached : Reachable (create settings board random) world := Reachable.start.afterCalls calls
  have settingsEq : world.settings = settings := afterCalls_settings calls _
  have noneWaiting : world.unborn = [] := calm.noneWaiting rfl
  have living (law : Int → Program → Prop) (hereditary : settings.Hereditary σ law) :
      ∀ agent ∈ world.agents, agent.Obeys law := fun agent member =>
    (hereditary.reachable reached).everyone agent (List.mem_append_left _ member)
  refine ⟨fun never => ?_, fun always round metrics returned => ?_,
    fun removesNever addsNever changesNever => ?_,
    fun removesAlways addsNever changesNever => ?_⟩
  · have childless := (Childless.create settings board random).reachable never reached
    have born : ∀ round, world.births round = [] :=
      births_eq_nil (by rw [settingsEq]; exact never)
    refine ⟨childless.births_eq, fun round => ⟨born round, fun metrics returned => ?_⟩,
      fun later onwards => ?_, childless.id_lt⟩
    · rw [step_births returned, noneWaiting, born round]
      rfl
    · have bounded : Childless settings world.agents.length world :=
        { childless with length_le := Nat.le_refl _ }
      exact (bounded.reachable never onwards).length_le
  · exact step_prolific (by rw [settingsEq]; exact always) noneWaiting returned
  · exact living _ (settings.hereditary_of_never removesNever addsNever changesNever)
  · exact living _ (settings.hereditary_of_removal removesAlways addsNever changesNever)

/-- Two founders that always reproduce, never do so, or have children that always lose
an instruction. -/
theorem prolific_certain :
    Calm [.step 1] (create Chronicle.prolific .meadow Zeros.mk) ∧
    Calm [.step 1] (create { Chronicle.prolific with reproductionProbability := .zero }
      .meadow Zeros.mk) ∧
    Calm [.step 1] (create { Chronicle.prolific with removalProbability := .one }
      .meadow Zeros.mk) ∧
    (∃ metrics,
      (((create Chronicle.prolific .meadow Zeros.mk).step 1).1.step 2).2 =
        .ok (some metrics) ∧
      Prolific 2 ((create Chronicle.prolific .meadow Zeros.mk).step 1).1 (some metrics)) ∧
    (∀ agent ∈ ((create Chronicle.prolific .meadow Zeros.mk).step 1).1.agents,
      agent.program = [.sniff, .move, .eat]) ∧
    (∀ agent ∈ ((create { Chronicle.prolific with reproductionProbability := .zero }
      .meadow Zeros.mk).step 1).1.agents, agent.id < 2) ∧
    ∀ agent ∈ ((create { Chronicle.prolific with removalProbability := .one }
      .meadow Zeros.mk).step 1).1.agents,
      agent.program = [Instruction.sniff, .move, .eat].take (3 - agent.generation).toNat := by
  have bear : Calm [.step 1] (create Chronicle.prolific .meadow Zeros.mk) :=
    ⟨fun _ => by decide +kernel, trivial⟩
  have bearNot : Calm [.step 1] (create
      { Chronicle.prolific with reproductionProbability := .zero } .meadow Zeros.mk) :=
    ⟨fun _ => by decide +kernel, trivial⟩
  have lose : Calm [.step 1] (create
      { Chronicle.prolific with removalProbability := .one } .meadow Zeros.mk) :=
    ⟨fun _ => by decide +kernel, trivial⟩
  have returned : ∃ metrics,
      (((create Chronicle.prolific .meadow Zeros.mk).step 1).1.step 2).2 =
        .ok (some metrics) := exists_of_isSome (by decide +kernel)
  rcases returned with ⟨metrics, returned⟩
  have never : Binary64.zero.isZero = true := by decide
  rcases certain_probabilities Chronicle.prolific .meadow Zeros.mk bear with
    ⟨_, prolific, inherited, _⟩
  rcases certain_probabilities { Chronicle.prolific with reproductionProbability := .zero }
    .meadow Zeros.mk bearNot with ⟨childless, _⟩
  rcases certain_probabilities { Chronicle.prolific with removalProbability := .one }
    .meadow Zeros.mk lose with ⟨_, _, _, shortened⟩
  exact ⟨bear, bearNot, lose, ⟨metrics, returned, prolific rfl 2 _ returned⟩,
    inherited never never never, (childless never).2.2.2,
    fun agent member => (shortened rfl never never agent member).2⟩

end World

end Foragers
