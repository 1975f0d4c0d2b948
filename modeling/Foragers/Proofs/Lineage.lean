import Foragers.Proofs.Acceptance
import Foragers.Proofs.Chronicle

/-! # Lineage

As long as every call plays its round to the end, numbers are given out one by one
in the order of birth, and everyone alive is as old as the rounds since.
-/

namespace Foragers

variable {σ : Type}

theorem Birth.mem_ofCall {call : Nat} {children : List Agent} {child : Agent}
    (member : child ∈ children) : (⟨call, child⟩ : Birth) ∈ ofCall call children :=
  List.mem_map_of_mem member

theorem Birth.child_mem_of_mem_ofCall {call : Nat} {children : List Agent} {birth : Birth}
    (member : birth ∈ ofCall call children) : birth.child ∈ children := by
  rcases List.mem_map.mp member with ⟨child, present, birthEq⟩
  rwa [← birthEq]

namespace Chronicle

/-- Everyone ever created. The founders count as born in call zero. -/
def origins (chronicle : Chronicle σ) : List Birth :=
  Birth.ofCall 0 chronicle.founders ++ chronicle.births

theorem map_child_origins (chronicle : Chronicle σ) :
    chronicle.origins.map Birth.child = chronicle.created := by
  rw [origins, List.map_append, Birth.map_child_ofCall, created]

theorem length_origins (chronicle : Chronicle σ) :
    chronicle.origins.length = chronicle.founders.length + chronicle.births.length := by
  rw [origins, List.length_append, Birth.ofCall, List.length_map]

theorem origins_bearing (children : List Agent) (chronicle : Chronicle σ) :
    (chronicle.bearing children).origins =
      chronicle.origins ++ Birth.ofCall (chronicle.calls + 1) children :=
  (List.append_assoc _ _ _).symm

/-- Numbers follow the births, generations do not outrun the rounds, and the age of
the living counts the rounds since they were born. -/
structure Lineage (chronicle : Chronicle σ) : Prop where
  numbered : Agent.Numbered 0 (chronicle.origins.map Birth.child)
  nextId_eq : chronicle.world.nextId = chronicle.origins.length
  nobody : chronicle.world.unborn = []
  ordered : chronicle.origins.Pairwise fun earlier later => earlier.call ≤ later.call
  call_le : ∀ origin ∈ chronicle.origins, origin.call ≤ chronicle.calls
  founded : ∀ origin ∈ chronicle.origins,
    origin.call = 0 ↔ origin.child.id < chronicle.founders.length
  generation : ∀ origin ∈ chronicle.origins,
    0 ≤ origin.child.generation ∧ origin.child.generation ≤ origin.call ∧
      (origin.child.generation = 0 ↔ origin.call = 0)
  living : ∀ agent ∈ chronicle.world.agents, ∃ origin ∈ chronicle.origins,
    origin.child.id = agent.id ∧ origin.child.generation = agent.generation ∧
      agent.age + origin.call = chronicle.calls

namespace Lineage

variable {chronicle : Chronicle σ}

/-- Who has the smaller number was not born later. -/
theorem call_le_of_id_le (lineage : Lineage chronicle) {older younger : Birth}
    (olderMember : older ∈ chronicle.origins) (youngerMember : younger ∈ chronicle.origins)
    (idLe : older.child.id ≤ younger.child.id) : older.call ≤ younger.call := by
  have increasing := List.pairwise_map.mp lineage.numbered.increasing
  -- Numbers increase along the origins, so they tell which one comes first there.
  have sorted := List.pairwise_iff_getElem.mp (increasing.and lineage.ordered)
  rcases List.mem_iff_getElem.mp olderMember with ⟨left, leftBound, leftEq⟩
  rcases List.mem_iff_getElem.mp youngerMember with ⟨right, rightBound, rightEq⟩
  rcases Nat.lt_trichotomy left right with before | same | behind
  · have pair := sorted left right leftBound rightBound before
    rw [leftEq, rightEq] at pair
    exact pair.2
  · subst same
    exact Nat.le_of_eq (congrArg Birth.call (leftEq.symm.trans rightEq))
  · have pair := sorted right left rightBound leftBound behind
    rw [leftEq, rightEq] at pair
    omega

theorem call_eq_of_id_eq (lineage : Lineage chronicle) {left right : Birth}
    (leftMember : left ∈ chronicle.origins) (rightMember : right ∈ chronicle.origins)
    (idEq : left.child.id = right.child.id) : left.call = right.call :=
  Nat.le_antisymm
    (lineage.call_le_of_id_le leftMember rightMember (Int.le_of_eq idEq))
    (lineage.call_le_of_id_le rightMember leftMember (Int.le_of_eq idEq.symm))

theorem bounds_of_living (lineage : Lineage chronicle) {agent : Agent}
    (member : agent ∈ chronicle.world.agents) :
    0 ≤ agent.generation ∧ 0 ≤ agent.age ∧
      agent.generation + agent.age ≤ chronicle.calls := by
  rcases lineage.living agent member with ⟨origin, present, _, generationEq, ageEq⟩
  have bounds := lineage.generation origin present
  have past := lineage.call_le origin present
  omega

theorem generation_eq_zero_iff (lineage : Lineage chronicle) {agent : Agent}
    (member : agent ∈ chronicle.world.agents) :
    agent.generation = 0 ↔ agent.id < chronicle.founders.length := by
  rcases lineage.living agent member with ⟨origin, present, idEq, generationEq, _⟩
  rw [← idEq, ← generationEq, ← lineage.founded origin present]
  exact (lineage.generation origin present).2.2

theorem age_of_founder (lineage : Lineage chronicle) {agent : Agent}
    (member : agent ∈ chronicle.world.agents) (founder : agent.generation = 0) :
    agent.age = chronicle.calls := by
  rcases lineage.living agent member with ⟨origin, present, _, generationEq, ageEq⟩
  have first := (lineage.generation origin present).2.2
  omega

theorem age_of_birth (lineage : Lineage chronicle) {agent : Agent}
    (member : agent ∈ chronicle.world.agents) {birth : Birth}
    (born : birth ∈ chronicle.births) (idEq : birth.child.id = agent.id) :
    agent.age = chronicle.calls - birth.call := by
  rcases lineage.living agent member with ⟨origin, present, originIdEq, _, ageEq⟩
  have callEq := lineage.call_eq_of_id_eq present (List.mem_append_right _ born)
    (originIdEq.trans idEq.symm)
  omega

theorem age_le_of_id_lt (lineage : Lineage chronicle) {older younger : Agent}
    (olderMember : older ∈ chronicle.world.agents)
    (youngerMember : younger ∈ chronicle.world.agents) (idLt : older.id < younger.id) :
    younger.age ≤ older.age := by
  rcases lineage.living older olderMember with
    ⟨olderOrigin, olderPresent, olderId, _, olderAge⟩
  rcases lineage.living younger youngerMember with
    ⟨youngerOrigin, youngerPresent, youngerId, _, youngerAge⟩
  have callLe := lineage.call_le_of_id_le olderPresent youngerPresent (by omega)
  omega

end Lineage

/-- What a round that is played to its end makes of a chronicle. -/
structure Succession (children : List Agent) (before after : Chronicle σ) : Prop where
  calls_eq : after.calls = before.calls + 1
  founders_eq : after.founders = before.founders
  origins_eq : after.origins =
    before.origins ++ Birth.ofCall (before.calls + 1) children
  nextId_eq : after.world.nextId = before.world.nextId + children.length
  nobody : after.world.unborn = []
  numbered : Agent.Numbered before.world.nextId children
  newborn : ∀ child ∈ children, child.age = 0 ∧
    ∃ parent ∈ before.world.agents, child.generation = parent.generation + 1
  survivor : ∀ agent ∈ after.world.agents,
    agent ∈ before.world.unborn ∨ agent ∈ children ∨ ∃ earlier ∈ before.world.agents,
      agent.id = earlier.id ∧ agent.generation = earlier.generation ∧
        agent.age = earlier.age + 1

theorem Succession.mem_origins {children : List Agent} {before after : Chronicle σ}
    (succession : Succession children before after) {origin : Birth}
    (member : origin ∈ after.origins) :
    origin ∈ before.origins ∨ origin.call = before.calls + 1 ∧ origin.child ∈ children := by
  rw [succession.origins_eq] at member
  rcases List.mem_append.mp member with earlier | now
  · exact .inl earlier
  · exact .inr ⟨Birth.call_of_mem_ofCall now, Birth.child_mem_of_mem_ofCall now⟩

namespace Lineage

variable {children : List Agent} {before after : Chronicle σ}

theorem generation_newborn (lineage : Lineage before)
    (succession : Succession children before after) {child : Agent}
    (member : child ∈ children) :
    0 < child.generation ∧ child.generation ≤ before.calls + 1 := by
  rcases succession.newborn child member with ⟨_, parent, present, generationEq⟩
  have bounds := lineage.bounds_of_living present
  omega

theorem succeed (lineage : Lineage before) (succession : Succession children before after) :
    Lineage after where
  numbered := by
    rw [succession.origins_eq, List.map_append, Birth.map_child_ofCall]
    apply lineage.numbered.append
    rw [List.length_map, Int.zero_add, ← lineage.nextId_eq]
    exact succession.numbered
  nextId_eq := by
    rw [succession.nextId_eq, succession.origins_eq, lineage.nextId_eq,
      List.length_append, Birth.ofCall, List.length_map, Int.natCast_add]
  nobody := succession.nobody
  ordered := by
    rw [succession.origins_eq]
    apply List.pairwise_append.mpr
    refine ⟨lineage.ordered, List.pairwise_of_forall_mem_list ?_, ?_⟩
    · intro left leftMember right rightMember
      have leftEq := Birth.call_of_mem_ofCall leftMember
      have rightEq := Birth.call_of_mem_ofCall rightMember
      omega
    · intro earlier present later now
      have earlierLe := lineage.call_le earlier present
      have laterEq := Birth.call_of_mem_ofCall now
      omega
  call_le := by
    rw [succession.calls_eq]
    intro origin member
    rcases succession.mem_origins member with before | ⟨callEq, _⟩
    · have past := lineage.call_le origin before
      omega
    · omega
  founded := by
    rw [succession.founders_eq]
    intro origin member
    rcases succession.mem_origins member with before | ⟨callEq, born⟩
    · exact lineage.founded origin before
    -- The founders are among the origins, and newborns are numbered behind these.
    · have recent := (succession.numbered.bounds born).1
      have many := before.length_origins
      rw [lineage.nextId_eq] at recent
      omega
  generation := by
    intro origin member
    rcases succession.mem_origins member with before | ⟨callEq, born⟩
    · exact lineage.generation origin before
    · have bounds := lineage.generation_newborn succession born
      omega
  living := by
    rw [succession.calls_eq, succession.origins_eq]
    intro agent member
    rcases succession.survivor agent member with
      waited | born | ⟨earlier, present, idEq, generationEq, ageEq⟩
    · rw [lineage.nobody] at waited
      cases waited
    · have age := (succession.newborn agent born).1
      refine ⟨⟨before.calls + 1, agent⟩,
        List.mem_append_right _ (Birth.mem_ofCall born), rfl, rfl, ?_⟩
      rw [age, Int.zero_add]
    · rcases lineage.living earlier present with
        ⟨origin, originPresent, originId, originGeneration, originAge⟩
      refine ⟨origin, List.mem_append_left _ originPresent, ?_, ?_, ?_⟩
      · rw [originId, idEq]
      · rw [originGeneration, generationEq]
      · omega

end Lineage

end Chronicle

variable [RandomSource σ]

namespace World

/-- Every call for a round returns. -/
def Returns : List Int → World σ → Prop
  | [], _ => True
  | round :: rest, world =>
      (∃ metrics, (world.step round).2 = .ok metrics) ∧ Returns rest (world.step round).1

end World

namespace Chronicle

theorem step_succession (chronicle : Chronicle σ) {round : Int}
    {metrics : Option RoundMetrics}
    (returned : (chronicle.world.step round).2 = .ok metrics) :
    Succession (chronicle.world.births round) chronicle (chronicle.step round) := by
  rcases World.step_returned returned with ⟨running, done, stepEq⟩
  have acts := chronicle.world.acts round
  have order := chronicle.world.beginRound_perm round
  have settled := World.step_settled running done
  simp only [step, if_pos running]
  constructor
  case calls_eq => rfl
  case founders_eq => rfl
  case origins_eq => exact origins_bearing (chronicle.world.births round) chronicle
  case nextId_eq =>
    rw [stepEq, World.conclude_surroundings]
    have nextId := acts.nextId_eq
    rw [done] at nextId
    exact nextId.trans (Int.add_zero _)
  case nobody => exact settled.unborn_eq
  case numbered => exact acts.numbered
  case newborn =>
    intro child member
    rcases acts.newborn member with ⟨age, parent, present, generation⟩
    exact ⟨age, parent, order.mem_iff.mp present, generation⟩
  case survivor =>
    intro agent member
    rw [settled.agents_eq] at member
    rcases List.mem_append.mp (List.mem_filter.mp member).1 with acted | joined
    · rcases acts.exists_turn_of_mem done acted with ⟨earlier, present, found, agentEq⟩
      refine .inr (.inr ⟨earlier, order.mem_iff.mp present, ?_, ?_, ?_⟩)
      · rw [agentEq, Surroundings.turn_id]
      · rw [agentEq, Surroundings.turn_generation]
      · rw [agentEq, Surroundings.turn_age]
    · rcases List.mem_append.mp joined with waited | born
      · exact .inl waited
      · exact .inr (.inl born)

namespace Lineage

variable {chronicle : Chronicle σ}

theorem start (settings : Settings) (board : Board) (random : σ) :
    Lineage (Chronicle.start settings board random) := by
  have numbered := World.create_numbered settings board random
  have founder : ∀ agent ∈ (World.create settings board random).agents,
      agent.generation = 0 ∧ agent.age = 0 := World.populate_founder _ _ _ _ _
  have noBirths : (Chronicle.start settings board random).origins =
      Birth.ofCall 0 (World.create settings board random).agents := List.append_nil _
  constructor
  case numbered => rwa [noBirths, Birth.map_child_ofCall]
  case nextId_eq =>
    rw [noBirths, Birth.ofCall, List.length_map, World.length_create]
    rfl
  case nobody => rfl
  case ordered =>
    rw [noBirths]
    apply List.pairwise_of_forall_mem_list
    intro left leftMember right rightMember
    have leftEq := Birth.call_of_mem_ofCall leftMember
    have rightEq := Birth.call_of_mem_ofCall rightMember
    omega
  case call_le =>
    rw [noBirths]
    intro origin member
    exact Nat.le_of_eq (Birth.call_of_mem_ofCall member)
  case founded =>
    rw [noBirths]
    intro origin member
    have first := Birth.call_of_mem_ofCall member
    have below := (numbered.bounds (Birth.child_mem_of_mem_ofCall member)).2
    rw [Int.zero_add] at below
    exact iff_of_true first below
  case generation =>
    rw [noBirths]
    intro origin member
    have first := Birth.call_of_mem_ofCall member
    have generation := (founder _ (Birth.child_mem_of_mem_ofCall member)).1
    omega
  case living =>
    rw [noBirths]
    intro agent member
    have age := (founder agent member).2
    refine ⟨⟨0, agent⟩, Birth.mem_ofCall member, rfl, rfl, ?_⟩
    rw [age]
    rfl

theorem run (lineage : Lineage chronicle) {calls : List Int}
    (returns : World.Returns calls chronicle.world) : Lineage (chronicle.run calls) := by
  induction calls generalizing chronicle with
  | nil => exact lineage
  | cons round rest induction =>
      rcases returns with ⟨⟨metrics, returned⟩, others⟩
      apply induction (lineage.succeed (chronicle.step_succession returned))
      rwa [world_step]

end Lineage

theorem calls_step (chronicle : Chronicle σ) (round : Int) :
    (chronicle.step round).calls = chronicle.calls + 1 := by
  simp only [step]
  split <;> rfl

theorem founders_step (chronicle : Chronicle σ) (round : Int) :
    (chronicle.step round).founders = chronicle.founders := by
  simp only [step]
  split <;> rfl

theorem calls_run (chronicle : Chronicle σ) (calls : List Int) :
    (chronicle.run calls).calls = chronicle.calls + calls.length := by
  induction calls generalizing chronicle with
  | nil => rfl
  | cons round rest induction =>
      rw [run, List.foldl_cons, ← run, induction, calls_step, List.length_cons]
      omega

theorem founders_run (chronicle : Chronicle σ) (calls : List Int) :
    (chronicle.run calls).founders = chronicle.founders := by
  induction calls generalizing chronicle with
  | nil => rfl
  | cons round rest induction =>
      rw [run, List.foldl_cons, ← run, induction, founders_step]

end Chronicle

namespace World

/-- In a round that is played to its end every agent acts once, and no child does. -/
theorem occasions_of_done {created culled : List Agent} {world : World σ}
    (located : Located created culled world) {round : Int}
    (done : (world.played round).fault = none) :
    ((world.occasions round).map Occasion.agent).Perm world.agents ∧
      ((world.occasions round).map fun occasion => occasion.agent.id).Nodup ∧
      ∀ child ∈ world.births round,
        child.id ∉ (world.occasions round).map fun occasion => occasion.agent.id := by
  have everyone := (world.acts round).agents_eq_of_done done
  have order := world.beginRound_perm round
  have acting : ((world.occasions round).map Occasion.agent).Perm world.agents := by
    rwa [everyone]
  have ids : ((world.occasions round).map fun occasion => occasion.agent.id).Perm
      (world.agents.map Agent.id) := by
    have mapped := acting.map Agent.id
    rwa [List.map_map] at mapped
  have distinct := (List.nodup_append.mp located.nodup_everyone_append_culled).1
  rw [World.everyone, List.map_append] at distinct
  refine ⟨acting, ids.nodup_iff.mpr (List.nodup_append.mp distinct).1, ?_⟩
  intro child member present
  rcases List.mem_map.mp (ids.mem_iff.mp present) with ⟨agent, agentMember, idEq⟩
  have below := located.lt_nextId (List.mem_append_left world.unborn agentMember)
  have above := ((world.acts round).numbered.bounds member).1
  rw [← idEq] at above
  exact Int.not_lt.mpr above below

end World

namespace Chronicle

/-- Accepted settings ask for a number of founders. -/
theorem length_founders {schema : List Parameter} {entries : List (String × Value)}
    {settings : Settings} (accepted : Settings.ofMapping schema entries = .ok settings)
    (board : Board) (random : σ) (calls : List Int) :
    (((start settings board random).run calls).founders.length : Int) =
      settings.initialPopulation := by
  have valid : 0 ≤ settings.initialPopulation :=
    Settings.ofMapping_valid accepted (.count .initialPopulation)
  rw [founders_run]
  change ((World.create settings board random).agents.length : Int) = _
  rw [World.length_create, Int.toNat_of_nonneg valid]

theorem lineage_of_returns {schema : List Parameter} {entries : List (String × Value)}
    {settings : Settings} (accepted : Settings.ofMapping schema entries = .ok settings)
    (board : Board) (random : σ) {calls : List Int}
    (returns : World.Returns calls (.create settings board random)) :
    let now := (start settings board random).run calls
    now.world.nextId = settings.initialPopulation + now.births.length ∧
    (∀ agent ∈ now.created,
      agent.generation = 0 ↔ agent.id < settings.initialPopulation) ∧
    (∀ agent ∈ now.world.agents,
      (agent.generation = 0 ↔ agent.id < settings.initialPopulation) ∧
      (agent.generation = 0 → agent.age = calls.length) ∧
      agent.generation + agent.age ≤ calls.length ∧
      (∀ birth ∈ now.births, birth.child.id = agent.id →
        agent.age = calls.length - birth.call) ∧
      ∀ younger ∈ now.world.agents, agent.id < younger.id → younger.age ≤ agent.age) ∧
    ∀ round metrics, (now.world.step round).2 = .ok metrics →
      ((now.world.occasions round).map Occasion.agent).Perm now.world.agents ∧
      ((now.world.occasions round).map fun occasion => occasion.agent.id).Nodup ∧
      ∀ child ∈ now.world.births round,
        child.id ∉ (now.world.occasions round).map fun occasion => occasion.agent.id := by
  intro now
  have accounted : Accounted now := (Accounted.start settings board random).run calls
  have lineage : Lineage now := (Lineage.start settings board random).run returns
  have founders : (now.founders.length : Int) = settings.initialPopulation :=
    length_founders accepted board random calls
  have callsEq : now.calls = calls.length :=
    (calls_run _ calls).trans (Nat.zero_add _)
  rw [← founders, ← callsEq]
  refine ⟨?_, ?_, ?_, ?_⟩
  · rw [lineage.nextId_eq, length_origins, Int.natCast_add]
  · intro agent member
    rw [← map_child_origins] at member
    rcases List.mem_map.mp member with ⟨origin, present, childEq⟩
    rw [← childEq, ← lineage.founded origin present]
    exact (lineage.generation origin present).2.2
  · intro agent member
    refine ⟨lineage.generation_eq_zero_iff member, lineage.age_of_founder member,
      (lineage.bounds_of_living member).2.2, ?_, ?_⟩
    · intro birth born idEq
      exact lineage.age_of_birth member born idEq
    · intro younger youngerMember idLt
      exact lineage.age_le_of_id_lt member youngerMember idLt
  · intro round metrics returned
    exact World.occasions_of_done accounted.located (World.step_returned returned).2.1

/-- Raw values for two founders that reproduce as often as they can. -/
def prolificEntries : List (String × Value) := [
  ("rounds", .integer 9),
  ("initial_population", .integer 2),
  ("initial_energy", .integer 20),
  ("food_energy", .integer 5),
  ("food_ripening_time", .integer 8),
  ("round_cost", .integer 1),
  ("reproduction_threshold", .integer 10),
  ("print_interval", .integer 10),
  ("reproduction_probability", .integer 1),
  ("parent_energy_fraction", .text "0.5"),
  ("instruction_removal_probability", .integer 0),
  ("instruction_addition_probability", .integer 0),
  ("instruction_change_probability", .integer 0),
  ("initial_program", .text "wij"),
  ("instruction_pool", .text "ijwlp")]

def prolific : Settings where
  rounds := 9
  initialPopulation := 2
  reproductionProbability := .one
  removalProbability := .zero
  additionProbability := .zero
  changeProbability := .zero

theorem prolific_loaded : Settings.Loaded prolific := by
  have distinct : (prolificEntries.map Prod.fst).Nodup := by decide +kernel
  have accepted : Settings.ofMapping Parameter.all prolificEntries = .ok prolific := by
    decide +kernel
  exact .ofMapping distinct accepted

theorem prolific_lineage :
    Settings.ofMapping Parameter.all prolificEntries = .ok prolific ∧
      World.Returns [1, 2] (.create prolific .meadow Zeros.mk) ∧
      ((start prolific .meadow Zeros.mk).run [1, 2]).world.nextId =
        2 + ((start prolific .meadow Zeros.mk).run [1, 2]).births.length := by
  have accepted : Settings.ofMapping Parameter.all prolificEntries = .ok prolific := by
    decide +kernel
  have returns : World.Returns [1, 2] (.create prolific .meadow Zeros.mk) :=
    ⟨exists_of_isOk (by decide +kernel), exists_of_isOk (by decide +kernel), trivial⟩
  exact ⟨accepted, returns, (lineage_of_returns accepted .meadow Zeros.mk returns).1⟩

end Chronicle

end Foragers
