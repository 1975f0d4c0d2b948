import Foragers.Proofs.Round

/-! # Chronicles

A chronicle goes along with a world and writes down who was created and who was
removed. It only observes: its world is the one that the calls for rounds make.
-/

namespace Foragers

variable {σ : Type}

namespace World

/-- The world when the children have joined and nobody was removed yet. -/
def joined (world : World σ) : World σ :=
  { world with agents := world.everyone, unborn := [] }

/-- Everyone created has a number of its own and is in one place: in the
population, among the children that wait, or among the dead. -/
structure Located (created culled : List Agent) (world : World σ) : Prop where
  increasing : created.Pairwise fun earlier later => earlier.id < later.id
  below : ∀ agent ∈ created, agent.id < world.nextId
  perm : ((world.everyone ++ culled).map Agent.id).Perm (created.map Agent.id)
  dead : ∀ agent ∈ culled, agent.energy < 0

namespace Located

variable {created culled : List Agent} {world : World σ}

/-- The dead go from the population to the dead, and the children join it. -/
theorem settle (located : Located created culled world) :
    Located created (culled ++ world.everyone.filter fun agent => !agent.alive)
      world.settle := by
  have partition := List.filter_append_perm Agent.alive world.everyone
  refine ⟨located.increasing, located.below, ?_, ?_⟩
  · refine (List.Perm.map Agent.id ?_).trans located.perm
    rw [World.settle, everyone, List.append_nil]
    refine (List.perm_append_comm.append_left _).trans ?_
    rw [← List.append_assoc]
    exact partition.append_right culled
  · intro agent member
    rcases List.mem_append.mp member with before | now
    · exact located.dead agent before
    · exact Agent.energy_of_mem_dead now

theorem nodup_created (located : Located created culled world) :
    (created.map Agent.id).Nodup :=
  List.pairwise_map.mpr (located.increasing.imp fun below => Int.ne_of_lt below)

theorem nodup_everyone_append_culled (located : Located created culled world) :
    (world.everyone.map Agent.id ++ culled.map Agent.id).Nodup := by
  rw [← List.map_append]
  exact located.perm.nodup_iff.mpr located.nodup_created

theorem lt_nextId (located : Located created culled world) {agent : Agent}
    (member : agent ∈ world.everyone) : agent.id < world.nextId := by
  have listed : agent.id ∈ (world.everyone ++ culled).map Agent.id :=
    List.mem_map_of_mem (List.mem_append_left culled member)
  rcases List.mem_map.mp (located.perm.mem_iff.mp listed) with
    ⟨origin, createdMember, idEq⟩
  rw [← idEq]
  exact located.below origin createdMember

theorem not_mem_of_culled (located : Located created culled world) {agent : Agent}
    (member : agent ∈ culled) : agent.id ∉ world.everyone.map Agent.id := by
  intro present
  exact (List.nodup_append.mp located.nodup_everyone_append_culled).2.2 _ present _
    (List.mem_map_of_mem member) rfl

theorem joined (located : Located created culled world) :
    Located created culled world.joined := by
  refine ⟨located.increasing, located.below, ?_, located.dead⟩
  rw [World.joined, everyone, List.append_nil]
  exact located.perm

/-- Only the population, the children that wait and the next number matter. -/
theorem of_eq (located : Located created culled world) {other : World σ}
    (agents : other.agents = world.agents) (unborn : other.unborn = world.unborn)
    (nextId : other.nextId = world.nextId) : Located created culled other := by
  refine ⟨located.increasing, ?_, ?_, located.dead⟩
  · rw [nextId]
    exact located.below
  · rw [everyone, agents, unborn]
    exact located.perm

/-- What is left of a round that was played to its end. -/
theorem conclude (located : Located created culled world) (round : Int) :
    Located created (culled ++ world.everyone.filter fun agent => !agent.alive)
      (world.conclude round).1 := by
  apply located.settle.of_eq (world.conclude_agents round)
  · rw [conclude_surroundings]
    rfl
  · rw [conclude_surroundings]
    rfl

end Located

end World

/-- A child, and the number of the call for a round in which it was born. -/
structure Birth where
  call : Nat
  child : Agent

namespace Birth

def ofCall (call : Nat) (children : List Agent) : List Birth :=
  children.map (Birth.mk call)

@[simp] theorem map_child_ofCall (call : Nat) (children : List Agent) :
    (ofCall call children).map child = children := by
  rw [ofCall, List.map_map]
  exact List.map_id children

theorem call_of_mem_ofCall {call : Nat} {children : List Agent} {birth : Birth}
    (member : birth ∈ ofCall call children) : birth.call = call := by
  rcases List.mem_map.mp member with ⟨child, _, birthEq⟩
  rw [← birthEq]

end Birth

/-- A world with its history: how many rounds were called for, the last of these
in which all agents acted, who was there from the start, who was born and who was
removed. -/
structure Chronicle (σ : Type) where
  world : World σ
  calls : Nat
  settled : Nat
  founders : List Agent
  births : List Birth
  culled : List Agent

namespace Chronicle

/-- Everyone who was ever created. -/
def created (chronicle : Chronicle σ) : List Agent :=
  chronicle.founders ++ chronicle.births.map Birth.child

/-- Notes the children that are born during the next call. -/
def bearing (children : List Agent) (chronicle : Chronicle σ) : Chronicle σ :=
  { chronicle with
    calls := chronicle.calls + 1
    births := chronicle.births ++ Birth.ofCall (chronicle.calls + 1) children }

/-- The children that were born since a round was last played to its end. -/
def queue (chronicle : Chronicle σ) : List Agent :=
  (chronicle.births.filter fun birth => chronicle.settled < birth.call).map Birth.child

structure Accounted (chronicle : Chronicle σ) : Prop where
  located : World.Located chronicle.created chronicle.culled chronicle.world
  settled_le : chronicle.settled ≤ chronicle.calls
  call_le : ∀ birth ∈ chronicle.births, birth.call ≤ chronicle.calls
  waiting : chronicle.world.unborn = chronicle.queue

theorem queue_eq_nil {chronicle : Chronicle σ}
    (past : ∀ birth ∈ chronicle.births, birth.call ≤ chronicle.settled) :
    chronicle.queue = [] := by
  rw [queue, List.map_eq_nil_iff, List.filter_eq_nil_iff]
  intro birth member
  simpa using past birth member

theorem created_bearing (children : List Agent) (chronicle : Chronicle σ) :
    (chronicle.bearing children).created = chronicle.created ++ children := by
  rw [created, bearing, List.map_append, Birth.map_child_ofCall, ← List.append_assoc]
  rfl

namespace Accounted

variable {chronicle : Chronicle σ}

theorem call_le_bearing (accounted : Accounted chronicle) (children : List Agent) :
    ∀ birth ∈ (chronicle.bearing children).births, birth.call ≤ chronicle.calls + 1 := by
  intro birth member
  rcases List.mem_append.mp member with before | now
  · have earlier := accounted.call_le birth before
    omega
  · exact Nat.le_of_eq (Birth.call_of_mem_ofCall now)

theorem queue_bearing (accounted : Accounted chronicle) (children : List Agent) :
    (chronicle.bearing children).queue = chronicle.world.unborn ++ children := by
  have recent : (Birth.ofCall (chronicle.calls + 1) children).filter
      (fun birth => chronicle.settled < birth.call) =
        Birth.ofCall (chronicle.calls + 1) children := by
    rw [List.filter_eq_self]
    intro birth member
    rw [Birth.call_of_mem_ofCall member]
    exact decide_eq_true (Nat.lt_succ_of_le accounted.settled_le)
  rw [queue, bearing, List.filter_append, List.map_append, recent, Birth.map_child_ofCall,
    accounted.waiting]
  rfl

end Accounted

end Chronicle

variable [RandomSource σ]

namespace World

/-- The turns of the first agents in the order of a round. -/
def playedBy (count : Nat) (round : Int) (world : World σ) : Turns σ :=
  Surroundings.turns world.settings.traits ((world.beginRound round).agents.take count)
    (world.beginRound round).toSurroundings

/-- The children of the first agents in the order of a round. -/
def birthsBy (count : Nat) (round : Int) (world : World σ) : List Agent :=
  (Surroundings.occasions world.settings.traits
    ((world.beginRound round).agents.take count)
    (world.beginRound round).toSurroundings).flatMap
      (Occasion.newborns world.settings.traits)

/-- The world in the middle of a round, when the first agents have acted. -/
def actedBy (count : Nat) (round : Int) (world : World σ) : World σ :=
  { world.beginRound round with
    toSurroundings := (world.playedBy count round).surroundings
    agents := (world.playedBy count round).agents ++
      (world.beginRound round).agents.drop count }

theorem length_beginRound (round : Int) (world : World σ) :
    (world.beginRound round).agents.length = world.agents.length :=
  (world.beginRound_perm round).length_eq

theorem actedBy_length (round : Int) (world : World σ) :
    world.actedBy world.agents.length round = world.acted round := by
  rw [actedBy, playedBy, ← length_beginRound round, List.take_length, List.drop_length,
    List.append_nil]
  rfl

theorem birthsBy_length (round : Int) (world : World σ) :
    world.birthsBy world.agents.length round = world.births round := by
  rw [birthsBy, ← length_beginRound round, List.take_length]
  rfl

theorem unborn_actedBy (count : Nat) (round : Int) (world : World σ) :
    (world.actedBy count round).unborn = world.unborn ++ world.birthsBy count round :=
  (Surroundings.turns_acts _ _ _).unborn_eq

theorem populate_numbered (settings : Settings) (board : Board) (count : Nat) (id : Int)
    (random : σ) : Agent.Numbered id (populate settings board count id random).1 := by
  induction count generalizing id random with
  | zero => trivial
  | succ count induction => exact ⟨rfl, induction _ _⟩

theorem length_populate (settings : Settings) (board : Board) (count : Nat) (id : Int)
    (random : σ) : (populate settings board count id random).1.length = count := by
  induction count generalizing id random with
  | zero => rfl
  | succ count induction => exact congrArg Nat.succ (induction _ _)

/-- What holds of every agent that can be spawned holds of the first agents. -/
theorem forall_mem_populate {settings : Settings} {board : Board} {property : Agent → Prop}
    (spawned : ∀ id (random : σ), property (Agent.spawn settings id board random).1)
    (count : Nat) (id : Int) (random : σ) :
    ∀ agent ∈ (populate settings board count id random).1, property agent := by
  induction count generalizing id random with
  | zero => exact List.forall_mem_nil _
  | succ count induction =>
      exact List.forall_mem_cons.mpr ⟨spawned id random, induction _ _⟩

theorem populate_founder (settings : Settings) (board : Board) (count : Nat) (id : Int)
    (random : σ) : ∀ agent ∈ (populate settings board count id random).1,
      agent.generation = 0 ∧ agent.age = 0 :=
  forall_mem_populate (fun _ _ => ⟨rfl, rfl⟩) count id random

theorem create_numbered (settings : Settings) (board : Board) (random : σ) :
    Agent.Numbered 0 (create settings board random).agents :=
  populate_numbered _ _ _ _ _

theorem length_create (settings : Settings) (board : Board) (random : σ) :
    (create settings board random).agents.length = settings.initialPopulation.toNat :=
  length_populate _ _ _ _ _

namespace Located

variable {created culled : List Agent} {world : World σ}

theorem start (settings : Settings) (board : Board) (random : σ) :
    Located (create settings board random).agents [] (create settings board random) := by
  have numbered := create_numbered settings board random
  have length := length_create settings board random
  refine ⟨numbered.increasing, fun agent member => ?_, ?_, fun agent member => ?_⟩
  · have below := (numbered.bounds member).2
    rwa [length, Int.zero_add] at below
  · rw [everyone, List.append_nil]
    exact (List.Perm.of_eq (congrArg _ (List.append_nil _)))
  · cases member

theorem actedBy (located : Located created culled world) (count : Nat) (round : Int) :
    Located (created ++ world.birthsBy count round) culled
      (world.actedBy count round) := by
  have acts := Surroundings.turns_acts world.settings.traits
    ((world.beginRound round).agents.take count) (world.beginRound round).toSurroundings
  have numbered : Agent.Numbered world.nextId (world.birthsBy count round) := acts.numbered
  have nextId : (world.actedBy count round).nextId =
      world.nextId + (world.birthsBy count round).length +
        (world.playedBy count round).fault.toList.length := acts.nextId_eq
  have agents : ((world.actedBy count round).agents.map Agent.id).Perm
      (world.agents.map Agent.id) := by
    have order := (world.beginRound_perm round).map Agent.id
    rw [World.actedBy, List.map_append]
    rwa [World.playedBy, acts.ids_eq, ← List.map_append, List.take_append_drop]
  have unborn := world.unborn_actedBy count round
  refine ⟨?_, ?_, ?_, located.dead⟩
  · apply List.pairwise_append.mpr
    refine ⟨located.increasing, numbered.increasing, fun earlier before later now => ?_⟩
    have below := located.below earlier before
    have above := (numbered.bounds now).1
    omega
  · intro agent member
    rcases List.mem_append.mp member with before | now
    · have below := located.below agent before
      omega
    · have below := (numbered.bounds now).2
      omega
  -- Nobody leaves, and the children are new in the queue as in the list of all.
  · have before := located.perm.append_right ((world.birthsBy count round).map Agent.id)
    simp only [everyone, unborn, List.map_append, List.append_assoc] at before ⊢
    refine (agents.append_right _).trans ?_
    exact ((List.perm_append_comm.append_left _).append_left _).trans before

theorem acted (located : Located created culled world) (round : Int) :
    Located (created ++ world.births round) culled (world.acted round) := by
  have located := located.actedBy world.agents.length round
  rwa [birthsBy_length, actedBy_length] at located

end Located

end World

namespace Chronicle

def start (settings : Settings) (board : Board) (random : σ) : Chronicle σ where
  world := .create settings board random
  calls := 0
  settled := 0
  founders := (World.create settings board random).agents
  births := []
  culled := []

/-- A call for a round. -/
def step (round : Int) (chronicle : Chronicle σ) : Chronicle σ :=
  let world := chronicle.world
  if world.status = .running then
    { chronicle.bearing (world.births round) with
      world := (world.step round).1
      settled :=
        if (world.played round).fault.isNone then chronicle.calls + 1
        else chronicle.settled
      culled := chronicle.culled ++ world.culled round }
  else chronicle.bearing []

def run (calls : List Int) (chronicle : Chronicle σ) : Chronicle σ :=
  calls.foldl (fun chronicle round => chronicle.step round) chronicle

/-- In the middle of a call, when the first agents have acted. -/
def actedBy (count : Nat) (round : Int) (chronicle : Chronicle σ) : Chronicle σ :=
  { chronicle.bearing (chronicle.world.birthsBy count round) with
    world := chronicle.world.actedBy count round }

/-- In the middle of a call, when the children have joined. -/
def joined (round : Int) (chronicle : Chronicle σ) : Chronicle σ :=
  { chronicle.bearing (chronicle.world.births round) with
    world := (chronicle.world.acted round).joined
    settled := chronicle.calls + 1 }

/-- The moments of a history: between calls, between the turns of the agents, and
between the births and the deaths of a round in which all agents acted. -/
inductive Moment (first : Chronicle σ) : Chronicle σ → Prop
  | between (calls : List Int) : Moment first (first.run calls)
  | acting (calls : List Int) (count : Nat) (round : Int)
      (running : (first.run calls).world.status = .running) :
      Moment first ((first.run calls).actedBy count round)
  | joining (calls : List Int) (round : Int)
      (running : (first.run calls).world.status = .running)
      (done : ((first.run calls).world.played round).fault = none) :
      Moment first ((first.run calls).joined round)

namespace Accounted

variable {chronicle : Chronicle σ}

theorem start (settings : Settings) (board : Board) (random : σ) :
    Accounted (Chronicle.start settings board random) where
  located := by
    have located := World.Located.start settings board random
    rwa [← List.append_nil (World.create settings board random).agents] at located
  settled_le := Nat.le_refl _
  call_le birth member := by cases member
  waiting := rfl

theorem actedBy (accounted : Accounted chronicle) (count : Nat) (round : Int) :
    Accounted (chronicle.actedBy count round) where
  located := by
    have located := accounted.located.actedBy count round
    rwa [← created_bearing] at located
  settled_le := Nat.le_succ_of_le accounted.settled_le
  call_le := accounted.call_le_bearing _
  waiting := by
    have unborn := chronicle.world.unborn_actedBy count round
    rwa [← accounted.queue_bearing] at unborn

theorem joined (accounted : Accounted chronicle) (round : Int) :
    Accounted (chronicle.joined round) where
  located := by
    have located := (accounted.located.acted round).joined
    rwa [← created_bearing] at located
  settled_le := Nat.le_refl _
  call_le := accounted.call_le_bearing _
  waiting := (queue_eq_nil (accounted.call_le_bearing _)).symm

theorem step (accounted : Accounted chronicle) (round : Int) :
    Accounted (chronicle.step round) := by
  have stepped := chronicle.world.step_stepped round
  generalize called : chronicle.world.step round = result at stepped
  cases stepped with
  | refused ended =>
      rw [Chronicle.step, if_neg ended]
      refine ⟨?_, Nat.le_succ_of_le accounted.settled_le, accounted.call_le_bearing [], ?_⟩
      · rw [created_bearing, List.append_nil]
        exact accounted.located
      · rw [← List.append_nil (Chronicle.world _).unborn]
        exact (accounted.queue_bearing []).symm
  | interrupted running fault stopped =>
      simp only [Chronicle.step, if_pos running, called, stopped]
      have located := accounted.located.acted round
      have unborn := (chronicle.world.acts round).unborn_eq
      rw [← created_bearing] at located
      refine ⟨?_, Nat.le_succ_of_le accounted.settled_le, accounted.call_le_bearing _, ?_⟩
      · rw [World.culled_of_stopped stopped, List.append_nil]
        exact located
      · exact unborn.trans (accounted.queue_bearing _).symm
  | concluded running done =>
      simp only [Chronicle.step, if_pos running, called, done]
      have located := (accounted.located.acted round).conclude round
      rw [← created_bearing, ← World.culled_of_done done] at located
      refine ⟨located, Nat.le_refl _, accounted.call_le_bearing _, ?_⟩
      rw [World.conclude_surroundings]
      exact (queue_eq_nil (accounted.call_le_bearing _)).symm

theorem run (accounted : Accounted chronicle) (calls : List Int) :
    Accounted (chronicle.run calls) := by
  induction calls generalizing chronicle with
  | nil => exact accounted
  | cons round rest induction => exact induction (accounted.step round)

theorem moment (accounted : Accounted chronicle) {moment : Chronicle σ}
    (reached : Moment chronicle moment) : Accounted moment := by
  cases reached with
  | between calls => exact accounted.run calls
  | acting calls count round running => exact (accounted.run calls).actedBy count round
  | joining calls round running done => exact (accounted.run calls).joined round

end Accounted

theorem culled_prefix_step (chronicle : Chronicle σ) (round : Int) :
    chronicle.culled <+: (chronicle.step round).culled := by
  simp only [step]
  split
  · exact List.prefix_append _ _
  · exact List.prefix_refl _

theorem culled_prefix_run (chronicle : Chronicle σ) (calls : List Int) :
    chronicle.culled <+: (chronicle.run calls).culled := by
  induction calls generalizing chronicle with
  | nil => exact List.prefix_refl _
  | cons round rest induction =>
      exact (chronicle.culled_prefix_step round).trans (induction _)

theorem culled_prefix {chronicle moment : Chronicle σ} (reached : Moment chronicle moment) :
    chronicle.culled <+: moment.culled := by
  cases reached with
  | between calls => exact chronicle.culled_prefix_run calls
  | acting calls count round running => exact chronicle.culled_prefix_run calls
  | joining calls round running done => exact chronicle.culled_prefix_run calls

theorem world_step (chronicle : Chronicle σ) (round : Int) :
    (chronicle.step round).world = (chronicle.world.step round).1 := by
  simp only [step]
  split
  · rfl
  · rename_i ended
    rw [World.step, if_neg ended]
    rfl

/-- A chronicle does not interfere with its world. -/
theorem world_run (chronicle : Chronicle σ) (calls : List Int) :
    (chronicle.run calls).world =
      calls.foldl (fun world round => (world.step round).1) chronicle.world := by
  induction calls generalizing chronicle with
  | nil => rfl
  | cons round rest induction =>
      rw [List.foldl_cons, ← world_step]
      exact induction _

/-- At every moment of every history, also when calls fail on the way, everyone ever
created is in the population, or waits to join it, or is dead for good. A fault in
the middle of a round only delays the children: they wait until a round is played to
its end, which lets in them and its own children and nobody else. -/
theorem everyone_accounted (settings : Settings) (board : Board) (random : σ)
    (calls : List Int) :
    let now := (start settings board random).run calls
    now.world = calls.foldl (fun world round => (world.step round).1)
      (.create settings board random) ∧
    (∀ moment, Moment now moment →
      (moment.world.everyone.map Agent.id).Nodup ∧
      (∀ agent ∈ moment.world.everyone, agent.id < moment.world.nextId) ∧
      (moment.created.map Agent.id).Nodup ∧
      ((moment.world.everyone ++ moment.culled).map Agent.id).Perm
        (moment.created.map Agent.id) ∧
      (∀ agent ∈ moment.culled, agent.energy < 0) ∧
      now.culled <+: moment.culled ∧
      ∀ agent ∈ now.culled, agent.id ∉ moment.world.everyone.map Agent.id) ∧
    (∀ round fault, now.world.status = .running →
      (now.world.played round).fault = some fault → now.world.Interrupted round fault) ∧
    ∀ round, now.world.status = .running → (now.world.played round).fault = none →
      World.Settled now.queue round now.world := by
  intro now
  have accounted : Accounted now := (Accounted.start settings board random).run calls
  refine ⟨world_run _ _, fun moment reached => ?_, fun round fault => World.step_interrupted,
    fun round running done => ?_⟩
  · have located := (accounted.moment reached).located
    have kept := culled_prefix reached
    exact ⟨(List.nodup_append.mp located.nodup_everyone_append_culled).1,
      fun _ => located.lt_nextId, located.nodup_created, located.perm, located.dead, kept,
      fun _ member => located.not_mem_of_culled (kept.subset member)⟩
  · rw [← accounted.waiting]
    exact World.step_settled running done

/-- Nobody can reproduce when mutations have nothing to choose from. -/
def barren : Chronicle Zeros :=
  start { initialPopulation := 2, instructionPool := [] } .meadow Zeros.mk

theorem barren_accounted :
    Moment (barren.run [1]) (barren.run [1]) ∧
      ((barren.run [1]).world.everyone.map Agent.id).Nodup ∧
      (barren.run [1]).world.status = .running ∧
      ((barren.run [1]).world.played 2).fault = some .emptyChoice ∧
      (barren.run [1]).world.Interrupted 2 .emptyChoice := by
  have reached : Moment (barren.run [1]) (barren.run [1]) := .between []
  have running : (barren.run [1]).world.status = .running := by decide +kernel
  have stopped : ((barren.run [1]).world.played 2).fault = some .emptyChoice := by
    decide +kernel
  rcases everyone_accounted { initialPopulation := 2, instructionPool := [] }
      .meadow Zeros.mk [1] with ⟨_, moments, interrupted, _⟩
  exact ⟨reached, (moments _ reached).1, running, stopped, interrupted 2 _ running stopped⟩

end Chronicle

end Foragers
