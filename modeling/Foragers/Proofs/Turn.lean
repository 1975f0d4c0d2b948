import Foragers.Proofs.Reproduction
import Foragers.World.Basic
import Mathlib.Data.List.Forall2
import Mathlib.Tactic.Linarith

/-! # Turns

The agents of a round act one after the other, each in the surroundings that the
ones before it left, up to the first fault. What holds of a round is shown for
one turn first and then for the list of all occasions to act.
-/

namespace Foragers

variable {σ : Type} [RandomSource σ]

namespace Agent

/-- Agents whose numbers follow each other. -/
def Numbered : Int → List Agent → Prop
  | _, [] => True
  | first, agent :: rest => agent.id = first ∧ Numbered (first + 1) rest

namespace Numbered

theorem append {first : Int} {earlier later : List Agent}
    (numbered : Numbered first earlier)
    (laterNumbered : Numbered (first + earlier.length) later) :
    Numbered first (earlier ++ later) := by
  induction earlier generalizing first with
  | nil => simpa using laterNumbered
  | cons agent rest induction =>
      refine ⟨numbered.1, induction numbered.2 ?_⟩
      rw [List.length_cons] at laterNumbered
      rwa [Int.add_assoc, Int.add_comm 1, ← Int.natCast_succ]

theorem bounds {first : Int} {agents : List Agent} (numbered : Numbered first agents)
    {agent : Agent} (member : agent ∈ agents) :
    first ≤ agent.id ∧ agent.id < first + agents.length := by
  induction agents generalizing first with
  | nil => cases member
  | cons head tail induction =>
      rw [List.length_cons, Int.natCast_succ]
      rcases List.mem_cons.mp member with same | later
      · rw [same, numbered.1]
        omega
      · have within := induction numbered.2 later
        omega

theorem increasing {first : Int} {agents : List Agent} (numbered : Numbered first agents) :
    agents.Pairwise fun earlier later => earlier.id < later.id := by
  induction agents generalizing first with
  | nil => exact .nil
  | cons head tail induction =>
      refine .cons (fun agent member => ?_) (induction numbered.2)
      have within := bounds numbered.2 member
      rw [numbered.1]
      omega

end Numbered

end Agent

namespace Surroundings

/-- Everything that an agent can come to that may reproduce. -/
inductive Bred (traits : Traits) (agent : Agent) (surroundings : Surroundings σ) :
    Turn σ → Prop
  | idle (unable : agent.canReproduce traits = false) :
      Bred traits agent surroundings ⟨agent, surroundings, .ok none⟩
  | failed (able : agent.canReproduce traits = true) (fault : Fault) (later : σ)
      (cause : Program.mutate traits agent.program surroundings.random = .error fault later ∨
        ∃ program,
          Program.mutate traits agent.program surroundings.random = .ok program later ∧
          Agent.energyShare agent.energy traits.energyFraction = .error fault) :
      Bred traits agent surroundings ⟨agent,
        { surroundings with random := later, nextId := surroundings.nextId + 1 },
        .error fault⟩
  | bore (able : agent.canReproduce traits = true) (program : Program) (later : σ)
      (mutated : Program.mutate traits agent.program surroundings.random = .ok program later)
      (share : Int)
      (shared : Agent.energyShare agent.energy traits.energyFraction = .ok share)
      (child : Agent)
      (offspring : child = agent.offspring surroundings.nextId program share
        (Agent.drawWilling traits later).1) :
      Bred traits agent surroundings ⟨{ agent with energy := agent.energy - share },
        { surroundings with
          random := (Agent.drawWilling traits later).2
          nextId := surroundings.nextId + 1
          unborn := surroundings.unborn ++ [child] },
        .ok (some child)⟩

theorem breed_bred (traits : Traits) (agent : Agent) (surroundings : Surroundings σ) :
    Bred traits agent surroundings (breed traits agent surroundings) := by
  unfold breed
  by_cases able : agent.canReproduce traits = true
  · rw [if_pos able]
    have reproduced := agent.reproduce_reproduced traits surroundings.nextId
      surroundings.random
    generalize agent.reproduce traits surroundings.nextId surroundings.random = result
      at reproduced ⊢
    cases reproduced with
    | refused unable =>
        rw [able] at unable
        contradiction
    | failed able fault later cause =>
        simp only [Agent.newborns, List.append_nil]
        exact .failed able fault later cause
    | born able program later mutated share shared =>
        exact .bore able program later mutated share shared _ rfl
  · rw [if_neg able]
    exact .idle (by simpa using able)

/-- The conditions of an outcome leave no other one. -/
theorem Bred.breed_eq {traits : Traits} {agent : Agent} {surroundings : Surroundings σ}
    {taken : Turn σ} (bred : Bred traits agent surroundings taken) :
    breed traits agent surroundings = taken := by
  cases bred with
  | idle unable => rw [breed, if_neg (by simp [unable])]
  | failed able fault later cause =>
      have reproduced := (Agent.Reproduced.failed able fault later cause :
        Agent.Reproduced traits agent surroundings.nextId surroundings.random _)
      simp only [breed, if_pos able, reproduced.reproduce_eq, Agent.newborns,
        List.append_nil]
  | bore able program later mutated share shared child offspring =>
      have reproduced := (Agent.Reproduced.born able program later mutated share shared :
        Agent.Reproduced traits agent surroundings.nextId surroundings.random _)
      simp only [breed, if_pos able, reproduced.reproduce_eq, Agent.newborns, offspring]

theorem turn_bred (traits : Traits) (agent : Agent) (surroundings : Surroundings σ) :
    Bred traits (agent.liveRound traits surroundings.board surroundings.random).agent
      (surroundings.after
        (agent.liveRound traits surroundings.board surroundings.random))
      (turn traits agent surroundings) :=
  breed_bred _ _ _

/-- An agent that cannot reproduce only lives through its turn. -/
theorem turn_of_unable {traits : Traits} {agent : Agent} {surroundings : Surroundings σ}
    (unable : (agent.liveRound traits surroundings.board
      surroundings.random).agent.canReproduce traits = false) :
    turn traits agent surroundings =
      ⟨(agent.liveRound traits surroundings.board surroundings.random).agent,
        surroundings.after (agent.liveRound traits surroundings.board surroundings.random),
        .ok none⟩ := by
  rw [turn, breed, if_neg (by simp [unable])]

namespace Bred

variable {traits : Traits} {agent : Agent} {surroundings : Surroundings σ} {taken : Turn σ}

theorem agent_eq (bred : Bred traits agent surroundings taken) :
    taken.agent = { agent with energy := taken.agent.energy } := by
  cases bred <;> rfl

theorem board_eq (bred : Bred traits agent surroundings taken) :
    taken.surroundings.board = surroundings.board := by
  cases bred <;> rfl

theorem unborn_eq (bred : Bred traits agent surroundings taken) :
    taken.surroundings.unborn = surroundings.unborn ++ Agent.newborns taken.child := by
  cases bred with
  | idle unable => exact (List.append_nil _).symm
  | failed able fault later cause => exact (List.append_nil _).symm
  | bore able program later mutated share shared child offspring => rfl

theorem energy_eq (bred : Bred traits agent surroundings taken) :
    taken.agent.energy +
      ((Agent.newborns taken.child).map fun child => child.energy).sum = agent.energy := by
  cases bred with
  | idle unable => simp [Agent.newborns]
  | failed able fault later cause => simp [Agent.newborns]
  | bore able program later mutated share shared child offspring =>
      simp [Agent.newborns, offspring, Agent.offspring]

theorem newborn (bred : Bred traits agent surroundings taken) {child : Agent}
    (born : child ∈ Agent.newborns taken.child) :
    child.id = surroundings.nextId ∧ child.age = 0 ∧
      child.generation = agent.generation + 1 := by
  cases bred with
  | idle unable => cases born
  | failed able fault later cause => cases born
  | bore able program later mutated share shared delivered offspring =>
      rw [List.mem_singleton.mp born, offspring]
      exact ⟨rfl, rfl, rfl⟩

theorem nextId_of_ok (bred : Bred traits agent surroundings taken) {child : Option Agent}
    (ok : taken.child = .ok child) :
    taken.surroundings.nextId =
      surroundings.nextId + (Agent.newborns taken.child).length := by
  cases bred with
  | idle unable => exact (Int.add_zero _).symm
  | failed able fault later cause => cases ok
  | bore able program later mutated share shared child offspring => rfl

/-- An attempt that fails uses up a number too. -/
theorem nextId_of_error (bred : Bred traits agent surroundings taken) {fault : Fault}
    (failed : taken.child = .error fault) :
    taken.surroundings.nextId = surroundings.nextId + 1 := by
  cases bred with
  | idle unable => cases failed
  | failed able fault later cause => rfl
  | bore able program later mutated share shared child offspring => cases failed

end Bred

section

variable (traits : Traits) (agent : Agent) (surroundings : Surroundings σ)

theorem turn_unborn : (turn traits agent surroundings).surroundings.unborn =
    surroundings.unborn ++ Agent.newborns (turn traits agent surroundings).child :=
  (turn_bred traits agent surroundings).unborn_eq

@[simp] theorem turn_id : (turn traits agent surroundings).agent.id = agent.id := by
  rw [(turn_bred traits agent surroundings).agent_eq]
  rfl

@[simp] theorem turn_generation :
    (turn traits agent surroundings).agent.generation = agent.generation := by
  rw [(turn_bred traits agent surroundings).agent_eq]
  rfl

@[simp] theorem turn_age :
    (turn traits agent surroundings).agent.age = agent.age + 1 := by
  rw [(turn_bred traits agent surroundings).agent_eq]
  rfl

end

end Surroundings

/-- An agent and the surroundings that it finds when its turn comes. -/
structure Occasion (σ : Type) where
  agent : Agent
  surroundings : Surroundings σ

namespace Occasion

def turn (traits : Traits) (occasion : Occasion σ) : Turn σ :=
  Surroundings.turn traits occasion.agent occasion.surroundings

/-- The number of instructions that the agent executes on the occasion. -/
def executed (traits : Traits) (occasion : Occasion σ) : Nat :=
  (occasion.agent.liveRound traits occasion.surroundings.board
    occasion.surroundings.random).executed

def newborns (traits : Traits) (occasion : Occasion σ) : List Agent :=
  Agent.newborns (occasion.turn traits).child

end Occasion

namespace Surroundings

/-- The occasions at which agents act, one after the other, up to the first fault. -/
def occasions (traits : Traits) : List Agent → Surroundings σ → List (Occasion σ)
  | [], _ => []
  | agent :: rest, surroundings =>
      let first := turn traits agent surroundings
      match first.child with
      | .error _ => [⟨agent, surroundings⟩]
      | .ok _ => ⟨agent, surroundings⟩ :: occasions traits rest first.surroundings

/-- Agents act one after the other, on some occasions. -/
inductive Acts (traits : Traits) :
    List Agent → Surroundings σ → List (Occasion σ) → Turns σ → Prop
  | done (surroundings) : Acts traits [] surroundings [] ⟨[], surroundings, none⟩
  | stopped {agent waiting surroundings fault} :
      (turn traits agent surroundings).child = .error fault →
      Acts traits (agent :: waiting) surroundings [⟨agent, surroundings⟩]
        ⟨(turn traits agent surroundings).agent :: waiting,
          (turn traits agent surroundings).surroundings, some fault⟩
  | next {agent rest surroundings child later played} :
      (turn traits agent surroundings).child = .ok child →
      Acts traits rest (turn traits agent surroundings).surroundings later played →
      Acts traits (agent :: rest) surroundings (⟨agent, surroundings⟩ :: later)
        { played with agents := (turn traits agent surroundings).agent :: played.agents }

theorem turns_acts (traits : Traits) (agents : List Agent) (surroundings : Surroundings σ) :
    Acts traits agents surroundings (occasions traits agents surroundings)
      (turns traits agents surroundings) := by
  induction agents generalizing surroundings with
  | nil => exact .done surroundings
  | cons agent rest induction =>
      cases first : (turn traits agent surroundings).child with
      | error fault =>
          simp only [Surroundings.occasions, turns, first]
          exact .stopped first
      | ok child =>
          simp only [Surroundings.occasions, turns, first]
          exact .next first (induction _)

namespace Acts

variable {traits : Traits} {agents : List Agent} {surroundings : Surroundings σ}
  {occasions : List (Occasion σ)} {played : Turns σ}

/-- What every turn keeps is kept by all turns together. -/
theorem preserves (acts : Acts traits agents surroundings occasions played)
    (invariant : Surroundings σ → Prop)
    (kept : ∀ agent surroundings, invariant surroundings →
      invariant (turn traits agent surroundings).surroundings)
    (initially : invariant surroundings) : invariant played.surroundings := by
  induction acts with
  | done surroundings => exact initially
  | stopped failing => exact kept _ _ initially
  | next taken rest induction => exact induction (kept _ _ initially)

theorem ids_eq (acts : Acts traits agents surroundings occasions played) :
    played.agents.map Agent.id = agents.map Agent.id := by
  induction acts with
  | done surroundings => rfl
  | stopped failing => rw [List.map_cons, List.map_cons, turn_id]
  | next taken rest induction => rw [List.map_cons, List.map_cons, turn_id, induction]

theorem unborn_eq (acts : Acts traits agents surroundings occasions played) :
    played.surroundings.unborn =
      surroundings.unborn ++ occasions.flatMap (Occasion.newborns traits) := by
  induction acts with
  | done surroundings => exact (List.append_nil _).symm
  | stopped failing =>
      rw [turn_unborn, List.flatMap_singleton]
      rfl
  | next taken rest induction =>
      rw [induction, turn_unborn, List.append_assoc]
      rfl

/-- Without a fault every agent acts exactly once. -/
theorem agents_eq_of_done (acts : Acts traits agents surroundings occasions played)
    (done : played.fault = none) : occasions.map Occasion.agent = agents := by
  induction acts with
  | done surroundings => rfl
  | stopped failing => cases done
  | next taken rest induction => rw [List.map_cons, induction done]

/-- Without a fault everyone is as their turn left them. -/
theorem acted_eq_of_done (acts : Acts traits agents surroundings occasions played)
    (done : played.fault = none) :
    played.agents = occasions.map fun occasion => (occasion.turn traits).agent := by
  induction acts with
  | done surroundings => rfl
  | stopped failing => cases done
  | next taken rest induction =>
      rw [List.map_cons, ← induction done]
      rfl

theorem exists_turn_of_mem (acts : Acts traits agents surroundings occasions played)
    (done : played.fault = none) {agent : Agent} (member : agent ∈ played.agents) :
    ∃ earlier ∈ agents, ∃ found : Surroundings σ, agent = (turn traits earlier found).agent := by
  rw [acts.acted_eq_of_done done] at member
  rcases List.mem_map.mp member with ⟨occasion, present, agentEq⟩
  refine ⟨occasion.agent, ?_, occasion.surroundings, agentEq.symm⟩
  rw [← acts.agents_eq_of_done done]
  exact List.mem_map_of_mem present

/-- The children are numbered in the order of their birth. -/
theorem numbered (acts : Acts traits agents surroundings occasions played) :
    Agent.Numbered surroundings.nextId (occasions.flatMap (Occasion.newborns traits)) := by
  induction acts with
  | done surroundings => trivial
  | stopped failing =>
      rw [List.flatMap_singleton, Occasion.newborns, Occasion.turn, failing]
      trivial
  | @next agent rest surroundings child later played taken others induction =>
      have bred := turn_bred traits agent surroundings
      rw [bred.nextId_of_ok taken] at induction
      rw [List.flatMap_cons, Occasion.newborns, Occasion.turn]
      -- The child of this turn, if there is one, comes before those of later turns.
      apply Agent.Numbered.append _ induction
      cases child with
      | none =>
          rw [taken]
          trivial
      | some child =>
          have born : child ∈ Agent.newborns (turn traits agent surroundings).child := by
            rw [taken]
            exact List.mem_singleton.mpr rfl
          have idEq := (bred.newborn born).1
          rw [taken]
          exact ⟨idEq, trivial⟩

theorem nextId_eq (acts : Acts traits agents surroundings occasions played) :
    played.surroundings.nextId =
      surroundings.nextId + (occasions.flatMap (Occasion.newborns traits)).length +
        played.fault.toList.length := by
  induction acts with
  | done surroundings => simp
  | @stopped agent waiting surroundings fault failing =>
      have nextId := (turn_bred traits agent surroundings).nextId_of_error failing
      simp [Occasion.newborns, Occasion.turn, failing, Agent.newborns, nextId, after]
  | @next agent rest surroundings child later played taken others induction =>
      rw [induction, (turn_bred traits agent surroundings).nextId_of_ok taken]
      rw [List.flatMap_cons, List.length_append, Int.natCast_add, ← Int.add_assoc]
      rfl

theorem newborn (acts : Acts traits agents surroundings occasions played) {child : Agent}
    (born : child ∈ occasions.flatMap (Occasion.newborns traits)) :
    child.age = 0 ∧ ∃ parent ∈ agents, child.generation = parent.generation + 1 := by
  induction acts with
  | done surroundings => cases born
  | @stopped agent waiting surroundings fault failing =>
      rw [List.flatMap_singleton, Occasion.newborns, Occasion.turn, failing] at born
      cases born
  | @next agent rest surroundings delivered later played taken others induction =>
      rw [List.flatMap_cons] at born
      rcases List.mem_append.mp born with now | afterwards
      · have newborn := (turn_bred traits agent surroundings).newborn now
        exact ⟨newborn.2.1, agent, List.mem_cons_self, newborn.2.2⟩
      · rcases induction afterwards with ⟨age, parent, member, generation⟩
        exact ⟨age, parent, List.mem_cons_of_mem _ member, generation⟩

end Acts

/-- A fault stops the agents behind the one whose reproduction failed. -/
theorem exists_of_stopped (traits : Traits) (agents : List Agent)
    (surroundings : Surroundings σ) {fault : Fault}
    (stopped : (turns traits agents surroundings).fault = some fault) :
    ∃ front failing waiting, agents = front ++ failing :: waiting ∧
      (turns traits front surroundings).fault = none ∧
      (turn traits failing (turns traits front surroundings).surroundings).child =
        .error fault ∧
      turns traits agents surroundings = {
        agents := (turns traits front surroundings).agents ++
          (turn traits failing (turns traits front surroundings).surroundings).agent ::
            waiting
        surroundings :=
          (turn traits failing (turns traits front surroundings).surroundings).surroundings
        fault := some fault } := by
  induction agents generalizing surroundings with
  | nil => cases stopped
  | cons agent rest induction =>
      cases first : (turn traits agent surroundings).child with
      | error reason =>
          simp only [turns, first, Option.some.injEq] at stopped
          subst stopped
          refine ⟨[], agent, rest, rfl, rfl, first, ?_⟩
          simp only [turns, first, List.nil_append]
      | ok child =>
          simp only [turns, first] at stopped
          rcases induction _ stopped with
            ⟨front, failing, waiting, restEq, done, childEq, playedEq⟩
          refine ⟨agent :: front, failing, waiting, ?_, ?_, ?_, ?_⟩
          · rw [restEq, List.cons_append]
          · simpa only [turns, first] using done
          · simpa only [turns, first] using childEq
          · simp only [turns, first]
            rw [playedEq, List.cons_append]

end Surroundings

end Foragers
