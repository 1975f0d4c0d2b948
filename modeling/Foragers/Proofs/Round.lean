import Foragers.Proofs.Outcome
import Foragers.Proofs.Turn

/-! # Rounds

A round shuffles the agents, lets them act and, unless one of them met a fault,
lets the children join and removes the dead.
-/

namespace Foragers

variable {σ : Type}

theorem Agent.energy_of_mem_dead {agents : List Agent} {agent : Agent}
    (member : agent ∈ agents.filter fun agent => !agent.alive) : agent.energy < 0 := by
  have dead := (List.mem_filter.mp member).2
  simpa only [Agent.alive, Bool.not_eq_true', decide_eq_false_iff_not, Int.not_le]
    using dead

namespace World

/-- Everything that the end of a round can come to. -/
inductive Concluded (round : Int) (world : World σ) :
    World σ × Except Fault (Option RoundMetrics) → Prop
  | extinct (nobody : world.settle.agents = []) :
      Concluded round world
        ({ world.settle with status := .extinct round, metrics := none }, .ok none)
  | unmeasured (somebody : world.settle.agents ≠ []) (fault : Fault)
      (failed : world.measure round = .error fault) :
      Concluded round world (world.settle, .error fault)
  | measured (somebody : world.settle.agents ≠ []) (metrics : RoundMetrics)
      (measured : world.measure round = .ok metrics) :
      Concluded round world
        ({ world.settle with
            metrics := some metrics, history := world.settle.history.push metrics },
          .ok (some metrics))

theorem conclude_concluded (round : Int) (world : World σ) :
    Concluded round world (world.conclude round) := by
  unfold conclude
  by_cases nobody : world.settle.agents = []
  · rw [if_pos (List.isEmpty_iff.mpr nobody)]
    exact .extinct nobody
  · rw [if_neg (mt List.isEmpty_iff.mp nobody)]
    cases measured : world.measure round with
    | error fault => exact .unmeasured nobody fault measured
    | ok metrics => exact .measured nobody metrics measured

/-- Those who are left when a round is over. -/
theorem conclude_agents (round : Int) (world : World σ) :
    (world.conclude round).1.agents = world.everyone.filter Agent.alive := by
  have concluded := world.conclude_concluded round
  generalize world.conclude round = result at concluded ⊢
  cases concluded <;> rfl

theorem conclude_surroundings (round : Int) (world : World σ) :
    (world.conclude round).1.toSurroundings =
      { world.toSurroundings with unborn := [] } := by
  have concluded := world.conclude_concluded round
  generalize world.conclude round = result at concluded ⊢
  cases concluded <;> rfl

theorem conclude_status {round : Int} {world : World σ}
    (somebody : world.settle.agents ≠ []) :
    (world.conclude round).1.status = world.status := by
  have concluded := world.conclude_concluded round
  generalize world.conclude round = result at concluded ⊢
  cases concluded with
  | extinct nobody => exact absurd nobody somebody
  | unmeasured somebody fault failed => rfl
  | measured somebody metrics measured => rfl

@[simp] theorem conclude_settings (round : Int) (world : World σ) :
    (world.conclude round).1.settings = world.settings := by
  have concluded := world.conclude_concluded round
  generalize world.conclude round = result at concluded ⊢
  cases concluded <;> rfl

end World

variable [RandomSource σ]

namespace RandomSource

variable {α : Type}

private theorem swapIfInBounds_perm (items : Array α) (first second : Nat) :
    (items.swapIfInBounds first second).Perm items := by
  rw [Array.swapIfInBounds_def]
  split
  · split
    · exact Array.swap_perm _ _
    · exact .refl _
  · exact .refl _

theorem shuffleFrom_perm (last : Nat) (items : Array α) (random : σ) :
    (shuffleFrom last items random).1.Perm items := by
  induction last generalizing items random with
  | zero => exact .refl _
  | succ last induction =>
      exact (induction _ _).trans (swapIfInBounds_perm items _ _)

theorem shuffle_perm (items : List α) (random : σ) :
    (shuffle items random).1.Perm items :=
  (shuffleFrom_perm _ _ _).toList

private theorem swapIfInBounds_map {β : Type} (change : α → β) (items : Array α)
    (first second : Nat) :
    (items.map change).swapIfInBounds first second =
      (items.swapIfInBounds first second).map change := by
  simp only [Array.swapIfInBounds_def, Array.size_map]
  split
  · split
    · apply Array.ext
      · simp
      · intro index _ _
        simp only [Array.getElem_swap, Array.getElem_map]
        split
        · rfl
        · split <;> rfl
    · rfl
  · rfl

theorem shuffleFrom_map {β : Type} (change : α → β) (last : Nat) (items : Array α)
    (random : σ) :
    shuffleFrom last (items.map change) random =
      ((shuffleFrom last items random).1.map change,
        (shuffleFrom last items random).2) := by
  induction last generalizing items random with
  | zero => rfl
  | succ last induction =>
      simp only [shuffleFrom]
      rw [swapIfInBounds_map, induction]

/-- The order into which items are put does not depend on what they are. -/
theorem shuffle_map {β : Type} (change : α → β) (items : List α) (random : σ) :
    shuffle (items.map change) random =
      ((shuffle items random).1.map change, (shuffle items random).2) := by
  have mapped := shuffleFrom_map change (items.length - 1) items.toArray random
  rw [List.map_toArray] at mapped
  simp only [shuffle, List.length_map, mapped, Array.toList_map]

end RandomSource

namespace World

/-- What the acting agents of a round leave behind. -/
def played (round : Int) (world : World σ) : Turns σ :=
  Surroundings.turns world.settings.traits (world.beginRound round).agents
    (world.beginRound round).toSurroundings

/-- The occasions of a round at which agents act. -/
def occasions (round : Int) (world : World σ) : List (Occasion σ) :=
  Surroundings.occasions world.settings.traits (world.beginRound round).agents
    (world.beginRound round).toSurroundings

/-- The children that are born in a round. -/
def births (round : Int) (world : World σ) : List Agent :=
  (world.occasions round).flatMap (Occasion.newborns world.settings.traits)

/-- The number of instructions that all agents execute in a round. -/
def executed (round : Int) (world : World σ) : Nat :=
  ((world.occasions round).map (Occasion.executed world.settings.traits)).sum

/-- The world when the agents of a round have acted. -/
def acted (round : Int) (world : World σ) : World σ :=
  (world.beginRound round).act.1

/-- The dead whom a round removes, if it comes to that. -/
def culled (round : Int) (world : World σ) : List Agent :=
  match (world.played round).fault with
  | some _ => []
  | none => (world.acted round).everyone.filter fun agent => !agent.alive

theorem acts (round : Int) (world : World σ) :
    Surroundings.Acts world.settings.traits (world.beginRound round).agents
      (world.beginRound round).toSurroundings (world.occasions round)
      (world.played round) :=
  Surroundings.turns_acts _ _ _

theorem beginRound_perm (round : Int) (world : World σ) :
    (world.beginRound round).agents.Perm world.agents :=
  RandomSource.shuffle_perm _ _

/-- Everything that a call for a round can come to. -/
inductive Stepped (round : Int) (world : World σ) :
    World σ × Except Fault (Option RoundMetrics) → Prop
  | refused (ended : world.status ≠ .running) :
      Stepped round world (world, .error (.finished world.status))
  | interrupted (running : world.status = .running) (fault : Fault)
      (stopped : (world.played round).fault = some fault) :
      Stepped round world (world.acted round, .error fault)
  | concluded (running : world.status = .running)
      (done : (world.played round).fault = none) :
      Stepped round world ((world.acted round).conclude round)

theorem step_stepped (round : Int) (world : World σ) :
    Stepped round world (world.step round) := by
  unfold step
  by_cases running : world.status = .running
  · have act : (world.beginRound round).act =
        (world.acted round, (world.played round).fault) := rfl
    rw [if_pos running, act]
    cases stopped : (world.played round).fault with
    | some fault => exact .interrupted running fault stopped
    | none => exact .concluded running stopped
  · rw [if_neg running]
    exact .refused running

/-- Without a fault a round comes to its end. -/
theorem step_of_done {round : Int} {world : World σ} (running : world.status = .running)
    (done : (world.played round).fault = none) :
    world.step round = (world.acted round).conclude round := by
  have stepped := world.step_stepped round
  generalize world.step round = result at stepped ⊢
  cases stepped with
  | refused ended => contradiction
  | concluded running done => rfl
  | interrupted running fault stopped =>
      rw [done] at stopped
      cases stopped

/-- A call that returns played a round to its end. -/
theorem step_returned {round : Int} {world : World σ} {metrics : Option RoundMetrics}
    (returned : (world.step round).2 = .ok metrics) :
    world.status = .running ∧ (world.played round).fault = none ∧
      world.step round = (world.acted round).conclude round := by
  have stepped := world.step_stepped round
  generalize world.step round = result at stepped returned ⊢
  cases stepped with
  | refused ended => cases returned
  | interrupted running fault stopped => cases returned
  | concluded running done => exact ⟨running, done, rfl⟩

theorem acted_everyone (round : Int) (world : World σ) :
    (world.acted round).everyone =
      (world.played round).agents ++ (world.unborn ++ world.births round) :=
  congrArg _ (world.acts round).unborn_eq

/-- An agent meets a fault in a round. The agents keep their numbers, those behind
the failing one in the order of the round are left as they were, and the children
born before go on waiting. -/
structure Interrupted (round : Int) (world : World σ) (fault : Fault) : Prop where
  raised : (world.step round).2 = .error fault
  ids_perm : ((world.step round).1.agents.map Agent.id).Perm (world.agents.map Agent.id)
  order_perm : (world.beginRound round).agents.Perm world.agents
  untouched : ∃ front failing behind,
    (world.beginRound round).agents = front ++ failing :: behind ∧
    let earlier := Surroundings.turns world.settings.traits front
      (world.beginRound round).toSurroundings
    let last := Surroundings.turn world.settings.traits failing earlier.surroundings
    earlier.fault = none ∧ last.child = .error fault ∧
      (world.step round).1.agents = earlier.agents ++ last.agent :: behind
  waiting : (world.step round).1.unborn = world.unborn ++ world.births round

theorem step_interrupted {round : Int} {world : World σ} {fault : Fault}
    (running : world.status = .running) (stopped : (world.played round).fault = some fault) :
    Interrupted round world fault := by
  have order := world.beginRound_perm round
  have stepped := world.step_stepped round
  generalize called : world.step round = result at stepped
  cases stepped with
  | refused ended => contradiction
  | concluded running done =>
      rw [done] at stopped
      cases stopped
  | interrupted running other otherStopped =>
      rw [otherStopped] at stopped
      cases stopped
      rcases Surroundings.exists_of_stopped _ _ _ otherStopped with
        ⟨front, failing, behind, split, done, failure, playedEq⟩
      refine ⟨congrArg Prod.snd called, ?_, order, ?_, ?_⟩
      · rw [called]
        exact .trans (.of_eq (world.acts round).ids_eq) (order.map Agent.id)
      · rw [called]
        exact ⟨front, failing, behind, split, done, failure,
          congrArg Turns.agents playedEq⟩
      · rw [called]
        exact (world.acts round).unborn_eq

/-- A round is played to its end. Those who waited and the children of the round join
the agents who acted, and nobody else does. -/
structure Settled (queue : List Agent) (round : Int) (world : World σ) : Prop where
  agents_eq : (world.step round).1.agents =
    ((world.played round).agents ++ (queue ++ world.births round)).filter Agent.alive
  unborn_eq : (world.step round).1.unborn = []

theorem step_settled {round : Int} {world : World σ}
    (running : world.status = .running) (done : (world.played round).fault = none) :
    Settled world.unborn round world := by
  refine ⟨?_, ?_⟩
  · rw [step_of_done running done, conclude_agents, acted_everyone]
  · rw [step_of_done running done, conclude_surroundings]

theorem culled_of_stopped {round : Int} {world : World σ} {fault : Fault}
    (stopped : (world.played round).fault = some fault) : world.culled round = [] := by
  rw [culled, stopped]

theorem culled_of_done {round : Int} {world : World σ}
    (done : (world.played round).fault = none) :
    world.culled round =
      (world.acted round).everyone.filter fun agent => !agent.alive := by
  rw [culled, done]

/-- The survivors and the dead of a round together are all who lived in it. -/
theorem survivors_culled_perm {round : Int} {world : World σ}
    (done : (world.played round).fault = none) :
    (((world.acted round).conclude round).1.agents ++ world.culled round).Perm
      (world.acted round).everyone := by
  rw [conclude_agents, culled_of_done done]
  exact List.filter_append_perm _ _

theorem energy_of_mem_culled {round : Int} {world : World σ} {agent : Agent}
    (member : agent ∈ world.culled round) : agent.energy < 0 := by
  cases stopped : (world.played round).fault with
  | some fault =>
      rw [culled_of_stopped stopped] at member
      cases member
  | none =>
      rw [culled_of_done stopped] at member
      exact Agent.energy_of_mem_dead member

end World

/-- One cell with ripe food beside one without any. -/
def Board.meadow : Board where
  width := 2
  height := 1
  cells := #v[.food 5 3, .empty]
  ripeCount := 1
  width_pos := by decide
  height_pos := by decide

/-- Two agents with the default traits on a small board. -/
def World.settlers : World Zeros :=
  .create { initialPopulation := 2 } .meadow Zeros.mk

end Foragers
