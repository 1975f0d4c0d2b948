import Foragers.Proofs.Reproduction
import Foragers.World.Play

/-! # Draws

A draw below zero has no meaning, and none is ever made: sources that differ only
in what such a draw gives make the same worlds and play them alike.
-/

namespace Foragers

variable {σ : Type}

/-- Two sources that draw alike, except perhaps below zero. -/
structure RandomSource.Alike (source other : RandomSource σ) : Prop where
  below_eq : ∀ bound random, 0 < bound →
    other.below bound random = source.below bound random
  fraction_eq : ∀ random, other.fraction random = source.fraction random

namespace RandomSource.Alike

variable {source other : RandomSource σ}

theorem chance_eq (alike : Alike source other) : @chance σ other = @chance σ source := by
  funext probability random
  simp only [chance, alike.fraction_eq]

theorem shuffleFrom_eq (alike : Alike source other) {α : Type} :
    @shuffleFrom σ other α = @shuffleFrom σ source α := by
  funext last items random
  induction last generalizing items random with
  | zero => rfl
  | succ last induction =>
      simp only [shuffleFrom, alike.below_eq _ _ (Nat.succ_pos _), induction]

theorem shuffle_eq (alike : Alike source other) {α : Type} :
    @shuffle σ other α = @shuffle σ source α := by
  funext items random
  simp only [shuffle, alike.shuffleFrom_eq]

theorem oneOf_eq (alike : Alike source other) {α : Type} :
    @Draw.oneOf σ other α = @Draw.oneOf σ source α := by
  funext items
  cases items with
  | nil => rfl
  | cons first rest =>
      funext random
      simp only [Draw.oneOf, alike.below_eq _ _ (Nat.succ_pos _)]

theorem drawChance_eq (alike : Alike source other) :
    @Draw.chance σ other = @Draw.chance σ source := by
  funext probability random
  simp only [Draw.chance, alike.chance_eq]

theorem drawBelow_eq (alike : Alike source other) {bound : Nat} (positive : 0 < bound) :
    @Draw.below σ other bound = @Draw.below σ source bound := by
  funext random
  simp only [Draw.below, alike.below_eq _ _ positive]

/-! ## Agents -/

theorem overwrite_eq (alike : Alike source other) (traits : Traits) (program : Program) :
    @Program.overwrite σ other traits program =
      @Program.overwrite σ source traits program := by
  -- An index is drawn only when there is an instruction to overwrite.
  cases program with
  | nil => simp [Program.overwrite, alike.drawChance_eq]
  | cons instruction rest =>
      simp only [Program.overwrite, alike.drawChance_eq, alike.oneOf_eq,
        List.length_cons, alike.drawBelow_eq (Nat.succ_pos rest.length)]

theorem mutate_eq (alike : Alike source other) (traits : Traits) (program : Program) :
    @Program.mutate σ other traits program = @Program.mutate σ source traits program := by
  simp only [Program.mutate, Program.trim, Program.extend, alike.drawChance_eq,
    alike.oneOf_eq, alike.overwrite_eq]

theorem drawWilling_eq (alike : Alike source other) :
    @Agent.drawWilling σ other = @Agent.drawWilling σ source := by
  funext traits random
  simp only [Agent.drawWilling, alike.chance_eq]

theorem spawn_eq (alike : Alike source other) (settings : Settings) (id : Int)
    (board : Board) (random : σ) :
    @Agent.spawn σ other settings id board random =
      @Agent.spawn σ source settings id board random := by
  simp only [Agent.spawn, alike.drawWilling_eq, Board.randomPosition, Heading.random,
    alike.below_eq _ _ board.width_pos,
    alike.below_eq _ _ board.height_pos,
    alike.below_eq Heading.all.length _ (Nat.succ_pos _)]

theorem liveRound_eq (alike : Alike source other) (traits : Traits) (agent : Agent)
    (board : Board) (random : σ) :
    @Agent.liveRound σ other traits agent board random =
      @Agent.liveRound σ source traits agent board random := by
  simp only [Agent.liveRound, alike.drawWilling_eq]

theorem reproduce_eq (alike : Alike source other) (traits : Traits) (parent : Agent)
    (childId : Int) (random : σ) :
    @Agent.reproduce σ other traits parent childId random =
      @Agent.reproduce σ source traits parent childId random := by
  have reproduced := @Agent.reproduce_reproduced σ source traits parent childId random
  generalize @Agent.reproduce σ source traits parent childId random = result
    at reproduced ⊢
  apply @Agent.Reproduced.reproduce_eq σ other
  cases reproduced with
  | refused unable => exact .refused unable
  | failed able fault later cause =>
      rw [← alike.mutate_eq] at cause
      exact .failed able fault later cause
  | born able program later mutated share shared =>
      rw [← alike.mutate_eq] at mutated
      rw [← alike.drawWilling_eq]
      exact .born able program later mutated share shared

/-! ## Rounds -/

theorem turns_eq (alike : Alike source other) (traits : Traits) (agents : List Agent)
    (surroundings : Surroundings σ) :
    @Surroundings.turns σ other traits agents surroundings =
      @Surroundings.turns σ source traits agents surroundings := by
  have turn_eq (agent : Agent) (found : Surroundings σ) :
      @Surroundings.turn σ other traits agent found =
        @Surroundings.turn σ source traits agent found := by
    simp only [Surroundings.turn, Surroundings.breed, alike.liveRound_eq,
      alike.reproduce_eq]
  induction agents generalizing surroundings with
  | nil => rfl
  | cons agent rest induction => simp only [Surroundings.turns, turn_eq, induction]

theorem step_eq (alike : Alike source other) (round : Int) (world : World σ) :
    @World.step σ other round world = @World.step σ source round world := by
  simp only [World.step, World.beginRound, World.act, alike.shuffle_eq, alike.turns_eq]

theorem create_eq (alike : Alike source other) (settings : Settings) (board : Board)
    (random : σ) :
    @World.create σ other settings board random =
      @World.create σ source settings board random := by
  have populate_eq (count : Nat) (id : Int) (drawn : σ) :
      @World.populate σ other settings board count id drawn =
        @World.populate σ source settings board count id drawn := by
    induction count generalizing id drawn with
    | zero => rfl
    | succ count induction => simp only [World.populate, alike.spawn_eq, induction]
  simp only [World.create, populate_eq]

theorem play_eq (alike : Alike source other) (world : World σ) :
    @World.play σ other world = @World.play σ source world := by
  have playRounds_eq (count : Nat) (round : Int) (current : World σ)
      (events : Array Event) :
      @World.playRounds σ other count round current events =
        @World.playRounds σ source count round current events := by
    induction count generalizing round current events with
    | zero => rfl
    | succ count induction => simp only [World.playRounds, alike.step_eq, induction]
  simp only [World.play, playRounds_eq]

end RandomSource.Alike

end Foragers
