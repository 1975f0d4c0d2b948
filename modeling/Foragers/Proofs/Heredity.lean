import Foragers.Proofs.Course
import Foragers.Proofs.Mutation
import Foragers.Proofs.Reachable

/-! # Heredity

An agent keeps its program, and a child has a mutation of its parent's. So a law about
programs and numbers of ancestors that the initial program keeps, and a mutation too, is
kept by everyone who ever lives.
-/

namespace Foragers

variable {σ : Type}

/-- A law about programs after a number of ancestors. It holds of the founders, and of
a child when it holds of the parent, whatever is drawn from a kind of source. -/
structure Settings.Hereditary (σ : Type) [RandomSource σ] (settings : Settings)
    (law : Int → Program → Prop) : Prop where
  founder : law 0 settings.initialProgram
  child : ∀ {generation program child} {random later : σ}, law generation program →
    Program.mutate settings.traits program random = .ok child later →
    law (generation + 1) child

def Agent.Obeys (law : Int → Program → Prop) (agent : Agent) : Prop :=
  law agent.generation agent.program

/-- Everyone who lives or waits to join obeys a law. -/
structure World.Obeys (settings : Settings) (law : Int → Program → Prop) (world : World σ) :
    Prop where
  settings_eq : world.settings = settings
  everyone : ∀ agent ∈ world.everyone, agent.Obeys law

variable {settings : Settings} {law : Int → Program → Prop}

theorem World.Obeys.conclude {world : World σ} (obeys : world.Obeys settings law)
    (round : Int) : (world.conclude round).1.Obeys settings law := by
  refine ⟨(world.conclude_settings round).trans obeys.settings_eq, ?_⟩
  intro agent member
  rw [World.everyone, conclude_agents, conclude_surroundings, List.append_nil] at member
  exact obeys.everyone agent (List.mem_filter.mp member).1

namespace Settings.Hereditary

variable [RandomSource σ] (hereditary : settings.Hereditary σ law)

include hereditary

/-! ## Turns -/

theorem bred {agent : Agent} {surroundings : Surroundings σ} {taken : Turn σ}
    (bred : Surroundings.Bred settings.traits agent surroundings taken)
    (obeys : agent.Obeys law) :
    taken.agent.Obeys law ∧ ∀ child ∈ Agent.newborns taken.child, child.Obeys law := by
  cases bred with
  | idle unable => exact ⟨obeys, List.forall_mem_nil _⟩
  | failed able fault later cause => exact ⟨obeys, List.forall_mem_nil _⟩
  | bore able program later mutated share shared child offspring =>
      refine ⟨obeys, fun born member => ?_⟩
      rw [List.mem_singleton.mp member, offspring]
      exact hereditary.child obeys mutated

theorem turn {agent : Agent} (obeys : agent.Obeys law) (surroundings : Surroundings σ) :
    (Surroundings.turn settings.traits agent surroundings).agent.Obeys law ∧
      ∀ child ∈ Agent.newborns (Surroundings.turn settings.traits agent surroundings).child,
        child.Obeys law :=
  hereditary.bred (Surroundings.turn_bred settings.traits agent surroundings) obeys

theorem acts {agents : List Agent} {surroundings : Surroundings σ}
    {occasions : List (Occasion σ)} {played : Turns σ}
    (acts : Surroundings.Acts settings.traits agents surroundings occasions played)
    (obey : ∀ agent ∈ agents, agent.Obeys law) :
    (∀ agent ∈ played.agents, agent.Obeys law) ∧
      ∀ child ∈ occasions.flatMap (Occasion.newborns settings.traits), child.Obeys law := by
  induction acts with
  | done surroundings => exact ⟨List.forall_mem_nil _, List.forall_mem_nil _⟩
  | @stopped agent waiting surroundings fault failing =>
      rcases List.forall_mem_cons.mp obey with ⟨acting, behind⟩
      have taken := hereditary.turn acting surroundings
      rw [List.flatMap_singleton]
      exact ⟨List.forall_mem_cons.mpr ⟨taken.1, behind⟩, taken.2⟩
  | @next agent rest surroundings child later played taken others induction =>
      rcases List.forall_mem_cons.mp obey with ⟨acting, behind⟩
      have first := hereditary.turn acting surroundings
      have left := induction behind
      rw [List.flatMap_cons]
      exact ⟨List.forall_mem_cons.mpr ⟨first.1, left.1⟩,
        List.forall_mem_append.mpr ⟨first.2, left.2⟩⟩

/-! ## Rounds -/

theorem acted {world : World σ} (obeys : world.Obeys settings law) (round : Int) :
    (world.acted round).Obeys settings law := by
  have order := world.beginRound_perm round
  have acts := world.acts round
  rcases List.forall_mem_append.mp obeys.everyone with ⟨living, waiting⟩
  rw [obeys.settings_eq] at acts
  have left := hereditary.acts acts fun agent member => living agent (order.mem_iff.mp member)
  refine ⟨obeys.settings_eq, ?_⟩
  rw [World.acted_everyone, World.births, obeys.settings_eq]
  exact List.forall_mem_append.mpr ⟨left.1, List.forall_mem_append.mpr ⟨waiting, left.2⟩⟩

theorem step {world : World σ} (obeys : world.Obeys settings law) (round : Int) :
    (world.step round).1.Obeys settings law := by
  have stepped := world.step_stepped round
  generalize world.step round = result at stepped ⊢
  cases stepped with
  | refused ended => exact obeys
  | interrupted running fault stopped => exact hereditary.acted obeys round
  | concluded running done => exact (hereditary.acted obeys round).conclude round

/-- Whatever is called for and whether it fails or not, everyone obeys the law. -/
theorem reachable {board : Board} {random : σ} {world : World σ}
    (reached : World.Reachable (.create settings board random) world) :
    world.Obeys settings law := by
  apply reached.preserves (World.Obeys settings law)
  · intro world round obeys
    exact hereditary.step obeys round
  · intro world obeys
    exact ⟨obeys.settings_eq, obeys.everyone⟩
  · refine ⟨rfl, ?_⟩
    rw [World.everyone, World.create, List.append_nil]
    exact World.forall_mem_populate (fun _ _ => hereditary.founder) _ 0 random

end Settings.Hereditary

end Foragers
