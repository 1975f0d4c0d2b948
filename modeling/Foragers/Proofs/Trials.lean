import Foragers.Proofs.Mutation
import Foragers.Proofs.Reproduction

/-! # Three trials

A mutation makes three trials, and what they come to does not depend on the program. They
decide which further numbers are drawn and how far the child can be from its parent: one
instruction less or more at the end, and one overwritten.
-/

namespace Foragers

variable {σ α β : Type}

/-! ## Recorded draws -/

/-- What a source is asked for. -/
inductive Request where
  | fraction
  | below (bound : Nat)
  deriving DecidableEq, Repr

/-- A source and everything that it was asked for. -/
structure Recorded (σ : Type) where
  random : σ
  requests : List Request

instance [RandomSource σ] : RandomSource (Recorded σ) where
  below bound recorded :=
    let drawn := RandomSource.below bound recorded.random
    (drawn.1, ⟨drawn.2, recorded.requests ++ [.below bound]⟩)
  fraction recorded :=
    let drawn := RandomSource.fraction recorded.random
    (drawn.1, ⟨drawn.2, recorded.requests ++ [.fraction]⟩)
  below_lt bound recorded positive := RandomSource.below_lt bound recorded.random positive
  fraction_lt recorded := RandomSource.fraction_lt recorded.random

namespace Draw

theorem bind_of_ok {first : Draw σ α} {next : α → Draw σ β} {random between : σ} {value : α}
    (drawn : first random = .ok value between) :
    (first >>= next) random = next value between := by
  change EStateM.bind first next random = _
  rw [EStateM.bind, drawn]

theorem bind_of_error {first : Draw σ α} {next : α → Draw σ β} {random between : σ}
    {fault : Fault} (failed : first random = .error fault between) :
    (first >>= next) random = .error fault between := by
  change EStateM.bind first next random = _
  rw [EStateM.bind, failed]

/-- From a state of its source on, a computation returns a value and asks for some draws.
That they are recorded changes nothing. -/
structure Asks (plain : Draw σ α) (recorded : Draw (Recorded σ) α) (random : σ)
    (requests : List Request) (value : α) (later : σ) : Prop where
  plain_eq : plain random = .ok value later
  recorded_eq : ∀ earlier,
    recorded ⟨random, earlier⟩ = .ok value ⟨later, earlier ++ requests⟩

namespace Asks

variable {random between later : σ} {requests others : List Request} {value : α} {result : β}

theorem pure (value : α) (random : σ) :
    Asks (Pure.pure value) (Pure.pure value) random [] value random where
  plain_eq := rfl
  recorded_eq earlier := by
    rw [List.append_nil]
    rfl

theorem bind {first : Draw σ α} {firstRecorded : Draw (Recorded σ) α} {next : α → Draw σ β}
    {nextRecorded : α → Draw (Recorded σ) β}
    (head : Asks first firstRecorded random requests value between)
    (tail : Asks (next value) (nextRecorded value) between others result later) :
    Asks (first >>= next) (firstRecorded >>= nextRecorded) random (requests ++ others)
      result later where
  plain_eq := (bind_of_ok head.plain_eq).trans tail.plain_eq
  recorded_eq earlier := by
    rw [bind_of_ok (head.recorded_eq earlier), tail.recorded_eq, List.append_assoc]

variable [RandomSource σ]

theorem chance (probability : Binary64) (random : σ) :
    Asks (Draw.chance probability) (Draw.chance probability) random [.fraction]
      (RandomSource.chance probability random).1
      (RandomSource.chance probability random).2 where
  plain_eq := rfl
  recorded_eq _ := rfl

theorem below (bound : Nat) (random : σ) :
    Asks (Draw.below bound) (Draw.below bound) random [.below bound]
      (RandomSource.below bound random).1 (RandomSource.below bound random).2 where
  plain_eq := rfl
  recorded_eq _ := rfl

theorem oneOf {items : List α} (nonempty : items ≠ []) (random : σ) :
    ∃ item ∈ items, Asks (Draw.oneOf items) (Draw.oneOf items) random
      [.below items.length] item (RandomSource.below items.length random).2 := by
  cases items with
  | nil => exact absurd rfl nonempty
  | cons first rest => exact ⟨_, List.get_mem _ _, rfl, fun _ => rfl⟩

end Asks

end Draw

/-! ## What the trials come to -/

/-- Which trials of a mutation succeed. -/
structure Trials where
  removal : Bool
  addition : Bool
  change : Bool
  deriving DecidableEq, Repr

namespace Trials

/-- What the first trial leaves of a program. -/
def trimmed (trials : Trials) (program : Program) : Program :=
  if trials.removal then program.dropLast else program

/-- The length of the program that the third trial is about. -/
def lengthBetween (trials : Trials) (program : Program) : Nat :=
  (trials.trimmed program).length + trials.addition.toNat

/-- The draws of a mutation that chooses from a number of instructions. Three are for the
trials, one is for an addition, and two are for a change where there is something to
overwrite. -/
def requests (trials : Trials) (choices length : Nat) : List Request :=
  .fraction :: .fraction :: ((if trials.addition then [.below choices] else []) ++
    .fraction :: if trials.change && length ≠ 0 then [.below length, .below choices] else [])

end Trials

namespace Program

variable [RandomSource σ]

def removalTrial (traits : Traits) (random : σ) : Bool × σ :=
  RandomSource.chance traits.removalProbability random

def additionTrial (traits : Traits) (random : σ) : Bool × σ :=
  RandomSource.chance traits.additionProbability (removalTrial traits random).2

/-- The third trial comes after the choice of what is added. -/
def changeTrial (traits : Traits) (random : σ) : Bool × σ :=
  let added := additionTrial traits random
  RandomSource.chance traits.changeProbability <|
    if added.1 then (RandomSource.below traits.instructionPool.length added.2).2 else added.2

/-- The trials of a mutation from a state of its source on. -/
def trialsFrom (traits : Traits) (random : σ) : Trials where
  removal := (removalTrial traits random).1
  addition := (additionTrial traits random).1
  change := (changeTrial traits random).1

variable {traits : Traits} {program child : Program} {random later : σ}

theorem trim_asks (traits : Traits) (program : Program) (random : σ) :
    Draw.Asks (trim traits program) (trim traits program) random [.fraction]
      ((trialsFrom traits random).trimmed program) (removalTrial traits random).2 :=
  (Draw.Asks.chance traits.removalProbability random).bind (.pure _ _)

theorem extend_asks (choices : traits.instructionPool ≠ []) (program : Program) (random : σ) :
    ∃ added ⊆ traits.instructionPool,
      let trial := RandomSource.chance traits.additionProbability random
      added.length = trial.1.toNat ∧
      Draw.Asks (extend traits program) (extend traits program) random
        (.fraction :: if trial.1 then [.below traits.instructionPool.length] else [])
        (program ++ added)
        (if trial.1 then (RandomSource.below traits.instructionPool.length trial.2).2
          else trial.2) := by
  have tried := Draw.Asks.chance traits.additionProbability random
  generalize RandomSource.chance traits.additionProbability random = trial at tried
  rcases trial with ⟨adds, between⟩
  cases adds with
  | false =>
      refine ⟨[], List.nil_subset _, rfl, ?_⟩
      rw [List.append_nil]
      exact tried.bind (.pure _ _)
  | true =>
      rcases Draw.Asks.oneOf choices between with ⟨added, member, chosen⟩
      refine ⟨[added], by simpa using member, rfl, ?_⟩
      exact tried.bind (chosen.bind (.pure _ _))

/-- At most one instruction of the program is overwritten, with one from the pool. -/
inductive Retouched (pool program : Program) : Program → Prop
  | kept : Retouched pool program program
  | changed {index : Nat} {replacement : Instruction} (within : index < program.length)
      (drawn : replacement ∈ pool) : Retouched pool program (program.set index replacement)

theorem overwrite_asks (choices : traits.instructionPool ≠ []) (program : Program)
    (random : σ) :
    let trial := RandomSource.chance traits.changeProbability random
    let overwrites := trial.1 && program.length ≠ 0
    ∃ child, Retouched traits.instructionPool program child ∧
      Draw.Asks (overwrite traits program) (overwrite traits program) random
        (.fraction :: if overwrites then
          [.below program.length, .below traits.instructionPool.length] else [])
        child
        (if overwrites then (RandomSource.below traits.instructionPool.length
          (RandomSource.below program.length trial.2).2).2 else trial.2) := by
  have tried := Draw.Asks.chance traits.changeProbability random
  generalize RandomSource.chance traits.changeProbability random = trial at tried
  rcases trial with ⟨changes, between⟩
  cases changes with
  | false => exact ⟨program, .kept, tried.bind (.pure _ _)⟩
  | true =>
      cases program with
      | nil => exact ⟨[], .kept, tried.bind (.pure _ _)⟩
      | cons first rest =>
          have placed := Draw.Asks.below (first :: rest).length between
          have within := RandomSource.below_lt (first :: rest).length between (by simp)
          rcases Draw.Asks.oneOf choices
            (RandomSource.below (first :: rest).length between).2 with
            ⟨replacement, member, chosen⟩
          exact ⟨_, .changed within member, tried.bind (placed.bind (chosen.bind (.pure _ _)))⟩

/-- The source after a mutation whose third trial is about a program of some length. -/
def sourceAfter (traits : Traits) (random : σ) (length : Nat) : σ :=
  let trial := changeTrial traits random
  if trial.1 && length ≠ 0 then
    (RandomSource.below traits.instructionPool.length
      (RandomSource.below length trial.2).2).2
  else trial.2

/-- With instructions to choose from a mutation returns, and the program decides on the
draws only by the length of what the third trial is about. -/
theorem mutate_asks (choices : traits.instructionPool ≠ []) (program : Program)
    (random : σ) :
    let trials := trialsFrom traits random
    let length := trials.lengthBetween program
    ∃ added child, added ⊆ traits.instructionPool ∧ added.length = trials.addition.toNat ∧
      Retouched traits.instructionPool (trials.trimmed program ++ added) child ∧
      Draw.Asks (mutate traits program) (mutate traits program) random
        (trials.requests traits.instructionPool.length length) child
        (sourceAfter traits random length) := by
  have trimAsks := trim_asks traits program random
  rcases extend_asks choices ((trialsFrom traits random).trimmed program)
    (removalTrial traits random).2 with ⟨added, addedSubset, addedLength, extendAsks⟩
  rcases overwrite_asks choices ((trialsFrom traits random).trimmed program ++ added)
    (if (additionTrial traits random).1 then
      (RandomSource.below traits.instructionPool.length (additionTrial traits random).2).2
      else (additionTrial traits random).2) with ⟨child, retouched, overwriteAsks⟩
  refine ⟨added, child, addedSubset, addedLength, retouched, ?_⟩
  have lengthEq : ((trialsFrom traits random).trimmed program ++ added).length =
      (trialsFrom traits random).lengthBetween program := by
    rw [List.length_append, addedLength]
    rfl
  rw [lengthEq] at overwriteAsks
  exact trimAsks.bind (extendAsks.bind overwriteAsks)

end Program

/-! ## One bounded edit -/

/-- How the program of a child differs from its parent's after some trials. -/
structure BoundedEdit (pool : Program) (trials : Trials) (program child : Program) : Prop
    extends Program.Edited pool 1 1 program child where
  kept : ∃ overwritten, ∀ index : Nat, index + 1 < program.length → index ≠ overwritten →
    child[index]? = program[index]?
  drawn : ∀ (index : Nat) (instruction : Instruction), child[index]? = some instruction →
    program[index]? ≠ some instruction → instruction ∈ pool
  kept_of_unremoved : trials.removal = false → ∃ overwritten, ∀ index : Nat,
    index < program.length → index ≠ overwritten → child[index]? = program[index]?
  grown_of_unremoved : trials.removal = false → ∃ added ⊆ pool,
    added.length = trials.addition.toNat ∧ Program.Retouched pool (program ++ added) child
  of_empty : child = [] →
    (program.length ≤ 1 ∧ trials.removal = true ∨ program = []) ∧ trials.addition = false

namespace Program

variable {pool program added between child : Program} {trials : Trials}

theorem Retouched.length_eq (retouched : Retouched pool between child) :
    child.length = between.length := by
  cases retouched with
  | kept => rfl
  | changed within drawn => exact List.length_set

theorem Retouched.exists_kept (retouched : Retouched pool between child) :
    ∃ overwritten, ∀ index : Nat, index ≠ overwritten → child[index]? = between[index]? := by
  cases retouched with
  | kept => exact ⟨0, fun _ _ => rfl⟩
  | @changed overwritten replacement within drawn =>
      exact ⟨overwritten, fun index other => List.getElem?_set_ne other.symm⟩

theorem Retouched.mem_or_eq (retouched : Retouched pool between child) {index : Nat}
    {instruction : Instruction} (found : child[index]? = some instruction) :
    instruction ∈ pool ∨ between[index]? = some instruction := by
  cases retouched with
  | kept => exact .inr found
  | @changed overwritten replacement within drawn =>
      by_cases same : overwritten = index
      · rw [← same, List.getElem?_set_self within] at found
        cases found
        exact .inl drawn
      · rw [List.getElem?_set_ne same] at found
        exact .inr found

theorem trimmed_of_unremoved (unremoved : trials.removal = false) (program : Program) :
    trials.trimmed program = program := by
  simp [Trials.trimmed, unremoved]

theorem length_le_trimmed (trials : Trials) (program : Program) :
    program.length ≤ (trials.trimmed program).length + 1 := by
  unfold Trials.trimmed
  split
  · rw [List.length_dropLast]
    omega
  · exact Nat.le_succ _

theorem getElem?_trimmed {index : Nat} (within : index < (trials.trimmed program).length) :
    (trials.trimmed program)[index]? = program[index]? := by
  have isPrefix : trials.trimmed program <+: program := by
    unfold Trials.trimmed
    split
    · exact List.dropLast_prefix program
    · exact List.prefix_rfl
  rw [List.getElem?_eq_getElem within, List.prefix_iff_getElem?.mp isPrefix index within]

theorem boundedEdit_of_retouched (addedSubset : added ⊆ pool)
    (addedLength : added.length = trials.addition.toNat)
    (retouched : Retouched pool (trials.trimmed program ++ added) child)
    (edited : Edited pool 1 1 program child) : BoundedEdit pool trials program child := by
  have long := length_le_trimmed trials program
  have unmoved : ∀ index < (trials.trimmed program).length,
      (trials.trimmed program ++ added)[index]? = program[index]? := by
    intro index within
    rw [List.getElem?_append_left within, getElem?_trimmed within]
  rcases retouched.exists_kept with ⟨overwritten, kept⟩
  constructor
  case toEdited => exact edited
  case kept =>
    refine ⟨overwritten, fun index within other => ?_⟩
    rw [kept index other, unmoved index (by omega)]
  case drawn =>
    intro index instruction found differs
    rcases retouched.mem_or_eq found with member | foundBefore
    · exact member
    · by_cases within : index < (trials.trimmed program).length
      · rw [unmoved index within] at foundBefore
        exact absurd foundBefore differs
      · rw [List.getElem?_append_right (Nat.le_of_not_lt within)] at foundBefore
        exact addedSubset (List.mem_of_getElem? foundBefore)
  case kept_of_unremoved =>
    intro unremoved
    rw [trimmed_of_unremoved unremoved] at unmoved
    refine ⟨overwritten, fun index within other => ?_⟩
    rw [kept index other, trimmed_of_unremoved unremoved, unmoved index within]
  case grown_of_unremoved =>
    intro unremoved
    rw [trimmed_of_unremoved unremoved] at retouched
    exact ⟨added, addedSubset, addedLength, retouched⟩
  case of_empty =>
    rintro rfl
    have nothing := retouched.length_eq
    rw [List.length_nil, List.length_append, addedLength] at nothing
    refine ⟨?_, Bool.toNat_eq_zero.mp (by omega)⟩
    cases removal : trials.removal with
    | true => exact .inl ⟨by omega, rfl⟩
    | false =>
        rw [trimmed_of_unremoved removal] at nothing
        exact .inr (List.length_eq_zero_iff.mp (by omega))

/-! ## A pool without instructions -/

section

variable [RandomSource σ] {traits : Traits} {random later : σ} {fault : Fault}

/-- A trial asks for an instruction, and there is none to choose. -/
structure Starves (traits : Traits) (program : Program) (random : σ) : Prop where
  pool_eq_nil : traits.instructionPool = []
  asked : (trialsFrom traits random).addition = true ∨
    (trialsFrom traits random).change = true ∧
      (trialsFrom traits random).trimmed program ≠ []

theorem extend_of_failed
    (failed : (RandomSource.chance traits.additionProbability random).1 = false) :
    extend traits program random =
      .ok program (RandomSource.chance traits.additionProbability random).2 := by
  rw [extend, Draw.bind_of_ok (Draw.Asks.chance _ _).plain_eq, failed]
  rfl

theorem extend_of_starves (program : Program) (empty : traits.instructionPool = [])
    (succeeded : (RandomSource.chance traits.additionProbability random).1 = true) :
    ∃ later, extend traits program random = .error .emptyChoice later := by
  rw [extend, Draw.bind_of_ok (Draw.Asks.chance _ _).plain_eq, succeeded, empty]
  exact ⟨_, rfl⟩

theorem overwrite_of_failed
    (failed : ¬((RandomSource.chance traits.changeProbability random).1 = true ∧
      program ≠ [])) :
    overwrite traits program random =
      .ok program (RandomSource.chance traits.changeProbability random).2 := by
  rw [overwrite, Draw.bind_of_ok (Draw.Asks.chance _ _).plain_eq,
    if_neg (by simpa using failed)]
  rfl

theorem overwrite_of_starves (empty : traits.instructionPool = [])
    (succeeded : (RandomSource.chance traits.changeProbability random).1 = true)
    (nonempty : program ≠ []) :
    ∃ later, overwrite traits program random = .error .emptyChoice later := by
  rw [overwrite, Draw.bind_of_ok (Draw.Asks.chance _ _).plain_eq,
    if_pos (by simp [succeeded, nonempty]), empty]
  exact ⟨_, rfl⟩

/-- Without an addition, the third trial is about what the first one left. -/
theorem mutate_of_unadded (unadded : (trialsFrom traits random).addition = false) :
    mutate traits program random = overwrite traits
      ((trialsFrom traits random).trimmed program) (additionTrial traits random).2 := by
  rw [mutate, Draw.bind_of_ok (trim_asks traits program random).plain_eq,
    Draw.bind_of_ok (extend_of_failed unadded)]
  rfl

theorem change_of_unadded (unadded : (trialsFrom traits random).addition = false) :
    (trialsFrom traits random).change =
      (RandomSource.chance traits.changeProbability (additionTrial traits random).2).1 := by
  have failed : (additionTrial traits random).1 = false := unadded
  simp only [trialsFrom, changeTrial, failed, Bool.false_eq_true, if_false]

theorem mutate_of_starves (starves : Starves traits program random) :
    ∃ later, mutate traits program random = .error .emptyChoice later := by
  have empty := starves.pool_eq_nil
  cases addition : (trialsFrom traits random).addition with
  | true =>
      rcases extend_of_starves ((trialsFrom traits random).trimmed program) empty addition
        with ⟨later, failed⟩
      refine ⟨later, ?_⟩
      rw [mutate, Draw.bind_of_ok (trim_asks traits program random).plain_eq,
        Draw.bind_of_error failed]
  | false =>
      rcases starves.asked with added | ⟨change, nonempty⟩
      · rw [addition] at added
        cases added
      · rw [change_of_unadded addition] at change
        rw [mutate_of_unadded addition]
        exact overwrite_of_starves empty change nonempty

theorem mutate_of_not_starves (fed : ¬Starves traits program random) :
    ∃ child later, mutate traits program random = .ok child later := by
  by_cases choices : traits.instructionPool = []
  · cases addition : (trialsFrom traits random).addition with
    | true => exact absurd ⟨choices, .inl addition⟩ fed
    | false =>
        rw [mutate_of_unadded addition]
        refine ⟨_, _, overwrite_of_failed fun asked => fed ⟨choices, .inr ?_⟩⟩
        rw [change_of_unadded addition]
        exact asked
  · rcases mutate_asks choices program random with ⟨_, child, _, _, _, asks⟩
    exact ⟨child, _, asks.plain_eq⟩

/-- A mutation fails exactly when there is nothing to choose where a choice is asked for. -/
theorem mutate_eq_error_iff :
    (∃ later, mutate traits program random = .error fault later) ↔
      fault = .emptyChoice ∧ Starves traits program random := by
  by_cases starves : Starves traits program random
  · rcases mutate_of_starves starves with ⟨later, failed⟩
    simp [failed, starves, eq_comm]
  · rcases mutate_of_not_starves starves with ⟨child, later, returned⟩
    simp [returned, starves]

/-- With instructions to choose from a mutation returns a bounded edit of the program, and
where it leaves the source depends on the program only by the length of what the third
trial is about. It fails exactly when there is nothing to choose where a choice is asked
for. A parent keeps the program that its child has an edit of. -/
theorem mutation_bounded (traits : Traits) (random : σ) :
    (traits.instructionPool ≠ [] → ∃ last : Nat → σ, ∀ program, ∃ child,
      let trials := trialsFrom traits random
      let length := trials.lengthBetween program
      BoundedEdit traits.instructionPool trials program child ∧
        Draw.Asks (mutate traits program) (mutate traits program) random
          (trials.requests traits.instructionPool.length length) child (last length)) ∧
    (∀ program fault, (∃ later, mutate traits program random = .error fault later) ↔
      fault = .emptyChoice ∧ Starves traits program random) ∧
    ∀ parent childId, (Agent.reproduce traits parent childId random).parent.program =
      parent.program := by
  refine ⟨fun choices => ⟨sourceAfter traits random, fun program => ?_⟩,
    fun program fault => mutate_eq_error_iff, fun parent childId => ?_⟩
  · rcases mutate_asks choices program random with
      ⟨added, child, addedSubset, addedLength, retouched, asks⟩
    have edited := mutate_edited asks.plain_eq
    exact ⟨child, boundedEdit_of_retouched addedSubset addedLength retouched edited, asks⟩
  · have reproduced := Agent.reproduce_reproduced traits parent childId random
    generalize parent.reproduce traits childId random = result at reproduced ⊢
    cases reproduced <;> rfl

/-- All trials succeed where zeros are drawn, and there are two instructions to choose from. -/
def restless : Traits :=
  { ({} : Settings).traits with instructionPool := [.eat, .move] }

theorem restless_bounded :
    restless.instructionPool ≠ [] ∧ ∃ child,
      BoundedEdit [.eat, .move] ⟨true, true, true⟩ [.move, .sniff] child ∧
        mutate restless [.move, .sniff] (Recorded.mk Zeros.mk []) = .ok child
          ⟨Zeros.mk, [.fraction, .fraction, .below 2, .fraction, .below 2, .below 2]⟩ := by
  have choices : restless.instructionPool ≠ [] := by decide
  have trials : trialsFrom restless Zeros.mk = ⟨true, true, true⟩ := by decide +kernel
  rcases (mutation_bounded restless Zeros.mk).1 choices with ⟨last, edits⟩
  rcases edits [.move, .sniff] with ⟨child, bounded, asks⟩
  rw [trials] at bounded asks
  exact ⟨choices, child, bounded, asks.recorded_eq []⟩

end

end Program

end Foragers
