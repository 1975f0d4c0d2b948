import Foragers.Proofs.Reach

/-! # Feeding

Who eats looks at the eight cells around its own. On a board that is one cell wide or
high some of them are the own cell again, so there a body can feed on the cell that it
stands on, and it does so before it looks at most of the others. On every other board it
feeds on the first neighbour with food.
-/

namespace Foragers

/-- The board goes around itself in a single step. -/
def Board.Narrow (board : Board) : Prop :=
  board.width = 1 ∨ board.height = 1

/-- A search passes over an item that it does not find. -/
theorem find?_filter_ne {α : Type} [DecidableEq α] {items : List α} {wanted : α → Bool}
    {item : α} (other : items.find? wanted ≠ some item) :
    (items.filter (· ≠ item)).find? wanted = items.find? wanted := by
  induction items with
  | nil => rfl
  | cons first rest induction =>
      rw [List.find?_cons] at other ⊢
      cases found : wanted first with
      | true =>
          rw [found] at other
          have kept : first ≠ item := fun same => other (congrArg some same)
          simp [kept, found]
      | false =>
          rw [found] at other
          have later := induction other
          by_cases same : first = item
          · simpa [same] using later
          · simpa [same, found] using later

namespace Scene

/-- The cell that the body stands on. -/
def here (scene : Scene) : Position :=
  scene.board.wrap scene.body.position

/-- The cell that is looked at first. -/
def corner (scene : Scene) : Position :=
  scene.board.wrap (scene.body.position.shift (-1) (-1))

/-- The neighbours that are other cells than the body's own, in the order in which they
are looked at. -/
def others (scene : Scene) : List Position :=
  scene.neighbours.filter (· ≠ scene.here)

/-! ## The cell that food is found in -/

/-- The body comes upon the food of its own cell before that of any other. -/
structure MeetsItself (scene : Scene) : Prop where
  narrow : scene.board.Narrow
  food : scene.board.hasFood scene.here = true
  first : scene.board.hasFood scene.corner = true → scene.corner = scene.here

variable {scene : Scene}

theorem narrow_of_here_mem (member : scene.here ∈ scene.neighbours) :
    scene.board.Narrow := by
  rcases List.mem_map.mp member with ⟨⟨dx, dy⟩, offset, back⟩
  have around := (scene.board.wrap_shift_eq_wrap_iff scene.body.position dx dy).mp back
  have units : ∀ offset ∈ neighbourOffsets, offset.1 ∣ 1 ∨ offset.2 ∣ 1 := by decide
  rcases units _ offset with column | row
  · exact .inl (Nat.dvd_one.mp (Int.natCast_dvd_natCast.mp (around.1.trans column)))
  · exact .inr (Nat.dvd_one.mp (Int.natCast_dvd_natCast.mp (around.2.trans row)))

/-- On a narrow board nothing but the corner is looked at before the own cell. -/
theorem neighbours_of_narrow (narrow : scene.board.Narrow) :
    ∃ count rest, scene.neighbours =
      List.replicate (count + 1) scene.corner ++ scene.here :: rest := by
  rcases narrow with width | height
  · have back : scene.board.wrap (scene.body.position.shift (-1) 0) = scene.here := by
      rw [here, scene.board.wrap_shift_eq_wrap_iff, width]
      exact ⟨one_dvd _, dvd_zero _⟩
    have expanded : scene.neighbours = scene.corner ::
        scene.board.wrap (scene.body.position.shift (-1) 0) :: scene.neighbours.drop 2 := rfl
    rw [back] at expanded
    exact ⟨0, _, expanded⟩
  · have back : scene.board.wrap (scene.body.position.shift 0 (-1)) = scene.here := by
      rw [here, scene.board.wrap_shift_eq_wrap_iff, height]
      exact ⟨dvd_zero _, one_dvd _⟩
    have beside (dy : Int) :
        scene.board.wrap (scene.body.position.shift (-1) dy) = scene.corner := by
      rw [corner, scene.board.wrap_shift_eq_iff, height]
      exact ⟨by simp, one_dvd _⟩
    have expanded : scene.neighbours = scene.corner ::
        scene.board.wrap (scene.body.position.shift (-1) 0) ::
        scene.board.wrap (scene.body.position.shift (-1) 1) ::
        scene.board.wrap (scene.body.position.shift 0 (-1)) :: scene.neighbours.drop 4 := rfl
    rw [back, beside, beside] at expanded
    exact ⟨2, _, expanded⟩

/-- The first food that is found is that of the own cell only on a narrow board. -/
theorem find?_eq_here_iff :
    scene.neighbours.find? scene.board.hasFood = some scene.here ↔ scene.MeetsItself := by
  constructor
  · intro found
    refine ⟨narrow_of_here_mem (List.mem_of_find?_eq_some found), List.find?_some found, ?_⟩
    intro food
    have expanded : scene.neighbours = scene.corner :: scene.neighbours.drop 1 := rfl
    rw [expanded, List.find?_cons, food] at found
    exact Option.some.inj found
  · rintro ⟨narrow, food, first⟩
    rcases neighbours_of_narrow narrow with ⟨count, rest, expanded⟩
    rw [expanded, List.find?_append, List.find?_replicate, List.find?_cons, food]
    cases ripe : scene.board.hasFood scene.corner with
    | true => simp [first ripe]
    | false => simp

/-! ## What eating comes to -/

theorem eat_of_find?_eq_some {target : Position}
    (found : scene.neighbours.find? scene.board.hasFood = some target) :
    scene.eat = scene.visit target := by
  rw [eat, found]

/-- Food is only taken from other cells than the body's own. The body goes to the first of
them with food, if there is one, and gains the energy of that cell. -/
structure FeedsOnOthers (scene after : Scene) : Prop where
  own_kept : after.board.cellAt scene.body.position =
    scene.board.cellAt scene.body.position
  fed : ∀ target, scene.others.find? scene.board.hasFood = some target →
    after = {
      body := { scene.body with
        position := target
        energy := scene.body.energy + (scene.board.cellAt target).energy }
      board := (scene.board.consume target).2 }
  idle : scene.others.find? scene.board.hasFood = none → after = scene

theorem feedsOnOthers_of_not_meetsItself (apart : ¬scene.MeetsItself) :
    FeedsOnOthers scene scene.eat := by
  have same : scene.others.find? scene.board.hasFood =
      scene.neighbours.find? scene.board.hasFood :=
    find?_filter_ne (mt find?_eq_here_iff.mp apart)
  constructor
  case own_kept =>
    cases found : scene.neighbours.find? scene.board.hasFood with
    | none => rw [eat, found]
    | some target =>
        have wrapped := wrap_of_mem_neighbours (List.mem_of_find?_eq_some found)
        have other : scene.board.wrap scene.body.position ≠ scene.board.wrap target := by
          intro back
          rw [wrapped] at back
          rw [← back] at found
          exact apart (find?_eq_here_iff.mp found)
        rw [eat_of_find?_eq_some found]
        exact Board.cellAt_consume_of_ne other
  case fed =>
    intro target found
    rw [same] at found
    rw [eat_of_find?_eq_some found, visit_of_food (List.find?_some found)]
  case idle =>
    intro nothing
    rw [same] at nothing
    rw [eat, nothing]

namespace MeetsItself

theorem eat_eq (meets : scene.MeetsItself) :
    scene.eat = {
      body := { scene.body with
        position := scene.here
        energy := scene.body.energy + (scene.board.cellAt scene.here).energy }
      board := (scene.board.consume scene.here).2 } := by
  rw [eat_of_find?_eq_some (find?_eq_here_iff.mpr meets), visit_of_food meets.food]

/-- The own cell has no food any more. -/
theorem hasFood_eat (meets : scene.MeetsItself) :
    scene.eat.board.hasFood scene.body.position = false := by
  have here : scene.board.wrap scene.body.position = scene.board.wrap scene.here :=
    (scene.board.wrap_wrap _).symm
  rw [meets.eat_eq, Board.hasFood, Board.cellAt_consume, if_pos ⟨meets.food, here⟩,
    Cell.hasFood_eaten]

theorem not_feedsOnOthers (meets : scene.MeetsItself) :
    ¬FeedsOnOthers scene scene.eat := by
  intro feeds
  have food := meets.food
  rw [Board.hasFood, here, scene.board.cellAt_congr (scene.board.wrap_wrap _),
    ← feeds.own_kept] at food
  exact absurd food (by simpa [Board.hasFood] using meets.hasFood_eat)

end MeetsItself

/-- Who eats feeds on the first other cell around its own that has food and on no other
cell, unless it comes upon its own food first. That happens only on a board that is one
cell wide or high, and then the own food is what is eaten. -/
theorem eat_feedsOnOthers_iff (scene : Scene) :
    (FeedsOnOthers scene scene.eat ↔ ¬scene.MeetsItself) ∧
    (2 ≤ scene.board.width → 2 ≤ scene.board.height → FeedsOnOthers scene scene.eat) ∧
    (scene.MeetsItself →
      scene.eat = {
        body := { scene.body with
          position := scene.here
          energy := scene.body.energy + (scene.board.cellAt scene.here).energy }
        board := (scene.board.consume scene.here).2 } ∧
      scene.eat.board.hasFood scene.body.position = false) := by
  refine ⟨⟨?_, feedsOnOthers_of_not_meetsItself⟩, ?_, ?_⟩
  · intro feeds meets
    exact meets.not_feedsOnOthers feeds
  · intro wide high
    apply feedsOnOthers_of_not_meetsItself
    rintro ⟨width | height, _, _⟩ <;> omega
  · intro meets
    exact ⟨meets.eat_eq, meets.hasFood_eat⟩

end Scene

/-- Two rows of two cells, with food in the first and in the last one. -/
def Board.yard : Board where
  width := 2
  height := 2
  cells := #v[.food 5 3, .empty, .empty, .food 5 3]
  ripeCount := 2
  width_pos := Nat.two_pos
  height_pos := Nat.two_pos

/-- Three cells one below the other, with food in the first and in the last one. -/
def Board.corridor : Board where
  width := 1
  height := 3
  cells := #v[.food 5 3, .empty, .food 5 3]
  ripeCount := 2
  width_pos := Nat.one_pos
  height_pos := by decide

namespace Scene

/-- A body that stands on food. -/
def lodger (board : Board) (position : Position) : Scene where
  body := { energy := 10, position, heading := .up }
  board := board

theorem meetsItself_in_corridor : (lodger .corridor ⟨0, 2⟩).MeetsItself where
  narrow := .inl rfl
  food := rfl
  first food := by cases food

/-- In the yard the other food is eaten, and in the corridor the own one. -/
theorem lodger_eats :
    2 ≤ Board.yard.width ∧ 2 ≤ Board.yard.height ∧
      (lodger .yard ⟨0, 0⟩).eat.body.position = ⟨1, 1⟩ ∧
      (lodger .corridor ⟨0, 2⟩).MeetsItself ∧
      (lodger .corridor ⟨0, 2⟩).eat.body.position = ⟨0, 2⟩ := by
  have wide : 2 ≤ Board.yard.width := Nat.le_refl 2
  have high : 2 ≤ Board.yard.height := Nat.le_refl 2
  have beyond := ((eat_feedsOnOthers_iff (lodger .yard ⟨0, 0⟩)).2.1 wide high).fed ⟨1, 1⟩ rfl
  have own := (eat_feedsOnOthers_iff (lodger .corridor ⟨0, 2⟩)).2.2 meetsItself_in_corridor
  refine ⟨wide, high, ?_, meetsItself_in_corridor, ?_⟩
  · rw [beyond]
  · rw [own.1]
    rfl

/-- In a corridor the own food is eaten although there is food in another cell. -/
theorem corridor_not_feedsOnOthers :
    Board.ofLines 5 3 ["x", " ", "x"] = .ok .corridor ∧ Board.corridor.Inside ⟨0, 2⟩ ∧
      (lodger .corridor ⟨0, 2⟩).others.find? Board.corridor.hasFood = some ⟨0, 0⟩ ∧
      (lodger .corridor ⟨0, 2⟩).eat.body = { energy := 15, position := ⟨0, 2⟩, heading := .up } ∧
      (lodger .corridor ⟨0, 2⟩).eat.board.hasFood ⟨0, 2⟩ = false ∧
      ¬FeedsOnOthers (lodger .corridor ⟨0, 2⟩) (lodger .corridor ⟨0, 2⟩).eat := by
  have drawn : Board.ofLines 5 3 ["x", " ", "x"] = .ok .corridor := rfl
  have inside : Board.corridor.Inside ⟨0, 2⟩ := by constructor <;> decide
  exact ⟨drawn, inside, rfl, rfl, meetsItself_in_corridor.hasFood_eat,
    meetsItself_in_corridor.not_feedsOnOthers⟩

end Scene

end Foragers
