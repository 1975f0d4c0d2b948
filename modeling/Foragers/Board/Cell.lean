namespace Foragers

/-! Cells of a board. Food that was eaten grows again: it counts rounds from
zero and is ripe once the count reaches the ripening time. -/

inductive CellKind where
  | empty
  | food
  deriving DecidableEq, Repr, Inhabited

structure Cell where
  kind : CellKind
  energy : Int := 0
  ripeningTime : Int := 0
  counter : Int := 0
  ripe : Bool := false
  deriving DecidableEq, Repr, Inhabited

namespace Cell

def empty : Cell where
  kind := .empty

/-- Food that is ripe from the start. -/
def food (energy ripeningTime : Int) : Cell where
  kind := .food
  energy := energy
  ripeningTime := ripeningTime
  counter := ripeningTime
  ripe := true

/-- There is something to eat: the cell grows food and it is ripe. -/
def hasFood (cell : Cell) : Bool :=
  cell.kind = .food && cell.ripe

def ripensNext (cell : Cell) : Bool :=
  cell.kind = .food && !cell.ripe && cell.ripeningTime ≤ cell.counter + 1

/-- One round of growth. Ripe food stays as it is. -/
def grow (cell : Cell) : Cell :=
  if cell.kind = .food && !cell.ripe then
    { cell with counter := cell.counter + 1, ripe := cell.ripeningTime ≤ cell.counter + 1 }
  else cell

def eaten (cell : Cell) : Cell :=
  { cell with counter := 0, ripe := false }

theorem hasFood_grow (cell : Cell) :
    cell.grow.hasFood = (cell.hasFood || cell.ripensNext) := by
  simp only [grow, hasFood, ripensNext]
  split <;> rename_i growing <;> simp_all

@[simp] theorem hasFood_eaten (cell : Cell) : cell.eaten.hasFood = false := by
  simp [eaten, hasFood]

end Cell

end Foragers
