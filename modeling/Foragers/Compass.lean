namespace Foragers

/-! Headings and positions on a board. The vertical coordinate is a row number,
so it grows downwards and `up` decreases it. -/

inductive Heading where
  | up
  | down
  | right
  | left
  deriving DecidableEq, Repr, Inhabited

namespace Heading

/-- All headings, in the order in which a random one is chosen. -/
def all : List Heading := [.up, .down, .right, .left]

def dx : Heading → Int
  | up => 0
  | down => 0
  | right => 1
  | left => -1

def dy : Heading → Int
  | up => -1
  | down => 1
  | right => 0
  | left => 0

/-- A quarter turn clockwise as seen on the board. -/
def turnRight : Heading → Heading
  | up => right
  | right => down
  | down => left
  | left => up

def turnLeft : Heading → Heading
  | up => left
  | left => down
  | down => right
  | right => up

def opposite : Heading → Heading
  | up => down
  | down => up
  | right => left
  | left => right

def label : Heading → String
  | up => "UP"
  | down => "DOWN"
  | right => "RIGHT"
  | left => "LEFT"

def ofLabel? (text : String) : Option Heading :=
  all.find? fun heading => heading.label == text

/-- The heading with a given number; numbers from four on stand for `left`. -/
def ofNumber : Nat → Heading
  | 0 => up
  | 1 => down
  | 2 => right
  | _ => left

@[simp] theorem turnRight_dx (heading : Heading) : heading.turnRight.dx = -heading.dy := by
  cases heading <;> rfl

@[simp] theorem turnRight_dy (heading : Heading) : heading.turnRight.dy = heading.dx := by
  cases heading <;> rfl

@[simp] theorem turnLeft_turnRight (heading : Heading) :
    heading.turnRight.turnLeft = heading := by
  cases heading <;> rfl

@[simp] theorem turnRight_turnRight (heading : Heading) :
    heading.turnRight.turnRight = heading.opposite := by
  cases heading <;> rfl

end Heading

structure Position where
  x : Int
  y : Int
  deriving DecidableEq, Repr, Inhabited

namespace Position

/-- The position reached by a displacement, before any wrapping. -/
def shift (position : Position) (dx dy : Int) : Position :=
  ⟨position.x + dx, position.y + dy⟩

/-- The next position straight ahead, before any wrapping. -/
def ahead (position : Position) (heading : Heading) : Position :=
  position.shift heading.dx heading.dy

end Position

end Foragers
