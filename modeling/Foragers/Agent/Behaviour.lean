import Foragers.Agent.Basic
import Foragers.Board.Basic

namespace Foragers

/-! What instructions do. A scene is one body on the board; an instruction
takes a scene to the next one. -/

structure Scene where
  body : Body
  board : Board

namespace Scene

/-- Puts the body on a cell of the board and lets it eat the food there, if any. -/
def visit (scene : Scene) (target : Position) : Scene :=
  let (gain, board) := scene.board.consume target
  { body := { scene.body with position := target, energy := scene.body.energy + gain }
    board }

def move (scene : Scene) : Scene :=
  scene.visit (scene.board.neighbour scene.body.position scene.body.heading)

/-- The displacements to the eight neighbours, in the order in which they are
looked at: column by column, each from above to below. -/
def neighbourOffsets : List (Int × Int) :=
  [(-1, -1), (-1, 0), (-1, 1), (0, -1), (0, 1), (1, -1), (1, 0), (1, 1)]

def neighbours (scene : Scene) : List Position :=
  neighbourOffsets.map fun (dx, dy) =>
    scene.board.wrap (scene.body.position.shift dx dy)

def eat (scene : Scene) : Scene :=
  match scene.neighbours.find? scene.board.hasFood with
  | some target => scene.visit target
  | none => scene

def turn (scene : Scene) (change : Heading → Heading) : Scene :=
  { scene with body := { scene.body with heading := change scene.body.heading } }

def foodAhead (scene : Scene) : Bool :=
  scene.board.hasFood (scene.board.neighbour scene.body.position scene.body.heading)

/-- Turns right until food is ahead, at most a given number of times. -/
def sniffWithin : Nat → Scene → Scene
  | 0, scene => scene
  | turns + 1, scene =>
      let turned := scene.turn Heading.turnRight
      if turned.foodAhead then turned else sniffWithin turns turned

def sniff (scene : Scene) : Scene :=
  sniffWithin 4 scene

def execute : Instruction → Scene → Scene
  | .move, scene => scene.move
  | .eat, scene => scene.eat
  | .sniff, scene => scene.sniff
  | .turnLeft, scene => scene.turn Heading.turnLeft
  | .turnRight, scene => scene.turn Heading.turnRight

def pay (scene : Scene) (cost : Int) : Scene :=
  { scene with body := { scene.body with energy := scene.body.energy - cost } }

/-- Runs a program until it ends or the body has no energy left to pay with.
An instruction costs one unit, after it was executed. The second part of the
result is the number of instructions executed. -/
def run : Program → Scene → Scene × Nat
  | [], scene => (scene, 0)
  | instruction :: rest, scene =>
      if 0 ≤ scene.body.energy then
        let (last, executed) := run rest ((execute instruction scene).pay 1)
        (last, executed + 1)
      else (scene, 0)

end Scene

end Foragers
