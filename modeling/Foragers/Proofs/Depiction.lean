import Foragers.Proofs.FirstFault
import Foragers.Proofs.Regrowth
import Foragers.Proofs.Torus
import Mathlib.Data.List.Flatten
import Mathlib.Data.List.OfFn

/-! # Drawn boards

Lines draw a board when they are of one length, with at least one character, and there is
nothing but spaces and crosses on them. Every board that was drawn is drawn again by the
same lines. Other lines are refused for the first one that has a foreign character or not
the length of the line at the top, or for want of cells.
-/

namespace Foragers

/-- Every character of the line draws a cell. -/
def Legal (line : String) : Prop :=
  ∀ character ∈ line.toList, character = ' ' ∨ character = 'x'

/-- What is wrong with a line of a drawing that has some lines before it. -/
inductive Misdrawn (before : List String) (line : String) : BoardError → Prop
  | foreign {first : Char} {rest : List Char} (foreign : ¬Legal line)
      (begins : line.toList = first :: rest) :
      Misdrawn before line (.unknownCharacter first)
  | uneven {top : String} (legal : Legal line) (below : before.head? = some top)
      (differs : line.length ≠ top.length) :
      Misdrawn before line (.unevenRows (before.length + 1))

namespace Cell

/-- The cell that a character draws. -/
def drawn (energy ripeningTime : Int) (character : Char) : Cell :=
  if character = 'x' then .food energy ripeningTime else .empty

def character (cell : Cell) : Char :=
  match cell.kind with
  | .empty => ' '
  | .food => 'x'

variable {energy ripeningTime : Int}

theorem ofCharacter?_eq_some_iff {character : Char} {cell : Cell} :
    ofCharacter? energy ripeningTime character = some cell ↔
      (character = ' ' ∨ character = 'x') ∧ cell = drawn energy ripeningTime character := by
  constructor
  · intro found
    unfold ofCharacter? at found
    split at found
    · cases found
      exact ⟨.inl rfl, rfl⟩
    · cases found
      exact ⟨.inr rfl, rfl⟩
    · cases found
  · rintro ⟨rfl | rfl, rfl⟩ <;> rfl

theorem character_drawn {character : Char} (legal : character = ' ' ∨ character = 'x') :
    (drawn energy ripeningTime character).character = character := by
  rcases legal with rfl | rfl <;> rfl

theorem hasFood_drawn (character : Char) :
    (drawn energy ripeningTime character).hasFood = (character == 'x') := by
  by_cases cross : character = 'x'
  · simp [drawn, cross, hasFood, food]
  · simp [drawn, cross, hasFood, empty]

end Cell

/-- The lines draw a board: there is at least one, and all are as long as each other. -/
structure Drawable (lines : List String) : Prop where
  nonempty : lines ≠ []
  even : ∃ width, 1 ≤ width ∧ ∀ line ∈ lines, line.length = width
  legal : ∀ line ∈ lines, Legal line

/-- Why lines draw no board: because of the first line that is misdrawn, and without such
a line because there are no cells. -/
inductive Undrawable (lines : List String) : BoardError → Prop
  | misdrawn {number : Nat} {error : BoardError}
      (first : FirstFault Misdrawn lines number error) : Undrawable lines error
  | void (faultless : Faultless Misdrawn lines) (undrawn : ¬Drawable lines) :
      Undrawable lines .empty

section

variable {before lines : List String} {line : String}

theorem legal_of_not_misdrawn (right : ∀ error, ¬Misdrawn before line error) : Legal line := by
  by_contra foreign
  cases begins : line.toList with
  | nil =>
      apply foreign
      intro character member
      rw [begins] at member
      cases member
  | cons first rest => exact right _ (.foreign foreign begins)

theorem length_of_not_misdrawn (right : ∀ error, ¬Misdrawn before line error) {top : String}
    (below : before.head? = some top) : line.length = top.length := by
  by_contra differs
  exact right _ (.uneven (legal_of_not_misdrawn right) below differs)

theorem legal_of_faultless (faultless : Faultless Misdrawn lines) :
    ∀ line ∈ lines, Legal line := by
  intro line member
  rcases List.append_of_mem member with ⟨before, after, split⟩
  exact legal_of_not_misdrawn (faultless before line after split)

theorem length_of_faultless (faultless : Faultless Misdrawn lines) {top : String}
    (atTop : lines.head? = some top) : ∀ line ∈ lines, line.length = top.length := by
  intro line member
  rcases List.append_of_mem member with ⟨before, after, split⟩
  rw [split] at atTop
  cases before with
  | nil =>
      cases atTop
      rfl
  | cons first others => exact length_of_not_misdrawn (faultless _ line after split) atTop

theorem Drawable.faultless (drawable : Drawable lines) : Faultless Misdrawn lines := by
  rintro before line after rfl error misdrawn
  rcases drawable.even with ⟨width, _, even⟩
  have legal := drawable.legal line (by simp)
  cases misdrawn with
  | foreign foreign begins => exact foreign legal
  | @uneven top _ below differs =>
      have above := List.mem_append_left (line :: after) (List.mem_of_mem_head? below)
      exact differs ((even line (by simp)).trans (even top above).symm)

end

namespace Board

/-- The lines that show where food grows on a board, ripe or not. -/
def drawing (board : Board) : List String :=
  board.rows.map fun row => String.ofList (row.map Cell.character)

/-- The board is the one that the lines draw. -/
structure DrawnBy (energy ripeningTime : Int) (lines : List String) (board : Board) : Prop where
  height_eq : board.height = lines.length
  width_eq : ∀ line ∈ lines, board.width = line.length
  ripe : ∀ position, (board.cellAt position).kind = .food →
    (board.cellAt position).ripe = true ∧ (board.cellAt position).energy = energy ∧
      (board.cellAt position).ripeningTime = ripeningTime
  ripeCount_eq : board.ripeCount = (lines.flatMap String.toList).count 'x'
  drawing_eq : board.drawing = lines

variable {energy ripeningTime : Int}

/-! ## Rows of cells -/

/-- The cells that a line draws. -/
def rowOf (energy ripeningTime : Int) (line : String) : List Cell :=
  line.toList.map (Cell.drawn energy ripeningTime)

theorem length_rowOf (line : String) : (rowOf energy ripeningTime line).length = line.length := by
  rw [rowOf, List.length_map, String.length_toList]

theorem flatten_rowOf (lines : List String) :
    (lines.map (rowOf energy ripeningTime)).flatten =
      (lines.flatMap String.toList).map (Cell.drawn energy ripeningTime) := by
  rw [List.map_flatMap, List.flatMap_def]
  rfl

theorem mapM_ofCharacter?_eq_some_iff {characters : List Char} {cells : List Cell} :
    characters.mapM (Cell.ofCharacter? energy ripeningTime) = some cells ↔
      (∀ character ∈ characters, character = ' ' ∨ character = 'x') ∧
        cells = characters.map (Cell.drawn energy ripeningTime) := by
  induction characters generalizing cells with
  | nil => simp [eq_comm]
  | cons character rest induction =>
      rw [List.mapM_cons, List.forall_mem_cons, List.map_cons]
      constructor
      · intro read
        rcases Option.bind_eq_some_iff.mp read with ⟨first, firstRead, continued⟩
        rcases Option.bind_eq_some_iff.mp continued with ⟨others, othersRead, cellsEq⟩
        cases cellsEq
        rcases Cell.ofCharacter?_eq_some_iff.mp firstRead with ⟨legal, rfl⟩
        rcases induction.mp othersRead with ⟨othersLegal, rfl⟩
        exact ⟨⟨legal, othersLegal⟩, rfl⟩
      · rintro ⟨⟨legal, othersLegal⟩, rfl⟩
        rw [Cell.ofCharacter?_eq_some_iff.mpr ⟨legal, rfl⟩,
          induction.mpr ⟨othersLegal, rfl⟩]
        rfl

theorem readRow_of_legal {line : String} (legal : Legal line) :
    readRow energy ripeningTime line.toList = .ok (rowOf energy ripeningTime line) := by
  rw [readRow, mapM_ofCharacter?_eq_some_iff.mpr ⟨legal, rfl⟩]
  rfl

theorem readRow_of_foreign {line : String} {first : Char} {rest : List Char}
    (foreign : ¬Legal line) (begins : line.toList = first :: rest) :
    readRow energy ripeningTime line.toList = .error (.unknownCharacter first) := by
  cases read : line.toList.mapM (Cell.ofCharacter? energy ripeningTime) with
  | some cells => exact absurd (mapM_ofCharacter?_eq_some_iff.mp read).1 foreign
  | none =>
      rw [readRow, read, begins]
      rfl

/-! ## Lines read one after the other -/

section

variable {before : List String} {line : String}

/-- A line with nothing wrong is read as its row, and then the next one is to be as long. -/
theorem readRows_of_not_misdrawn (right : ∀ error, ¬Misdrawn before line error)
    (rest : List (List Char)) :
    readRows energy ripeningTime (before.length + 1) (before.head?.map String.length)
        (line.toList :: rest) =
      (readRows energy ripeningTime (before.length + 2)
        ((before ++ [line]).head?.map String.length) rest).map
          (rowOf energy ripeningTime line :: ·) := by
  have even : (before.head?.map String.length).all (· = line.toList.length) = true := by
    cases top : before.head? with
    | none => rfl
    | some top =>
        rw [String.length_toList, length_of_not_misdrawn right top]
        simp
  have next : some line.toList.length = (before ++ [line]).head?.map String.length := by
    rw [String.length_toList]
    cases before with
    | nil => rfl
    | cons top others => exact congrArg some (length_of_not_misdrawn right rfl)
  rw [readRows, readRow_of_legal (legal_of_not_misdrawn right)]
  simp only [even, if_true, next]
  cases readRows energy ripeningTime (before.length + 1 + 1)
    ((before ++ [line]).head?.map String.length) rest <;> rfl

theorem readRows_of_misdrawn {error : BoardError} (misdrawn : Misdrawn before line error)
    (rest : List (List Char)) :
    readRows energy ripeningTime (before.length + 1) (before.head?.map String.length)
      (line.toList :: rest) = .error error := by
  cases misdrawn with
  | foreign foreign begins => rw [readRows, readRow_of_foreign foreign begins]
  | @uneven top legal below differs =>
      have uneven : (before.head?.map String.length).all (· = line.toList.length) = false := by
        rw [below, String.length_toList]
        simpa using differs.symm
      rw [readRows, readRow_of_legal legal]
      simp only [uneven, Bool.false_eq_true, if_false]

end

/-- Lines with nothing wrong are read row by row, whatever follows them. -/
theorem readRows_append {before : List String} (faultless : Faultless Misdrawn before)
    (rest : List (List Char)) :
    readRows energy ripeningTime 1 none (before.map String.toList ++ rest) =
      (readRows energy ripeningTime (before.length + 1) (before.head?.map String.length)
        rest).map (before.map (rowOf energy ripeningTime) ++ ·) := by
  induction faultless using Faultless.induction generalizing rest with
  | nil =>
      simp only [List.map_nil, List.nil_append, List.head?_nil, Option.map_none]
      cases readRows energy ripeningTime 1 none rest <;> rfl
  | concat before line faultless right induction =>
      -- The new line is the first of what follows the others, and its row joins theirs.
      rw [List.map_append, List.append_assoc, induction, List.map_singleton,
        List.singleton_append, readRows_of_not_misdrawn right, List.length_append,
        List.length_singleton]
      cases readRows energy ripeningTime (before.length + 2)
        ((before ++ [line]).head?.map String.length) rest with
      | error error => rfl
      | ok rows => simp [Except.map]

theorem readRows_of_faultless {lines : List String} (faultless : Faultless Misdrawn lines) :
    readRows energy ripeningTime 1 none (lines.map String.toList) =
      .ok (lines.map (rowOf energy ripeningTime)) := by
  have read := @readRows_append energy ripeningTime _ faultless []
  rw [List.append_nil] at read
  rw [read]
  simp [readRows, Except.map]

theorem readRows_of_firstFault {lines : List String} {number : Nat} {error : BoardError}
    (first : FirstFault Misdrawn lines number error) :
    readRows energy ripeningTime 1 none (lines.map String.toList) = .error error := by
  cases first with
  | @intro before line error faultless here after =>
      rw [List.map_append, List.map_cons, readRows_append faultless, readRows_of_misdrawn here]
      rfl

/-! ## The board of the rows -/

theorem firstUneven?_eq_none_iff {width line : Nat} {rows : List (List Cell)} :
    firstUneven? width line rows = none ↔ ∀ row ∈ rows, row.length = width := by
  induction rows generalizing line with
  | nil => simp [firstUneven?]
  | cons row rest induction =>
      rw [firstUneven?, List.forall_mem_cons, ← @induction (line + 1)]
      split <;> simp [*]

theorem ofCells_size {rows : List (List Cell)} {board : Board}
    (made : ofCells rows = .ok board) :
    board.height = rows.length ∧ ∀ row ∈ rows, row.length = board.width := by
  unfold ofCells at made
  split at made
  · cases made
  · cases made
  · dsimp only at made
    split at made
    · cases made
    · rename_i even
      cases made
      exact ⟨rfl, firstUneven?_eq_none_iff.mp even⟩

theorem exists_ofCells {cell : Cell} {others : List Cell} {rest : List (List Cell)}
    (even : ∀ row ∈ rest, row.length = others.length + 1) :
    ∃ board, ofCells ((cell :: others) :: rest) = .ok board := by
  have rowsEven : firstUneven? (others.length + 1) 1 ((cell :: others) :: rest) = none :=
    firstUneven?_eq_none_iff.mpr (List.forall_mem_cons.mpr ⟨rfl, even⟩)
  simp only [ofCells]
  split
  · rename_i uneven
    rw [rowsEven] at uneven
    cases uneven
  · exact ⟨_, rfl⟩

theorem map_range_eq_ofFn {α : Type} (count : Nat) (item : Nat → α) :
    (List.range count).map item = List.ofFn fun index : Fin count => item index := by
  apply List.ext_getElem <;> simp

theorem rows_flatten (board : Board) : board.rows.flatten = board.cells.toList := by
  have cell (x : Fin board.width) (y : Fin board.height) (bound) :
      board.cells.get ⟨board.width * y + x, bound⟩ =
        board.cellAt ⟨(x : Nat), (y : Nat)⟩ := by
    have row : board.row ⟨(x : Nat), (y : Nat)⟩ = y := by
      simp only [Board.row, ← Int.natCast_emod, Int.toNat_natCast, Nat.mod_eq_of_lt y.isLt]
    have column : board.column ⟨(x : Nat), (y : Nat)⟩ = x := by
      simp only [Board.column, ← Int.natCast_emod, Int.toNat_natCast, Nat.mod_eq_of_lt x.isLt]
    simp only [cellAt, index, row, column, Nat.mul_comm]
  simp only [toList_cells, List.ofFn_mul', cell, rows, map_range_eq_ofFn]

/-- The rows that a board was made of are those in which it is drawn. -/
theorem rows_of_ofCells {rows : List (List Cell)} {board : Board}
    (made : ofCells rows = .ok board) : board.rows = rows := by
  rcases ofCells_size made with ⟨height, widths⟩
  have lengths : board.rows.map List.length = List.replicate board.height board.width := by
    simp [Board.rows, Function.comp_def]
  have given : rows.map List.length = List.replicate board.height board.width := by
    rw [List.eq_replicate_iff, List.length_map, height]
    exact ⟨rfl, by simpa using widths⟩
  rw [List.eq_iff_flatten_eq]
  exact ⟨(rows_flatten board).trans (ofCells_cells made), lengths.trans given.symm⟩

/-! ## Which lines draw a board -/

section

variable {lines : List String}

theorem ofLines_of_faultless (faultless : Faultless Misdrawn lines) :
    ofLines energy ripeningTime lines =
      ofCells (lines.map (rowOf energy ripeningTime)) := by
  rw [ofLines, readRows_of_faultless faultless]

theorem ofLines_of_firstFault {number : Nat} {error : BoardError}
    (first : FirstFault Misdrawn lines number error) :
    ofLines energy ripeningTime lines = .error error := by
  rw [ofLines, readRows_of_firstFault first]

theorem exists_ofLines (drawable : Drawable lines) :
    ∃ board, ofLines energy ripeningTime lines = .ok board := by
  rw [ofLines_of_faultless drawable.faultless]
  rcases drawable.even with ⟨width, positive, even⟩
  cases lines with
  | nil => exact absurd rfl drawable.nonempty
  | cons top rest =>
      rcases List.forall_mem_cons.mp even with ⟨topEven, restEven⟩
      -- The top line has a character, so there is a cell, whose row fixes the width.
      cases row : rowOf energy ripeningTime top with
      | nil =>
          have short := @length_rowOf energy ripeningTime top
          rw [row, topEven] at short
          exact absurd short.symm (by simpa using Nat.ne_of_gt positive)
      | cons cell others =>
          have width_eq : others.length + 1 = width := by
            rw [← topEven, ← @length_rowOf energy ripeningTime top, row, List.length_cons]
          rw [List.map_cons, row]
          apply exists_ofCells
          intro row member
          rcases List.mem_map.mp member with ⟨line, present, rfl⟩
          rw [length_rowOf, restEven line present, width_eq]

theorem faultless_of_ofLines {board : Board}
    (drawn : ofLines energy ripeningTime lines = .ok board) : Faultless Misdrawn lines := by
  rcases faultless_or_firstFault Misdrawn lines with faultless | ⟨number, error, first⟩
  · exact faultless
  · rw [ofLines_of_firstFault first] at drawn
    cases drawn

theorem drawnBy_of_ofLines {board : Board}
    (drawn : ofLines energy ripeningTime lines = .ok board) :
    DrawnBy energy ripeningTime lines board := by
  have faultless := faultless_of_ofLines drawn
  have made := drawn
  rw [ofLines_of_faultless faultless] at made
  rcases ofCells_size made with ⟨height, widths⟩
  constructor
  case height_eq => rw [height, List.length_map]
  case width_eq =>
    intro line member
    rw [← widths _ (List.mem_map_of_mem member), length_rowOf]
  case ripe =>
    intro position food
    rw [ofLines_cellAt_of_food drawn food]
    exact ⟨rfl, rfl, rfl⟩
  case ripeCount_eq =>
    have counted : board.ripeCount = board.cells.toList.countP Cell.hasFood :=
      ofLines_counted drawn
    rw [counted, ofCells_cells made, flatten_rowOf, List.countP_map, List.count]
    exact List.countP_congr fun character _ => by simp [Cell.hasFood_drawn]
  case drawing_eq =>
    rw [drawing, rows_of_ofCells made, List.map_map]
    refine (List.map_congr_left fun line member => ?_).trans (List.map_id lines)
    have kept : (rowOf energy ripeningTime line).map Cell.character = line.toList := by
      rw [rowOf, List.map_map]
      refine (List.map_congr_left fun character within => ?_).trans (List.map_id _)
      exact Cell.character_drawn (legal_of_faultless faultless line member character within)
    rw [Function.comp, kept, String.ofList_toList]
    rfl

theorem DrawnBy.drawable {board : Board} (drawn : DrawnBy energy ripeningTime lines board)
    (faultless : Faultless Misdrawn lines) : Drawable lines where
  nonempty := by
    rintro rfl
    have height := drawn.height_eq
    exact absurd height (Nat.ne_of_gt board.height_pos)
  even := ⟨board.width, board.width_pos, fun line member => (drawn.width_eq line member).symm⟩
  legal := legal_of_faultless faultless

theorem exists_ofLines_iff :
    (∃ board, ofLines energy ripeningTime lines = .ok board) ↔ Drawable lines := by
  constructor
  · rintro ⟨board, drawn⟩
    exact (drawnBy_of_ofLines drawn).drawable (faultless_of_ofLines drawn)
  · exact exists_ofLines

/-- Without a fault, and without cells either, the board is empty. -/
theorem ofLines_of_undrawn (faultless : Faultless Misdrawn lines) (undrawn : ¬Drawable lines) :
    ofLines energy ripeningTime lines = .error .empty := by
  rw [ofLines_of_faultless faultless]
  cases lines with
  | nil => rfl
  | cons top rest =>
      have short : top.length = 0 := by
        by_contra long
        exact undrawn ⟨List.cons_ne_nil _ _,
          ⟨top.length, Nat.pos_of_ne_zero long, length_of_faultless faultless rfl⟩,
          legal_of_faultless faultless⟩
      have row : rowOf energy ripeningTime top = [] := by
        rw [← List.length_eq_zero_iff, length_rowOf, short]
      rw [List.map_cons, row]
      rfl

theorem ofLines_eq_error_iff {error : BoardError} :
    ofLines energy ripeningTime lines = .error error ↔ Undrawable lines error := by
  constructor
  · intro failed
    rcases faultless_or_firstFault Misdrawn lines with faultless | ⟨number, other, first⟩
    · have undrawn : ¬Drawable lines := by
        intro drawable
        rcases @exists_ofLines energy ripeningTime _ drawable with ⟨board, drawn⟩
        rw [drawn] at failed
        cases failed
      rw [ofLines_of_undrawn faultless undrawn] at failed
      cases failed
      exact .void faultless undrawn
    · rw [ofLines_of_firstFault first] at failed
      cases failed
      exact .misdrawn first
  · intro undrawable
    cases undrawable with
    | misdrawn first => exact ofLines_of_firstFault first
    | void faultless undrawn => exact ofLines_of_undrawn faultless undrawn

/-- Rows that were read from lines are of one length. -/
theorem ofCells_of_readRows {rows : List (List Cell)}
    (read : readRows energy ripeningTime 1 none (lines.map String.toList) = .ok rows)
    (number : Nat) : ofCells rows ≠ .error (.unevenRows number) := by
  intro uneven
  have refused : ofLines energy ripeningTime lines = .error (.unevenRows number) := by
    rw [ofLines, read]
    exact uneven
  cases ofLines_eq_error_iff.mp refused with
  | misdrawn first =>
      rw [readRows_of_firstFault first] at read
      cases read

end

/-- Lines draw a board exactly if there are some, all of one length that is at least one,
and with nothing but spaces and crosses on them. That board shows the same lines again.
Other lines are refused for the first one that is misdrawn, or for want of cells, and the
rows that were read are never uneven. -/
theorem lines_drawn (energy ripeningTime : Int) (lines : List String) :
    ((∃ board, ofLines energy ripeningTime lines = .ok board) ↔ Drawable lines) ∧
    (∀ board, ofLines energy ripeningTime lines = .ok board →
      DrawnBy energy ripeningTime lines board) ∧
    (∀ error, ofLines energy ripeningTime lines = .error error ↔ Undrawable lines error) ∧
    ∀ rows, readRows energy ripeningTime 1 none (lines.map String.toList) = .ok rows →
      ∀ number, ofCells rows ≠ .error (.unevenRows number) :=
  ⟨exists_ofLines_iff, fun _ => drawnBy_of_ofLines, fun _ => ofLines_eq_error_iff,
    fun _ => ofCells_of_readRows⟩

/-- Two lines draw a board. Below a line with one cell, a longer line with a foreign
character is refused for that character, but it is the first one that is told. -/
theorem diagonal_drawn :
    (∃ board, ofLines 5 8 ["x ", " x"] = .ok board ∧ board.drawing = ["x ", " x"]) ∧
      Undrawable ["x", " xo"] (.unknownCharacter ' ') := by
  have legal : ∀ line ∈ ["x ", " x"], Legal line := by
    simp [Legal]
  have drawable : Drawable ["x ", " x"] := ⟨by simp, ⟨2, by decide, by decide⟩, legal⟩
  have refused : ofLines 5 8 ["x", " xo"] = .error (.unknownCharacter ' ') := rfl
  rcases lines_drawn 5 8 ["x ", " x"] with ⟨accepted, shown, _⟩
  rcases accepted.mpr drawable with ⟨board, drawn⟩
  exact ⟨⟨board, drawn, (shown board drawn).drawing_eq⟩,
    ((lines_drawn 5 8 ["x", " xo"]).2.2.1 _).mp refused⟩

end Board

end Foragers
