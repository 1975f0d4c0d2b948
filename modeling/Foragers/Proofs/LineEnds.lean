import Foragers.Proofs.Depiction
import Foragers.Proofs.Sinks

/-! # Boards with any line ends

A line of a file ends at a line feed, at a carriage return or at both in this order, and at
nothing else. The last line may end with the file. Which of these a line ends with makes no
difference to the board that the lines draw.
-/

namespace Foragers

namespace Text

inductive LineEnd where
  | feed
  | carriageReturn
  | returnFeed
  deriving DecidableEq, Repr

def LineEnd.text : LineEnd → String
  | feed => "\n"
  | carriageReturn => "\r"
  | returnFeed => "\r\n"

/-- A text consists of lines, each of which has an end of its own. The last line may have
none. -/
inductive WrittenAs : List String → String → Prop
  | nothing : WrittenAs [] ""
  | unended (line : String) : WrittenAs [line] line
  | ended (line : String) (lineEnd : LineEnd) {rest : List String} {text : String}
      (others : WrittenAs rest text) :
      WrittenAs (line :: rest) (line ++ (lineEnd.text ++ text))

/-- A line that is not empty and does not end before its end. -/
structure Solid (line : String) : Prop where
  nonempty : line ≠ ""
  unbroken : Avoids lineEnds line

/-- A line ends at any of its ends, but a carriage return must not be completed to another
one by a line feed. -/
theorem linesFrom_end (lineEnd : LineEnd) {following : List Char}
    (apart : lineEnd = .carriageReturn → following.head? ≠ some '\n') (reversed : List Char) :
    linesFrom reversed (lineEnd.text.toList ++ following) =
      reversed.reverse :: linesFrom [] following := by
  cases lineEnd with
  | feed =>
      change linesFrom reversed ('\n' :: following) = _
      rw [linesFrom]
  | returnFeed =>
      change linesFrom reversed ('\r' :: '\n' :: following) = _
      rw [linesFrom]
  | carriageReturn =>
      change linesFrom reversed ('\r' :: following) = _
      cases following with
      | nil => rfl
      | cons next others =>
          rw [linesFrom]
          rintro rest ⟨rfl, _⟩
          exact apart rfl rfl

theorem Solid.head_ne {line : String} (solid : Solid line) (following : List Char) :
    (line.toList ++ following).head? ≠ some '\n' := by
  cases characters : line.toList with
  | nil => exact absurd (String.toList_eq_nil_iff.mp characters) solid.nonempty
  | cons first others =>
      have unbroken := solid.unbroken '\n' (by decide)
      rw [characters] at unbroken
      rintro ⟨rfl⟩
      exact unbroken List.mem_cons_self

theorem WrittenAs.head_ne {rows : List String} {text : String} (written : WrittenAs rows text)
    (solid : ∀ row ∈ rows, Solid row) : text.toList.head? ≠ some '\n' := by
  cases written with
  | nothing => simp
  | unended line =>
      have apart := (solid text List.mem_cons_self).head_ne []
      rwa [List.append_nil] at apart
  | ended line lineEnd others =>
      rw [String.toList_append]
      exact (solid line List.mem_cons_self).head_ne _

theorem WrittenAs.lines_eq {rows : List String} {text : String} (written : WrittenAs rows text)
    (solid : ∀ row ∈ rows, Solid row) : lines text = rows := by
  induction written with
  | nothing => rfl
  | unended line =>
      have own := solid line List.mem_cons_self
      have read := linesFrom_append (own.unbroken '\n' (by decide))
        (own.unbroken '\r' (by decide)) [] []
      have nonempty : line.toList ≠ [] := mt String.toList_eq_nil_iff.mp own.nonempty
      rw [List.append_nil, List.append_nil] at read
      rw [lines, read]
      simp [linesFrom, nonempty]
  | ended line lineEnd others induction =>
      rcases List.forall_mem_cons.mp solid with ⟨lineSolid, restSolid⟩
      rw [lines, String.toList_append, String.toList_append,
        linesFrom_append (lineSolid.unbroken '\n' (by decide))
          (lineSolid.unbroken '\r' (by decide)),
        linesFrom_end lineEnd (fun _ => others.head_ne restSolid), List.map_cons, List.append_nil,
        List.reverse_reverse, String.ofList_toList, ← lines, induction restSolid]

/-- What is read up to the end of a line is written in front of the other lines. -/
theorem written_end {reversed following : List Char} (lineEnd : LineEnd)
    (read : linesFrom reversed (lineEnd.text.toList ++ following) =
      reversed.reverse :: linesFrom [] following)
    (others : WrittenAs ((linesFrom [] following).map String.ofList) (String.ofList following)) :
    WrittenAs ((linesFrom reversed (lineEnd.text.toList ++ following)).map String.ofList)
      (String.ofList (reversed.reverse ++ (lineEnd.text.toList ++ following))) := by
  rw [read, List.map_cons, String.ofList_append, String.ofList_append, String.ofList_toList]
  exact .ended _ lineEnd others

theorem written_linesFrom (reversed following : List Char) :
    WrittenAs ((linesFrom reversed following).map String.ofList)
      (String.ofList (reversed.reverse ++ following)) := by
  induction reversed, following using linesFrom.induct with
  | case1 reversed isEmpty =>
      rw [List.isEmpty_iff.mp isEmpty]
      exact .nothing
  | case2 reversed nonempty =>
      rw [linesFrom, if_neg nonempty, List.append_nil]
      exact .unended _
  | case3 reversed rest induction =>
      exact written_end .returnFeed (linesFrom_end .returnFeed (by rintro ⟨⟩) reversed) induction
  | case4 reversed rest noFeed induction =>
      refine written_end .carriageReturn (linesFrom_end .carriageReturn ?_ reversed) induction
      intro _ isFeed
      rcases List.head?_eq_some_iff.mp isFeed with ⟨others, restEq⟩
      exact noFeed others restEq
  | case5 reversed rest induction =>
      exact written_end .feed (linesFrom_end .feed (by rintro ⟨⟩) reversed) induction
  | case6 reversed character rest noBoth noReturn noFeed induction =>
      rw [List.reverse_cons, List.append_assoc, List.singleton_append] at induction
      rwa [linesFrom]
      all_goals assumption

theorem written_lines (text : String) : WrittenAs (lines text) text := by
  have written := written_linesFrom [] text.toList
  rwa [List.reverse_nil, List.nil_append, String.ofList_toList] at written

/-- Lines that are not empty are those of a text exactly when it is written as them. -/
theorem lines_eq_iff {rows : List String} {text : String} (solid : ∀ row ∈ rows, Solid row) :
    lines text = rows ↔ WrittenAs rows text := by
  constructor
  · rintro rfl
    exact written_lines text
  · intro written
    exact written.lines_eq solid

end Text

theorem Drawable.solid {lines : List String} (drawable : Drawable lines) :
    ∀ line ∈ lines, Text.Solid line := by
  intro line member
  rcases drawable.even with ⟨width, wide, even⟩
  constructor
  · rintro rfl
    have width0 := even "" member
    rw [String.length_empty] at width0
    omega
  · intro character isEnd within
    rcases drawable.legal line member character within with rfl | rfl
    · exact absurd isEnd (by decide)
    · exact absurd isEnd (by decide)

variable {access : FileAccess} {path : Path} {settings : Settings} {board : Board}
  {rows : List String} {text : String}

/-- The rows of a board can be written to a file with any ends, and the file is loaded as
that board. -/
theorem loadBoard_of_written
    (drawn : Board.ofLines settings.foodEnergy settings.foodRipeningTime rows = .ok board)
    (written : Text.WrittenAs rows text) (read : access.read path = .ok text.toUTF8) :
    loadBoard access path settings = .ok board := by
  have drawable := Board.exists_ofLines_iff.mp ⟨board, drawn⟩
  have lines := (Text.lines_eq_iff drawable.solid).mpr written
  rw [← lines] at drawn
  exact loadBoard_eq_ok read drawn

def mixedRows : List String := ["x ", " x", "  ", "xx"]

/-- A file with rows that end in three ways, the last one with the file. -/
def mixedFiles : FileAccess where
  read path :=
    if path.parts = ["board"] then .ok "x \r x\r\n  \nxx".toUTF8 else .error (.missing path)
  checkWritable _ := .ok ()
  reader := Document.reader

theorem mixed_loaded :
    ∃ board, Board.ofLines 5 3 mixedRows = .ok board ∧
      Text.WrittenAs mixedRows "x \r x\r\n  \nxx" ∧
      mixedFiles.read ⟨"", ["board"]⟩ = .ok "x \r x\r\n  \nxx".toUTF8 ∧
      loadBoard mixedFiles ⟨"", ["board"]⟩ SessionRequest.lonerSettings = .ok board := by
  have legal : ∀ row ∈ mixedRows, Legal row := by
    simp [mixedRows, Legal]
  have drawable : Drawable mixedRows := ⟨by decide, ⟨2, by decide, by decide⟩, legal⟩
  rcases Board.exists_ofLines drawable with ⟨board, drawn⟩
  have written : Text.WrittenAs mixedRows "x \r x\r\n  \nxx" :=
    .ended "x " .carriageReturn (.ended " x" .returnFeed (.ended "  " .feed (.unended "xx")))
  have read : mixedFiles.read ⟨"", ["board"]⟩ = .ok "x \r x\r\n  \nxx".toUTF8 := rfl
  exact ⟨board, drawn, written, read, loadBoard_of_written drawn written read⟩

end Foragers
