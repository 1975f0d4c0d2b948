import Foragers.Text.Line

namespace Foragers.Text

/-! Text that is decoded block by block. When some bytes make up no text, the
lines that end in the blocks before them can still be read. -/

def blockSize : Nat := 8192

/-- Whether some bytes begin half of a surrogate pair, which is no character, but
only the byte behind them would show it. -/
def beginsSurrogate : List UInt8 → Bool
  | [0xed, second] => 0xa0 ≤ second && second ≤ 0xbf
  | _ => false

/-- Whether some bytes are an encoded character without its last bytes. -/
def isCutOff (bytes : List UInt8) : Bool :=
  beginsSurrogate bytes ||
    [1, 2, 3].any fun missing =>
      [0x80, 0xbf].any fun last =>
        let completed := bytes ++ List.replicate missing last
        (String.fromUTF8? ⟨completed.toArray⟩).any fun text => text.length = 1

/-- The text of a block, and the beginning of a character that is cut off at its end. -/
def decodeBlock? (block : ByteArray) : Option (String × ByteArray) :=
  [0, 1, 2, 3].findSome? fun kept =>
    let place := block.size - kept
    let last := block.extract place block.size
    if kept = 0 || isCutOff last.toList then
      (String.fromUTF8? (block.extract 0 place)).map fun text => (text, last)
    else none

/-- The texts of the blocks up to the first one that cannot be decoded. -/
def decodeBlocks : Nat → ByteArray → ByteArray → List String
  | 0, _, _ => []
  | fuel + 1, kept, bytes =>
      if bytes.isEmpty then []
      else
        match decodeBlock? (kept ++ bytes.extract 0 blockSize) with
        | none => []
        | some (text, kept) =>
            text :: decodeBlocks fuel kept (bytes.extract blockSize bytes.size)

/-- The lines that are known to have ended. After a carriage return at the very
end a line feed may follow. -/
def endedLines (text : String) : List String :=
  if text.endsWith "\n" then lines text else (lines text).dropLast

def readableLines (bytes : ByteArray) : List String :=
  endedLines (String.join (decodeBlocks (bytes.size + 1) ByteArray.empty bytes))

end Foragers.Text
