import Foragers.Random.Source

namespace Foragers

/-! The Mersenne twister with 624 words of 32 bits. A block of words is made at
a time and then handed out word by word. -/

structure Twister where
  block : Vector UInt32 624
  next : Nat

namespace Twister

def blend (word : UInt32) : UInt32 :=
  word ^^^ (word >>> 30)

def blockOfWord (word : UInt32) : Vector UInt32 624 :=
  Nat.fold 624
    (fun index _ block =>
      if index = 0 then block
      else
        let previous := block[(index - 1) % 624]
        block.set index (1812433253 * blend previous + index.toUInt32))
    (Vector.replicate 624 word)

/-- A place in the block that walks through the indices 1 to 623 and, at the
end, carries the last word over to index 0. -/
structure Walk where
  block : Vector UInt32 624
  index : Nat

namespace Walk

/-- Replaces the word at the current index by a function of itself and of the
word before it, and goes on to the next index. -/
def update (walk : Walk) (change : UInt32 → UInt32 → UInt32) : Walk :=
  let index : Fin 624 := Fin.ofNat 624 walk.index
  let previous := walk.block[index - 1]
  let block := walk.block.set index (change walk.block[index] previous) index.isLt
  if index = 623 then ⟨block.set 0 block[index], 1⟩ else ⟨block, index + 1⟩

end Walk

/-- Mixes the words of a key into the block, repeating a short key. -/
def absorbKey (key : List UInt32) (steps : Nat) (start : Walk) : Walk :=
  let words := key.toArray
  Nat.fold steps
    (fun step _ walk =>
      let position := step % words.size
      walk.update fun word previous =>
        (word ^^^ (blend previous * 1664525)) + words.getD position 0 + position.toUInt32)
    start

def finishBlock (start : Walk) : Vector UInt32 624 :=
  let walk := Nat.fold 623
    (fun _ _ walk =>
      walk.update fun word previous =>
        (word ^^^ (blend previous * 1566083941)) - walk.index.toUInt32)
    start
  walk.block.set 0 0x80000000

/-- The words of a number in base 2^32, the least significant one first. -/
def keyOfNat (number : Nat) : List UInt32 :=
  if number < 1 <<< 32 then [number.toUInt32]
  else number.toUInt32 :: keyOfNat (number >>> 32)
termination_by number
decreasing_by omega

/-- The generator of a seed; the sign of a seed has no effect. -/
def ofSeed (seed : Int) : Twister :=
  let key := keyOfNat seed.natAbs
  let mixed := absorbKey key (max 624 key.length) ⟨blockOfWord 19650218, 1⟩
  ⟨finishBlock mixed, 624⟩

def nextBlock (block : Vector UInt32 624) : Vector UInt32 624 :=
  Nat.fold 624
    (fun index _ words =>
      let joined :=
        (words[index] &&& 0x80000000) ||| (words[(index + 1) % 624] &&& 0x7fffffff)
      let twisted : UInt32 := if joined &&& 1 = 1 then 0x9908b0df else 0
      words.set index (words[(index + 397) % 624] ^^^ (joined >>> 1) ^^^ twisted))
    block

def temper (word : UInt32) : UInt32 :=
  let word := word ^^^ (word >>> 11)
  let word := word ^^^ ((word <<< 7) &&& 0x9d2c5680)
  let word := word ^^^ ((word <<< 15) &&& 0xefc60000)
  word ^^^ (word >>> 18)

def word (twister : Twister) : UInt32 × Twister :=
  if inside : twister.next < 624 then
    (temper twister.block[twister.next], { twister with next := twister.next + 1 })
  else
    let block := nextBlock twister.block
    (temper block[0], ⟨block, 1⟩)

/-- Draws a number of a given count of bits. Whole words come first, as the
low bits; the last word gives its high bits. -/
def bits (count : Nat) (twister : Twister) : Nat × Twister :=
  if count ≤ 32 then
    let (drawn, twister) := twister.word
    (drawn.toNat >>> (32 - count), twister)
  else
    let (low, twister) := twister.word
    let (high, twister) := bits (count - 32) twister
    (low.toNat + high <<< 32, twister)
termination_by count

def belowWithin : Nat → Nat → Twister → Nat × Twister
  | 0, _, twister => (0, twister)
  | attempts + 1, bound, twister =>
      let drawn := twister.bits (bound.log2 + 1)
      if drawn.1 < bound then drawn else belowWithin attempts bound drawn.2

/-- Draws a number below a bound. A refused number has its highest bit set, and
the highest bits of successive draws satisfy a linear recurrence of order 19937
that a run of ones of that length does not, so the attempts suffice. -/
def below (bound : Nat) (twister : Twister) : Nat × Twister :=
  belowWithin 19937 bound twister

/-- Draws 27 and then 26 bits, as the numerator of a fraction over 2^53. -/
def fraction (twister : Twister) : Nat × Twister :=
  let (high, twister) := twister.word
  let (low, twister) := twister.word
  ((high.toNat >>> 5) <<< 26 + low.toNat >>> 6, twister)

theorem belowWithin_lt (attempts bound : Nat) (twister : Twister) (positive : 0 < bound) :
    (belowWithin attempts bound twister).1 < bound := by
  induction attempts generalizing twister with
  | zero => exact positive
  | succ attempts induction =>
      simp only [belowWithin]
      split
      · assumption
      · exact induction _

theorem fraction_lt (twister : Twister) : twister.fraction.1 < 1 <<< 53 := by
  have high := twister.word.1.toNat_lt
  have low := twister.word.2.word.1.toNat_lt
  simp only [fraction]
  omega

instance : RandomSource Twister where
  below := below
  fraction := fraction
  below_lt bound twister positive := belowWithin_lt 19937 bound twister positive
  fraction_lt := fraction_lt

end Twister

end Foragers
