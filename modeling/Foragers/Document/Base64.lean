namespace Foragers.Document

/-! Bytes in base 64. Characters without a value are skipped, and the text ends
where its last group of four is filled up with equals signs. -/

def sextet? (character : Char) : Option Nat :=
  let code := character.toNat
  if 'A' ≤ character && character ≤ 'Z' then some (code - 65)
  else if 'a' ≤ character && character ≤ 'z' then some (code - 71)
  else if character.isDigit then some (code + 4)
  else if character = '+' then some 62
  else if character = '/' then some 63
  else none

/-- Decodes what follows the first few sextets of a group and some equals signs
behind them. The bits that make up no byte yet are given as a number. -/
def decodeFrom (sextets pads bits : Nat) : List Char → Option (List UInt8)
  | [] => if sextets = 0 then some [] else none
  | character :: rest =>
      if character = '=' then
        if 2 ≤ sextets then
          if 4 ≤ sextets + pads + 1 then some []
          else decodeFrom sextets (pads + 1) bits rest
        else decodeFrom sextets pads bits rest
      else
        match sextet? character, sextets with
        | none, _ => decodeFrom sextets pads bits rest
        | some value, 0 => decodeFrom 1 0 value rest
        | some value, 1 =>
            (decodeFrom 2 0 (value % 16) rest).map ((bits * 4 + value / 16).toUInt8 :: ·)
        | some value, 2 =>
            (decodeFrom 3 0 (value % 4) rest).map ((bits * 16 + value / 4).toUInt8 :: ·)
        | some value, _ =>
            (decodeFrom 0 0 0 rest).map ((bits * 64 + value).toUInt8 :: ·)

def base64? (text : List Char) : Option (List UInt8) :=
  if text.all fun character => character.toNat < 128 then decodeFrom 0 0 0 text else none

end Foragers.Document
