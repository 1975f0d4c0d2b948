namespace Foragers

/-! What can be wrong with a document or with one of the values in it. -/

inductive DocumentFault where
  /-- The text breaks a rule of the notation, a tag is unknown or a node is not
  of the kind that its tag asks for. -/
  | malformed
  /-- An escape sequence names no character. -/
  | unknownCharacter
  /-- The code in an escape sequence does not even fit a machine integer. -/
  | codeTooLarge
  /-- A scalar that is tagged as a number is none. -/
  | notNumber
  /-- A scalar that is tagged as a number has no digit to begin with. -/
  | noDigits
  /-- A number has more digits than numbers are read from or written with. -/
  | tooManyDigits
  /-- A number in base sixty has more places than binary64 can hold. -/
  | tooLarge
  /-- A scalar that is tagged as a truth value is none. -/
  | notBoolean
  /-- A scalar that is tagged as a point in time is not written as one. -/
  | notTimestamp
  /-- A point in time is no scalar but a mapping that lends the text of one. -/
  | compositeTimestamp
  /-- A point in time that is on no calendar. -/
  | noSuchTime
  /-- A mapping lends itself as the scalar that it stands for. -/
  | endless
  deriving DecidableEq, Repr

namespace DocumentFault

def message : DocumentFault → String
  | malformed => "Invalid YAML"
  | unknownCharacter => "No character has this code."
  | codeTooLarge => "The code of a character is too large."
  | notNumber => "Not a number."
  | noDigits => "A number has no digits."
  | tooManyDigits => "A number has too many digits."
  | tooLarge => "Number too large."
  | notBoolean => "Not a truth value."
  | notTimestamp => "Not a date or time."
  | compositeTimestamp => "A date or time must be a scalar."
  | noSuchTime => "No such date or time."
  | endless => "maximum recursion depth exceeded"

end DocumentFault

end Foragers
