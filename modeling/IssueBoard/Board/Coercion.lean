import IssueBoard.Board.Basic
import IssueBoard.Data.Display

/-!
# Values as numbers

What a number widget makes of the result of a script and of the text of a template.
-/

namespace IssueBoard

/-- The number that the result of a script is. Numbers stay as they are; of everything else only a
run of digits is a number. -/
def scriptNumber (result : Data) : Except Fault Number :=
  match result.number? with
  | some n => .ok n
  | none => do
    let digits := (← result.display).toList
    if digits.isEmpty || !digits.all Text.isDigit then return Number.nan
    else if integerDigitLimit < digits.length then throw (.numeralTooLong digits.length)
    else return .integer (Text.digitsValue digits)

/-- The number that a resolved template is. Nothing but blanks is zero, an integer numeral with not
too many digits is an integer, and any other numeral a floating-point number. -/
def templateNumber (text : String) : Number :=
  let cs := Text.trimBlank text.toList
  if cs.isEmpty then .integer 0
  else
    match Numeral.parse? cs with
    | none => Number.nan
    | some numeral =>
      if numeral.isInteger && numeral.whole.length ≤ integerDigitLimit then .integer numeral.toInt
      else .real numeral.toBinary64

end IssueBoard
