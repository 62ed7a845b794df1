/-!
# Numerals

The texts that are read as numbers with a fraction: digits with at most one point among them and an
exponent, or a name of the infinite or of no number, with or without a sign.
-/

namespace DarkGravity.Text

/-- The text behind a sign, if there is one. -/
def unsigned : List Char → List Char
  | '+' :: text => text
  | '-' :: text => text
  | text => text

/-- Whether a text is one or more digits. -/
def isDigits (text : List Char) : Bool := !text.isEmpty && text.all Char.isDigit

/-- Whether a text is an exponent or nothing. -/
def isExponent : List Char → Bool
  | [] => true
  | mark :: text => mark.toLower = 'e' && isDigits (unsigned text)

/-- Whether a text is a number in digits. -/
def isDecimal (text : List Char) : Bool :=
  let whole := text.takeWhile Char.isDigit
  match text.dropWhile Char.isDigit with
  | '.' :: rest =>
    isDigits (whole ++ rest.takeWhile Char.isDigit) && isExponent (rest.dropWhile Char.isDigit)
  | rest => isDigits whole && isExponent rest

/-- Whether a text is a number. -/
def isNumeral (text : List Char) : Bool :=
  let text := unsigned text
  isDecimal text
    || ["inf", "infinity", "nan"].contains (String.ofList (text.map Char.toLower))

end DarkGravity.Text
