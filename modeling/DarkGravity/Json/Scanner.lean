import DarkGravity.Json.Basic
import DarkGravity.Text.Hex

/-!
# Tokens of JSON

A scanner takes one character at a time and gives the tokens that the character completes. A
number or a word ends at the first character that cannot belong to it, so such a character can
complete a token and begin the next.
-/

namespace DarkGravity.Json

/-- The words of the grammar. -/
inductive Token where
  | openObject
  | closeObject
  | openArray
  | closeArray
  | colon
  | comma
  | null
  | bool (value : Bool)
  | number (text : String)
  | string (text : Option String)
  deriving DecidableEq, Repr

/-- A part of a string: a character, or a code unit that was written as an escape. -/
inductive Piece where
  | char (c : Char)
  | unit (code : Nat)
  deriving DecidableEq, Repr

/-- The text of the parts. Two units that form a surrogate pair are one character; any other half
of a pair makes the whole no text. -/
def joinPieces : List Piece → Option (List Char)
  | [] => some []
  | .char c :: rest => (joinPieces rest).map (c :: ·)
  | .unit high :: .unit low :: rest =>
    if high < 0xd800 || 0xdfff < high then
      (joinPieces (.unit low :: rest)).map (Char.ofNat high :: ·)
    else if high ≤ 0xdbff && 0xdc00 ≤ low && low ≤ 0xdfff then
      (joinPieces rest).map (Char.ofNat (0x10000 + (high - 0xd800) * 0x400 + (low - 0xdc00)) :: ·)
    else none
  | .unit code :: rest =>
    if code < 0xd800 || 0xdfff < code then (joinPieces rest).map (Char.ofNat code :: ·) else none

/-- The rest after one or more digits. -/
def afterDigits (cs : List Char) : Option (List Char) :=
  if (cs.takeWhile Char.isDigit).isEmpty then none else some (cs.dropWhile Char.isDigit)

/-- The rest after an integer without leading zeros. -/
def afterInteger : List Char → Option (List Char)
  | '-' :: '0' :: rest => some rest
  | '-' :: rest => afterDigits rest
  | '0' :: rest => some rest
  | cs => afterDigits cs

/-- The rest after a fraction, if there is one. -/
def afterFraction : List Char → Option (List Char)
  | '.' :: rest => afterDigits rest
  | cs => some cs

/-- The rest after an exponent, if there is one. -/
def afterExponent : List Char → Option (List Char)
  | [] => some []
  | c :: rest =>
    if c = 'e' || c = 'E' then
      match rest with
      | '+' :: digits => afterDigits digits
      | '-' :: digits => afterDigits digits
      | digits => afterDigits digits
    else some (c :: rest)

/-- Whether the characters are a number. -/
def isNumber (cs : List Char) : Bool :=
  ((afterInteger cs).bind afterFraction |>.bind afterExponent) == some []

/-- Whether a character can belong to a number. -/
def inNumber (c : Char) : Bool :=
  c.isDigit || c == '-' || c == '+' || c == '.' || c == 'e' || c == 'E'

/-- What the scanner is inside of. The characters so far are kept newest first. -/
inductive Scan where
  | between
  | word (letters : List Char)
  | number (chars : List Char)
  | string (pieces : List Piece)
  /-- After a backslash. -/
  | escape (pieces : List Piece)
  /-- After the mark of a code unit and some of its digits. -/
  | unit (pieces : List Piece) (digits code : Nat)
  deriving DecidableEq, Repr

/-- The token that a word or a number ends as. -/
def Scan.complete : Scan → Option (List Token)
  | .between => some []
  | .word letters =>
    let text := letters.reverse
    if text = "null".toList then some [.null]
    else if text = "true".toList then some [.bool true]
    else if text = "false".toList then some [.bool false]
    else none
  | .number chars =>
    let text := chars.reverse
    if isNumber text then some [.number (String.ofList text)] else none
  | _ => none

/-- The token of a mark of punctuation. -/
def punctuation? (c : Char) : Option Token :=
  match c with
  | '{' => some .openObject
  | '}' => some .closeObject
  | '[' => some .openArray
  | ']' => some .closeArray
  | ':' => some .colon
  | ',' => some .comma
  | _ => none

/-- Whether a character may stand between tokens. -/
def isSpace (c : Char) : Bool := c == ' ' || c == '\n' || c == '\t' || c == '\r'

/-- Takes a character that begins a token or stands between tokens. -/
def scanBetween (c : Char) : Option (Scan × List Token) :=
  if isSpace c then some (.between, [])
  else
    match punctuation? c with
    | some token => some (.between, [token])
    | none =>
      if c = '"' then some (.string [], [])
      else if c.isDigit || c = '-' then some (.number [c], [])
      else if c.isAlpha then some (.word [c], [])
      else none

/-- The character that a backslash and a letter stand for. -/
def escaped? (c : Char) : Option Char :=
  match c with
  | '"' => some '"'
  | '\\' => some '\\'
  | '/' => some '/'
  | 'b' => some '\x08'
  | 'f' => some '\x0c'
  | 'n' => some '\n'
  | 'r' => some '\r'
  | 't' => some '\t'
  | _ => none

/-- Takes the next character. -/
def Scan.step (s : Scan) (c : Char) : Option (Scan × List Token) :=
  match s with
  | .between => scanBetween c
  | .word letters =>
    if c.isAlpha then some (.word (c :: letters), [])
    else do
      let done ← Scan.complete (.word letters)
      let (next, tokens) ← scanBetween c
      return (next, done ++ tokens)
  | .number chars =>
    if inNumber c then some (.number (c :: chars), [])
    else do
      let done ← Scan.complete (.number chars)
      let (next, tokens) ← scanBetween c
      return (next, done ++ tokens)
  | .string pieces =>
    if c = '"' then
      some (.between, [.string ((joinPieces pieces.reverse).map String.ofList)])
    else if c = '\\' then some (.escape pieces, [])
    else if c.toNat < 0x20 then none
    else some (.string (.char c :: pieces), [])
  | .escape pieces =>
    if c = 'u' then some (.unit pieces 0 0, [])
    else (escaped? c).map fun d => (.string (.char d :: pieces), [])
  | .unit pieces digits code =>
    (Hex.value? c.toNat).map fun d =>
      let code := 16 * code + d
      if digits = 3 then (.string (.unit code :: pieces), [])
      else (.unit pieces (digits + 1) code, [])

end DarkGravity.Json
