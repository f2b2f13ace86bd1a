import PropertyFilter.Json

/-!
# JSON tokens

A JSON text as a sequence of tokens: punctuation, words, numbers and strings. Blanks between
tokens are space, tab, line feed and carriage return.

## Main definitions

* `Json.Token` — a token
* `Json.Token.scan` — the tokens of a text

## Main results

* `textBody_length` — reading a string consumes characters
-/

namespace PropertyFilter.Json

/-- A token of a JSON text. -/
inductive Token where
  | openBrace
  | closeBrace
  | openBracket
  | closeBracket
  | comma
  | colon
  | null
  | bool (b : Bool)
  | number (literal : String)
  /-- A string; none if it escapes one half of a surrogate pair. -/
  | text (s : Option String)

namespace Token

/-- A part of a string: a character, or a 16-bit unit that is written as an escape. -/
inductive Piece where
  | char (c : Char)
  | unit (n : Nat)

/-- The value of a hexadecimal digit. -/
def hexDigit? (c : Char) : Option Nat :=
  if c.isDigit then some (c.toNat - '0'.toNat)
  else if 'a' ≤ c && c ≤ 'f' then some (c.toNat - 'a'.toNat + 10)
  else if 'A' ≤ c && c ≤ 'F' then some (c.toNat - 'A'.toNat + 10)
  else none

/-- The value of four hexadecimal digits. -/
def hexUnit? (a b c d : Char) : Option Nat := do
  some ((((← hexDigit? a) * 16 + (← hexDigit? b)) * 16 + (← hexDigit? c)) * 16 + (← hexDigit? d))

/-- The character that a backslash and one other character write. -/
def escaped? : Char → Option Char
  | '"' => some '"'
  | '\\' => some '\\'
  | '/' => some '/'
  | 'b' => some '\x08'
  | 'f' => some '\x0c'
  | 'n' => some '\n'
  | 'r' => some '\r'
  | 't' => some '\t'
  | _ => none

/-- Reads a string up to its closing quote, and returns its parts and what follows it. -/
def textBody : List Char → Option (List Piece × List Char)
  | [] => none
  | '"' :: cs => some ([], cs)
  | '\\' :: 'u' :: a :: b :: c :: d :: cs =>
    match hexUnit? a b c d, textBody cs with
    | some n, some (ps, rest) => some (.unit n :: ps, rest)
    | _, _ => none
  | '\\' :: c :: cs =>
    match escaped? c, textBody cs with
    | some e, some (ps, rest) => some (.char e :: ps, rest)
    | _, _ => none
  | c :: cs =>
    if c.toNat < 0x20 then none
    else
      match textBody cs with
      | some (ps, rest) => some (.char c :: ps, rest)
      | none => none

/-- What follows a string is shorter than what it was read from. -/
theorem textBody_length {cs : List Char} {ps : List Piece} {rest : List Char}
    (h : textBody cs = some (ps, rest)) : rest.length < cs.length := by
  fun_induction textBody cs generalizing ps rest <;> simp at h <;>
    simp only [List.length_cons] <;> grind

/-- The text of a string's parts. Two units that form a surrogate pair are one character; a unit
that is half a pair stands for no text. -/
def joinPieces : List Piece → Option (List Char)
  | [] => some []
  | .char c :: ps => (joinPieces ps).map (c :: ·)
  | .unit high :: .unit low :: ps =>
    if 0xD800 ≤ high && high ≤ 0xDBFF && 0xDC00 ≤ low && low ≤ 0xDFFF then
      (joinPieces ps).map (Char.ofNat (0x10000 + (high - 0xD800) * 0x400 + (low - 0xDC00)) :: ·)
    else if 0xD800 ≤ high && high ≤ 0xDFFF then none
    else (joinPieces (.unit low :: ps)).map (Char.ofNat high :: ·)
  | .unit n :: ps =>
    if 0xD800 ≤ n && n ≤ 0xDFFF then none else (joinPieces ps).map (Char.ofNat n :: ·)

/-- Whether a text is empty or a mark, an optional sign and digits. -/
def isExponent : List Char → Bool
  | [] => true
  | c :: cs =>
    let digits :=
      match cs with
      | '+' :: ds => ds
      | '-' :: ds => ds
      | ds => ds
    (c == 'e' || c == 'E') && !digits.isEmpty && digits.all Char.isDigit

/-- Whether a text is an optional fraction and an optional exponent. -/
def isFraction : List Char → Bool
  | '.' :: cs => !(cs.takeWhile Char.isDigit).isEmpty && isExponent (cs.dropWhile Char.isDigit)
  | cs => isExponent cs

/-- Whether a text is a number literal: an optional minus sign, digits without a needless zero
in front, an optional fraction and an optional exponent. -/
def isNumber (cs : List Char) : Bool :=
  let unsigned :=
    match cs with
    | '-' :: cs => cs
    | cs => cs
  match unsigned with
  | '0' :: cs => isFraction cs
  | c :: cs => c.isDigit && isFraction (cs.dropWhile Char.isDigit)
  | [] => false

/-- The characters that occur in number literals. -/
def isNumberChar (c : Char) : Bool :=
  c.isDigit || c == '-' || c == '+' || c == '.' || c == 'e' || c == 'E'

/-- The token of a text of letters. -/
def word? (cs : List Char) : Option Token :=
  match String.ofList cs with
  | "null" => some .null
  | "true" => some (.bool true)
  | "false" => some (.bool false)
  | _ => none

/-- The token of a character that is one by itself. -/
def mark? : Char → Option Token
  | '\x7b' => some .openBrace
  | '\x7d' => some .closeBrace
  | '[' => some .openBracket
  | ']' => some .closeBracket
  | ',' => some .comma
  | ':' => some .colon
  | _ => none

/-- The tokens of a text, read behind those of `done`, whose last comes first. -/
def scanFrom (done : List Token) : List Char → Option (List Token)
  | [] => some done.reverse
  | c :: cs =>
    if c = ' ' || c = '\t' || c = '\n' || c = '\r' then scanFrom done cs
    else if c = '"' then
      match h : textBody cs with
      | some (ps, rest) =>
        have := textBody_length h
        scanFrom (.text ((joinPieces ps).map String.ofList) :: done) rest
      | none => none
    else if c = '-' || c.isDigit then
      let literal := c :: cs.takeWhile isNumberChar
      if isNumber literal then
        have := (List.dropWhile_sublist isNumberChar (l := cs)).length_le
        scanFrom (.number (String.ofList literal) :: done) (cs.dropWhile isNumberChar)
      else none
    else
      match mark? c with
      | some t => scanFrom (t :: done) cs
      | none =>
        match word? (c :: cs.takeWhile Char.isAlpha) with
        | some t =>
          have := (List.dropWhile_sublist Char.isAlpha (l := cs)).length_le
          scanFrom (t :: done) (cs.dropWhile Char.isAlpha)
        | none => none
termination_by cs => cs.length

/-- The tokens of a text; none if some part of it is no token. -/
def scan (cs : List Char) : Option (List Token) := scanFrom [] cs

end Token

end PropertyFilter.Json
