import WebviewHost.Number.Literal
import WebviewHost.Text.Hex
import WebviewHost.Toml.Item

/-!
# TOML scalars

White space, comments, keys and the values that hold no other values: strings of four kinds,
integers of four bases, floats, dates and times, and booleans. Every reader takes its item from
the front of a text and returns the rest.
-/

set_option autoImplicit false

namespace WebviewHost.Toml

open WebviewHost.Number (Literal decimalDigits ofDigits roundFraction takeLiteral?)
open WebviewHost.Text (hexNumber? hexValue?)

/-! ## White space and comments -/

/-- White space within a line. -/
def isBlank (c : Char) : Bool := c = ' ' || c = '\t'

def skipBlanks (text : List Char) : List Char := text.dropWhile isBlank

def takeNewline? : List Char → Option (List Char)
  | '\n' :: rest => some rest
  | '\r' :: '\n' :: rest => some rest
  | _ => none

def isCommentChar (c : Char) : Bool := c = '\t' || (0x20 ≤ c.toNat && c.toNat ≠ 0x7f)

def skipComment : List Char → List Char
  | '#' :: rest => rest.dropWhile isCommentChar
  | text => text

/-- The end of a line, possibly after a comment: a line break or the end of the text. -/
def takeLineEnd? (text : List Char) : Option (List Char) :=
  match skipComment (skipBlanks text) with
  | [] => some []
  | rest => takeNewline? rest

/-- White space, comments and line breaks, as they may stand between the items of an array. The
first argument bounds their number. -/
def skipLines : Nat → List Char → List Char
  | 0, text => text
  | fuel + 1, text =>
      let rest := skipBlanks text
      match takeNewline? (skipComment rest) with
      | some rest => skipLines fuel rest
      | none => rest

/-! ## Strings -/

def isStringChar (c : Char) : Bool := c = '\t' || (0x20 ≤ c.toNat && c.toNat ≠ 0x7f)

def charOf? (code : Nat) : Option Char :=
  if code < 0xd800 || (0xdfff < code && code ≤ 0x10ffff) then some (Char.ofNat code) else none

def takeEscape? : List Char → Option (Char × List Char)
  | 'b' :: rest => some ('\x08', rest)
  | 't' :: rest => some ('\t', rest)
  | 'n' :: rest => some ('\n', rest)
  | 'f' :: rest => some ('\x0c', rest)
  | 'r' :: rest => some ('\r', rest)
  | '"' :: rest => some ('"', rest)
  | '\\' :: rest => some ('\\', rest)
  | 'u' :: rest =>
      if rest.length < 4 then none
      else ((hexNumber? (rest.take 4)).bind charOf?).map (·, rest.drop 4)
  | 'U' :: rest =>
      if rest.length < 8 then none
      else ((hexNumber? (rest.take 8)).bind charOf?).map (·, rest.drop 8)
  | _ => none

def takeBasic? : Nat → List Char → Option (List Char × List Char)
  | 0, _ => none
  | fuel + 1, text =>
      match text with
      | [] => none
      | '"' :: rest => some ([], rest)
      | '\\' :: rest =>
          match takeEscape? rest with
          | none => none
          | some (c, rest) => (takeBasic? fuel rest).map fun (text, rest) => (c :: text, rest)
      | c :: rest =>
          if isStringChar c then (takeBasic? fuel rest).map fun (text, rest) => (c :: text, rest)
          else none

def takeLiteralString? : List Char → Option (List Char × List Char)
  | [] => none
  | '\'' :: rest => some ([], rest)
  | c :: rest =>
      if isStringChar c then (takeLiteralString? rest).map fun (text, rest) => (c :: text, rest)
      else none

/-- Three quotes close a string of several lines. Up to two more before them belong to it. -/
def takeClosing? (quote : Char) : List Char → Option (List Char × List Char)
  | a :: b :: c :: rest =>
      if a = quote && b = quote && c = quote then
        match rest with
        | d :: e :: after =>
            if d = quote && e = quote then some ([quote, quote], after)
            else if d = quote then some ([quote], e :: after)
            else some ([], d :: e :: after)
        | [d] => if d = quote then some ([quote], []) else some ([], [d])
        | [] => some ([], [])
      else none
  | _ => none

def skipBreaks : List Char → List Char
  | '\r' :: '\n' :: rest => skipBreaks rest
  | c :: rest => if isBlank c || c = '\n' then skipBreaks rest else c :: rest
  | [] => []

/-- A backslash at the end of a line, after it was taken: the line break and all white space and
line breaks that follow are dropped. -/
def takeContinuation? (text : List Char) : Option (List Char) :=
  (takeNewline? (skipBlanks text)).map skipBreaks

def takeMultiBasic? : Nat → List Char → Option (List Char × List Char)
  | 0, _ => none
  | fuel + 1, text =>
      match takeClosing? '"' text with
      | some closed => some closed
      | none =>
          match text with
          | [] => none
          | '\\' :: rest =>
              match takeContinuation? rest with
              | some rest => takeMultiBasic? fuel rest
              | none =>
                  match takeEscape? rest with
                  | none => none
                  | some (c, rest) =>
                      (takeMultiBasic? fuel rest).map fun (text, rest) => (c :: text, rest)
          | c :: rest =>
              match takeNewline? (c :: rest) with
              | some rest =>
                  (takeMultiBasic? fuel rest).map fun (text, rest) => ('\n' :: text, rest)
              | none =>
                  if isStringChar c then
                    (takeMultiBasic? fuel rest).map fun (text, rest) => (c :: text, rest)
                  else none

def takeMultiLiteral? : Nat → List Char → Option (List Char × List Char)
  | 0, _ => none
  | fuel + 1, text =>
      match takeClosing? '\'' text with
      | some closed => some closed
      | none =>
          match text with
          | [] => none
          | c :: rest =>
              match takeNewline? (c :: rest) with
              | some rest =>
                  (takeMultiLiteral? fuel rest).map fun (text, rest) => ('\n' :: text, rest)
              | none =>
                  if isStringChar c then
                    (takeMultiLiteral? fuel rest).map fun (text, rest) => (c :: text, rest)
                  else none

def skipNewline (text : List Char) : List Char := (takeNewline? text).getD text

def takeString? (text : List Char) : Option (List Char × List Char) :=
  let fuel := text.length + 1
  match text with
  | '"' :: '"' :: '"' :: rest => takeMultiBasic? fuel (skipNewline rest)
  | '"' :: rest => takeBasic? fuel rest
  | '\'' :: '\'' :: '\'' :: rest => takeMultiLiteral? fuel (skipNewline rest)
  | '\'' :: rest => takeLiteralString? rest
  | _ => none

/-! ## Keys -/

def isBareKeyChar (c : Char) : Bool :=
  ('A' ≤ c && c ≤ 'Z') || ('a' ≤ c && c ≤ 'z') || ('0' ≤ c && c ≤ '9') || c = '-' || c = '_'

/-- One part of a key: bare, or a string of one line. -/
def takeKeyPart? (text : List Char) : Option (String × List Char) :=
  match text with
  | '"' :: rest => (takeBasic? (text.length + 1) rest).map fun (key, rest) =>
      (String.ofList key, rest)
  | '\'' :: rest => (takeLiteralString? rest).map fun (key, rest) => (String.ofList key, rest)
  | text =>
      match text.takeWhile isBareKeyChar with
      | [] => none
      | key => some (String.ofList key, text.dropWhile isBareKeyChar)

/-- The parts of a dotted key, with white space around each of them. -/
def takeKeyParts? : Nat → List Char → Option (List String × List Char)
  | 0, _ => none
  | fuel + 1, text =>
      match takeKeyPart? (skipBlanks text) with
      | none => none
      | some (part, rest) =>
          match skipBlanks rest with
          | '.' :: rest => (takeKeyParts? fuel rest).map fun (parts, rest) => (part :: parts, rest)
          | rest => some ([part], rest)

/-- How deep tables and arrays may lie in one another, and how many parts a key may have. -/
def nestingLimit : Nat := 79

def takeKey? (text : List Char) : Option (List String × String × List Char) :=
  match takeKeyParts? (text.length + 1) text with
  | none => none
  | some (parts, rest) =>
      match parts.getLast? with
      | none => none
      | some last => if nestingLimit < parts.length then none
          else some (parts.dropLast, last, rest)

/-! ## Dates and times -/

def takeNumber? (count : Nat) (text : List Char) : Option (Nat × List Char) :=
  let digits := text.take count
  if digits.length = count && digits.all Char.isDigit then
    some (ofDigits (digits.map fun c => c.toNat - '0'.toNat), text.drop count)
  else none

def takeChar? (c : Char) : List Char → Option (List Char)
  | d :: rest => if c = d then some rest else none
  | [] => none

def daysIn (year month : Nat) : Nat :=
  if month = 2 then
    if year % 4 = 0 && (year % 100 ≠ 0 || year % 400 = 0) then 29 else 28
  else if month = 4 || month = 6 || month = 9 || month = 11 then 30
  else 31

def takeDate? (text : List Char) : Option (List Char) := do
  let (year, rest) ← takeNumber? 4 text
  let rest ← takeChar? '-' rest
  let (month, rest) ← takeNumber? 2 rest
  let rest ← takeChar? '-' rest
  let (day, rest) ← takeNumber? 2 rest
  if 1 ≤ month && month ≤ 12 && 1 ≤ day && day ≤ daysIn year month then some rest else none

def skipSecondFraction : List Char → List Char
  | '.' :: c :: rest => if c.isDigit then rest.dropWhile Char.isDigit else '.' :: c :: rest
  | text => text

/-- A time of day. A minute may have a leap second. -/
def takeTime? (text : List Char) : Option (List Char) := do
  let (hour, rest) ← takeNumber? 2 text
  let rest ← takeChar? ':' rest
  let (minute, rest) ← takeNumber? 2 rest
  let rest ← takeChar? ':' rest
  let (second, rest) ← takeNumber? 2 rest
  if hour ≤ 23 && minute ≤ 59 && second ≤ 60 then some (skipSecondFraction rest) else none

def takeOffset? : List Char → Option (List Char)
  | [] => none
  | c :: rest =>
      if c = 'Z' || c = 'z' then some rest
      else if c = '+' || c = '-' then do
        let (hour, rest) ← takeNumber? 2 rest
        let rest ← takeChar? ':' rest
        let (minute, rest) ← takeNumber? 2 rest
        if hour ≤ 23 && minute ≤ 59 then some rest else none
      else none

def skipDateTime : List Char → List Char
  | [] => []
  | c :: rest =>
      if c = 'T' || c = 't' || c = ' ' then
        match takeTime? rest with
        | some rest => (takeOffset? rest).getD rest
        | none => c :: rest
      else c :: rest

def takeDateTime? (text : List Char) : Option (List Char) :=
  match takeDate? text with
  | some rest => some (skipDateTime rest)
  | none => takeTime? text

/-! ## Numbers -/

/-- Digits in which single underscores may stand between two of them. The digits are returned
without the underscores. -/
def takeSpacedDigits? (isDigit : Char → Bool) : Nat → List Char → Option (List Char × List Char)
  | 0, _ => none
  | fuel + 1, text =>
      match text with
      | [] => none
      | c :: rest =>
          if isDigit c then
            match rest with
            | '_' :: rest => (takeSpacedDigits? isDigit fuel rest).map fun (digits, rest) =>
                (c :: digits, rest)
            | d :: after =>
                if isDigit d then
                  (takeSpacedDigits? isDigit fuel (d :: after)).map fun (digits, rest) =>
                    (c :: digits, rest)
                else some ([c], d :: after)
            | [] => some ([c], [])
          else none

/-- Decimal digits, of which a leading zero stands alone. -/
def takeUnsignedDecimal? (text : List Char) : Option (List Char × List Char) :=
  match text with
  | '0' :: rest => some (['0'], rest)
  | text => takeSpacedDigits? Char.isDigit (text.length + 1) text

def takeSign : List Char → Bool × List Char
  | '+' :: rest => (false, rest)
  | '-' :: rest => (true, rest)
  | text => (false, text)

def takeDecimal? (text : List Char) : Option (Bool × List Char × List Char) :=
  let (negative, rest) := takeSign text
  (takeUnsignedDecimal? rest).map fun (digits, rest) => (negative, digits, rest)

/-- The exponent of a float, without underscores. -/
def takeFloatExponent? : List Char → Option (List Char × List Char)
  | [] => none
  | c :: rest =>
      if c = 'e' || c = 'E' then
        let (negative, rest) := takeSign rest
        (takeSpacedDigits? Char.isDigit (rest.length + 1) rest).map fun (digits, rest) =>
          ('e' :: (if negative then '-' else '+') :: digits, rest)
      else none

/-- The fraction of a float and an exponent if there is one, without underscores. -/
def takeFloatFraction? : List Char → Option (List Char × List Char)
  | '.' :: rest =>
      match takeSpacedDigits? Char.isDigit (rest.length + 1) rest with
      | none => none
      | some (digits, rest) =>
          match rest with
          | c :: _ =>
              if c = 'e' || c = 'E' then
                (takeFloatExponent? rest).map fun (exponent, rest) =>
                  ('.' :: digits ++ exponent, rest)
              else some ('.' :: digits, rest)
          | [] => some ('.' :: digits, rest)
  | _ => none

/-- Whether a literal lies beyond the largest double once it is rounded. -/
def isInfinite (literal : Literal) : Bool :=
  let digits := ofDigits (literal.whole ++ literal.fraction)
  let exponent : Int := literal.exponent.getD 0 - literal.fraction.length
  let top : Int := exponent + (decimalDigits digits).length
  if digits = 0 || top < 300 then false
  else if 320 < top then true
  else
    let (numerator, denominator) :=
      if 0 ≤ exponent then (digits * Nat.pow 10 exponent.toNat, 1)
      else (digits, Nat.pow 10 (-exponent).toNat)
    (roundFraction numerator denominator).isNone

/-- A float. One that rounds to positive infinity is refused, negative infinity is not. -/
def takeFloat? (text : List Char) : Option (List Char) := do
  let (negative, whole, rest) ← takeDecimal? text
  let (tail, rest) ← (takeFloatExponent? rest).or (takeFloatFraction? rest)
  let (literal, _) ← takeLiteral? (whole ++ tail)
  if !negative && isInfinite literal then none else some rest

def takeWord? : List Char → List Char → Option (List Char)
  | [], text => some text
  | c :: word, text => (takeChar? c text).bind (takeWord? word)

def takeSpecialFloat? (text : List Char) : Option (List Char) :=
  let rest := (takeSign text).2
  (takeWord? "inf".toList rest).or (takeWord? "nan".toList rest)

def inBase (base : Nat) (digits : List Char) : Nat :=
  digits.foldl (fun n c => base * n + (hexValue? c).getD 0) 0

/-- An integer in a base with its own mark. It must fit 64 bits with a sign. -/
def takeBased? (base : Nat) (isDigit : Char → Bool) (text : List Char) :
    Option (Int × List Char) :=
  match takeSpacedDigits? isDigit (text.length + 1) text with
  | none => none
  | some (digits, rest) =>
      let value := inBase base digits
      if value < Nat.pow 2 63 then some (value, rest) else none

/-- An integer. It must fit 64 bits with a sign. -/
def takeInteger? (text : List Char) : Option (Int × List Char) :=
  match text with
  | '0' :: 'x' :: rest => takeBased? 16 (fun c => (hexValue? c).isSome) rest
  | '0' :: 'o' :: rest => takeBased? 8 (fun c => '0' ≤ c && c ≤ '7') rest
  | '0' :: 'b' :: rest => takeBased? 2 (fun c => c = '0' || c = '1') rest
  | text =>
      match takeDecimal? text with
      | none => none
      | some (negative, digits, rest) =>
          let value := inBase 10 digits
          if negative then
            if value ≤ Nat.pow 2 63 then some (-(value : Int), rest) else none
          else if value < Nat.pow 2 63 then some (value, rest)
          else none

def takeNumeric? (text : List Char) : Option (Item × List Char) :=
  match takeDateTime? text with
  | some rest => some (.date, rest)
  | none =>
      match (takeFloat? text).or (takeSpecialFloat? text) with
      | some rest => some (.float, rest)
      | none => (takeInteger? text).map fun (value, rest) => (.integer value, rest)

def takeScalar? (text : List Char) : Option (Item × List Char) :=
  match text with
  | [] => none
  | c :: _ =>
      if c = '"' || c = '\'' then
        (takeString? text).map fun (value, rest) => (.string (String.ofList value), rest)
      else if c = 't' then (takeWord? "true".toList text).map (.boolean true, ·)
      else if c = 'f' then (takeWord? "false".toList text).map (.boolean false, ·)
      else if c = 'i' || c = 'n' then (takeSpecialFloat? text).map (.float, ·)
      else if c = '+' || c = '-' || c.isDigit then takeNumeric? text
      else none

end WebviewHost.Toml
