import NouvaAgent.Encoding
import NouvaAgent.Json
import NouvaAgent.Text

/-! How `JSON.parse` reads a text. Every reader takes the text from where it stands and answers what
it read, with the text behind it. -/

namespace NouvaAgent.JsonText

open Text

def isSpace (c : Char) : Bool := c = ' ' || c = '\t' || c = '\n' || c = '\r'

def skipSpace (text : List Char) : List Char := text.dropWhile isSpace

def isNumberCharacter (c : Char) : Bool := c.isDigit || c ∈ ['+', '-', '.', 'e', 'E']

def isDecimal (text : List Char) : Bool :=
  let whole := text.takeWhile Char.isDigit
  !whole.isEmpty && (whole.head? != some '0' || whole.length == 1) &&
    match text.dropWhile Char.isDigit with
    | '.' :: rest => !(rest.takeWhile Char.isDigit).isEmpty
    | _ => true

/-- The double nearest to `q`. An infinity is read as `2^1024`, with its sign: no double reaches
it. -/
def nearestDouble (q : ℚ) : ℚ := (toDouble q).getD (if 0 ≤ q then pow2 1024 else -pow2 1024)

def readNumber (text : List Char) : Option (Json × List Char) :=
  let token := text.takeWhile isNumberCharacter
  let (negative, digits) := match token with
    | '-' :: digits => (true, digits)
    | digits => (false, digits)
  if isDecimal digits then do
    let magnitude ← readDecimal digits
    some (.num (nearestDouble (if negative then -magnitude else magnitude)),
      text.drop token.length)
  else none

def escapes : List (Char × UInt16) :=
  [('"', 34), ('\\', 92), ('/', 47), ('b', 8), ('f', 12), ('n', 10), ('r', 13), ('t', 9)]

def readString : List Char → Option (Units × List Char)
  | [] => none
  | '"' :: rest => some ([], rest)
  | '\\' :: 'u' :: a :: b :: c :: d :: rest => do
    let unit ← readDigits 16 [a, b, c, d]
    let (later, rest) ← readString rest
    some (UInt16.ofNat unit :: later, rest)
  | '\\' :: c :: rest => do
    let unit ← escapes.lookup c
    let (later, rest) ← readString rest
    some (unit :: later, rest)
  | c :: rest =>
    if c.toNat < 32 ∨ c = '\\' then none
    else do
      let (later, rest) ← readString rest
      some (codeUnits c ++ later, rest)

def readWord (word : String) (value : Json) (text : List Char) : Option (Json × List Char) :=
  if word.toList.isPrefixOf text then some (value, text.drop word.length) else none

mutual

def readValue : ℕ → List Char → Option (Json × List Char)
  | 0, _ => none
  | fuel + 1, text =>
    match skipSpace text with
    | '"' :: rest => (readString rest).map fun (value, rest) => (.str value, rest)
    | '[' :: rest =>
      match skipSpace rest with
      | ']' :: rest => some (.arr [], rest)
      | rest => (readItems fuel rest).map fun (items, rest) => (.arr items, rest)
    | '\x7b' :: rest =>
      match skipSpace rest with
      | '\x7d' :: rest => some (.obj [], rest)
      | rest => (readEntries fuel [] rest).map fun (entries, rest) => (.obj entries, rest)
    | 'n' :: rest => readWord "ull" .null rest
    | 't' :: rest => readWord "rue" (.bool true) rest
    | 'f' :: rest => readWord "alse" (.bool false) rest
    | rest => readNumber rest

def readItems : ℕ → List Char → Option (List Json × List Char)
  | 0, _ => none
  | fuel + 1, text => do
    let (item, rest) ← readValue fuel text
    match skipSpace rest with
    | ']' :: rest => some ([item], rest)
    | ',' :: rest => (readItems fuel rest).map fun (items, rest) => (item :: items, rest)
    | _ => none

/-- Of two properties of one name the later one counts. -/
def readEntries : ℕ → List (Units × Json) → List Char → Option (List (Units × Json) × List Char)
  | 0, _, _ => none
  | fuel + 1, before, text =>
    match skipSpace text with
    | '"' :: rest => do
      let (key, rest) ← readString rest
      match skipSpace rest with
      | ':' :: rest => do
        let (value, rest) ← readValue fuel rest
        let entries := Json.define before key value
        match skipSpace rest with
        | '\x7d' :: rest => some (entries, rest)
        | ',' :: rest => readEntries fuel entries rest
        | _ => none
      | _ => none
    | _ => none

end

/-- `JSON.parse(text)`, or `none` where it throws. A value takes two readers to each of its
characters at most. -/
def parse (text : String) : Option Json := do
  let (value, rest) ← readValue (2 * text.length + 2) text.toList
  if skipSpace rest = [] then some value else none

example : parse "[\x7b\"a\\u0041\" : [1.5e1, true]\x7d, null]" =
    some (.arr [.obj [(units "aA", .arr [.num 15, .bool true])], .null]) := by decide +kernel

example : parse "[01]" = none := by decide +kernel

end NouvaAgent.JsonText
