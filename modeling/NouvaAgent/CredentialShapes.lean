import NouvaAgent.LiteralRedaction

namespace NouvaAgent.CredentialShapes

open LiteralRedaction

inductive Regex where
  | empty
  | char (p : UInt16 → Bool)
  | wordBoundary
  | seq (left right : Regex)
  | alt (left right : Regex)
  | star (r : Regex)
  | group (r : Regex)

structure Cursor where
  previous : Option UInt16
  rest : Units
  captured : Units

/-- Repeats as often as possible first, and never without reading something. -/
def repeatGreedy (step : (Cursor → Option Cursor) → Cursor → Option Cursor)
    (next : Cursor → Option Cursor) : ℕ → Cursor → Option Cursor
  | 0, cursor => next cursor
  | bound + 1, cursor =>
    step (fun after =>
        if after.rest.length < cursor.rest.length then repeatGreedy step next bound after
        else none) cursor <|>
      next cursor

def Regex.run : Regex → (Cursor → Option Cursor) → Cursor → Option Cursor
  | .empty, next, cursor => next cursor
  | .char p, next, cursor =>
    match cursor.rest with
    | [] => none
    | c :: rest => if p c then next { cursor with previous := some c, rest := rest } else none
  | .wordBoundary, next, cursor =>
    if isLexicalCharacter cursor.previous = isLexicalCharacter cursor.rest.head? then none
    else next cursor
  | .seq left right, next, cursor => left.run (right.run next) cursor
  | .alt left right, next, cursor => left.run next cursor <|> right.run next cursor
  | .star r, next, cursor => repeatGreedy r.run next cursor.rest.length cursor
  | .group r, next, cursor =>
    r.run (fun after => next { after with
      captured := cursor.rest.take (cursor.rest.length - after.rest.length) }) cursor

/-- `text.replace(pattern, replacement)` with the flag `g`, from a position of the text on. -/
def replaceFrom (pattern : Regex) (replacement : Units → Units) :
    ℕ → Option UInt16 → Units → Units
  | 0, _, rest => rest
  | _ + 1, _, [] => []
  | fuel + 1, previous, c :: rest =>
    match pattern.run some { previous := previous, rest := c :: rest, captured := [] } with
    | none => c :: replaceFrom pattern replacement fuel (some c) rest
    | some after =>
      replacement after.captured ++
        replaceFrom pattern replacement fuel after.previous after.rest

def replace (pattern : Regex) (replacement : Units → Units) (text : Units) : Units :=
  replaceFrom pattern replacement text.length none text

def oneOf (characters : String) : Regex := .char fun c => (units characters).contains c

def noneOf (characters : String) : Regex := .char fun c => !(units characters).contains c

def sequence (parts : List Regex) : Regex := parts.foldr .seq .empty

def anyOf : List Regex → Regex
  | [] => .char fun _ => false
  | [r] => r
  | r :: rest => .alt r (anyOf rest)

def opt (r : Regex) : Regex := .alt r .empty

def plus (r : Regex) : Regex := .seq r (.star r)

def lower (c : UInt16) : UInt16 := if 65 ≤ c && c ≤ 90 then c + 32 else c

def exactly (text : String) : Regex := sequence ((units text).map fun c => .char (· == c))

def word (text : String) : Regex := sequence ((units text).map fun c => .char (lower · == lower c))

def isWhiteSpace (c : UInt16) : Bool :=
  [9, 10, 11, 12, 13, 32, 160, 5760, 8232, 8233, 8239, 8287, 12288, 65279].contains c ||
    (8192 ≤ c && c ≤ 8202)

def space : Regex := .char isWhiteSpace

def noneOfNorSpace (characters : String) : Regex :=
  .char fun c => !(units characters).contains c && !isWhiteSpace c

def nameCharacter : Regex := .char fun c => isLexicalCharacter (some c) || c == 45

def lexicalCharacter : Regex := .char fun c => isLexicalCharacter (some c)

def joined (first second : String) : Regex := sequence [word first, opt (oneOf "-_ "), word second]

def credentialNames : List Regex :=
  [word "authorization", word "cookie", joined "idempotency" "key", word "token", word "secret",
    word "password", word "credential", joined "api" "key", joined "access" "key",
    joined "private" "key", word "signature"]

def assignment : Regex := sequence [opt (oneOf "\"'"), .star space, oneOf ":=", .star space]

def quoted (quote : String) : Regex :=
  sequence [exactly quote,
    .star (.alt
      (.seq (exactly "\\") (.char fun c => !([10, 13, 8232, 8233] : Units).contains c))
      (noneOf quote)),
    exactly quote]

def sensitiveTextPattern : Regex :=
  sequence [.wordBoundary,
    .group (sequence [.star nameCharacter,
      anyOf (credentialNames ++ [word "body", word "payload", word "formdata"]),
      .star nameCharacter]),
    .wordBoundary, assignment,
    anyOf [quoted "\"", quoted "'",
      sequence [exactly "[", plus (noneOfNorSpace ",\x7d]"), exactly "]"],
      plus (noneOfNorSpace ",\x7d]")]]

def sensitiveHeaderPattern : Regex :=
  sequence [.wordBoundary,
    .group (anyOf [word "authorization", joined "proxy" "authorization", word "cookie",
      joined "set" "cookie", joined "idempotency" "key"]),
    .wordBoundary, assignment, .star (noneOf "\r\n")]

def sensitiveQueryValuePattern : Regex :=
  sequence [.group (sequence [oneOf "?&", .star nameCharacter, anyOf credentialNames,
      .star nameCharacter, exactly "="]),
    plus (noneOfNorSpace "&#")]

def uriUserinfoPattern : Regex :=
  sequence [.wordBoundary,
    .group (sequence [.char fun c => 97 ≤ lower c && lower c ≤ 122,
      .star (.char fun c => (97 ≤ lower c && lower c ≤ 122) || (48 ≤ c && c ≤ 57) ||
        (units "+.-").contains c),
      exactly "://"]),
    plus (noneOfNorSpace "/@"), exactly "@"]

def bearerOrBasicPattern : Regex :=
  sequence [.wordBoundary, .group (anyOf [word "Bearer", word "Basic"]), plus space,
    plus (noneOfNorSpace ",;")]

def nouvaTokenPattern : Regex :=
  sequence [.wordBoundary, exactly "nouva_v1_", plus nameCharacter, .wordBoundary]

def githubTokenPattern : Regex :=
  sequence [.wordBoundary,
    anyOf [sequence [exactly "gh", oneOf "pousr", exactly "_", plus lexicalCharacter],
      sequence [exactly "github_pat_", plus lexicalCharacter]],
    .wordBoundary]

def redactCredentialShapes (value : Units) : Units :=
  let value := replace sensitiveHeaderPattern
    (fun name => name ++ units "=" ++ redactedLogValue) value
  let value := replace uriUserinfoPattern
    (fun scheme => scheme ++ redactedLogValue ++ units "@") value
  let value := replace sensitiveQueryValuePattern (fun name => name ++ redactedLogValue) value
  let value := replace sensitiveTextPattern
    (fun name => name ++ units "=" ++ redactedLogValue) value
  let value := replace bearerOrBasicPattern
    (fun scheme => scheme ++ units " " ++ redactedLogValue) value
  let value := replace nouvaTokenPattern (fun _ => redactedLogValue) value
  replace githubTokenPattern (fun _ => redactedLogValue) value

end NouvaAgent.CredentialShapes
