import Mathlib.Data.List.Basic
import Mathlib.Algebra.Order.Ring.Rat

namespace NouvaAgent.Text

def slice (n : ℕ) (text : String) : String := String.ofList (text.toList.take n)

def toLowerCase (text : String) : String := String.ofList (text.toList.map Char.toLower)

def startsWith (head text : String) : Bool := head.toList.isPrefixOf text.toList

/-- Docker puts a slash before a container's name: `name.replace(/^\//, "")`. -/
def withoutSlash (name : String) : String :=
  match name.toList with
  | '/' :: rest => String.ofList rest
  | _ => name

/-- A timestamp with the milliseconds `Date.parse` reads from it, or `none` for `NaN`. -/
structure DateText where
  text : String
  parsed : Option ℤ
  deriving DecidableEq, Repr

/-- Docker writes a time that never came as the year 1. -/
def readTimestampMs (value : Option DateText) : Option ℤ :=
  match value with
  | none => none
  | some date =>
    if date.text = "" ∨ startsWith "0001-" date.text then none else date.parsed

/-- `text.trim()` drops these at both ends. -/
def isWhiteSpace (c : Char) : Bool :=
  c.toNat ∈ [9, 10, 11, 12, 13, 32, 160, 5760, 8232, 8233, 8239, 8287, 12288, 65279] ||
    (8192 ≤ c.toNat && c.toNat ≤ 8202)

def trim (text : String) : String :=
  String.ofList ((text.toList.dropWhile isWhiteSpace).reverse.dropWhile isWhiteSpace).reverse

def pow2 (e : ℤ) : ℚ := if 0 ≤ e then 2 ^ e.toNat else 1 / 2 ^ (-e).toNat

def pow10 (e : ℤ) : ℚ := if 0 ≤ e then 10 ^ e.toNat else 1 / 10 ^ (-e).toNat

def roundHalfEven (q : ℚ) : ℤ :=
  let low := q.floor
  let rest := q - low
  if rest < 1 / 2 then low
  else if 1 / 2 < rest then low + 1
  else if low % 2 = 0 then low else low + 1

/-- The double nearest to `q`, or `none` when that is an infinity. -/
def toDouble (q : ℚ) : Option ℚ :=
  if q = 0 then some 0 else
  let guess : ℤ := (q.num.natAbs.log2 : ℤ) - (q.den.log2 : ℤ)
  let e := if max q (-q) < pow2 guess then guess - 1 else guess
  let unit := pow2 (max e (-1022) - 52)
  let value : ℚ := roundHalfEven (q / unit) * unit
  if max value (-value) < pow2 1024 then some value else none

def digitValue (c : Char) : Option ℕ :=
  if '0' ≤ c ∧ c ≤ '9' then some (c.toNat - '0'.toNat)
  else if 'a' ≤ c ∧ c ≤ 'f' then some (c.toNat - 'a'.toNat + 10)
  else if 'A' ≤ c ∧ c ≤ 'F' then some (c.toNat - 'A'.toNat + 10)
  else none

def readDigits (base : ℕ) (digits : List Char) : Option ℕ :=
  digits.foldlM (fun n c => do
    let d ← digitValue c
    if d < base then some (n * base + d) else none) 0

def readInteger (base : ℕ) (digits : List Char) : Option ℚ :=
  if digits = [] then none else (readDigits base digits).map (fun n => (n : ℚ))

def readExponent (text : List Char) : Option ℤ :=
  match text with
  | [] => some 0
  | e :: rest =>
    if e = 'e' ∨ e = 'E' then
      match rest with
      | '-' :: digits => if digits = [] then none else (readDigits 10 digits).map (fun n => -(n : ℤ))
      | '+' :: digits => if digits = [] then none else (readDigits 10 digits).map (fun n => (n : ℤ))
      | digits => if digits = [] then none else (readDigits 10 digits).map (fun n => (n : ℤ))
    else none

def readDecimal (text : List Char) : Option ℚ :=
  let whole := text.takeWhile Char.isDigit
  let rest := text.dropWhile Char.isDigit
  let (fraction, tail) := match rest with
    | '.' :: more => (more.takeWhile Char.isDigit, more.dropWhile Char.isDigit)
    | _ => ([], rest)
  if whole = [] ∧ fraction = [] then none
  else do
    let digits ← readDigits 10 (whole ++ fraction)
    let exponent ← readExponent tail
    some (digits * pow10 (exponent - fraction.length))

/-- `Number(text)` where that is finite. -/
def number (text : String) : Option ℚ :=
  let exact := match (trim text).toList with
    | [] => some 0
    | '0' :: 'x' :: digits | '0' :: 'X' :: digits => readInteger 16 digits
    | '0' :: 'o' :: digits | '0' :: 'O' :: digits => readInteger 8 digits
    | '0' :: 'b' :: digits | '0' :: 'B' :: digits => readInteger 2 digits
    | '-' :: digits => (readDecimal digits).map (fun q => -q)
    | '+' :: digits => readDecimal digits
    | digits => readDecimal digits
  exact.bind toDouble

theorem toString_injective {n m : ℕ} (h : toString n = toString m) : n = m := by
  have hdigits : Nat.ofDigitChars 10 (toString n).toList 0 =
      Nat.ofDigitChars 10 (toString m).toList 0 := by rw [h]
  simpa using hdigits

example : number " 3000 " = some 3000 := by decide +kernel

example : number "30s" = none := by decide +kernel

end NouvaAgent.Text
