import ProxyPolicy.Text.Hex
import ProxyPolicy.Toml.Reader
import ProxyPolicy.Toml.Value

/-!
# TOML numbers

Integers in four bases, numbers with a fraction or an exponent, and the numbers that have names.
Between two digits there may be a low line. An integer fits 64 bits, and a positive number is not so
large that it would round to infinity.
-/

namespace ProxyPolicy.Toml

open ProxyPolicy.Text

/-- Reads digits of a class, with single low lines between them; the low lines are dropped. -/
def digitRun (p : Char → Bool) : Read (List Char) := do
  let first ← Read.one p
  let more ← Read.many (Read.one p <|> Read.char '_' *> Read.one p)
  return first :: more

/-- Reads a sign, and says whether it is a minus. -/
def sign : Read Bool := do
  if ← Read.textIf ['-'] then return true
  discard (Read.textIf ['+'])
  return false

/-- Reads the digits of a decimal integer: a zero at their start stands alone. -/
def decimalDigits : Read (List Char) := do
  if ← Read.textIf ['0'] then return ['0'] else digitRun Char.isDigit

/-- The integer of a magnitude and a sign, if it fits 64 bits. -/
def integerOf (negative : Bool) (n : Nat) : Read Scalar := do
  Read.require (n < 0x8000000000000000 || (negative && n = 0x8000000000000000))
  return .integer (if negative then -(n : Int) else n)

/-- Reads an integer in a base other than ten, by its mark and its digits. -/
def basedInteger (mark : List Char) (base : Nat) : Read Scalar := do
  Read.text mark
  let digits ← digitRun fun c => (hexValue? c).any (· < base)
  integerOf false (digits.foldl (fun n c => base * n + (hexValue? c).getD 0) 0)

/-- Reads a decimal integer. -/
def decimalInteger : Read Scalar := do
  let negative ← sign
  integerOf negative (ofDecimal (← decimalDigits))

/-- Reads an integer. -/
def integer : Read Scalar :=
  basedInteger ['0', 'x'] 16 <|> basedInteger ['0', 'o'] 8 <|> basedInteger ['0', 'b'] 2 <|>
    decimalInteger

/-- Whether `digits * 10 ^ exponent` rounds to a finite binary64 number: whether it is below the
point halfway between the largest such number and the next power of two. -/
def isFinite (digits : List Char) (exponent : Int) : Bool :=
  let n := ofDecimal digits
  let magnitude := (Nat.toDigits 10 n).length + exponent
  let bound := Nat.pow 2 1024 - Nat.pow 2 970
  if n = 0 || magnitude < 300 then true
  else if 400 < magnitude then false
  else if 0 ≤ exponent then n * Nat.pow 10 exponent.toNat < bound
  else n < bound * Nat.pow 10 (-exponent).toNat

/-- Reads an exponent. -/
def exponent : Read Int := do
  discard (Read.one fun c => c == 'e' || c == 'E')
  let negative ← sign
  let n := ofDecimal (← digitRun Char.isDigit)
  return if negative then -(n : Int) else n

/-- Reads a number with a fraction, an exponent, or both. -/
def pointNumber : Read Scalar := do
  let negative ← sign
  let whole ← decimalDigits
  let pointed ← Read.textIf ['.']
  let fraction ← if pointed then digitRun Char.isDigit else pure []
  let e ← if pointed then exponent <|> pure 0 else exponent
  Read.require (negative || isFinite (whole ++ fraction) (e - fraction.length))
  return .float

/-- Reads infinity or the number that is none. -/
def namedNumber : Read Scalar := do
  discard sign
  Read.text ['i', 'n', 'f'] <|> Read.text ['n', 'a', 'n']
  return .float

/-- Reads a truth value. -/
def boolean : Read Scalar := do
  if ← Read.textIf ['t', 'r', 'u', 'e'] then return .boolean true
  Read.text ['f', 'a', 'l', 's', 'e']
  return .boolean false

end ProxyPolicy.Toml
