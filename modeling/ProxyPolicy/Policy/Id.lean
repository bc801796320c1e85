import ProxyPolicy.Policy.Error
import ProxyPolicy.Text.Blank

/-!
# Identifiers

An entity is named by a text of the shape of a UUID in lower case. A value of type `Id kind` is such
a text, so that no other text can reach the tables by way of a call. Digits of any script count as
digits.
-/

namespace ProxyPolicy.Policy

open ProxyPolicy.Text

/-- Whether a character may stand between the hyphens of an identifier. -/
def isIdDigit (c : Char) : Bool := isDecimalDigit c || ('a' ≤ c && c ≤ 'f')

/-- The lengths of the parts of an identifier. -/
def idPartLengths : List Nat := [8, 4, 4, 4, 12]

/-- Whether a text is five parts of the right lengths with hyphens between them. -/
def isUuid (text : String) : Bool :=
  let parts := text.toList.splitOn '-'
  parts.map List.length == idPartLengths && parts.all (·.all isIdDigit)

/-- An identifier of an entity of a kind. -/
structure Id (kind : Kind) where
  /-- The text of the identifier. -/
  text : String
  /-- The text has the shape of an identifier. -/
  isUuid_text : isUuid text = true
  deriving DecidableEq

namespace Id

/-- The identifier that a text is. -/
def parse (kind : Kind) (text : String) : Except Error (Id kind) :=
  if h : isUuid text = true then .ok ⟨text, h⟩ else .error (.invalidId kind text)

/-- The text of the identifier that is a number of 128 bits. -/
def textOfNat (n : Nat) : String :=
  let bound := Nat.pow 2 128
  let digits := Nat.toDigits 16 (bound + n % bound)
  let part (start length : Nat) : List Char := (digits.drop (start + 1)).take length
  String.ofList (['-'].intercalate [part 0 8, part 8 4, part 12 4, part 16 4, part 20 12])

/-- The identifiers that the texts of a list are; the first that is none fails the whole list. -/
def parseAll (kind : Kind) (texts : List String) : Except Error (List (Id kind)) :=
  texts.mapM (parse kind)

/-- The identifiers of one list with the comments of another. -/
def pairWithComments (kind : Kind) (texts comments : List String) :
    Except Error (List (Id kind × String)) :=
  if texts.length ≠ comments.length then
    .error (.lengthMismatch kind texts.length comments.length)
  else
    (texts.zip comments).mapM fun (text, comment) => do return (← parse kind text, comment)

end Id

/-- The first member of a list that an earlier one equals. -/
def firstRepeated? {α : Type} [BEq α] : List α → List α → Option α
  | _, [] => none
  | seen, x :: xs => if seen.contains x then some x else firstRepeated? (x :: seen) xs

/-- Refuses a list that names an entity twice. -/
def requireDistinct {kind : Kind} (ids : List (Id kind)) : Except Error Unit :=
  match firstRepeated? [] ids with
  | some id => .error (.repeated kind id.text)
  | none => .ok ()

end ProxyPolicy.Policy
