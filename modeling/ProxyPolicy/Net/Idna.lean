import ProxyPolicy.Net.Idna.Classes
import ProxyPolicy.Net.Idna.Mapping
import ProxyPolicy.Net.Idna.Normalization
import ProxyPolicy.Net.Punycode
import ProxyPolicy.Net.Suffix

/-!
# Internationalized domain names

The preparation of a domain name for look-up (UTS #46, nontransitional, with joiner and directional
rules and without limits on length or hyphens). The name is mapped and composed, its encoded labels
are decoded, and every label is checked. `toLabels?` gives the labels of the prepared name, each as
it will be looked up, or nothing when the name is invalid.
-/

namespace ProxyPolicy.Net.Idna

open ProxyPolicy.Text

/-- The ASCII characters that no domain name of a URL may hold: controls, the space, and those that
delimit something in a URL. -/
def isForbidden (c : Char) : Bool :=
  c.toNat ≤ 0x20 || c.toNat == 0x7f || "%#/:<>?@[\\]^|".toList.contains c

/-- What a character becomes, or nothing when it makes the name invalid. -/
def mapChar? (c : Char) : Option (List Char) :=
  if c.toNat < 128 then some [c.toLower]
  else if ignoredChars.contains c then some []
  else match mappedChars.image? c with
    | some image => some image
    | none => if keptChars.contains c then some [c] else none

/-- The mapped and composed form of a name. -/
def prepare? (name : List Char) : Option (List Char) :=
  (name.mapM mapChar?).map fun images => compose images.flatten

/-- Whether the nearest character that joining does not pass over is of a joining class. -/
def joins (isJoining : Char → Bool) (cs : List Char) : Bool :=
  match cs.dropWhile transparentJoining.contains with
  | c :: _ => isJoining c
  | [] => false

/-- Whether a joiner may stand between two texts, the first given from its end: after a virama, and
the non-joiner also between letters that would otherwise join. -/
def joinerAllowed (joiner : Char) (before after : List Char) : Bool :=
  (match before with
    | c :: _ => combiningClass c == 9
    | [] => false) ||
  (joiner == '\u200c' &&
    joins (fun c => leftJoining.contains c || dualJoining.contains c) before &&
    joins (fun c => rightJoining.contains c || dualJoining.contains c) after)

/-- Whether every joiner of a text stands where it may, given the characters before the text from
the nearest on. -/
def joinersAllowed (before : List Char) : List Char → Bool
  | [] => true
  | c :: cs =>
    ((c != '\u200c' && c != '\u200d') || joinerAllowed c before cs) &&
      joinersAllowed (c :: before) cs

/-- Whether a label may be looked up: no mark begins it, every joiner stands where it may, and no
character is forbidden. -/
def isValidLabel (label : Label) : Bool :=
  (match label with
    | c :: _ => !combiningMarks.contains c
    | [] => true) &&
  joinersAllowed [] label && !label.any isForbidden

/-- The start of an encoded label. -/
def encodedMark : List Char := "xn--".toList

/-- The longest encoded text that is decoded. -/
def decodeLimit : Nat := 2000

/-- The longest label outside ASCII that is encoded. -/
def encodeLimit : Nat := 1000

/-- The label that an encoded label stands for. It holds a character outside ASCII, so the encoded
text has digits after its last hyphen, and it is in prepared form itself. -/
def decodeLabel? (encoded : List Char) : Option Label :=
  if encoded = [] ∨ decodeLimit < encoded.length ∨ encoded.getLast? = some '-' then none
  else
    match Punycode.decode? encoded with
    | none => none
    | some label => if prepare? label == some label then some label else none

/-- The decoded form of a prepared label. -/
def decoded? (label : Label) : Option Label :=
  if encodedMark.isPrefixOf label then
    if label.all (·.toNat < 128) then decodeLabel? (label.drop encodedMark.length) else none
  else if label.all (·.toNat < 128) || label.length ≤ encodeLimit then some label
  else none

/-- Whether a character makes a name one that mixes directions. -/
def isRightToLeft (c : Char) : Bool :=
  [Direction.rightToLeft, .arabicLetter, .arabicNumber].contains (direction c)

/-- The directions that any label may hold. -/
def neutralDirections : List Direction :=
  [.europeanNumber, .europeanSeparator, .commonSeparator, .europeanTerminator, .otherNeutral,
    .boundaryNeutral, .nonspacingMark]

/-- The directional rule for a label of a name that mixes directions (RFC 5893): its first character
decides its direction, its last one, marks apart, is a letter or a number of that direction, and
what is between belongs to it; a right-to-left label does not mix European and Arabic numbers. -/
def isDirectional (label : Label) : Bool :=
  match label.map direction with
  | [] => true
  | first :: rest =>
    let core := (rest.reverse.dropWhile (· == .nonspacingMark)).reverse
    match core.getLast? with
    | none => [Direction.leftToRight, .rightToLeft, .arabicLetter].contains first
    | some last =>
      if first == .leftToRight then
        [Direction.leftToRight, .europeanNumber].contains last &&
          core.dropLast.all (Direction.leftToRight :: neutralDirections).contains
      else if first == .rightToLeft || first == .arabicLetter then
        [Direction.rightToLeft, .arabicLetter, .europeanNumber, .arabicNumber].contains last &&
          core.dropLast.all
            ([Direction.rightToLeft, .arabicLetter, .arabicNumber] ++ neutralDirections).contains &&
          !(core.contains .europeanNumber && core.contains .arabicNumber)
      else false

/-- The labels of a domain name as it will be looked up, ASCII labels in their prepared form. -/
def toLabels? (name : List Char) : Option (List Label) :=
  match prepare? name with
  | none => none
  | some prepared =>
    let ls := labels prepared
    match ls.mapM decoded? with
    | none => none
    | some decoded =>
      if decoded.all isValidLabel &&
          (!decoded.any (·.any isRightToLeft) || decoded.all isDirectional) then some ls
      else none

end ProxyPolicy.Net.Idna
