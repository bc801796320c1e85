import ProxyPolicy.Text.Hex
import ProxyPolicy.Text.Utf8

/-!
# Percent encoding

`%` and two hexadecimal digits stand for one octet. Anything else, a malformed escape included,
stands for itself.
-/

namespace ProxyPolicy.Text.Percent

/-- The octet that two hexadecimal digits write. -/
def octet? (high low : Char) : Option UInt8 :=
  match hexValue? high, hexValue? low with
  | some h, some l => some (UInt8.ofNat (16 * h + l))
  | _, _ => none

/-- The octets that a percent-encoded text stands for. -/
def octets : List Char → List UInt8
  | '%' :: high :: low :: rest =>
    match octet? high low with
    | some b => b :: octets rest
    | none => String.utf8EncodeChar '%' ++ octets (high :: low :: rest)
  | c :: rest => String.utf8EncodeChar c ++ octets rest
  | [] => []

/-- The text that a percent-encoded text stands for, or the text itself when the octets are not
UTF-8. -/
def decode (cs : List Char) : List Char := (Utf8.decode? (octets cs)).getD cs

end ProxyPolicy.Text.Percent
