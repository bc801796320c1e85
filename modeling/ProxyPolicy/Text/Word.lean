import ProxyPolicy.Text.Letter

/-!
# Word characters

The characters that a word is made of: letters, marks, decimal digits, connector punctuation and
the two joiners (`Alphabetic`, `M`, `Nd`, `Pc` and `Join_Control` of the Unicode Character
Database).
-/

namespace ProxyPolicy.Text

/-- The word characters outside ASCII that are neither letters nor digits: marks, connector
punctuation and the joiners. -/
def wordMarkSet : CodeSet := CodeSet.ofText
  "300-344 346-362 483-489 591-5af 658 6df-6e0 6ea-6ec 740-74a 7eb-7f3 7fd 818-819 82d 859-85b
   898-89f 8ca-8d3 8e0-8e1 8ea-8ef 93c 94d 951-954 9bc 9cd 9fe a3c a4d abc acd afd-aff b3c b4d
   b55 bcd c3c c4d cbc ccd d3b-d3c d4d dca e47-e4c e4e eba ec8-ecc ece f18-f19 f35 f37 f39
   f3e-f3f f84 f86-f87 fc6 1037 1039-103a 135d-135f 1714-1715 1734 17b4-17b5 17c9-17d3 17dd
   180b-180d 180f 1939-193b 1a60 1a75-1a7c 1a7f 1ab0-1abe 1ac1-1acb 1acf-1add 1ae0-1aeb 1b34
   1b44 1b6b-1b73 1baa-1bab 1be6 1bf2-1bf3 1c37 1cd0-1cd2 1cd4-1ce8 1ced 1cf4 1cf7-1cf9
   1dc0-1dd2 1df5-1dff 200c-200d 203f-2040 2054 20d0-20f0 2cef-2cf1 2d7f 302a-302f 3099-309a
   a66f-a672 a67c-a67d a6f0-a6f1 a806 a82c a8c4 a8e0-a8f1 a92b-a92d a953 a9b3 a9c0 aabf aac1
   aaf6 abec-abed fe00-fe0f fe20-fe2f fe33-fe34 fe4d-fe4f ff3f 101fd 102e0 10a38-10a3a 10a3f
   10ae5-10ae6 10d6a-10d6d 10efd-10eff 10f46-10f50 10f82-10f85 11046 11070 1107f 110b9-110ba
   11133-11134 11173 111c0 111c9-111cc 11235-11236 112e9-112ea 1133b-1133c 1134d 11366-1136c
   11370-11374 113ce-113d0 113d2 113e1-113e2 11442 11446 1145e 114c2-114c3 115bf-115c0 1163f
   116b6-116b7 1172b 11839-1183a 1193d-1193e 11943 119e0 11a33-11a34 11a47 11a98-11a99 11c3f
   11d42 11d44-11d45 11d97 11f41-11f42 11f5a 13440 13447-13455 1612f 16af0-16af4 16b30-16b36
   16fe4 1bc9d 1cf00-1cf2d 1cf30-1cf46 1d165-1d169 1d16d-1d172 1d17b-1d182 1d185-1d18b
   1d1aa-1d1ad 1d242-1d244 1da00-1da36 1da3b-1da6c 1da75 1da84 1da9b-1da9f 1daa1-1daaf
   1e130-1e136 1e2ae 1e2ec-1e2ef 1e4ec-1e4ef 1e5ee-1e5ef 1e8d0-1e8d6 1e944-1e946 1e948-1e94a
   e0100-e01ef"

/-- Whether a character may stand in a word. -/
def isWord (c : Char) : Bool :=
  if c.toNat < 128 then c.isAlphanum || c == '_'
  else alphabeticSet.contains c || isDecimalDigit c || wordMarkSet.contains c

end ProxyPolicy.Text
