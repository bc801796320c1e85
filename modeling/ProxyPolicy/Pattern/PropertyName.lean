import ProxyPolicy.Text.CodeSet

/-!
# Names of character properties

The names by which a pattern can ask for a Unicode property, in the loose form in which names are
compared: lower case, without blanks, hyphens and low lines, and without a leading `is`. Long and
short names are both listed.
-/

namespace ProxyPolicy.Pattern

open ProxyPolicy.Text

/-- The properties that a character has or has not. -/
def binaryNames : List (List Char) :=
  words
    "ahex alpha alphabetic asciihexdigit bidic bidicontrol bidim bidimirrored cased caseignorable
    changeswhencasefolded changeswhencasemapped changeswhenlowercased changeswhentitlecased
    changeswhenuppercased ci cwcf cwcm cwl cwt cwu dash defaultignorablecodepoint dep deprecated
    di dia diacritic ebase ecomp emod emoji emojicomponent emojimodifier emojimodifierbase
    emojipresentation epres ext extendedpictographic extender extpict graphemebase graphemeextend
    graphemelink grbase grext grlink hex hexdigit hyphen idc idcompatmathcontinue
    idcompatmathstart idcontinue ideo ideographic ids idsb idsbinaryoperator idst idstart
    idstrinaryoperator idsu idsunaryoperator joinc joincontrol loe logicalorderexception lower
    lowercase math mcm modifiercombiningmark nchar noncharactercodepoint oalpha odi ogrext oidc
    oids olower omath otheralphabetic otherdefaultignorablecodepoint othergraphemeextend
    otheridcontinue otheridstart otherlowercase othermath otheruppercase oupper patsyn
    patternsyntax patternwhitespace patws pcm prependedconcatenationmark qmark quotationmark
    radical regionalindicator ri sd sentenceterminal softdotted space sterm term
    terminalpunctuation uideo unifiedideograph upper uppercase variationselector vs whitespace
    wspace xidc xidcontinue xids xidstart"

/-- The general categories, and the three unions of them that have a name. -/
def categoryNames : List (List Char) :=
  words
    "any ascii assigned c casedletter cc cf closepunctuation cn cntrl co combiningmark
    connectorpunctuation control currencysymbol dashpunctuation decimalnumber digit enclosingmark
    finalpunctuation format initialpunctuation l lc letter letternumber lineseparator ll lm lo
    lowercaseletter lt lu m mark mathsymbol mc me mn modifierletter modifiersymbol n nd nl no
    nonspacingmark number openpunctuation other otherletter othernumber otherpunctuation
    othersymbol p paragraphseparator pc pd pe pf pi po privateuse ps punct punctuation s sc
    separator sk sm so spaceseparator spacingmark symbol titlecaseletter unassigned
    uppercaseletter z zl zp zs"

/-- The scripts. -/
def scriptNames : List (List Char) :=
  words
    "adlam adlm aghb ahom anatolianhieroglyphs arab arabic armenian armi armn avestan avst bali
    balinese bamu bamum bass bassavah batak batk beng bengali bhaiksuki bhks bopo bopomofo brah
    brahmi brai braille bugi buginese buhd buhid cakm canadianaboriginal cans cari carian
    caucasianalbanian chakma cham cher cherokee chorasmian chrs common copt coptic cpmn cprt
    cuneiform cypriot cyprominoan cyrillic cyrl deseret deva devanagari diak divesakuru dogr dogra
    dsrt dupl duployan egyp egyptianhieroglyphs elba elbasan elym elymaic ethi ethiopic gara garay
    geor georgian glag glagolitic gong gonm goth gothic gran grantha greek grek gujarati gujr gukh
    gunjalagondi gurmukhi guru gurungkhema han hang hangul hani hanifirohingya hano hanunoo hatr
    hatran hebr hebrew hira hiragana hluw hmng hmnp hung imperialaramaic inherited
    inscriptionalpahlavi inscriptionalparthian ital java javanese kaithi kali kana kannada
    katakana kawi kayahli khar kharoshthi khitansmallscript khmer khmr khoj khojki khudawadi
    kiratrai kits knda krai kthi lana lao laoo latin latn lepc lepcha limb limbu lina linb lineara
    linearb lisu lyci lycian lydi lydian mahajani mahj maka makasar malayalam mand mandaic mani
    manichaean marc marchen masaramgondi medefaidrin medf meeteimayek mend mendekikakui merc mero
    meroiticcursive meroitichieroglyphs miao mlym modi mong mongolian mro mroo mtei mult multani
    myanmar mymr nabataean nagm nagmundari nand nandinagari narb nbat newa newtailue nko nkoo nshu
    nushu nyiakengpuachuehmong ogam ogham olchiki olck oldhungarian olditalic oldnortharabian
    oldpermic oldpersian oldsogdian oldsoutharabian oldturkic olduyghur olonal onao oriya orkh
    orya osage osge osma osmanya ougr pahawhhmong palm palmyrene pauc paucinhau perm phag phagspa
    phli phlp phnx phoenician plrd prti psalterpahlavi qaac qaai rejang rjng rohg runic runr
    samaritan samr sarb saur saurashtra sgnw sharada shavian shaw shrd sidd siddham signwriting
    sind sinh sinhala sogd sogdian sogo sora sorasompeng soyo soyombo sund sundanese sunu sunuwar
    sylo sylotinagri syrc syriac tagalog tagb tagbanwa taile taitham taiviet takr takri tale talu
    tamil taml tang tangsa tangut tavt telu telugu tfng tglg thaa thaana thai tibetan tibt
    tifinagh tirh tirhuta tnsa todhri todr toto tulutigalari tutg ugar ugaritic vai vaii vith
    vithkuqi wancho wara warangciti wcho xpeo xsux yezi yezidi yi yiii zanabazarsquare zanb zinh
    zyyy"

/-- The versions in which characters came. -/
def ageNames : List (List Char) :=
  words
    "1.1 10.0 11.0 12.0 12.1 13.0 14.0 15.0 15.1 16.0 2.0 2.1 3.0 3.1 3.2 4.0 4.1 5.0 5.1 5.2 6.0
    6.1 6.2 6.3 7.0 8.0 9.0 v100 v11 v110 v120 v121 v130 v140 v150 v151 v160 v20 v21 v30 v31 v32
    v40 v41 v50 v51 v52 v60 v61 v62 v63 v70 v80 v90"

/-- The classes of grapheme breaking. -/
def graphemeBreakNames : List (List Char) :=
  words
    "cn control cr ex extend l lf lv lvt pp prepend regionalindicator ri sm spacingmark t v zwj"

/-- The classes of word breaking. -/
def wordBreakNames : List (List Char) :=
  words
    "aletter cr doublequote dq ex extend extendnumlet fo format hebrewletter hl ka katakana le lf
    mb midletter midnum midnumlet ml mn newline nl nu numeric regionalindicator ri singlequote sq
    wsegspace zwj"

/-- The classes of sentence breaking. -/
def sentenceBreakNames : List (List Char) :=
  words
    "at aterm cl close cr ex extend fo format le lf lo lower nu numeric oletter sc scontinue se sep
    sp st sterm up upper"

/-- The loose form of a name. Characters that are not ASCII count for nothing. A name that is just
`isc` keeps its beginning, since that is the short name of another property. -/
def looseName (name : List Char) : List Char :=
  let dropped (c : Char) : Bool := c == ' ' || c == '_' || c == '-' || 127 < c.toNat
  let bare := (name.filter (!dropped ·)).map Char.toLower
  match name with
  | a :: b :: rest =>
    if a.toLower = 'i' ∧ b.toLower = 's' then
      let tail := (rest.filter (!dropped ·)).map Char.toLower
      if tail = ['c'] then ['i', 's', 'c'] else tail
    else bare
  | _ => bare

/-- Whether a name by itself names a property: a binary one, a category or a script. -/
def isPropertyName (name : List Char) : Bool :=
  let loose := looseName name
  binaryNames.contains loose || categoryNames.contains loose || scriptNames.contains loose

/-- The names of the values of a property that has several. -/
def valueNames (property : List Char) : List (List Char) :=
  match String.ofList (looseName property) with
  | "gc" | "generalcategory" => categoryNames
  | "sc" | "script" | "scx" | "scriptextensions" => scriptNames
  | "age" => ageNames
  | "gcb" | "graphemeclusterbreak" => graphemeBreakNames
  | "wb" | "wordbreak" => wordBreakNames
  | "sb" | "sentencebreak" => sentenceBreakNames
  | _ => []

/-- Whether a property has a value of a name. -/
def isPropertyValue (property value : List Char) : Bool :=
  (valueNames property).contains (looseName value)

end ProxyPolicy.Pattern
