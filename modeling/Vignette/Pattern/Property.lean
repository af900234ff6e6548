import Vignette.Pattern.Fault
import Vignette.Text.Break.Sentence

/-!
# `Vignette.Pattern.Property`: sets of characters by Unicode property

A name alone may be that of a property that characters have or lack, of a
general category or of a script. Some properties have values, which are asked for
by a name and a value. Case, blanks, hyphens, underscores and a leading `is` do
not count in names.
-/

set_option autoImplicit false

namespace Vignette.Pattern

open Text (Category CharSet)

/-- A name without what does not count. -/
def plainName (t : Text) : Text :=
  let word := t.map Char.toLower
  let isLong := ['i', 's'].isPrefixOf word
  let rest := (if isLong then word.drop 2 else word).filter fun c =>
    c.toNat < 0x80 && c != ' ' && c != '_' && c != '-'
  -- A lone `c` behind `is` is the short name of a property of its own.
  if isLong && rest == ['c'] then ['i', 's', 'c'] else rest

/-! ### General categories -/

/-- The names of general categories and of groups of them. -/
def categoryNames : List (List String × List Category) :=
  [(["lu", "uppercaseletter"], [.uppercaseLetter]),
    (["ll", "lowercaseletter"], [.lowercaseLetter]),
    (["lt", "titlecaseletter"], [.titlecaseLetter]),
    (["lc", "casedletter"], [.uppercaseLetter, .lowercaseLetter, .titlecaseLetter]),
    (["lm", "modifierletter"], [.modifierLetter]),
    (["lo", "otherletter"], [.otherLetter]),
    (["l", "letter"], Category.letters),
    (["mn", "nonspacingmark"], [.nonspacingMark]),
    (["mc", "spacingmark"], [.spacingMark]),
    (["me", "enclosingmark"], [.enclosingMark]),
    (["m", "mark", "combiningmark"], Category.marks),
    (["nd", "decimalnumber", "digit"], [.decimalNumber]),
    (["nl", "letternumber"], [.letterNumber]),
    (["no", "othernumber"], [.otherNumber]),
    (["n", "number"], Category.numbers),
    (["pc", "connectorpunctuation"], [.connectorPunctuation]),
    (["pd", "dashpunctuation"], [.dashPunctuation]),
    (["ps", "openpunctuation"], [.openPunctuation]),
    (["pe", "closepunctuation"], [.closePunctuation]),
    (["pi", "initialpunctuation"], [.initialPunctuation]),
    (["pf", "finalpunctuation"], [.finalPunctuation]),
    (["po", "otherpunctuation"], [.otherPunctuation]),
    (["p", "punct", "punctuation"], Category.punctuation),
    (["sm", "mathsymbol"], [.mathSymbol]),
    (["sc", "currencysymbol"], [.currencySymbol]),
    (["sk", "modifiersymbol"], [.modifierSymbol]),
    (["so", "othersymbol"], [.otherSymbol]),
    (["s", "symbol"], Category.symbols),
    (["zs", "spaceseparator"], [.spaceSeparator]),
    (["zl", "lineseparator"], [.lineSeparator]),
    (["zp", "paragraphseparator"], [.paragraphSeparator]),
    (["z", "separator"], Category.separators),
    (["cc", "cntrl", "control"], [.control]),
    (["cf", "format"], [.format]),
    (["co", "privateuse"], [.privateUse]),
    (["assigned"], Category.all)]

/-- The names of groups of categories by what is not in them. -/
def otherCategoryNames : List (List String × List Category) :=
  [(["c", "other"], Category.visible ++ Category.separators),
    (["cn", "unassigned"], Category.all)]

/-- The names of what has a name and no characters. -/
def emptyNames : List String :=
  ["cs", "surrogate", "zzzz", "unknown", "hrkt", "katakanaorhiragana"]

/-- The set of a general category by its plain name. -/
def categorySet? (name : String) : Option CharSet :=
  if name = "any" then some .all
  else if name = "ascii" then some (.range '\x00' '\x7F')
  else
    match categoryNames.find? (·.1.contains name) with
    | some (_, ks) => some (Category.setOf ks)
    | none =>
      (otherCategoryNames.find? (·.1.contains name)).map fun (_, ks) => (Category.setOf ks).compl

/-! ### Properties -/

open Text.Property in
/-- The sets of properties that characters have or lack. -/
def propertySets : List (List String × CharSet) :=
  [(["ahex", "asciihexdigit"], asciiHexDigit),
    (["alpha", "alphabetic"], alphabetic),
    (["bidic", "bidicontrol"], bidiControl),
    (["bidim", "bidimirrored"], bidiMirrored),
    (["cased"], cased),
    (["ci", "caseignorable"], caseIgnorable),
    (["cwcf", "changeswhencasefolded"], changesWhenFolded),
    (["cwcm", "changeswhencasemapped"], changesWhenCaseMapped),
    (["cwl", "changeswhenlowercased"], changesWhenLowercased),
    (["cwt", "changeswhentitlecased"], changesWhenTitlecased),
    (["cwu", "changeswhenuppercased"], changesWhenUppercased),
    (["dash"], dash),
    (["dep", "deprecated"], deprecated),
    (["di", "defaultignorablecodepoint"], defaultIgnorable),
    (["dia", "diacritic"], diacritic),
    (["ebase", "emojimodifierbase"], emojiModifierBase),
    (["ecomp", "emojicomponent"], emojiComponent),
    (["emod", "emojimodifier"], emojiModifier),
    (["emoji"], emoji),
    (["epres", "emojipresentation"], emojiPresentation),
    (["ext", "extender"], extender),
    (["extpict", "extendedpictographic"], extendedPictographic),
    (["grbase", "graphemebase"], graphemeBase),
    (["grext", "graphemeextend"], graphemeExtend),
    (["grlink", "graphemelink"], graphemeLink),
    (["hex", "hexdigit"], hexDigit),
    (["hyphen"], hyphen),
    (["idc", "idcontinue"], idContinue),
    (["idcompatmathcontinue"], mathContinue),
    (["idcompatmathstart"], mathStart),
    (["ideo", "ideographic"], ideographic),
    (["ids", "idstart"], idStart),
    (["idsb", "idsbinaryoperator"], binaryOperator),
    (["idst", "idstrinaryoperator"], trinaryOperator),
    (["idsu", "idsunaryoperator"], unaryOperator),
    (["joinc", "joincontrol"], joinControl),
    (["loe", "logicalorderexception"], logicalOrderException),
    (["lower", "lowercase"], lowercase),
    (["math"], math),
    (["mcm", "modifiercombiningmark"], modifierCombiningMark),
    (["nchar", "noncharactercodepoint"], noncharacter),
    (["oalpha", "otheralphabetic"], otherAlphabetic),
    (["odi", "otherdefaultignorablecodepoint"], otherDefaultIgnorable),
    (["ogrext", "othergraphemeextend"], otherGraphemeExtend),
    (["oidc", "otheridcontinue"], otherIdContinue),
    (["oids", "otheridstart"], otherIdStart),
    (["olower", "otherlowercase"], otherLowercase),
    (["omath", "othermath"], otherMath),
    (["oupper", "otheruppercase"], otherUppercase),
    (["patsyn", "patternsyntax"], patternSyntax),
    (["patws", "patternwhitespace"], patternWhiteSpace),
    (["pcm", "prependedconcatenationmark"], prependedMark),
    (["qmark", "quotationmark"], quotationMark),
    (["radical"], radical),
    (["ri", "regionalindicator"], regionalIndicator),
    (["sd", "softdotted"], softDotted),
    (["space", "wspace", "whitespace"], whiteSpace),
    (["sterm", "sentenceterminal"], sentenceTerminal),
    (["term", "terminalpunctuation"], terminalPunctuation),
    (["uideo", "unifiedideograph"], unifiedIdeograph),
    (["upper", "uppercase"], uppercase),
    (["vs", "variationselector"], variationSelector),
    (["xidc", "xidcontinue"], normalIdContinue),
    (["xids", "xidstart"], normalIdStart)]

/-- The names of further properties of Unicode, of which no set is known. -/
def otherPropertyNames : List String :=
  ["bc", "bidiclass", "bidimirroringglyph", "bidipairedbracket", "bidipairedbrackettype", "blk",
    "block", "bmg", "bpb", "bpt", "canonicalcombiningclass", "casefolding", "ccc", "ce", "cf",
    "changeswhennfkccasefolded", "cjkaccountingnumeric", "cjkcompatibilityvariant", "cjkiicore",
    "cjkirggsource", "cjkirghsource", "cjkirgjsource", "cjkirgkpsource", "cjkirgksource",
    "cjkirgmsource", "cjkirgssource", "cjkirgtsource", "cjkirguksource", "cjkirgusource",
    "cjkirgvsource", "cjkothernumeric", "cjkprimarynumeric", "cjkrsunicode", "compex",
    "compositionexclusion", "cwkcf", "decompositionmapping", "decompositiontype", "dm", "dt", "ea",
    "eastasianwidth", "equideo", "equivalentunifiedideograph", "expandsonnfc", "expandsonnfd",
    "expandsonnfkc", "expandsonnfkd", "fcnfkc", "fcnfkcclosure", "fullcompositionexclusion",
    "hangulsyllabletype", "hst", "incb", "indicconjunctbreak", "indicpositionalcategory",
    "indicsyllabiccategory", "inpc", "insc", "isc", "ocomment", "jamoshortname", "jg",
    "joininggroup", "joiningtype", "jsn", "jt", "kaccountingnumeric", "kcompatibilityvariant",
    "kehcat", "kehdesc", "kehhg", "kehifao", "kehjsesh", "kehnomirror", "kehnorotate", "kiicore",
    "kirggsource", "kirghsource", "kirgjsource", "kirgkpsource", "kirgksource", "kirgmsource",
    "kirgssource", "kirgtsource", "kirguksource", "kirgusource", "kirgvsource", "kothernumeric",
    "kprimarynumeric", "krsunicode", "lb", "lc", "linebreak", "lowercasemapping", "na", "na1",
    "name", "namealias", "nfcqc", "nfcquickcheck", "nfdqc", "nfdquickcheck", "nfkccasefold",
    "nfkccf", "nfkcqc", "nfkcquickcheck", "nfkcscf", "nfkcsimplecasefold", "nfkdqc",
    "nfkdquickcheck", "nt", "numerictype", "numericvalue", "nv", "scf", "sfc", "simplecasefolding",
    "simplelowercasemapping", "simpletitlecasemapping", "simpleuppercasemapping", "slc", "stc",
    "suc", "tc", "titlecasemapping", "uc", "unicode1name", "unicoderadicalstroke",
    "uppercasemapping", "urs", "verticalorientation", "vo", "xonfc", "xonfd", "xonfkc", "xonfkd"]

/-- The set of a property by its plain name. -/
def propertySet? (name : String) : Option CharSet :=
  (propertySets.find? (·.1.contains name)).map (·.2)

/-! ### Properties with values -/

/-- The characters that are assigned up to the version of a name. -/
def ageSet? (value : String) : Option CharSet :=
  if Text.ages.any (·.names.contains value) then
    let later := Text.ages.dropWhile fun age => !age.names.contains value
    let earlier := Text.ages.take (Text.ages.length - later.length + 1)
    some (.ofRanges (earlier.flatMap (·.ranges)))
  else none

/-- The characters of a class by its plain name. -/
def classSet? (classes : List Text.BreakClass) (value : String) : Option CharSet :=
  (classes.find? (·.names.contains value)).map (·.set)

/-- The set of a script by its plain name. -/
def scriptSet? (name : String) : Option CharSet :=
  (Text.scriptNamed? name).map Text.Script.own

/-- The properties with values, and the set of each value. -/
def valueSets : List (List String × (String → Option CharSet)) :=
  [(["age"], ageSet?),
    (["gc", "generalcategory"], categorySet?),
    (["gcb", "graphemeclusterbreak"], classSet? Text.Break.Grapheme.classes),
    (["sb", "sentencebreak"], classSet? Text.Break.Sentence.classes),
    (["sc", "script"], scriptSet?),
    (["scx", "scriptextensions"], fun name => (Text.scriptNamed? name).map Text.Script.used),
    (["wb", "wordbreak"], classSet? Text.Break.Word.classes)]

/-! ### Questions -/

/-- Whether a plain name is that of a property. -/
def isProperty (name : String) : Bool :=
  (propertySet? name).isSome || otherPropertyNames.contains name ||
    valueSets.any (·.1.contains name)

/-- Whether the name of a property is understood as that of a general category
where it stands alone. -/
def isCategoryFirst (name : String) : Bool :=
  ["cf", "sc", "lc"].contains name

/-- The set that a name alone asks for. -/
def namedSet (t : Text) : Except Reason CharSet :=
  let name := (plainName t).string
  if isProperty name && !isCategoryFirst name then
    match propertySet? name with
    | some set => .ok set
    | none => .error .unknownProperty
  else
    match (categorySet? name).or (scriptSet? name) with
    | some set => .ok set
    | none =>
      .error (if emptyNames.contains name then .unknownPropertyValue else .unknownProperty)

/-- The set that a name and a value ask for. -/
def valueSet (property value : Text) : Except Reason CharSet :=
  let name := (plainName property).string
  match valueSets.find? (·.1.contains name) with
  | some (_, set?) =>
    match set? (plainName value).string with
    | some set => .ok set
    | none => .error .unknownPropertyValue
  | none => .error (if isProperty name then .unknownPropertyValue else .unknownProperty)

end Vignette.Pattern
