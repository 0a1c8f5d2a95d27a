import SchemaShell.Unicode.Property.Emoji
import SchemaShell.Unicode.Property.Grapheme
import SchemaShell.Unicode.Property.Identifier
import SchemaShell.Unicode.Property.Letter
import SchemaShell.Unicode.Property.Sign

/-!
# Names of properties

The properties by name, and the names of properties that are more than a yes or no.
-/

namespace SchemaShell.Unicode.Property

def all : List NamedRanges :=
  [⟨["alpha", "alphabetic"], alphabetic⟩,
    ⟨["ahex", "asciihexdigit"], asciiHexDigit⟩,
    ⟨["bidic", "bidicontrol"], bidiControl⟩,
    ⟨["bidim", "bidimirrored"], bidiMirrored⟩,
    ⟨["caseignorable", "ci"], caseIgnorable⟩,
    ⟨["cased"], cased⟩,
    ⟨["changeswhencasefolded", "cwcf"], changesWhenCasefolded⟩,
    ⟨["changeswhencasemapped", "cwcm"], changesWhenCasemapped⟩,
    ⟨["changeswhenlowercased", "cwl"], changesWhenLowercased⟩,
    ⟨["changeswhentitlecased", "cwt"], changesWhenTitlecased⟩,
    ⟨["changeswhenuppercased", "cwu"], changesWhenUppercased⟩,
    ⟨["dash"], dash⟩,
    ⟨["defaultignorablecodepoint", "di"], defaultIgnorableCodePoint⟩,
    ⟨["dep", "deprecated"], deprecated⟩,
    ⟨["dia", "diacritic"], diacritic⟩,
    ⟨["emoji"], emoji⟩,
    ⟨["ecomp", "emojicomponent"], emojiComponent⟩,
    ⟨["emod", "emojimodifier"], emojiModifier⟩,
    ⟨["ebase", "emojimodifierbase"], emojiModifierBase⟩,
    ⟨["emojipresentation", "epres"], emojiPresentation⟩,
    ⟨["extendedpictographic", "extpict"], extendedPictographic⟩,
    ⟨["ext", "extender"], extender⟩,
    ⟨["graphemebase", "grbase"], graphemeBase⟩,
    ⟨["graphemeextend", "grext"], graphemeExtend⟩,
    ⟨["graphemelink", "grlink"], graphemeLink⟩,
    ⟨["hex", "hexdigit"], hexDigit⟩,
    ⟨["hyphen"], hyphen⟩,
    ⟨["idcompatmathcontinue"], idCompatMathContinue⟩,
    ⟨["idcompatmathstart"], idCompatMathStart⟩,
    ⟨["idc", "idcontinue"], idContinue⟩,
    ⟨["ids", "idstart"], idStart⟩,
    ⟨["ideo", "ideographic"], ideographic⟩,
    ⟨["idsb", "idsbinaryoperator"], idsBinaryOperator⟩,
    ⟨["idst", "idstrinaryoperator"], idsTrinaryOperator⟩,
    ⟨["idsu", "idsunaryoperator"], idsUnaryOperator⟩,
    ⟨["joinc", "joincontrol"], joinControl⟩,
    ⟨["loe", "logicalorderexception"], logicalOrderException⟩,
    ⟨["lower", "lowercase"], lowercase⟩,
    ⟨["math"], math⟩,
    ⟨["mcm", "modifiercombiningmark"], modifierCombiningMark⟩,
    ⟨["nchar", "noncharactercodepoint"], noncharacterCodePoint⟩,
    ⟨["oalpha", "otheralphabetic"], otherAlphabetic⟩,
    ⟨["odi", "otherdefaultignorablecodepoint"], otherDefaultIgnorableCodePoint⟩,
    ⟨["ogrext", "othergraphemeextend"], otherGraphemeExtend⟩,
    ⟨["oidc", "otheridcontinue"], otherIdContinue⟩,
    ⟨["oids", "otheridstart"], otherIdStart⟩,
    ⟨["olower", "otherlowercase"], otherLowercase⟩,
    ⟨["omath", "othermath"], otherMath⟩,
    ⟨["otheruppercase", "oupper"], otherUppercase⟩,
    ⟨["patsyn", "patternsyntax"], patternSyntax⟩,
    ⟨["patternwhitespace", "patws"], patternWhiteSpace⟩,
    ⟨["pcm", "prependedconcatenationmark"], prependedConcatenationMark⟩,
    ⟨["qmark", "quotationmark"], quotationMark⟩,
    ⟨["radical"], radical⟩,
    ⟨["regionalindicator", "ri"], regionalIndicator⟩,
    ⟨["sentenceterminal", "sterm"], sentenceTerminal⟩,
    ⟨["sd", "softdotted"], softDotted⟩,
    ⟨["term", "terminalpunctuation"], terminalPunctuation⟩,
    ⟨["uideo", "unifiedideograph"], unifiedIdeograph⟩,
    ⟨["upper", "uppercase"], uppercase⟩,
    ⟨["variationselector", "vs"], variationSelector⟩,
    ⟨["space", "whitespace", "wspace"], whiteSpace⟩,
    ⟨["xidc", "xidcontinue"], xidContinue⟩,
    ⟨["xids", "xidstart"], xidStart⟩]

/-- Properties that have more than two values, and properties that have no table here. -/
def otherNames : List String :=
  ["age", "bc", "bidiclass", "bidimirroringglyph", "bidipairedbracket", "bidipairedbrackettype",
    "blk", "block", "bmg", "bpb", "bpt", "canonicalcombiningclass", "casefolding", "ccc", "ce",
    "cf", "changeswhennfkccasefolded", "cjkaccountingnumeric", "cjkcompatibilityvariant",
    "cjkiicore", "cjkirggsource", "cjkirghsource", "cjkirgjsource", "cjkirgkpsource",
    "cjkirgksource", "cjkirgmsource", "cjkirgssource", "cjkirgtsource", "cjkirguksource",
    "cjkirgusource", "cjkirgvsource", "cjkothernumeric", "cjkprimarynumeric", "cjkrsunicode",
    "compex", "compositionexclusion", "cwkcf", "decompositionmapping", "decompositiontype", "dm",
    "dt", "ea", "eastasianwidth", "equideo", "equivalentunifiedideograph", "expandsonnfc",
    "expandsonnfd", "expandsonnfkc", "expandsonnfkd", "fcnfkc", "fcnfkcclosure",
    "fullcompositionexclusion", "gc", "gcb", "generalcategory", "graphemeclusterbreak",
    "hangulsyllabletype", "hst", "incb", "indicconjunctbreak", "indicpositionalcategory",
    "indicsyllabiccategory", "inpc", "insc", "isc", "jamoshortname", "jg", "joininggroup",
    "joiningtype", "jsn", "jt", "kaccountingnumeric", "kcompatibilityvariant", "kehcat",
    "kehdesc", "kehhg", "kehifao", "kehjsesh", "kehnomirror", "kehnorotate", "kiicore",
    "kirggsource", "kirghsource", "kirgjsource", "kirgkpsource", "kirgksource", "kirgmsource",
    "kirgssource", "kirgtsource", "kirguksource", "kirgusource", "kirgvsource", "kothernumeric",
    "kprimarynumeric", "krsunicode", "lb", "lc", "linebreak", "lowercasemapping", "na", "na1",
    "name", "namealias", "nfcqc", "nfcquickcheck", "nfdqc", "nfdquickcheck", "nfkccasefold",
    "nfkccf", "nfkcqc", "nfkcquickcheck", "nfkcscf", "nfkcsimplecasefold", "nfkdqc",
    "nfkdquickcheck", "nt", "numerictype", "numericvalue", "nv", "ocomment", "sb", "sc", "scf",
    "script", "scriptextensions", "scx", "sentencebreak", "sfc", "simplecasefolding",
    "simplelowercasemapping", "simpletitlecasemapping", "simpleuppercasemapping", "slc", "stc",
    "suc", "tc", "titlecasemapping", "uc", "unicode1name", "unicoderadicalstroke",
    "uppercasemapping", "urs", "verticalorientation", "vo", "wb", "wordbreak", "xonfc", "xonfd",
    "xonfkc", "xonfkd"]

def find? (name : String) : Option Ranges :=
  NamedRanges.find? all name

/-- Whether a name is that of any property. -/
def isName (name : String) : Bool :=
  (find? name).isSome || otherNames.contains name

end SchemaShell.Unicode.Property
