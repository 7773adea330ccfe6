import EncodingPlan.Pattern.Segmentation
import EncodingPlan.Text.AgeTable
import EncodingPlan.Text.ScriptLoanTable

/-! Character properties by name. A name is read loosely: letter case, blanks, hyphens, low lines
and a leading `is` do not matter. -/

namespace EncodingPlan

open Text

namespace Property

/-- The loose spelling of a name. -/
def looseName (name : List Char) : String :=
  let kept (cs : List Char) : List Char :=
    (cs.filter fun c => c.toNat < 0x80 && c != ' ' && c != '_' && c != '-').map Char.toLower
  match name with
  | 'i' :: 's' :: rest | 'I' :: 's' :: rest | 'i' :: 'S' :: rest | 'I' :: 'S' :: rest =>
    -- What is left of `isc` names nothing, and `c` alone is a category.
    if kept rest = ['c'] then "isc" else String.ofList (kept rest)
  | _ => String.ofList (kept name)

def ascii : CharSet := .table [(0x0, 0x7F)]

def punctuation : CharSet :=
  .unions [.table Category.connectorPunctuation, .table Category.dashPunctuation,
    .table Category.openPunctuation, .table Category.closePunctuation,
    .table Category.initialPunctuation, .table Category.finalPunctuation,
    .table Category.otherPunctuation]

def symbol : CharSet :=
  .unions [.table Category.mathSymbol, .table Category.currencySymbol,
    .table Category.modifierSymbol, .table Category.otherSymbol]

def separator : CharSet :=
  .unions [.table Category.spaceSeparator, .table Category.lineSeparator,
    .table Category.paragraphSeparator]

/-- Control, format, private-use and unassigned characters. -/
def other : CharSet :=
  .compl (.unions [.letter, .mark, .number, punctuation, symbol, separator])

def unassigned : CharSet := .compl Segmentation.assigned

def casedLetter : CharSet :=
  .unions [.table Category.uppercaseLetter, .table Category.lowercaseLetter,
    .table Category.titlecaseLetter]

def categories : Segmentation.Classes :=
  [(["any"], .all),
   (["assigned"], Segmentation.assigned),
   (["ascii"], ascii),
   (["c", "other"], other),
   (["cc", "control", "cntrl"], .table Category.control),
   (["cf", "format"], .table Category.format),
   (["cn", "unassigned"], unassigned),
   (["co", "privateuse"], .table Category.privateUse),
   (["l", "letter"], .letter),
   (["lc", "casedletter"], casedLetter),
   (["ll", "lowercaseletter"], .table Category.lowercaseLetter),
   (["lm", "modifierletter"], .table Category.modifierLetter),
   (["lo", "otherletter"], .table Category.otherLetter),
   (["lt", "titlecaseletter"], .table Category.titlecaseLetter),
   (["lu", "uppercaseletter"], .table Category.uppercaseLetter),
   (["m", "mark", "combiningmark"], .mark),
   (["mc", "spacingmark"], .table Category.spacingMark),
   (["me", "enclosingmark"], .table Category.enclosingMark),
   (["mn", "nonspacingmark"], .table Category.nonspacingMark),
   (["n", "number"], .number),
   (["nd", "decimalnumber", "digit"], .digit),
   (["nl", "letternumber"], .table Category.letterNumber),
   (["no", "othernumber"], .table Category.otherNumber),
   (["p", "punctuation", "punct"], punctuation),
   (["pc", "connectorpunctuation"], .table Category.connectorPunctuation),
   (["pd", "dashpunctuation"], .table Category.dashPunctuation),
   (["pe", "closepunctuation"], .table Category.closePunctuation),
   (["pf", "finalpunctuation"], .table Category.finalPunctuation),
   (["pi", "initialpunctuation"], .table Category.initialPunctuation),
   (["po", "otherpunctuation"], .table Category.otherPunctuation),
   (["ps", "openpunctuation"], .table Category.openPunctuation),
   (["s", "symbol"], symbol),
   (["sc", "currencysymbol"], .table Category.currencySymbol),
   (["sk", "modifiersymbol"], .table Category.modifierSymbol),
   (["sm", "mathsymbol"], .table Category.mathSymbol),
   (["so", "othersymbol"], .table Category.otherSymbol),
   (["z", "separator"], separator),
   (["zl", "lineseparator"], .table Category.lineSeparator),
   (["zp", "paragraphseparator"], .table Category.paragraphSeparator),
   (["zs", "spaceseparator"], .table Category.spaceSeparator)]

def cased : CharSet :=
  .unions [.lowercase, .uppercase, .table Category.titlecaseLetter]

def caseIgnorable : CharSet :=
  .unions [.table Category.nonspacingMark, .table Category.enclosingMark, .table Category.format,
    .table Category.modifierLetter, .table Category.modifierSymbol,
    .table Trait.otherCaseIgnorable]

def identifierStart : CharSet :=
  .diff (.unions [.letter, .table Category.letterNumber, .table Trait.otherIdStart])
    (.union (.table Trait.patternSyntax) (.table Trait.patternWhiteSpace))

def identifierContinue : CharSet :=
  .diff (.unions [identifierStart, .table Category.nonspacingMark, .table Category.spacingMark,
      .digit, .table Category.connectorPunctuation, .table Trait.otherIdContinue])
    (.union (.table Trait.patternSyntax) (.table Trait.patternWhiteSpace))

/-- Characters whose compatibility form does not continue an identifier. -/
def unstableContinue : CharSet :=
  .table [(0x37A, 0x37A), (0x309B, 0x309C), (0xFC5E, 0xFC63), (0xFDFA, 0xFDFB), (0xFE70, 0xFE70),
    (0xFE72, 0xFE72), (0xFE74, 0xFE74), (0xFE76, 0xFE76), (0xFE78, 0xFE78), (0xFE7A, 0xFE7A),
    (0xFE7C, 0xFE7C), (0xFE7E, 0xFE7E)]

/-- Characters whose compatibility form does not start an identifier. -/
def unstableStart : CharSet :=
  .union unstableContinue (.table [(0xE33, 0xE33), (0xEB3, 0xEB3), (0xFF9E, 0xFF9F)])

def math : CharSet := .union (.table Category.mathSymbol) (.table Trait.otherMath)

/-- Characters that take up a place of their own. -/
def graphemeBase : CharSet :=
  .diff Segmentation.assigned
    (.unions [.table Category.control, .table Category.format, .table Category.privateUse,
      Segmentation.separators, Segmentation.graphemeExtend])

/-! Characters that a change of letter case changes. -/

def changesWhenLowercased : CharSet :=
  .diff
    (.unions [.table Category.uppercaseLetter, .table Category.titlecaseLetter,
      .table Trait.otherLowering])
    (.table Trait.withoutLowering)

def changesWhenUppercased : CharSet :=
  .diff
    (.unions [.table Category.lowercaseLetter, .table Category.titlecaseLetter,
      .table Trait.otherUppering])
    (.table Trait.withoutUppering)

def changesWhenTitlecased : CharSet :=
  .diff (.union changesWhenUppercased (.table Trait.otherTitling)) (.table Trait.withoutTitling)

def changesWhenCasefolded : CharSet :=
  .diff (.union changesWhenLowercased (.table Trait.otherFolding)) (.table Trait.withoutFolding)

def changesWhenCasemapped : CharSet :=
  .unions [changesWhenLowercased, changesWhenUppercased, changesWhenTitlecased]

/-- Properties that a character has or has not. -/
def traits : Segmentation.Classes :=
  [(["ahex", "asciihexdigit"], .table Trait.asciiHexDigit),
   (["alpha", "alphabetic"], .alphabetic),
   (["bidic", "bidicontrol"], .table Trait.bidiControl),
   (["bidim", "bidimirrored"], .table Trait.bidiMirrored),
   (["cased"], cased),
   (["changeswhencasefolded", "cwcf"], changesWhenCasefolded),
   (["changeswhencasemapped", "cwcm"], changesWhenCasemapped),
   (["changeswhenlowercased", "cwl"], changesWhenLowercased),
   (["changeswhentitlecased", "cwt"], changesWhenTitlecased),
   (["changeswhenuppercased", "cwu"], changesWhenUppercased),
   (["ci", "caseignorable"], caseIgnorable),
   (["dash"], .table Trait.dash),
   (["dep", "deprecated"], .table Trait.deprecated),
   (["di", "defaultignorablecodepoint"], .table Trait.defaultIgnorableCodePoint),
   (["dia", "diacritic"], .table Trait.diacritic),
   (["ebase", "emojimodifierbase"], .table Trait.emojiModifierBase),
   (["ecomp", "emojicomponent"], .table Trait.emojiComponent),
   (["emod", "emojimodifier"], .table Trait.emojiModifier),
   (["emoji"], .table Trait.emoji),
   (["epres", "emojipresentation"], .table Trait.emojiPresentation),
   (["ext", "extender"], .table Trait.extender),
   (["extpict", "extendedpictographic"], .table Trait.extendedPictographic),
   (["grbase", "graphemebase"], graphemeBase),
   (["grext", "graphemeextend"], Segmentation.graphemeExtend),
   (["grlink", "graphemelink"], .table Trait.graphemeLink),
   (["hex", "hexdigit"], .table Trait.hexDigit),
   (["hyphen"], .table Trait.hyphen),
   (["idcompatmathcontinue"], .table Trait.idCompatMathContinue),
   (["idcompatmathstart"], .table Trait.idCompatMathStart),
   (["idc", "idcontinue"], identifierContinue),
   (["ideo", "ideographic"], .table Trait.ideographic),
   (["ids", "idstart"], identifierStart),
   (["idsb", "idsbinaryoperator"], .table Trait.idsBinaryOperator),
   (["idst", "idstrinaryoperator"], .table Trait.idsTrinaryOperator),
   (["idsu", "idsunaryoperator"], .table Trait.idsUnaryOperator),
   (["joinc", "joincontrol"], .table Trait.joinControl),
   (["loe", "logicalorderexception"], .table Trait.logicalOrderException),
   (["lower", "lowercase"], .lowercase),
   (["math"], math),
   (["mcm", "modifiercombiningmark"], .table Trait.modifierCombiningMark),
   (["nchar", "noncharactercodepoint"], .table Trait.noncharacterCodePoint),
   (["oalpha", "otheralphabetic"], .table Trait.otherAlphabetic),
   (["odi", "otherdefaultignorablecodepoint"], .table Trait.otherDefaultIgnorableCodePoint),
   (["ogrext", "othergraphemeextend"], .table Trait.otherGraphemeExtend),
   (["oidc", "otheridcontinue"], .table Trait.otherIdContinue),
   (["oids", "otheridstart"], .table Trait.otherIdStart),
   (["olower", "otherlowercase"], .table Trait.otherLowercase),
   (["omath", "othermath"], .table Trait.otherMath),
   (["oupper", "otheruppercase"], .table Trait.otherUppercase),
   (["patsyn", "patternsyntax"], .table Trait.patternSyntax),
   (["patws", "patternwhitespace"], .table Trait.patternWhiteSpace),
   (["pcm", "prependedconcatenationmark"], .table Trait.prependedConcatenationMark),
   (["qmark", "quotationmark"], .table Trait.quotationMark),
   (["radical"], .table Trait.radical),
   (["ri", "regionalindicator"], .table Trait.regionalIndicator),
   (["sd", "softdotted"], .table Trait.softDotted),
   (["space", "whitespace", "wspace"], .blank),
   (["sterm", "sentenceterminal"], .table Trait.sentenceTerminal),
   (["term", "terminalpunctuation"], .table Trait.terminalPunctuation),
   (["uideo", "unifiedideograph"], .table Trait.unifiedIdeograph),
   (["upper", "uppercase"], .uppercase),
   (["vs", "variationselector"], .table Trait.variationSelector),
   (["xidc", "xidcontinue"], .diff identifierContinue unstableContinue),
   (["xids", "xidstart"], .diff identifierStart unstableStart)]

def named (classes : Segmentation.Classes) (name : String) : Option CharSet :=
  (classes.find? fun (names, _) => names.contains name).map Prod.snd

/-- The row of a script, whose first name is the one that `Script.Borrowed.table` uses. -/
def scriptRow? (name : String) : Option (List String × CodeTable) :=
  Script.table.find? fun (names, _) => names.contains name

def script? (name : String) : Option CharSet := (scriptRow? name).map fun (_, codes) => .table codes

/-- Everything that some script borrows. -/
def shared : CharSet := .unions (Script.Borrowed.table.map fun (_, codes) => .table codes)

/-- The characters of texts in a script: its own ones and what it borrows. The scripts of characters
that are common to all keep what no script borrows. -/
def scriptExtension? (name : String) : Option CharSet :=
  (scriptRow? name).map fun (names, codes) =>
    match names with
    | "zyyy" :: _ | "zinh" :: _ => .diff (.table codes) shared
    | first :: _ =>
      match Script.Borrowed.table.find? fun (borrower, _) => borrower == first with
      | some (_, loans) => .union (.table codes) (.table loans)
      | none => .table codes
    | [] => .table codes

/-- The characters that had been added by a version. -/
def age? (name : String) : Option CharSet :=
  (Age.additions.findIdx? fun (names, _) => names.contains name).map fun place =>
    .unions ((Age.additions.take (place + 1)).map fun (_, codes) => .table codes)

/-- The set a bare property name denotes: a trait, a category or a script, looked for in this
order. -/
def byName? (name : List Char) : Option CharSet :=
  let loose := looseName name
  (named traits loose).or ((named categories loose).or (script? loose))

/-- The set a property name with a value denotes. -/
def byValue? (name value : List Char) : Option CharSet :=
  let value := looseName value
  match looseName name with
  | "gc" | "generalcategory" => named categories value
  | "sc" | "script" => script? value
  | "scx" | "scriptextensions" => scriptExtension? value
  | "age" => age? value
  | "gcb" | "graphemeclusterbreak" => named Segmentation.clusterClasses value
  | "wb" | "wordbreak" => named Segmentation.wordClasses value
  | "sb" | "sentencebreak" => named Segmentation.sentenceClasses value
  | _ => none

end Property

end EncodingPlan
