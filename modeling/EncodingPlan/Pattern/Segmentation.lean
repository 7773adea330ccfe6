import EncodingPlan.Pattern.CharSet
import EncodingPlan.Text.ScriptTable
import EncodingPlan.Text.SegmentTable

/-! The classes by which texts fall into clusters, words and sentences, each with its names in the
loose spelling of `Property.looseName`. No character is in two classes of one kind. -/

namespace EncodingPlan

open Text

namespace Segmentation

/-- Sets of characters by their names. -/
abbrev Classes := List (List String × CharSet)

def assigned : CharSet :=
  .unions [.letter, .mark, .number, .table Category.connectorPunctuation,
    .table Category.dashPunctuation, .table Category.openPunctuation,
    .table Category.closePunctuation, .table Category.initialPunctuation,
    .table Category.finalPunctuation, .table Category.otherPunctuation,
    .table Category.mathSymbol, .table Category.currencySymbol, .table Category.modifierSymbol,
    .table Category.otherSymbol, .table Category.spaceSeparator, .table Category.lineSeparator,
    .table Category.paragraphSeparator, .table Category.control, .table Category.format,
    .table Category.privateUse]

def carriageReturn : CharSet := .single '\r'

def lineFeed : CharSet := .single '\n'

def zeroWidthNonJoiner : CharSet := .single '\u200C'

def zeroWidthJoiner : CharSet := .single '\u200D'

/-- The separators of lines and of paragraphs. -/
def separators : CharSet :=
  .union (.table Category.lineSeparator) (.table Category.paragraphSeparator)

def concatenationMark : CharSet := .table Trait.prependedConcatenationMark

/-- The Syriac abbreviation mark, a concatenation mark that is no sign of numbers. -/
def abbreviationMark : CharSet := .single '\u070F'

def regionalIndicator : CharSet := .table Trait.regionalIndicator

def graphemeExtend : CharSet :=
  .unions [.table Category.nonspacingMark, .table Category.enclosingMark,
    .table Trait.otherGraphemeExtend]

/-! ## Clusters -/

def clusterExtend : CharSet := .union graphemeExtend (.table Trait.emojiModifier)

/-- Separators, controls and formats, and what is ignored though unassigned, as far as they have no
other part in clusters. -/
def clusterControl : CharSet :=
  .diff
    (.unions [separators, .table Category.control, .table Category.format,
      .diff (.table Trait.defaultIgnorableCodePoint) assigned])
    (.unions [carriageReturn, lineFeed, zeroWidthNonJoiner, zeroWidthJoiner, concatenationMark,
      clusterExtend])

def clusterSpacing : CharSet :=
  .diff (.union (.table Category.spacingMark) (.table Segment.otherSpacing))
    (.union (.table Segment.withoutSpacing) clusterExtend)

/-- Syllables of a consonant and a vowel: every twenty-eighth one. -/
def openSyllables : CodeTable :=
  (List.range 399).map fun n => (0xAC00 + 28 * n, 0xAC00 + 28 * n)

/-- Syllables that end with a consonant: those between the others. -/
def closedSyllables : CodeTable :=
  (List.range 399).map fun n => (0xAC01 + 28 * n, 0xAC1B + 28 * n)

def clusterClasses : Classes :=
  [(["cn", "control"], clusterControl),
   (["cr"], carriageReturn),
   (["ex", "extend"], clusterExtend),
   (["l"], .table Segment.leadingConsonant),
   (["lf"], lineFeed),
   (["lv"], .table openSyllables),
   (["lvt"], .table closedSyllables),
   (["pp", "prepend"], .union (.table Segment.prepended) concatenationMark),
   (["ri", "regionalindicator"], regionalIndicator),
   (["sm", "spacingmark"], clusterSpacing),
   (["t"], .table Segment.trailingConsonant),
   (["v"], .table Segment.vowel),
   (["zwj"], zeroWidthJoiner)]

/-! ## Words -/

def wordExtend : CharSet :=
  .unions [graphemeExtend, .table Category.spacingMark, .table Trait.emojiModifier]

def wordFormat : CharSet :=
  .diff (.table Category.format)
    (.unions [.single '\u200B', zeroWidthNonJoiner, zeroWidthJoiner, concatenationMark, wordExtend])

def katakana : CharSet := .union (.table Script.katakana) (.table Segment.otherKatakana)

def hebrewLetter : CharSet := .inter (.table Script.hebrew) (.table Category.otherLetter)

/-- Digits, the decimal sign of Arabic and the signs that numbers of that script stand under. -/
def wordNumeric : CharSet :=
  .unions [.digit, .single '\u066B', .diff concatenationMark abbreviationMark]

def wordLetter : CharSet :=
  .diff (.unions [.alphabetic, .table Segment.otherWordLetter, abbreviationMark])
    (.unions [.table Trait.ideographic, katakana, .table Segment.dictionaryLetter,
      .table Script.hiragana, wordExtend, hebrewLetter, wordNumeric])

/-- Blanks at which lines may be broken. -/
def wordSpace : CharSet :=
  .diff (.table Category.spaceSeparator)
    (.unions [.single '\u00A0', .single '\u2007', .single '\u202F'])

def wordClasses : Classes :=
  [(["cr"], carriageReturn),
   (["dq", "doublequote"], .single '"'),
   (["ex", "extendnumlet"], .union (.table Category.connectorPunctuation) (.single '\u202F')),
   (["extend"], wordExtend),
   (["fo", "format"], wordFormat),
   (["hl", "hebrewletter"], hebrewLetter),
   (["ka", "katakana"], katakana),
   (["le", "aletter"], wordLetter),
   (["lf"], lineFeed),
   (["mb", "midnumlet"], .table Segment.middleOfBoth),
   (["ml", "midletter"], .table Segment.middleOfLetters),
   (["mn", "midnum"], .table Segment.middleOfNumbers),
   (["nl", "newline"], .unions [.range '\x0B' '\x0C', .single '\x85', separators]),
   (["nu", "numeric"], wordNumeric),
   (["ri", "regionalindicator"], regionalIndicator),
   (["sq", "singlequote"], .single '\''),
   (["wsegspace"], wordSpace),
   (["zwj"], zeroWidthJoiner)]

/-! ## Sentences -/

def sentenceSeparator : CharSet := .union (.single '\x85') separators

def sentenceExtend : CharSet :=
  .unions [graphemeExtend, .table Category.spacingMark, zeroWidthJoiner]

/-- Signs that numbers stand under are no formats of sentences. -/
def sentenceFormat : CharSet :=
  .diff (.table Category.format)
    (.unions [zeroWidthNonJoiner, sentenceExtend, .diff concatenationMark abbreviationMark])

def sentenceLower : CharSet :=
  .diff .lowercase (.union graphemeExtend (.table Segment.georgianLower))

def sentenceUpper : CharSet :=
  .diff (.union .uppercase (.table Category.titlecaseLetter)) (.table Segment.georgianUpper)

/-- The Hebrew mark of abbreviations, which is a letter of sentences. -/
def geresh : CharSet := .single '\u05F3'

def sentenceNumeric : CharSet := .union wordNumeric (.single '\u066C')

def sentenceLetter : CharSet :=
  .diff (.union .alphabetic geresh)
    (.unions [sentenceLower, sentenceUpper, sentenceExtend, sentenceNumeric])

def fullStop : CharSet := .table Segment.ambiguousTerminator

def sentenceTerminator : CharSet := .diff (.table Trait.sentenceTerminal) fullStop

def sentenceClose : CharSet :=
  .diff
    (.unions [.table Category.openPunctuation, .table Category.closePunctuation,
      .table Category.initialPunctuation, .table Category.finalPunctuation,
      .table Segment.ambiguousQuotation])
    (.unions [geresh, fullStop, sentenceTerminator])

def sentenceClasses : Classes :=
  [(["at", "aterm"], fullStop),
   (["cl", "close"], sentenceClose),
   (["cr"], carriageReturn),
   (["ex", "extend"], sentenceExtend),
   (["fo", "format"], sentenceFormat),
   (["le", "oletter"], sentenceLetter),
   (["lf"], lineFeed),
   (["lo", "lower"], sentenceLower),
   (["nu", "numeric"], sentenceNumeric),
   (["sc", "scontinue"], .table Segment.sentenceContinuation),
   (["se", "sep"], sentenceSeparator),
   (["sp"], .diff .blank (.unions [sentenceSeparator, carriageReturn, lineFeed])),
   (["st", "sterm"], sentenceTerminator),
   (["up", "upper"], sentenceUpper)]

end Segmentation

end EncodingPlan
