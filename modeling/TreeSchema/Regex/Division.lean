/-
The parts that characters play when text is divided.

Text can be divided into clusters that a reader takes for one character, into words and into
sentences.  For each of the three a character has one part to play, and a regular
expression can ask for the characters that play it.

The sets are written the way they are defined: as unions and differences of general
categories, properties and scripts, with the characters that are named one by one in
between.  What plays no part of its own has no name.
-/
import TreeSchema.Regex.CharSet
import TreeSchema.Unicode.Property
import TreeSchema.Unicode.Script

namespace TreeSchema

namespace Regex

/-! ### Sets to build from -/

/-- The characters of a table. -/
def listed (table : String) : CharSet := .table (.ofText table)

/-- The characters of a script under its loose name. -/
def ofScript (name : String) : CharSet :=
  match Unicode.script? name with
  | some script => listed script.own
  | none => .empty

def lineFeed : CharSet := .single '\n'

def carriageReturn : CharSet := .single '\r'

/-- The joiner that keeps a cluster together. -/
def joiner : CharSet := listed "200D"

def regionalIndicators : CharSet := listed Unicode.regionalIndicatorText

/-- Signs that are written in front of the digits they hold. -/
def numberSigns : CharSet := .diff (listed Unicode.prependedConcatenationMarkText) (listed "70F")

/-- Characters of formatting, without the joiners and the signs in front of digits. -/
def formatting : CharSet :=
  .diff (.category ["Cf"]) (.unions [listed Unicode.joinControlText,
    listed Unicode.prependedConcatenationMarkText, listed Unicode.graphemeExtendText])

/-- Marks that belong to the character before them, whether they take space or not. -/
def attached : CharSet :=
  .diff (.union (listed Unicode.graphemeExtendText) (.category ["Mc"])) joiner

/-! ### Clusters -/

/-- Marks that never begin a cluster. -/
def clusterMarks : CharSet :=
  .diff (.union (listed Unicode.graphemeExtendText) (listed Unicode.emojiModifierText)) joiner

/-- Marks that take space and are not divided from what is before them. -/
def spacingMarks : CharSet :=
  .diff (.union (.category ["Mc"]) (listed "E33 EB3"))
    (.union clusterMarks (listed
      "102B-102C 1038 1062-1064 1067-106D 1083 1087-108C 108F 109A-109C 1A61 1A63-1A64 AA7B AA7D
       11720-11721"))

/-- Characters on both sides of which text is divided. -/
def clusterControls : CharSet :=
  .diff
    (.union (.category ["Zl", "Zp", "Cc", "Cf"])
      (.inter (.category ["Cn"]) (listed Unicode.defaultIgnorableCodePointText)))
    (.unions [lineFeed, carriageReturn, clusterMarks, listed Unicode.joinControlText,
      listed Unicode.prependedConcatenationMarkText])

/-- Characters that are not divided from what is after them. -/
def clusterHeads : CharSet :=
  .union (listed Unicode.prependedConcatenationMarkText)
    (listed "D4E 111C2-111C3 113D1 1193F 11941 11A3A 11A84-11A89 11D46 11F02")

/-- The syllables of Hangul, first those without a final consonant. -/
def openSyllables : CharSet :=
  .table ⟨(List.range 399).map fun i => (0xAC00 + 28 * i, 0xAC00 + 28 * i)⟩

def closedSyllables : CharSet := .diff (.range 0xAC00 0xD7A3) openSyllables

/-- The characters that play a part in clusters, by its loose name. -/
def clusterPart? (name : String) : Option CharSet :=
  if name = "cr" then some carriageReturn
  else if name = "lf" then some lineFeed
  else if ["cn", "control"].contains name then some clusterControls
  else if ["ex", "extend"].contains name then some clusterMarks
  else if name = "zwj" then some joiner
  else if ["ri", "regionalindicator"].contains name then some regionalIndicators
  else if ["pp", "prepend"].contains name then some clusterHeads
  else if ["sm", "spacingmark"].contains name then some spacingMarks
  else if name = "l" then some (listed "1100-115F A960-A97C")
  else if name = "v" then some (listed "1160-11A7 D7B0-D7C6 16D63 16D67-16D6A")
  else if name = "t" then some (listed "11A8-11FF D7CB-D7FB")
  else if name = "lv" then some openSyllables
  else if name = "lvt" then some closedSyllables
  else none

/-! ### Words -/

def katakana : CharSet :=
  .union (ofScript "katakana") (listed "3031-3035 309B-309C 30A0 30FC FF70")

def hebrewLetters : CharSet := .inter (ofScript "hebrew") (.category ["Lo"])

/-- The scripts whose words are not told apart by characters alone. -/
def undividedScripts : CharSet :=
  .unions (["hiragana", "thai", "lao", "khmer", "myanmar", "newtailue", "taile", "taitham",
    "taiviet", "ahom"].map ofScript)

def wordMarks : CharSet := .union attached (listed Unicode.emojiModifierText)

/-- Letters of the scripts whose words are told apart by characters. -/
def wordLetters : CharSet :=
  .union
    (.diff (listed Unicode.alphabeticText)
      (.unions [listed Unicode.ideographicText, katakana, hebrewLetters, undividedScripts,
        wordMarks]))
    (listed
      "2C2-2C5 2D2-2D7 2DE-2DF 2E5-2EB 2ED 2EF-2FF 55A-55C 55E 58A 5F3 70F A708-A716 A720-A721
       A789-A78A AB5B")

/-- The characters that play a part in words, by its loose name. -/
def wordPart? (name : String) : Option CharSet :=
  if name = "cr" then some carriageReturn
  else if name = "lf" then some lineFeed
  else if ["nl", "newline"].contains name then some (listed "B-C 85 2028-2029")
  else if name = "extend" then some wordMarks
  else if name = "zwj" then some joiner
  else if ["ri", "regionalindicator"].contains name then some regionalIndicators
  else if ["fo", "format"].contains name then some (.diff formatting (listed "200B"))
  else if ["ka", "katakana"].contains name then some katakana
  else if ["hl", "hebrewletter"].contains name then some hebrewLetters
  else if ["le", "aletter"].contains name then some wordLetters
  else if ["sq", "singlequote"].contains name then some (listed "27")
  else if ["dq", "doublequote"].contains name then some (listed "22")
  else if ["mb", "midnumlet"].contains name then some (listed "2E 2018-2019 2024 FE52 FF07 FF0E")
  else if ["ml", "midletter"].contains name then
    some (listed "3A B7 387 55F 5F4 2027 FE13 FE55 FF1A")
  else if ["mn", "midnum"].contains name then
    some (listed "2C 3B 37E 589 60C-60D 66C 7F8 2044 FE50 FE54 FF0C FF1B")
  else if ["nu", "numeric"].contains name then
    some (.unions [.category ["Nd"], listed "66B 19DA", numberSigns])
  else if ["ex", "extendnumlet"].contains name then
    some (.union (.category ["Pc"]) (listed "202F"))
  else if name = "wsegspace" then
    some (.diff (.category ["Zs"]) (listed "A0 2007 202F"))
  else none

/-! ### Sentences -/

def fullStops : CharSet := listed "2E 2024 FE52 FF0E"

def sentenceEnds : CharSet := .diff (listed Unicode.sentenceTerminalText) fullStops

/-- Georgian letters, which have two forms but no use of them at the start of sentences. -/
def georgianLetters : CharSet := listed "10D0-10FA 10FD-10FF 1C90-1CBA 1CBD-1CBF"

def smallLetters : CharSet :=
  .diff (listed Unicode.lowercaseText)
    (.union (listed Unicode.graphemeExtendText) georgianLetters)

def capitalLetters : CharSet :=
  .diff (.union (.category ["Lt"]) (listed Unicode.uppercaseText)) georgianLetters

/-- Letters that are neither small nor capital. -/
def otherLetters : CharSet :=
  .diff (.unions [listed Unicode.alphabeticText, listed "5F3", georgianLetters])
    (.unions [smallLetters, capitalLetters, attached])

/-- The characters that play a part in sentences, by its loose name. -/
def sentencePart? (name : String) : Option CharSet :=
  if name = "cr" then some carriageReturn
  else if name = "lf" then some lineFeed
  else if ["ex", "extend"].contains name then some (.union attached joiner)
  else if ["se", "sep"].contains name then some (listed "85 2028-2029")
  else if ["fo", "format"].contains name then some (.union formatting (listed "70F"))
  else if name = "sp" then
    some (.diff (listed Unicode.whiteSpaceText) (listed "A D 85 2028-2029"))
  else if ["lo", "lower"].contains name then some smallLetters
  else if ["up", "upper"].contains name then some capitalLetters
  else if ["le", "oletter"].contains name then some otherLetters
  else if ["nu", "numeric"].contains name then
    some (.unions [.category ["Nd"], listed "66B-66C 19DA", numberSigns])
  else if ["at", "aterm"].contains name then some fullStops
  else if ["sc", "scontinue"].contains name then
    some (listed
      "2C-2D 3A 3B 37E 55D 60C-60D 7F8 1802 1808 2013-2014 3001 FE10-FE11 FE13 FE14 FE31-FE32
       FE50-FE51 FE54-FE55 FE58 FE63 FF0C-FF0D FF1A-FF1B FF64")
  else if ["st", "sterm"].contains name then some sentenceEnds
  else if ["cl", "close"].contains name then
    some (.diff
      (.union (.category ["Ps", "Pe", "Pi", "Pf"])
        (listed "22 27 275B-2760 2E00-2E01 2E06-2E08 2E0B 1F676-1F678"))
      (.union (listed "5F3") sentenceEnds))
  else none

end Regex

end TreeSchema
