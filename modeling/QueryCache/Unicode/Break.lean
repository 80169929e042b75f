/-
QueryCache.Unicode.Break — where graphemes, words and sentences end.

Unicode gives each character a value for each kind of break; here stand
the sets of characters with a value.
-/
import QueryCache.Unicode.Property

namespace QueryCache.Unicode

/-! ## 1. Graphemes -/

/-- What extends the character before it, within a grapheme. -/
def graphemeExtends : CharSet :=
  graphemeExtenders.union emojiModifierTrait.set

/-- Spacing marks that stand apart from the character before them. -/
def apartMarks : CharSet := .ofRanges [
  (0x102B, 0x102C), (0x1038, 0x1038), (0x1062, 0x1064), (0x1067, 0x106D), (0x1083, 0x1083),
  (0x1087, 0x108C), (0x108F, 0x108F), (0x109A, 0x109C), (0x1A61, 0x1A61), (0x1A63, 0x1A64),
  (0xAA7B, 0xAA7B), (0xAA7D, 0xAA7D), (0x11720, 0x11721)]

/-- Prefixes of graphemes besides the marks that enclose numbers. -/
def graphemePrefixes : CharSet := .ofRanges [
  (0xD4E, 0xD4E), (0x111C2, 0x111C3), (0x113D1, 0x113D1), (0x1193F, 0x1193F),
  (0x11941, 0x11941), (0x11A3A, 0x11A3A), (0x11A84, 0x11A89), (0x11D46, 0x11D46),
  (0x11F02, 0x11F02)]

/-- Hangul syllables without a final consonant; they stand 28 code points
apart. -/
def openSyllables : CharSet :=
  .ofRanges ((List.range 399).map fun k => (0xAC00 + 28 * k, 0xAC00 + 28 * k))

/-- The values of Grapheme_Cluster_Break. -/
def graphemeBreaks : List NamedSet := [
  ⟨["CR"], .single '\r'⟩,
  ⟨["LF"], .single '\n'⟩,
  ⟨["Control", "CN"],
    ((ofCategories [.lineSeparator, .paragraphSeparator, .control, .format]).union
      (defaultIgnorables.diff assigned)).diff
      (.unions [prependedConcatenationMarkTrait.set,
        .ofRanges [(0x0A, 0x0A), (0x0D, 0x0D), (0x200C, 0x200D), (0xE0020, 0xE007F)]])⟩,
  ⟨["Extend", "EX"], graphemeExtends⟩,
  ⟨["ZWJ"], .single '\u200d'⟩,
  ⟨["Regional_Indicator", "RI"], regionalIndicatorTrait.set⟩,
  ⟨["Prepend", "PP"], prependedConcatenationMarkTrait.set.union graphemePrefixes⟩,
  ⟨["SpacingMark", "SM"],
    ((Category.spacingMark.set.diff graphemeExtends).diff apartMarks).union
      (.ofRanges [(0xE33, 0xE33), (0xEB3, 0xEB3)])⟩,
  ⟨["L"], .ofRanges [(0x1100, 0x115F), (0xA960, 0xA97C)]⟩,
  ⟨["V"], .ofRanges [(0x1160, 0x11A7), (0xD7B0, 0xD7C6), (0x16D63, 0x16D63), (0x16D67, 0x16D6A)]⟩,
  ⟨["T"], .ofRanges [(0x11A8, 0x11FF), (0xD7CB, 0xD7FB)]⟩,
  ⟨["LV"], openSyllables⟩,
  ⟨["LVT"], (CharSet.ofRanges [(0xAC00, 0xD7A3)]).diff openSyllables⟩]

/-! ## 2. Words -/

/-- What extends the character before it, within a word. -/
def wordExtends : CharSet :=
  .unions [graphemeExtends, Category.spacingMark.set, .single '\u200c']

/-- Signs in numbers. -/
def numberSigns : CharSet := .ofRanges [
  (0x600, 0x605), (0x66B, 0x66C), (0x6DD, 0x6DD), (0x890, 0x891), (0x8E2, 0x8E2),
  (0x19DA, 0x19DA), (0x110BD, 0x110BD), (0x110CD, 0x110CD)]

/-- Digits and what stands in numbers. -/
def numerics : CharSet :=
  Category.decimalNumber.set.union numberSigns

/-- Hebrew letters. -/
def hebrewLetters : CharSet := .ofRanges [
  (0x5D0, 0x5EA), (0x5EF, 0x5F2), (0xFB1D, 0xFB1D), (0xFB1F, 0xFB28), (0xFB2A, 0xFB36),
  (0xFB38, 0xFB3C), (0xFB3E, 0xFB3E), (0xFB40, 0xFB41), (0xFB43, 0xFB44), (0xFB46, 0xFB4F)]

/-- The letters and signs of Katakana. -/
def katakanas : CharSet := .ofRanges [
  (0x3031, 0x3035), (0x309B, 0x309C), (0x30A0, 0x30FA), (0x30FC, 0x30FF), (0x31F0, 0x31FF),
  (0x32D0, 0x32FE), (0x3300, 0x3357), (0xFF66, 0xFF9D), (0x1AFF0, 0x1AFF3), (0x1AFF5, 0x1AFFB),
  (0x1AFFD, 0x1AFFE), (0x1B000, 0x1B000), (0x1B120, 0x1B122), (0x1B155, 0x1B155),
  (0x1B164, 0x1B167)]

/-- Signs that count as letters of words. -/
def letterSigns : CharSet := .ofRanges [
  (0x2C2, 0x2C5), (0x2D2, 0x2D7), (0x2DE, 0x2DF), (0x2E5, 0x2EB), (0x2ED, 0x2ED),
  (0x2EF, 0x2FF), (0x55A, 0x55C), (0x55E, 0x55E), (0x58A, 0x58A), (0x5F3, 0x5F3),
  (0x70F, 0x70F), (0xA708, 0xA716), (0xA720, 0xA721), (0xA789, 0xA78A), (0xAB5B, 0xAB5B)]

/-- The scripts that write words without blanks between them. -/
def unspacedScripts : CharSet :=
  .unions ([ahomScript, hiraganaScript, khmerScript, laoScript, myanmarScript, newTaiLueScript,
    taiLeScript, taiThamScript, taiVietScript, thaiScript].map Script.set)

/-- The format characters that words and sentences look past. -/
def ignoredFormats : CharSet :=
  Category.format.set.diff (.unions [prependedConcatenationMarkTrait.set,
    .ofRanges [(0x200C, 0x200D), (0xE0020, 0xE007F)]])

/-- The values of Word_Break. -/
def wordBreaks : List NamedSet := [
  ⟨["CR"], .single '\r'⟩,
  ⟨["LF"], .single '\n'⟩,
  ⟨["Newline", "NL"], .ofRanges [(0x0B, 0x0C), (0x85, 0x85), (0x2028, 0x2029)]⟩,
  ⟨["Extend"], wordExtends⟩,
  ⟨["ZWJ"], .single '\u200d'⟩,
  ⟨["Format", "FO"], ignoredFormats.diff (.single '\u200b')⟩,
  ⟨["Regional_Indicator", "RI"], regionalIndicatorTrait.set⟩,
  ⟨["Katakana", "KA"], katakanas⟩,
  ⟨["Hebrew_Letter", "HL"], hebrewLetters⟩,
  ⟨["ALetter", "LE"],
    (alphabetics.diff (.unions [ideographicTrait.set, katakanas, unspacedScripts, wordExtends,
      hebrewLetters])).union letterSigns⟩,
  ⟨["Single_Quote", "SQ"], .single '\''⟩,
  ⟨["Double_Quote", "DQ"], .single '"'⟩,
  ⟨["MidNumLet", "MB"], midNumberLetters⟩,
  ⟨["MidLetter", "ML"], midLetters⟩,
  ⟨["MidNum", "MN"], .ofRanges
    [(0x2C, 0x2C), (0x3B, 0x3B), (0x37E, 0x37E), (0x589, 0x589), (0x60C, 0x60D), (0x66C, 0x66C),
     (0x7F8, 0x7F8), (0x2044, 0x2044), (0xFE50, 0xFE50), (0xFE54, 0xFE54), (0xFF0C, 0xFF0C),
     (0xFF1B, 0xFF1B)]⟩,
  ⟨["Numeric", "NU"], numerics.diff (.ofRanges [(0x66C, 0x66C)])⟩,
  ⟨["ExtendNumLet", "EX"], Category.connectorPunctuation.set.union
    (.ofRanges [(0x202F, 0x202F)])⟩,
  ⟨["WSegSpace"], .ofRanges
    [(0x20, 0x20), (0x1680, 0x1680), (0x2000, 0x2006), (0x2008, 0x200A), (0x205F, 0x205F),
     (0x3000, 0x3000)]⟩]

/-! ## 3. Sentences -/

/-- What extends the character before it, within a sentence. -/
def sentenceExtends : CharSet :=
  .unions [graphemeExtenders, Category.spacingMark.set, .single '\u200d']

/-- Georgian letters, which begin no sentence in either case. -/
def smallGeorgian : CharSet :=
  .ofRanges [(0x10D0, 0x10FA), (0x10FD, 0x10FF)]

/-- Georgian capitals. -/
def capitalGeorgian : CharSet :=
  .ofRanges [(0x1C90, 0x1CBA), (0x1CBD, 0x1CBF)]

/-- Lowercase characters of sentences. -/
def sentenceLowers : CharSet :=
  (lowercases.diff sentenceExtends).diff smallGeorgian

/-- Uppercase characters of sentences. -/
def sentenceUppers : CharSet :=
  (uppercases.union Category.titlecaseLetter.set).diff capitalGeorgian

/-- Full stops, which may end a sentence. -/
def sentenceStops : CharSet :=
  .ofRanges [(0x2E, 0x2E), (0x2024, 0x2024), (0xFE52, 0xFE52), (0xFF0E, 0xFF0E)]

/-- Ornaments that close quotations. -/
def closingOrnaments : CharSet := .ofRanges [
  (0x275B, 0x2760), (0x2E00, 0x2E01), (0x2E06, 0x2E08), (0x2E0B, 0x2E0B), (0x1F676, 0x1F678)]

/-- The values of Sentence_Break. -/
def sentenceBreaks : List NamedSet := [
  ⟨["CR"], .single '\r'⟩,
  ⟨["LF"], .single '\n'⟩,
  ⟨["Sep", "SE"], .ofRanges [(0x85, 0x85), (0x2028, 0x2029)]⟩,
  ⟨["Extend", "EX"], sentenceExtends⟩,
  ⟨["Format", "FO"], ignoredFormats.union (.single '\u070f')⟩,
  ⟨["Sp", "SP"], blanks.diff (.ofRanges
    [(0x0A, 0x0A), (0x0D, 0x0D), (0x85, 0x85), (0x2028, 0x2029)])⟩,
  ⟨["Lower", "LO"], sentenceLowers⟩,
  ⟨["Upper", "UP"], sentenceUppers⟩,
  ⟨["OLetter", "LE"],
    (alphabetics.union (.single '\u05f3')).diff
      (.unions [sentenceLowers, sentenceUppers, sentenceExtends])⟩,
  ⟨["Numeric", "NU"], numerics⟩,
  ⟨["ATerm", "AT"], sentenceStops⟩,
  ⟨["SContinue", "SC"], .ofRanges
    [(0x2C, 0x2D), (0x3A, 0x3B), (0x37E, 0x37E), (0x55D, 0x55D), (0x60C, 0x60D), (0x7F8, 0x7F8),
     (0x1802, 0x1802), (0x1808, 0x1808), (0x2013, 0x2014), (0x3001, 0x3001), (0xFE10, 0xFE11),
     (0xFE13, 0xFE14), (0xFE31, 0xFE32), (0xFE50, 0xFE51), (0xFE54, 0xFE55), (0xFE58, 0xFE58),
     (0xFE63, 0xFE63), (0xFF0C, 0xFF0D), (0xFF1A, 0xFF1B), (0xFF64, 0xFF64)]⟩,
  ⟨["STerm", "ST"], sentenceTerminalTrait.set.diff sentenceStops⟩,
  ⟨["Close", "CL"],
    (CharSet.unions [ofCategories [.openPunctuation, .closePunctuation, .initialPunctuation,
      .finalPunctuation], quotationMarkTrait.set, closingOrnaments]).diff
      (.ofRanges [(0xFF02, 0xFF02), (0xFF07, 0xFF07)])⟩]

end QueryCache.Unicode
