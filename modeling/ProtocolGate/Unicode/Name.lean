import ProtocolGate.Unicode.Ranges

/-!
Names of characters. Syllables and ideographs are named by a rule: a syllable by its sounds, an
ideograph by its code point. Of the other names there are those of the control characters, the
printing characters of the first two blocks, the basic Greek letters, general punctuation, currency
signs and the plain arrows.
-/

namespace ProtocolGate.Unicode

def initialSounds : List String :=
  ["G", "GG", "N", "D", "DD", "R", "M", "B", "BB", "S", "SS", "", "J", "JJ", "C", "K", "T", "P",
    "H"]

def vowelSounds : List String :=
  ["A", "AE", "YA", "YAE", "EO", "E", "YEO", "YE", "O", "WA", "WAE", "OE", "YO", "U", "WEO", "WE",
    "WI", "YU", "EU", "YI", "I"]

def finalSounds : List String :=
  ["", "G", "GG", "GS", "N", "NJ", "NH", "D", "L", "LG", "LM", "LB", "LS", "LT", "LP", "LH", "M",
    "B", "BS", "S", "SS", "NG", "J", "C", "K", "T", "P", "H"]

/-- The code point of a syllable, given its sounds in capital letters. -/
def syllable? (sounds : List Char) : Option Nat := do
  let isVowel := fun (c : Char) => "AEIOUWY".toList.contains c
  let place? := fun (table : List String) (sound : List Char) =>
    table.findIdx? (String.toList · == sound)
  let initial ← place? initialSounds (sounds.takeWhile (!isVowel ·))
  let rest := sounds.dropWhile (!isVowel ·)
  let vowel ← place? vowelSounds (rest.takeWhile isVowel)
  let final ← place? finalSounds (rest.dropWhile isVowel)
  return 0xAC00 + (initial * vowelSounds.length + vowel) * finalSounds.length + final

def ideographRanges : List (Nat × Nat) :=
  [(0x3400, 0x4DBF), (0x4E00, 0x9FFF), (0x20000, 0x2A6DF), (0x2A700, 0x2B738), (0x2B740, 0x2B81D),
    (0x2B820, 0x2CEA1), (0x2CEB0, 0x2EBE0), (0x30000, 0x3134A)]

/-- The code point of an ideograph, given its four or five digits. -/
def ideograph? (digits : List Char) : Option Nat := do
  guard (digits.length = 4 ∨ digits.length = 5)
  let code ← digits.foldlM (fun code c => do
    let digit ← "0123456789ABCDEF".toList.findIdx? (· == c)
    return 16 * code + digit) 0
  guard (inRanges ideographRanges code)
  return code

def controlNames : List (Nat × String) :=
  [(0x0, "NULL"), (0x0, "NUL"), (0x1, "START OF HEADING"), (0x1, "SOH"), (0x2, "START OF TEXT"),
   (0x2, "STX"), (0x3, "END OF TEXT"), (0x3, "ETX"), (0x4, "END OF TRANSMISSION"), (0x4, "EOT"),
   (0x5, "ENQUIRY"), (0x5, "ENQ"), (0x6, "ACKNOWLEDGE"), (0x6, "ACK"), (0x7, "ALERT"), (0x7, "BEL"),
   (0x8, "BACKSPACE"), (0x8, "BS"), (0x9, "CHARACTER TABULATION"), (0x9, "HORIZONTAL TABULATION"),
   (0x9, "HT"), (0x9, "TAB"), (0xA, "LINE FEED"), (0xA, "NEW LINE"), (0xA, "END OF LINE"),
   (0xA, "LF"), (0xA, "NL"), (0xA, "EOL"), (0xB, "LINE TABULATION"), (0xB, "VERTICAL TABULATION"),
   (0xB, "VT"), (0xC, "FORM FEED"), (0xC, "FF"), (0xD, "CARRIAGE RETURN"), (0xD, "CR"),
   (0xE, "SHIFT OUT"), (0xE, "LOCKING-SHIFT ONE"), (0xE, "SO"), (0xF, "SHIFT IN"),
   (0xF, "LOCKING-SHIFT ZERO"), (0xF, "SI"), (0x10, "DATA LINK ESCAPE"), (0x10, "DLE"),
   (0x11, "DEVICE CONTROL ONE"), (0x11, "DC1"), (0x12, "DEVICE CONTROL TWO"), (0x12, "DC2"),
   (0x13, "DEVICE CONTROL THREE"), (0x13, "DC3"), (0x14, "DEVICE CONTROL FOUR"), (0x14, "DC4"),
   (0x15, "NEGATIVE ACKNOWLEDGE"), (0x15, "NAK"), (0x16, "SYNCHRONOUS IDLE"), (0x16, "SYN"),
   (0x17, "END OF TRANSMISSION BLOCK"), (0x17, "ETB"), (0x18, "CANCEL"), (0x18, "CAN"),
   (0x19, "END OF MEDIUM"), (0x19, "EOM"), (0x1A, "SUBSTITUTE"), (0x1A, "SUB"), (0x1B, "ESCAPE"),
   (0x1B, "ESC"), (0x1C, "INFORMATION SEPARATOR FOUR"), (0x1C, "FILE SEPARATOR"), (0x1C, "FS"),
   (0x1D, "INFORMATION SEPARATOR THREE"), (0x1D, "GROUP SEPARATOR"), (0x1D, "GS"),
   (0x1E, "INFORMATION SEPARATOR TWO"), (0x1E, "RECORD SEPARATOR"), (0x1E, "RS"),
   (0x1F, "INFORMATION SEPARATOR ONE"), (0x1F, "UNIT SEPARATOR"), (0x1F, "US"), (0x20, "SP"),
   (0x7F, "DELETE"), (0x7F, "DEL"), (0x85, "NEXT LINE"), (0x85, "NEL"), (0xA0, "NBSP"),
   (0xAD, "SHY")]

def names : List (Nat × String) :=
  [(0x20, "SPACE"), (0x21, "EXCLAMATION MARK"), (0x22, "QUOTATION MARK"), (0x23, "NUMBER SIGN"),
   (0x24, "DOLLAR SIGN"), (0x25, "PERCENT SIGN"), (0x26, "AMPERSAND"), (0x27, "APOSTROPHE"),
   (0x28, "LEFT PARENTHESIS"), (0x29, "RIGHT PARENTHESIS"), (0x2A, "ASTERISK"),
   (0x2B, "PLUS SIGN"), (0x2C, "COMMA"), (0x2D, "HYPHEN-MINUS"), (0x2E, "FULL STOP"),
   (0x2F, "SOLIDUS"), (0x30, "DIGIT ZERO"), (0x31, "DIGIT ONE"), (0x32, "DIGIT TWO"),
   (0x33, "DIGIT THREE"), (0x34, "DIGIT FOUR"), (0x35, "DIGIT FIVE"), (0x36, "DIGIT SIX"),
   (0x37, "DIGIT SEVEN"), (0x38, "DIGIT EIGHT"), (0x39, "DIGIT NINE"), (0x3A, "COLON"),
   (0x3B, "SEMICOLON"), (0x3C, "LESS-THAN SIGN"), (0x3D, "EQUALS SIGN"),
   (0x3E, "GREATER-THAN SIGN"), (0x3F, "QUESTION MARK"), (0x40, "COMMERCIAL AT"),
   (0x41, "LATIN CAPITAL LETTER A"), (0x42, "LATIN CAPITAL LETTER B"),
   (0x43, "LATIN CAPITAL LETTER C"), (0x44, "LATIN CAPITAL LETTER D"),
   (0x45, "LATIN CAPITAL LETTER E"), (0x46, "LATIN CAPITAL LETTER F"),
   (0x47, "LATIN CAPITAL LETTER G"), (0x48, "LATIN CAPITAL LETTER H"),
   (0x49, "LATIN CAPITAL LETTER I"), (0x4A, "LATIN CAPITAL LETTER J"),
   (0x4B, "LATIN CAPITAL LETTER K"), (0x4C, "LATIN CAPITAL LETTER L"),
   (0x4D, "LATIN CAPITAL LETTER M"), (0x4E, "LATIN CAPITAL LETTER N"),
   (0x4F, "LATIN CAPITAL LETTER O"), (0x50, "LATIN CAPITAL LETTER P"),
   (0x51, "LATIN CAPITAL LETTER Q"), (0x52, "LATIN CAPITAL LETTER R"),
   (0x53, "LATIN CAPITAL LETTER S"), (0x54, "LATIN CAPITAL LETTER T"),
   (0x55, "LATIN CAPITAL LETTER U"), (0x56, "LATIN CAPITAL LETTER V"),
   (0x57, "LATIN CAPITAL LETTER W"), (0x58, "LATIN CAPITAL LETTER X"),
   (0x59, "LATIN CAPITAL LETTER Y"), (0x5A, "LATIN CAPITAL LETTER Z"),
   (0x5B, "LEFT SQUARE BRACKET"), (0x5C, "REVERSE SOLIDUS"), (0x5D, "RIGHT SQUARE BRACKET"),
   (0x5E, "CIRCUMFLEX ACCENT"), (0x5F, "LOW LINE"), (0x60, "GRAVE ACCENT"),
   (0x61, "LATIN SMALL LETTER A"), (0x62, "LATIN SMALL LETTER B"), (0x63, "LATIN SMALL LETTER C"),
   (0x64, "LATIN SMALL LETTER D"), (0x65, "LATIN SMALL LETTER E"), (0x66, "LATIN SMALL LETTER F"),
   (0x67, "LATIN SMALL LETTER G"), (0x68, "LATIN SMALL LETTER H"), (0x69, "LATIN SMALL LETTER I"),
   (0x6A, "LATIN SMALL LETTER J"), (0x6B, "LATIN SMALL LETTER K"), (0x6C, "LATIN SMALL LETTER L"),
   (0x6D, "LATIN SMALL LETTER M"), (0x6E, "LATIN SMALL LETTER N"), (0x6F, "LATIN SMALL LETTER O"),
   (0x70, "LATIN SMALL LETTER P"), (0x71, "LATIN SMALL LETTER Q"), (0x72, "LATIN SMALL LETTER R"),
   (0x73, "LATIN SMALL LETTER S"), (0x74, "LATIN SMALL LETTER T"), (0x75, "LATIN SMALL LETTER U"),
   (0x76, "LATIN SMALL LETTER V"), (0x77, "LATIN SMALL LETTER W"), (0x78, "LATIN SMALL LETTER X"),
   (0x79, "LATIN SMALL LETTER Y"), (0x7A, "LATIN SMALL LETTER Z"), (0x7B, "LEFT CURLY BRACKET"),
   (0x7C, "VERTICAL LINE"), (0x7D, "RIGHT CURLY BRACKET"), (0x7E, "TILDE"),
   (0xA0, "NO-BREAK SPACE"), (0xA1, "INVERTED EXCLAMATION MARK"), (0xA2, "CENT SIGN"),
   (0xA3, "POUND SIGN"), (0xA4, "CURRENCY SIGN"), (0xA5, "YEN SIGN"), (0xA6, "BROKEN BAR"),
   (0xA7, "SECTION SIGN"), (0xA8, "DIAERESIS"), (0xA9, "COPYRIGHT SIGN"),
   (0xAA, "FEMININE ORDINAL INDICATOR"), (0xAB, "LEFT-POINTING DOUBLE ANGLE QUOTATION MARK"),
   (0xAC, "NOT SIGN"), (0xAD, "SOFT HYPHEN"), (0xAE, "REGISTERED SIGN"), (0xAF, "MACRON"),
   (0xB0, "DEGREE SIGN"), (0xB1, "PLUS-MINUS SIGN"), (0xB2, "SUPERSCRIPT TWO"),
   (0xB3, "SUPERSCRIPT THREE"), (0xB4, "ACUTE ACCENT"), (0xB5, "MICRO SIGN"),
   (0xB6, "PILCROW SIGN"), (0xB7, "MIDDLE DOT"), (0xB8, "CEDILLA"), (0xB9, "SUPERSCRIPT ONE"),
   (0xBA, "MASCULINE ORDINAL INDICATOR"), (0xBB, "RIGHT-POINTING DOUBLE ANGLE QUOTATION MARK"),
   (0xBC, "VULGAR FRACTION ONE QUARTER"), (0xBD, "VULGAR FRACTION ONE HALF"),
   (0xBE, "VULGAR FRACTION THREE QUARTERS"), (0xBF, "INVERTED QUESTION MARK"),
   (0xC0, "LATIN CAPITAL LETTER A WITH GRAVE"), (0xC1, "LATIN CAPITAL LETTER A WITH ACUTE"),
   (0xC2, "LATIN CAPITAL LETTER A WITH CIRCUMFLEX"), (0xC3, "LATIN CAPITAL LETTER A WITH TILDE"),
   (0xC4, "LATIN CAPITAL LETTER A WITH DIAERESIS"),
   (0xC5, "LATIN CAPITAL LETTER A WITH RING ABOVE"), (0xC6, "LATIN CAPITAL LETTER AE"),
   (0xC7, "LATIN CAPITAL LETTER C WITH CEDILLA"), (0xC8, "LATIN CAPITAL LETTER E WITH GRAVE"),
   (0xC9, "LATIN CAPITAL LETTER E WITH ACUTE"), (0xCA, "LATIN CAPITAL LETTER E WITH CIRCUMFLEX"),
   (0xCB, "LATIN CAPITAL LETTER E WITH DIAERESIS"), (0xCC, "LATIN CAPITAL LETTER I WITH GRAVE"),
   (0xCD, "LATIN CAPITAL LETTER I WITH ACUTE"), (0xCE, "LATIN CAPITAL LETTER I WITH CIRCUMFLEX"),
   (0xCF, "LATIN CAPITAL LETTER I WITH DIAERESIS"), (0xD0, "LATIN CAPITAL LETTER ETH"),
   (0xD1, "LATIN CAPITAL LETTER N WITH TILDE"), (0xD2, "LATIN CAPITAL LETTER O WITH GRAVE"),
   (0xD3, "LATIN CAPITAL LETTER O WITH ACUTE"), (0xD4, "LATIN CAPITAL LETTER O WITH CIRCUMFLEX"),
   (0xD5, "LATIN CAPITAL LETTER O WITH TILDE"), (0xD6, "LATIN CAPITAL LETTER O WITH DIAERESIS"),
   (0xD7, "MULTIPLICATION SIGN"), (0xD8, "LATIN CAPITAL LETTER O WITH STROKE"),
   (0xD9, "LATIN CAPITAL LETTER U WITH GRAVE"), (0xDA, "LATIN CAPITAL LETTER U WITH ACUTE"),
   (0xDB, "LATIN CAPITAL LETTER U WITH CIRCUMFLEX"),
   (0xDC, "LATIN CAPITAL LETTER U WITH DIAERESIS"), (0xDD, "LATIN CAPITAL LETTER Y WITH ACUTE"),
   (0xDE, "LATIN CAPITAL LETTER THORN"), (0xDF, "LATIN SMALL LETTER SHARP S"),
   (0xE0, "LATIN SMALL LETTER A WITH GRAVE"), (0xE1, "LATIN SMALL LETTER A WITH ACUTE"),
   (0xE2, "LATIN SMALL LETTER A WITH CIRCUMFLEX"), (0xE3, "LATIN SMALL LETTER A WITH TILDE"),
   (0xE4, "LATIN SMALL LETTER A WITH DIAERESIS"), (0xE5, "LATIN SMALL LETTER A WITH RING ABOVE"),
   (0xE6, "LATIN SMALL LETTER AE"), (0xE7, "LATIN SMALL LETTER C WITH CEDILLA"),
   (0xE8, "LATIN SMALL LETTER E WITH GRAVE"), (0xE9, "LATIN SMALL LETTER E WITH ACUTE"),
   (0xEA, "LATIN SMALL LETTER E WITH CIRCUMFLEX"), (0xEB, "LATIN SMALL LETTER E WITH DIAERESIS"),
   (0xEC, "LATIN SMALL LETTER I WITH GRAVE"), (0xED, "LATIN SMALL LETTER I WITH ACUTE"),
   (0xEE, "LATIN SMALL LETTER I WITH CIRCUMFLEX"), (0xEF, "LATIN SMALL LETTER I WITH DIAERESIS"),
   (0xF0, "LATIN SMALL LETTER ETH"), (0xF1, "LATIN SMALL LETTER N WITH TILDE"),
   (0xF2, "LATIN SMALL LETTER O WITH GRAVE"), (0xF3, "LATIN SMALL LETTER O WITH ACUTE"),
   (0xF4, "LATIN SMALL LETTER O WITH CIRCUMFLEX"), (0xF5, "LATIN SMALL LETTER O WITH TILDE"),
   (0xF6, "LATIN SMALL LETTER O WITH DIAERESIS"), (0xF7, "DIVISION SIGN"),
   (0xF8, "LATIN SMALL LETTER O WITH STROKE"), (0xF9, "LATIN SMALL LETTER U WITH GRAVE"),
   (0xFA, "LATIN SMALL LETTER U WITH ACUTE"), (0xFB, "LATIN SMALL LETTER U WITH CIRCUMFLEX"),
   (0xFC, "LATIN SMALL LETTER U WITH DIAERESIS"), (0xFD, "LATIN SMALL LETTER Y WITH ACUTE"),
   (0xFE, "LATIN SMALL LETTER THORN"), (0xFF, "LATIN SMALL LETTER Y WITH DIAERESIS"),
   (0x391, "GREEK CAPITAL LETTER ALPHA"), (0x392, "GREEK CAPITAL LETTER BETA"),
   (0x393, "GREEK CAPITAL LETTER GAMMA"), (0x394, "GREEK CAPITAL LETTER DELTA"),
   (0x395, "GREEK CAPITAL LETTER EPSILON"), (0x396, "GREEK CAPITAL LETTER ZETA"),
   (0x397, "GREEK CAPITAL LETTER ETA"), (0x398, "GREEK CAPITAL LETTER THETA"),
   (0x399, "GREEK CAPITAL LETTER IOTA"), (0x39A, "GREEK CAPITAL LETTER KAPPA"),
   (0x39B, "GREEK CAPITAL LETTER LAMDA"), (0x39C, "GREEK CAPITAL LETTER MU"),
   (0x39D, "GREEK CAPITAL LETTER NU"), (0x39E, "GREEK CAPITAL LETTER XI"),
   (0x39F, "GREEK CAPITAL LETTER OMICRON"), (0x3A0, "GREEK CAPITAL LETTER PI"),
   (0x3A1, "GREEK CAPITAL LETTER RHO"), (0x3A3, "GREEK CAPITAL LETTER SIGMA"),
   (0x3A4, "GREEK CAPITAL LETTER TAU"), (0x3A5, "GREEK CAPITAL LETTER UPSILON"),
   (0x3A6, "GREEK CAPITAL LETTER PHI"), (0x3A7, "GREEK CAPITAL LETTER CHI"),
   (0x3A8, "GREEK CAPITAL LETTER PSI"), (0x3A9, "GREEK CAPITAL LETTER OMEGA"),
   (0x3B1, "GREEK SMALL LETTER ALPHA"), (0x3B2, "GREEK SMALL LETTER BETA"),
   (0x3B3, "GREEK SMALL LETTER GAMMA"), (0x3B4, "GREEK SMALL LETTER DELTA"),
   (0x3B5, "GREEK SMALL LETTER EPSILON"), (0x3B6, "GREEK SMALL LETTER ZETA"),
   (0x3B7, "GREEK SMALL LETTER ETA"), (0x3B8, "GREEK SMALL LETTER THETA"),
   (0x3B9, "GREEK SMALL LETTER IOTA"), (0x3BA, "GREEK SMALL LETTER KAPPA"),
   (0x3BB, "GREEK SMALL LETTER LAMDA"), (0x3BC, "GREEK SMALL LETTER MU"),
   (0x3BD, "GREEK SMALL LETTER NU"), (0x3BE, "GREEK SMALL LETTER XI"),
   (0x3BF, "GREEK SMALL LETTER OMICRON"), (0x3C0, "GREEK SMALL LETTER PI"),
   (0x3C1, "GREEK SMALL LETTER RHO"), (0x3C2, "GREEK SMALL LETTER FINAL SIGMA"),
   (0x3C3, "GREEK SMALL LETTER SIGMA"), (0x3C4, "GREEK SMALL LETTER TAU"),
   (0x3C5, "GREEK SMALL LETTER UPSILON"), (0x3C6, "GREEK SMALL LETTER PHI"),
   (0x3C7, "GREEK SMALL LETTER CHI"), (0x3C8, "GREEK SMALL LETTER PSI"),
   (0x3C9, "GREEK SMALL LETTER OMEGA"), (0x2010, "HYPHEN"), (0x2011, "NON-BREAKING HYPHEN"),
   (0x2012, "FIGURE DASH"), (0x2013, "EN DASH"), (0x2014, "EM DASH"), (0x2015, "HORIZONTAL BAR"),
   (0x2016, "DOUBLE VERTICAL LINE"), (0x2017, "DOUBLE LOW LINE"),
   (0x2018, "LEFT SINGLE QUOTATION MARK"), (0x2019, "RIGHT SINGLE QUOTATION MARK"),
   (0x201A, "SINGLE LOW-9 QUOTATION MARK"), (0x201B, "SINGLE HIGH-REVERSED-9 QUOTATION MARK"),
   (0x201C, "LEFT DOUBLE QUOTATION MARK"), (0x201D, "RIGHT DOUBLE QUOTATION MARK"),
   (0x201E, "DOUBLE LOW-9 QUOTATION MARK"), (0x201F, "DOUBLE HIGH-REVERSED-9 QUOTATION MARK"),
   (0x2020, "DAGGER"), (0x2021, "DOUBLE DAGGER"), (0x2022, "BULLET"),
   (0x2023, "TRIANGULAR BULLET"), (0x2024, "ONE DOT LEADER"), (0x2025, "TWO DOT LEADER"),
   (0x2026, "HORIZONTAL ELLIPSIS"), (0x2027, "HYPHENATION POINT"), (0x2028, "LINE SEPARATOR"),
   (0x2029, "PARAGRAPH SEPARATOR"), (0x2030, "PER MILLE SIGN"), (0x2031, "PER TEN THOUSAND SIGN"),
   (0x2032, "PRIME"), (0x2033, "DOUBLE PRIME"), (0x2034, "TRIPLE PRIME"),
   (0x2035, "REVERSED PRIME"), (0x2036, "REVERSED DOUBLE PRIME"),
   (0x2037, "REVERSED TRIPLE PRIME"), (0x2038, "CARET"),
   (0x2039, "SINGLE LEFT-POINTING ANGLE QUOTATION MARK"),
   (0x203A, "SINGLE RIGHT-POINTING ANGLE QUOTATION MARK"), (0x203B, "REFERENCE MARK"),
   (0x203C, "DOUBLE EXCLAMATION MARK"), (0x203D, "INTERROBANG"), (0x203E, "OVERLINE"),
   (0x203F, "UNDERTIE"), (0x2040, "CHARACTER TIE"), (0x2041, "CARET INSERTION POINT"),
   (0x2042, "ASTERISM"), (0x2043, "HYPHEN BULLET"), (0x2044, "FRACTION SLASH"),
   (0x2045, "LEFT SQUARE BRACKET WITH QUILL"), (0x2046, "RIGHT SQUARE BRACKET WITH QUILL"),
   (0x2047, "DOUBLE QUESTION MARK"), (0x2048, "QUESTION EXCLAMATION MARK"),
   (0x2049, "EXCLAMATION QUESTION MARK"), (0x204A, "TIRONIAN SIGN ET"),
   (0x204B, "REVERSED PILCROW SIGN"), (0x204C, "BLACK LEFTWARDS BULLET"),
   (0x204D, "BLACK RIGHTWARDS BULLET"), (0x204E, "LOW ASTERISK"), (0x204F, "REVERSED SEMICOLON"),
   (0x2050, "CLOSE UP"), (0x2051, "TWO ASTERISKS ALIGNED VERTICALLY"),
   (0x2052, "COMMERCIAL MINUS SIGN"), (0x2053, "SWUNG DASH"), (0x2054, "INVERTED UNDERTIE"),
   (0x2055, "FLOWER PUNCTUATION MARK"), (0x2056, "THREE DOT PUNCTUATION"),
   (0x2057, "QUADRUPLE PRIME"), (0x2058, "FOUR DOT PUNCTUATION"),
   (0x2059, "FIVE DOT PUNCTUATION"), (0x205A, "TWO DOT PUNCTUATION"), (0x205B, "FOUR DOT MARK"),
   (0x205C, "DOTTED CROSS"), (0x205D, "TRICOLON"), (0x205E, "VERTICAL FOUR DOTS"),
   (0x20A0, "EURO-CURRENCY SIGN"), (0x20A1, "COLON SIGN"), (0x20A2, "CRUZEIRO SIGN"),
   (0x20A3, "FRENCH FRANC SIGN"), (0x20A4, "LIRA SIGN"), (0x20A5, "MILL SIGN"),
   (0x20A6, "NAIRA SIGN"), (0x20A7, "PESETA SIGN"), (0x20A8, "RUPEE SIGN"), (0x20A9, "WON SIGN"),
   (0x20AA, "NEW SHEQEL SIGN"), (0x20AB, "DONG SIGN"), (0x20AC, "EURO SIGN"),
   (0x20AD, "KIP SIGN"), (0x20AE, "TUGRIK SIGN"), (0x20AF, "DRACHMA SIGN"),
   (0x20B0, "GERMAN PENNY SIGN"), (0x20B1, "PESO SIGN"), (0x20B2, "GUARANI SIGN"),
   (0x20B3, "AUSTRAL SIGN"), (0x20B4, "HRYVNIA SIGN"), (0x20B5, "CEDI SIGN"),
   (0x20B6, "LIVRE TOURNOIS SIGN"), (0x20B7, "SPESMILO SIGN"), (0x20B8, "TENGE SIGN"),
   (0x20B9, "INDIAN RUPEE SIGN"), (0x20BA, "TURKISH LIRA SIGN"), (0x20BB, "NORDIC MARK SIGN"),
   (0x20BC, "MANAT SIGN"), (0x20BD, "RUBLE SIGN"), (0x20BE, "LARI SIGN"),
   (0x20BF, "BITCOIN SIGN"), (0x20C0, "SOM SIGN"), (0x2190, "LEFTWARDS ARROW"),
   (0x2191, "UPWARDS ARROW"), (0x2192, "RIGHTWARDS ARROW"), (0x2193, "DOWNWARDS ARROW"),
   (0x2194, "LEFT RIGHT ARROW"), (0x2195, "UP DOWN ARROW"), (0x2196, "NORTH WEST ARROW"),
   (0x2197, "NORTH EAST ARROW"), (0x2198, "SOUTH EAST ARROW"), (0x2199, "SOUTH WEST ARROW"),
   (0x3000, "IDEOGRAPHIC SPACE"), (0x3001, "IDEOGRAPHIC COMMA"),
   (0x3002, "IDEOGRAPHIC FULL STOP"), (0x3003, "DITTO MARK"),
   (0xFEFF, "ZERO WIDTH NO-BREAK SPACE")]

/-- The code point of a name. Only what is not named by a rule may have small letters. -/
def named? (name : List Char) : Option Nat :=
  let after? := fun (start : String) =>
    if start.toList.isPrefixOf name then some (name.drop start.length) else none
  match after? "HANGUL SYLLABLE ", after? "CJK UNIFIED IDEOGRAPH-" with
  | some sounds, _ => syllable? sounds
  | none, some digits => ideograph? digits
  | none, none =>
    let wanted := String.ofList (name.map Char.toUpper)
    ((controlNames ++ names).find? fun entry => entry.2 == wanted).map Prod.fst

end ProtocolGate.Unicode
