import FlowGate.Text.Case

-- Letters that patterns take for the same when case does not matter: those with the same small letter, and a
-- few small letters that share their capital. And the names by which patterns can ask for characters.

namespace FlowGate.Pattern

open Text

def casedForms : Ranges := [
  (0x41, 0x5A), (0x61, 0x7A), (0xB5, 0xB5), (0xC0, 0xD6), (0xD8, 0xF6), (0xF8, 0x137),
  (0x139, 0x18C), (0x18E, 0x19A), (0x19C, 0x1A9), (0x1AC, 0x1B9), (0x1BC, 0x1BD), (0x1BF, 0x1BF),
  (0x1C4, 0x220), (0x222, 0x233), (0x23A, 0x254), (0x256, 0x257), (0x259, 0x259), (0x25B, 0x25C),
  (0x260, 0x261), (0x263, 0x263), (0x265, 0x266), (0x268, 0x26C), (0x26F, 0x26F), (0x271, 0x272),
  (0x275, 0x275), (0x27D, 0x27D), (0x280, 0x280), (0x282, 0x283), (0x287, 0x28C), (0x292, 0x292),
  (0x29D, 0x29E), (0x345, 0x345), (0x370, 0x373), (0x376, 0x377), (0x37B, 0x37D), (0x37F, 0x37F),
  (0x386, 0x386), (0x388, 0x38A), (0x38C, 0x38C), (0x38E, 0x3A1), (0x3A3, 0x3D1), (0x3D5, 0x3F5),
  (0x3F7, 0x3FB), (0x3FD, 0x481), (0x48A, 0x52F), (0x531, 0x556), (0x561, 0x587), (0x10A0, 0x10C5),
  (0x10C7, 0x10C7), (0x10CD, 0x10CD), (0x10D0, 0x10FA), (0x10FD, 0x10FF), (0x13A0, 0x13F5), (0x13F8, 0x13FD),
  (0x1C80, 0x1C88), (0x1C90, 0x1CBA), (0x1CBD, 0x1CBF), (0x1D79, 0x1D79), (0x1D7D, 0x1D7D), (0x1D8E, 0x1D8E),
  (0x1E00, 0x1E9B), (0x1E9E, 0x1E9E), (0x1EA0, 0x1F15), (0x1F18, 0x1F1D), (0x1F20, 0x1F45), (0x1F48, 0x1F4D),
  (0x1F50, 0x1F57), (0x1F59, 0x1F59), (0x1F5B, 0x1F5B), (0x1F5D, 0x1F5D), (0x1F5F, 0x1F7D), (0x1F80, 0x1FB4),
  (0x1FB6, 0x1FBC), (0x1FBE, 0x1FBE), (0x1FC2, 0x1FC4), (0x1FC6, 0x1FCC), (0x1FD0, 0x1FD3), (0x1FD6, 0x1FDB),
  (0x1FE0, 0x1FEC), (0x1FF2, 0x1FF4), (0x1FF6, 0x1FFC), (0x2126, 0x2126), (0x212A, 0x212B), (0x2132, 0x2132),
  (0x214E, 0x214E), (0x2160, 0x217F), (0x2183, 0x2184), (0x24B6, 0x24E9), (0x2C00, 0x2C70), (0x2C72, 0x2C73),
  (0x2C75, 0x2C76), (0x2C7E, 0x2CE3), (0x2CEB, 0x2CEE), (0x2CF2, 0x2CF3), (0x2D00, 0x2D25), (0x2D27, 0x2D27),
  (0x2D2D, 0x2D2D), (0xA640, 0xA66D), (0xA680, 0xA69B), (0xA722, 0xA72F), (0xA732, 0xA76F), (0xA779, 0xA787),
  (0xA78B, 0xA78D), (0xA790, 0xA794), (0xA796, 0xA7AE), (0xA7B0, 0xA7CA), (0xA7D0, 0xA7D1), (0xA7D6, 0xA7D9),
  (0xA7F5, 0xA7F6), (0xAB53, 0xAB53), (0xAB70, 0xABBF), (0xFB00, 0xFB06), (0xFB13, 0xFB17), (0xFF21, 0xFF3A),
  (0xFF41, 0xFF5A), (0x10400, 0x1044F), (0x104B0, 0x104D3), (0x104D8, 0x104FB), (0x10570, 0x1057A), (0x1057C, 0x1058A),
  (0x1058C, 0x10592), (0x10594, 0x10595), (0x10597, 0x105A1), (0x105A3, 0x105B1), (0x105B3, 0x105B9), (0x105BB, 0x105BC),
  (0x10C80, 0x10CB2), (0x10CC0, 0x10CF2), (0x118A0, 0x118DF), (0x16E40, 0x16E7F), (0x1E900, 0x1E943)
]

def sharedCapitals : List (List Nat) := [
  [0x69, 0x131], [0x73, 0x17F], [0xB5, 0x3BC], [0x345, 0x3B9, 0x1FBE], [0x390, 0x1FD3],
  [0x3B0, 0x1FE3], [0x3B2, 0x3D0], [0x3B5, 0x3F5], [0x3B8, 0x3D1], [0x3BA, 0x3F0],
  [0x3C0, 0x3D6], [0x3C1, 0x3F1], [0x3C2, 0x3C3], [0x3C6, 0x3D5], [0x432, 0x1C80],
  [0x434, 0x1C81], [0x43E, 0x1C82], [0x441, 0x1C83], [0x442, 0x1C84, 0x1C85], [0x44A, 0x1C86],
  [0x463, 0x1C87], [0x1C88, 0xA64B], [0x1E61, 0x1E9B], [0xFB05, 0xFB06]
]

-- The names of the characters up to U+00FF, in capital letters. Control characters have none of their own and go
-- by others, of which some are short.
def characterNames : List (Nat × String) := [
  (0x20, "SPACE"), (0x21, "EXCLAMATION MARK"), (0x22, "QUOTATION MARK"), (0x23, "NUMBER SIGN"),
  (0x24, "DOLLAR SIGN"), (0x25, "PERCENT SIGN"), (0x26, "AMPERSAND"), (0x27, "APOSTROPHE"),
  (0x28, "LEFT PARENTHESIS"), (0x29, "RIGHT PARENTHESIS"), (0x2A, "ASTERISK"), (0x2B, "PLUS SIGN"),
  (0x2C, "COMMA"), (0x2D, "HYPHEN-MINUS"), (0x2E, "FULL STOP"), (0x2F, "SOLIDUS"), (0x30, "DIGIT ZERO"),
  (0x31, "DIGIT ONE"), (0x32, "DIGIT TWO"), (0x33, "DIGIT THREE"), (0x34, "DIGIT FOUR"), (0x35, "DIGIT FIVE"),
  (0x36, "DIGIT SIX"), (0x37, "DIGIT SEVEN"), (0x38, "DIGIT EIGHT"), (0x39, "DIGIT NINE"), (0x3A, "COLON"),
  (0x3B, "SEMICOLON"), (0x3C, "LESS-THAN SIGN"), (0x3D, "EQUALS SIGN"), (0x3E, "GREATER-THAN SIGN"),
  (0x3F, "QUESTION MARK"), (0x40, "COMMERCIAL AT"), (0x41, "LATIN CAPITAL LETTER A"),
  (0x42, "LATIN CAPITAL LETTER B"), (0x43, "LATIN CAPITAL LETTER C"), (0x44, "LATIN CAPITAL LETTER D"),
  (0x45, "LATIN CAPITAL LETTER E"), (0x46, "LATIN CAPITAL LETTER F"), (0x47, "LATIN CAPITAL LETTER G"),
  (0x48, "LATIN CAPITAL LETTER H"), (0x49, "LATIN CAPITAL LETTER I"), (0x4A, "LATIN CAPITAL LETTER J"),
  (0x4B, "LATIN CAPITAL LETTER K"), (0x4C, "LATIN CAPITAL LETTER L"), (0x4D, "LATIN CAPITAL LETTER M"),
  (0x4E, "LATIN CAPITAL LETTER N"), (0x4F, "LATIN CAPITAL LETTER O"), (0x50, "LATIN CAPITAL LETTER P"),
  (0x51, "LATIN CAPITAL LETTER Q"), (0x52, "LATIN CAPITAL LETTER R"), (0x53, "LATIN CAPITAL LETTER S"),
  (0x54, "LATIN CAPITAL LETTER T"), (0x55, "LATIN CAPITAL LETTER U"), (0x56, "LATIN CAPITAL LETTER V"),
  (0x57, "LATIN CAPITAL LETTER W"), (0x58, "LATIN CAPITAL LETTER X"), (0x59, "LATIN CAPITAL LETTER Y"),
  (0x5A, "LATIN CAPITAL LETTER Z"), (0x5B, "LEFT SQUARE BRACKET"), (0x5C, "REVERSE SOLIDUS"),
  (0x5D, "RIGHT SQUARE BRACKET"), (0x5E, "CIRCUMFLEX ACCENT"), (0x5F, "LOW LINE"), (0x60, "GRAVE ACCENT"),
  (0x61, "LATIN SMALL LETTER A"), (0x62, "LATIN SMALL LETTER B"), (0x63, "LATIN SMALL LETTER C"),
  (0x64, "LATIN SMALL LETTER D"), (0x65, "LATIN SMALL LETTER E"), (0x66, "LATIN SMALL LETTER F"),
  (0x67, "LATIN SMALL LETTER G"), (0x68, "LATIN SMALL LETTER H"), (0x69, "LATIN SMALL LETTER I"),
  (0x6A, "LATIN SMALL LETTER J"), (0x6B, "LATIN SMALL LETTER K"), (0x6C, "LATIN SMALL LETTER L"),
  (0x6D, "LATIN SMALL LETTER M"), (0x6E, "LATIN SMALL LETTER N"), (0x6F, "LATIN SMALL LETTER O"),
  (0x70, "LATIN SMALL LETTER P"), (0x71, "LATIN SMALL LETTER Q"), (0x72, "LATIN SMALL LETTER R"),
  (0x73, "LATIN SMALL LETTER S"), (0x74, "LATIN SMALL LETTER T"), (0x75, "LATIN SMALL LETTER U"),
  (0x76, "LATIN SMALL LETTER V"), (0x77, "LATIN SMALL LETTER W"), (0x78, "LATIN SMALL LETTER X"),
  (0x79, "LATIN SMALL LETTER Y"), (0x7A, "LATIN SMALL LETTER Z"), (0x7B, "LEFT CURLY BRACKET"),
  (0x7C, "VERTICAL LINE"), (0x7D, "RIGHT CURLY BRACKET"), (0x7E, "TILDE"), (0xA0, "NO-BREAK SPACE"),
  (0xA1, "INVERTED EXCLAMATION MARK"), (0xA2, "CENT SIGN"), (0xA3, "POUND SIGN"), (0xA4, "CURRENCY SIGN"),
  (0xA5, "YEN SIGN"), (0xA6, "BROKEN BAR"), (0xA7, "SECTION SIGN"), (0xA8, "DIAERESIS"),
  (0xA9, "COPYRIGHT SIGN"), (0xAA, "FEMININE ORDINAL INDICATOR"),
  (0xAB, "LEFT-POINTING DOUBLE ANGLE QUOTATION MARK"), (0xAC, "NOT SIGN"), (0xAD, "SOFT HYPHEN"),
  (0xAE, "REGISTERED SIGN"), (0xAF, "MACRON"), (0xB0, "DEGREE SIGN"), (0xB1, "PLUS-MINUS SIGN"),
  (0xB2, "SUPERSCRIPT TWO"), (0xB3, "SUPERSCRIPT THREE"), (0xB4, "ACUTE ACCENT"), (0xB5, "MICRO SIGN"),
  (0xB6, "PILCROW SIGN"), (0xB7, "MIDDLE DOT"), (0xB8, "CEDILLA"), (0xB9, "SUPERSCRIPT ONE"),
  (0xBA, "MASCULINE ORDINAL INDICATOR"), (0xBB, "RIGHT-POINTING DOUBLE ANGLE QUOTATION MARK"),
  (0xBC, "VULGAR FRACTION ONE QUARTER"), (0xBD, "VULGAR FRACTION ONE HALF"),
  (0xBE, "VULGAR FRACTION THREE QUARTERS"), (0xBF, "INVERTED QUESTION MARK"),
  (0xC0, "LATIN CAPITAL LETTER A WITH GRAVE"), (0xC1, "LATIN CAPITAL LETTER A WITH ACUTE"),
  (0xC2, "LATIN CAPITAL LETTER A WITH CIRCUMFLEX"), (0xC3, "LATIN CAPITAL LETTER A WITH TILDE"),
  (0xC4, "LATIN CAPITAL LETTER A WITH DIAERESIS"), (0xC5, "LATIN CAPITAL LETTER A WITH RING ABOVE"),
  (0xC6, "LATIN CAPITAL LETTER AE"), (0xC7, "LATIN CAPITAL LETTER C WITH CEDILLA"),
  (0xC8, "LATIN CAPITAL LETTER E WITH GRAVE"), (0xC9, "LATIN CAPITAL LETTER E WITH ACUTE"),
  (0xCA, "LATIN CAPITAL LETTER E WITH CIRCUMFLEX"), (0xCB, "LATIN CAPITAL LETTER E WITH DIAERESIS"),
  (0xCC, "LATIN CAPITAL LETTER I WITH GRAVE"), (0xCD, "LATIN CAPITAL LETTER I WITH ACUTE"),
  (0xCE, "LATIN CAPITAL LETTER I WITH CIRCUMFLEX"), (0xCF, "LATIN CAPITAL LETTER I WITH DIAERESIS"),
  (0xD0, "LATIN CAPITAL LETTER ETH"), (0xD1, "LATIN CAPITAL LETTER N WITH TILDE"),
  (0xD2, "LATIN CAPITAL LETTER O WITH GRAVE"), (0xD3, "LATIN CAPITAL LETTER O WITH ACUTE"),
  (0xD4, "LATIN CAPITAL LETTER O WITH CIRCUMFLEX"), (0xD5, "LATIN CAPITAL LETTER O WITH TILDE"),
  (0xD6, "LATIN CAPITAL LETTER O WITH DIAERESIS"), (0xD7, "MULTIPLICATION SIGN"),
  (0xD8, "LATIN CAPITAL LETTER O WITH STROKE"), (0xD9, "LATIN CAPITAL LETTER U WITH GRAVE"),
  (0xDA, "LATIN CAPITAL LETTER U WITH ACUTE"), (0xDB, "LATIN CAPITAL LETTER U WITH CIRCUMFLEX"),
  (0xDC, "LATIN CAPITAL LETTER U WITH DIAERESIS"), (0xDD, "LATIN CAPITAL LETTER Y WITH ACUTE"),
  (0xDE, "LATIN CAPITAL LETTER THORN"), (0xDF, "LATIN SMALL LETTER SHARP S"),
  (0xE0, "LATIN SMALL LETTER A WITH GRAVE"), (0xE1, "LATIN SMALL LETTER A WITH ACUTE"),
  (0xE2, "LATIN SMALL LETTER A WITH CIRCUMFLEX"), (0xE3, "LATIN SMALL LETTER A WITH TILDE"),
  (0xE4, "LATIN SMALL LETTER A WITH DIAERESIS"), (0xE5, "LATIN SMALL LETTER A WITH RING ABOVE"),
  (0xE6, "LATIN SMALL LETTER AE"), (0xE7, "LATIN SMALL LETTER C WITH CEDILLA"),
  (0xE8, "LATIN SMALL LETTER E WITH GRAVE"), (0xE9, "LATIN SMALL LETTER E WITH ACUTE"),
  (0xEA, "LATIN SMALL LETTER E WITH CIRCUMFLEX"), (0xEB, "LATIN SMALL LETTER E WITH DIAERESIS"),
  (0xEC, "LATIN SMALL LETTER I WITH GRAVE"), (0xED, "LATIN SMALL LETTER I WITH ACUTE"),
  (0xEE, "LATIN SMALL LETTER I WITH CIRCUMFLEX"), (0xEF, "LATIN SMALL LETTER I WITH DIAERESIS"),
  (0xF0, "LATIN SMALL LETTER ETH"), (0xF1, "LATIN SMALL LETTER N WITH TILDE"),
  (0xF2, "LATIN SMALL LETTER O WITH GRAVE"), (0xF3, "LATIN SMALL LETTER O WITH ACUTE"),
  (0xF4, "LATIN SMALL LETTER O WITH CIRCUMFLEX"), (0xF5, "LATIN SMALL LETTER O WITH TILDE"),
  (0xF6, "LATIN SMALL LETTER O WITH DIAERESIS"), (0xF7, "DIVISION SIGN"),
  (0xF8, "LATIN SMALL LETTER O WITH STROKE"), (0xF9, "LATIN SMALL LETTER U WITH GRAVE"),
  (0xFA, "LATIN SMALL LETTER U WITH ACUTE"), (0xFB, "LATIN SMALL LETTER U WITH CIRCUMFLEX"),
  (0xFC, "LATIN SMALL LETTER U WITH DIAERESIS"), (0xFD, "LATIN SMALL LETTER Y WITH ACUTE"),
  (0xFE, "LATIN SMALL LETTER THORN"), (0xFF, "LATIN SMALL LETTER Y WITH DIAERESIS")
]

def otherNames : List (Nat × String) := [
  (0x0, "NULL"), (0x0, "NUL"), (0x1, "START OF HEADING"), (0x1, "SOH"), (0x2, "START OF TEXT"), (0x2, "STX"),
  (0x3, "END OF TEXT"), (0x3, "ETX"), (0x4, "END OF TRANSMISSION"), (0x4, "EOT"), (0x5, "ENQUIRY"),
  (0x5, "ENQ"), (0x6, "ACKNOWLEDGE"), (0x6, "ACK"), (0x7, "ALERT"), (0x7, "BEL"), (0x8, "BACKSPACE"),
  (0x8, "BS"), (0x9, "CHARACTER TABULATION"), (0x9, "HORIZONTAL TABULATION"), (0x9, "HT"), (0x9, "TAB"),
  (0xA, "LINE FEED"), (0xA, "NEW LINE"), (0xA, "END OF LINE"), (0xA, "LF"), (0xA, "NL"), (0xA, "EOL"),
  (0xB, "LINE TABULATION"), (0xB, "VERTICAL TABULATION"), (0xB, "VT"), (0xC, "FORM FEED"), (0xC, "FF"),
  (0xD, "CARRIAGE RETURN"), (0xD, "CR"), (0xE, "SHIFT OUT"), (0xE, "LOCKING-SHIFT ONE"), (0xE, "SO"),
  (0xF, "SHIFT IN"), (0xF, "LOCKING-SHIFT ZERO"), (0xF, "SI"), (0x10, "DATA LINK ESCAPE"), (0x10, "DLE"),
  (0x11, "DEVICE CONTROL ONE"), (0x11, "DC1"), (0x12, "DEVICE CONTROL TWO"), (0x12, "DC2"),
  (0x13, "DEVICE CONTROL THREE"), (0x13, "DC3"), (0x14, "DEVICE CONTROL FOUR"), (0x14, "DC4"),
  (0x15, "NEGATIVE ACKNOWLEDGE"), (0x15, "NAK"), (0x16, "SYNCHRONOUS IDLE"), (0x16, "SYN"),
  (0x17, "END OF TRANSMISSION BLOCK"), (0x17, "ETB"), (0x18, "CANCEL"), (0x18, "CAN"), (0x19, "END OF MEDIUM"),
  (0x19, "EOM"), (0x1A, "SUBSTITUTE"), (0x1A, "SUB"), (0x1B, "ESCAPE"), (0x1B, "ESC"),
  (0x1C, "INFORMATION SEPARATOR FOUR"), (0x1C, "FILE SEPARATOR"), (0x1C, "FS"),
  (0x1D, "INFORMATION SEPARATOR THREE"), (0x1D, "GROUP SEPARATOR"), (0x1D, "GS"),
  (0x1E, "INFORMATION SEPARATOR TWO"), (0x1E, "RECORD SEPARATOR"), (0x1E, "RS"),
  (0x1F, "INFORMATION SEPARATOR ONE"), (0x1F, "UNIT SEPARATOR"), (0x1F, "US"), (0x20, "SP"), (0x7F, "DELETE"),
  (0x7F, "DEL"), (0x80, "PADDING CHARACTER"), (0x80, "PAD"), (0x81, "HIGH OCTET PRESET"), (0x81, "HOP"),
  (0x82, "BREAK PERMITTED HERE"), (0x82, "BPH"), (0x83, "NO BREAK HERE"), (0x83, "NBH"), (0x84, "INDEX"),
  (0x84, "IND"), (0x85, "NEXT LINE"), (0x85, "NEL"), (0x86, "START OF SELECTED AREA"), (0x86, "SSA"),
  (0x87, "END OF SELECTED AREA"), (0x87, "ESA"), (0x88, "CHARACTER TABULATION SET"),
  (0x88, "HORIZONTAL TABULATION SET"), (0x88, "HTS"), (0x89, "CHARACTER TABULATION WITH JUSTIFICATION"),
  (0x89, "HORIZONTAL TABULATION WITH JUSTIFICATION"), (0x89, "HTJ"), (0x8A, "LINE TABULATION SET"),
  (0x8A, "VERTICAL TABULATION SET"), (0x8A, "VTS"), (0x8B, "PARTIAL LINE FORWARD"), (0x8B, "PARTIAL LINE DOWN"),
  (0x8B, "PLD"), (0x8C, "PARTIAL LINE BACKWARD"), (0x8C, "PARTIAL LINE UP"), (0x8C, "PLU"),
  (0x8D, "REVERSE LINE FEED"), (0x8D, "REVERSE INDEX"), (0x8D, "RI"), (0x8E, "SINGLE SHIFT TWO"),
  (0x8E, "SINGLE-SHIFT-2"), (0x8E, "SS2"), (0x8F, "SINGLE SHIFT THREE"), (0x8F, "SINGLE-SHIFT-3"),
  (0x8F, "SS3"), (0x90, "DEVICE CONTROL STRING"), (0x90, "DCS"), (0x91, "PRIVATE USE ONE"),
  (0x91, "PRIVATE USE-1"), (0x91, "PU1"), (0x92, "PRIVATE USE TWO"), (0x92, "PRIVATE USE-2"), (0x92, "PU2"),
  (0x93, "SET TRANSMIT STATE"), (0x93, "STS"), (0x94, "CANCEL CHARACTER"), (0x94, "CCH"),
  (0x95, "MESSAGE WAITING"), (0x95, "MW"), (0x96, "START OF GUARDED AREA"), (0x96, "START OF PROTECTED AREA"),
  (0x96, "SPA"), (0x97, "END OF GUARDED AREA"), (0x97, "END OF PROTECTED AREA"), (0x97, "EPA"),
  (0x98, "START OF STRING"), (0x98, "SOS"), (0x99, "SINGLE GRAPHIC CHARACTER INTRODUCER"), (0x99, "SGC"),
  (0x9A, "SINGLE CHARACTER INTRODUCER"), (0x9A, "SCI"), (0x9B, "CONTROL SEQUENCE INTRODUCER"), (0x9B, "CSI"),
  (0x9C, "STRING TERMINATOR"), (0x9C, "ST"), (0x9D, "OPERATING SYSTEM COMMAND"), (0x9D, "OSC"),
  (0x9E, "PRIVACY MESSAGE"), (0x9E, "PM"), (0x9F, "APPLICATION PROGRAM COMMAND"), (0x9F, "APC"), (0xA0, "NBSP"),
  (0xAD, "SHY")
]

-- The character with that name, in letters of either case. Characters beyond the tables are not known by name.
def named? (name : String) : Option Nat :=
  let capitals := String.ofList (name.toList.map Char.toUpper)
  ((characterNames ++ otherNames).find? fun entry => entry.2 == capitals).map (·.1)

inductive Casing
  | exact
  | ascii
  | unicode
deriving DecidableEq, Repr

namespace Casing

def isCased (casing : Casing) (n : Nat) : Bool :=
  match casing with
  | exact => false
  | ascii => n < 0x80 && (Char.ofNat n).isAlpha
  | unicode => casedForms.containsCode n

def fold (casing : Casing) (n : Nat) : Nat :=
  match casing with
  | exact => n
  | ascii => if n < 0x80 then (Char.ofNat n).toLower.toNat else n
  | unicode => if n < 0x80 then (Char.ofNat n).toLower.toNat else shiftCase lowerRuns n

def kin (casing : Casing) (n : Nat) : List Nat :=
  match casing with
  | unicode => (sharedCapitals.find? (·.contains n)).getD [n]
  | _ => [n]

def forms (casing : Casing) (n : Nat) : List Nat :=
  match casing with
  | exact => [n]
  | ascii => if n < 0x80 then [n, (Char.ofNat n).toUpper.toNat].filter fun m => fold ascii m == n else [n]
  | unicode =>
    let capitals := lowerRuns.filterMap fun run =>
      let m := ((n : Int) - run.shift).toNat
      if run.maps? m == some n then some m else none
    (n :: capitals).filter fun m => fold unicode m == n

-- All letters that count as the same as a small letter.
def alike (casing : Casing) (n : Nat) : List Nat := (kin casing n).flatMap (forms casing)

end Casing

end FlowGate.Pattern
