import ImportScan.Text.CodePoints

/-!
# Scripts

The scripts in which most program texts and file names are written, as the Unicode standard divides
its characters among them.

## Main definitions

* `Script` — the scripts.
* `Script.holds` — whether a character belongs to a script.
* `Script.named?` — the script with a name.
-/

namespace ImportScan

/-- The scripts. -/
inductive Script where
  /-- The Arabic script. -/
  | arabic
  /-- The Armenian script. -/
  | armenian
  /-- The Cyrillic script. -/
  | cyrillic
  /-- The Devanagari script. -/
  | devanagari
  /-- The Georgian script. -/
  | georgian
  /-- The Greek script. -/
  | greek
  /-- The Han script. -/
  | han
  /-- The Hangul script. -/
  | hangul
  /-- The Hebrew script. -/
  | hebrew
  /-- The Hiragana script. -/
  | hiragana
  /-- The Katakana script. -/
  | katakana
  /-- The Latin script. -/
  | latin
  /-- The Thai script. -/
  | thai
  deriving DecidableEq, Repr, Inhabited

namespace Script

/-! ### Tables -/

/-- The runs of the Arabic script. -/
def arabicRuns : CodePoints :=
  [(0x600, 0x604), (0x606, 0x60B), (0x60D, 0x61A), (0x61C, 0x61E), (0x620, 0x63F), (0x641, 0x64A),
   (0x656, 0x66F), (0x671, 0x6DC), (0x6DE, 0x6FF), (0x750, 0x77F), (0x870, 0x891), (0x897, 0x8E1),
   (0x8E3, 0x8FF), (0xFB50, 0xFBC2), (0xFBD3, 0xFD3D), (0xFD40, 0xFD8F), (0xFD92, 0xFDC7),
   (0xFDCF, 0xFDCF), (0xFDF0, 0xFDFF), (0xFE70, 0xFE74), (0xFE76, 0xFEFC), (0x10E60, 0x10E7E),
   (0x10EC2, 0x10EC7), (0x10EFA, 0x10EFF), (0x1EE00, 0x1EE03), (0x1EE05, 0x1EE1F),
   (0x1EE21, 0x1EE22), (0x1EE24, 0x1EE24), (0x1EE27, 0x1EE27), (0x1EE29, 0x1EE32),
   (0x1EE34, 0x1EE37), (0x1EE39, 0x1EE39), (0x1EE3B, 0x1EE3B), (0x1EE42, 0x1EE42),
   (0x1EE47, 0x1EE47), (0x1EE49, 0x1EE49), (0x1EE4B, 0x1EE4B), (0x1EE4D, 0x1EE4F),
   (0x1EE51, 0x1EE52), (0x1EE54, 0x1EE54), (0x1EE57, 0x1EE57), (0x1EE59, 0x1EE59),
   (0x1EE5B, 0x1EE5B), (0x1EE5D, 0x1EE5D), (0x1EE5F, 0x1EE5F), (0x1EE61, 0x1EE62),
   (0x1EE64, 0x1EE64), (0x1EE67, 0x1EE6A), (0x1EE6C, 0x1EE72), (0x1EE74, 0x1EE77),
   (0x1EE79, 0x1EE7C), (0x1EE7E, 0x1EE7E), (0x1EE80, 0x1EE89), (0x1EE8B, 0x1EE9B),
   (0x1EEA1, 0x1EEA3), (0x1EEA5, 0x1EEA9), (0x1EEAB, 0x1EEBB), (0x1EEF0, 0x1EEF1)]

/-- The runs of the Armenian script. -/
def armenianRuns : CodePoints :=
  [(0x531, 0x556), (0x559, 0x58A), (0x58D, 0x58F), (0xFB13, 0xFB17)]

/-- The runs of the Cyrillic script. -/
def cyrillicRuns : CodePoints :=
  [(0x400, 0x484), (0x487, 0x52F), (0x1C80, 0x1C8A), (0x1D2B, 0x1D2B), (0x1D78, 0x1D78),
   (0x2DE0, 0x2DFF), (0xA640, 0xA69F), (0xFE2E, 0xFE2F), (0x1E030, 0x1E06D), (0x1E08F, 0x1E08F)]

/-- The runs of the Devanagari script. -/
def devanagariRuns : CodePoints :=
  [(0x900, 0x950), (0x955, 0x963), (0x966, 0x97F), (0xA8E0, 0xA8FF), (0x11B00, 0x11B09)]

/-- The runs of the Georgian script. -/
def georgianRuns : CodePoints :=
  [(0x10A0, 0x10C5), (0x10C7, 0x10C7), (0x10CD, 0x10CD), (0x10D0, 0x10FA), (0x10FC, 0x10FF),
   (0x1C90, 0x1CBA), (0x1CBD, 0x1CBF), (0x2D00, 0x2D25), (0x2D27, 0x2D27), (0x2D2D, 0x2D2D)]

/-- The runs of the Greek script. -/
def greekRuns : CodePoints :=
  [(0x370, 0x373), (0x375, 0x377), (0x37A, 0x37D), (0x37F, 0x37F), (0x384, 0x384), (0x386, 0x386),
   (0x388, 0x38A), (0x38C, 0x38C), (0x38E, 0x3A1), (0x3A3, 0x3E1), (0x3F0, 0x3FF), (0x1D26, 0x1D2A),
   (0x1D5D, 0x1D61), (0x1D66, 0x1D6A), (0x1DBF, 0x1DBF), (0x1F00, 0x1F15), (0x1F18, 0x1F1D),
   (0x1F20, 0x1F45), (0x1F48, 0x1F4D), (0x1F50, 0x1F57), (0x1F59, 0x1F59), (0x1F5B, 0x1F5B),
   (0x1F5D, 0x1F5D), (0x1F5F, 0x1F7D), (0x1F80, 0x1FB4), (0x1FB6, 0x1FC4), (0x1FC6, 0x1FD3),
   (0x1FD6, 0x1FDB), (0x1FDD, 0x1FEF), (0x1FF2, 0x1FF4), (0x1FF6, 0x1FFE), (0x2126, 0x2126),
   (0xAB65, 0xAB65), (0x10140, 0x1018E), (0x101A0, 0x101A0), (0x1D200, 0x1D245)]

/-- The runs of the Han script. -/
def hanRuns : CodePoints :=
  [(0x2E80, 0x2E99), (0x2E9B, 0x2EF3), (0x2F00, 0x2FD5), (0x3005, 0x3005), (0x3007, 0x3007),
   (0x3021, 0x3029), (0x3038, 0x303B), (0x3400, 0x4DBF), (0x4E00, 0x9FFF), (0xF900, 0xFA6D),
   (0xFA70, 0xFAD9), (0x16FE2, 0x16FE3), (0x16FF0, 0x16FF6), (0x20000, 0x2A6DF), (0x2A700, 0x2B81D),
   (0x2B820, 0x2CEAD), (0x2CEB0, 0x2EBE0), (0x2EBF0, 0x2EE5D), (0x2F800, 0x2FA1D),
   (0x30000, 0x3134A), (0x31350, 0x33479)]

/-- The runs of the Hangul script. -/
def hangulRuns : CodePoints :=
  [(0x1100, 0x11FF), (0x302E, 0x302F), (0x3131, 0x318E), (0x3200, 0x321E), (0x3260, 0x327E),
   (0xA960, 0xA97C), (0xAC00, 0xD7A3), (0xD7B0, 0xD7C6), (0xD7CB, 0xD7FB), (0xFFA0, 0xFFBE),
   (0xFFC2, 0xFFC7), (0xFFCA, 0xFFCF), (0xFFD2, 0xFFD7), (0xFFDA, 0xFFDC)]

/-- The runs of the Hebrew script. -/
def hebrewRuns : CodePoints :=
  [(0x591, 0x5C7), (0x5D0, 0x5EA), (0x5EF, 0x5F4), (0xFB1D, 0xFB36), (0xFB38, 0xFB3C),
   (0xFB3E, 0xFB3E), (0xFB40, 0xFB41), (0xFB43, 0xFB44), (0xFB46, 0xFB4F)]

/-- The runs of the Hiragana script. -/
def hiraganaRuns : CodePoints :=
  [(0x3041, 0x3096), (0x309D, 0x309F), (0x1B001, 0x1B11F), (0x1B132, 0x1B132), (0x1B150, 0x1B152),
   (0x1F200, 0x1F200)]

/-- The runs of the Katakana script. -/
def katakanaRuns : CodePoints :=
  [(0x30A1, 0x30FA), (0x30FD, 0x30FF), (0x31F0, 0x31FF), (0x32D0, 0x32FE), (0x3300, 0x3357),
   (0xFF66, 0xFF6F), (0xFF71, 0xFF9D), (0x1AFF0, 0x1AFF3), (0x1AFF5, 0x1AFFB), (0x1AFFD, 0x1AFFE),
   (0x1B000, 0x1B000), (0x1B120, 0x1B122), (0x1B155, 0x1B155), (0x1B164, 0x1B167)]

/-- The runs of the Latin script. -/
def latinRuns : CodePoints :=
  [(0x41, 0x5A), (0x61, 0x7A), (0xAA, 0xAA), (0xBA, 0xBA), (0xC0, 0xD6), (0xD8, 0xF6),
   (0xF8, 0x2B8), (0x2E0, 0x2E4), (0x1D00, 0x1D25), (0x1D2C, 0x1D5C), (0x1D62, 0x1D65),
   (0x1D6B, 0x1D77), (0x1D79, 0x1DBE), (0x1E00, 0x1EFF), (0x2071, 0x2071), (0x207F, 0x207F),
   (0x2090, 0x209C), (0x212A, 0x212B), (0x2132, 0x2132), (0x214E, 0x214E), (0x2160, 0x2188),
   (0x2C60, 0x2C7F), (0xA722, 0xA787), (0xA78B, 0xA7DC), (0xA7F1, 0xA7FF), (0xAB30, 0xAB5A),
   (0xAB5C, 0xAB64), (0xAB66, 0xAB69), (0xFB00, 0xFB06), (0xFF21, 0xFF3A), (0xFF41, 0xFF5A),
   (0x10780, 0x10785), (0x10787, 0x107B0), (0x107B2, 0x107BA), (0x1DF00, 0x1DF1E),
   (0x1DF25, 0x1DF2A)]

/-- The runs of the Thai script. -/
def thaiRuns : CodePoints :=
  [(0xE01, 0xE3A), (0xE40, 0xE5B)]

/-- The runs of a script. -/
def runs : Script → CodePoints
  | arabic => arabicRuns
  | armenian => armenianRuns
  | cyrillic => cyrillicRuns
  | devanagari => devanagariRuns
  | georgian => georgianRuns
  | greek => greekRuns
  | han => hanRuns
  | hangul => hangulRuns
  | hebrew => hebrewRuns
  | hiragana => hiraganaRuns
  | katakana => katakanaRuns
  | latin => latinRuns
  | thai => thaiRuns

/-- Whether a character belongs to a script. -/
def holds (script : Script) (c : Char) : Bool := script.runs.holds c

/-! ### Names -/

/-- All scripts. -/
def all : List Script :=
  [.arabic, .armenian, .cyrillic, .devanagari, .georgian, .greek, .han, .hangul, .hebrew, .hiragana,
   .katakana, .latin, .thai]

/-- The short name of a script. -/
def code : Script → String
  | arabic => "arab"
  | armenian => "armn"
  | cyrillic => "cyrl"
  | devanagari => "deva"
  | georgian => "geor"
  | greek => "grek"
  | han => "hani"
  | hangul => "hang"
  | hebrew => "hebr"
  | hiragana => "hira"
  | katakana => "kana"
  | latin => "latn"
  | thai => "thai"

/-- The name of a script. -/
def title : Script → String
  | arabic => "arabic"
  | armenian => "armenian"
  | cyrillic => "cyrillic"
  | devanagari => "devanagari"
  | georgian => "georgian"
  | greek => "greek"
  | han => "han"
  | hangul => "hangul"
  | hebrew => "hebrew"
  | hiragana => "hiragana"
  | katakana => "katakana"
  | latin => "latin"
  | thai => "thai"

/-- The script with a name, in small letters. -/
def named? (name : String) : Option Script :=
  all.find? fun script => script.title == name || script.code == name

end Script

end ImportScan
