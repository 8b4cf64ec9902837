import ImportScan.Text.CellWidth

/-!
# The width of a text

The cells of a text are not always the cells of its characters: some characters join into one shape.
Which ones do is seen from right to left, since it is the character on the right that tells whether the
one on its left is joined to it.

## Main definitions

* `Joint` — what the text on the right asks of the character on its left.
* `Joint.step` — the cells that one more character adds.
* `measure`, `displayWidth` — the number of cells of a text.
-/

namespace ImportScan

/-! ### Emoji -/

/-- The runs of emoji that are shown as such. -/
def emojiRuns : CodePoints :=
  [(0x231A, 0x231B), (0x23E9, 0x23EC), (0x23F0, 0x23F0), (0x23F3, 0x23F3), (0x25FD, 0x25FE),
   (0x2614, 0x2615), (0x2648, 0x2653), (0x267F, 0x267F), (0x2693, 0x2693), (0x26A1, 0x26A1),
   (0x26AA, 0x26AB), (0x26BD, 0x26BE), (0x26C4, 0x26C5), (0x26CE, 0x26CE), (0x26D4, 0x26D4),
   (0x26EA, 0x26EA), (0x26F2, 0x26F3), (0x26F5, 0x26F5), (0x26FA, 0x26FA), (0x26FD, 0x26FD),
   (0x2705, 0x2705), (0x270A, 0x270B), (0x2728, 0x2728), (0x274C, 0x274C), (0x274E, 0x274E),
   (0x2753, 0x2755), (0x2757, 0x2757), (0x2795, 0x2797), (0x27B0, 0x27B0), (0x27BF, 0x27BF),
   (0x2B1B, 0x2B1C), (0x2B50, 0x2B50), (0x2B55, 0x2B55), (0x1F004, 0x1F004), (0x1F0CF, 0x1F0CF),
   (0x1F18E, 0x1F18E), (0x1F191, 0x1F19A), (0x1F201, 0x1F201), (0x1F21A, 0x1F21A),
   (0x1F22F, 0x1F22F), (0x1F232, 0x1F236), (0x1F238, 0x1F23A), (0x1F250, 0x1F251),
   (0x1F300, 0x1F320), (0x1F32D, 0x1F335), (0x1F337, 0x1F37C), (0x1F37E, 0x1F393),
   (0x1F3A0, 0x1F3CA), (0x1F3CF, 0x1F3D3), (0x1F3E0, 0x1F3F0), (0x1F3F4, 0x1F3F4),
   (0x1F3F8, 0x1F3FA), (0x1F400, 0x1F43E), (0x1F440, 0x1F440), (0x1F442, 0x1F4FC),
   (0x1F4FF, 0x1F53D), (0x1F54B, 0x1F54E), (0x1F550, 0x1F567), (0x1F57A, 0x1F57A),
   (0x1F595, 0x1F596), (0x1F5A4, 0x1F5A4), (0x1F5FB, 0x1F64F), (0x1F680, 0x1F6C5),
   (0x1F6CC, 0x1F6CC), (0x1F6D0, 0x1F6D2), (0x1F6D5, 0x1F6D8), (0x1F6DC, 0x1F6DF),
   (0x1F6EB, 0x1F6EC), (0x1F6F4, 0x1F6FC), (0x1F7E0, 0x1F7EB), (0x1F7F0, 0x1F7F0),
   (0x1F90C, 0x1F93A), (0x1F93C, 0x1F945), (0x1F947, 0x1F9FF), (0x1FA70, 0x1FA7C),
   (0x1FA80, 0x1FA8A), (0x1FA8E, 0x1FAC6), (0x1FAC8, 0x1FAC8), (0x1FACD, 0x1FADC),
   (0x1FADF, 0x1FAEA), (0x1FAEF, 0x1FAF8)]

/-- The runs of characters that are emoji only when a selector asks for it. -/
def textEmojiRuns : CodePoints :=
  [(0x23, 0x23), (0x2A, 0x2A), (0x30, 0x39), (0xA9, 0xA9), (0xAE, 0xAE), (0x203C, 0x203C),
   (0x2049, 0x2049), (0x2122, 0x2122), (0x2139, 0x2139), (0x2194, 0x2199), (0x21A9, 0x21AA),
   (0x2328, 0x2328), (0x23CF, 0x23CF), (0x23ED, 0x23EF), (0x23F1, 0x23F2), (0x23F8, 0x23FA),
   (0x24C2, 0x24C2), (0x25AA, 0x25AB), (0x25B6, 0x25B6), (0x25C0, 0x25C0), (0x25FB, 0x25FC),
   (0x2600, 0x2604), (0x260E, 0x260E), (0x2611, 0x2611), (0x2618, 0x2618), (0x261D, 0x261D),
   (0x2620, 0x2620), (0x2622, 0x2623), (0x2626, 0x2626), (0x262A, 0x262A), (0x262E, 0x262F),
   (0x2638, 0x263A), (0x2640, 0x2640), (0x2642, 0x2642), (0x265F, 0x2660), (0x2663, 0x2663),
   (0x2665, 0x2666), (0x2668, 0x2668), (0x267B, 0x267B), (0x267E, 0x267E), (0x2692, 0x2692),
   (0x2694, 0x2697), (0x2699, 0x2699), (0x269B, 0x269C), (0x26A0, 0x26A0), (0x26A7, 0x26A7),
   (0x26B0, 0x26B1), (0x26C8, 0x26C8), (0x26CF, 0x26CF), (0x26D1, 0x26D1), (0x26D3, 0x26D3),
   (0x26E9, 0x26E9), (0x26F0, 0x26F1), (0x26F4, 0x26F4), (0x26F7, 0x26F9), (0x2702, 0x2702),
   (0x2708, 0x2709), (0x270C, 0x270D), (0x270F, 0x270F), (0x2712, 0x2712), (0x2714, 0x2714),
   (0x2716, 0x2716), (0x271D, 0x271D), (0x2721, 0x2721), (0x2733, 0x2734), (0x2744, 0x2744),
   (0x2747, 0x2747), (0x2763, 0x2764), (0x27A1, 0x27A1), (0x2934, 0x2935), (0x2B05, 0x2B07),
   (0x3030, 0x3030), (0x303D, 0x303D), (0x3297, 0x3297), (0x3299, 0x3299), (0x1F170, 0x1F171),
   (0x1F17E, 0x1F17F), (0x1F202, 0x1F202), (0x1F237, 0x1F237), (0x1F321, 0x1F321),
   (0x1F324, 0x1F32C), (0x1F336, 0x1F336), (0x1F37D, 0x1F37D), (0x1F396, 0x1F397),
   (0x1F399, 0x1F39B), (0x1F39E, 0x1F39F), (0x1F3CB, 0x1F3CE), (0x1F3D4, 0x1F3DF),
   (0x1F3F3, 0x1F3F3), (0x1F3F5, 0x1F3F5), (0x1F3F7, 0x1F3F7), (0x1F43F, 0x1F43F),
   (0x1F441, 0x1F441), (0x1F4FD, 0x1F4FD), (0x1F549, 0x1F54A), (0x1F56F, 0x1F570),
   (0x1F573, 0x1F579), (0x1F587, 0x1F587), (0x1F58A, 0x1F58D), (0x1F590, 0x1F590),
   (0x1F5A5, 0x1F5A5), (0x1F5A8, 0x1F5A8), (0x1F5B1, 0x1F5B2), (0x1F5BC, 0x1F5BC),
   (0x1F5C2, 0x1F5C4), (0x1F5D1, 0x1F5D3), (0x1F5DC, 0x1F5DE), (0x1F5E1, 0x1F5E1),
   (0x1F5E3, 0x1F5E3), (0x1F5E8, 0x1F5E8), (0x1F5EF, 0x1F5EF), (0x1F5F3, 0x1F5F3),
   (0x1F5FA, 0x1F5FA), (0x1F6CB, 0x1F6CB), (0x1F6CD, 0x1F6CF), (0x1F6E0, 0x1F6E5),
   (0x1F6E9, 0x1F6E9), (0x1F6F0, 0x1F6F0), (0x1F6F3, 0x1F6F3)]

/-- The runs of emoji that are text when a selector asks for it. -/
def textStyleRuns : CodePoints :=
  [(0x231A, 0x231B), (0x23E9, 0x23EA), (0x23F3, 0x23F3), (0x25FD, 0x25FE), (0x2614, 0x2615),
   (0x2648, 0x2653), (0x267F, 0x267F), (0x2693, 0x2693), (0x26A1, 0x26A1), (0x26AA, 0x26AB),
   (0x26BD, 0x26BE), (0x26C4, 0x26C5), (0x26D4, 0x26D4), (0x26EA, 0x26EA), (0x26F2, 0x26F3),
   (0x26F5, 0x26F5), (0x26FA, 0x26FA), (0x26FD, 0x26FD), (0x2753, 0x2753), (0x2757, 0x2757),
   (0x2B1B, 0x2B1C), (0x2B50, 0x2B50), (0x2B55, 0x2B55), (0x1F004, 0x1F004), (0x1F30D, 0x1F30F),
   (0x1F315, 0x1F315), (0x1F31C, 0x1F31C), (0x1F378, 0x1F378), (0x1F393, 0x1F393),
   (0x1F3A7, 0x1F3A7), (0x1F3AC, 0x1F3AE), (0x1F3C2, 0x1F3C2), (0x1F3C4, 0x1F3C4),
   (0x1F3C6, 0x1F3C6), (0x1F3CA, 0x1F3CA), (0x1F3E0, 0x1F3E0), (0x1F3ED, 0x1F3ED),
   (0x1F408, 0x1F408), (0x1F415, 0x1F415), (0x1F41F, 0x1F41F), (0x1F426, 0x1F426),
   (0x1F442, 0x1F442), (0x1F446, 0x1F449), (0x1F44D, 0x1F44E), (0x1F453, 0x1F453),
   (0x1F46A, 0x1F46A), (0x1F47D, 0x1F47D), (0x1F4A3, 0x1F4A3), (0x1F4B0, 0x1F4B0),
   (0x1F4B3, 0x1F4B3), (0x1F4BB, 0x1F4BB), (0x1F4BF, 0x1F4BF), (0x1F4CB, 0x1F4CB),
   (0x1F4DA, 0x1F4DA), (0x1F4DF, 0x1F4DF), (0x1F4E4, 0x1F4E6), (0x1F4EA, 0x1F4ED),
   (0x1F4F7, 0x1F4F7), (0x1F4F9, 0x1F4FB), (0x1F508, 0x1F508), (0x1F50D, 0x1F50D),
   (0x1F512, 0x1F513), (0x1F550, 0x1F567), (0x1F610, 0x1F610), (0x1F687, 0x1F687),
   (0x1F68D, 0x1F68D), (0x1F691, 0x1F691), (0x1F694, 0x1F694), (0x1F698, 0x1F698),
   (0x1F6AD, 0x1F6AD), (0x1F6B2, 0x1F6B2), (0x1F6B9, 0x1F6BA), (0x1F6BC, 0x1F6BC)]

/-- The runs of emoji that take a skin tone. -/
def modifierBaseRuns : CodePoints :=
  [(0x261D, 0x261D), (0x26F9, 0x26F9), (0x270A, 0x270D), (0x1F385, 0x1F385), (0x1F3C2, 0x1F3C4),
   (0x1F3C7, 0x1F3C7), (0x1F3CA, 0x1F3CC), (0x1F442, 0x1F443), (0x1F446, 0x1F450),
   (0x1F466, 0x1F478), (0x1F47C, 0x1F47C), (0x1F481, 0x1F483), (0x1F485, 0x1F487),
   (0x1F48F, 0x1F48F), (0x1F491, 0x1F491), (0x1F4AA, 0x1F4AA), (0x1F574, 0x1F575),
   (0x1F57A, 0x1F57A), (0x1F590, 0x1F590), (0x1F595, 0x1F596), (0x1F645, 0x1F647),
   (0x1F64B, 0x1F64F), (0x1F6A3, 0x1F6A3), (0x1F6B4, 0x1F6B6), (0x1F6C0, 0x1F6C0),
   (0x1F6CC, 0x1F6CC), (0x1F90C, 0x1F90C), (0x1F90F, 0x1F90F), (0x1F918, 0x1F91F),
   (0x1F926, 0x1F926), (0x1F930, 0x1F939), (0x1F93C, 0x1F93E), (0x1F977, 0x1F977),
   (0x1F9B5, 0x1F9B6), (0x1F9B8, 0x1F9B9), (0x1F9BB, 0x1F9BB), (0x1F9CD, 0x1F9CF),
   (0x1F9D1, 0x1F9DD), (0x1FAC3, 0x1FAC5), (0x1FAF0, 0x1FAF8)]

/-- Whether a character is an emoji by itself. -/
def isEmoji (c : Char) : Bool := emojiRuns.holds c

/-- Whether a selector can make an emoji of a character. -/
def canBeEmoji (c : Char) : Bool := textEmojiRuns.holds c || isEmoji c

/-- Whether a selector can make text of an emoji. -/
def canBeText (c : Char) : Bool := textStyleRuns.holds c

/-- Whether a character is a skin tone. -/
def isSkinTone (c : Char) : Bool := 0x1F3FB ≤ c.toNat && c.toNat ≤ 0x1F3FF

/-- Whether a character is a regional indicator, two of which make a flag. -/
def isIndicator (c : Char) : Bool := 0x1F1E6 ≤ c.toNat && c.toNat ≤ 0x1F1FF

/-- Whether a character is a letter of a tag. -/
def isTagLetter (c : Char) : Bool := 0xE0061 ≤ c.toNat && c.toNat ≤ 0xE007A

/-- Whether a character is a digit of a tag. -/
def isTagDigit (c : Char) : Bool := 0xE0030 ≤ c.toNat && c.toNat ≤ 0xE0039

/-! ### Ligatures -/

/-- Whether a character is the first letter of an Arabic ligature with an alef. -/
def isLam (c : Char) : Bool :=
  c.toNat = 0x644 || (0x6B5 ≤ c.toNat && c.toNat ≤ 0x6B8) || c.toNat = 0x76A || c.toNat = 0x8A6 ||
    c.toNat = 0x8C7

/-- The runs of the alefs, which end an Arabic ligature. -/
def alefRuns : CodePoints :=
  [(0x622, 0x623), (0x625, 0x625), (0x627, 0x627), (0x671, 0x673), (0x675, 0x675), (0x773, 0x774),
   (0x870, 0x882)]

/-- The runs of characters without a cell that still keep the letters on both sides apart. -/
def separatingRuns : CodePoints :=
  [(0x605, 0x605), (0x890, 0x891), (0x8E2, 0x8E2), (0x9BE, 0x9BE), (0x9D7, 0x9D7), (0xB3E, 0xB3E),
   (0xB57, 0xB57), (0xBBE, 0xBBE), (0xBD7, 0xBD7), (0xCC0, 0xCC0), (0xCC2, 0xCC2), (0xCC7, 0xCC8),
   (0xCCA, 0xCCB), (0xCD5, 0xCD6), (0xD3E, 0xD3E), (0xD57, 0xD57), (0xDCF, 0xDCF), (0xDDF, 0xDDF),
   (0x1160, 0x11FF), (0x1715, 0x1715), (0x1734, 0x1734), (0x180E, 0x180E), (0x1B35, 0x1B35),
   (0x1B3B, 0x1B3B), (0x1B3D, 0x1B3D), (0x1B43, 0x1B44), (0x1BAA, 0x1BAA), (0x1BF2, 0x1BF3),
   (0x200C, 0x200D), (0x2065, 0x2069), (0x302E, 0x302F), (0x3164, 0x3164), (0xA8FA, 0xA8FA),
   (0xA953, 0xA953), (0xA9C0, 0xA9C0), (0xD7B0, 0xD7C6), (0xD7CB, 0xD7FB), (0xFFA0, 0xFFA0),
   (0xFFF0, 0xFFF8), (0x111C0, 0x111C0), (0x11235, 0x11235), (0x1133E, 0x1133E),
   (0x1134D, 0x1134D), (0x11357, 0x11357), (0x113B8, 0x113B8), (0x113C2, 0x113C2),
   (0x113C5, 0x113C5), (0x113C7, 0x113C9), (0x113CF, 0x113CF), (0x114B0, 0x114B0),
   (0x114BD, 0x114BD), (0x115AF, 0x115AF), (0x116B6, 0x116B6), (0x11930, 0x11930),
   (0x1193D, 0x1193D), (0x11F41, 0x11F41), (0x16FF0, 0x16FF1), (0x1D165, 0x1D166),
   (0x1D16D, 0x1D172), (0xE0000, 0xE0000), (0xE0002, 0xE001F), (0xE0080, 0xE00FF),
   (0xE01F0, 0xE0FFF)]

/-- Whether a character may stand inside an Arabic ligature. -/
def isTransparent (c : Char) : Bool := cellWidth c == 0 && !separatingRuns.holds c

/-- The runs of the marks that may stand inside the other ligatures. -/
def passingRuns : CodePoints :=
  [(0x34F, 0x34F), (0x17B4, 0x17B5), (0x180B, 0x180D), (0x180F, 0x180F), (0xFE00, 0xFE0F),
   (0xE0100, 0xE01EF)]

/-- The runs of the Khmer letters that can stand below another one. -/
def khmerRuns : CodePoints :=
  [(0x1780, 0x1782), (0x1784, 0x1787), (0x1789, 0x178C), (0x178E, 0x1793), (0x1795, 0x1798),
   (0x179B, 0x179D), (0x17A0, 0x17A0), (0x17A2, 0x17A2), (0x17A7, 0x17A7), (0x17AB, 0x17AC),
   (0x17AF, 0x17AF)]

/-- Whether a character is a Tifinagh consonant. -/
def isTifinaghConsonant (c : Char) : Bool :=
  (0x2D31 ≤ c.toNat && c.toNat ≤ 0x2D65) || c.toNat = 0x2D6F

/-! ### What stands on the right -/

/-- What the text on the right begins with, as far as the character on its left could join it.  The
flag of a letter tells whether a joiner stands before it. -/
inductive Joint where
  /-- Nothing to join. -/
  | free
  /-- A line feed. -/
  | lineFeed
  /-- A skin tone. -/
  | skinTone
  /-- A regional indicator that is the last one. -/
  | indicator
  /-- Some regional indicators. -/
  | indicators
  /-- An emoji. -/
  | emoji
  /-- A joiner and an emoji. -/
  | joinedEmoji
  /-- A keycap, a joiner and an emoji. -/
  | joinedKeycap
  /-- Some regional indicators, a joiner and an emoji. -/
  | joinedIndicators (even : Bool)
  /-- The first regional indicator before a joiner and an emoji. -/
  | joinedIndicator
  /-- The letters of a tag up to its end, a joiner and an emoji. -/
  | joinedTagLetters (count : Nat)
  /-- The digits of a tag before at least one more, a joiner and an emoji. -/
  | joinedTagDigits (count : Nat)
  /-- An alef. -/
  | alef
  /-- The Hebrew letter lamed. -/
  | lamed (joined : Bool)
  /-- The Old Turkic letter orkhon i. -/
  | orkhon (joined : Bool)
  /-- The Buginese letter ya. -/
  | ya (joined : Bool)
  /-- The Buginese vowel sign i before a joined ya. -/
  | signYa
  /-- A Tifinagh consonant. -/
  | tifinagh (joined : Bool)
  /-- The Tifinagh consonant joiner. -/
  | tifinaghJoiner
  /-- A Lisu tone letter that ends a pair. -/
  | lisuTone
  /-- A Khmer letter that can stand below another one. -/
  | khmer
  /-- The Kirat Rai vowel sign e. -/
  | kiratRaiE
  /-- The Kirat Rai vowel sign ai. -/
  | kiratRaiAi
  deriving DecidableEq, Repr, Inhabited

/-- A selector: whether the character on its left is to be shown as text or as an emoji. -/
inductive Selector where
  /-- As text. -/
  | text
  /-- As an emoji. -/
  | emoji
  deriving DecidableEq, Repr, Inhabited

namespace Joint

/-- Whether a ligature could end here. -/
def isLigature : Joint → Bool
  | alef | lamed _ | orkhon _ | ya _ | signYa | tifinagh _ | tifinaghJoiner | lisuTone | khmer => true
  | _ => false

/-- Whether marks may stand between the parts of the ligature. -/
def letsMarksPass (j : Joint) : Bool := j.isLigature && j != alef

/-- Whether a joiner and an emoji stand here. -/
def isJoinedEmoji : Joint → Bool
  | joinedEmoji | joinedKeycap => true
  | _ => false

/-- The same with a joiner before it. -/
def join : Joint → Joint
  | lamed _ => lamed true
  | orkhon _ => orkhon true
  | ya _ => ya true
  | tifinagh _ => tifinagh true
  | j => j

/-- What remains when a selector stands here. -/
def select (s : Selector) (j : Joint) : Joint :=
  if j.isLigature || (s == .emoji && j.isJoinedEmoji) then j else free

/-- What remains when the selector had no use. -/
def unselect (j : Joint) : Joint := if j.isLigature then j else free

/-- What a character asks of the one on its left when nothing joins it to its right. -/
def ofChar (c : Char) : Joint :=
  if alefRuns.holds c then alef
  else if khmerRuns.holds c then khmer
  else if isTifinaghConsonant c then tifinagh false
  else if isIndicator c then indicator
  else if isSkinTone c then skinTone
  else if isEmoji c then emoji
  else
    match c.toNat with
    | 0x5DC => lamed false
    | 0x1A10 => ya false
    | 0xA4FC => lisuTone
    | 0xA4FD => lisuTone
    | 0x10C03 => orkhon false
    | 0x16D67 => kiratRaiE
    | 0x16D68 => kiratRaiAi
    | _ => free

/-- The cells that a character adds or saves when it joins its right, and what it asks of its left. -/
def joined? (j : Joint) (c : Char) : Option (Int × Joint) :=
  match j, c.toNat with
  | lamed true, 0x5D0 => some (0, free)
  | orkhon true, 0x10C32 => some (0, free)
  | ya true, 0x1A17 => some (0, signYa)
  | signYa, 0x1A15 => some (0, free)
  | tifinagh _, 0x2D7F => some (1, tifinaghJoiner)
  | khmer, 0x17D2 => some (-1, free)
  | kiratRaiE, 0x16D63 => some (0, free)
  | kiratRaiE, 0x16D67 => some (0, kiratRaiAi)
  | kiratRaiE, 0x16D68 => some (1, kiratRaiE)
  | kiratRaiE, 0x16D69 => some (0, free)
  | kiratRaiAi, 0x16D63 => some (0, free)
  | emoji, 0x200D => some (0, joinedEmoji)
  | skinTone, 0x200D => some (0, joinedEmoji)
  | indicators, 0x200D => some (0, joinedEmoji)
  | joinedIndicators _, 0x200D => some (0, joinedEmoji)
  | joinedEmoji, 0x20E3 => some (0, joinedKeycap)
  | joinedEmoji, 0xE007F => some (0, joinedTagLetters 0)
  | joinedTagLetters n, 0x1F3F4 => if 3 ≤ n then some (0, emoji) else none
  | joinedTagDigits n, 0x1F3F4 => if n = 3 then some (0, emoji) else none
  | alef, _ =>
    if isLam c then some (0, free) else if isTransparent c then some (0, alef) else none
  | tifinagh true, _ => if isTifinaghConsonant c then some (0, free) else none
  | tifinaghJoiner, _ => if isTifinaghConsonant c then some (-1, free) else none
  | lisuTone, n => if 0xA4F8 ≤ n && n ≤ 0xA4FB then some (0, free) else none
  | skinTone, _ => if modifierBaseRuns.holds c then some (0, emoji) else none
  | indicator, _ => if isIndicator c then some (1, indicators) else none
  | indicators, _ => if isIndicator c then some (1, indicators) else none
  | joinedIndicator, _ => if isIndicator c then some (-1, joinedIndicators true) else none
  | joinedIndicators true, _ => if isIndicator c then some (3, joinedIndicators false) else none
  | joinedIndicators false, _ => if isIndicator c then some (-1, joinedIndicators true) else none
  | joinedTagLetters n, _ =>
    if isTagLetter c && n < 6 then some (0, joinedTagLetters (n + 1))
    else if isTagDigit c && n < 5 then some (0, joinedTagDigits 1)
    else none
  | joinedTagDigits n, _ =>
    if isTagDigit c && n < 3 then some (0, joinedTagDigits (n + 1)) else none
  | joinedEmoji, _ =>
    if isIndicator c then some (1, joinedIndicator)
    else if isSkinTone c then some (0, skinTone)
    else if isEmoji c then some (0, emoji)
    else none
  | _, _ => none

end Joint

/-! ### Texts -/

/-- What the text on the right asks of the character on its left. -/
structure Demand where
  /-- What it begins with, behind any selector. -/
  joint : Joint
  /-- The selector before that, if any. -/
  selector : Option Selector
  deriving DecidableEq, Repr, Inhabited

namespace Demand

/-- Nothing is asked. -/
def none : Demand := ⟨.free, Option.none⟩

/-- What a character does when no selector changes it. -/
def stepPlain (j : Joint) (c : Char) : Int × Demand :=
  if c = '\n' then (1, ⟨.lineFeed, Option.none⟩)
  else if c = '\r' && j = .lineFeed then (0, none)
  else if c.toNat ≤ 0xA0 then (1, none)
  else if c.toNat = 0xFE0F then (0, ⟨j.select .emoji, some .emoji⟩)
  else if c.toNat = 0xFE0E then (0, ⟨j.select .text, some .text⟩)
  else if j.letsMarksPass && c.toNat = 0x200D then (0, ⟨j.join, Option.none⟩)
  else if j.letsMarksPass && passingRuns.holds c then (0, ⟨j, Option.none⟩)
  else
    match j.joined? c with
    | some (cells, k) => (cells, ⟨k, Option.none⟩)
    | Option.none => (cellWidth c, ⟨.ofChar c, Option.none⟩)

/-- The cells that one more character on the left adds, and what it asks in turn. -/
def step (d : Demand) (c : Char) : Int × Demand :=
  match d.selector with
  | some .emoji =>
    if canBeEmoji c then (if d.joint.isJoinedEmoji then 0 else 2, ⟨.emoji, Option.none⟩)
    else stepPlain d.joint.unselect c
  | some .text => if canBeText c then (1, none) else stepPlain d.joint.unselect c
  | Option.none => stepPlain d.joint c

end Demand

/-- Add one more character on the left. -/
def widen (c : Char) (right : Int × Demand) : Int × Demand :=
  let (cells, d) := right.2.step c
  (right.1 + cells, d)

/-- The cells of a text and what it asks of a character on its left. -/
def measure (cs : List Char) : Int × Demand := cs.foldr widen (0, .none)

/-- The number of cells of a text. -/
def displayWidth (cs : List Char) : Nat := (measure cs).1.toNat

end ImportScan
