import GraphLedger.Unicode.Property
import GraphLedger.Unicode.Script

/-!
# Where texts divide

The classes of characters in version 16 of Unicode by which a text divides into graphemes, words and
sentences.
-/

namespace GraphLedger.Unicode

open Category Property

namespace Segment

/-! ### Tables -/

/-- The line feed. -/
def lineFeed : CharSet := ⟨#[(0xA, 0xA)]⟩

/-- The carriage return. -/
def carriageReturn : CharSet := ⟨#[(0xD, 0xD)]⟩

/-- The joiner that takes no room. -/
def zeroWidthJoiner : CharSet := ⟨#[(0x200D, 0x200D)]⟩

/-- Consonants that begin a syllable of Hangul. -/
def leadingConsonant : CharSet := ⟨#[(0x1100, 0x115F), (0xA960, 0xA97C)]⟩

/-- Vowels of a syllable of Hangul and what behaves like them. -/
def vowel : CharSet := ⟨#[
  (0x1160, 0x11A7), (0xD7B0, 0xD7C6), (0x16D63, 0x16D63), (0x16D67, 0x16D6A)]⟩

/-- Consonants that end a syllable of Hangul. -/
def trailingConsonant : CharSet := ⟨#[(0x11A8, 0x11FF), (0xD7CB, 0xD7FB)]⟩

/-- Syllables of Hangul. -/
def syllable : CharSet := ⟨#[(0xAC00, 0xD7A3)]⟩

/-- Syllables of Hangul that end with a vowel. -/
def openSyllable : CharSet := ⟨#[
  (0xAC00, 0xAC00), (0xAC1C, 0xAC1C), (0xAC38, 0xAC38), (0xAC54, 0xAC54), (0xAC70, 0xAC70),
  (0xAC8C, 0xAC8C), (0xACA8, 0xACA8), (0xACC4, 0xACC4), (0xACE0, 0xACE0), (0xACFC, 0xACFC),
  (0xAD18, 0xAD18), (0xAD34, 0xAD34), (0xAD50, 0xAD50), (0xAD6C, 0xAD6C), (0xAD88, 0xAD88),
  (0xADA4, 0xADA4), (0xADC0, 0xADC0), (0xADDC, 0xADDC), (0xADF8, 0xADF8), (0xAE14, 0xAE14),
  (0xAE30, 0xAE30), (0xAE4C, 0xAE4C), (0xAE68, 0xAE68), (0xAE84, 0xAE84), (0xAEA0, 0xAEA0),
  (0xAEBC, 0xAEBC), (0xAED8, 0xAED8), (0xAEF4, 0xAEF4), (0xAF10, 0xAF10), (0xAF2C, 0xAF2C),
  (0xAF48, 0xAF48), (0xAF64, 0xAF64), (0xAF80, 0xAF80), (0xAF9C, 0xAF9C), (0xAFB8, 0xAFB8),
  (0xAFD4, 0xAFD4), (0xAFF0, 0xAFF0), (0xB00C, 0xB00C), (0xB028, 0xB028), (0xB044, 0xB044),
  (0xB060, 0xB060), (0xB07C, 0xB07C), (0xB098, 0xB098), (0xB0B4, 0xB0B4), (0xB0D0, 0xB0D0),
  (0xB0EC, 0xB0EC), (0xB108, 0xB108), (0xB124, 0xB124), (0xB140, 0xB140), (0xB15C, 0xB15C),
  (0xB178, 0xB178), (0xB194, 0xB194), (0xB1B0, 0xB1B0), (0xB1CC, 0xB1CC), (0xB1E8, 0xB1E8),
  (0xB204, 0xB204), (0xB220, 0xB220), (0xB23C, 0xB23C), (0xB258, 0xB258), (0xB274, 0xB274),
  (0xB290, 0xB290), (0xB2AC, 0xB2AC), (0xB2C8, 0xB2C8), (0xB2E4, 0xB2E4), (0xB300, 0xB300),
  (0xB31C, 0xB31C), (0xB338, 0xB338), (0xB354, 0xB354), (0xB370, 0xB370), (0xB38C, 0xB38C),
  (0xB3A8, 0xB3A8), (0xB3C4, 0xB3C4), (0xB3E0, 0xB3E0), (0xB3FC, 0xB3FC), (0xB418, 0xB418),
  (0xB434, 0xB434), (0xB450, 0xB450), (0xB46C, 0xB46C), (0xB488, 0xB488), (0xB4A4, 0xB4A4),
  (0xB4C0, 0xB4C0), (0xB4DC, 0xB4DC), (0xB4F8, 0xB4F8), (0xB514, 0xB514), (0xB530, 0xB530),
  (0xB54C, 0xB54C), (0xB568, 0xB568), (0xB584, 0xB584), (0xB5A0, 0xB5A0), (0xB5BC, 0xB5BC),
  (0xB5D8, 0xB5D8), (0xB5F4, 0xB5F4), (0xB610, 0xB610), (0xB62C, 0xB62C), (0xB648, 0xB648),
  (0xB664, 0xB664), (0xB680, 0xB680), (0xB69C, 0xB69C), (0xB6B8, 0xB6B8), (0xB6D4, 0xB6D4),
  (0xB6F0, 0xB6F0), (0xB70C, 0xB70C), (0xB728, 0xB728), (0xB744, 0xB744), (0xB760, 0xB760),
  (0xB77C, 0xB77C), (0xB798, 0xB798), (0xB7B4, 0xB7B4), (0xB7D0, 0xB7D0), (0xB7EC, 0xB7EC),
  (0xB808, 0xB808), (0xB824, 0xB824), (0xB840, 0xB840), (0xB85C, 0xB85C), (0xB878, 0xB878),
  (0xB894, 0xB894), (0xB8B0, 0xB8B0), (0xB8CC, 0xB8CC), (0xB8E8, 0xB8E8), (0xB904, 0xB904),
  (0xB920, 0xB920), (0xB93C, 0xB93C), (0xB958, 0xB958), (0xB974, 0xB974), (0xB990, 0xB990),
  (0xB9AC, 0xB9AC), (0xB9C8, 0xB9C8), (0xB9E4, 0xB9E4), (0xBA00, 0xBA00), (0xBA1C, 0xBA1C),
  (0xBA38, 0xBA38), (0xBA54, 0xBA54), (0xBA70, 0xBA70), (0xBA8C, 0xBA8C), (0xBAA8, 0xBAA8),
  (0xBAC4, 0xBAC4), (0xBAE0, 0xBAE0), (0xBAFC, 0xBAFC), (0xBB18, 0xBB18), (0xBB34, 0xBB34),
  (0xBB50, 0xBB50), (0xBB6C, 0xBB6C), (0xBB88, 0xBB88), (0xBBA4, 0xBBA4), (0xBBC0, 0xBBC0),
  (0xBBDC, 0xBBDC), (0xBBF8, 0xBBF8), (0xBC14, 0xBC14), (0xBC30, 0xBC30), (0xBC4C, 0xBC4C),
  (0xBC68, 0xBC68), (0xBC84, 0xBC84), (0xBCA0, 0xBCA0), (0xBCBC, 0xBCBC), (0xBCD8, 0xBCD8),
  (0xBCF4, 0xBCF4), (0xBD10, 0xBD10), (0xBD2C, 0xBD2C), (0xBD48, 0xBD48), (0xBD64, 0xBD64),
  (0xBD80, 0xBD80), (0xBD9C, 0xBD9C), (0xBDB8, 0xBDB8), (0xBDD4, 0xBDD4), (0xBDF0, 0xBDF0),
  (0xBE0C, 0xBE0C), (0xBE28, 0xBE28), (0xBE44, 0xBE44), (0xBE60, 0xBE60), (0xBE7C, 0xBE7C),
  (0xBE98, 0xBE98), (0xBEB4, 0xBEB4), (0xBED0, 0xBED0), (0xBEEC, 0xBEEC), (0xBF08, 0xBF08),
  (0xBF24, 0xBF24), (0xBF40, 0xBF40), (0xBF5C, 0xBF5C), (0xBF78, 0xBF78), (0xBF94, 0xBF94),
  (0xBFB0, 0xBFB0), (0xBFCC, 0xBFCC), (0xBFE8, 0xBFE8), (0xC004, 0xC004), (0xC020, 0xC020),
  (0xC03C, 0xC03C), (0xC058, 0xC058), (0xC074, 0xC074), (0xC090, 0xC090), (0xC0AC, 0xC0AC),
  (0xC0C8, 0xC0C8), (0xC0E4, 0xC0E4), (0xC100, 0xC100), (0xC11C, 0xC11C), (0xC138, 0xC138),
  (0xC154, 0xC154), (0xC170, 0xC170), (0xC18C, 0xC18C), (0xC1A8, 0xC1A8), (0xC1C4, 0xC1C4),
  (0xC1E0, 0xC1E0), (0xC1FC, 0xC1FC), (0xC218, 0xC218), (0xC234, 0xC234), (0xC250, 0xC250),
  (0xC26C, 0xC26C), (0xC288, 0xC288), (0xC2A4, 0xC2A4), (0xC2C0, 0xC2C0), (0xC2DC, 0xC2DC),
  (0xC2F8, 0xC2F8), (0xC314, 0xC314), (0xC330, 0xC330), (0xC34C, 0xC34C), (0xC368, 0xC368),
  (0xC384, 0xC384), (0xC3A0, 0xC3A0), (0xC3BC, 0xC3BC), (0xC3D8, 0xC3D8), (0xC3F4, 0xC3F4),
  (0xC410, 0xC410), (0xC42C, 0xC42C), (0xC448, 0xC448), (0xC464, 0xC464), (0xC480, 0xC480),
  (0xC49C, 0xC49C), (0xC4B8, 0xC4B8), (0xC4D4, 0xC4D4), (0xC4F0, 0xC4F0), (0xC50C, 0xC50C),
  (0xC528, 0xC528), (0xC544, 0xC544), (0xC560, 0xC560), (0xC57C, 0xC57C), (0xC598, 0xC598),
  (0xC5B4, 0xC5B4), (0xC5D0, 0xC5D0), (0xC5EC, 0xC5EC), (0xC608, 0xC608), (0xC624, 0xC624),
  (0xC640, 0xC640), (0xC65C, 0xC65C), (0xC678, 0xC678), (0xC694, 0xC694), (0xC6B0, 0xC6B0),
  (0xC6CC, 0xC6CC), (0xC6E8, 0xC6E8), (0xC704, 0xC704), (0xC720, 0xC720), (0xC73C, 0xC73C),
  (0xC758, 0xC758), (0xC774, 0xC774), (0xC790, 0xC790), (0xC7AC, 0xC7AC), (0xC7C8, 0xC7C8),
  (0xC7E4, 0xC7E4), (0xC800, 0xC800), (0xC81C, 0xC81C), (0xC838, 0xC838), (0xC854, 0xC854),
  (0xC870, 0xC870), (0xC88C, 0xC88C), (0xC8A8, 0xC8A8), (0xC8C4, 0xC8C4), (0xC8E0, 0xC8E0),
  (0xC8FC, 0xC8FC), (0xC918, 0xC918), (0xC934, 0xC934), (0xC950, 0xC950), (0xC96C, 0xC96C),
  (0xC988, 0xC988), (0xC9A4, 0xC9A4), (0xC9C0, 0xC9C0), (0xC9DC, 0xC9DC), (0xC9F8, 0xC9F8),
  (0xCA14, 0xCA14), (0xCA30, 0xCA30), (0xCA4C, 0xCA4C), (0xCA68, 0xCA68), (0xCA84, 0xCA84),
  (0xCAA0, 0xCAA0), (0xCABC, 0xCABC), (0xCAD8, 0xCAD8), (0xCAF4, 0xCAF4), (0xCB10, 0xCB10),
  (0xCB2C, 0xCB2C), (0xCB48, 0xCB48), (0xCB64, 0xCB64), (0xCB80, 0xCB80), (0xCB9C, 0xCB9C),
  (0xCBB8, 0xCBB8), (0xCBD4, 0xCBD4), (0xCBF0, 0xCBF0), (0xCC0C, 0xCC0C), (0xCC28, 0xCC28),
  (0xCC44, 0xCC44), (0xCC60, 0xCC60), (0xCC7C, 0xCC7C), (0xCC98, 0xCC98), (0xCCB4, 0xCCB4),
  (0xCCD0, 0xCCD0), (0xCCEC, 0xCCEC), (0xCD08, 0xCD08), (0xCD24, 0xCD24), (0xCD40, 0xCD40),
  (0xCD5C, 0xCD5C), (0xCD78, 0xCD78), (0xCD94, 0xCD94), (0xCDB0, 0xCDB0), (0xCDCC, 0xCDCC),
  (0xCDE8, 0xCDE8), (0xCE04, 0xCE04), (0xCE20, 0xCE20), (0xCE3C, 0xCE3C), (0xCE58, 0xCE58),
  (0xCE74, 0xCE74), (0xCE90, 0xCE90), (0xCEAC, 0xCEAC), (0xCEC8, 0xCEC8), (0xCEE4, 0xCEE4),
  (0xCF00, 0xCF00), (0xCF1C, 0xCF1C), (0xCF38, 0xCF38), (0xCF54, 0xCF54), (0xCF70, 0xCF70),
  (0xCF8C, 0xCF8C), (0xCFA8, 0xCFA8), (0xCFC4, 0xCFC4), (0xCFE0, 0xCFE0), (0xCFFC, 0xCFFC),
  (0xD018, 0xD018), (0xD034, 0xD034), (0xD050, 0xD050), (0xD06C, 0xD06C), (0xD088, 0xD088),
  (0xD0A4, 0xD0A4), (0xD0C0, 0xD0C0), (0xD0DC, 0xD0DC), (0xD0F8, 0xD0F8), (0xD114, 0xD114),
  (0xD130, 0xD130), (0xD14C, 0xD14C), (0xD168, 0xD168), (0xD184, 0xD184), (0xD1A0, 0xD1A0),
  (0xD1BC, 0xD1BC), (0xD1D8, 0xD1D8), (0xD1F4, 0xD1F4), (0xD210, 0xD210), (0xD22C, 0xD22C),
  (0xD248, 0xD248), (0xD264, 0xD264), (0xD280, 0xD280), (0xD29C, 0xD29C), (0xD2B8, 0xD2B8),
  (0xD2D4, 0xD2D4), (0xD2F0, 0xD2F0), (0xD30C, 0xD30C), (0xD328, 0xD328), (0xD344, 0xD344),
  (0xD360, 0xD360), (0xD37C, 0xD37C), (0xD398, 0xD398), (0xD3B4, 0xD3B4), (0xD3D0, 0xD3D0),
  (0xD3EC, 0xD3EC), (0xD408, 0xD408), (0xD424, 0xD424), (0xD440, 0xD440), (0xD45C, 0xD45C),
  (0xD478, 0xD478), (0xD494, 0xD494), (0xD4B0, 0xD4B0), (0xD4CC, 0xD4CC), (0xD4E8, 0xD4E8),
  (0xD504, 0xD504), (0xD520, 0xD520), (0xD53C, 0xD53C), (0xD558, 0xD558), (0xD574, 0xD574),
  (0xD590, 0xD590), (0xD5AC, 0xD5AC), (0xD5C8, 0xD5C8), (0xD5E4, 0xD5E4), (0xD600, 0xD600),
  (0xD61C, 0xD61C), (0xD638, 0xD638), (0xD654, 0xD654), (0xD670, 0xD670), (0xD68C, 0xD68C),
  (0xD6A8, 0xD6A8), (0xD6C4, 0xD6C4), (0xD6E0, 0xD6E0), (0xD6FC, 0xD6FC), (0xD718, 0xD718),
  (0xD734, 0xD734), (0xD750, 0xD750), (0xD76C, 0xD76C), (0xD788, 0xD788)]⟩

/-- Letters that go before the letters after them. -/
def prepended : CharSet := ⟨#[
  (0xD4E, 0xD4E), (0x111C2, 0x111C3), (0x113D1, 0x113D1), (0x1193F, 0x1193F), (0x11941, 0x11941),
  (0x11A3A, 0x11A3A), (0x11A84, 0x11A89), (0x11D46, 0x11D46), (0x11F02, 0x11F02)]⟩

/-- Spacing marks that do not belong to the letter before them. -/
def separateMark : CharSet := ⟨#[
  (0x102B, 0x102C), (0x1038, 0x1038), (0x1062, 0x1064), (0x1067, 0x106D), (0x1083, 0x1083),
  (0x1087, 0x108C), (0x108F, 0x108F), (0x109A, 0x109C), (0x1A61, 0x1A61), (0x1A63, 0x1A64),
  (0xAA7B, 0xAA7B), (0xAA7D, 0xAA7D), (0x11720, 0x11721)]⟩

/-- Letters that belong to the letter before them. -/
def spacingVowel : CharSet := ⟨#[(0xE33, 0xE33), (0xEB3, 0xEB3)]⟩

/-- Signs that go with katakana. -/
def katakanaBeside : CharSet := ⟨#[
  (0x3031, 0x3035), (0x309B, 0x309C), (0x30A0, 0x30A0), (0x30FC, 0x30FC), (0xFF70, 0xFF70)]⟩

/-- Characters in words beside alphabetic ones. -/
def letterBeside : CharSet := ⟨#[
  (0xB8, 0xB8), (0x2C2, 0x2C5), (0x2D2, 0x2D7), (0x2DE, 0x2DF), (0x2E5, 0x2EB), (0x2ED, 0x2ED),
  (0x2EF, 0x2FF), (0x55A, 0x55C), (0x55E, 0x55E), (0x58A, 0x58A), (0x5F3, 0x5F3), (0x70F, 0x70F),
  (0xA708, 0xA716), (0xA720, 0xA721), (0xA789, 0xA78A), (0xAB5B, 0xAB5B)]⟩

/-- Letters of languages that do not separate words. -/
def unspaced : CharSet := ⟨#[
  (0xE01, 0xE30), (0xE32, 0xE33), (0xE40, 0xE46), (0xE81, 0xE82), (0xE84, 0xE84), (0xE86, 0xE8A),
  (0xE8C, 0xEA3), (0xEA5, 0xEA5), (0xEA7, 0xEB0), (0xEB2, 0xEB3), (0xEBD, 0xEBD), (0xEC0, 0xEC4),
  (0xEC6, 0xEC6), (0xEDC, 0xEDF), (0x1000, 0x102A), (0x103F, 0x103F), (0x1050, 0x1055),
  (0x105A, 0x105D), (0x1061, 0x1061), (0x1065, 0x1066), (0x106E, 0x1070), (0x1075, 0x1081),
  (0x108E, 0x108E), (0x1780, 0x17B3), (0x17D7, 0x17D7), (0x17DC, 0x17DC), (0x1950, 0x196D),
  (0x1970, 0x1974), (0x1980, 0x19AB), (0x19B0, 0x19C9), (0x1A20, 0x1A54), (0x1AA7, 0x1AA7),
  (0xA9E0, 0xA9E4), (0xA9E6, 0xA9EF), (0xA9FA, 0xA9FE), (0xAA60, 0xAA76), (0xAA7A, 0xAA7A),
  (0xAA7E, 0xAAAF), (0xAAB1, 0xAAB1), (0xAAB5, 0xAAB6), (0xAAB9, 0xAABD), (0xAAC0, 0xAAC0),
  (0xAAC2, 0xAAC2), (0xAADB, 0xAADD), (0x11700, 0x1171A), (0x11740, 0x11746)]⟩

/-- Punctuation between letters of a word. -/
def midLetter : CharSet := ⟨#[
  (0x3A, 0x3A), (0xB7, 0xB7), (0x387, 0x387), (0x55F, 0x55F), (0x5F4, 0x5F4), (0x2027, 0x2027),
  (0xFE13, 0xFE13), (0xFE55, 0xFE55), (0xFF1A, 0xFF1A)]⟩

/-- Punctuation between digits of a number. -/
def midNumber : CharSet := ⟨#[
  (0x2C, 0x2C), (0x3B, 0x3B), (0x37E, 0x37E), (0x589, 0x589), (0x60C, 0x60D), (0x66C, 0x66C),
  (0x7F8, 0x7F8), (0x2044, 0x2044), (0xFE10, 0xFE10), (0xFE14, 0xFE14), (0xFE50, 0xFE50),
  (0xFE54, 0xFE54), (0xFF0C, 0xFF0C), (0xFF1B, 0xFF1B)]⟩

/-- Punctuation between letters and between digits. -/
def midBoth : CharSet := ⟨#[
  (0x2E, 0x2E), (0x2018, 0x2019), (0x2024, 0x2024), (0xFE52, 0xFE52), (0xFF07, 0xFF07),
  (0xFF0E, 0xFF0E)]⟩

/-- Characters that end a line beside the line feed and the carriage return. -/
def newline : CharSet := ⟨#[(0xB, 0xC), (0x85, 0x85), (0x2028, 0x2029)]⟩

/-- Full stops. -/
def fullStop : CharSet := ⟨#[(0x2E, 0x2E), (0x2024, 0x2024), (0xFE52, 0xFE52), (0xFF0E, 0xFF0E)]⟩

/-- Signs that close beside brackets and quotes. -/
def closeBeside : CharSet := ⟨#[
  (0x22, 0x22), (0x27, 0x27), (0x275B, 0x2760), (0x2E00, 0x2E01), (0x2E06, 0x2E08),
  (0x2E0B, 0x2E0B), (0x1F676, 0x1F678)]⟩

/-- Punctuation within sentences. -/
def sentenceContinue : CharSet := ⟨#[
  (0x2C, 0x2D), (0x3A, 0x3A), (0x55D, 0x55D), (0x60C, 0x60D), (0x7F8, 0x7F8), (0x1802, 0x1802),
  (0x1808, 0x1808), (0x2013, 0x2014), (0x3001, 0x3001), (0xFE10, 0xFE11), (0xFE13, 0xFE13),
  (0xFE31, 0xFE32), (0xFE50, 0xFE51), (0xFE55, 0xFE55), (0xFE58, 0xFE58), (0xFE63, 0xFE63),
  (0xFF0C, 0xFF0D), (0xFF1A, 0xFF1A), (0xFF64, 0xFF64)]⟩

/-- Characters that end a paragraph beside the line feed and the carriage return. -/
def paragraphEnd : CharSet := ⟨#[(0x85, 0x85), (0x2028, 0x2029)]⟩

/-- Letters in upper case that do not begin a sentence. -/
def unpairedUpper : CharSet := ⟨#[(0x1C90, 0x1CBA), (0x1CBD, 0x1CBF)]⟩

/-- Letters in lower case that do not continue a sentence. -/
def unpairedLower : CharSet := ⟨#[(0x10D0, 0x10FA), (0x10FD, 0x10FF)]⟩

/-! ### Graphemes -/

/-- Characters that extend a grapheme. -/
def clusterExtend : CharSet := graphemeExtend.union emojiModifier

/-- Marks that belong to the grapheme before them and take room. -/
def clusterSpacing : CharSet :=
  ((spacingMark.diff clusterExtend).diff separateMark).union spacingVowel

/-- Characters that stand alone. -/
def clusterControl : CharSet :=
  (CharSet.unions [lineSeparator, paragraphSeparator, control, format,
    unassigned.inter ignorable]).diff
    (.unions [lineFeed, carriageReturn, joinControl, prependedMark, clusterExtend])

/-- The classes for graphemes with their names. -/
def grapheme : List (List String × CharSet) := [
  (["cn", "control"], clusterControl),
  (["cr"], carriageReturn),
  (["ex", "extend"], clusterExtend),
  (["l"], leadingConsonant),
  (["lf"], lineFeed),
  (["lv"], openSyllable),
  (["lvt"], syllable.diff openSyllable),
  (["pp", "prepend"], prepended.union prependedMark),
  (["ri", "regionalindicator"], regionalIndicator),
  (["sm", "spacingmark"], clusterSpacing),
  (["t"], trailingConsonant),
  (["v"], vowel),
  (["zwj"], zeroWidthJoiner)]

/-! ### Words -/

/-- Characters that extend the one before within a word. -/
def wordExtend : CharSet := (clusterExtend.union spacingMark).diff zeroWidthJoiner

/-- Marks around numbers. -/
def numberMark : CharSet := prependedMark.diff (.single 0x70F)

/-- Format characters within words. -/
def wordFormat : CharSet :=
  format.diff (.unions [wordExtend, prependedMark, .single 0x200B, zeroWidthJoiner])

/-- Letters of Hebrew. -/
def hebrewLetter : CharSet := Script.hebrew.inter otherLetter

/-- Katakana and the signs that go with it. -/
def katakana : CharSet := Script.katakana.union katakanaBeside

/-- Letters of words. -/
def wordLetter : CharSet :=
  (alphabetic.diff (.unions [ideographic, katakana, Script.hiragana, wordExtend, hebrewLetter,
    unspaced])).union letterBeside

/-- The classes for words with their names. -/
def word : List (List String × CharSet) := [
  (["le", "aletter"], wordLetter),
  (["cr"], carriageReturn),
  (["dq", "doublequote"], .single 0x22),
  (["extend"], wordExtend),
  (["ex", "extendnumlet"], connector.union (.single 0x202F)),
  (["fo", "format"], wordFormat),
  (["hl", "hebrewletter"], hebrewLetter),
  (["ka", "katakana"], katakana),
  (["lf"], lineFeed),
  (["ml", "midletter"], midLetter),
  (["mn", "midnum"], midNumber),
  (["mb", "midnumlet"], midBoth),
  (["nl", "newline"], newline),
  (["nu", "numeric"], .unions [decimalDigit, .single 0x66B, numberMark]),
  (["ri", "regionalindicator"], regionalIndicator),
  (["sq", "singlequote"], .single 0x27),
  (["wsegspace"], spaceSeparator.diff (.ofList [0xA0, 0x2007, 0x202F])),
  (["zwj"], zeroWidthJoiner)]

/-! ### Sentences -/

/-- Characters that extend the one before within a sentence. -/
def sentenceExtend : CharSet :=
  .unions [graphemeExtend, spacingMark, zeroWidthJoiner]

/-- Letters in lower case that continue a sentence. -/
def sentenceLower : CharSet := (lower.diff graphemeExtend).diff unpairedLower

/-- Letters in upper or title case that begin a sentence. -/
def sentenceUpper : CharSet := (upper.union titleLetter).diff unpairedUpper

/-- The classes for sentences with their names. -/
def sentence : List (List String × CharSet) := [
  (["at", "aterm"], fullStop),
  (["cr"], carriageReturn),
  (["cl", "close"], .unions [openMark, closeMark, initialQuote, finalQuote, closeBeside]),
  (["ex", "extend"], sentenceExtend),
  (["fo", "format"], format.diff (sentenceExtend.union numberMark)),
  (["lf"], lineFeed),
  (["lo", "lower"], sentenceLower),
  (["nu", "numeric"], .unions [decimalDigit, .range 0x66B 0x66C, numberMark]),
  (["le", "oletter"], (alphabetic.union (.single 0x5F3)).diff
    (.unions [sentenceLower, sentenceUpper, sentenceExtend])),
  (["sc", "scontinue"], sentenceContinue),
  (["st", "sterm"], sentenceEnd.diff fullStop),
  (["se", "sep"], paragraphEnd),
  (["sp"], blank.diff (.unions [lineFeed, carriageReturn, paragraphEnd])),
  (["up", "upper"], sentenceUpper)]

/-- The class of a name in a list of classes. -/
def named? (classes : List (List String × CharSet)) (name : String) : Option CharSet :=
  (classes.find? fun p => p.1.contains name).map Prod.snd

end Segment

end GraphLedger.Unicode
