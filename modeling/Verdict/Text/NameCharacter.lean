import Verdict.Text.Alphanumeric
import Verdict.Text.Digit
import Verdict.Text.LetterCase
import Verdict.Text.Mark

/-!
# Text: characters of names

The characters that names of hosts may hold: letters that are no capitals, decimal digits and marks,
unless they stand for other characters, and the hyphen.
-/

namespace Verdict.Text

/-- Letters, digits and marks that names may not hold, or only in some surroundings. -/
def unfitForNames : Ranges :=
  [(0xAA, 0xAA), (0xB5, 0xB5), (0xBA, 0xBA), (0x133, 0x133), (0x140, 0x140), (0x149, 0x149),
   (0x17F, 0x17F), (0x1C6, 0x1C6), (0x1C9, 0x1C9), (0x1CC, 0x1CC), (0x1F3, 0x1F3), (0x2B0, 0x2B8),
   (0x2E0, 0x2E4), (0x340, 0x341), (0x343, 0x345), (0x34F, 0x34F), (0x374, 0x374), (0x37A, 0x37A),
   (0x3D0, 0x3D6), (0x3F0, 0x3F2), (0x3F5, 0x3F5), (0x488, 0x489), (0x587, 0x587), (0x640, 0x640),
   (0x660, 0x669), (0x675, 0x678), (0x6F0, 0x6F9), (0x7FA, 0x7FA), (0x958, 0x95F), (0x9DC, 0x9DD),
   (0x9DF, 0x9DF), (0xA33, 0xA33), (0xA36, 0xA36), (0xA59, 0xA5B), (0xA5E, 0xA5E), (0xB5C, 0xB5D),
   (0xE33, 0xE33), (0xEB3, 0xEB3), (0xEDC, 0xEDD), (0xF43, 0xF43), (0xF4D, 0xF4D), (0xF52, 0xF52),
   (0xF57, 0xF57), (0xF5C, 0xF5C), (0xF69, 0xF69), (0xF73, 0xF73), (0xF75, 0xF79), (0xF81, 0xF81),
   (0xF93, 0xF93), (0xF9D, 0xF9D), (0xFA2, 0xFA2), (0xFA7, 0xFA7), (0xFAC, 0xFAC), (0xFB9, 0xFB9),
   (0x10FC, 0x10FC), (0x1100, 0x11FF), (0x13F8, 0x13FD), (0x17B4, 0x17B5), (0x180B, 0x180D),
   (0x180F, 0x180F), (0x1ABE, 0x1ABE), (0x1C80, 0x1C88), (0x1D2C, 0x1D2E), (0x1D30, 0x1D3A),
   (0x1D3C, 0x1D4D), (0x1D4F, 0x1D6A), (0x1D78, 0x1D78), (0x1D9B, 0x1DBF), (0x1E9A, 0x1E9B),
   (0x1F71, 0x1F71), (0x1F73, 0x1F73), (0x1F75, 0x1F75), (0x1F77, 0x1F77), (0x1F79, 0x1F79),
   (0x1F7B, 0x1F7B), (0x1F7D, 0x1F7D), (0x1F80, 0x1F87), (0x1F90, 0x1F97), (0x1FA0, 0x1FA7),
   (0x1FB2, 0x1FB4), (0x1FB7, 0x1FB7), (0x1FBE, 0x1FBE), (0x1FC2, 0x1FC4), (0x1FC7, 0x1FC7),
   (0x1FD3, 0x1FD3), (0x1FE3, 0x1FE3), (0x1FF2, 0x1FF4), (0x1FF7, 0x1FF7), (0x2071, 0x2071),
   (0x207F, 0x207F), (0x2090, 0x209C), (0x20D0, 0x20F0), (0x2102, 0x2102), (0x2107, 0x2107),
   (0x210A, 0x2113), (0x2115, 0x2115), (0x2119, 0x211D), (0x2124, 0x2124), (0x2128, 0x2128),
   (0x212C, 0x212D), (0x212F, 0x2131), (0x2133, 0x2139), (0x213C, 0x213F), (0x2145, 0x2149),
   (0x2C7C, 0x2C7D), (0x2D6F, 0x2D6F), (0x302E, 0x302F), (0x3031, 0x3035), (0x303B, 0x303B),
   (0x309F, 0x309F), (0x30FF, 0x30FF), (0x3131, 0x318E), (0xA670, 0xA672), (0xA69C, 0xA69D),
   (0xA770, 0xA770), (0xA7F2, 0xA7F4), (0xA7F8, 0xA7F9), (0xA960, 0xA97C), (0xAB5C, 0xAB5F),
   (0xAB69, 0xAB69), (0xAB70, 0xABBF), (0xD7B0, 0xD7C6), (0xD7CB, 0xD7FB), (0xF900, 0xFA0D),
   (0xFA10, 0xFA10), (0xFA12, 0xFA12), (0xFA15, 0xFA1E), (0xFA20, 0xFA20), (0xFA22, 0xFA22),
   (0xFA25, 0xFA26), (0xFA2A, 0xFA6D), (0xFA70, 0xFAD9), (0xFB00, 0xFB06), (0xFB13, 0xFB17),
   (0xFB1D, 0xFB1D), (0xFB1F, 0xFB28), (0xFB2A, 0xFB36), (0xFB38, 0xFB3C), (0xFB3E, 0xFB3E),
   (0xFB40, 0xFB41), (0xFB43, 0xFB44), (0xFB46, 0xFBB1), (0xFBD3, 0xFD3D), (0xFD50, 0xFD8F),
   (0xFD92, 0xFDC7), (0xFDF0, 0xFDFB), (0xFE00, 0xFE0F), (0xFE70, 0xFE72), (0xFE74, 0xFE74),
   (0xFE76, 0xFEFC), (0xFF10, 0xFF19), (0xFF41, 0xFF5A), (0xFF66, 0xFFBE), (0xFFC2, 0xFFC7),
   (0xFFCA, 0xFFCF), (0xFFD2, 0xFFD7), (0xFFDA, 0xFFDC), (0x10781, 0x10785), (0x10787, 0x107B0),
   (0x107B2, 0x107BA), (0x1D165, 0x1D169), (0x1D16D, 0x1D172), (0x1D17B, 0x1D182),
   (0x1D185, 0x1D18B), (0x1D1AA, 0x1D1AD), (0x1D242, 0x1D244), (0x1D400, 0x1D454),
   (0x1D456, 0x1D49C), (0x1D49E, 0x1D49F), (0x1D4A2, 0x1D4A2), (0x1D4A5, 0x1D4A6),
   (0x1D4A9, 0x1D4AC), (0x1D4AE, 0x1D4B9), (0x1D4BB, 0x1D4BB), (0x1D4BD, 0x1D4C3),
   (0x1D4C5, 0x1D505), (0x1D507, 0x1D50A), (0x1D50D, 0x1D514), (0x1D516, 0x1D51C),
   (0x1D51E, 0x1D539), (0x1D53B, 0x1D53E), (0x1D540, 0x1D544), (0x1D546, 0x1D546),
   (0x1D54A, 0x1D550), (0x1D552, 0x1D6A5), (0x1D6A8, 0x1D6C0), (0x1D6C2, 0x1D6DA),
   (0x1D6DC, 0x1D6FA), (0x1D6FC, 0x1D714), (0x1D716, 0x1D734), (0x1D736, 0x1D74E),
   (0x1D750, 0x1D76E), (0x1D770, 0x1D788), (0x1D78A, 0x1D7A8), (0x1D7AA, 0x1D7C2),
   (0x1D7C4, 0x1D7CB), (0x1D7CE, 0x1D7FF), (0x1EE00, 0x1EE03), (0x1EE05, 0x1EE1F),
   (0x1EE21, 0x1EE22), (0x1EE24, 0x1EE24), (0x1EE27, 0x1EE27), (0x1EE29, 0x1EE32),
   (0x1EE34, 0x1EE37), (0x1EE39, 0x1EE39), (0x1EE3B, 0x1EE3B), (0x1EE42, 0x1EE42),
   (0x1EE47, 0x1EE47), (0x1EE49, 0x1EE49), (0x1EE4B, 0x1EE4B), (0x1EE4D, 0x1EE4F),
   (0x1EE51, 0x1EE52), (0x1EE54, 0x1EE54), (0x1EE57, 0x1EE57), (0x1EE59, 0x1EE59),
   (0x1EE5B, 0x1EE5B), (0x1EE5D, 0x1EE5D), (0x1EE5F, 0x1EE5F), (0x1EE61, 0x1EE62),
   (0x1EE64, 0x1EE64), (0x1EE67, 0x1EE6A), (0x1EE6C, 0x1EE72), (0x1EE74, 0x1EE77),
   (0x1EE79, 0x1EE7C), (0x1EE7E, 0x1EE7E), (0x1EE80, 0x1EE89), (0x1EE8B, 0x1EE9B),
   (0x1EEA1, 0x1EEA3), (0x1EEA5, 0x1EEA9), (0x1EEAB, 0x1EEBB), (0x1FBF0, 0x1FBF9),
   (0x2F800, 0x2FA1D), (0xE0100, 0xE01EF)]

/-- Further characters that names may hold. -/
def fitForNames : Ranges :=
  [(0x2D, 0x2D), (0x6FD, 0x6FE), (0xF0B, 0xF0B), (0x13A0, 0x13F5), (0x3007, 0x3007)]

/-- A name of a host may hold the character anywhere. -/
def isNameCharacter (c : Char) : Bool :=
  fitForNames.contains c ||
    ((isLetter c || isDecimal c || isMark c) && lowerChar c == c && !unfitForNames.contains c)

end Verdict.Text
