import EncodingPlan.Text.CodeTable

/-! Characters that texts in one script share with texts in others. A character that several
scripts share belongs to the script `common` or `inherited`, or to one of them; the other ones
borrow it. -/

namespace EncodingPlan.Text.Script.Borrowed

def adlam : CodeTable :=
  [(0x61F, 0x61F), (0x640, 0x640), (0x204F, 0x204F), (0x2E41, 0x2E41)]

def arabic : CodeTable :=
  [(0x60C, 0x60C), (0x61B, 0x61B), (0x61F, 0x61F), (0x640, 0x640), (0x64B, 0x655), (0x670, 0x670),
   (0x204F, 0x204F), (0x2E41, 0x2E41), (0xFD3E, 0xFD3F), (0x102E0, 0x102FB)]

def armenian : CodeTable :=
  [(0x308, 0x308)]

def avestan : CodeTable :=
  [(0xB7, 0xB7), (0x2E30, 0x2E31)]

def bengali : CodeTable :=
  [(0x2BC, 0x2BC), (0x951, 0x952), (0x964, 0x965), (0x1CD0, 0x1CD0), (0x1CD2, 0x1CD2),
   (0x1CD5, 0x1CD6), (0x1CD8, 0x1CD8), (0x1CE1, 0x1CE1), (0x1CEA, 0x1CEA), (0x1CED, 0x1CED),
   (0x1CF2, 0x1CF2), (0x1CF5, 0x1CF7), (0xA8F1, 0xA8F1)]

def bopomofo : CodeTable :=
  [(0x2C7, 0x2C7), (0x2C9, 0x2CB), (0x2D9, 0x2D9), (0x3001, 0x3003), (0x3008, 0x3011),
   (0x3013, 0x301F), (0x302A, 0x302D), (0x3030, 0x3030), (0x3037, 0x3037), (0x30FB, 0x30FB),
   (0xFE45, 0xFE46), (0xFF61, 0xFF65)]

def buginese : CodeTable :=
  [(0xA9CF, 0xA9CF)]

def buhid : CodeTable :=
  [(0x1735, 0x1736)]

def carian : CodeTable :=
  [(0xB7, 0xB7), (0x205A, 0x205A), (0x205D, 0x205D), (0x2E31, 0x2E31)]

def caucasianAlbanian : CodeTable :=
  [(0x304, 0x304), (0x331, 0x331), (0x35E, 0x35E)]

def chakma : CodeTable :=
  [(0x9E6, 0x9EF), (0x1040, 0x1049)]

def cherokee : CodeTable :=
  [(0x300, 0x302), (0x304, 0x304), (0x30B, 0x30C), (0x323, 0x324), (0x330, 0x331)]

def coptic : CodeTable :=
  [(0xB7, 0xB7), (0x300, 0x300), (0x304, 0x305), (0x307, 0x307), (0x374, 0x375), (0x2E17, 0x2E17),
   (0x102E0, 0x102FB)]

def cypriot : CodeTable :=
  [(0x10100, 0x10102), (0x10107, 0x10133), (0x10137, 0x1013F)]

def cyproMinoan : CodeTable :=
  [(0x10100, 0x10101)]

def cyrillic : CodeTable :=
  [(0x2BC, 0x2BC), (0x300, 0x302), (0x304, 0x304), (0x306, 0x306), (0x308, 0x308), (0x30B, 0x30B),
   (0x311, 0x311), (0x485, 0x486), (0x1DF8, 0x1DF8), (0x2E43, 0x2E43)]

def devanagari : CodeTable :=
  [(0x2BC, 0x2BC), (0x951, 0x952), (0x964, 0x965), (0x1CD0, 0x1CF6), (0x1CF8, 0x1CF9),
   (0x20F0, 0x20F0), (0xA830, 0xA839)]

def dogra : CodeTable :=
  [(0x964, 0x96F), (0xA830, 0xA839)]

def duployan : CodeTable :=
  [(0xB7, 0xB7), (0x307, 0x308), (0x30A, 0x30A), (0x323, 0x324), (0x2E3C, 0x2E3C),
   (0x1BCA0, 0x1BCA3)]

def elbasan : CodeTable :=
  [(0xB7, 0xB7), (0x305, 0x305)]

def ethiopic : CodeTable :=
  [(0x30E, 0x30E)]

def garay : CodeTable :=
  [(0x60C, 0x60C), (0x61B, 0x61B), (0x61F, 0x61F)]

def georgian : CodeTable :=
  [(0xB7, 0xB7), (0x589, 0x589), (0x10FB, 0x10FB), (0x205A, 0x205A), (0x2E31, 0x2E31)]

def glagolitic : CodeTable :=
  [(0xB7, 0xB7), (0x303, 0x303), (0x305, 0x305), (0x484, 0x484), (0x487, 0x487), (0x589, 0x589),
   (0x10FB, 0x10FB), (0x205A, 0x205A), (0x2E43, 0x2E43), (0xA66F, 0xA66F)]

def gothic : CodeTable :=
  [(0xB7, 0xB7), (0x304, 0x305), (0x308, 0x308), (0x331, 0x331)]

def grantha : CodeTable :=
  [(0x951, 0x952), (0x964, 0x965), (0xBE6, 0xBF3), (0x1CD0, 0x1CD0), (0x1CD2, 0x1CD3),
   (0x1CF2, 0x1CF4), (0x1CF8, 0x1CF9), (0x20F0, 0x20F0), (0x1133B, 0x1133B), (0x11FD0, 0x11FD1),
   (0x11FD3, 0x11FD3)]

def greek : CodeTable :=
  [(0xB7, 0xB7), (0x300, 0x301), (0x304, 0x304), (0x306, 0x306), (0x308, 0x308), (0x313, 0x313),
   (0x342, 0x342), (0x345, 0x345), (0x374, 0x374), (0x1DC0, 0x1DC1), (0x205D, 0x205D)]

def gujarati : CodeTable :=
  [(0x951, 0x952), (0x964, 0x965), (0xA830, 0xA839)]

def gunjalaGondi : CodeTable :=
  [(0xB7, 0xB7), (0x964, 0x965)]

def gurmukhi : CodeTable :=
  [(0x951, 0x952), (0x964, 0x965), (0xA830, 0xA839)]

def gurungKhema : CodeTable :=
  [(0x965, 0x965)]

def han : CodeTable :=
  [(0xB7, 0xB7), (0x2FF0, 0x2FFF), (0x3001, 0x3003), (0x3006, 0x3006), (0x3008, 0x3011),
   (0x3013, 0x301F), (0x302A, 0x302D), (0x3030, 0x3030), (0x3037, 0x3037), (0x303C, 0x303F),
   (0x30FB, 0x30FB), (0x3190, 0x319F), (0x31C0, 0x31E5), (0x31EF, 0x31EF), (0x3220, 0x3247),
   (0x3280, 0x32B0), (0x32C0, 0x32CB), (0x32FF, 0x32FF), (0x3358, 0x3370), (0x337B, 0x337F),
   (0x33E0, 0x33FE), (0xA700, 0xA707), (0xFE45, 0xFE46), (0xFF61, 0xFF65), (0x1D360, 0x1D371),
   (0x1F250, 0x1F251)]

def hangul : CodeTable :=
  [(0x3001, 0x3003), (0x3008, 0x3011), (0x3013, 0x301F), (0x3030, 0x3030), (0x3037, 0x3037),
   (0x30FB, 0x30FB), (0xFE45, 0xFE46), (0xFF61, 0xFF65)]

def hanifiRohingya : CodeTable :=
  [(0x60C, 0x60C), (0x61B, 0x61B), (0x61F, 0x61F), (0x640, 0x640), (0x6D4, 0x6D4)]

def hanunoo : CodeTable :=
  [(0x1735, 0x1736)]

def hebrew : CodeTable :=
  [(0x307, 0x308)]

def hiragana : CodeTable :=
  [(0x3001, 0x3003), (0x3008, 0x3011), (0x3013, 0x301F), (0x3030, 0x3035), (0x3037, 0x3037),
   (0x303C, 0x303D), (0x3099, 0x309C), (0x30A0, 0x30A0), (0x30FB, 0x30FC), (0xFE45, 0xFE46),
   (0xFF61, 0xFF65), (0xFF70, 0xFF70), (0xFF9E, 0xFF9F)]

def javanese : CodeTable :=
  [(0xA9CF, 0xA9CF)]

def kaithi : CodeTable :=
  [(0x966, 0x96F), (0x2E31, 0x2E31), (0xA830, 0xA839)]

def kannada : CodeTable :=
  [(0x951, 0x952), (0x964, 0x965), (0x1CD0, 0x1CD0), (0x1CD2, 0x1CD3), (0x1CDA, 0x1CDA),
   (0x1CF2, 0x1CF2), (0x1CF4, 0x1CF4), (0xA830, 0xA835)]

def katakana : CodeTable :=
  [(0x305, 0x305), (0x323, 0x323), (0x3001, 0x3003), (0x3008, 0x3011), (0x3013, 0x301F),
   (0x3030, 0x3035), (0x3037, 0x3037), (0x303C, 0x303D), (0x3099, 0x309C), (0x30A0, 0x30A0),
   (0x30FB, 0x30FC), (0xFE45, 0xFE46), (0xFF61, 0xFF65), (0xFF70, 0xFF70), (0xFF9E, 0xFF9F)]

def kayahLi : CodeTable :=
  [(0xA92E, 0xA92E)]

def khojki : CodeTable :=
  [(0xAE6, 0xAEF), (0xA830, 0xA839)]

def khudawadi : CodeTable :=
  [(0x964, 0x965), (0xA830, 0xA839)]

def latin : CodeTable :=
  [(0xB7, 0xB7), (0x2BC, 0x2BC), (0x2C7, 0x2C7), (0x2C9, 0x2CB), (0x2CD, 0x2CD), (0x2D7, 0x2D7),
   (0x2D9, 0x2D9), (0x300, 0x30E), (0x310, 0x311), (0x313, 0x313), (0x323, 0x325), (0x32D, 0x32E),
   (0x330, 0x331), (0x358, 0x358), (0x35E, 0x35E), (0x363, 0x36F), (0x485, 0x486), (0x951, 0x952),
   (0x10FB, 0x10FB), (0x1DF8, 0x1DF8), (0x202F, 0x202F), (0x20F0, 0x20F0), (0x2E17, 0x2E17),
   (0xA700, 0xA707), (0xA92E, 0xA92E)]

def limbu : CodeTable :=
  [(0x965, 0x965)]

def linearA : CodeTable :=
  [(0x10107, 0x10133)]

def linearB : CodeTable :=
  [(0x10100, 0x10102), (0x10107, 0x10133), (0x10137, 0x1013F)]

def lisu : CodeTable :=
  [(0x2BC, 0x2BC), (0x2CD, 0x2CD), (0x300A, 0x300B)]

def lycian : CodeTable :=
  [(0x205A, 0x205A)]

def lydian : CodeTable :=
  [(0xB7, 0xB7), (0x2E31, 0x2E31)]

def mahajani : CodeTable :=
  [(0xB7, 0xB7), (0x964, 0x96F), (0xA830, 0xA839)]

def malayalam : CodeTable :=
  [(0x951, 0x952), (0x964, 0x965), (0x1CDA, 0x1CDA), (0x1CF2, 0x1CF2), (0xA830, 0xA832)]

def mandaic : CodeTable :=
  [(0x640, 0x640)]

def manichaean : CodeTable :=
  [(0x640, 0x640)]

def masaramGondi : CodeTable :=
  [(0x964, 0x965)]

def meroiticHieroglyphs : CodeTable :=
  [(0x205D, 0x205D)]

def modi : CodeTable :=
  [(0xA830, 0xA839)]

def mongolian : CodeTable :=
  [(0x1802, 0x1803), (0x1805, 0x1805), (0x202F, 0x202F), (0x3001, 0x3002), (0x3008, 0x300B)]

def multani : CodeTable :=
  [(0xA66, 0xA6F)]

def myanmar : CodeTable :=
  [(0xA92E, 0xA92E)]

def nandinagari : CodeTable :=
  [(0x951, 0x951), (0x964, 0x965), (0xCE6, 0xCEF), (0x1CE9, 0x1CE9), (0x1CF2, 0x1CF2),
   (0x1CFA, 0x1CFA), (0xA830, 0xA835)]

def newa : CodeTable :=
  [(0x951, 0x952), (0x1CD5, 0x1CD5), (0x1CD7, 0x1CD8), (0x1CE2, 0x1CE2), (0x1CE9, 0x1CE9),
   (0x1CEB, 0x1CEB), (0x1CED, 0x1CED)]

def nko : CodeTable :=
  [(0x60C, 0x60C), (0x61B, 0x61B), (0x61F, 0x61F), (0xFD3E, 0xFD3F)]

def olOnal : CodeTable :=
  [(0x964, 0x965)]

def oldHungarian : CodeTable :=
  [(0x205A, 0x205A), (0x205D, 0x205D), (0x2E31, 0x2E31), (0x2E41, 0x2E41)]

def oldPermic : CodeTable :=
  [(0xB7, 0xB7), (0x300, 0x300), (0x306, 0x308), (0x313, 0x313), (0x483, 0x483)]

def oldTurkic : CodeTable :=
  [(0x205A, 0x205A), (0x2E30, 0x2E30)]

def oldUyghur : CodeTable :=
  [(0x640, 0x640), (0x10AF2, 0x10AF2)]

def oriya : CodeTable :=
  [(0x951, 0x952), (0x964, 0x965), (0x1CDA, 0x1CDA), (0x1CF2, 0x1CF2)]

def osage : CodeTable :=
  [(0x301, 0x301), (0x304, 0x304), (0x30B, 0x30B), (0x358, 0x358)]

def phagsPa : CodeTable :=
  [(0x1802, 0x1803), (0x1805, 0x1805), (0x202F, 0x202F), (0x3002, 0x3002)]

def psalterPahlavi : CodeTable :=
  [(0x640, 0x640)]

def runic : CodeTable :=
  [(0x16EB, 0x16ED)]

def samaritan : CodeTable :=
  [(0x2E31, 0x2E31)]

def sharada : CodeTable :=
  [(0x951, 0x951), (0x1CD7, 0x1CD7), (0x1CD9, 0x1CD9), (0x1CDC, 0x1CDD), (0x1CE0, 0x1CE0),
   (0x1CEA, 0x1CEA), (0x1CED, 0x1CED), (0xA830, 0xA835), (0xA838, 0xA838)]

def shavian : CodeTable :=
  [(0xB7, 0xB7)]

def sinhala : CodeTable :=
  [(0x964, 0x965), (0x1CF2, 0x1CF2)]

def sogdian : CodeTable :=
  [(0x640, 0x640)]

def sunuwar : CodeTable :=
  [(0x300, 0x301), (0x303, 0x303), (0x30D, 0x30D), (0x310, 0x310), (0x32D, 0x32D), (0x331, 0x331)]

def sylotiNagri : CodeTable :=
  [(0x964, 0x965), (0x9E6, 0x9EF)]

def syriac : CodeTable :=
  [(0x303, 0x304), (0x307, 0x308), (0x30A, 0x30A), (0x323, 0x325), (0x32D, 0x32E), (0x330, 0x331),
   (0x60C, 0x60C), (0x61B, 0x61C), (0x61F, 0x61F), (0x640, 0x640), (0x64B, 0x655), (0x670, 0x670),
   (0x1DF8, 0x1DF8), (0x1DFA, 0x1DFA)]

def tagalog : CodeTable :=
  [(0x1735, 0x1736)]

def tagbanwa : CodeTable :=
  [(0x1735, 0x1736)]

def taiLe : CodeTable :=
  [(0x300, 0x301), (0x307, 0x308), (0x30C, 0x30C), (0x1040, 0x1049)]

def takri : CodeTable :=
  [(0x964, 0x965), (0xA830, 0xA839)]

def tamil : CodeTable :=
  [(0x951, 0x952), (0x964, 0x965), (0x1CDA, 0x1CDA), (0xA8F3, 0xA8F3), (0x11301, 0x11301),
   (0x11303, 0x11303), (0x1133B, 0x1133C)]

def tangut : CodeTable :=
  [(0x2FF0, 0x2FFF), (0x31EF, 0x31EF)]

def telugu : CodeTable :=
  [(0x951, 0x952), (0x964, 0x965), (0x1CD5, 0x1CD6), (0x1CD8, 0x1CD8), (0x1CDA, 0x1CDA),
   (0x1CF2, 0x1CF2)]

def thaana : CodeTable :=
  [(0x60C, 0x60C), (0x61B, 0x61C), (0x61F, 0x61F), (0x660, 0x669), (0xFDF2, 0xFDF2),
   (0xFDFD, 0xFDFD)]

def thai : CodeTable :=
  [(0x2BC, 0x2BC), (0x2D7, 0x2D7), (0x303, 0x303), (0x331, 0x331)]

def tibetan : CodeTable :=
  [(0x3008, 0x300B)]

def tifinagh : CodeTable :=
  [(0x302, 0x302), (0x304, 0x304), (0x306, 0x309), (0x323, 0x323)]

def tirhuta : CodeTable :=
  [(0x951, 0x952), (0x964, 0x965), (0x1CD5, 0x1CD5), (0x1CE2, 0x1CE2), (0x1CF2, 0x1CF2),
   (0xA830, 0xA839)]

def todhri : CodeTable :=
  [(0x301, 0x301), (0x304, 0x304), (0x307, 0x307), (0x311, 0x311), (0x313, 0x313), (0x35E, 0x35E)]

def toto : CodeTable :=
  [(0x2BC, 0x2BC)]

def tuluTigalari : CodeTable :=
  [(0xCE6, 0xCEF), (0x1CF2, 0x1CF2), (0x1CF4, 0x1CF4), (0xA830, 0xA835), (0xA8F1, 0xA8F1)]

def yezidi : CodeTable :=
  [(0x60C, 0x60C), (0x61B, 0x61B), (0x61F, 0x61F), (0x660, 0x669)]

def yi : CodeTable :=
  [(0x3001, 0x3002), (0x3008, 0x3011), (0x3014, 0x301B), (0x30FB, 0x30FB), (0xFF61, 0xFF65)]

/-- What scripts borrow, by the first name of each script. -/
def table : List (String × CodeTable) :=
  [("adlm", adlam), ("arab", arabic), ("armn", armenian), ("avst", avestan), ("beng", bengali),
   ("bopo", bopomofo), ("bugi", buginese), ("buhd", buhid), ("cari", carian),
   ("aghb", caucasianAlbanian), ("cakm", chakma), ("cher", cherokee), ("copt", coptic),
   ("cprt", cypriot), ("cpmn", cyproMinoan), ("cyrl", cyrillic), ("deva", devanagari),
   ("dogr", dogra), ("dupl", duployan), ("elba", elbasan), ("ethi", ethiopic), ("gara", garay),
   ("geor", georgian), ("glag", glagolitic), ("goth", gothic), ("gran", grantha), ("grek", greek),
   ("gujr", gujarati), ("gong", gunjalaGondi), ("guru", gurmukhi), ("gukh", gurungKhema),
   ("hani", han), ("hang", hangul), ("rohg", hanifiRohingya), ("hano", hanunoo), ("hebr", hebrew),
   ("hira", hiragana), ("java", javanese), ("kthi", kaithi), ("knda", kannada), ("kana", katakana),
   ("kali", kayahLi), ("khoj", khojki), ("sind", khudawadi), ("latn", latin), ("limb", limbu),
   ("lina", linearA), ("linb", linearB), ("lisu", lisu), ("lyci", lycian), ("lydi", lydian),
   ("mahj", mahajani), ("mlym", malayalam), ("mand", mandaic), ("mani", manichaean),
   ("gonm", masaramGondi), ("mero", meroiticHieroglyphs), ("modi", modi), ("mong", mongolian),
   ("mult", multani), ("mymr", myanmar), ("nand", nandinagari), ("newa", newa), ("nkoo", nko),
   ("onao", olOnal), ("hung", oldHungarian), ("perm", oldPermic), ("orkh", oldTurkic),
   ("ougr", oldUyghur), ("orya", oriya), ("osge", osage), ("phag", phagsPa),
   ("phlp", psalterPahlavi), ("runr", runic), ("samr", samaritan), ("shrd", sharada),
   ("shaw", shavian), ("sinh", sinhala), ("sogd", sogdian), ("sunu", sunuwar),
   ("sylo", sylotiNagri), ("syrc", syriac), ("tglg", tagalog), ("tagb", tagbanwa), ("tale", taiLe),
   ("takr", takri), ("taml", tamil), ("tang", tangut), ("telu", telugu), ("thaa", thaana),
   ("thai", thai), ("tibt", tibetan), ("tfng", tifinagh), ("tirh", tirhuta), ("todr", todhri),
   ("toto", toto), ("tutg", tuluTigalari), ("yezi", yezidi), ("yiii", yi)]

end EncodingPlan.Text.Script.Borrowed
