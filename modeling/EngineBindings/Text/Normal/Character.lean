/-! Characters in normal forms.

What a normal form knows of single characters is in three tables: what they expand to, which ones
compose to another, and the classes of marks. -/
namespace EngineBindings.Text

/-! ### What characters expand to

A character that is another one in some other form, or several of them, expands to those. The table
has runs of successive code points that expand to equally many characters: the first code point, the
number of characters, and the characters of all of them. -/

/-- The runs, in ascending order. -/
def expansions : List (Nat × Nat × String) := [
    (0xA0, 1, " "), (0xA8, 2, " \u0308"), (0xAA, 1, "a"), (0xAF, 2, " \u0304"), (0xB2, 1, "23"),
    (0xB4, 2, " \u0301"), (0xB5, 1, "μ"), (0xB8, 2, " \u0327"), (0xB9, 1, "1o"),
    (0xBC, 3, "1⁄41⁄23⁄4"), (0xC0, 2, "A\u0300A\u0301A\u0302A\u0303A\u0308A\u030a"),
    (0xC7, 2, "C\u0327E\u0300E\u0301E\u0302E\u0308I\u0300I\u0301I\u0302I\u0308"),
    (0xD1, 2, "N\u0303O\u0300O\u0301O\u0302O\u0303O\u0308"),
    (0xD9, 2, "U\u0300U\u0301U\u0302U\u0308Y\u0301"),
    (0xE0, 2, "a\u0300a\u0301a\u0302a\u0303a\u0308a\u030a"),
    (0xE7, 2, "c\u0327e\u0300e\u0301e\u0302e\u0308i\u0300i\u0301i\u0302i\u0308"),
    (0xF1, 2, "n\u0303o\u0300o\u0301o\u0302o\u0303o\u0308"),
    (0xF9, 2, "u\u0300u\u0301u\u0302u\u0308y\u0301"),
    (0xFF, 2, "y\u0308A\u0304a\u0304A\u0306a\u0306A\u0328a\u0328C\u0301c\u0301C\u0302c\u0302C\u0307c\u0307C\u030cc\u030cD\u030cd\u030c"),
    (0x112, 2, "E\u0304e\u0304E\u0306e\u0306E\u0307e\u0307E\u0328e\u0328E\u030ce\u030cG\u0302g\u0302G\u0306g\u0306G\u0307g\u0307G\u0327g\u0327H\u0302h\u0302"),
    (0x128, 2, "I\u0303i\u0303I\u0304i\u0304I\u0306i\u0306I\u0328i\u0328I\u0307"),
    (0x132, 2, "IJijJ\u0302j\u0302K\u0327k\u0327"),
    (0x139, 2, "L\u0301l\u0301L\u0327l\u0327L\u030cl\u030cL·l·"),
    (0x143, 2, "N\u0301n\u0301N\u0327n\u0327N\u030cn\u030cʼn"),
    (0x14C, 2, "O\u0304o\u0304O\u0306o\u0306O\u030bo\u030b"),
    (0x154, 2, "R\u0301r\u0301R\u0327r\u0327R\u030cr\u030cS\u0301s\u0301S\u0302s\u0302S\u0327s\u0327S\u030cs\u030cT\u0327t\u0327T\u030ct\u030c"),
    (0x168, 2, "U\u0303u\u0303U\u0304u\u0304U\u0306u\u0306U\u030au\u030aU\u030bu\u030bU\u0328u\u0328W\u0302w\u0302Y\u0302y\u0302Y\u0308Z\u0301z\u0301Z\u0307z\u0307Z\u030cz\u030c"),
    (0x17F, 1, "s"), (0x1A0, 2, "O\u031bo\u031b"), (0x1AF, 2, "U\u031bu\u031b"),
    (0x1C4, 3, "DZ\u030cDz\u030cdz\u030c"),
    (0x1C7, 2, "LJLjljNJNjnjA\u030ca\u030cI\u030ci\u030cO\u030co\u030cU\u030cu\u030c"),
    (0x1D5, 3, "U\u0308\u0304u\u0308\u0304U\u0308\u0301u\u0308\u0301U\u0308\u030cu\u0308\u030cU\u0308\u0300u\u0308\u0300"),
    (0x1DE, 3, "A\u0308\u0304a\u0308\u0304A\u0307\u0304a\u0307\u0304"),
    (0x1E2, 2, "Æ\u0304æ\u0304"), (0x1E6, 2, "G\u030cg\u030cK\u030ck\u030cO\u0328o\u0328"),
    (0x1EC, 3, "O\u0328\u0304o\u0328\u0304"),
    (0x1EE, 2, "Ʒ\u030cʒ\u030cj\u030cDZDzdzG\u0301g\u0301"), (0x1F8, 2, "N\u0300n\u0300"),
    (0x1FA, 3, "A\u030a\u0301a\u030a\u0301"),
    (0x1FC, 2, "Æ\u0301æ\u0301Ø\u0301ø\u0301A\u030fa\u030fA\u0311a\u0311E\u030fe\u030fE\u0311e\u0311I\u030fi\u030fI\u0311i\u0311O\u030fo\u030fO\u0311o\u0311R\u030fr\u030fR\u0311r\u0311"),
    (0x214, 2, "U\u030fu\u030fU\u0311u\u0311S\u0326s\u0326T\u0326t\u0326"),
    (0x21E, 2, "H\u030ch\u030c"), (0x226, 2, "A\u0307a\u0307E\u0327e\u0327"),
    (0x22A, 3, "O\u0308\u0304o\u0308\u0304O\u0303\u0304o\u0303\u0304"),
    (0x22E, 2, "O\u0307o\u0307"), (0x230, 3, "O\u0307\u0304o\u0307\u0304"),
    (0x232, 2, "Y\u0304y\u0304"), (0x2B0, 1, "hɦjrɹɻʁwy"),
    (0x2D8, 2, " \u0306 \u0307 \u030a \u0328 \u0303 \u030b"), (0x2E0, 1, "ɣlsxʕ"),
    (0x340, 1, "\u0300\u0301"), (0x343, 1, "\u0313"), (0x344, 2, "\u0308\u0301"),
    (0x374, 1, "ʹ"), (0x37A, 2, " \u0345"), (0x37E, 1, ";"), (0x384, 2, " \u0301"),
    (0x385, 3, " \u0308\u0301"), (0x386, 2, "Α\u0301"), (0x387, 1, "·"),
    (0x388, 2, "Ε\u0301Η\u0301Ι\u0301"), (0x38C, 2, "Ο\u0301"), (0x38E, 2, "Υ\u0301Ω\u0301"),
    (0x390, 3, "ι\u0308\u0301"), (0x3AA, 2, "Ι\u0308Υ\u0308α\u0301ε\u0301η\u0301ι\u0301"),
    (0x3B0, 3, "υ\u0308\u0301"), (0x3CA, 2, "ι\u0308υ\u0308ο\u0301υ\u0301ω\u0301"),
    (0x3D0, 1, "βθΥ"), (0x3D3, 2, "Υ\u0301Υ\u0308"), (0x3D5, 1, "φπ"), (0x3F0, 1, "κρς"),
    (0x3F4, 1, "Θε"), (0x400, 2, "Е\u0300Е\u0308"), (0x403, 2, "Г\u0301"), (0x407, 2, "І\u0308"),
    (0x40C, 2, "К\u0301И\u0300У\u0306"), (0x419, 2, "И\u0306"), (0x439, 2, "и\u0306"),
    (0x450, 2, "е\u0300е\u0308"), (0x453, 2, "г\u0301"), (0x457, 2, "і\u0308"),
    (0x45C, 2, "к\u0301и\u0300у\u0306"), (0x476, 2, "Ѵ\u030fѵ\u030f"),
    (0x4C1, 2, "Ж\u0306ж\u0306"), (0x4D0, 2, "А\u0306а\u0306А\u0308а\u0308"),
    (0x4D6, 2, "Е\u0306е\u0306"), (0x4DA, 2, "Ә\u0308ә\u0308Ж\u0308ж\u0308З\u0308з\u0308"),
    (0x4E2, 2, "И\u0304и\u0304И\u0308и\u0308О\u0308о\u0308"),
    (0x4EA, 2, "Ө\u0308ө\u0308Э\u0308э\u0308У\u0304у\u0304У\u0308у\u0308У\u030bу\u030bЧ\u0308ч\u0308"),
    (0x4F8, 2, "Ы\u0308ы\u0308"), (0x587, 2, "եւ"),
    (0x622, 2, "\u0627\u0653\u0627\u0654\u0648\u0654\u0627\u0655\u064a\u0654"),
    (0x675, 2, "\u0627\u0674\u0648\u0674\u06c7\u0674\u064a\u0674"), (0x6C0, 2, "\u06d5\u0654"),
    (0x6C2, 2, "\u06c1\u0654"), (0x6D3, 2, "\u06d2\u0654"), (0x929, 2, "न\u093c"),
    (0x931, 2, "र\u093c"), (0x934, 2, "ळ\u093c"),
    (0x958, 2, "क\u093cख\u093cग\u093cज\u093cड\u093cढ\u093cफ\u093cय\u093c"),
    (0x9CB, 2, "\u09c7\u09be\u09c7\u09d7"), (0x9DC, 2, "ড\u09bcঢ\u09bc"), (0x9DF, 2, "য\u09bc"),
    (0xA33, 2, "ਲ\u0a3c"), (0xA36, 2, "ਸ\u0a3c"), (0xA59, 2, "ਖ\u0a3cਗ\u0a3cਜ\u0a3c"),
    (0xA5E, 2, "ਫ\u0a3c"), (0xB48, 2, "\u0b47\u0b56"), (0xB4B, 2, "\u0b47\u0b3e\u0b47\u0b57"),
    (0xB5C, 2, "ଡ\u0b3cଢ\u0b3c"), (0xB94, 2, "ஒ\u0bd7"),
    (0xBCA, 2, "\u0bc6\u0bbe\u0bc7\u0bbe\u0bc6\u0bd7"), (0xC48, 2, "\u0c46\u0c56"),
    (0xCC0, 2, "\u0cbf\u0cd5"), (0xCC7, 2, "\u0cc6\u0cd5\u0cc6\u0cd6"),
    (0xCCA, 2, "\u0cc6\u0cc2"), (0xCCB, 3, "\u0cc6\u0cc2\u0cd5"),
    (0xD4A, 2, "\u0d46\u0d3e\u0d47\u0d3e\u0d46\u0d57"), (0xDDA, 2, "\u0dd9\u0dca"),
    (0xDDC, 2, "\u0dd9\u0dcf"), (0xDDD, 3, "\u0dd9\u0dcf\u0dca"), (0xDDE, 2, "\u0dd9\u0ddf"),
    (0xE33, 2, "\u0e4dา"), (0xEB3, 2, "\u0ecdາ"), (0xEDC, 2, "ຫນຫມ"), (0xF0C, 1, "་"),
    (0xF43, 2, "ག\u0fb7"), (0xF4D, 2, "ཌ\u0fb7"), (0xF52, 2, "ད\u0fb7"), (0xF57, 2, "བ\u0fb7"),
    (0xF5C, 2, "ཛ\u0fb7"), (0xF69, 2, "ཀ\u0fb5"), (0xF73, 2, "\u0f71\u0f72"),
    (0xF75, 2, "\u0f71\u0f74\u0fb2\u0f80"), (0xF77, 3, "\u0fb2\u0f71\u0f80"),
    (0xF78, 2, "\u0fb3\u0f80"), (0xF79, 3, "\u0fb3\u0f71\u0f80"), (0xF81, 2, "\u0f71\u0f80"),
    (0xF93, 2, "\u0f92\u0fb7"), (0xF9D, 2, "\u0f9c\u0fb7"), (0xFA2, 2, "\u0fa1\u0fb7"),
    (0xFA7, 2, "\u0fa6\u0fb7"), (0xFAC, 2, "\u0fab\u0fb7"), (0xFB9, 2, "\u0f90\u0fb5"),
    (0x1026, 2, "ဥ\u102e"),
    (0x1E00, 2, "A\u0325a\u0325B\u0307b\u0307B\u0323b\u0323B\u0331b\u0331"),
    (0x1E08, 3, "C\u0327\u0301c\u0327\u0301"),
    (0x1E0A, 2, "D\u0307d\u0307D\u0323d\u0323D\u0331d\u0331D\u0327d\u0327D\u032dd\u032d"),
    (0x1E14, 3, "E\u0304\u0300e\u0304\u0300E\u0304\u0301e\u0304\u0301"),
    (0x1E18, 2, "E\u032de\u032dE\u0330e\u0330"), (0x1E1C, 3, "E\u0327\u0306e\u0327\u0306"),
    (0x1E1E, 2, "F\u0307f\u0307G\u0304g\u0304H\u0307h\u0307H\u0323h\u0323H\u0308h\u0308H\u0327h\u0327H\u032eh\u032eI\u0330i\u0330"),
    (0x1E2E, 3, "I\u0308\u0301i\u0308\u0301"),
    (0x1E30, 2, "K\u0301k\u0301K\u0323k\u0323K\u0331k\u0331L\u0323l\u0323"),
    (0x1E38, 3, "L\u0323\u0304l\u0323\u0304"),
    (0x1E3A, 2, "L\u0331l\u0331L\u032dl\u032dM\u0301m\u0301M\u0307m\u0307M\u0323m\u0323N\u0307n\u0307N\u0323n\u0323N\u0331n\u0331N\u032dn\u032d"),
    (0x1E4C, 3, "O\u0303\u0301o\u0303\u0301O\u0303\u0308o\u0303\u0308O\u0304\u0300o\u0304\u0300O\u0304\u0301o\u0304\u0301"),
    (0x1E54, 2, "P\u0301p\u0301P\u0307p\u0307R\u0307r\u0307R\u0323r\u0323"),
    (0x1E5C, 3, "R\u0323\u0304r\u0323\u0304"),
    (0x1E5E, 2, "R\u0331r\u0331S\u0307s\u0307S\u0323s\u0323"),
    (0x1E64, 3, "S\u0301\u0307s\u0301\u0307S\u030c\u0307s\u030c\u0307S\u0323\u0307s\u0323\u0307"),
    (0x1E6A, 2, "T\u0307t\u0307T\u0323t\u0323T\u0331t\u0331T\u032dt\u032dU\u0324u\u0324U\u0330u\u0330U\u032du\u032d"),
    (0x1E78, 3, "U\u0303\u0301u\u0303\u0301U\u0304\u0308u\u0304\u0308"),
    (0x1E7C, 2, "V\u0303v\u0303V\u0323v\u0323W\u0300w\u0300W\u0301w\u0301W\u0308w\u0308W\u0307w\u0307W\u0323w\u0323X\u0307x\u0307X\u0308x\u0308Y\u0307y\u0307Z\u0302z\u0302Z\u0323z\u0323"),
    (0x1E94, 2, "Z\u0331z\u0331h\u0331t\u0308w\u030ay\u030aaʾs\u0307"),
    (0x1EA0, 2, "A\u0323a\u0323A\u0309a\u0309"),
    (0x1EA4, 3, "A\u0302\u0301a\u0302\u0301A\u0302\u0300a\u0302\u0300A\u0302\u0309a\u0302\u0309A\u0302\u0303a\u0302\u0303A\u0323\u0302a\u0323\u0302A\u0306\u0301a\u0306\u0301A\u0306\u0300a\u0306\u0300A\u0306\u0309a\u0306\u0309"),
    (0x1EB4, 3, "A\u0306\u0303a\u0306\u0303A\u0323\u0306a\u0323\u0306"),
    (0x1EB8, 2, "E\u0323e\u0323E\u0309e\u0309E\u0303e\u0303"),
    (0x1EBE, 3, "E\u0302\u0301e\u0302\u0301E\u0302\u0300e\u0302\u0300E\u0302\u0309e\u0302\u0309E\u0302\u0303e\u0302\u0303E\u0323\u0302e\u0323\u0302"),
    (0x1EC8, 2, "I\u0309i\u0309I\u0323i\u0323O\u0323o\u0323O\u0309o\u0309"),
    (0x1ED0, 3, "O\u0302\u0301o\u0302\u0301O\u0302\u0300o\u0302\u0300O\u0302\u0309o\u0302\u0309O\u0302\u0303o\u0302\u0303O\u0323\u0302o\u0323\u0302O\u031b\u0301o\u031b\u0301O\u031b\u0300o\u031b\u0300O\u031b\u0309o\u031b\u0309"),
    (0x1EE0, 3, "O\u031b\u0303o\u031b\u0303O\u031b\u0323o\u031b\u0323"),
    (0x1EE4, 2, "U\u0323u\u0323U\u0309u\u0309"),
    (0x1EE8, 3, "U\u031b\u0301u\u031b\u0301U\u031b\u0300u\u031b\u0300U\u031b\u0309u\u031b\u0309U\u031b\u0303u\u031b\u0303U\u031b\u0323u\u031b\u0323"),
    (0x1EF2, 2, "Y\u0300y\u0300Y\u0323y\u0323Y\u0309y\u0309Y\u0303y\u0303"),
    (0x1F00, 2, "α\u0313α\u0314"),
    (0x1F02, 3, "α\u0313\u0300α\u0314\u0300α\u0313\u0301α\u0314\u0301α\u0313\u0342α\u0314\u0342"),
    (0x1F08, 2, "Α\u0313Α\u0314"),
    (0x1F0A, 3, "Α\u0313\u0300Α\u0314\u0300Α\u0313\u0301Α\u0314\u0301Α\u0313\u0342Α\u0314\u0342"),
    (0x1F10, 2, "ε\u0313ε\u0314"),
    (0x1F12, 3, "ε\u0313\u0300ε\u0314\u0300ε\u0313\u0301ε\u0314\u0301"),
    (0x1F18, 2, "Ε\u0313Ε\u0314"),
    (0x1F1A, 3, "Ε\u0313\u0300Ε\u0314\u0300Ε\u0313\u0301Ε\u0314\u0301"),
    (0x1F20, 2, "η\u0313η\u0314"),
    (0x1F22, 3, "η\u0313\u0300η\u0314\u0300η\u0313\u0301η\u0314\u0301η\u0313\u0342η\u0314\u0342"),
    (0x1F28, 2, "Η\u0313Η\u0314"),
    (0x1F2A, 3, "Η\u0313\u0300Η\u0314\u0300Η\u0313\u0301Η\u0314\u0301Η\u0313\u0342Η\u0314\u0342"),
    (0x1F30, 2, "ι\u0313ι\u0314"),
    (0x1F32, 3, "ι\u0313\u0300ι\u0314\u0300ι\u0313\u0301ι\u0314\u0301ι\u0313\u0342ι\u0314\u0342"),
    (0x1F38, 2, "Ι\u0313Ι\u0314"),
    (0x1F3A, 3, "Ι\u0313\u0300Ι\u0314\u0300Ι\u0313\u0301Ι\u0314\u0301Ι\u0313\u0342Ι\u0314\u0342"),
    (0x1F40, 2, "ο\u0313ο\u0314"),
    (0x1F42, 3, "ο\u0313\u0300ο\u0314\u0300ο\u0313\u0301ο\u0314\u0301"),
    (0x1F48, 2, "Ο\u0313Ο\u0314"),
    (0x1F4A, 3, "Ο\u0313\u0300Ο\u0314\u0300Ο\u0313\u0301Ο\u0314\u0301"),
    (0x1F50, 2, "υ\u0313υ\u0314"),
    (0x1F52, 3, "υ\u0313\u0300υ\u0314\u0300υ\u0313\u0301υ\u0314\u0301υ\u0313\u0342υ\u0314\u0342"),
    (0x1F59, 2, "Υ\u0314"), (0x1F5B, 3, "Υ\u0314\u0300"), (0x1F5D, 3, "Υ\u0314\u0301"),
    (0x1F5F, 3, "Υ\u0314\u0342"), (0x1F60, 2, "ω\u0313ω\u0314"),
    (0x1F62, 3, "ω\u0313\u0300ω\u0314\u0300ω\u0313\u0301ω\u0314\u0301ω\u0313\u0342ω\u0314\u0342"),
    (0x1F68, 2, "Ω\u0313Ω\u0314"),
    (0x1F6A, 3, "Ω\u0313\u0300Ω\u0314\u0300Ω\u0313\u0301Ω\u0314\u0301Ω\u0313\u0342Ω\u0314\u0342"),
    (0x1F70, 2, "α\u0300α\u0301ε\u0300ε\u0301η\u0300η\u0301ι\u0300ι\u0301ο\u0300ο\u0301υ\u0300υ\u0301ω\u0300ω\u0301"),
    (0x1F80, 3, "α\u0313\u0345α\u0314\u0345"),
    (0x1F82, 4, "α\u0313\u0300\u0345α\u0314\u0300\u0345α\u0313\u0301\u0345α\u0314\u0301\u0345α\u0313\u0342\u0345α\u0314\u0342\u0345"),
    (0x1F88, 3, "Α\u0313\u0345Α\u0314\u0345"),
    (0x1F8A, 4, "Α\u0313\u0300\u0345Α\u0314\u0300\u0345Α\u0313\u0301\u0345Α\u0314\u0301\u0345Α\u0313\u0342\u0345Α\u0314\u0342\u0345"),
    (0x1F90, 3, "η\u0313\u0345η\u0314\u0345"),
    (0x1F92, 4, "η\u0313\u0300\u0345η\u0314\u0300\u0345η\u0313\u0301\u0345η\u0314\u0301\u0345η\u0313\u0342\u0345η\u0314\u0342\u0345"),
    (0x1F98, 3, "Η\u0313\u0345Η\u0314\u0345"),
    (0x1F9A, 4, "Η\u0313\u0300\u0345Η\u0314\u0300\u0345Η\u0313\u0301\u0345Η\u0314\u0301\u0345Η\u0313\u0342\u0345Η\u0314\u0342\u0345"),
    (0x1FA0, 3, "ω\u0313\u0345ω\u0314\u0345"),
    (0x1FA2, 4, "ω\u0313\u0300\u0345ω\u0314\u0300\u0345ω\u0313\u0301\u0345ω\u0314\u0301\u0345ω\u0313\u0342\u0345ω\u0314\u0342\u0345"),
    (0x1FA8, 3, "Ω\u0313\u0345Ω\u0314\u0345"),
    (0x1FAA, 4, "Ω\u0313\u0300\u0345Ω\u0314\u0300\u0345Ω\u0313\u0301\u0345Ω\u0314\u0301\u0345Ω\u0313\u0342\u0345Ω\u0314\u0342\u0345"),
    (0x1FB0, 2, "α\u0306α\u0304"), (0x1FB2, 3, "α\u0300\u0345"), (0x1FB3, 2, "α\u0345"),
    (0x1FB4, 3, "α\u0301\u0345"), (0x1FB6, 2, "α\u0342"), (0x1FB7, 3, "α\u0342\u0345"),
    (0x1FB8, 2, "Α\u0306Α\u0304Α\u0300Α\u0301Α\u0345 \u0313"), (0x1FBE, 1, "ι"),
    (0x1FBF, 2, " \u0313 \u0342"), (0x1FC1, 3, " \u0308\u0342η\u0300\u0345"),
    (0x1FC3, 2, "η\u0345"), (0x1FC4, 3, "η\u0301\u0345"), (0x1FC6, 2, "η\u0342"),
    (0x1FC7, 3, "η\u0342\u0345"), (0x1FC8, 2, "Ε\u0300Ε\u0301Η\u0300Η\u0301Η\u0345"),
    (0x1FCD, 3, " \u0313\u0300 \u0313\u0301 \u0313\u0342"), (0x1FD0, 2, "ι\u0306ι\u0304"),
    (0x1FD2, 3, "ι\u0308\u0300ι\u0308\u0301"), (0x1FD6, 2, "ι\u0342"),
    (0x1FD7, 3, "ι\u0308\u0342"), (0x1FD8, 2, "Ι\u0306Ι\u0304Ι\u0300Ι\u0301"),
    (0x1FDD, 3, " \u0314\u0300 \u0314\u0301 \u0314\u0342"), (0x1FE0, 2, "υ\u0306υ\u0304"),
    (0x1FE2, 3, "υ\u0308\u0300υ\u0308\u0301"), (0x1FE4, 2, "ρ\u0313ρ\u0314υ\u0342"),
    (0x1FE7, 3, "υ\u0308\u0342"), (0x1FE8, 2, "Υ\u0306Υ\u0304Υ\u0300Υ\u0301Ρ\u0314"),
    (0x1FED, 3, " \u0308\u0300 \u0308\u0301"), (0x1FEF, 1, "`"), (0x1FF2, 3, "ω\u0300\u0345"),
    (0x1FF3, 2, "ω\u0345"), (0x1FF4, 3, "ω\u0301\u0345"), (0x1FF6, 2, "ω\u0342"),
    (0x1FF7, 3, "ω\u0342\u0345"),
    (0x1FF8, 2, "Ο\u0300Ο\u0301Ω\u0300Ω\u0301Ω\u0345 \u0301 \u0314"), (0x2000, 1, "           "),
    (0x2011, 1, "‐"), (0x2017, 2, " \u0333"), (0x2024, 1, "."), (0x2025, 2, ".."),
    (0x2026, 3, "..."), (0x202F, 1, " "), (0x2033, 2, "′′"), (0x2034, 3, "′′′"),
    (0x2036, 2, "‵‵"), (0x2037, 3, "‵‵‵"), (0x203C, 2, "!!"), (0x203E, 2, " \u0305"),
    (0x2047, 2, "???!!?"), (0x2057, 4, "′′′′"), (0x205F, 1, " "), (0x2070, 1, "0i"),
    (0x2074, 1, "456789+−=()n0123456789+−=()"), (0x20A8, 2, "Rs"), (0x2100, 3, "a/ca/s"),
    (0x2102, 1, "C"), (0x2103, 2, "°C"), (0x2105, 3, "c/oc/u"), (0x2107, 1, "Ɛ"),
    (0x2109, 2, "°F"), (0x210A, 1, "gHHHhħIILl"), (0x2115, 1, "N"), (0x2116, 2, "No"),
    (0x2119, 1, "PQRRR"), (0x2120, 2, "SM"), (0x2121, 3, "TEL"), (0x2122, 2, "TM"),
    (0x2124, 1, "Z"), (0x2126, 1, "Ω"), (0x2128, 1, "Z"), (0x212A, 1, "K"),
    (0x212B, 2, "A\u030a"), (0x212C, 1, "BC"), (0x212F, 1, "eEF"),
    (0x2133, 1, "Mo\u05d0\u05d1\u05d2\u05d3i"), (0x213D, 1, "γΓΠ∑"), (0x2145, 1, "Ddeij"),
    (0x2153, 3, "1⁄32⁄31⁄52⁄53⁄54⁄51⁄65⁄61⁄83⁄85⁄87⁄8"), (0x215F, 2, "1⁄"), (0x2160, 1, "I"),
    (0x2161, 2, "II"), (0x2162, 3, "III"), (0x2163, 2, "IV"), (0x2164, 1, "V"),
    (0x2165, 2, "VI"), (0x2166, 3, "VII"), (0x2167, 4, "VIII"), (0x2168, 2, "IX"),
    (0x2169, 1, "X"), (0x216A, 2, "XI"), (0x216B, 3, "XII"), (0x216C, 1, "LCDMi"),
    (0x2171, 2, "ii"), (0x2172, 3, "iii"), (0x2173, 2, "iv"), (0x2174, 1, "v"),
    (0x2175, 2, "vi"), (0x2176, 3, "vii"), (0x2177, 4, "viii"), (0x2178, 2, "ix"),
    (0x2179, 1, "x"), (0x217A, 2, "xi"), (0x217B, 3, "xii"), (0x217C, 1, "lcdm"),
    (0x219A, 2, "←\u0338→\u0338"), (0x21AE, 2, "↔\u0338"), (0x21CD, 2, "⇐\u0338⇔\u0338⇒\u0338"),
    (0x2204, 2, "∃\u0338"), (0x2209, 2, "∈\u0338"), (0x220C, 2, "∋\u0338"),
    (0x2224, 2, "∣\u0338"), (0x2226, 2, "∥\u0338"), (0x222C, 2, "∫∫"), (0x222D, 3, "∫∫∫"),
    (0x222F, 2, "∮∮"), (0x2230, 3, "∮∮∮"), (0x2241, 2, "∼\u0338"), (0x2244, 2, "≃\u0338"),
    (0x2247, 2, "≅\u0338"), (0x2249, 2, "≈\u0338"), (0x2260, 2, "=\u0338"),
    (0x2262, 2, "≡\u0338"), (0x226D, 2, "≍\u0338<\u0338>\u0338≤\u0338≥\u0338"),
    (0x2274, 2, "≲\u0338≳\u0338"), (0x2278, 2, "≶\u0338≷\u0338"), (0x2280, 2, "≺\u0338≻\u0338"),
    (0x2284, 2, "⊂\u0338⊃\u0338"), (0x2288, 2, "⊆\u0338⊇\u0338"),
    (0x22AC, 2, "⊢\u0338⊨\u0338⊩\u0338⊫\u0338"), (0x22E0, 2, "≼\u0338≽\u0338⊑\u0338⊒\u0338"),
    (0x22EA, 2, "⊲\u0338⊳\u0338⊴\u0338⊵\u0338"), (0x2329, 1, "〈〉"), (0x2460, 1, "123456789"),
    (0x2469, 2, "1011121314151617181920"), (0x2474, 3, "(1)(2)(3)(4)(5)(6)(7)(8)(9)"),
    (0x247D, 4, "(10)(11)(12)(13)(14)(15)(16)(17)(18)(19)(20)"),
    (0x2488, 2, "1.2.3.4.5.6.7.8.9."),
    (0x2491, 3, "10.11.12.13.14.15.16.17.18.19.20.(a)(b)(c)(d)(e)"),
    (0x24A1, 3, "(f)(g)(h)(i)(j)(k)(l)(m)(n)(o)(p)(q)(r)(s)(t)(u)"),
    (0x24B1, 3, "(v)(w)(x)(y)(z)"),
    (0x24B6, 1, "ABCDEFGHIJKLMNOPQRSTUVWXYZabcdefghijklmnopqrstuv"), (0x24E6, 1, "wxyz0"),
    (0x2A0C, 4, "∫∫∫∫"), (0x2A74, 3, "::="), (0x2A75, 2, "=="), (0x2A76, 3, "==="),
    (0x2ADC, 2, "⫝\u0338"), (0x2E9F, 1, "母"), (0x2EF3, 1, "龟"),
    (0x2F00, 1, "一丨丶丿乙亅二亠人儿入八冂冖冫几凵刀力勹匕匚匸十卜卩厂厶又口囗土士夂夊夕大女子宀寸小尢尸屮山巛工"),
    (0x2F30, 1, "己巾干幺广廴廾弋弓彐彡彳心戈戶手支攴文斗斤方无日曰月木欠止歹殳毋比毛氏气水火爪父爻爿片牙牛犬玄玉"),
    (0x2F60, 1, "瓜瓦甘生用田疋疒癶白皮皿目矛矢石示禸禾穴立竹米糸缶网羊羽老而耒耳聿肉臣自至臼舌舛舟艮色艸虍虫血行"),
    (0x2F90, 1, "衣襾見角言谷豆豕豸貝赤走足身車辛辰辵邑酉釆里金長門阜隶隹雨靑非面革韋韭音頁風飛食首香馬骨高髟鬥鬯"),
    (0x2FC0, 1, "鬲鬼魚鳥鹵鹿麥麻黃黍黑黹黽鼎鼓鼠鼻齊齒龍龜龠"), (0x3000, 1, " "), (0x3036, 1, "〒"),
    (0x3038, 1, "十卄卅"), (0x304C, 2, "か\u3099"), (0x304E, 2, "き\u3099"), (0x3050, 2, "く\u3099"),
    (0x3052, 2, "け\u3099"), (0x3054, 2, "こ\u3099"), (0x3056, 2, "さ\u3099"),
    (0x3058, 2, "し\u3099"), (0x305A, 2, "す\u3099"), (0x305C, 2, "せ\u3099"),
    (0x305E, 2, "そ\u3099"), (0x3060, 2, "た\u3099"), (0x3062, 2, "ち\u3099"),
    (0x3065, 2, "つ\u3099"), (0x3067, 2, "て\u3099"), (0x3069, 2, "と\u3099"),
    (0x3070, 2, "は\u3099は\u309a"), (0x3073, 2, "ひ\u3099ひ\u309a"), (0x3076, 2, "ふ\u3099ふ\u309a"),
    (0x3079, 2, "へ\u3099へ\u309a"), (0x307C, 2, "ほ\u3099ほ\u309a"), (0x3094, 2, "う\u3099"),
    (0x309B, 2, " \u3099 \u309a"), (0x309E, 2, "ゝ\u3099より"), (0x30AC, 2, "カ\u3099"),
    (0x30AE, 2, "キ\u3099"), (0x30B0, 2, "ク\u3099"), (0x30B2, 2, "ケ\u3099"),
    (0x30B4, 2, "コ\u3099"), (0x30B6, 2, "サ\u3099"), (0x30B8, 2, "シ\u3099"),
    (0x30BA, 2, "ス\u3099"), (0x30BC, 2, "セ\u3099"), (0x30BE, 2, "ソ\u3099"),
    (0x30C0, 2, "タ\u3099"), (0x30C2, 2, "チ\u3099"), (0x30C5, 2, "ツ\u3099"),
    (0x30C7, 2, "テ\u3099"), (0x30C9, 2, "ト\u3099"), (0x30D0, 2, "ハ\u3099ハ\u309a"),
    (0x30D3, 2, "ヒ\u3099ヒ\u309a"), (0x30D6, 2, "フ\u3099フ\u309a"), (0x30D9, 2, "ヘ\u3099ヘ\u309a"),
    (0x30DC, 2, "ホ\u3099ホ\u309a"), (0x30F4, 2, "ウ\u3099"),
    (0x30F7, 2, "ワ\u3099ヰ\u3099ヱ\u3099ヲ\u3099"), (0x30FE, 2, "ヽ\u3099コト"),
    (0x3131, 1, "\u1100\u1101\u11aa\u1102\u11ac\u11ad\u1103\u1104\u1105\u11b0\u11b1\u11b2\u11b3\u11b4\u11b5\u111a\u1106\u1107\u1108\u1121\u1109\u110a\u110b\u110c\u110d\u110e\u110f\u1110\u1111\u1112\u1161\u1162\u1163\u1164\u1165\u1166\u1167\u1168\u1169\u116a\u116b\u116c\u116d\u116e\u116f\u1170\u1171\u1172"),
    (0x3161, 1, "\u1173\u1174\u1175\u1160\u1114\u1115\u11c7\u11c8\u11cc\u11ce\u11d3\u11d7\u11d9\u111c\u11dd\u11df\u111d\u111e\u1120\u1122\u1123\u1127\u1129\u112b\u112c\u112d\u112e\u112f\u1132\u1136\u1140\u1147\u114c\u11f1\u11f2\u1157\u1158\u1159\u1184\u1185\u1188\u1191\u1192\u1194\u119e\u11a1"),
    (0x3192, 1, "一二三四上中下甲乙丙丁天地人"),
    (0x3200, 3, "(\u1100)(\u1102)(\u1103)(\u1105)(\u1106)(\u1107)(\u1109)(\u110b)(\u110c)(\u110e)(\u110f)(\u1110)(\u1111)(\u1112)"),
    (0x320E, 4, "(\u1100\u1161)(\u1102\u1161)(\u1103\u1161)(\u1105\u1161)(\u1106\u1161)(\u1107\u1161)(\u1109\u1161)(\u110b\u1161)(\u110c\u1161)(\u110e\u1161)(\u110f\u1161)(\u1110\u1161)"),
    (0x321A, 4, "(\u1111\u1161)(\u1112\u1161)(\u110c\u116e)"),
    (0x3220, 3, "(一)(二)(三)(四)(五)(六)(七)(八)(九)(十)(月)(火)(水)(木)(金)(土)"),
    (0x3230, 3, "(日)(株)(有)(社)(名)(特)(財)(祝)(労)(代)(呼)(学)(監)(企)(資)(協)"), (0x3240, 3, "(祭)(休)(自)(至)"),
    (0x3251, 2, "212223242526272829303132333435"),
    (0x3260, 1, "\u1100\u1102\u1103\u1105\u1106\u1107\u1109\u110b\u110c\u110e\u110f\u1110\u1111\u1112"),
    (0x326E, 2, "\u1100\u1161\u1102\u1161\u1103\u1161\u1105\u1161\u1106\u1161\u1107\u1161\u1109\u1161\u110b\u1161\u110c\u1161\u110e\u1161\u110f\u1161\u1110\u1161\u1111\u1161\u1112\u1161"),
    (0x3280, 1, "一二三四五六七八九十月火水木金土日株有社名特財祝労秘男女適優印注項休写正上中下左右医宗学監企資協"), (0x32B0, 1, "夜"),
    (0x32B1, 2, "3637383940414243444546474849501月2月3月4月5月6月7月8月9月"), (0x32C9, 3, "10月11月12月"),
    (0x32D0, 1, "アイウエオカキクケコサシスセソタチツテトナニヌネノハヒフヘホマミムメモヤユヨラリルレロワヰヱヲ"), (0x3300, 5, "アハ\u309aート"),
    (0x3301, 4, "アルファ"), (0x3302, 5, "アンヘ\u309aア"), (0x3303, 3, "アール"),
    (0x3304, 5, "イニンク\u3099"), (0x3305, 3, "インチウォン"), (0x3307, 6, "エスクート\u3099"),
    (0x3308, 4, "エーカー"), (0x3309, 3, "オンスオームカイリ"),
    (0x330C, 4, "カラットカロリーカ\u3099ロンカ\u3099ンマキ\u3099カ\u3099キ\u3099ニーキュリー"),
    (0x3313, 6, "キ\u3099ルタ\u3099ー"), (0x3314, 2, "キロ"), (0x3315, 6, "キロク\u3099ラムキロメートル"),
    (0x3317, 5, "キロワット"), (0x3318, 4, "ク\u3099ラム"), (0x3319, 6, "ク\u3099ラムトンクルセ\u3099イロ"),
    (0x331B, 4, "クローネ"), (0x331C, 3, "ケースコルナ"), (0x331E, 4, "コーホ\u309aサイクル"),
    (0x3320, 5, "サンチームシリンク\u3099"), (0x3322, 3, "センチセント"), (0x3324, 4, "タ\u3099ース"),
    (0x3325, 3, "テ\u3099シト\u3099ル"), (0x3327, 2, "トンナノ"), (0x3329, 3, "ノットハイツ"),
    (0x332B, 6, "ハ\u309aーセント"), (0x332C, 4, "ハ\u309aーツ"), (0x332D, 5, "ハ\u3099ーレル"),
    (0x332E, 6, "ヒ\u309aアストル"), (0x332F, 4, "ヒ\u309aクル"), (0x3330, 3, "ヒ\u309aコヒ\u3099ル"),
    (0x3332, 6, "ファラット\u3099"), (0x3333, 4, "フィート"), (0x3334, 6, "フ\u3099ッシェル"),
    (0x3335, 3, "フラン"), (0x3336, 5, "ヘクタール"), (0x3337, 3, "ヘ\u309aソ"), (0x3338, 4, "ヘ\u309aニヒ"),
    (0x3339, 3, "ヘルツ"), (0x333A, 4, "ヘ\u309aンス"), (0x333B, 5, "ヘ\u309aーシ\u3099"),
    (0x333C, 4, "ヘ\u3099ータ"), (0x333D, 5, "ホ\u309aイント"), (0x333E, 4, "ホ\u3099ルト"),
    (0x333F, 2, "ホン"), (0x3340, 5, "ホ\u309aント\u3099"), (0x3341, 3, "ホールホーン"),
    (0x3343, 4, "マイクロ"), (0x3344, 3, "マイルマッハマルク"), (0x3347, 5, "マンション"), (0x3348, 4, "ミクロン"),
    (0x3349, 2, "ミリ"), (0x334A, 6, "ミリハ\u3099ール"), (0x334B, 3, "メカ\u3099"),
    (0x334C, 5, "メカ\u3099トン"), (0x334D, 4, "メートルヤート\u3099"), (0x334F, 3, "ヤールユアン"),
    (0x3351, 4, "リットル"), (0x3352, 2, "リラ"), (0x3353, 4, "ルヒ\u309aー"), (0x3354, 5, "ルーフ\u3099ル"),
    (0x3355, 2, "レム"), (0x3356, 6, "レントケ\u3099ン"), (0x3357, 3, "ワット"),
    (0x3358, 2, "0点1点2点3点4点5点6点7点8点9点"),
    (0x3362, 3, "10点11点12点13点14点15点16点17点18点19点20点21点22点23点24点hPa"), (0x3372, 2, "daAU"),
    (0x3374, 3, "bar"), (0x3375, 2, "oVpc"), (0x337B, 2, "平成昭和大正明治"), (0x337F, 4, "株式会社"),
    (0x3380, 2, "pAnAμAmAkAKBMBGB"), (0x3388, 3, "cal"), (0x3389, 4, "kcal"),
    (0x338A, 2, "pFnFμFμgmgkgHz"), (0x3391, 3, "kHzMHzGHzTHz"),
    (0x3395, 2, "μlmldlklfmnmμmmmcmkm"), (0x339F, 3, "mm2cm2"), (0x33A1, 2, "m2"),
    (0x33A2, 3, "km2mm3cm3"), (0x33A5, 2, "m3"), (0x33A6, 3, "km3m∕s"), (0x33A8, 4, "m∕s2"),
    (0x33A9, 2, "Pa"), (0x33AA, 3, "kPaMPaGParad"), (0x33AE, 5, "rad∕s"), (0x33AF, 6, "rad∕s2"),
    (0x33B0, 2, "psnsμsmspVnVμVmVkVMVpWnWμWmWkWMWkΩMΩ"), (0x33C2, 4, "a.m."),
    (0x33C3, 2, "Bqcccd"), (0x33C6, 4, "C∕kg"), (0x33C7, 3, "Co."),
    (0x33C8, 2, "dBGyhaHPinKKKMktlmln"), (0x33D2, 3, "log"), (0x33D3, 2, "lxmb"),
    (0x33D5, 3, "milmol"), (0x33D7, 2, "PH"), (0x33D8, 4, "p.m."), (0x33D9, 3, "PPM"),
    (0x33DA, 2, "PRsrSvWb"), (0x33E0, 2, "1日2日3日4日5日6日7日8日9日"),
    (0x33E9, 3, "10日11日12日13日14日15日16日17日18日19日20日21日22日23日24日25日"),
    (0x33F9, 3, "26日27日28日29日30日31日"),
    (0xF900, 1, "豈更車賈滑串句龜龜契金喇奈懶癩羅蘿螺裸邏樂洛烙珞落酪駱亂卵欄爛蘭鸞嵐濫藍襤拉臘蠟廊朗浪狼郎來冷勞"),
    (0xF930, 1, "擄櫓爐盧老蘆虜路露魯鷺碌祿綠菉錄鹿論壟弄籠聾牢磊賂雷壘屢樓淚漏累縷陋勒肋凜凌稜綾菱陵讀拏樂諾丹寧"),
    (0xF960, 1, "怒率異北磻便復不泌數索參塞省葉說殺辰沈拾若掠略亮兩凉梁糧良諒量勵呂女廬旅濾礪閭驪麗黎力曆歷轢年憐"),
    (0xF990, 1, "戀撚漣煉璉秊練聯輦蓮連鍊列劣咽烈裂說廉念捻殮簾獵令囹寧嶺怜玲瑩羚聆鈴零靈領例禮醴隸惡了僚寮尿料樂"),
    (0xF9C0, 1, "燎療蓼遼龍暈阮劉杻柳流溜琉留硫紐類六戮陸倫崙淪輪律慄栗率隆利吏履易李梨泥理痢罹裏裡里離匿溺吝燐璘"),
    (0xF9F0, 1, "藺隣鱗麟林淋臨立笠粒狀炙識什茶刺切度拓糖宅洞暴輻行降見廓兀嗀"), (0xFA10, 1, "塚"), (0xFA12, 1, "晴"),
    (0xFA15, 1, "凞猪益礼神祥福靖精羽"), (0xFA20, 1, "蘒"), (0xFA22, 1, "諸"), (0xFA25, 1, "逸都"),
    (0xFA2A, 1, "飯飼館鶴"), (0xFA30, 1, "侮僧免勉勤卑喝嘆器塀墨層屮悔慨憎懲敏既暑梅海渚漢煮爫琢碑社祉祈祐祖祝禍禎穀突節練縉繁署者臭艹艹著"),
    (0xFA60, 1, "褐視謁謹賓贈辶逸難響頻"), (0xFB00, 2, "fffifl"), (0xFB03, 3, "ffiffl"),
    (0xFB05, 2, "stst"), (0xFB13, 2, "մնմեմիվնմխ"), (0xFB1D, 2, "\u05d9\u05b4"),
    (0xFB1F, 2, "\u05f2\u05b7"),
    (0xFB20, 1, "\u05e2\u05d0\u05d3\u05d4\u05db\u05dc\u05dd\u05e8\u05ea+"),
    (0xFB2A, 2, "\u05e9\u05c1\u05e9\u05c2"), (0xFB2C, 3, "\u05e9\u05bc\u05c1\u05e9\u05bc\u05c2"),
    (0xFB2E, 2, "\u05d0\u05b7\u05d0\u05b8\u05d0\u05bc\u05d1\u05bc\u05d2\u05bc\u05d3\u05bc\u05d4\u05bc\u05d5\u05bc\u05d6\u05bc"),
    (0xFB38, 2, "\u05d8\u05bc\u05d9\u05bc\u05da\u05bc\u05db\u05bc\u05dc\u05bc"),
    (0xFB3E, 2, "\u05de\u05bc"), (0xFB40, 2, "\u05e0\u05bc\u05e1\u05bc"),
    (0xFB43, 2, "\u05e3\u05bc\u05e4\u05bc"),
    (0xFB46, 2, "\u05e6\u05bc\u05e7\u05bc\u05e8\u05bc\u05e9\u05bc\u05ea\u05bc\u05d5\u05b9\u05d1\u05bf\u05db\u05bf\u05e4\u05bf\u05d0\u05dc"),
    (0xFB50, 1, "\u0671\u0671\u067b\u067b\u067b\u067b\u067e\u067e\u067e\u067e\u0680\u0680\u0680\u0680\u067a\u067a\u067a\u067a\u067f\u067f\u067f\u067f\u0679\u0679\u0679\u0679\u06a4\u06a4\u06a4\u06a4\u06a6\u06a6\u06a6\u06a6\u0684\u0684\u0684\u0684\u0683\u0683\u0683\u0683\u0686\u0686\u0686\u0686\u0687\u0687"),
    (0xFB80, 1, "\u0687\u0687\u068d\u068d\u068c\u068c\u068e\u068e\u0688\u0688\u0698\u0698\u0691\u0691\u06a9\u06a9\u06a9\u06a9\u06af\u06af\u06af\u06af\u06b3\u06b3\u06b3\u06b3\u06b1\u06b1\u06b1\u06b1\u06ba\u06ba\u06bb\u06bb\u06bb\u06bb"),
    (0xFBA4, 2, "\u06d5\u0654\u06d5\u0654"),
    (0xFBA6, 1, "\u06c1\u06c1\u06c1\u06c1\u06be\u06be\u06be\u06be\u06d2\u06d2"),
    (0xFBB0, 2, "\u06d2\u0654\u06d2\u0654"),
    (0xFBD3, 1, "\u06ad\u06ad\u06ad\u06ad\u06c7\u06c7\u06c6\u06c6\u06c8\u06c8"),
    (0xFBDD, 2, "\u06c7\u0674"),
    (0xFBDE, 1, "\u06cb\u06cb\u06c5\u06c5\u06c9\u06c9\u06d0\u06d0\u06d0\u06d0\u0649\u0649"),
    (0xFBEA, 3, "\u064a\u0654\u0627\u064a\u0654\u0627\u064a\u0654\u06d5\u064a\u0654\u06d5\u064a\u0654\u0648\u064a\u0654\u0648\u064a\u0654\u06c7\u064a\u0654\u06c7\u064a\u0654\u06c6\u064a\u0654\u06c6\u064a\u0654\u06c8\u064a\u0654\u06c8\u064a\u0654\u06d0\u064a\u0654\u06d0\u064a\u0654\u06d0\u064a\u0654\u0649"),
    (0xFBFA, 3, "\u064a\u0654\u0649\u064a\u0654\u0649"), (0xFBFC, 1, "\u06cc\u06cc\u06cc\u06cc"),
    (0xFC00, 3, "\u064a\u0654\u062c\u064a\u0654\u062d\u064a\u0654\u0645\u064a\u0654\u0649\u064a\u0654\u064a"),
    (0xFC05, 2, "\u0628\u062c\u0628\u062d\u0628\u062e\u0628\u0645\u0628\u0649\u0628\u064a\u062a\u062c\u062a\u062d\u062a\u062e\u062a\u0645\u062a\u0649\u062a\u064a\u062b\u062c\u062b\u0645\u062b\u0649\u062b\u064a\u062c\u062d\u062c\u0645\u062d\u062c\u062d\u0645\u062e\u062c\u062e\u062d\u062e\u0645\u0633\u062c"),
    (0xFC1D, 2, "\u0633\u062d\u0633\u062e\u0633\u0645\u0635\u062d\u0635\u0645\u0636\u062c\u0636\u062d\u0636\u062e\u0636\u0645\u0637\u062d\u0637\u0645\u0638\u0645\u0639\u062c\u0639\u0645\u063a\u062c\u063a\u0645\u0641\u062c\u0641\u062d\u0641\u062e\u0641\u0645\u0641\u0649\u0641\u064a\u0642\u062d\u0642\u0645"),
    (0xFC35, 2, "\u0642\u0649\u0642\u064a\u0643\u0627\u0643\u062c\u0643\u062d\u0643\u062e\u0643\u0644\u0643\u0645\u0643\u0649\u0643\u064a\u0644\u062c\u0644\u062d\u0644\u062e\u0644\u0645\u0644\u0649\u0644\u064a\u0645\u062c\u0645\u062d\u0645\u062e\u0645\u0645\u0645\u0649\u0645\u064a\u0646\u062c\u0646\u062d"),
    (0xFC4D, 2, "\u0646\u062e\u0646\u0645\u0646\u0649\u0646\u064a\u0647\u062c\u0647\u0645\u0647\u0649\u0647\u064a\u064a\u062c\u064a\u062d\u064a\u062e\u064a\u0645\u064a\u0649\u064a\u064a\u0630\u0670\u0631\u0670\u0649\u0670"),
    (0xFC5E, 3, " \u064c\u0651 \u064d\u0651 \u064e\u0651 \u064f\u0651 \u0650\u0651 \u0651\u0670\u064a\u0654\u0631\u064a\u0654\u0632\u064a\u0654\u0645\u064a\u0654\u0646\u064a\u0654\u0649\u064a\u0654\u064a"),
    (0xFC6A, 2, "\u0628\u0631\u0628\u0632\u0628\u0645\u0628\u0646\u0628\u0649\u0628\u064a\u062a\u0631\u062a\u0632\u062a\u0645\u062a\u0646\u062a\u0649\u062a\u064a\u062b\u0631\u062b\u0632\u062b\u0645\u062b\u0646\u062b\u0649\u062b\u064a\u0641\u0649\u0641\u064a\u0642\u0649\u0642\u064a\u0643\u0627\u0643\u0644"),
    (0xFC82, 2, "\u0643\u0645\u0643\u0649\u0643\u064a\u0644\u0645\u0644\u0649\u0644\u064a\u0645\u0627\u0645\u0645\u0646\u0631\u0646\u0632\u0646\u0645\u0646\u0646\u0646\u0649\u0646\u064a\u0649\u0670\u064a\u0631\u064a\u0632\u064a\u0645\u064a\u0646\u064a\u0649\u064a\u064a"),
    (0xFC97, 3, "\u064a\u0654\u062c\u064a\u0654\u062d\u064a\u0654\u062e\u064a\u0654\u0645\u064a\u0654\u0647"),
    (0xFC9C, 2, "\u0628\u062c\u0628\u062d\u0628\u062e\u0628\u0645\u0628\u0647\u062a\u062c\u062a\u062d\u062a\u062e\u062a\u0645\u062a\u0647\u062b\u0645\u062c\u062d\u062c\u0645\u062d\u062c\u062d\u0645\u062e\u062c\u062e\u0645\u0633\u062c\u0633\u062d\u0633\u062e\u0633\u0645\u0635\u062d\u0635\u062e\u0635\u0645"),
    (0xFCB4, 2, "\u0636\u062c\u0636\u062d\u0636\u062e\u0636\u0645\u0637\u062d\u0638\u0645\u0639\u062c\u0639\u0645\u063a\u062c\u063a\u0645\u0641\u062c\u0641\u062d\u0641\u062e\u0641\u0645\u0642\u062d\u0642\u0645\u0643\u062c\u0643\u062d\u0643\u062e\u0643\u0644\u0643\u0645\u0644\u062c\u0644\u062d\u0644\u062e"),
    (0xFCCC, 2, "\u0644\u0645\u0644\u0647\u0645\u062c\u0645\u062d\u0645\u062e\u0645\u0645\u0646\u062c\u0646\u062d\u0646\u062e\u0646\u0645\u0646\u0647\u0647\u062c\u0647\u0645\u0647\u0670\u064a\u062c\u064a\u062d\u064a\u062e\u064a\u0645\u064a\u0647"),
    (0xFCDF, 3, "\u064a\u0654\u0645\u064a\u0654\u0647"),
    (0xFCE1, 2, "\u0628\u0645\u0628\u0647\u062a\u0645\u062a\u0647\u062b\u0645\u062b\u0647\u0633\u0645\u0633\u0647\u0634\u0645\u0634\u0647\u0643\u0644\u0643\u0645\u0644\u0645\u0646\u0645\u0646\u0647\u064a\u0645\u064a\u0647"),
    (0xFCF2, 3, "\u0640\u064e\u0651\u0640\u064f\u0651\u0640\u0650\u0651"),
    (0xFCF5, 2, "\u0637\u0649\u0637\u064a\u0639\u0649\u0639\u064a\u063a\u0649\u063a\u064a\u0633\u0649\u0633\u064a\u0634\u0649\u0634\u064a\u062d\u0649\u062d\u064a\u062c\u0649\u062c\u064a\u062e\u0649\u062e\u064a\u0635\u0649\u0635\u064a\u0636\u0649\u0636\u064a\u0634\u062c\u0634\u062d\u0634\u062e\u0634\u0645"),
    (0xFD0D, 2, "\u0634\u0631\u0633\u0631\u0635\u0631\u0636\u0631\u0637\u0649\u0637\u064a\u0639\u0649\u0639\u064a\u063a\u0649\u063a\u064a\u0633\u0649\u0633\u064a\u0634\u0649\u0634\u064a\u062d\u0649\u062d\u064a\u062c\u0649\u062c\u064a\u062e\u0649\u062e\u064a\u0635\u0649\u0635\u064a\u0636\u0649\u0636\u064a"),
    (0xFD25, 2, "\u0634\u062c\u0634\u062d\u0634\u062e\u0634\u0645\u0634\u0631\u0633\u0631\u0635\u0631\u0636\u0631\u0634\u062c\u0634\u062d\u0634\u062e\u0634\u0645\u0633\u0647\u0634\u0647\u0637\u0645\u0633\u062c\u0633\u062d\u0633\u062e\u0634\u062c\u0634\u062d\u0634\u062e\u0637\u0645\u0638\u0645\u0627\u064b"),
    (0xFD3D, 2, "\u0627\u064b"),
    (0xFD50, 3, "\u062a\u062c\u0645\u062a\u062d\u062c\u062a\u062d\u062c\u062a\u062d\u0645\u062a\u062e\u0645\u062a\u0645\u062c\u062a\u0645\u062d\u062a\u0645\u062e\u062c\u0645\u062d\u062c\u0645\u062d\u062d\u0645\u064a\u062d\u0645\u0649\u0633\u062d\u062c\u0633\u062c\u062d\u0633\u062c\u0649\u0633\u0645\u062d"),
    (0xFD60, 3, "\u0633\u0645\u062d\u0633\u0645\u062c\u0633\u0645\u0645\u0633\u0645\u0645\u0635\u062d\u062d\u0635\u062d\u062d\u0635\u0645\u0645\u0634\u062d\u0645\u0634\u062d\u0645\u0634\u062c\u064a\u0634\u0645\u062e\u0634\u0645\u062e\u0634\u0645\u0645\u0634\u0645\u0645\u0636\u062d\u0649\u0636\u062e\u0645"),
    (0xFD70, 3, "\u0636\u062e\u0645\u0637\u0645\u062d\u0637\u0645\u062d\u0637\u0645\u0645\u0637\u0645\u064a\u0639\u062c\u0645\u0639\u0645\u0645\u0639\u0645\u0645\u0639\u0645\u0649\u063a\u0645\u0645\u063a\u0645\u064a\u063a\u0645\u0649\u0641\u062e\u0645\u0641\u062e\u0645\u0642\u0645\u062d\u0642\u0645\u0645"),
    (0xFD80, 3, "\u0644\u062d\u0645\u0644\u062d\u064a\u0644\u062d\u0649\u0644\u062c\u062c\u0644\u062c\u062c\u0644\u062e\u0645\u0644\u062e\u0645\u0644\u0645\u062d\u0644\u0645\u062d\u0645\u062d\u062c\u0645\u062d\u0645\u0645\u062d\u064a\u0645\u062c\u062d\u0645\u062c\u0645\u0645\u062e\u062c\u0645\u062e\u0645"),
    (0xFD92, 3, "\u0645\u062c\u062e\u0647\u0645\u062c\u0647\u0645\u0645\u0646\u062d\u0645\u0646\u062d\u0649\u0646\u062c\u0645\u0646\u062c\u0645\u0646\u062c\u0649\u0646\u0645\u064a\u0646\u0645\u0649\u064a\u0645\u0645\u064a\u0645\u0645\u0628\u062e\u064a\u062a\u062c\u064a\u062a\u062c\u0649\u062a\u062e\u064a"),
    (0xFDA2, 3, "\u062a\u062e\u0649\u062a\u0645\u064a\u062a\u0645\u0649\u062c\u0645\u064a\u062c\u062d\u0649\u062c\u0645\u0649\u0633\u062e\u0649\u0635\u062d\u064a\u0634\u062d\u064a\u0636\u062d\u064a\u0644\u062c\u064a\u0644\u0645\u064a\u064a\u062d\u064a\u064a\u062c\u064a\u064a\u0645\u064a\u0645\u0645\u064a"),
    (0xFDB2, 3, "\u0642\u0645\u064a\u0646\u062d\u064a\u0642\u0645\u062d\u0644\u062d\u0645\u0639\u0645\u064a\u0643\u0645\u064a\u0646\u062c\u062d\u0645\u062e\u064a\u0644\u062c\u0645\u0643\u0645\u0645\u0644\u062c\u0645\u0646\u062c\u062d\u062c\u062d\u064a\u062d\u062c\u064a\u0645\u062c\u064a\u0641\u0645\u064a"),
    (0xFDC2, 3, "\u0628\u062d\u064a\u0643\u0645\u0645\u0639\u062c\u0645\u0635\u0645\u0645\u0633\u062e\u064a\u0646\u062c\u064a"),
    (0xFDF0, 3, "\u0635\u0644\u06d2\u0642\u0644\u06d2"),
    (0xFDF2, 4, "\u0627\u0644\u0644\u0647\u0627\u0643\u0628\u0631\u0645\u062d\u0645\u062f\u0635\u0644\u0639\u0645\u0631\u0633\u0648\u0644\u0639\u0644\u064a\u0647\u0648\u0633\u0644\u0645"),
    (0xFDF9, 3, "\u0635\u0644\u0649"),
    (0xFDFA, 18, "\u0635\u0644\u0649 \u0627\u0644\u0644\u0647 \u0639\u0644\u064a\u0647 \u0648\u0633\u0644\u0645"),
    (0xFDFB, 8, "\u062c\u0644 \u062c\u0644\u0627\u0644\u0647"),
    (0xFDFC, 4, "\u0631\u06cc\u0627\u0644"), (0xFE30, 2, ".."),
    (0xFE31, 1, "—–__()\x7b\x7d〔〕【】《》〈〉「」『』"), (0xFE49, 2, " \u0305 \u0305 \u0305 \u0305"),
    (0xFE4D, 1, "___,、."), (0xFE54, 1, ";:?!—()\x7b\x7d〔〕#&*+-<>="), (0xFE68, 1, "\\$%@"),
    (0xFE70, 2, " \u064b\u0640\u064b \u064c"), (0xFE74, 2, " \u064d"),
    (0xFE76, 2, " \u064e\u0640\u064e \u064f\u0640\u064f \u0650\u0640\u0650 \u0651\u0640\u0651 \u0652\u0640\u0652"),
    (0xFE80, 1, "\u0621"),
    (0xFE81, 2, "\u0627\u0653\u0627\u0653\u0627\u0654\u0627\u0654\u0648\u0654\u0648\u0654\u0627\u0655\u0627\u0655\u064a\u0654\u064a\u0654\u064a\u0654\u064a\u0654"),
    (0xFE8D, 1, "\u0627\u0627\u0628\u0628\u0628\u0628\u0629\u0629\u062a\u062a\u062a\u062a\u062b\u062b\u062b\u062b\u062c\u062c\u062c\u062c\u062d\u062d\u062d\u062d\u062e\u062e\u062e\u062e\u062f\u062f\u0630\u0630\u0631\u0631\u0632\u0632\u0633\u0633\u0633\u0633\u0634\u0634\u0634\u0634\u0635\u0635\u0635\u0635"),
    (0xFEBD, 1, "\u0636\u0636\u0636\u0636\u0637\u0637\u0637\u0637\u0638\u0638\u0638\u0638\u0639\u0639\u0639\u0639\u063a\u063a\u063a\u063a\u0641\u0641\u0641\u0641\u0642\u0642\u0642\u0642\u0643\u0643\u0643\u0643\u0644\u0644\u0644\u0644\u0645\u0645\u0645\u0645\u0646\u0646\u0646\u0646\u0647\u0647\u0647\u0647"),
    (0xFEED, 1, "\u0648\u0648\u0649\u0649\u064a\u064a\u064a\u064a"),
    (0xFEF5, 3, "\u0644\u0627\u0653\u0644\u0627\u0653\u0644\u0627\u0654\u0644\u0627\u0654\u0644\u0627\u0655\u0644\u0627\u0655"),
    (0xFEFB, 2, "\u0644\u0627\u0644\u0627"),
    (0xFF01, 1, "!\"#$%&'()*+,-./0123456789:;<=>?@ABCDEFGHIJKLMNOP"),
    (0xFF31, 1, "QRSTUVWXYZ[\\]^_`abcdefghijklmnopqrstuvwxyz\x7b|\x7d~⦅⦆"),
    (0xFF61, 1, "。「」、・ヲァィゥェォャュョッーアイウエオカキクケコサシスセソタチツテトナニヌネノハヒフヘホマミ"),
    (0xFF91, 1, "ムメモヤユヨラリルレロワン\u3099\u309a\u1160\u1100\u1101\u11aa\u1102\u11ac\u11ad\u1103\u1104\u1105\u11b0\u11b1\u11b2\u11b3\u11b4\u11b5\u111a\u1106\u1107\u1108\u1121\u1109\u110a\u110b\u110c\u110d\u110e\u110f\u1110\u1111\u1112"),
    (0xFFC2, 1, "\u1161\u1162\u1163\u1164\u1165\u1166"),
    (0xFFCA, 1, "\u1167\u1168\u1169\u116a\u116b\u116c"),
    (0xFFD2, 1, "\u116d\u116e\u116f\u1170\u1171\u1172"), (0xFFDA, 1, "\u1173\u1174\u1175"),
    (0xFFE0, 1, "¢£¬"), (0xFFE3, 2, " \u0304"), (0xFFE4, 1, "¦¥₩"), (0xFFE8, 1, "│←↑→↓■○"),
    (0x1D400, 1, "ABCDEFGHIJKLMNOPQRSTUVWXYZabcdefghijklmnopqrstuv"),
    (0x1D430, 1, "wxyzABCDEFGHIJKLMNOPQRSTUVWXYZabcdefg"),
    (0x1D456, 1, "ijklmnopqrstuvwxyzABCDEFGHIJKLMNOPQRSTUVWXYZabcd"),
    (0x1D486, 1, "efghijklmnopqrstuvwxyzA"), (0x1D49E, 1, "CD"), (0x1D4A2, 1, "G"),
    (0x1D4A5, 1, "JK"), (0x1D4A9, 1, "NOPQ"), (0x1D4AE, 1, "STUVWXYZabcd"), (0x1D4BB, 1, "f"),
    (0x1D4BD, 1, "hijk"), (0x1D4C2, 1, "mn"),
    (0x1D4C5, 1, "pqrstuvwxyzABCDEFGHIJKLMNOPQRSTUVWXYZabcdefghijk"),
    (0x1D4F5, 1, "lmnopqrstuvwxyzAB"), (0x1D507, 1, "DEFG"), (0x1D50D, 1, "JKLMNOPQ"),
    (0x1D516, 1, "STUVWXY"), (0x1D51E, 1, "abcdefghijklmnopqrstuvwxyzAB"), (0x1D53B, 1, "DEFG"),
    (0x1D540, 1, "IJKLM"), (0x1D546, 1, "O"), (0x1D54A, 1, "STUVWXY"),
    (0x1D552, 1, "abcdefghijklmnopqrstuvwxyzABCDEFGHIJKLMNOPQRSTUV"),
    (0x1D582, 1, "WXYZabcdefghijklmnopqrstuvwxyzABCDEFGHIJKLMNOPQR"),
    (0x1D5B2, 1, "STUVWXYZabcdefghijklmnopqrstuvwxyzABCDEFGHIJKLMN"),
    (0x1D5E2, 1, "OPQRSTUVWXYZabcdefghijklmnopqrstuvwxyzABCDEFGHIJ"),
    (0x1D612, 1, "KLMNOPQRSTUVWXYZabcdefghijklmnopqrstuvwxyzABCDEF"),
    (0x1D642, 1, "GHIJKLMNOPQRSTUVWXYZabcdefghijklmnopqrstuvwxyzAB"),
    (0x1D672, 1, "CDEFGHIJKLMNOPQRSTUVWXYZabcdefghijklmnopqrstuvwx"), (0x1D6A2, 1, "yz"),
    (0x1D6A8, 1, "ΑΒΓΔΕΖΗΘΙΚΛΜΝΞΟΠΡΘΣΤΥΦΧΨΩ∇αβγδεζηθικλμνξοπρςστυφ"),
    (0x1D6D8, 1, "χψω∂εθκφρπΑΒΓΔΕΖΗΘΙΚΛΜΝΞΟΠΡΘΣΤΥΦΧΨΩ∇αβγδεζηθικλμ"),
    (0x1D708, 1, "νξοπρςστυφχψω∂εθκφρπΑΒΓΔΕΖΗΘΙΚΛΜΝΞΟΠΡΘΣΤΥΦΧΨΩ∇αβ"),
    (0x1D738, 1, "γδεζηθικλμνξοπρςστυφχψω∂εθκφρπΑΒΓΔΕΖΗΘΙΚΛΜΝΞΟΠΡΘ"),
    (0x1D768, 1, "ΣΤΥΦΧΨΩ∇αβγδεζηθικλμνξοπρςστυφχψω∂εθκφρπΑΒΓΔΕΖΗΘ"),
    (0x1D798, 1, "ΙΚΛΜΝΞΟΠΡΘΣΤΥΦΧΨΩ∇αβγδεζηθικλμνξοπρςστυφχψω∂εθκφ"), (0x1D7C8, 1, "ρπ"),
    (0x1D7CE, 1, "012345678901234567890123456789012345678901234567"), (0x1D7FE, 1, "89"),
    (0x2F800, 1, "丽丸乁𠄢你侮侻倂偺備僧像㒞𠘺免兔兤具𠔜㒹內再𠕋冗冤仌冬况𩇟凵刃㓟刻剆割剷㔕勇勉勤勺包匆北卉卑博即"),
    (0x2F830, 1, "卽卿卿卿𠨬灰及叟𠭣叫叱吆咞吸呈周咢哶唐啓啣善善喙喫喳嗂圖嘆圗噑噴切壮城埴堍型堲報墬𡓤売壷夆多夢奢"),
    (0x2F860, 1, "𡚨𡛪姬娛娧姘婦㛮𡍪嬈嬾嬾𡧈寃寘寧寳𡬘寿将弳尢㞁屠屮峀岍𡷤嵃𡷦嵮嵫嵼巡巢㠯巽帨帽幩㡢𢆃㡼庰庳庶廊𪎒"),
    (0x2F890, 1, "廾𢌱𢌱舁弢弢㣇𣊸𦇚形彫㣣徚忍志忹悁㤺㤜悔𢛔惇慈慌慎慌慺憎憲憤憯懞懲懶成戛扝抱拔捐𢬌挽拼捨掃揤𢯱搢"),
    (0x2F8C0, 1, "揅掩㨮摩摾撝摷㩬敏敬𣀊旣書晉㬙暑㬈㫤冒冕最暜肭䏙朗望朡杞杓𣏃㭉柺枅桒梅𣑭梎栟椔㮝楂榣槪檨𣚣櫛㰘次"),
    (0x2F8F0, 1, "𣢧歔㱎歲殟殺殻𣪍𡴋𣫺汎𣲼沿泍汧洖派海流浩浸涅𣴞洴港湮㴳滋滇𣻑淹潮𣽞𣾎濆瀹瀞瀛㶖灊災灷炭𠔥煅𤉣熜䎫"),
    (0x2F920, 1, "爨爵牐𤘈犀犕𤜵𤠔獺王㺬玥㺸㺸瑇瑜瑱璅瓊㼛甤𤰶甾𤲒異𢆟瘐𤾡𤾸𥁄㿼䀈直𥃳𥃲𥄙𥄳眞真真睊䀹瞋䁆䂖𥐝硎碌"),
    (0x2F950, 1, "磌䃣𥘦祖𥚚𥛅福秫䄯穀穊穏𥥼𥪧𥪧窮䈂𥮫篆築䈧𥲀糒䊠糨糣紀𥾆絣䌁緇縂繅䌴𦈨𦉇䍙𦋙罺𦌾羕翺者𦓚𦔣聠𦖨聰"),
    (0x2F980, 1, "𣍟䏕育脃䐋脾媵𦞧𦞵𣎓𣎜舁舄辞䑫芑芋芝劳花芳芽苦𦬼若茝荣莭茣莽菧著荓菊菌菜𦰶𦵫𦳕䔫蓱蓳蔖𧏊蕤𦼬䕝䕡"),
    (0x2F9B0, 1, "𦾱𧃒䕫虐虜虧虩蚩蚈蜎蛢蝹蜨蝫螆䵗蟡蠁䗹衠衣𧙧裗裞䘵裺㒻𧢮𧥦䚾䛇誠諭變豕𧲨貫賁贛起𧼯𠠄跋趼跰𠣞軔輸"),
    (0x2F9E0, 1, "𨗒𨗭邔郱鄑𨜮鄛鈸鋗鋘鉼鏹鐕𨯺開䦕閷𨵷䧦雃嶲霣𩅅𩈚䩮䩶韠𩐊䪲𩒖頋頋頩𩖶飢䬳餩馧駂駾䯎𩬰鬒鱀鳽䳎䳭鵧"),
    (0x2FA10, 1, "𪃎䳸𪄅𪈎𪊑麻䵖黹黾鼅鼏鼖鼻𪘀")]

/-- The expansions of notes beyond the basic plane, by their code points. -/
def noteExpansions : List (Nat × List Nat) := [
    (0x1D15E, [0x1D157, 0x1D165]), (0x1D15F, [0x1D158, 0x1D165]), (0x1D160, [0x1D158, 0x1D165, 0x1D16E]),
    (0x1D161, [0x1D158, 0x1D165, 0x1D16F]), (0x1D162, [0x1D158, 0x1D165, 0x1D170]), (0x1D163, [0x1D158, 0x1D165, 0x1D171]),
    (0x1D164, [0x1D158, 0x1D165, 0x1D172]), (0x1D1BB, [0x1D1B9, 0x1D165]), (0x1D1BC, [0x1D1BA, 0x1D165]),
    (0x1D1BD, [0x1D1B9, 0x1D165, 0x1D16E]), (0x1D1BE, [0x1D1BA, 0x1D165, 0x1D16E]), (0x1D1BF, [0x1D1B9, 0x1D165, 0x1D16F]),
    (0x1D1C0, [0x1D1BA, 0x1D165, 0x1D16F])]

/-! ### Characters that others compose to

A character and one behind it, often a mark, may compose to one. -/

/-- The second characters by their code points, each with first ones and what they compose to in
turn. A second character may occur again. -/
def composites : List (Nat × String) := [
    (0x300, "AÀEÈIÌNǸOÒUÙWẀYỲaàeèiìnǹoòuùwẁyỳ¨῭ÂẦÊỀÔỒ"),
    (0x300, "ÜǛâầêềôồüǜĂẰăằĒḔēḕŌṐōṑƠỜơờƯỪưừΑᾺΕῈΗῊΙῚΟῸ"),
    (0x300, "ΥῪΩῺαὰεὲηὴιὶοὸυὺωὼϊῒϋῢЕЀИЍеѐиѝἀἂἁἃἈἊἉἋἐἒ"),
    (0x300, "ἑἓἘἚἙἛἠἢἡἣἨἪἩἫἰἲἱἳἸἺἹἻὀὂὁὃὈὊὉὋὐὒὑὓὙὛὠὢὡὣ"), (0x300, "ὨὪὩὫ᾿῍῾῝"),
    (0x301, "AÁCĆEÉGǴIÍKḰLĹMḾNŃOÓPṔRŔSŚUÚWẂYÝZŹaácćeé"),
    (0x301, "gǵiíkḱlĺmḿnńoópṕrŕsśuúwẃyýzź¨΅ÂẤÅǺÆǼÇḈÊẾ"),
    (0x301, "ÏḮÔỐÕṌØǾÜǗâấåǻæǽçḉêếïḯôốõṍøǿüǘĂẮăắĒḖēḗŌṒ"),
    (0x301, "ōṓŨṸũṹƠỚơớƯỨưứΑΆΕΈΗΉΙΊΟΌΥΎΩΏαάεέηήιίοόυύ"),
    (0x301, "ωώϊΐϋΰϒϓГЃКЌгѓкќἀἄἁἅἈἌἉἍἐἔἑἕἘἜἙἝἠἤἡἥἨἬἩἭ"),
    (0x301, "ἰἴἱἵἸἼἹἽὀὄὁὅὈὌὉὍὐὔὑὕὙὝὠὤὡὥὨὬὩὭ᾿῎῾῞"),
    (0x302, "AÂCĈEÊGĜHĤIÎJĴOÔSŜUÛWŴYŶZẐaâcĉeêgĝhĥiîjĵ"), (0x302, "oôsŝuûwŵyŷzẑẠẬạậẸỆẹệỌỘọộ"),
    (0x303, "AÃEẼIĨNÑOÕUŨVṼYỸaãeẽiĩnñoõuũvṽyỹÂẪÊỄÔỖâẫ"), (0x303, "êễôỗĂẴăẵƠỠơỡƯỮưữ"),
    (0x304, "AĀEĒGḠIĪOŌUŪYȲaāeēgḡiīoōuūyȳÄǞÆǢÕȬÖȪÜǕäǟ"),
    (0x304, "æǣõȭöȫüǖǪǬǫǭȦǠȧǡȮȰȯȱΑᾹΙῙΥῩαᾱιῑυῡИӢУӮиӣуӯ"), (0x304, "ḶḸḷḹṚṜṛṝ"),
    (0x306, "AĂEĔGĞIĬOŎUŬaăeĕgğiĭoŏuŭȨḜȩḝΑᾸΙῘΥῨαᾰιῐυῠ"), (0x306, "АӐЕӖЖӁИЙУЎаӑеӗжӂийуўẠẶạặ"),
    (0x307, "AȦBḂCĊDḊEĖFḞGĠHḢIİMṀNṄOȮPṖRṘSṠTṪWẆXẊYẎZŻ"),
    (0x307, "aȧbḃcċdḋeėfḟgġhḣmṁnṅoȯpṗrṙsṡtṫwẇxẋyẏzżŚṤ"), (0x307, "śṥŠṦšṧſẛṢṨṣṩ"),
    (0x308, "AÄEËHḦIÏOÖUÜWẄXẌYŸaäeëhḧiïoötẗuüwẅxẍyÿÕṎ"),
    (0x308, "õṏŪṺūṻΙΪΥΫιϊυϋϒϔІЇАӒЕЁЖӜЗӞИӤОӦУӰЧӴЫӸЭӬаӓ"), (0x308, "еёжӝзӟиӥоӧуӱчӵыӹэӭіїӘӚәӛӨӪөӫ"),
    (0x309, "AẢEẺIỈOỎUỦYỶaảeẻiỉoỏuủyỷÂẨÊỂÔỔâẩêểôổĂẲăẳ"), (0x309, "ƠỞơởƯỬưử"),
    (0x30A, "AÅUŮaåuůwẘyẙ"), (0x30B, "OŐUŰoőuűУӲуӳ"),
    (0x30C, "AǍCČDĎEĚGǦHȞIǏKǨLĽNŇOǑRŘSŠTŤUǓZŽaǎcčdďeě"),
    (0x30C, "gǧhȟiǐjǰkǩlľnňoǒrřsštťuǔzžÜǙüǚƷǮʒǯ"), (0x30F, "AȀEȄIȈOȌRȐUȔaȁeȅiȉoȍrȑuȕѴѶѵѷ"),
    (0x311, "AȂEȆIȊOȎRȒUȖaȃeȇiȋoȏrȓuȗ"), (0x313, "ΑἈΕἘΗἨΙἸΟὈΩὨαἀεἐηἠιἰοὀρῤυὐωὠ"),
    (0x314, "ΑἉΕἙΗἩΙἹΟὉΡῬΥὙΩὩαἁεἑηἡιἱοὁρῥυὑωὡ"), (0x31B, "OƠUƯoơuư"),
    (0x323, "AẠBḄDḌEẸHḤIỊKḲLḶMṂNṆOỌRṚSṢTṬUỤVṾWẈYỴZẒaạ"),
    (0x323, "bḅdḍeẹhḥiịkḳlḷmṃnṇoọrṛsṣtṭuụvṿwẉyỵzẓƠỢơợ"), (0x323, "ƯỰưự"), (0x324, "UṲuṳ"),
    (0x325, "AḀaḁ"), (0x326, "SȘTȚsștț"), (0x327, "CÇDḐEȨGĢHḨKĶLĻNŅRŖSŞTŢcçdḑeȩgģhḩkķlļnņrŗ"),
    (0x327, "sştţ"), (0x328, "AĄEĘIĮOǪUŲaąeęiįoǫuų"), (0x32D, "DḒEḘLḼNṊTṰUṶdḓeḙlḽnṋtṱuṷ"),
    (0x32E, "HḪhḫ"), (0x330, "EḚIḬUṴeḛiḭuṵ"), (0x331, "BḆDḎKḴLḺNṈRṞTṮZẔbḇdḏhẖkḵlḻnṉrṟtṯzẕ"),
    (0x338, "<≮=≠>≯←↚→↛↔↮⇐⇍⇒⇏⇔⇎∃∄∈∉∋∌∣∤∥∦∼≁≃≄≅≇≈≉≍≭≡≢"),
    (0x338, "≤≰≥≱≲≴≳≵≶≸≷≹≺⊀≻⊁≼⋠≽⋡⊂⊄⊃⊅⊆⊈⊇⊉⊑⋢⊒⋣⊢⊬⊨⊭⊩⊮⊫⊯"), (0x338, "⊲⋪⊳⋫⊴⋬⊵⋭"),
    (0x342, "¨῁αᾶηῆιῖυῦωῶϊῗϋῧἀἆἁἇἈἎἉἏἠἦἡἧἨἮἩἯἰἶἱἷἸἾἹἿ"), (0x342, "ὐὖὑὗὙὟὠὦὡὧὨὮὩὯ᾿῏῾῟"),
    (0x345, "ΑᾼΗῌΩῼάᾴήῄαᾳηῃωῳώῴἀᾀἁᾁἂᾂἃᾃἄᾄἅᾅἆᾆἇᾇἈᾈἉᾉἊᾊ"),
    (0x345, "ἋᾋἌᾌἍᾍἎᾎἏᾏἠᾐἡᾑἢᾒἣᾓἤᾔἥᾕἦᾖἧᾗἨᾘἩᾙἪᾚἫᾛἬᾜἭᾝἮᾞ"),
    (0x345, "ἯᾟὠᾠὡᾡὢᾢὣᾣὤᾤὥᾥὦᾦὧᾧὨᾨὩᾩὪᾪὫᾫὬᾬὭᾭὮᾮὯᾯὰᾲὴῂὼῲ"), (0x345, "ᾶᾷῆῇῶῷ"),
    (0x653, "\u0627\u0622"),
    (0x654, "\u0627\u0623\u0648\u0624\u064a\u0626\u06c1\u06c2\u06d2\u06d3\u06d5\u06c0"),
    (0x655, "\u0627\u0625"), (0x93C, "नऩरऱळऴ"), (0x9BE, "\u09c7\u09cb"), (0x9D7, "\u09c7\u09cc"),
    (0xB3E, "\u0b47\u0b4b"), (0xB56, "\u0b47\u0b48"), (0xB57, "\u0b47\u0b4c"),
    (0xBBE, "\u0bc6\u0bca\u0bc7\u0bcb"), (0xBD7, "ஒஔ\u0bc6\u0bcc"), (0xC56, "\u0c46\u0c48"),
    (0xCC2, "\u0cc6\u0cca"), (0xCD5, "\u0cbf\u0cc0\u0cc6\u0cc7\u0cca\u0ccb"),
    (0xCD6, "\u0cc6\u0cc8"), (0xD3E, "\u0d46\u0d4a\u0d47\u0d4b"), (0xD57, "\u0d46\u0d4c"),
    (0xDCA, "\u0dd9\u0dda\u0ddc\u0ddd"), (0xDCF, "\u0dd9\u0ddc"), (0xDDF, "\u0dd9\u0dde"),
    (0x102E, "ဥဦ"),
    (0x1B35, "ᬅᬆᬇᬈᬉᬊᬋᬌᬍᬎᬑᬒ\u1b3a\u1b3b\u1b3c\u1b3d\u1b3e\u1b40\u1b3f\u1b41\u1b42\u1b43"),
    (0x3099, "うゔかがきぎくぐけげこごさざしじすずせぜそぞただちぢつづてでとどはばひびふぶへべ"),
    (0x3099, "ほぼゝゞウヴカガキギクグケゲコゴサザシジスズセゼソゾタダチヂツヅテデトドハバヒビ"), (0x3099, "フブヘベホボワヷヰヸヱヹヲヺヽヾ"),
    (0x309A, "はぱひぴふぷへぺほぽハパヒピフプヘペホポ")]

/-- The code points of such characters beyond the basic plane: first, second, composed. -/
def highComposites : List (Nat × Nat × Nat) := [
    (0x11099, 0x110BA, 0x1109A), (0x1109B, 0x110BA, 0x1109C), (0x110A5, 0x110BA, 0x110AB),
    (0x11131, 0x11127, 0x1112E), (0x11132, 0x11127, 0x1112F), (0x11347, 0x1133E, 0x1134B),
    (0x11347, 0x11357, 0x1134C), (0x114B9, 0x114B0, 0x114BC), (0x114B9, 0x114BA, 0x114BB),
    (0x114B9, 0x114BD, 0x114BE), (0x115B8, 0x115AF, 0x115BA), (0x115B9, 0x115AF, 0x115BB),
    (0x11935, 0x11930, 0x11938)]

/-! ### Classes of marks

Marks of different classes are put on a character in different places, so their order says nothing;
the class tells the order that they are brought into. -/

/-- Ranges of the code points of marks, ascending, with the class of each. -/
def markRanges : List (Nat × Nat × Nat) := [
    (0x300, 0x314, 230), (0x315, 0x315, 232), (0x316, 0x319, 220), (0x31A, 0x31A, 232),
    (0x31B, 0x31B, 216), (0x31C, 0x320, 220), (0x321, 0x322, 202), (0x323, 0x326, 220),
    (0x327, 0x328, 202), (0x329, 0x333, 220), (0x334, 0x338, 1), (0x339, 0x33C, 220),
    (0x33D, 0x344, 230), (0x345, 0x345, 240), (0x346, 0x346, 230), (0x347, 0x349, 220),
    (0x34A, 0x34C, 230), (0x34D, 0x34E, 220), (0x350, 0x352, 230), (0x353, 0x356, 220),
    (0x357, 0x357, 230), (0x358, 0x358, 232), (0x359, 0x35A, 220), (0x35B, 0x35B, 230),
    (0x35C, 0x35C, 233), (0x35D, 0x35E, 234), (0x35F, 0x35F, 233), (0x360, 0x361, 234),
    (0x362, 0x362, 233), (0x363, 0x36F, 230), (0x483, 0x487, 230), (0x591, 0x591, 220),
    (0x592, 0x595, 230), (0x596, 0x596, 220), (0x597, 0x599, 230), (0x59A, 0x59A, 222),
    (0x59B, 0x59B, 220), (0x59C, 0x5A1, 230), (0x5A2, 0x5A7, 220), (0x5A8, 0x5A9, 230),
    (0x5AA, 0x5AA, 220), (0x5AB, 0x5AC, 230), (0x5AD, 0x5AD, 222), (0x5AE, 0x5AE, 228),
    (0x5AF, 0x5AF, 230), (0x5B0, 0x5B0, 10), (0x5B1, 0x5B1, 11), (0x5B2, 0x5B2, 12),
    (0x5B3, 0x5B3, 13), (0x5B4, 0x5B4, 14), (0x5B5, 0x5B5, 15), (0x5B6, 0x5B6, 16),
    (0x5B7, 0x5B7, 17), (0x5B8, 0x5B8, 18), (0x5B9, 0x5BA, 19), (0x5BB, 0x5BB, 20),
    (0x5BC, 0x5BC, 21), (0x5BD, 0x5BD, 22), (0x5BF, 0x5BF, 23), (0x5C1, 0x5C1, 24),
    (0x5C2, 0x5C2, 25), (0x5C4, 0x5C4, 230), (0x5C5, 0x5C5, 220), (0x5C7, 0x5C7, 18),
    (0x610, 0x617, 230), (0x618, 0x618, 30), (0x619, 0x619, 31), (0x61A, 0x61A, 32),
    (0x64B, 0x64B, 27), (0x64C, 0x64C, 28), (0x64D, 0x64D, 29), (0x64E, 0x64E, 30),
    (0x64F, 0x64F, 31), (0x650, 0x650, 32), (0x651, 0x651, 33), (0x652, 0x652, 34),
    (0x653, 0x654, 230), (0x655, 0x656, 220), (0x657, 0x65B, 230), (0x65C, 0x65C, 220),
    (0x65D, 0x65E, 230), (0x65F, 0x65F, 220), (0x670, 0x670, 35), (0x6D6, 0x6DC, 230),
    (0x6DF, 0x6E2, 230), (0x6E3, 0x6E3, 220), (0x6E4, 0x6E4, 230), (0x6E7, 0x6E8, 230),
    (0x6EA, 0x6EA, 220), (0x6EB, 0x6EC, 230), (0x6ED, 0x6ED, 220), (0x711, 0x711, 36),
    (0x730, 0x730, 230), (0x731, 0x731, 220), (0x732, 0x733, 230), (0x734, 0x734, 220),
    (0x735, 0x736, 230), (0x737, 0x739, 220), (0x73A, 0x73A, 230), (0x73B, 0x73C, 220),
    (0x73D, 0x73D, 230), (0x73E, 0x73E, 220), (0x73F, 0x741, 230), (0x742, 0x742, 220),
    (0x743, 0x743, 230), (0x744, 0x744, 220), (0x745, 0x745, 230), (0x746, 0x746, 220),
    (0x747, 0x747, 230), (0x748, 0x748, 220), (0x749, 0x74A, 230), (0x7EB, 0x7F1, 230),
    (0x7F2, 0x7F2, 220), (0x7F3, 0x7F3, 230), (0x7FD, 0x7FD, 220), (0x816, 0x819, 230),
    (0x81B, 0x823, 230), (0x825, 0x827, 230), (0x829, 0x82D, 230), (0x859, 0x85B, 220),
    (0x898, 0x898, 230), (0x899, 0x89B, 220), (0x89C, 0x89F, 230), (0x8CA, 0x8CE, 230),
    (0x8CF, 0x8D3, 220), (0x8D4, 0x8E1, 230), (0x8E3, 0x8E3, 220), (0x8E4, 0x8E5, 230),
    (0x8E6, 0x8E6, 220), (0x8E7, 0x8E8, 230), (0x8E9, 0x8E9, 220), (0x8EA, 0x8EC, 230),
    (0x8ED, 0x8EF, 220), (0x8F0, 0x8F0, 27), (0x8F1, 0x8F1, 28), (0x8F2, 0x8F2, 29),
    (0x8F3, 0x8F5, 230), (0x8F6, 0x8F6, 220), (0x8F7, 0x8F8, 230), (0x8F9, 0x8FA, 220),
    (0x8FB, 0x8FF, 230), (0x93C, 0x93C, 7), (0x94D, 0x94D, 9), (0x951, 0x951, 230),
    (0x952, 0x952, 220), (0x953, 0x954, 230), (0x9BC, 0x9BC, 7), (0x9CD, 0x9CD, 9),
    (0x9FE, 0x9FE, 230), (0xA3C, 0xA3C, 7), (0xA4D, 0xA4D, 9), (0xABC, 0xABC, 7),
    (0xACD, 0xACD, 9), (0xB3C, 0xB3C, 7), (0xB4D, 0xB4D, 9), (0xBCD, 0xBCD, 9),
    (0xC3C, 0xC3C, 7), (0xC4D, 0xC4D, 9), (0xC55, 0xC55, 84), (0xC56, 0xC56, 91),
    (0xCBC, 0xCBC, 7), (0xCCD, 0xCCD, 9), (0xD3B, 0xD3C, 9), (0xD4D, 0xD4D, 9),
    (0xDCA, 0xDCA, 9), (0xE38, 0xE39, 103), (0xE3A, 0xE3A, 9), (0xE48, 0xE4B, 107),
    (0xEB8, 0xEB9, 118), (0xEBA, 0xEBA, 9), (0xEC8, 0xECB, 122), (0xF18, 0xF19, 220),
    (0xF35, 0xF35, 220), (0xF37, 0xF37, 220), (0xF39, 0xF39, 216), (0xF71, 0xF71, 129),
    (0xF72, 0xF72, 130), (0xF74, 0xF74, 132), (0xF7A, 0xF7D, 130), (0xF80, 0xF80, 130),
    (0xF82, 0xF83, 230), (0xF84, 0xF84, 9), (0xF86, 0xF87, 230), (0xFC6, 0xFC6, 220),
    (0x1037, 0x1037, 7), (0x1039, 0x103A, 9), (0x108D, 0x108D, 220), (0x135D, 0x135F, 230),
    (0x1714, 0x1715, 9), (0x1734, 0x1734, 9), (0x17D2, 0x17D2, 9), (0x17DD, 0x17DD, 230),
    (0x18A9, 0x18A9, 228), (0x1939, 0x1939, 222), (0x193A, 0x193A, 230), (0x193B, 0x193B, 220),
    (0x1A17, 0x1A17, 230), (0x1A18, 0x1A18, 220), (0x1A60, 0x1A60, 9), (0x1A75, 0x1A7C, 230),
    (0x1A7F, 0x1A7F, 220), (0x1AB0, 0x1AB4, 230), (0x1AB5, 0x1ABA, 220), (0x1ABB, 0x1ABC, 230),
    (0x1ABD, 0x1ABD, 220), (0x1ABF, 0x1AC0, 220), (0x1AC1, 0x1AC2, 230), (0x1AC3, 0x1AC4, 220),
    (0x1AC5, 0x1AC9, 230), (0x1ACA, 0x1ACA, 220), (0x1ACB, 0x1ACE, 230), (0x1B34, 0x1B34, 7),
    (0x1B44, 0x1B44, 9), (0x1B6B, 0x1B6B, 230), (0x1B6C, 0x1B6C, 220), (0x1B6D, 0x1B73, 230),
    (0x1BAA, 0x1BAB, 9), (0x1BE6, 0x1BE6, 7), (0x1BF2, 0x1BF3, 9), (0x1C37, 0x1C37, 7),
    (0x1CD0, 0x1CD2, 230), (0x1CD4, 0x1CD4, 1), (0x1CD5, 0x1CD9, 220), (0x1CDA, 0x1CDB, 230),
    (0x1CDC, 0x1CDF, 220), (0x1CE0, 0x1CE0, 230), (0x1CE2, 0x1CE8, 1), (0x1CED, 0x1CED, 220),
    (0x1CF4, 0x1CF4, 230), (0x1CF8, 0x1CF9, 230), (0x1DC0, 0x1DC1, 230), (0x1DC2, 0x1DC2, 220),
    (0x1DC3, 0x1DC9, 230), (0x1DCA, 0x1DCA, 220), (0x1DCB, 0x1DCC, 230), (0x1DCD, 0x1DCD, 234),
    (0x1DCE, 0x1DCE, 214), (0x1DCF, 0x1DCF, 220), (0x1DD0, 0x1DD0, 202), (0x1DD1, 0x1DF5, 230),
    (0x1DF6, 0x1DF6, 232), (0x1DF7, 0x1DF8, 228), (0x1DF9, 0x1DF9, 220), (0x1DFA, 0x1DFA, 218),
    (0x1DFB, 0x1DFB, 230), (0x1DFC, 0x1DFC, 233), (0x1DFD, 0x1DFD, 220), (0x1DFE, 0x1DFE, 230),
    (0x1DFF, 0x1DFF, 220), (0x20D0, 0x20D1, 230), (0x20D2, 0x20D3, 1), (0x20D4, 0x20D7, 230),
    (0x20D8, 0x20DA, 1), (0x20DB, 0x20DC, 230), (0x20E1, 0x20E1, 230), (0x20E5, 0x20E6, 1),
    (0x20E7, 0x20E7, 230), (0x20E8, 0x20E8, 220), (0x20E9, 0x20E9, 230), (0x20EA, 0x20EB, 1),
    (0x20EC, 0x20EF, 220), (0x20F0, 0x20F0, 230), (0x2CEF, 0x2CF1, 230), (0x2D7F, 0x2D7F, 9),
    (0x2DE0, 0x2DFF, 230), (0x302A, 0x302A, 218), (0x302B, 0x302B, 228), (0x302C, 0x302C, 232),
    (0x302D, 0x302D, 222), (0x302E, 0x302F, 224), (0x3099, 0x309A, 8), (0xA66F, 0xA66F, 230),
    (0xA674, 0xA67D, 230), (0xA69E, 0xA69F, 230), (0xA6F0, 0xA6F1, 230), (0xA806, 0xA806, 9),
    (0xA82C, 0xA82C, 9), (0xA8C4, 0xA8C4, 9), (0xA8E0, 0xA8F1, 230), (0xA92B, 0xA92D, 220),
    (0xA953, 0xA953, 9), (0xA9B3, 0xA9B3, 7), (0xA9C0, 0xA9C0, 9), (0xAAB0, 0xAAB0, 230),
    (0xAAB2, 0xAAB3, 230), (0xAAB4, 0xAAB4, 220), (0xAAB7, 0xAAB8, 230), (0xAABE, 0xAABF, 230),
    (0xAAC1, 0xAAC1, 230), (0xAAF6, 0xAAF6, 9), (0xABED, 0xABED, 9), (0xFB1E, 0xFB1E, 26),
    (0xFE20, 0xFE26, 230), (0xFE27, 0xFE2D, 220), (0xFE2E, 0xFE2F, 230), (0x101FD, 0x101FD, 220),
    (0x102E0, 0x102E0, 220), (0x10376, 0x1037A, 230), (0x10A0D, 0x10A0D, 220),
    (0x10A0F, 0x10A0F, 230), (0x10A38, 0x10A38, 230), (0x10A39, 0x10A39, 1),
    (0x10A3A, 0x10A3A, 220), (0x10A3F, 0x10A3F, 9), (0x10AE5, 0x10AE5, 230),
    (0x10AE6, 0x10AE6, 220), (0x10D24, 0x10D27, 230), (0x10EAB, 0x10EAC, 230),
    (0x10F46, 0x10F47, 220), (0x10F48, 0x10F4A, 230), (0x10F4B, 0x10F4B, 220),
    (0x10F4C, 0x10F4C, 230), (0x10F4D, 0x10F50, 220), (0x10F82, 0x10F82, 230),
    (0x10F83, 0x10F83, 220), (0x10F84, 0x10F84, 230), (0x10F85, 0x10F85, 220),
    (0x11046, 0x11046, 9), (0x11070, 0x11070, 9), (0x1107F, 0x1107F, 9), (0x110B9, 0x110B9, 9),
    (0x110BA, 0x110BA, 7), (0x11100, 0x11102, 230), (0x11133, 0x11134, 9), (0x11173, 0x11173, 7),
    (0x111C0, 0x111C0, 9), (0x111CA, 0x111CA, 7), (0x11235, 0x11235, 9), (0x11236, 0x11236, 7),
    (0x112E9, 0x112E9, 7), (0x112EA, 0x112EA, 9), (0x1133B, 0x1133C, 7), (0x1134D, 0x1134D, 9),
    (0x11366, 0x1136C, 230), (0x11370, 0x11374, 230), (0x11442, 0x11442, 9),
    (0x11446, 0x11446, 7), (0x1145E, 0x1145E, 230), (0x114C2, 0x114C2, 9), (0x114C3, 0x114C3, 7),
    (0x115BF, 0x115BF, 9), (0x115C0, 0x115C0, 7), (0x1163F, 0x1163F, 9), (0x116B6, 0x116B6, 9),
    (0x116B7, 0x116B7, 7), (0x1172B, 0x1172B, 9), (0x11839, 0x11839, 9), (0x1183A, 0x1183A, 7),
    (0x1193D, 0x1193E, 9), (0x11943, 0x11943, 7), (0x119E0, 0x119E0, 9), (0x11A34, 0x11A34, 9),
    (0x11A47, 0x11A47, 9), (0x11A99, 0x11A99, 9), (0x11C3F, 0x11C3F, 9), (0x11D42, 0x11D42, 7),
    (0x11D44, 0x11D45, 9), (0x11D97, 0x11D97, 9), (0x16AF0, 0x16AF4, 1), (0x16B30, 0x16B36, 230),
    (0x16FF0, 0x16FF1, 6), (0x1BC9E, 0x1BC9E, 1), (0x1D165, 0x1D166, 216), (0x1D167, 0x1D169, 1),
    (0x1D16D, 0x1D16D, 226), (0x1D16E, 0x1D172, 216), (0x1D17B, 0x1D182, 220),
    (0x1D185, 0x1D189, 230), (0x1D18A, 0x1D18B, 220), (0x1D1AA, 0x1D1AD, 230),
    (0x1D242, 0x1D244, 230), (0x1E000, 0x1E006, 230), (0x1E008, 0x1E018, 230),
    (0x1E01B, 0x1E021, 230), (0x1E023, 0x1E024, 230), (0x1E026, 0x1E02A, 230),
    (0x1E130, 0x1E136, 230), (0x1E2AE, 0x1E2AE, 230), (0x1E2EC, 0x1E2EF, 230),
    (0x1E8D0, 0x1E8D6, 220), (0x1E944, 0x1E949, 230), (0x1E94A, 0x1E94A, 7)]

/-- The class of a mark; zero for a character that is none. -/
def markClass (c : Char) : Nat :=
  match markRanges.find? fun range => range.1 ≤ c.toNat && c.toNat ≤ range.2.1 with
  | some range => range.2.2
  | none => 0

end EngineBindings.Text
