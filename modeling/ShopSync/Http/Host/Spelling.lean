/-!
Characters that have another spelling in the names of hosts: capitals, letters and signs in another
shape, and letters that are short for several.
-/

namespace ShopSync.Http.Host

/-- Ranges of characters that are spelt as a range of others: its first one follows the range. -/
def shiftedRanges : List (Nat × Nat × Nat) :=
  [(0x41, 0x5a, 0x61), (0xc0, 0xd6, 0xe0), (0xd8, 0xde, 0xf8), (0x391, 0x3a1, 0x3b1),
    (0x3a3, 0x3ab, 0x3c3), (0x400, 0x40f, 0x450), (0x410, 0x42f, 0x430), (0x531, 0x556, 0x561),
    (0x10a0, 0x10c5, 0x2d00), (0x13f8, 0x13fd, 0x13f0), (0x1c90, 0x1cba, 0x10d0),
    (0x1d33, 0x1d3a, 0x67), (0x1f08, 0x1f0f, 0x1f00), (0x1f18, 0x1f1d, 0x1f10),
    (0x1f28, 0x1f2f, 0x1f20), (0x1f38, 0x1f3f, 0x1f30), (0x1f48, 0x1f4d, 0x1f40),
    (0x1f68, 0x1f6f, 0x1f60), (0x1fef, 0x1fef, 0x60), (0x2074, 0x2079, 0x34),
    (0x2080, 0x2089, 0x30), (0x2460, 0x2468, 0x31), (0x24b6, 0x24cf, 0x61), (0x24d0, 0x24e9, 0x61),
    (0x2c00, 0x2c2f, 0x2c30), (0x313a, 0x313f, 0x11b0), (0x3145, 0x314e, 0x1109),
    (0x314f, 0x3163, 0x1161), (0x3178, 0x317c, 0x112b), (0x3269, 0x326d, 0x110e),
    (0x32e4, 0x32e9, 0x30ca), (0x32ee, 0x32f2, 0x30de), (0x32f5, 0x32fa, 0x30e8),
    (0xab70, 0xabbf, 0x13a0), (0xfe37, 0xfe37, 0x7b), (0xfe38, 0xfe38, 0x7d),
    (0xfe5b, 0xfe5b, 0x7b), (0xfe5c, 0xfe5c, 0x7d), (0xfe5f, 0xfe5f, 0x23), (0xfe68, 0xfe68, 0x5c),
    (0xff01, 0xff20, 0x21), (0xff21, 0xff3a, 0x61), (0xff3b, 0xff5e, 0x5b),
    (0xff85, 0xff8a, 0x30ca), (0xff8f, 0xff93, 0x30de), (0xff96, 0xff9b, 0x30e8),
    (0xffaa, 0xffaf, 0x11b0), (0xffb5, 0xffbe, 0x1109), (0xffc2, 0xffc7, 0x1161),
    (0xffca, 0xffcf, 0x1167), (0xffd2, 0xffd7, 0x116d), (0x10400, 0x10427, 0x10428),
    (0x104b0, 0x104d3, 0x104d8), (0x10570, 0x1057a, 0x10597), (0x1057c, 0x1058a, 0x105a3),
    (0x1058c, 0x10592, 0x105b3), (0x10c80, 0x10cb2, 0x10cc0), (0x10d50, 0x10d65, 0x10d70),
    (0x118a0, 0x118bf, 0x118c0), (0x16e40, 0x16e5f, 0x16e60), (0x16ea0, 0x16eb8, 0x16ebb),
    (0x1ccd6, 0x1ccef, 0x61), (0x1ccf0, 0x1ccf9, 0x30), (0x1d400, 0x1d419, 0x61),
    (0x1d41a, 0x1d433, 0x61), (0x1d434, 0x1d44d, 0x61), (0x1d44e, 0x1d454, 0x61),
    (0x1d456, 0x1d467, 0x69), (0x1d468, 0x1d481, 0x61), (0x1d482, 0x1d49b, 0x61),
    (0x1d4ae, 0x1d4b5, 0x73), (0x1d4bd, 0x1d4c3, 0x68), (0x1d4c5, 0x1d4cf, 0x70),
    (0x1d4d0, 0x1d4e9, 0x61), (0x1d4ea, 0x1d503, 0x61), (0x1d50d, 0x1d514, 0x6a),
    (0x1d516, 0x1d51c, 0x73), (0x1d51e, 0x1d537, 0x61), (0x1d540, 0x1d544, 0x69),
    (0x1d54a, 0x1d550, 0x73), (0x1d552, 0x1d56b, 0x61), (0x1d56c, 0x1d585, 0x61),
    (0x1d586, 0x1d59f, 0x61), (0x1d5a0, 0x1d5b9, 0x61), (0x1d5ba, 0x1d5d3, 0x61),
    (0x1d5d4, 0x1d5ed, 0x61), (0x1d5ee, 0x1d607, 0x61), (0x1d608, 0x1d621, 0x61),
    (0x1d622, 0x1d63b, 0x61), (0x1d63c, 0x1d655, 0x61), (0x1d656, 0x1d66f, 0x61),
    (0x1d670, 0x1d689, 0x61), (0x1d68a, 0x1d6a3, 0x61), (0x1d6a8, 0x1d6b8, 0x3b1),
    (0x1d6ba, 0x1d6c0, 0x3c3), (0x1d6c2, 0x1d6d2, 0x3b1), (0x1d6d4, 0x1d6da, 0x3c3),
    (0x1d6e2, 0x1d6f2, 0x3b1), (0x1d6f4, 0x1d6fa, 0x3c3), (0x1d6fc, 0x1d70c, 0x3b1),
    (0x1d70e, 0x1d714, 0x3c3), (0x1d71c, 0x1d72c, 0x3b1), (0x1d72e, 0x1d734, 0x3c3),
    (0x1d736, 0x1d746, 0x3b1), (0x1d748, 0x1d74e, 0x3c3), (0x1d756, 0x1d766, 0x3b1),
    (0x1d768, 0x1d76e, 0x3c3), (0x1d770, 0x1d780, 0x3b1), (0x1d782, 0x1d788, 0x3c3),
    (0x1d790, 0x1d7a0, 0x3b1), (0x1d7a2, 0x1d7a8, 0x3c3), (0x1d7aa, 0x1d7ba, 0x3b1),
    (0x1d7bc, 0x1d7c2, 0x3c3), (0x1d7ce, 0x1d7d7, 0x30), (0x1d7d8, 0x1d7e1, 0x30),
    (0x1d7e2, 0x1d7eb, 0x30), (0x1d7ec, 0x1d7f5, 0x30), (0x1d7f6, 0x1d7ff, 0x30),
    (0x1e030, 0x1e038, 0x430), (0x1e03c, 0x1e046, 0x43e), (0x1e051, 0x1e059, 0x430),
    (0x1e05f, 0x1e064, 0x443), (0x1e900, 0x1e921, 0x1e922), (0x1f130, 0x1f149, 0x61),
    (0x1fbf0, 0x1fbf9, 0x30)]

/-- Ranges in which a capital and its small letter take turns. -/
def alternatingRanges : List (Nat × Nat) :=
  [(0x100, 0x12f), (0x139, 0x13e), (0x141, 0x148), (0x14a, 0x177), (0x179, 0x17e), (0x1a0, 0x1a5),
    (0x1cd, 0x1dc), (0x1de, 0x1ef), (0x1f8, 0x21f), (0x222, 0x233), (0x246, 0x24f), (0x3d8, 0x3ef),
    (0x460, 0x481), (0x48a, 0x4bf), (0x4c1, 0x4ce), (0x4d0, 0x52f), (0x1e00, 0x1e95),
    (0x1ea0, 0x1eff), (0x2c67, 0x2c6c), (0x2c80, 0x2ce3), (0xa640, 0xa66d), (0xa680, 0xa69b),
    (0xa722, 0xa72f), (0xa732, 0xa76f), (0xa77e, 0xa787), (0xa796, 0xa7a9), (0xa7b4, 0xa7c3),
    (0xa7cc, 0xa7db)]

/-- Ranges of characters and how each is spelt, with blanks in between. -/
def spelledRanges : List (Nat × Nat × String) :=
  [(0xaa, 0xaa, "a"),
    (0xb2, 0xb3, "2 3"),
    (0xb5, 0xb5, "μ"),
    (0xb9, 0xba, "1 o"),
    (0xbc, 0xbe, "1⁄4 1⁄2 3⁄4"),
    (0x130, 0x130, "i\u0307"),
    (0x132, 0x134, "ij ij ĵ"),
    (0x136, 0x136, "ķ"),
    (0x13f, 0x140, "l· l·"),
    (0x149, 0x149, "ʼn"),
    (0x178, 0x178, "ÿ"),
    (0x17f, 0x17f, "s"),
    (0x181, 0x182, "ɓ ƃ"),
    (0x184, 0x184, "ƅ"),
    (0x186, 0x187, "ɔ ƈ"),
    (0x189, 0x18b, "ɖ ɗ ƌ"),
    (0x18e, 0x191, "ǝ ə ɛ ƒ"),
    (0x193, 0x194, "ɠ ɣ"),
    (0x196, 0x198, "ɩ ɨ ƙ"),
    (0x19c, 0x19d, "ɯ ɲ"),
    (0x19f, 0x19f, "ɵ"),
    (0x1a6, 0x1a7, "ʀ ƨ"),
    (0x1a9, 0x1a9, "ʃ"),
    (0x1ac, 0x1ac, "ƭ"),
    (0x1ae, 0x1af, "ʈ ư"),
    (0x1b1, 0x1b3, "ʊ ʋ ƴ"),
    (0x1b5, 0x1b5, "ƶ"),
    (0x1b7, 0x1b8, "ʒ ƹ"),
    (0x1bc, 0x1bc, "ƽ"),
    (0x1c4, 0x1cc, "dž dž dž lj lj lj nj nj nj"),
    (0x1f1, 0x1f4, "dz dz dz ǵ"),
    (0x1f6, 0x1f7, "ƕ ƿ"),
    (0x220, 0x220, "ƞ"),
    (0x23a, 0x23b, "ⱥ ȼ"),
    (0x23d, 0x23e, "ƚ ⱦ"),
    (0x241, 0x241, "ɂ"),
    (0x243, 0x245, "ƀ ʉ ʌ"),
    (0x2b0, 0x2b8, "h ɦ j r ɹ ɻ ʁ w y"),
    (0x2e0, 0x2e4, "ɣ l s x ʕ"),
    (0x340, 0x341, "\u0300 \u0301"),
    (0x343, 0x345, "\u0313 \u0308\u0301 ι"),
    (0x370, 0x370, "ͱ"),
    (0x372, 0x372, "ͳ"),
    (0x374, 0x374, "ʹ"),
    (0x376, 0x376, "ͷ"),
    (0x37e, 0x37f, "; ϳ"),
    (0x386, 0x38a, "ά · έ ή ί"),
    (0x38c, 0x38c, "ό"),
    (0x38e, 0x38f, "ύ ώ"),
    (0x3cf, 0x3d6, "ϗ β θ υ ύ ϋ φ π"),
    (0x3f0, 0x3f2, "κ ρ σ"),
    (0x3f4, 0x3f5, "θ ε"),
    (0x3f7, 0x3f7, "ϸ"),
    (0x3f9, 0x3fa, "σ ϻ"),
    (0x3fd, 0x3ff, "ͻ ͼ ͽ"),
    (0x4c0, 0x4c0, "ӏ"),
    (0x587, 0x587, "եւ"),
    (0x675, 0x678, "\u0627\u0674 \u0648\u0674 \u06c7\u0674 \u064a\u0674"),
    (0x958, 0x95f, "क\u093c ख\u093c ग\u093c ज\u093c ड\u093c ढ\u093c फ\u093c य\u093c"),
    (0x9dc, 0x9dd, "ড\u09bc ঢ\u09bc"),
    (0x9df, 0x9df, "য\u09bc"),
    (0xa33, 0xa33, "ਲ\u0a3c"),
    (0xa36, 0xa36, "ਸ\u0a3c"),
    (0xa59, 0xa5b, "ਖ\u0a3c ਗ\u0a3c ਜ\u0a3c"),
    (0xa5e, 0xa5e, "ਫ\u0a3c"),
    (0xb5c, 0xb5d, "ଡ\u0b3c ଢ\u0b3c"),
    (0xe33, 0xe33, "\u0e4dา"),
    (0xeb3, 0xeb3, "\u0ecdາ"),
    (0xedc, 0xedd, "ຫນ ຫມ"),
    (0xf0c, 0xf0c, "་"),
    (0xf43, 0xf43, "ག\u0fb7"),
    (0xf4d, 0xf4d, "ཌ\u0fb7"),
    (0xf52, 0xf52, "ད\u0fb7"),
    (0xf57, 0xf57, "བ\u0fb7"),
    (0xf5c, 0xf5c, "ཛ\u0fb7"),
    (0xf69, 0xf69, "ཀ\u0fb5"),
    (0xf73, 0xf73, "\u0f71\u0f72"),
    (0xf75, 0xf78, "\u0f71\u0f74 \u0fb2\u0f80 \u0fb2\u0f71\u0f80 \u0fb3\u0f80"),
    (0xf79, 0xf79, "\u0fb3\u0f71\u0f80"),
    (0xf81, 0xf81, "\u0f71\u0f80"),
    (0xf93, 0xf93, "\u0f92\u0fb7"),
    (0xf9d, 0xf9d, "\u0f9c\u0fb7"),
    (0xfa2, 0xfa2, "\u0fa1\u0fb7"),
    (0xfa7, 0xfa7, "\u0fa6\u0fb7"),
    (0xfac, 0xfac, "\u0fab\u0fb7"),
    (0xfb9, 0xfb9, "\u0f90\u0fb5"),
    (0x10c7, 0x10c7, "ⴧ"),
    (0x10cd, 0x10cd, "ⴭ"),
    (0x10fc, 0x10fc, "ნ"),
    (0x1c80, 0x1c89, "в д о с т т ъ ѣ ꙋ ᲊ"),
    (0x1cbd, 0x1cbf, "ჽ ჾ ჿ"),
    (0x1d2c, 0x1d2e, "a æ b"),
    (0x1d30, 0x1d32, "d e ǝ"),
    (0x1d3c, 0x1d4d, "o ȣ p r t u w a ɐ ɑ ᴂ b d e ə ɛ ɜ g"),
    (0x1d4f, 0x1d6a, "k m ŋ o ɔ ᴖ ᴗ p t u ᴝ ɯ v ᴥ β γ δ φ χ i r u v β γ ρ φ χ"),
    (0x1d78, 0x1d78, "н"),
    (0x1d9b, 0x1dbd, "ɒ c ɕ ð ɜ f ɟ ɡ ɥ ɨ ɩ ɪ ᵻ ʝ ɭ ᶅ ʟ ɱ ɰ ɲ ɳ ɴ ɵ ɸ ʂ ʃ ƫ ʉ ʊ ᴜ ʋ ʌ z ʐ ʑ"),
    (0x1dbe, 0x1dbf, "ʒ θ"),
    (0x1e9a, 0x1e9b, "aʾ ṡ"),
    (0x1e9e, 0x1e9e, "ß"),
    (0x1f59, 0x1f59, "ὑ"),
    (0x1f5b, 0x1f5b, "ὓ"),
    (0x1f5d, 0x1f5d, "ὕ"),
    (0x1f5f, 0x1f5f, "ὗ"),
    (0x1f71, 0x1f71, "ά"),
    (0x1f73, 0x1f73, "έ"),
    (0x1f75, 0x1f75, "ή"),
    (0x1f77, 0x1f77, "ί"),
    (0x1f79, 0x1f79, "ό"),
    (0x1f7b, 0x1f7b, "ύ"),
    (0x1f7d, 0x1f7d, "ώ"),
    (0x1f80, 0x1f96, "ἀι ἁι ἂι ἃι ἄι ἅι ἆι ἇι ἀι ἁι ἂι ἃι ἄι ἅι ἆι ἇι ἠι ἡι ἢι ἣι ἤι ἥι ἦι"),
    (0x1f97, 0x1fad, "ἧι ἠι ἡι ἢι ἣι ἤι ἥι ἦι ἧι ὠι ὡι ὢι ὣι ὤι ὥι ὦι ὧι ὠι ὡι ὢι ὣι ὤι ὥι"),
    (0x1fae, 0x1faf, "ὦι ὧι"),
    (0x1fb2, 0x1fb4, "ὰι αι άι"),
    (0x1fb7, 0x1fbc, "ᾶι ᾰ ᾱ ὰ ά αι"),
    (0x1fbe, 0x1fbe, "ι"),
    (0x1fc2, 0x1fc4, "ὴι ηι ήι"),
    (0x1fc7, 0x1fcc, "ῆι ὲ έ ὴ ή ηι"),
    (0x1fd3, 0x1fd3, "ΐ"),
    (0x1fd8, 0x1fdb, "ῐ ῑ ὶ ί"),
    (0x1fe3, 0x1fe3, "ΰ"),
    (0x1fe8, 0x1fec, "ῠ ῡ ὺ ύ ῥ"),
    (0x1ff2, 0x1ff4, "ὼι ωι ώι"),
    (0x1ff7, 0x1ffc, "ῶι ὸ ό ὼ ώ ωι"),
    (0x2011, 0x2011, "‐"),
    (0x2033, 0x2034, "′′ ′′′"),
    (0x2036, 0x2037, "‵‵ ‵‵‵"),
    (0x203c, 0x203c, "!!"),
    (0x2047, 0x2049, "?? ?! !?"),
    (0x2057, 0x2057, "′′′′"),
    (0x2070, 0x2071, "0 i"),
    (0x207a, 0x207f, "+ − = ( ) n"),
    (0x208a, 0x208e, "+ − = ( )"),
    (0x2090, 0x209c, "a e o x ə h k l m n p s t"),
    (0x20a8, 0x20a8, "rs"),
    (0x2100, 0x2103, "a/c a/s c °c"),
    (0x2105, 0x2107, "c/o c/u ɛ"),
    (0x2109, 0x2113, "°f g h h h h ħ i i l l"),
    (0x2115, 0x2116, "n no"),
    (0x2119, 0x211d, "p q r r r"),
    (0x2120, 0x2122, "sm tel tm"),
    (0x2124, 0x2124, "z"),
    (0x2126, 0x2126, "ω"),
    (0x2128, 0x2128, "z"),
    (0x212a, 0x212d, "k å b c"),
    (0x212f, 0x2139, "e e f ⅎ m o \u05d0 \u05d1 \u05d2 \u05d3 i"),
    (0x213b, 0x2140, "fax π γ γ π ∑"),
    (0x2145, 0x2149, "d d e i j"),
    (0x2150, 0x2161, "1⁄7 1⁄9 1⁄10 1⁄3 2⁄3 1⁄5 2⁄5 3⁄5 4⁄5 1⁄6 5⁄6 1⁄8 3⁄8 5⁄8 7⁄8 1⁄ i ii"),
    (0x2162, 0x2178, "iii iv v vi vii viii ix x xi xii l c d m i ii iii iv v vi vii viii ix"),
    (0x2179, 0x217f, "x xi xii l c d m"),
    (0x2183, 0x2183, "ↄ"),
    (0x2189, 0x2189, "0⁄3"),
    (0x222c, 0x222d, "∫∫ ∫∫∫"),
    (0x222f, 0x2230, "∮∮ ∮∮∮"),
    (0x2329, 0x232a, "〈 〉"),
    (0x2469, 0x247c, "10 11 12 13 14 15 16 17 18 19 20 (1) (2) (3) (4) (5) (6) (7) (8) (9)"),
    (0x247d, 0x2487, "(10) (11) (12) (13) (14) (15) (16) (17) (18) (19) (20)"),
    (0x249c, 0x24ac, "(a) (b) (c) (d) (e) (f) (g) (h) (i) (j) (k) (l) (m) (n) (o) (p) (q)"),
    (0x24ad, 0x24b5, "(r) (s) (t) (u) (v) (w) (x) (y) (z)"),
    (0x24ea, 0x24ea, "0"),
    (0x2a0c, 0x2a0c, "∫∫∫∫"),
    (0x2a74, 0x2a76, "::= == ==="),
    (0x2adc, 0x2adc, "⫝\u0338"),
    (0x2c60, 0x2c60, "ⱡ"),
    (0x2c62, 0x2c64, "ɫ ᵽ ɽ"),
    (0x2c6d, 0x2c70, "ɑ ɱ ɐ ɒ"),
    (0x2c72, 0x2c72, "ⱳ"),
    (0x2c75, 0x2c75, "ⱶ"),
    (0x2c7c, 0x2c7f, "j v ȿ ɀ"),
    (0x2ceb, 0x2ceb, "ⳬ"),
    (0x2ced, 0x2ced, "ⳮ"),
    (0x2cf2, 0x2cf2, "ⳳ"),
    (0x2d6f, 0x2d6f, "ⵡ"),
    (0x2e9f, 0x2e9f, "母"),
    (0x2ef3, 0x2ef3, "龟"),
    (0x2f00, 0x2f15, "一 丨 丶 丿 乙 亅 二 亠 人 儿 入 八 冂 冖 冫 几 凵 刀 力 勹 匕 匚"),
    (0x2f16, 0x2f2b, "匸 十 卜 卩 厂 厶 又 口 囗 土 士 夂 夊 夕 大 女 子 宀 寸 小 尢 尸"),
    (0x2f2c, 0x2f41, "屮 山 巛 工 己 巾 干 幺 广 廴 廾 弋 弓 彐 彡 彳 心 戈 戶 手 支 攴"),
    (0x2f42, 0x2f57, "文 斗 斤 方 无 日 曰 月 木 欠 止 歹 殳 毋 比 毛 氏 气 水 火 爪 父"),
    (0x2f58, 0x2f6d, "爻 爿 片 牙 牛 犬 玄 玉 瓜 瓦 甘 生 用 田 疋 疒 癶 白 皮 皿 目 矛"),
    (0x2f6e, 0x2f83, "矢 石 示 禸 禾 穴 立 竹 米 糸 缶 网 羊 羽 老 而 耒 耳 聿 肉 臣 自"),
    (0x2f84, 0x2f99, "至 臼 舌 舛 舟 艮 色 艸 虍 虫 血 行 衣 襾 見 角 言 谷 豆 豕 豸 貝"),
    (0x2f9a, 0x2faf, "赤 走 足 身 車 辛 辰 辵 邑 酉 釆 里 金 長 門 阜 隶 隹 雨 靑 非 面"),
    (0x2fb0, 0x2fc5, "革 韋 韭 音 頁 風 飛 食 首 香 馬 骨 高 髟 鬥 鬯 鬲 鬼 魚 鳥 鹵 鹿"),
    (0x2fc6, 0x2fd5, "麥 麻 黃 黍 黑 黹 黽 鼎 鼓 鼠 鼻 齊 齒 龍 龜 龠"),
    (0x3002, 0x3002, "."),
    (0x3036, 0x3036, "〒"),
    (0x3038, 0x303a, "十 卄 卅"),
    (0x309f, 0x309f, "より"),
    (0x30ff, 0x30ff, "コト"),
    (0x3131, 0x3139, "ᄀ ᄁ ᆪ ᄂ ᆬ ᆭ ᄃ ᄄ ᄅ"),
    (0x3140, 0x3144, "ᄚ ᄆ ᄇ ᄈ ᄡ"),
    (0x3165, 0x3177, "ᄔ ᄕ ᇇ ᇈ ᇌ ᇎ ᇓ ᇗ ᇙ ᄜ ᇝ ᇟ ᄝ ᄞ ᄠ ᄢ ᄣ ᄧ ᄩ"),
    (0x317d, 0x318e, "ᄲ ᄶ ᅀ ᅇ ᅌ ᇱ ᇲ ᅗ ᅘ ᅙ ᆄ ᆅ ᆈ ᆑ ᆒ ᆔ ᆞ ᆡ"),
    (0x3192, 0x319f, "一 二 三 四 上 中 下 甲 乙 丙 丁 天 地 人"),
    (0x3200, 0x320d, "(ᄀ) (ᄂ) (ᄃ) (ᄅ) (ᄆ) (ᄇ) (ᄉ) (ᄋ) (ᄌ) (ᄎ) (ᄏ) (ᄐ) (ᄑ) (ᄒ)"),
    (0x320e, 0x3218, "(가) (나) (다) (라) (마) (바) (사) (아) (자) (차) (카)"),
    (0x3219, 0x321e, "(타) (파) (하) (주) (오전) (오후)"),
    (0x3220, 0x322a, "(一) (二) (三) (四) (五) (六) (七) (八) (九) (十) (月)"),
    (0x322b, 0x3235, "(火) (水) (木) (金) (土) (日) (株) (有) (社) (名) (特)"),
    (0x3236, 0x3240, "(財) (祝) (労) (代) (呼) (学) (監) (企) (資) (協) (祭)"),
    (0x3241, 0x3247, "(休) (自) (至) 問 幼 文 箏"),
    (0x3250, 0x3268, "pte 21 22 23 24 25 26 27 28 29 30 31 32 33 34 35 ᄀ ᄂ ᄃ ᄅ ᄆ ᄇ ᄉ ᄋ ᄌ"),
    (0x326e, 0x327e, "가 나 다 라 마 바 사 아 자 차 카 타 파 하 참고 주의 우"),
    (0x3280, 0x3295, "一 二 三 四 五 六 七 八 九 十 月 火 水 木 金 土 日 株 有 社 名 特"),
    (0x3296, 0x32ab, "財 祝 労 秘 男 女 適 優 印 注 項 休 写 正 上 中 下 左 右 医 宗 学"),
    (0x32ac, 0x32bb, "監 企 資 協 夜 36 37 38 39 40 41 42 43 44 45 46"),
    (0x32bc, 0x32c9, "47 48 49 50 1月 2月 3月 4月 5月 6月 7月 8月 9月 10月"),
    (0x32ca, 0x32da, "11月 12月 hg erg ev ltd ア イ ウ エ オ カ キ ク ケ コ サ"),
    (0x32db, 0x32e3, "シ ス セ ソ タ チ ツ テ ト"),
    (0x32ea, 0x32ed, "ヒ フ ヘ ホ"),
    (0x32f3, 0x32f4, "ヤ ユ"),
    (0x32fb, 0x3306, "ワ ヰ ヱ ヲ 令和 アパート アルファ アンペア アール イニング インチ ウォン"),
    (0x3307, 0x3310, "エスクード エーカー オンス オーム カイリ カラット カロリー ガロン ガンマ ギガ"),
    (0x3311, 0x3318, "ギニー キュリー ギルダー キロ キログラム キロメートル キロワット グラム"),
    (0x3319, 0x3321, "グラムトン クルゼイロ クローネ ケース コルナ コーポ サイクル サンチーム シリング"),
    (0x3322, 0x332c, "センチ セント ダース デシ ドル トン ナノ ノット ハイツ パーセント パーツ"),
    (0x332d, 0x3335, "バーレル ピアストル ピクル ピコ ビル ファラッド フィート ブッシェル フラン"),
    (0x3336, 0x3340, "ヘクタール ペソ ペニヒ ヘルツ ペンス ページ ベータ ポイント ボルト ホン ポンド"),
    (0x3341, 0x334a, "ホール ホーン マイクロ マイル マッハ マルク マンション ミクロン ミリ ミリバール"),
    (0x334b, 0x3355, "メガ メガトン メートル ヤード ヤール ユアン リットル リラ ルピー ルーブル レム"),
    (0x3356, 0x3362, "レントゲン ワット 0点 1点 2点 3点 4点 5点 6点 7点 8点 9点 10点"),
    (0x3363, 0x336d, "11点 12点 13点 14点 15点 16点 17点 18点 19点 20点 21点"),
    (0x336e, 0x3379, "22点 23点 24点 hpa da au bar ov pc dm dm2 dm3"),
    (0x337a, 0x3387, "iu 平成 昭和 大正 明治 株式会社 pa na μa ma ka kb mb gb"),
    (0x3388, 0x339c, "cal kcal pf nf μf μg mg kg hz khz mhz ghz thz μl ml dl kl fm nm μm mm"),
    (0x339d, 0x33ae, "cm km mm2 cm2 m2 km2 mm3 cm3 m3 km3 m∕s m∕s2 pa kpa mpa gpa rad rad∕s"),
    (0x33af, 0x33c1, "rad∕s2 ps ns μs ms pv nv μv mv kv mv pw nw μw mw kw mw kω mω"),
    (0x33c3, 0x33c6, "bq cc cd c∕kg"),
    (0x33c8, 0x33d7, "db gy ha hp in kk km kt lm ln log lx mb mil mol ph"),
    (0x33d9, 0x33e6, "ppm pr sr sv wb v∕m a∕m 1日 2日 3日 4日 5日 6日 7日"),
    (0x33e7, 0x33f1, "8日 9日 10日 11日 12日 13日 14日 15日 16日 17日 18日"),
    (0x33f2, 0x33fc, "19日 20日 21日 22日 23日 24日 25日 26日 27日 28日 29日"),
    (0x33fd, 0x33ff, "30日 31日 gal"),
    (0xa69c, 0xa69d, "ъ ь"),
    (0xa770, 0xa770, "ꝯ"),
    (0xa779, 0xa779, "ꝺ"),
    (0xa77b, 0xa77b, "ꝼ"),
    (0xa77d, 0xa77d, "ᵹ"),
    (0xa78b, 0xa78b, "ꞌ"),
    (0xa78d, 0xa78d, "ɥ"),
    (0xa790, 0xa790, "ꞑ"),
    (0xa792, 0xa792, "ꞓ"),
    (0xa7aa, 0xa7ae, "ɦ ɜ ɡ ɬ ɪ"),
    (0xa7b0, 0xa7b3, "ʞ ʇ ʝ ꭓ"),
    (0xa7c4, 0xa7c7, "ꞔ ʂ ᶎ ꟈ"),
    (0xa7c9, 0xa7c9, "ꟊ"),
    (0xa7cb, 0xa7cb, "ɤ"),
    (0xa7dc, 0xa7dc, "ƛ"),
    (0xa7f1, 0xa7f5, "s c f q ꟶ"),
    (0xa7f8, 0xa7f9, "ħ œ"),
    (0xab5c, 0xab5f, "ꜧ ꬷ ɫ ꭒ"),
    (0xab69, 0xab69, "ʍ"),
    (0xf900, 0xf915, "豈 更 車 賈 滑 串 句 龜 龜 契 金 喇 奈 懶 癩 羅 蘿 螺 裸 邏 樂 洛"),
    (0xf916, 0xf92b, "烙 珞 落 酪 駱 亂 卵 欄 爛 蘭 鸞 嵐 濫 藍 襤 拉 臘 蠟 廊 朗 浪 狼"),
    (0xf92c, 0xf941, "郎 來 冷 勞 擄 櫓 爐 盧 老 蘆 虜 路 露 魯 鷺 碌 祿 綠 菉 錄 鹿 論"),
    (0xf942, 0xf957, "壟 弄 籠 聾 牢 磊 賂 雷 壘 屢 樓 淚 漏 累 縷 陋 勒 肋 凜 凌 稜 綾"),
    (0xf958, 0xf96d, "菱 陵 讀 拏 樂 諾 丹 寧 怒 率 異 北 磻 便 復 不 泌 數 索 參 塞 省"),
    (0xf96e, 0xf983, "葉 說 殺 辰 沈 拾 若 掠 略 亮 兩 凉 梁 糧 良 諒 量 勵 呂 女 廬 旅"),
    (0xf984, 0xf999, "濾 礪 閭 驪 麗 黎 力 曆 歷 轢 年 憐 戀 撚 漣 煉 璉 秊 練 聯 輦 蓮"),
    (0xf99a, 0xf9af, "連 鍊 列 劣 咽 烈 裂 說 廉 念 捻 殮 簾 獵 令 囹 寧 嶺 怜 玲 瑩 羚"),
    (0xf9b0, 0xf9c5, "聆 鈴 零 靈 領 例 禮 醴 隸 惡 了 僚 寮 尿 料 樂 燎 療 蓼 遼 龍 暈"),
    (0xf9c6, 0xf9db, "阮 劉 杻 柳 流 溜 琉 留 硫 紐 類 六 戮 陸 倫 崙 淪 輪 律 慄 栗 率"),
    (0xf9dc, 0xf9f1, "隆 利 吏 履 易 李 梨 泥 理 痢 罹 裏 裡 里 離 匿 溺 吝 燐 璘 藺 隣"),
    (0xf9f2, 0xfa07, "鱗 麟 林 淋 臨 立 笠 粒 狀 炙 識 什 茶 刺 切 度 拓 糖 宅 洞 暴 輻"),
    (0xfa08, 0xfa0d, "行 降 見 廓 兀 嗀"),
    (0xfa10, 0xfa10, "塚"),
    (0xfa12, 0xfa12, "晴"),
    (0xfa15, 0xfa1e, "凞 猪 益 礼 神 祥 福 靖 精 羽"),
    (0xfa20, 0xfa20, "蘒"),
    (0xfa22, 0xfa22, "諸"),
    (0xfa25, 0xfa26, "逸 都"),
    (0xfa2a, 0xfa3f, "飯 飼 館 鶴 郞 隷 侮 僧 免 勉 勤 卑 喝 嘆 器 塀 墨 層 屮 悔 慨 憎"),
    (0xfa40, 0xfa55, "懲 敏 既 暑 梅 海 渚 漢 煮 爫 琢 碑 社 祉 祈 祐 祖 祝 禍 禎 穀 突"),
    (0xfa56, 0xfa6b, "節 練 縉 繁 署 者 臭 艹 艹 著 褐 視 謁 謹 賓 贈 辶 逸 難 響 頻 恵"),
    (0xfa6c, 0xfa6d, "𤋮 舘"),
    (0xfa70, 0xfa85, "並 况 全 侀 充 冀 勇 勺 喝 啕 喙 嗢 塚 墳 奄 奔 婢 嬨 廒 廙 彩 徭"),
    (0xfa86, 0xfa9b, "惘 慎 愈 憎 慠 懲 戴 揄 搜 摒 敖 晴 朗 望 杖 歹 殺 流 滛 滋 漢 瀞"),
    (0xfa9c, 0xfab1, "煮 瞧 爵 犯 猪 瑱 甆 画 瘝 瘟 益 盛 直 睊 着 磌 窱 節 类 絛 練 缾"),
    (0xfab2, 0xfac7, "者 荒 華 蝹 襁 覆 視 調 諸 請 謁 諾 諭 謹 變 贈 輸 遲 醙 鉶 陼 難"),
    (0xfac8, 0xfad9, "靖 韛 響 頋 頻 鬒 龜 𢡊 𢡄 𣏕 㮝 䀘 䀹 𥉉 𥳐 𧻓 齃 龎"),
    (0xfb00, 0xfb06, "ff fi fl ffi ffl st st"),
    (0xfb13, 0xfb17, "մն մե մի վն մխ"),
    (0xfb1d, 0xfb1d, "\u05d9\u05b4"),
    (0xfb1f, 0xfb27, "\u05f2\u05b7 \u05e2 \u05d0 \u05d3 \u05d4 \u05db \u05dc \u05dd \u05e8"),
    (0xfb28, 0xfb2c, "\u05ea + \u05e9\u05c1 \u05e9\u05c2 \u05e9\u05bc\u05c1"),
    (0xfb2d, 0xfb31, "\u05e9\u05bc\u05c2 \u05d0\u05b7 \u05d0\u05b8 \u05d0\u05bc \u05d1\u05bc"),
    (0xfb32, 0xfb36, "\u05d2\u05bc \u05d3\u05bc \u05d4\u05bc \u05d5\u05bc \u05d6\u05bc"),
    (0xfb38, 0xfb3c, "\u05d8\u05bc \u05d9\u05bc \u05da\u05bc \u05db\u05bc \u05dc\u05bc"),
    (0xfb3e, 0xfb3e, "\u05de\u05bc"),
    (0xfb40, 0xfb41, "\u05e0\u05bc \u05e1\u05bc"),
    (0xfb43, 0xfb44, "\u05e3\u05bc \u05e4\u05bc"),
    (0xfb46, 0xfb4a, "\u05e6\u05bc \u05e7\u05bc \u05e8\u05bc \u05e9\u05bc \u05ea\u05bc"),
    (0xfb4b, 0xfb4f, "\u05d5\u05b9 \u05d1\u05bf \u05db\u05bf \u05e4\u05bf \u05d0\u05dc"),
    (0xfb50, 0xfb59, "\u0671 \u0671 \u067b \u067b \u067b \u067b \u067e \u067e \u067e \u067e"),
    (0xfb5a, 0xfb63, "\u0680 \u0680 \u0680 \u0680 \u067a \u067a \u067a \u067a \u067f \u067f"),
    (0xfb64, 0xfb6d, "\u067f \u067f \u0679 \u0679 \u0679 \u0679 \u06a4 \u06a4 \u06a4 \u06a4"),
    (0xfb6e, 0xfb77, "\u06a6 \u06a6 \u06a6 \u06a6 \u0684 \u0684 \u0684 \u0684 \u0683 \u0683"),
    (0xfb78, 0xfb81, "\u0683 \u0683 \u0686 \u0686 \u0686 \u0686 \u0687 \u0687 \u0687 \u0687"),
    (0xfb82, 0xfb8b, "\u068d \u068d \u068c \u068c \u068e \u068e \u0688 \u0688 \u0698 \u0698"),
    (0xfb8c, 0xfb95, "\u0691 \u0691 \u06a9 \u06a9 \u06a9 \u06a9 \u06af \u06af \u06af \u06af"),
    (0xfb96, 0xfb9f, "\u06b3 \u06b3 \u06b3 \u06b3 \u06b1 \u06b1 \u06b1 \u06b1 \u06ba \u06ba"),
    (0xfba0, 0xfba9, "\u06bb \u06bb \u06bb \u06bb \u06c0 \u06c0 \u06c1 \u06c1 \u06c1 \u06c1"),
    (0xfbaa, 0xfbb1, "\u06be \u06be \u06be \u06be \u06d2 \u06d2 \u06d3 \u06d3"),
    (0xfbd3, 0xfbdc, "\u06ad \u06ad \u06ad \u06ad \u06c7 \u06c7 \u06c6 \u06c6 \u06c8 \u06c8"),
    (0xfbdd, 0xfbe5, "\u06c7\u0674 \u06cb \u06cb \u06c5 \u06c5 \u06c9 \u06c9 \u06d0 \u06d0"),
    (0xfbe6, 0xfbec, "\u06d0 \u06d0 \u0649 \u0649 \u0626\u0627 \u0626\u0627 \u0626\u06d5"),
    (0xfbed, 0xfbf1, "\u0626\u06d5 \u0626\u0648 \u0626\u0648 \u0626\u06c7 \u0626\u06c7"),
    (0xfbf2, 0xfbf6, "\u0626\u06c6 \u0626\u06c6 \u0626\u06c8 \u0626\u06c8 \u0626\u06d0"),
    (0xfbf7, 0xfbfb, "\u0626\u06d0 \u0626\u06d0 \u0626\u0649 \u0626\u0649 \u0626\u0649"),
    (0xfbfc, 0xfc02, "\u06cc \u06cc \u06cc \u06cc \u0626\u062c \u0626\u062d \u0626\u0645"),
    (0xfc03, 0xfc07, "\u0626\u0649 \u0626\u064a \u0628\u062c \u0628\u062d \u0628\u062e"),
    (0xfc08, 0xfc0c, "\u0628\u0645 \u0628\u0649 \u0628\u064a \u062a\u062c \u062a\u062d"),
    (0xfc0d, 0xfc11, "\u062a\u062e \u062a\u0645 \u062a\u0649 \u062a\u064a \u062b\u062c"),
    (0xfc12, 0xfc16, "\u062b\u0645 \u062b\u0649 \u062b\u064a \u062c\u062d \u062c\u0645"),
    (0xfc17, 0xfc1b, "\u062d\u062c \u062d\u0645 \u062e\u062c \u062e\u062d \u062e\u0645"),
    (0xfc1c, 0xfc20, "\u0633\u062c \u0633\u062d \u0633\u062e \u0633\u0645 \u0635\u062d"),
    (0xfc21, 0xfc25, "\u0635\u0645 \u0636\u062c \u0636\u062d \u0636\u062e \u0636\u0645"),
    (0xfc26, 0xfc2a, "\u0637\u062d \u0637\u0645 \u0638\u0645 \u0639\u062c \u0639\u0645"),
    (0xfc2b, 0xfc2f, "\u063a\u062c \u063a\u0645 \u0641\u062c \u0641\u062d \u0641\u062e"),
    (0xfc30, 0xfc34, "\u0641\u0645 \u0641\u0649 \u0641\u064a \u0642\u062d \u0642\u0645"),
    (0xfc35, 0xfc39, "\u0642\u0649 \u0642\u064a \u0643\u0627 \u0643\u062c \u0643\u062d"),
    (0xfc3a, 0xfc3e, "\u0643\u062e \u0643\u0644 \u0643\u0645 \u0643\u0649 \u0643\u064a"),
    (0xfc3f, 0xfc43, "\u0644\u062c \u0644\u062d \u0644\u062e \u0644\u0645 \u0644\u0649"),
    (0xfc44, 0xfc48, "\u0644\u064a \u0645\u062c \u0645\u062d \u0645\u062e \u0645\u0645"),
    (0xfc49, 0xfc4d, "\u0645\u0649 \u0645\u064a \u0646\u062c \u0646\u062d \u0646\u062e"),
    (0xfc4e, 0xfc52, "\u0646\u0645 \u0646\u0649 \u0646\u064a \u0647\u062c \u0647\u0645"),
    (0xfc53, 0xfc57, "\u0647\u0649 \u0647\u064a \u064a\u062c \u064a\u062d \u064a\u062e"),
    (0xfc58, 0xfc5c, "\u064a\u0645 \u064a\u0649 \u064a\u064a \u0630\u0670 \u0631\u0670"),
    (0xfc5d, 0xfc5d, "\u0649\u0670"),
    (0xfc64, 0xfc68, "\u0626\u0631 \u0626\u0632 \u0626\u0645 \u0626\u0646 \u0626\u0649"),
    (0xfc69, 0xfc6d, "\u0626\u064a \u0628\u0631 \u0628\u0632 \u0628\u0645 \u0628\u0646"),
    (0xfc6e, 0xfc72, "\u0628\u0649 \u0628\u064a \u062a\u0631 \u062a\u0632 \u062a\u0645"),
    (0xfc73, 0xfc77, "\u062a\u0646 \u062a\u0649 \u062a\u064a \u062b\u0631 \u062b\u0632"),
    (0xfc78, 0xfc7c, "\u062b\u0645 \u062b\u0646 \u062b\u0649 \u062b\u064a \u0641\u0649"),
    (0xfc7d, 0xfc81, "\u0641\u064a \u0642\u0649 \u0642\u064a \u0643\u0627 \u0643\u0644"),
    (0xfc82, 0xfc86, "\u0643\u0645 \u0643\u0649 \u0643\u064a \u0644\u0645 \u0644\u0649"),
    (0xfc87, 0xfc8b, "\u0644\u064a \u0645\u0627 \u0645\u0645 \u0646\u0631 \u0646\u0632"),
    (0xfc8c, 0xfc90, "\u0646\u0645 \u0646\u0646 \u0646\u0649 \u0646\u064a \u0649\u0670"),
    (0xfc91, 0xfc95, "\u064a\u0631 \u064a\u0632 \u064a\u0645 \u064a\u0646 \u064a\u0649"),
    (0xfc96, 0xfc9a, "\u064a\u064a \u0626\u062c \u0626\u062d \u0626\u062e \u0626\u0645"),
    (0xfc9b, 0xfc9f, "\u0626\u0647 \u0628\u062c \u0628\u062d \u0628\u062e \u0628\u0645"),
    (0xfca0, 0xfca4, "\u0628\u0647 \u062a\u062c \u062a\u062d \u062a\u062e \u062a\u0645"),
    (0xfca5, 0xfca9, "\u062a\u0647 \u062b\u0645 \u062c\u062d \u062c\u0645 \u062d\u062c"),
    (0xfcaa, 0xfcae, "\u062d\u0645 \u062e\u062c \u062e\u0645 \u0633\u062c \u0633\u062d"),
    (0xfcaf, 0xfcb3, "\u0633\u062e \u0633\u0645 \u0635\u062d \u0635\u062e \u0635\u0645"),
    (0xfcb4, 0xfcb8, "\u0636\u062c \u0636\u062d \u0636\u062e \u0636\u0645 \u0637\u062d"),
    (0xfcb9, 0xfcbd, "\u0638\u0645 \u0639\u062c \u0639\u0645 \u063a\u062c \u063a\u0645"),
    (0xfcbe, 0xfcc2, "\u0641\u062c \u0641\u062d \u0641\u062e \u0641\u0645 \u0642\u062d"),
    (0xfcc3, 0xfcc7, "\u0642\u0645 \u0643\u062c \u0643\u062d \u0643\u062e \u0643\u0644"),
    (0xfcc8, 0xfccc, "\u0643\u0645 \u0644\u062c \u0644\u062d \u0644\u062e \u0644\u0645"),
    (0xfccd, 0xfcd1, "\u0644\u0647 \u0645\u062c \u0645\u062d \u0645\u062e \u0645\u0645"),
    (0xfcd2, 0xfcd6, "\u0646\u062c \u0646\u062d \u0646\u062e \u0646\u0645 \u0646\u0647"),
    (0xfcd7, 0xfcdb, "\u0647\u062c \u0647\u0645 \u0647\u0670 \u064a\u062c \u064a\u062d"),
    (0xfcdc, 0xfce0, "\u064a\u062e \u064a\u0645 \u064a\u0647 \u0626\u0645 \u0626\u0647"),
    (0xfce1, 0xfce5, "\u0628\u0645 \u0628\u0647 \u062a\u0645 \u062a\u0647 \u062b\u0645"),
    (0xfce6, 0xfcea, "\u062b\u0647 \u0633\u0645 \u0633\u0647 \u0634\u0645 \u0634\u0647"),
    (0xfceb, 0xfcef, "\u0643\u0644 \u0643\u0645 \u0644\u0645 \u0646\u0645 \u0646\u0647"),
    (0xfcf0, 0xfcf3, "\u064a\u0645 \u064a\u0647 \u0640\u064e\u0651 \u0640\u064f\u0651"),
    (0xfcf4, 0xfcf8, "\u0640\u0650\u0651 \u0637\u0649 \u0637\u064a \u0639\u0649 \u0639\u064a"),
    (0xfcf9, 0xfcfd, "\u063a\u0649 \u063a\u064a \u0633\u0649 \u0633\u064a \u0634\u0649"),
    (0xfcfe, 0xfd02, "\u0634\u064a \u062d\u0649 \u062d\u064a \u062c\u0649 \u062c\u064a"),
    (0xfd03, 0xfd07, "\u062e\u0649 \u062e\u064a \u0635\u0649 \u0635\u064a \u0636\u0649"),
    (0xfd08, 0xfd0c, "\u0636\u064a \u0634\u062c \u0634\u062d \u0634\u062e \u0634\u0645"),
    (0xfd0d, 0xfd11, "\u0634\u0631 \u0633\u0631 \u0635\u0631 \u0636\u0631 \u0637\u0649"),
    (0xfd12, 0xfd16, "\u0637\u064a \u0639\u0649 \u0639\u064a \u063a\u0649 \u063a\u064a"),
    (0xfd17, 0xfd1b, "\u0633\u0649 \u0633\u064a \u0634\u0649 \u0634\u064a \u062d\u0649"),
    (0xfd1c, 0xfd20, "\u062d\u064a \u062c\u0649 \u062c\u064a \u062e\u0649 \u062e\u064a"),
    (0xfd21, 0xfd25, "\u0635\u0649 \u0635\u064a \u0636\u0649 \u0636\u064a \u0634\u062c"),
    (0xfd26, 0xfd2a, "\u0634\u062d \u0634\u062e \u0634\u0645 \u0634\u0631 \u0633\u0631"),
    (0xfd2b, 0xfd2f, "\u0635\u0631 \u0636\u0631 \u0634\u062c \u0634\u062d \u0634\u062e"),
    (0xfd30, 0xfd34, "\u0634\u0645 \u0633\u0647 \u0634\u0647 \u0637\u0645 \u0633\u062c"),
    (0xfd35, 0xfd39, "\u0633\u062d \u0633\u062e \u0634\u062c \u0634\u062d \u0634\u062e"),
    (0xfd3a, 0xfd3d, "\u0637\u0645 \u0638\u0645 \u0627\u064b \u0627\u064b"),
    (0xfd50, 0xfd52, "\u062a\u062c\u0645 \u062a\u062d\u062c \u062a\u062d\u062c"),
    (0xfd53, 0xfd55, "\u062a\u062d\u0645 \u062a\u062e\u0645 \u062a\u0645\u062c"),
    (0xfd56, 0xfd58, "\u062a\u0645\u062d \u062a\u0645\u062e \u062c\u0645\u062d"),
    (0xfd59, 0xfd5b, "\u062c\u0645\u062d \u062d\u0645\u064a \u062d\u0645\u0649"),
    (0xfd5c, 0xfd5e, "\u0633\u062d\u062c \u0633\u062c\u062d \u0633\u062c\u0649"),
    (0xfd5f, 0xfd61, "\u0633\u0645\u062d \u0633\u0645\u062d \u0633\u0645\u062c"),
    (0xfd62, 0xfd64, "\u0633\u0645\u0645 \u0633\u0645\u0645 \u0635\u062d\u062d"),
    (0xfd65, 0xfd67, "\u0635\u062d\u062d \u0635\u0645\u0645 \u0634\u062d\u0645"),
    (0xfd68, 0xfd6a, "\u0634\u062d\u0645 \u0634\u062c\u064a \u0634\u0645\u062e"),
    (0xfd6b, 0xfd6d, "\u0634\u0645\u062e \u0634\u0645\u0645 \u0634\u0645\u0645"),
    (0xfd6e, 0xfd70, "\u0636\u062d\u0649 \u0636\u062e\u0645 \u0636\u062e\u0645"),
    (0xfd71, 0xfd73, "\u0637\u0645\u062d \u0637\u0645\u062d \u0637\u0645\u0645"),
    (0xfd74, 0xfd76, "\u0637\u0645\u064a \u0639\u062c\u0645 \u0639\u0645\u0645"),
    (0xfd77, 0xfd79, "\u0639\u0645\u0645 \u0639\u0645\u0649 \u063a\u0645\u0645"),
    (0xfd7a, 0xfd7c, "\u063a\u0645\u064a \u063a\u0645\u0649 \u0641\u062e\u0645"),
    (0xfd7d, 0xfd7f, "\u0641\u062e\u0645 \u0642\u0645\u062d \u0642\u0645\u0645"),
    (0xfd80, 0xfd82, "\u0644\u062d\u0645 \u0644\u062d\u064a \u0644\u062d\u0649"),
    (0xfd83, 0xfd85, "\u0644\u062c\u062c \u0644\u062c\u062c \u0644\u062e\u0645"),
    (0xfd86, 0xfd88, "\u0644\u062e\u0645 \u0644\u0645\u062d \u0644\u0645\u062d"),
    (0xfd89, 0xfd8b, "\u0645\u062d\u062c \u0645\u062d\u0645 \u0645\u062d\u064a"),
    (0xfd8c, 0xfd8e, "\u0645\u062c\u062d \u0645\u062c\u0645 \u0645\u062e\u062c"),
    (0xfd8f, 0xfd8f, "\u0645\u062e\u0645"),
    (0xfd92, 0xfd94, "\u0645\u062c\u062e \u0647\u0645\u062c \u0647\u0645\u0645"),
    (0xfd95, 0xfd97, "\u0646\u062d\u0645 \u0646\u062d\u0649 \u0646\u062c\u0645"),
    (0xfd98, 0xfd9a, "\u0646\u062c\u0645 \u0646\u062c\u0649 \u0646\u0645\u064a"),
    (0xfd9b, 0xfd9d, "\u0646\u0645\u0649 \u064a\u0645\u0645 \u064a\u0645\u0645"),
    (0xfd9e, 0xfda0, "\u0628\u062e\u064a \u062a\u062c\u064a \u062a\u062c\u0649"),
    (0xfda1, 0xfda3, "\u062a\u062e\u064a \u062a\u062e\u0649 \u062a\u0645\u064a"),
    (0xfda4, 0xfda6, "\u062a\u0645\u0649 \u062c\u0645\u064a \u062c\u062d\u0649"),
    (0xfda7, 0xfda9, "\u062c\u0645\u0649 \u0633\u062e\u0649 \u0635\u062d\u064a"),
    (0xfdaa, 0xfdac, "\u0634\u062d\u064a \u0636\u062d\u064a \u0644\u062c\u064a"),
    (0xfdad, 0xfdaf, "\u0644\u0645\u064a \u064a\u062d\u064a \u064a\u062c\u064a"),
    (0xfdb0, 0xfdb2, "\u064a\u0645\u064a \u0645\u0645\u064a \u0642\u0645\u064a"),
    (0xfdb3, 0xfdb5, "\u0646\u062d\u064a \u0642\u0645\u062d \u0644\u062d\u0645"),
    (0xfdb6, 0xfdb8, "\u0639\u0645\u064a \u0643\u0645\u064a \u0646\u062c\u062d"),
    (0xfdb9, 0xfdbb, "\u0645\u062e\u064a \u0644\u062c\u0645 \u0643\u0645\u0645"),
    (0xfdbc, 0xfdbe, "\u0644\u062c\u0645 \u0646\u062c\u062d \u062c\u062d\u064a"),
    (0xfdbf, 0xfdc1, "\u062d\u062c\u064a \u0645\u062c\u064a \u0641\u0645\u064a"),
    (0xfdc2, 0xfdc4, "\u0628\u062d\u064a \u0643\u0645\u0645 \u0639\u062c\u0645"),
    (0xfdc5, 0xfdc7, "\u0635\u0645\u0645 \u0633\u062e\u064a \u0646\u062c\u064a"),
    (0xfdf0, 0xfdf2, "\u0635\u0644\u06d2 \u0642\u0644\u06d2 \u0627\u0644\u0644\u0647"),
    (0xfdf3, 0xfdf4, "\u0627\u0643\u0628\u0631 \u0645\u062d\u0645\u062f"),
    (0xfdf5, 0xfdf6, "\u0635\u0644\u0639\u0645 \u0631\u0633\u0648\u0644"),
    (0xfdf7, 0xfdf9, "\u0639\u0644\u064a\u0647 \u0648\u0633\u0644\u0645 \u0635\u0644\u0649"),
    (0xfdfc, 0xfdfc, "\u0631\u06cc\u0627\u0644"),
    (0xfe10, 0xfe11, ", 、"),
    (0xfe13, 0xfe18, ": ; ! ? 〖 〗"),
    (0xfe31, 0xfe36, "— – _ _ ( )"),
    (0xfe39, 0xfe44, "〔 〕 【 】 《 》 〈 〉 「 」 『 』"),
    (0xfe47, 0xfe48, "[ ]"),
    (0xfe4d, 0xfe51, "_ _ _ , 、"),
    (0xfe54, 0xfe5a, "; : ? ! — ( )"),
    (0xfe5d, 0xfe5e, "〔 〕"),
    (0xfe60, 0xfe66, "& * + - < > ="),
    (0xfe69, 0xfe6b, "$ % @"),
    (0xfe71, 0xfe71, "\u0640\u064b"),
    (0xfe77, 0xfe77, "\u0640\u064e"),
    (0xfe79, 0xfe79, "\u0640\u064f"),
    (0xfe7b, 0xfe7b, "\u0640\u0650"),
    (0xfe7d, 0xfe7d, "\u0640\u0651"),
    (0xfe7f, 0xfe87, "\u0640\u0652 \u0621 \u0622 \u0622 \u0623 \u0623 \u0624 \u0624 \u0625"),
    (0xfe88, 0xfe91, "\u0625 \u0626 \u0626 \u0626 \u0626 \u0627 \u0627 \u0628 \u0628 \u0628"),
    (0xfe92, 0xfe9b, "\u0628 \u0629 \u0629 \u062a \u062a \u062a \u062a \u062b \u062b \u062b"),
    (0xfe9c, 0xfea5, "\u062b \u062c \u062c \u062c \u062c \u062d \u062d \u062d \u062d \u062e"),
    (0xfea6, 0xfeaf, "\u062e \u062e \u062e \u062f \u062f \u0630 \u0630 \u0631 \u0631 \u0632"),
    (0xfeb0, 0xfeb9, "\u0632 \u0633 \u0633 \u0633 \u0633 \u0634 \u0634 \u0634 \u0634 \u0635"),
    (0xfeba, 0xfec3, "\u0635 \u0635 \u0635 \u0636 \u0636 \u0636 \u0636 \u0637 \u0637 \u0637"),
    (0xfec4, 0xfecd, "\u0637 \u0638 \u0638 \u0638 \u0638 \u0639 \u0639 \u0639 \u0639 \u063a"),
    (0xfece, 0xfed7, "\u063a \u063a \u063a \u0641 \u0641 \u0641 \u0641 \u0642 \u0642 \u0642"),
    (0xfed8, 0xfee1, "\u0642 \u0643 \u0643 \u0643 \u0643 \u0644 \u0644 \u0644 \u0644 \u0645"),
    (0xfee2, 0xfeeb, "\u0645 \u0645 \u0645 \u0646 \u0646 \u0646 \u0646 \u0647 \u0647 \u0647"),
    (0xfeec, 0xfef4, "\u0647 \u0648 \u0648 \u0649 \u0649 \u064a \u064a \u064a \u064a"),
    (0xfef5, 0xfef9, "\u0644\u0622 \u0644\u0622 \u0644\u0623 \u0644\u0623 \u0644\u0625"),
    (0xfefa, 0xfefc, "\u0644\u0625 \u0644\u0627 \u0644\u0627"),
    (0xff5f, 0xff74, "⦅ ⦆ . 「 」 、 ・ ヲ ァ ィ ゥ ェ ォ ャ ュ ョ ッ ー ア イ ウ エ"),
    (0xff75, 0xff84, "オ カ キ ク ケ コ サ シ ス セ ソ タ チ ツ テ ト"),
    (0xff8b, 0xff8e, "ヒ フ ヘ ホ"),
    (0xff94, 0xff95, "ヤ ユ"),
    (0xff9c, 0xff9f, "ワ ン \u3099 \u309a"),
    (0xffa1, 0xffa9, "ᄀ ᄁ ᆪ ᄂ ᆬ ᆭ ᄃ ᄄ ᄅ"),
    (0xffb0, 0xffb4, "ᄚ ᄆ ᄇ ᄈ ᄡ"),
    (0xffda, 0xffdc, "ᅳ ᅴ ᅵ"),
    (0xffe0, 0xffe2, "¢ £ ¬"),
    (0xffe4, 0xffe6, "¦ ¥ ₩"),
    (0xffe8, 0xffee, "│ ← ↑ → ↓ ■ ○"),
    (0x10594, 0x10595, "𐖻 𐖼"),
    (0x10781, 0x10785, "ː ˑ æ ʙ ɓ"),
    (0x10787, 0x1079c, "ʣ ꭦ ʥ ʤ ɖ ɗ ᶑ ɘ ɞ ʩ ɤ ɢ ɠ ʛ ħ ʜ ɧ ʄ ʪ ʫ ɬ 𝼄"),
    (0x1079d, 0x107b0, "ꞎ ɮ 𝼅 ʎ 𝼆 ø ɶ ɷ q ɺ 𝼈 ɽ ɾ ʀ ʨ ʦ ꭧ ʧ ʈ ⱱ"),
    (0x107b2, 0x107ba, "ʏ ʡ ʢ ʘ ǀ ǁ ǂ 𝼊 𝼞"),
    (0x1d15e, 0x1d164, "𝅗𝅥 𝅘𝅥 𝅘𝅥𝅮 𝅘𝅥𝅯 𝅘𝅥𝅰 𝅘𝅥𝅱 𝅘𝅥𝅲"),
    (0x1d1bb, 0x1d1c0, "𝆹𝅥 𝆺𝅥 𝆹𝅥𝅮 𝆺𝅥𝅮 𝆹𝅥𝅯 𝆺𝅥𝅯"),
    (0x1d49c, 0x1d49c, "a"),
    (0x1d49e, 0x1d49f, "c d"),
    (0x1d4a2, 0x1d4a2, "g"),
    (0x1d4a5, 0x1d4a6, "j k"),
    (0x1d4a9, 0x1d4ac, "n o p q"),
    (0x1d4b6, 0x1d4b9, "a b c d"),
    (0x1d4bb, 0x1d4bb, "f"),
    (0x1d504, 0x1d505, "a b"),
    (0x1d507, 0x1d50a, "d e f g"),
    (0x1d538, 0x1d539, "a b"),
    (0x1d53b, 0x1d53e, "d e f g"),
    (0x1d546, 0x1d546, "o"),
    (0x1d6a4, 0x1d6a5, "ı ȷ"),
    (0x1d6b9, 0x1d6b9, "θ"),
    (0x1d6c1, 0x1d6c1, "∇"),
    (0x1d6d3, 0x1d6d3, "σ"),
    (0x1d6db, 0x1d6e1, "∂ ε θ κ φ ρ π"),
    (0x1d6f3, 0x1d6f3, "θ"),
    (0x1d6fb, 0x1d6fb, "∇"),
    (0x1d70d, 0x1d70d, "σ"),
    (0x1d715, 0x1d71b, "∂ ε θ κ φ ρ π"),
    (0x1d72d, 0x1d72d, "θ"),
    (0x1d735, 0x1d735, "∇"),
    (0x1d747, 0x1d747, "σ"),
    (0x1d74f, 0x1d755, "∂ ε θ κ φ ρ π"),
    (0x1d767, 0x1d767, "θ"),
    (0x1d76f, 0x1d76f, "∇"),
    (0x1d781, 0x1d781, "σ"),
    (0x1d789, 0x1d78f, "∂ ε θ κ φ ρ π"),
    (0x1d7a1, 0x1d7a1, "θ"),
    (0x1d7a9, 0x1d7a9, "∇"),
    (0x1d7bb, 0x1d7bb, "σ"),
    (0x1d7c3, 0x1d7cb, "∂ ε θ κ φ ρ π ϝ ϝ"),
    (0x1e039, 0x1e03b, "к л м"),
    (0x1e047, 0x1e050, "ы э ю ꚉ ә і ј ө ү ӏ"),
    (0x1e05a, 0x1e05e, "к л о п с"),
    (0x1e065, 0x1e06d, "ъ ы ґ і ѕ џ ҫ ꙑ ұ"),
    (0x1ee00, 0x1ee03, "\u0627 \u0628 \u062c \u062f"),
    (0x1ee05, 0x1ee0e, "\u0648 \u0632 \u062d \u0637 \u064a \u0643 \u0644 \u0645 \u0646 \u0633"),
    (0x1ee0f, 0x1ee18, "\u0639 \u0641 \u0635 \u0642 \u0631 \u0634 \u062a \u062b \u062e \u0630"),
    (0x1ee19, 0x1ee1f, "\u0636 \u0638 \u063a \u066e \u06ba \u06a1 \u066f"),
    (0x1ee21, 0x1ee22, "\u0628 \u062c"),
    (0x1ee24, 0x1ee24, "\u0647"),
    (0x1ee27, 0x1ee27, "\u062d"),
    (0x1ee29, 0x1ee32, "\u064a \u0643 \u0644 \u0645 \u0646 \u0633 \u0639 \u0641 \u0635 \u0642"),
    (0x1ee34, 0x1ee37, "\u0634 \u062a \u062b \u062e"),
    (0x1ee39, 0x1ee39, "\u0636"),
    (0x1ee3b, 0x1ee3b, "\u063a"),
    (0x1ee42, 0x1ee42, "\u062c"),
    (0x1ee47, 0x1ee47, "\u062d"),
    (0x1ee49, 0x1ee49, "\u064a"),
    (0x1ee4b, 0x1ee4b, "\u0644"),
    (0x1ee4d, 0x1ee4f, "\u0646 \u0633 \u0639"),
    (0x1ee51, 0x1ee52, "\u0635 \u0642"),
    (0x1ee54, 0x1ee54, "\u0634"),
    (0x1ee57, 0x1ee57, "\u062e"),
    (0x1ee59, 0x1ee59, "\u0636"),
    (0x1ee5b, 0x1ee5b, "\u063a"),
    (0x1ee5d, 0x1ee5d, "\u06ba"),
    (0x1ee5f, 0x1ee5f, "\u066f"),
    (0x1ee61, 0x1ee62, "\u0628 \u062c"),
    (0x1ee64, 0x1ee64, "\u0647"),
    (0x1ee67, 0x1ee6a, "\u062d \u0637 \u064a \u0643"),
    (0x1ee6c, 0x1ee72, "\u0645 \u0646 \u0633 \u0639 \u0641 \u0635 \u0642"),
    (0x1ee74, 0x1ee77, "\u0634 \u062a \u062b \u062e"),
    (0x1ee79, 0x1ee7c, "\u0636 \u0638 \u063a \u066e"),
    (0x1ee7e, 0x1ee7e, "\u06a1"),
    (0x1ee80, 0x1ee89, "\u0627 \u0628 \u062c \u062f \u0647 \u0648 \u0632 \u062d \u0637 \u064a"),
    (0x1ee8b, 0x1ee94, "\u0644 \u0645 \u0646 \u0633 \u0639 \u0641 \u0635 \u0642 \u0631 \u0634"),
    (0x1ee95, 0x1ee9b, "\u062a \u062b \u062e \u0630 \u0636 \u0638 \u063a"),
    (0x1eea1, 0x1eea3, "\u0628 \u062c \u062f"),
    (0x1eea5, 0x1eea9, "\u0648 \u0632 \u062d \u0637 \u064a"),
    (0x1eeab, 0x1eeb4, "\u0644 \u0645 \u0646 \u0633 \u0639 \u0641 \u0635 \u0642 \u0631 \u0634"),
    (0x1eeb5, 0x1eebb, "\u062a \u062b \u062e \u0630 \u0636 \u0638 \u063a"),
    (0x1f101, 0x1f10a, "0, 1, 2, 3, 4, 5, 6, 7, 8, 9,"),
    (0x1f110, 0x1f120, "(a) (b) (c) (d) (e) (f) (g) (h) (i) (j) (k) (l) (m) (n) (o) (p) (q)"),
    (0x1f121, 0x1f12c, "(r) (s) (t) (u) (v) (w) (x) (y) (z) 〔s〕 c r"),
    (0x1f12d, 0x1f12e, "cd wz"),
    (0x1f14a, 0x1f14f, "hv mv sd ss ppv wc"),
    (0x1f16a, 0x1f16c, "mc md mr"),
    (0x1f190, 0x1f190, "dj"),
    (0x1f200, 0x1f202, "ほか ココ サ"),
    (0x1f210, 0x1f225, "手 字 双 デ 二 多 解 天 交 映 無 料 前 後 再 新 初 終 生 販 声 吹"),
    (0x1f226, 0x1f23b, "演 投 捕 一 三 遊 左 中 右 指 走 打 禁 空 合 満 有 月 申 割 営 配"),
    (0x1f240, 0x1f248, "〔本〕 〔三〕 〔二〕 〔安〕 〔点〕 〔打〕 〔盗〕 〔勝〕 〔敗〕"),
    (0x1f250, 0x1f251, "得 可"),
    (0x2f800, 0x2f815, "丽 丸 乁 𠄢 你 侮 侻 倂 偺 備 僧 像 㒞 𠘺 免 兔 兤 具 𠔜 㒹 內 再"),
    (0x2f816, 0x2f82b, "𠕋 冗 冤 仌 冬 况 𩇟 凵 刃 㓟 刻 剆 割 剷 㔕 勇 勉 勤 勺 包 匆 北"),
    (0x2f82c, 0x2f841, "卉 卑 博 即 卽 卿 卿 卿 𠨬 灰 及 叟 𠭣 叫 叱 吆 咞 吸 呈 周 咢 哶"),
    (0x2f842, 0x2f857, "唐 啓 啣 善 善 喙 喫 喳 嗂 圖 嘆 圗 噑 噴 切 壮 城 埴 堍 型 堲 報"),
    (0x2f858, 0x2f86d, "墬 𡓤 売 壷 夆 多 夢 奢 𡚨 𡛪 姬 娛 娧 姘 婦 㛮 㛼 嬈 嬾 嬾 𡧈 寃"),
    (0x2f86e, 0x2f883, "寘 寧 寳 𡬘 寿 将 当 尢 㞁 屠 屮 峀 岍 𡷤 嵃 𡷦 嵮 嵫 嵼 巡 巢 㠯"),
    (0x2f884, 0x2f899, "巽 帨 帽 幩 㡢 𢆃 㡼 庰 庳 庶 廊 𪎒 廾 𢌱 𢌱 舁 弢 弢 㣇 𣊸 𦇚 形"),
    (0x2f89a, 0x2f8af, "彫 㣣 徚 忍 志 忹 悁 㤺 㤜 悔 𢛔 惇 慈 慌 慎 慌 慺 憎 憲 憤 憯 懞"),
    (0x2f8b0, 0x2f8c5, "懲 懶 成 戛 扝 抱 拔 捐 𢬌 挽 拼 捨 掃 揤 𢯱 搢 揅 掩 㨮 摩 摾 撝"),
    (0x2f8c6, 0x2f8db, "摷 㩬 敏 敬 𣀊 旣 書 晉 㬙 暑 㬈 㫤 冒 冕 最 暜 肭 䏙 朗 望 朡 杞"),
    (0x2f8dc, 0x2f8f1, "杓 𣏃 㭉 柺 枅 桒 梅 𣑭 梎 栟 椔 㮝 楂 榣 槪 檨 𣚣 櫛 㰘 次 𣢧 歔"),
    (0x2f8f2, 0x2f907, "㱎 歲 殟 殺 殻 𣪍 𡴋 𣫺 汎 𣲼 沿 泍 汧 洖 派 海 流 浩 浸 涅 𣴞 洴"),
    (0x2f908, 0x2f91d, "港 湮 㴳 滋 滇 𣻑 淹 潮 𣽞 𣾎 濆 瀹 瀞 瀛 㶖 灊 災 灷 炭 𠔥 煅 𤉣"),
    (0x2f91e, 0x2f933, "熜 𤎫 爨 爵 牐 𤘈 犀 犕 𤜵 𤠔 獺 王 㺬 玥 㺸 㺸 瑇 瑜 瑱 璅 瓊 㼛"),
    (0x2f934, 0x2f949, "甤 𤰶 甾 𤲒 異 𢆟 瘐 𤾡 𤾸 𥁄 㿼 䀈 直 𥃳 𥃲 𥄙 𥄳 眞 真 真 睊 䀹"),
    (0x2f94a, 0x2f95f, "瞋 䁆 䂖 𥐝 硎 碌 磌 䃣 𥘦 祖 𥚚 𥛅 福 秫 䄯 穀 穊 穏 𥥼 𥪧 𥪧 竮"),
    (0x2f960, 0x2f975, "䈂 𥮫 篆 築 䈧 𥲀 糒 䊠 糨 糣 紀 𥾆 絣 䌁 緇 縂 繅 䌴 𦈨 𦉇 䍙 𦋙"),
    (0x2f976, 0x2f98b, "罺 𦌾 羕 翺 者 𦓚 𦔣 聠 𦖨 聰 𣍟 䏕 育 脃 䐋 脾 媵 𦞧 𦞵 𣎓 𣎜 舁"),
    (0x2f98c, 0x2f9a1, "舄 辞 䑫 芑 芋 芝 劳 花 芳 芽 苦 𦬼 若 茝 荣 莭 茣 莽 菧 著 荓 菊"),
    (0x2f9a2, 0x2f9b7, "菌 菜 𦰶 𦵫 𦳕 䔫 蓱 蓳 蔖 𧏊 蕤 𦼬 䕝 䕡 𦾱 𧃒 䕫 虐 虜 虧 虩 蚩"),
    (0x2f9b8, 0x2f9cd, "蚈 蜎 蛢 蝹 蜨 蝫 螆 䗗 蟡 蠁 䗹 衠 衣 𧙧 裗 裞 䘵 裺 㒻 𧢮 𧥦 䚾"),
    (0x2f9ce, 0x2f9e3, "䛇 誠 諭 變 豕 𧲨 貫 賁 贛 起 𧼯 𠠄 跋 趼 跰 𠣞 軔 輸 𨗒 𨗭 邔 郱"),
    (0x2f9e4, 0x2f9f9, "鄑 𨜮 鄛 鈸 鋗 鋘 鉼 鏹 鐕 𨯺 開 䦕 閷 𨵷 䧦 雃 嶲 霣 𩅅 𩈚 䩮 䩶"),
    (0x2f9fa, 0x2fa0f, "韠 𩐊 䪲 𩒖 頋 頋 頩 𩖶 飢 䬳 餩 馧 駂 駾 䯎 𩬰 鬒 鱀 鳽 䳎 䳭 鵧"),
    (0x2fa10, 0x2fa1d, "𪃎 䳸 𪄅 𪈎 𪊑 麻 䵖 黹 黾 鼅 鼏 鼖 鼻 𪘀")]

/-- Ranges of characters that are spelt with a blank, alone or under a mark. -/
def blankRanges : List (Nat × Nat) :=
  [(0xa0, 0xa0), (0xa8, 0xa8), (0xaf, 0xaf), (0xb4, 0xb4), (0xb8, 0xb8), (0x2d8, 0x2dd),
    (0x37a, 0x37a), (0x384, 0x385), (0x1fbd, 0x1fbd), (0x1fbf, 0x1fc1), (0x1fcd, 0x1fcf),
    (0x1fdd, 0x1fdf), (0x1fed, 0x1fee), (0x1ffd, 0x1ffe), (0x2000, 0x200a), (0x2017, 0x2017),
    (0x202f, 0x202f), (0x203e, 0x203e), (0x205f, 0x205f), (0x3000, 0x3000), (0x309b, 0x309c),
    (0xfc5e, 0xfc63), (0xfdfa, 0xfdfb), (0xfe49, 0xfe4c), (0xfe70, 0xfe70), (0xfe72, 0xfe72),
    (0xfe74, 0xfe74), (0xfe76, 0xfe76), (0xfe78, 0xfe78), (0xfe7a, 0xfe7a), (0xfe7c, 0xfe7c),
    (0xfe7e, 0xfe7e), (0xffe3, 0xffe3)]

/-- Ranges of characters that are left out. -/
def silentRanges : List (Nat × Nat) :=
  [(0xad, 0xad), (0x34f, 0x34f), (0x115f, 0x1160), (0x17b4, 0x17b5), (0x180b, 0x180f),
    (0x200b, 0x200b), (0x2060, 0x2064), (0x206a, 0x206f), (0x3164, 0x3164), (0xfe00, 0xfe0f),
    (0xfeff, 0xfeff), (0xffa0, 0xffa0), (0x1bca0, 0x1bca3), (0x1d173, 0x1d17a), (0xe0100, 0xe01ef)]

/-- Ranges of visible characters that no host has: numbers and abbreviations with a point, signs
that describe a character, and replacements. -/
def barredRanges : List (Nat × Nat) :=
  [(0x2024, 0x2026), (0x2488, 0x249b), (0x2ff0, 0x2fff), (0x31ef, 0x31ef), (0x33c2, 0x33c2),
    (0x33c7, 0x33c7), (0x33d8, 0x33d8), (0xfe12, 0xfe12), (0xfe19, 0xfe19), (0xfe30, 0xfe30),
    (0xfe52, 0xfe52), (0xfffc, 0xfffd), (0x1f100, 0x1f100)]

end ShopSync.Http.Host
