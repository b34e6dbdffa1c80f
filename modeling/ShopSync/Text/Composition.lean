import ShopSync.Text.Mark

/-!
Characters and the marks that they are made of.

A letter with a mark may be one character or two, and marks may come in any order.  `composed`
gives all spellings of a text one form: characters are taken apart, marks of different classes are
put in order, and every character takes the marks that it can be one with.

The table holds the characters that are no other spelling of a simpler one.  Korean syllables are
not in it; they are counted through by their three parts.
-/

namespace ShopSync.Text

namespace Composition

/-- Marks, and in turn the characters that they go to and what the two become. -/
def rows : List (Nat × String) :=
  [(0x300, "aàeèiìoòuùüǜnǹеѐиѝēḕōṑwẁâầăằêềôồơờưừyỳἀἂἁἃἐἒἑἓἠἢἡἣἰἲἱἳὀὂὁὃὐὒὑὓὠὢ"),
    (0x300, "ὡὣαὰεὲηὴιὶοὸυὺωὼϊῒϋῢ"),
    (0x301, "aáeéiíoóuúyýcćlĺnńrŕsśzźüǘgǵåǻæǽøǿϊΐαάεέηήιίϋΰοόυύωώгѓкќçḉēḗïḯkḱ"),
    (0x301, "mḿõṍōṓpṕũṹwẃâấăắêếôốơớưứἀἄἁἅἐἔἑἕἠἤἡἥἰἴἱἵὀὄὁὅὐὔὑὕὠὤὡὥ"),
    (0x302, "aâeêiîoôuûcĉgĝhĥjĵsŝwŵyŷzẑạậẹệọộ"), (0x303, "aãnñoõiĩuũvṽâẫăẵeẽêễôỗơỡưữyỹ"),
    (0x304, "aāeēiīoōuūüǖäǟȧǡæǣǫǭöȫõȭȯȱyȳиӣуӯgḡḷḹṛṝαᾱιῑυῡ"),
    (0x306, "aăeĕgğiĭoŏuŭийуўжӂаӑеӗȩḝạặαᾰιῐυῠ"),
    (0x307, "cċeėgġzżaȧoȯbḃdḋfḟhḣmṁnṅpṗrṙsṡśṥšṧṣṩtṫwẇxẋyẏ𐗒𐗉𐗚𐗤"),
    (0x308, "aäeëiïoöuüyÿιϊυϋеёіїаӓәӛжӝзӟиӥоӧөӫэӭуӱчӵыӹhḧõṏūṻwẅxẍtẗ"),
    (0x309, "aảâẩăẳeẻêểiỉoỏôổơởuủưửyỷ"), (0x30a, "aåuůwẘyẙ"), (0x30b, "oőuűуӳ"),
    (0x30c, "cčdďeělľnňrřsštťzžaǎiǐoǒuǔüǚgǧkǩʒǯjǰhȟ"), (0x30f, "aȁeȅiȉoȍrȑuȕѵѷ"),
    (0x311, "aȃeȇiȋoȏrȓuȗ"), (0x313, "αἀεἐηἠιἰοὀυὐωὠρῤ"), (0x314, "αἁεἑηἡιἱοὁυὑωὡρῥ"),
    (0x31b, "oơuư"), (0x323, "bḅdḍhḥkḳlḷmṃnṇrṛsṣtṭvṿwẉzẓaạeẹiịoọơợuụưựyỵ"), (0x324, "uṳ"),
    (0x325, "aḁ"), (0x326, "sștț"), (0x327, "cçgģkķlļnņrŗsştţeȩdḑhḩ"), (0x328, "aąeęiįuųoǫ"),
    (0x32d, "dḓeḙlḽnṋtṱuṷ"), (0x32e, "hḫ"), (0x330, "eḛiḭuṵ"), (0x331, "bḇdḏkḵlḻnṉrṟtṯzẕhẖ"),
    (0x338, "←↚→↛↔↮⇐⇍⇔⇎⇒⇏∃∄∈∉∋∌∣∤∥∦∼≁≃≄≅≇≈≉=≠≡≢≍≭<≮>≯≤≰≥≱≲≴≳≵≶≸≷≹≺⊀≻⊁⊂⊄⊃⊅⊆⊈⊇⊉"),
    (0x338, "⊢⊬⊨⊭⊩⊮⊫⊯≼⋠≽⋡⊑⋢⊒⋣⊲⋪⊳⋫⊴⋬⊵⋭"), (0x342, "ἀἆἁἇἠἦἡἧἰἶἱἷὐὖὑὗὠὦὡὧαᾶηῆιῖϊῗυῦϋῧωῶ"),
    (0x653, "\u0627\u0622"),
    (0x654, "\u0627\u0623\u0648\u0624\u064a\u0626\u06d5\u06c0\u06c1\u06c2"),
    (0x654, "\u06d2\u06d3"), (0x655, "\u0627\u0625"), (0x93c, "नऩरऱळऴ"), (0x9be, "\u09c7\u09cb"),
    (0x9d7, "\u09c7\u09cc"), (0xb3e, "\u0b47\u0b4b"), (0xb56, "\u0b47\u0b48"),
    (0xb57, "\u0b47\u0b4c"), (0xbbe, "\u0bc6\u0bca\u0bc7\u0bcb"), (0xbd7, "ஒஔ\u0bc6\u0bcc"),
    (0xc56, "\u0c46\u0c48"), (0xcc2, "\u0cc6\u0cca"),
    (0xcd5, "\u0cbf\u0cc0\u0cc6\u0cc7\u0cca\u0ccb"), (0xcd6, "\u0cc6\u0cc8"),
    (0xd3e, "\u0d46\u0d4a\u0d47\u0d4b"), (0xd57, "\u0d46\u0d4c"),
    (0xdca, "\u0dd9\u0dda\u0ddc\u0ddd"), (0xdcf, "\u0dd9\u0ddc"), (0xddf, "\u0dd9\u0dde"),
    (0x102e, "ဥဦ"), (0x1b35, "ᬅᬆᬇᬈᬉᬊᬋᬌᬍᬎᬑᬒ\u1b3a\u1b3b\u1b3c\u1b3d\u1b3e\u1b40\u1b3f\u1b41"),
    (0x1b35, "\u1b42\u1b43"),
    (0x3099, "かがきぎくぐけげこごさざしじすずせぜそぞただちぢつづてでとどはばひびふぶへべほぼうゔゝゞカガキギクグケゲコゴサザシジスズセゼソゾ"),
    (0x3099, "タダチヂツヅテデトドハバヒビフブヘベホボウヴワヷヰヸヱヹヲヺヽヾ"), (0x309a, "はぱひぴふぷへぺほぽハパヒピフプヘペホポ"),
    (0x110ba, "𑂙𑂚𑂛𑂜𑂥𑂫"), (0x11127, "𑄱𑄮𑄲𑄯"), (0x1133e, "𑍇𑍋"), (0x11357, "𑍇𑍌"), (0x113b8, "𑏅𑎸"),
    (0x113bb, "𑎄𑎅"), (0x113c2, "𑎋𑎎𑏅𑏂"), (0x113c9, "𑎂𑎃𑎐𑎑𑏅𑏉"), (0x114b0, "𑒹𑒼"), (0x114ba, "𑒹𑒻"),
    (0x114bd, "𑒹𑒾"), (0x115af, "𑖸𑖺𑖹𑖻"), (0x11930, "𑤵𑤸"), (0x1611e, "𖄡𖄞"), (0x1611f, "𖄦𖄩𖄤𖄡𖄦𖄢𖄧"),
    (0x16120, "𖄨𖄡𖄨"), (0x16129, "𖄡𖄩"), (0x16d67, "𖵨𖵧𖵣𖵩𖵩𖵪")]

/-! ### Korean syllables -/

/-- The first of the consonants that begin a syllable. -/
def firstLead : Nat := 0x1100

/-- The number of consonants that begin a syllable. -/
def leads : Nat := 19

/-- The first of the vowels of syllables. -/
def firstVowel : Nat := 0x1161

/-- The number of vowels. -/
def vowels : Nat := 21

/-- The number before the first of the consonants that end a syllable; it stands for none. -/
def firstTail : Nat := 0x11a7

/-- The number of endings, with none among them. -/
def tails : Nat := 28

/-- The first syllable. -/
def firstSyllable : Nat := 0xac00

/-- Whether the character is a Korean syllable. -/
def isSyllable (n : Nat) : Bool :=
  decide (firstSyllable ≤ n) && decide (n < firstSyllable + leads * vowels * tails)

/-- The Korean syllable that two parts make. -/
def syllable? (a b : Nat) : Option Nat :=
  if firstLead ≤ a ∧ a < firstLead + leads ∧ firstVowel ≤ b ∧ b < firstVowel + vowels then
    some (firstSyllable + ((a - firstLead) * vowels + (b - firstVowel)) * tails)
  else if isSyllable a ∧ (a - firstSyllable) % tails = 0 ∧
      firstTail < b ∧ b < firstTail + tails then
    some (a + (b - firstTail))
  else none

/-- The parts of a Korean syllable. -/
def syllableParts (n : Nat) : List Char :=
  let k := n - firstSyllable
  let tail := k % tails
  [Char.ofNat (firstLead + k / (vowels * tails)), Char.ofNat (firstVowel + k / tails % vowels)] ++
    if tail = 0 then [] else [Char.ofNat (firstTail + tail)]

/-! ### Pairs -/

/-- The first pair of characters, taken two by two, that passes a test. -/
def findPair? (test : Char → Char → Bool) : List Char → Option (Char × Char)
  | a :: b :: rest => if test a b then some (a, b) else findPair? test rest
  | _ => none

/-- What a character and a mark become, if they can be one. -/
def pair? (a b : Char) : Option Char :=
  match syllable? a.toNat b.toNat with
  | some n => some (Char.ofNat n)
  | none =>
    rows.findSome? fun row =>
      if row.1 = b.toNat then (findPair? (fun base _ => base = a) row.2.toList).map Prod.snd
      else none

/-- The character and the mark that a character is made of. -/
def split? (c : Char) : Option (Char × Char) :=
  rows.findSome? fun row =>
    (findPair? (fun _ whole => whole = c) row.2.toList).map fun found =>
      (found.1, Char.ofNat row.1)

/-! ### Texts -/

/-- The parts of a character that is made of at most `steps` marks and another one. -/
def partsUpTo : (steps : Nat) → Char → List Char
  | 0, c => [c]
  | steps + 1, c =>
    match split? c with
    | some (base, mark) => partsUpTo steps base ++ partsUpTo steps mark
    | none => [c]

/-- The parts of a character; none has more than four. -/
def partsOf (c : Char) : List Char :=
  if c.toNat < 0x80 then [c]
  else if isSyllable c.toNat then syllableParts c.toNat
  else partsUpTo 3 c

/-- Puts a character in front of a text in which marks are in order. -/
def place (c : Char) : List Char → List Char
  | [] => [c]
  | d :: rest =>
    if 0 < markClass d ∧ markClass d < markClass c then d :: place c rest else c :: d :: rest

/-- The characters with the marks of every character in the order of their classes. -/
def inOrder (cs : List Char) : List Char := cs.foldr place []

/-- A character with the marks it takes, and the rest of the text; `left` are the marks before the
rest that it did not take, the last one first. -/
def join (c : Char) (left : List Char) : List Char → List Char
  | [] => c :: left.reverse
  | d :: rest =>
    let isFree := left.head?.all fun e => decide (markClass e < markClass d)
    match (if isFree then pair? c d else none) with
    | some whole => join whole left rest
    | none =>
      if markClass d = 0 then c :: left.reverse ++ join d [] rest else join c (d :: left) rest

end Composition

/-- The one form of a text. -/
def composed (cs : List Char) : List Char :=
  match Composition.inOrder (cs.flatMap Composition.partsOf) with
  | [] => []
  | c :: rest => Composition.join c [] rest

end ShopSync.Text
