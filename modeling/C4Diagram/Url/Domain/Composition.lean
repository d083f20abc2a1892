import C4Diagram.Text.Blank
import C4Diagram.Url.Domain.Marks

/-!
Composition: a letter and its marks as one character where there is one. A text is composed by
taking all characters apart, putting the marks of each letter in order, and putting together what
goes together; a domain has to be composed.
-/

namespace C4Diagram.Domain

/-- By the character that is added: what it is added to, and what both make together, in the same
order. -/
def pairs : List (Nat × String × String) :=
  [(0x300, "aeinouwyâêôüăēōơưαεηιουωϊϋеиἀἁἐἑἠἡἰἱ", "àèìǹòùẁỳầềồǜằḕṑờừὰὲὴὶὸὺὼῒῢѐѝἂἃἒἓἢἣἲἳ"),
   (0x300, "ὀὁὐὑὠὡ", "ὂὃὒὓὢὣ"),
   (0x301, "acegiklmnoprsuwyzâåæçêïôõøüăēōũơưαεη", "áćéǵíḱĺḿńóṕŕśúẃýźấǻǽḉếḯốṍǿǘắḗṓṹớứάέή"),
   (0x301, "ιουωϊϋгкἀἁἐἑἠἡἰἱὀὁὐὑὠὡ", "ίόύώΐΰѓќἄἅἔἕἤἥἴἵὄὅὔὕὤὥ"),
   (0x302, "aceghijosuwyzạẹọ", "âĉêĝĥîĵôŝûŵŷẑậệộ"),
   (0x303, "aeinouvyâêôăơư", "ãẽĩñõũṽỹẫễỗẵỡữ"),
   (0x304, "aegiouyäæõöüǫȧȯαιυиуḷṛ", "āēḡīōūȳǟǣȭȫǖǭǡȱᾱῑῡӣӯḹṝ"),
   (0x306, "aegiouȩαιυаежиуạ", "ăĕğĭŏŭḝᾰῐῠӑӗӂйўặ"),
   (0x307, "abcdefghmnoprstwxyzśšṣ𐗒𐗚", "ȧḃċḋėḟġḣṁṅȯṗṙṡṫẇẋẏżṥṧṩ𐗉𐗤"),
   (0x308, "aehiotuwxyõūιυаежзиоучыэіәө", "äëḧïöẗüẅẍÿṏṻϊϋӓёӝӟӥӧӱӵӹӭїӛӫ"),
   (0x309, "aeiouyâêôăơư", "ảẻỉỏủỷẩểổẳởử"),
   (0x30A, "auwy", "åůẘẙ"),
   (0x30B, "ouу", "őűӳ"),
   (0x30C, "acdeghijklnorstuzüʒ", "ǎčďěǧȟǐǰǩľňǒřšťǔžǚǯ"),
   (0x30F, "aeioruѵ", "ȁȅȉȍȑȕѷ"),
   (0x311, "aeioru", "ȃȇȋȏȓȗ"),
   (0x313, "αεηιορυω", "ἀἐἠἰὀῤὐὠ"),
   (0x314, "αεηιορυω", "ἁἑἡἱὁῥὑὡ"),
   (0x31B, "ou", "ơư"),
   (0x323, "abdehiklmnorstuvwyzơư", "ạḅḍẹḥịḳḷṃṇọṛṣṭụṿẉỵẓợự"),
   (0x324, "u", "ṳ"),
   (0x325, "a", "ḁ"),
   (0x326, "st", "șț"),
   (0x327, "cdeghklnrst", "çḑȩģḩķļņŗşţ"),
   (0x328, "aeiou", "ąęįǫų"),
   (0x32D, "delntu", "ḓḙḽṋṱṷ"),
   (0x32E, "h", "ḫ"),
   (0x330, "eiu", "ḛḭṵ"),
   (0x331, "bdhklnrtz", "ḇḏẖḵḻṉṟṯẕ"),
   (0x338, "<=>←→↔⇐⇒⇔∃∈∋∣∥∼≃≅≈≍≡≤≥≲≳≶≷≺≻≼≽⊂⊃⊆⊇⊑⊒", "≮≠≯↚↛↮⇍⇏⇎∄∉∌∤∦≁≄≇≉≭≢≰≱≴≵≸≹⊀⊁⋠⋡⊄⊅⊈⊉⋢⋣"),
   (0x338, "⊢⊨⊩⊫⊲⊳⊴⊵", "⊬⊭⊮⊯⋪⋫⋬⋭"),
   (0x342, "αηιυωϊϋἀἁἠἡἰἱὐὑὠὡ", "ᾶῆῖῦῶῗῧἆἇἦἧἶἷὖὗὦὧ"),
   (0x653, "\u0627", "\u0622"),
   (0x654, "\u0627\u0648\u064a\u06c1\u06d2\u06d5", "\u0623\u0624\u0626\u06c2\u06d3\u06c0"),
   (0x655, "\u0627", "\u0625"),
   (0x93C, "नरळ", "ऩऱऴ"),
   (0x9BE, "\u09c7", "\u09cb"),
   (0x9D7, "\u09c7", "\u09cc"),
   (0xB3E, "\u0b47", "\u0b4b"),
   (0xB56, "\u0b47", "\u0b48"),
   (0xB57, "\u0b47", "\u0b4c"),
   (0xBBE, "\u0bc6\u0bc7", "\u0bca\u0bcb"),
   (0xBD7, "ஒ\u0bc6", "ஔ\u0bcc"),
   (0xC56, "\u0c46", "\u0c48"),
   (0xCC2, "\u0cc6", "\u0cca"),
   (0xCD5, "\u0cbf\u0cc6\u0cca", "\u0cc0\u0cc7\u0ccb"),
   (0xCD6, "\u0cc6", "\u0cc8"),
   (0xD3E, "\u0d46\u0d47", "\u0d4a\u0d4b"),
   (0xD57, "\u0d46", "\u0d4c"),
   (0xDCA, "\u0dd9\u0ddc", "\u0dda\u0ddd"),
   (0xDCF, "\u0dd9", "\u0ddc"),
   (0xDDF, "\u0dd9", "\u0dde"),
   (0x102E, "ဥ", "ဦ"),
   (0x1B35, "ᬅᬇᬉᬋᬍᬑ\u1b3a\u1b3c\u1b3e\u1b3f\u1b42", "ᬆᬈᬊᬌᬎᬒ\u1b3b\u1b3d\u1b40\u1b41\u1b43"),
   (0x3099, "うかきくけこさしすせそたちつてとはひ", "ゔがぎぐげござじずぜぞだぢづでどばび"),
   (0x3099, "ふへほゝウカキクケコサシスセソタチツ", "ぶべぼゞヴガギグゲゴザジズゼゾダヂヅ"),
   (0x3099, "テトハヒフヘホワヰヱヲヽ", "デドバビブベボヷヸヹヺヾ"),
   (0x309A, "はひふへほハヒフヘホ", "ぱぴぷぺぽパピプペポ"),
   (0x110BA, "𑂙𑂛𑂥", "𑂚𑂜𑂫"),
   (0x11127, "𑄱𑄲", "𑄮𑄯"),
   (0x1133E, "𑍇", "𑍋"),
   (0x11357, "𑍇", "𑍌"),
   (0x113B8, "𑏂", "𑏇"),
   (0x113BB, "𑎄", "𑎅"),
   (0x113C2, "𑎎", "𑎎𑏅"),
   (0x113C9, "𑎂𑎐𑏂", "𑎃𑎑𑏈"),
   (0x114B0, "𑒹", "𑒼"),
   (0x114BA, "𑒹", "𑒻"),
   (0x114BD, "𑒹", "𑒾"),
   (0x115AF, "𑖸𑖹", "𑖺𑖻"),
   (0x11930, "𑤵", "𑤸"),
   (0x1611E, "𖄞", "𖄡"),
   (0x1611F, "𖄡𖄡𖄩𖄩", "𖄣𖄦𖄧𖄤"),
   (0x16120, "𖄡𖄞", "𖄥𖄨"),
   (0x16129, "𖄞", "𖄢"),
   (0x16D67, "𖵩𖵩", "𖵪𖵧𖵪")]

/-- The syllables of Hangul, in order of their first, middle and last sounds: where each row starts
and how many sounds it has. The first of the last sounds is none. -/
structure Hangul where
  syllables : Nat
  firsts : Nat
  middles : Nat
  lasts : Nat
  firstCount : Nat
  middleCount : Nat
  lastCount : Nat

def hangul : Hangul := ⟨0xAC00, 0x1100, 0x1161, 0x11A7, 19, 21, 28⟩

namespace Hangul

/-- A syllable from its first and middle sound, or from these and a last one. -/
def compose? (h : Hangul) (a b : Nat) : Option Char :=
  if h.firsts ≤ a && a < h.firsts + h.firstCount && h.middles ≤ b && b < h.middles + h.middleCount then
    some (Char.ofNat (h.syllables + ((a - h.firsts) * h.middleCount + (b - h.middles)) * h.lastCount))
  else if h.syllables ≤ a && a < h.syllables + h.firstCount * h.middleCount * h.lastCount &&
      (a - h.syllables) % h.lastCount == 0 && h.lasts < b && b < h.lasts + h.lastCount then
    some (Char.ofNat (a + (b - h.lasts)))
  else none

def parts? (h : Hangul) (c : Nat) : Option (Char × Char) :=
  if h.syllables ≤ c && c < h.syllables + h.firstCount * h.middleCount * h.lastCount then
    let i := c - h.syllables
    if i % h.lastCount == 0 then
      some (Char.ofNat (h.firsts + i / h.lastCount / h.middleCount),
        Char.ofNat (h.middles + i / h.lastCount % h.middleCount))
    else some (Char.ofNat (c - i % h.lastCount), Char.ofNat (h.lasts + i % h.lastCount))
  else none

end Hangul

def compose? (a b : Char) : Option Char :=
  (hangul.compose? a.toNat b.toNat).or
    (pairs.findSome? fun (added, bases, made) =>
      if added = b.toNat then (bases.toList.zip made.toList).lookup a else none)

def parts? (c : Char) : Option (Char × Char) :=
  (hangul.parts? c.toNat).or
    (pairs.findSome? fun (added, bases, made) =>
      ((made.toList.zip bases.toList).lookup c).map fun a => (a, Char.ofNat added))

def apart : (limit : Nat) → Char → Text
  | 0, c => [c]
  | n + 1, c =>
    match parts? c with
    | some (a, b) => apart n a ++ [b]
    | none => [c]

/-- Puts a character in front of marks in order: a mark goes behind those of lower class. -/
def insertMark (c : Char) : Text → Text
  | [] => [c]
  | d :: r =>
    if 0 < combiningClass d ∧ combiningClass d < combiningClass c then d :: insertMark c r else c :: d :: r

/-- All characters taken apart, with marks in order. No character is made of more than three. -/
def decomposed (t : Text) : Text := (t.flatMap (apart 3)).foldr insertMark []

/-- A letter and the marks behind it that have not become part of it, last one first. -/
structure Cluster where
  letter : Char
  marks : Text

namespace Cluster

def toText (k : Cluster) : Text := k.letter :: k.marks.reverse

/-- The next character reaches the letter: no mark between them is of its class or above. -/
def isOpenTo (k : Cluster) (c : Char) : Bool :=
  match k.marks with
  | [] => true
  | m :: _ => combiningClass m < combiningClass c

/-- Takes in the next character, unless it starts a cluster of its own. -/
def add? (k : Cluster) (c : Char) : Option Cluster :=
  match if k.isOpenTo c then compose? k.letter c else none with
  | some d => some { k with letter := d }
  | none => if combiningClass c = 0 then none else some { k with marks := c :: k.marks }

end Cluster

def composeFrom (k : Cluster) : Text → Text
  | [] => k.toText
  | c :: r =>
    match k.add? c with
    | some k => composeFrom k r
    | none => k.toText ++ composeFrom ⟨c, []⟩ r

def composed (t : Text) : Text :=
  match decomposed t with
  | [] => []
  | c :: r => composeFrom ⟨c, []⟩ r

end C4Diagram.Domain
