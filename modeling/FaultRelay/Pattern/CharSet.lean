import FaultRelay.Text.Blank
import FaultRelay.Text.CaseFold
import FaultRelay.Text.Category

/-!
# Sets of characters

The sets that a pattern can name: ranges, sets by a property of characters, and what
is made of these by union, intersection, difference and complement.
-/

namespace FaultRelay
namespace Pattern

open Text

/-- Ranges of the letters of some scripts. -/
def scriptRanges : List (String × List (Nat × Nat)) :=
  [("latin", [(65, 90), (97, 122), (170, 170), (186, 186), (192, 214), (216, 246), (248,
      687), (7424, 7461), (7522, 7525), (7531, 7543), (7545, 7578), (7680, 7935), (8336,
      8348), (8490, 8491), (8580, 8580), (11360, 11388), (11390, 11391), (42786, 42863),
      (42865, 42887), (42891, 42954), (42960, 42961), (42963, 42963), (42965, 42969), (42997,
      42999), (43002, 43007), (43824, 43866), (43872, 43876), (43878, 43880), (64256, 64262),
      (65313, 65338), (65345, 65370), (122624, 122654)]),
    ("greek", [(880, 884), (886, 887), (890, 893), (895, 895), (902, 902), (904, 906), (908,
      908), (910, 929), (931, 993), (1008, 1013), (1015, 1023), (7462, 7466), (7526, 7530),
      (7936, 7957), (7960, 7965), (7968, 8005), (8008, 8013), (8016, 8023), (8025, 8025),
      (8027, 8027), (8029, 8029), (8031, 8061), (8064, 8116), (8118, 8124), (8126, 8126),
      (8130, 8132), (8134, 8140), (8144, 8147), (8150, 8155), (8160, 8172), (8178, 8180),
      (8182, 8188), (43877, 43877), (65856, 65912), (65930, 65931)]),
    ("cyrillic", [(1024, 1153), (1162, 1327), (7296, 7304), (7467, 7467), (42560, 42606),
      (42623, 42651)]),
    ("hiragana", [(12353, 12438), (12445, 12447), (110593, 110593), (110879, 110879),
      (110928, 110930)]),
    ("katakana", [(12449, 12538), (12541, 12543), (12784, 12799), (110576, 110579), (110581,
      110587), (110589, 110590), (110592, 110592), (110880, 110882), (110948, 110951)]),
    ("hangul", [(4352, 4607), (12334, 12335), (12593, 12686), (43360, 43388), (44032, 55203),
      (55216, 55238), (55243, 55291)]),
    ("arabic", [(1552, 1562), (1568, 1631), (1646, 1747), (1749, 1756), (1759, 1768), (1770,
      1775), (1786, 1788), (1791, 1791), (1872, 1919), (2160, 2183), (2185, 2190), (2200,
      2273), (2275, 2303), (64336, 64433), (64467, 64829), (64848, 64911), (64914, 64967),
      (65008, 65019), (65136, 65140), (65142, 65276), (126464, 126467), (126469, 126495),
      (126497, 126498), (126500, 126500), (126503, 126503), (126505, 126514), (126516,
      126519), (126521, 126521), (126523, 126523), (126530, 126530), (126535, 126535),
      (126537, 126537), (126539, 126539), (126541, 126543), (126545, 126546), (126548,
      126548), (126551, 126551), (126553, 126553), (126555, 126555), (126557, 126557),
      (126559, 126559), (126561, 126562), (126564, 126564), (126567, 126570), (126572,
      126578), (126580, 126583), (126585, 126588), (126590, 126590), (126592, 126601),
      (126603, 126619), (126625, 126627), (126629, 126633), (126635, 126651)]),
    ("hebrew", [(1425, 1469), (1471, 1471), (1473, 1474), (1476, 1477), (1479, 1479), (1488,
      1514), (1519, 1522), (64285, 64296), (64298, 64310), (64312, 64316), (64318, 64318),
      (64320, 64321), (64323, 64324), (64326, 64335)]),
    ("thai", [(3585, 3642), (3648, 3662), (3664, 3673)]),
    ("armenian", [(1329, 1366), (1369, 1369), (1376, 1416), (64275, 64279)]),
    ("georgian", [(4256, 4293), (4295, 4295), (4301, 4301), (4304, 4346), (4349, 4351),
      (7312, 7354), (7357, 7359), (11520, 11557), (11559, 11559), (11565, 11565)]),
    ("devanagari", [(2304, 2403), (2406, 2415), (2417, 2431), (43250, 43255), (43259, 43259),
      (43261, 43263)]),
    ("han", [(11904, 11929), (11931, 12019), (12032, 12245), (12293, 12293), (12295, 12295),
      (12321, 12329), (12344, 12347), (13312, 19903), (19968, 40959), (63744, 64109), (64112,
      64217), (94178, 94179), (94192, 94193), (131072, 173791), (173824, 191456), (194560,
      195101), (196608, 205743)])]

inductive CharSet where
  | range (low high : Nat)
  | group (group : Char)
  | category (group kind : Char)
  | blank
  | script (name : String)
  | union (a b : CharSet)
  | inter (a b : CharSet)
  | diff (a b : CharSet)
  | symDiff (a b : CharSet)
  | compl (a : CharSet)
  | folded (a : CharSet)
  deriving Repr

namespace CharSet

/-- Whether a number lies in one of some ranges. -/
def inRanges (ranges : List (Nat × Nat)) (n : Nat) : Bool :=
  ranges.any fun (low, high) => low ≤ n && n ≤ high

/-- Whether a character belongs to a set. -/
def holds : CharSet → Char → Bool
  | range low high, c => low ≤ c.toNat && c.toNat ≤ high
  | group g, c => (Text.category c).group == g
  | category g k, c => Text.category c == ⟨g, k⟩
  | blank, c => isBlank c
  | script name, c =>
      match scriptRanges.lookup name with
      | some ranges => inRanges ranges c.toNat
      | none => false
  | union a b, c => a.holds c || b.holds c
  | inter a b, c => a.holds c && b.holds c
  | diff a b, c => a.holds c && !b.holds c
  | symDiff a b, c => a.holds c != b.holds c
  | compl a, c => !a.holds c
  | folded a, c => (caseVariants c).any a.holds

def none : CharSet := range 1 0

def all : CharSet := range 0 0x10FFFF

def single (c : Char) : CharSet := range c.toNat c.toNat

/-- The union of some sets. -/
def unions (sets : List CharSet) : CharSet := sets.foldr union none

/-- The union of some ranges. -/
def ranges (pairs : List (Char × Char)) : CharSet :=
  unions (pairs.map fun (low, high) => range low.toNat high.toNat)

/-- Enclosed letters, which count as letters although they are symbols. -/
def enclosedLetters : CharSet :=
  unions [range 0x24B6 0x24E9, range 0x1F130 0x1F149, range 0x1F150 0x1F169, range 0x1F170 0x1F189]

/-- Letters, marks, digits, connectors and joiners. -/
def word : CharSet :=
  unions [group 'L', group 'M', category 'N' 'd', category 'N' 'l', category 'P' 'c',
    enclosedLetters, range 0x200C 0x200D]

/-- Letters and what counts as letters. -/
def alphabetic : CharSet :=
  unions [group 'L', category 'N' 'l', category 'M' 'c', enclosedLetters]

/-- Letters in lower case and what counts as such. -/
def lowercase : CharSet :=
  unions [category 'L' 'l', range 0xAA 0xAA, range 0xBA 0xBA, range 0x2B0 0x2B8, range 0x2C0 0x2C1,
    range 0x2E0 0x2E4, range 0x345 0x345, range 0x37A 0x37A, range 0x1D2C 0x1D6A,
    range 0x1D78 0x1D78, range 0x1D9B 0x1DBF, range 0x2071 0x2071, range 0x207F 0x207F,
    range 0x2090 0x209C, range 0x2170 0x217F, range 0x24D0 0x24E9]

/-- Letters in upper case and what counts as such. -/
def uppercase : CharSet :=
  unions [category 'L' 'u', range 0x2160 0x216F, range 0x24B6 0x24CF, range 0x1F130 0x1F149,
    range 0x1F150 0x1F169, range 0x1F170 0x1F189]

/-- Letters, digits and the low line of ASCII. -/
def asciiWord : CharSet := ranges [('0', '9'), ('A', 'Z'), ('_', '_'), ('a', 'z')]

def asciiBlank : CharSet := ranges [('\t', '\r'), (' ', ' ')]

/-- A set by the name it has between colons and brackets. -/
def asciiNamed? : String → Option CharSet
  | "alnum" => some (ranges [('0', '9'), ('A', 'Z'), ('a', 'z')])
  | "alpha" => some (ranges [('A', 'Z'), ('a', 'z')])
  | "ascii" => some (range 0 0x7F)
  | "blank" => some (ranges [('\t', '\t'), (' ', ' ')])
  | "cntrl" => some (unions [range 0 0x1F, range 0x7F 0x7F])
  | "digit" => some (ranges [('0', '9')])
  | "graph" => some (ranges [('!', '~')])
  | "lower" => some (ranges [('a', 'z')])
  | "print" => some (ranges [(' ', '~')])
  | "punct" => some (ranges [('!', '/'), (':', '@'), ('[', '\x60'), ('\x7b', '~')])
  | "space" => some asciiBlank
  | "upper" => some (ranges [('A', 'Z')])
  | "word" => some asciiWord
  | "xdigit" => some (ranges [('0', '9'), ('A', 'F'), ('a', 'f')])
  | _ => Option.none

/-- A general category by its long name, as its two letters; one letter for a group. -/
def categoryCode : String → String
  | "letter" => "l" | "uppercaseletter" => "lu" | "lowercaseletter" => "ll"
  | "titlecaseletter" => "lt" | "casedletter" => "lc" | "modifierletter" => "lm"
  | "otherletter" => "lo" | "mark" | "combiningmark" => "m" | "nonspacingmark" => "mn"
  | "spacingmark" => "mc" | "enclosingmark" => "me" | "number" => "n"
  | "decimalnumber" | "digit" => "nd" | "letternumber" => "nl" | "othernumber" => "no"
  | "punctuation" | "punct" => "p" | "connectorpunctuation" => "pc" | "dashpunctuation" => "pd"
  | "openpunctuation" => "ps" | "closepunctuation" => "pe" | "initialpunctuation" => "pi"
  | "finalpunctuation" => "pf" | "otherpunctuation" => "po" | "symbol" => "s"
  | "mathsymbol" => "sm" | "currencysymbol" => "sc" | "modifiersymbol" => "sk"
  | "othersymbol" => "so" | "separator" => "z" | "spaceseparator" => "zs"
  | "lineseparator" => "zl" | "paragraphseparator" => "zp" | "other" => "c"
  | "control" | "cntrl" => "cc" | "format" => "cf" | "privateuse" => "co" | "unassigned" => "cn"
  | name => name

/-- A general category, or a group of them, by its name. -/
def categoryNamed? (name : String) : Option CharSet :=
  match categoryCode name with
  | "lc" => some (unions [category 'L' 'u', category 'L' 'l', category 'L' 't'])
  | code =>
      match code.toList with
      | [g] => if "lmnpszc".toList.contains g then some (group g.toUpper) else Option.none
      | [g, k] =>
          if ["lu", "ll", "lt", "lm", "lo", "mn", "mc", "me", "nd", "nl", "no", "pc", "pd", "ps",
              "pe", "pi", "pf", "po", "sm", "sc", "sk", "so", "zs", "zl", "zp", "cc", "cf", "co",
              "cn"].contains code then some (category g.toUpper k)
          else Option.none
      | _ => Option.none

def scriptNamed? (name : String) : Option CharSet :=
  (scriptRanges.lookup name).map fun _ => script name

/-- A name without case, blanks, hyphens, low lines and a leading `is`. -/
def plainName (cs : List Char) : String :=
  let bare := (cs.filter fun c => !(c == ' ' || c == '-' || c == '_')).map Char.toLower
  match bare with
  | 'i' :: 's' :: rest => if rest.isEmpty then "is" else String.ofList rest
  | _ => String.ofList bare

/-- A set by the name of a property of characters. -/
def named? (cs : List Char) : Option CharSet :=
  match plainName cs with
  | "any" => some all
  | "assigned" => some (compl (category 'C' 'n'))
  | "ascii" => some (range 0 0x7F)
  | "alphabetic" | "alpha" => some alphabetic
  | "lowercase" | "lower" => some lowercase
  | "uppercase" | "upper" => some uppercase
  | "whitespace" | "wspace" | "space" => some blank
  | name => (categoryNamed? name).or (scriptNamed? name)

def valued? (property value : List Char) : Option CharSet :=
  match plainName property with
  | "gc" | "generalcategory" =>
      match plainName value with
      | "any" => some all
      | "assigned" => some (compl (category 'C' 'n'))
      | "ascii" => some (range 0 0x7F)
      | name => categoryNamed? name
  | "sc" | "script" | "scx" | "scriptextensions" => scriptNamed? (plainName value)
  | _ => Option.none

end CharSet
end Pattern
end FaultRelay
