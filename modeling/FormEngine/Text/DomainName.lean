import FormEngine.Text.Case
import FormEngine.Text.Identifier
import FormEngine.Text.Punycode

/-!
Names of hosts in any script. A name is a row of labels with dots between them; labels with letters
beyond ASCII are written in ASCII, behind a mark.
-/

namespace FormEngine

namespace DomainName

/-- Characters of names that are only variants of others. -/
def variants : CodeRanges := [
  (170, 170), (181, 181), (183, 183), (186, 186), (307, 307), (320, 320), (329, 329), (383, 383),
  (454, 454), (457, 457), (460, 460), (499, 499), (688, 696), (736, 740), (832, 833), (835, 837),
  (847, 847), (884, 884), (903, 903), (976, 982), (1008, 1010), (1013, 1013), (1415, 1415),
  (1600, 1600), (1632, 1641), (1653, 1656), (1776, 1785), (2042, 2042), (2392, 2399),
  (2524, 2525), (2527, 2527), (2611, 2611), (2614, 2614), (2649, 2651), (2654, 2654),
  (2908, 2909), (3635, 3635), (3763, 3763), (3804, 3805), (3907, 3907), (3917, 3917),
  (3922, 3922), (3927, 3927), (3932, 3932), (3945, 3945), (3955, 3955), (3957, 3961),
  (3969, 3969), (3987, 3987), (3997, 3997), (4002, 4002), (4007, 4007), (4012, 4012),
  (4025, 4025), (4348, 4348), (4352, 4607), (4969, 4977), (5112, 5117), (5870, 5872),
  (6068, 6069), (6155, 6157), (6159, 6159), (6618, 6618), (7296, 7304), (7468, 7470),
  (7472, 7482), (7484, 7501), (7503, 7530), (7544, 7544), (7579, 7615), (7834, 7835),
  (8049, 8049), (8051, 8051), (8053, 8053), (8055, 8055), (8057, 8057), (8059, 8059),
  (8061, 8061), (8064, 8071), (8080, 8087), (8096, 8103), (8114, 8116), (8119, 8119),
  (8126, 8126), (8130, 8132), (8135, 8135), (8147, 8147), (8163, 8163), (8178, 8180),
  (8183, 8183), (8255, 8256), (8276, 8276), (8305, 8305), (8319, 8319), (8336, 8348),
  (8400, 8412), (8417, 8417), (8421, 8432), (8450, 8450), (8455, 8455), (8458, 8467),
  (8469, 8469), (8472, 8477), (8484, 8484), (8488, 8488), (8492, 8497), (8499, 8505),
  (8508, 8511), (8517, 8521), (8560, 8578), (8581, 8584), (11388, 11389), (11631, 11631),
  (12321, 12329), (12334, 12335), (12337, 12341), (12344, 12347), (12447, 12447), (12543, 12543),
  (12593, 12686), (42652, 42653), (42726, 42735), (42864, 42864), (42994, 42996), (43000, 43001),
  (43360, 43388), (43868, 43871), (43881, 43881), (43888, 43967), (55216, 55238), (55243, 55291),
  (63744, 64013), (64016, 64016), (64018, 64018), (64021, 64030), (64032, 64032), (64034, 64034),
  (64037, 64038), (64042, 64109), (64112, 64217), (64256, 64262), (64275, 64279), (64285, 64285),
  (64287, 64296), (64298, 64310), (64312, 64316), (64318, 64318), (64320, 64321), (64323, 64324),
  (64326, 64433), (64467, 64605), (64612, 64829), (64848, 64911), (64914, 64967), (65008, 65017),
  (65024, 65039), (65075, 65076), (65101, 65103), (65137, 65137), (65143, 65143), (65145, 65145),
  (65147, 65147), (65149, 65149), (65151, 65276), (65296, 65305), (65343, 65343), (65345, 65370),
  (65382, 65470), (65474, 65479), (65482, 65487), (65490, 65495), (65498, 65500), (65856, 65908),
  (66369, 66369), (66378, 66378), (66513, 66517), (67457, 67461), (67463, 67504), (67506, 67514),
  (74752, 74862), (119141, 119145), (119149, 119154), (119163, 119170), (119173, 119179),
  (119210, 119213), (119362, 119364), (119808, 119892), (119894, 119964), (119966, 119967),
  (119970, 119970), (119973, 119974), (119977, 119980), (119982, 119993), (119995, 119995),
  (119997, 120003), (120005, 120069), (120071, 120074), (120077, 120084), (120086, 120092),
  (120094, 120121), (120123, 120126), (120128, 120132), (120134, 120134), (120138, 120144),
  (120146, 120485), (120488, 120512), (120514, 120538), (120540, 120570), (120572, 120596),
  (120598, 120628), (120630, 120654), (120656, 120686), (120688, 120712), (120714, 120744),
  (120746, 120770), (120772, 120779), (120782, 120831), (126464, 126467), (126469, 126495),
  (126497, 126498), (126500, 126500), (126503, 126503), (126505, 126514), (126516, 126519),
  (126521, 126521), (126523, 126523), (126530, 126530), (126535, 126535), (126537, 126537),
  (126539, 126539), (126541, 126543), (126545, 126546), (126548, 126548), (126551, 126551),
  (126553, 126553), (126555, 126555), (126557, 126557), (126559, 126559), (126561, 126562),
  (126564, 126564), (126567, 126570), (126572, 126578), (126580, 126583), (126585, 126588),
  (126590, 126590), (126592, 126601), (126603, 126619), (126625, 126627), (126629, 126633),
  (126635, 126651), (130032, 130041), (194560, 195101), (917760, 917999)]

/-- Characters of hosts that no other name has. -/
def further : CodeRanges := [
  (1789, 1790), (2191, 2191), (2199, 2199), (3164, 3164), (3292, 3292), (3315, 3315),
  (3790, 3790), (3851, 3851), (5024, 5109), (6863, 6877), (6880, 6891), (7306, 7306),
  (11823, 11823), (42957, 42957), (42959, 42959), (42971, 42971), (67008, 67059), (67904, 67929),
  (68928, 68943), (68969, 68973), (68975, 68997), (69314, 69319), (69370, 69375), (70207, 70209),
  (70528, 70537), (70539, 70539), (70542, 70542), (70544, 70581), (70583, 70592), (70594, 70594),
  (70597, 70597), (70599, 70602), (70604, 70611), (70625, 70626), (71376, 71395), (72544, 72551),
  (72640, 72672), (72688, 72697), (73136, 73179), (73184, 73193), (73472, 73488), (73490, 73530),
  (73534, 73538), (73552, 73562), (78895, 78895), (78912, 78933), (78944, 82938), (90368, 90425),
  (93504, 93548), (93552, 93561), (93883, 93907), (94194, 94195), (100344, 100351),
  (101631, 101631), (101641, 101662), (101760, 101874), (110898, 110898), (110933, 110933),
  (122661, 122666), (123023, 123023), (124112, 124153), (124368, 124410), (124608, 124638),
  (124640, 124661), (124670, 124671), (177977, 177983), (183970, 183981), (191472, 192093),
  (201552, 210041)]

/-- Small letters, digits and marks of all scripts, and the hyphen. -/
def isAllowed (c : Char) : Bool :=
  if c.toNat < 128 then c.isLower || c.isDigit || c == '-'
  else further.has c ||
    (Identifier.isPart c && Case.lowerChar c == c && !variants.has c)

def isDot (c : Char) : Bool := c == '.' || c == '\u3002' || c == '\uff0e' || c == '\uff61'

/-- The blocks of scripts that run from right to left. -/
def leftward : CodeRanges := [
  (1424, 2303), (64285, 65023), (65136, 65276), (67584, 69631), (124928, 126975)]

/-- Letters of one direction only: a label that has some which run to the left begins with one, and has
besides them marks, and digits and hyphens further on. -/
def isOneWay (label : List Char) : Bool :=
  !label.any leftward.has ||
    label.head?.any (fun c => leftward.has c && !isDigit c) && label.getLast? != some '-' &&
      label.all fun c => leftward.has c || isDigit c || Identifier.marks.has c || c == '-'

/-- No hyphen at an end, nor two of them in third place, and no mark at the start. -/
def isWellFormed (label : List Char) : Bool :=
  !label.isEmpty && label.all isAllowed && label.head? != some '-' && label.getLast? != some '-' &&
    (label.drop 2).take 2 != ['-', '-'] && !(label.head?.any Identifier.marks.has) && isOneWay label

/-- A label in ASCII, of at most 63 characters. -/
def label? (label : List Char) : Option (List Char) :=
  if !isWellFormed label then none
  else
    let written := if label.all fun c => c.toNat < 128 then label
      else "xn--".toList ++ Punycode.encode label
    if written.length ≤ 63 then some written else none

/-- The labels of a name; the dots between them are of any kind. -/
def labels : List Char → List (List Char)
  | [] => [[]]
  | c :: cs =>
    if isDot c then [] :: labels cs
    else
      match labels cs with
      | [] => [[c]]
      | l :: ls => (c :: l) :: ls

/-- A name in ASCII. One dot may stand at its end; without it the name has at most 253 characters. -/
def encode? (name : String) : Option String := do
  let ls := labels name.toList
  let rooted := 1 < ls.length && ls.getLast? == some []
  let written ← (if rooted then ls.dropLast else ls).mapM label?
  let s := ".".intercalate (written.map String.ofList)
  guard (s.length ≤ 253)
  return if rooted then s ++ "." else s

end DomainName

end FormEngine
