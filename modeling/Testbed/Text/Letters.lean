/-
**Letters, words and properties.**

Three properties of characters go beyond categories: what is alphabetic, small or capital without
being a letter of that kind (Unicode, version 15).  From them and the categories come the characters
of which words consist.

Main definitions:

* `Testbed.Text.wordChars`, `Testbed.Text.decimalDigits`, `Testbed.Text.blanks` — the classes that
  patterns have names of one letter for;
* `Testbed.Text.property?` — the characters with a named property.
-/

import Testbed.Text.Category

set_option autoImplicit false

namespace Testbed.Text

/-- What is alphabetic without being a letter or a number written with letters. -/
def otherAlphabetic : List (Nat × Nat) := [
  (837, 837), (1456, 1469), (1471, 1471), (1473, 1474), (1476, 1477), (1479, 1479), (1552,
  1562), (1611, 1623), (1625, 1631), (1648, 1648), (1750, 1756), (1761, 1764), (1767, 1768),
  (1773, 1773), (1809, 1809), (1840, 1855), (1958, 1968), (2070, 2071), (2075, 2083), (2085,
  2087), (2089, 2092), (2260, 2271), (2275, 2281), (2288, 2307), (2362, 2363), (2366, 2380),
  (2382, 2383), (2389, 2391), (2402, 2403), (2433, 2435), (2494, 2500), (2503, 2504), (2507,
  2508), (2519, 2519), (2530, 2531), (2561, 2563), (2622, 2626), (2631, 2632), (2635, 2636),
  (2641, 2641), (2672, 2673), (2677, 2677), (2689, 2691), (2750, 2757), (2759, 2761), (2763,
  2764), (2786, 2787), (2810, 2812), (2817, 2819), (2878, 2884), (2887, 2888), (2891, 2892),
  (2902, 2903), (2914, 2915), (2946, 2946), (3006, 3010), (3014, 3016), (3018, 3020), (3031,
  3031), (3072, 3076), (3134, 3140), (3142, 3144), (3146, 3148), (3157, 3158), (3170, 3171),
  (3201, 3203), (3262, 3268), (3270, 3272), (3274, 3276), (3285, 3286), (3298, 3299), (3315,
  3315), (3328, 3331), (3390, 3396), (3398, 3400), (3402, 3404), (3415, 3415), (3426, 3427),
  (3457, 3459), (3535, 3540), (3542, 3542), (3544, 3551), (3570, 3571), (3633, 3633), (3636,
  3642), (3661, 3661), (3761, 3761), (3764, 3769), (3771, 3772), (3789, 3789), (3953, 3971),
  (3981, 3991), (3993, 4028), (4139, 4150), (4152, 4152), (4155, 4158), (4182, 4185), (4190,
  4192), (4194, 4196), (4199, 4205), (4209, 4212), (4226, 4237), (4239, 4239), (4250, 4253),
  (5906, 5907), (5938, 5939), (5970, 5971), (6002, 6003), (6070, 6088), (6277, 6278), (6313,
  6313), (6432, 6443), (6448, 6456), (6679, 6683), (6741, 6750), (6753, 6772), (6847, 6848),
  (6860, 6862), (6912, 6916), (6965, 6979), (7040, 7042), (7073, 7081), (7084, 7085), (7143,
  7153), (7204, 7222), (7655, 7668), (9398, 9449), (11744, 11775), (42612, 42619), (42654,
  42655), (43010, 43010), (43019, 43019), (43043, 43047), (43136, 43137), (43188, 43203),
  (43205, 43205), (43263, 43263), (43302, 43306), (43335, 43346), (43392, 43395), (43444,
  43455), (43493, 43493), (43561, 43574), (43587, 43587), (43596, 43597), (43643, 43645),
  (43696, 43696), (43698, 43700), (43703, 43704), (43710, 43710), (43755, 43759), (43765,
  43765), (44003, 44010), (64286, 64286), (66422, 66426), (68097, 68099), (68101, 68102),
  (68108, 68111), (68900, 68903), (69291, 69292), (69632, 69634), (69688, 69701), (69747,
  69748), (69760, 69762), (69808, 69816), (69826, 69826), (69888, 69890), (69927, 69938),
  (69957, 69958), (70016, 70018), (70067, 70079), (70094, 70095), (70188, 70196), (70199,
  70199), (70206, 70206), (70209, 70209), (70367, 70376), (70400, 70403), (70462, 70468),
  (70471, 70472), (70475, 70476), (70487, 70487), (70498, 70499), (70709, 70721), (70723,
  70725), (70832, 70849), (71087, 71093), (71096, 71102), (71132, 71133), (71216, 71230),
  (71232, 71232), (71339, 71349), (71453, 71466), (71724, 71736), (71984, 71989), (71991,
  71992), (71995, 71996), (72000, 72000), (72002, 72002), (72145, 72151), (72154, 72159),
  (72164, 72164), (72193, 72202), (72245, 72249), (72251, 72254), (72273, 72283), (72330,
  72343), (72751, 72758), (72760, 72766), (72850, 72871), (72873, 72886), (73009, 73014),
  (73018, 73018), (73020, 73021), (73023, 73025), (73027, 73027), (73031, 73031), (73098,
  73102), (73104, 73105), (73107, 73110), (73459, 73462), (73472, 73473), (73475, 73475),
  (73524, 73530), (73534, 73536), (94031, 94031), (94033, 94087), (94095, 94098), (94192,
  94193), (113822, 113822), (122880, 122886), (122888, 122904), (122907, 122913), (122915,
  122916), (122918, 122922), (123023, 123023), (125255, 125255), (127280, 127305), (127312,
  127337), (127344, 127369)]

/-- What is small without being a small letter. -/
def otherLowercase : List (Nat × Nat) := [
  (170, 170), (186, 186), (688, 696), (704, 705), (736, 740), (837, 837), (890, 890), (4348,
  4348), (7468, 7530), (7544, 7544), (7579, 7615), (8305, 8305), (8319, 8319), (8336, 8348),
  (8560, 8575), (9424, 9449), (11388, 11389), (42652, 42653), (42864, 42864), (42994, 42996),
  (43000, 43001), (43868, 43871), (43881, 43881), (67456, 67456), (67459, 67461), (67463,
  67504), (67506, 67514), (122928, 122989)]

/-- What is capital without being a capital letter. -/
def otherUppercase : List (Nat × Nat) := [
  (8544, 8559), (9398, 9423), (127280, 127305), (127312, 127337), (127344, 127369)]

/-- The alphabetic characters. -/
def alphabetic : CharSet := (Category.ofLetters "ABCDEJ").union (CharSet.ofSorted otherAlphabetic)

/-- The small characters. -/
def lowercase : CharSet := (Category.ofLetters "B").union (CharSet.ofSorted otherLowercase)

/-- The capital characters. -/
def uppercase : CharSet := (Category.ofLetters "A").union (CharSet.ofSorted otherUppercase)

/-- The digits of all decimal systems. -/
def decimalDigits : CharSet := Category.ofLetters "I"

/-- The characters of space. -/
def blanks : CharSet := CharSet.ofSorted
  [(9, 13), (0x20, 0x20), (0x85, 0x85), (0xA0, 0xA0), (0x1680, 0x1680), (0x2000, 0x200A),
    (0x2028, 0x2029), (0x202F, 0x202F), (0x205F, 0x205F), (0x3000, 0x3000)]

/-- The characters of which words consist: alphabetic ones, marks, digits, connectors and the two
joiners. -/
def wordChars : CharSet :=
  ((Category.ofLetters "ABCDEFGHIJL").union (CharSet.ofSorted otherAlphabetic)).union
    (CharSet.ofSorted [(0x200C, 0x200D)])

/-- The characters with a property, by its name in small letters. -/
def property? (name : String) : Option CharSet :=
  if name = "alphabetic" || name = "alpha" then some alphabetic
  else if name = "lowercase" || name = "lower" then some lowercase
  else if name = "uppercase" || name = "upper" then some uppercase
  else if name = "whitespace" || name = "wspace" || name = "space" then some blanks
  else none

end Testbed.Text
