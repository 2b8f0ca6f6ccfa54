import PipelineLint.Text.Bounds
import PipelineLint.Text.Table

/-!
# Composed characters

A letter with its marks can be written in several ways that look the same. The composed form is the
one with as few characters as possible: everything is taken apart, the marks behind each letter are
put in the order of their classes, and then each letter takes up the marks that it can. The data are
those of Unicode 18; the parts of characters that are never composed are left out.

## Main definitions

* `Text.combiningClass` — the class of a mark, which is zero for all other characters
* `Text.decompose` — a text with every composed character taken apart, and its marks in order
* `Text.compose` — the composed form of a text
-/

namespace PipelineLint.Text

/-! ## Classes of marks -/

/-- The classes of marks with the bounds of each. -/
def combiningClasses : List (Nat × List Nat) :=
  [(230, [0x300, 0x315, 0x33D, 0x340, 0x342, 0x343, 0x346, 0x347, 0x34A, 0x34D, 0x350, 0x353,
    0x357, 0x358, 0x35B, 0x35C, 0x363, 0x370, 0x483, 0x488, 0x592, 0x596, 0x597, 0x59A, 0x59C,
    0x5A2, 0x5A8, 0x5AA, 0x5AB, 0x5AD, 0x5AF, 0x5B0, 0x5C4, 0x5C5, 0x5C9, 0x5CA, 0x610, 0x618,
    0x653, 0x655, 0x657, 0x65C, 0x65D, 0x65F, 0x6D6, 0x6DD, 0x6DF, 0x6E3, 0x6E4, 0x6E5, 0x6E7,
    0x6E9, 0x6EB, 0x6ED, 0x730, 0x731, 0x732, 0x734, 0x735, 0x737, 0x73A, 0x73B, 0x73D, 0x73E,
    0x73F, 0x742, 0x743, 0x744, 0x745, 0x746, 0x747, 0x748, 0x749, 0x74B, 0x7EB, 0x7F2, 0x7F3,
    0x7F4, 0x816, 0x81A, 0x81B, 0x824, 0x825, 0x828, 0x829, 0x82E, 0x897, 0x899, 0x89C, 0x8A0,
    0x8CA, 0x8CF, 0x8D4, 0x8E2, 0x8E4, 0x8E6, 0x8E7, 0x8E9, 0x8EA, 0x8ED, 0x8F3, 0x8F6, 0x8F7,
    0x8F9, 0x8FB, 0x900, 0x951, 0x952, 0x953, 0x955, 0x9FE, 0x9FF, 0xF82, 0xF84, 0xF86, 0xF88,
    0x135D, 0x1360, 0x17DD, 0x17DE, 0x193A, 0x193B, 0x1A17, 0x1A18, 0x1A75, 0x1A7D, 0x1AB0,
    0x1AB5, 0x1ABB, 0x1ABD, 0x1AC1, 0x1AC3, 0x1AC5, 0x1ACA, 0x1ACB, 0x1ADD, 0x1AE0, 0x1AE6,
    0x1AE7, 0x1AEB, 0x1B6B, 0x1B6C, 0x1B6D, 0x1B74, 0x1CD0, 0x1CD3, 0x1CDA, 0x1CDC, 0x1CE0,
    0x1CE1, 0x1CF4, 0x1CF5, 0x1CF8, 0x1CFA, 0x1DC0, 0x1DC2, 0x1DC3, 0x1DCA, 0x1DCB, 0x1DCD,
    0x1DD1, 0x1DF6, 0x1DFB, 0x1DFC, 0x1DFE, 0x1DFF, 0x20D0, 0x20D2, 0x20D4, 0x20D8, 0x20DB,
    0x20DD, 0x20E1, 0x20E2, 0x20E7, 0x20E8, 0x20E9, 0x20EA, 0x20F0, 0x20F1, 0x2CEF, 0x2CF2,
    0x2DE0, 0x2E00, 0xA66F, 0xA670, 0xA674, 0xA67E, 0xA69E, 0xA6A0, 0xA6F0, 0xA6F2, 0xA8E0,
    0xA8F2, 0xAAB0, 0xAAB1, 0xAAB2, 0xAAB4, 0xAAB7, 0xAAB9, 0xAABE, 0xAAC0, 0xAAC1, 0xAAC2,
    0xFE20, 0xFE27, 0xFE2E, 0xFE30, 0x10376, 0x1037B, 0x10A0F, 0x10A10, 0x10A38, 0x10A39, 0x10AE5,
    0x10AE6, 0x10D24, 0x10D28, 0x10D69, 0x10D6E, 0x10EAB, 0x10EAD, 0x10F48, 0x10F4B, 0x10F4C,
    0x10F4D, 0x10F82, 0x10F83, 0x10F84, 0x10F85, 0x11100, 0x11103, 0x11366, 0x1136D, 0x11370,
    0x11375, 0x1145E, 0x1145F, 0x16B30, 0x16B37, 0x1D185, 0x1D18A, 0x1D1AA, 0x1D1AE, 0x1D242,
    0x1D245, 0x1E000, 0x1E007, 0x1E008, 0x1E019, 0x1E01B, 0x1E022, 0x1E023, 0x1E025, 0x1E026,
    0x1E02B, 0x1E08F, 0x1E090, 0x1E130, 0x1E137, 0x1E2AE, 0x1E2AF, 0x1E2EC, 0x1E2F0, 0x1E4EF,
    0x1E4F0, 0x1E5EE, 0x1E5EF, 0x1E6E3, 0x1E6E4, 0x1E6E6, 0x1E6E7, 0x1E6EE, 0x1E6F0, 0x1E6F5,
    0x1E6F6, 0x1E944, 0x1E94A]),
   (220, [0x316, 0x31A, 0x31C, 0x321, 0x323, 0x327, 0x329, 0x334, 0x339, 0x33D, 0x347, 0x34A,
    0x34D, 0x34F, 0x353, 0x357, 0x359, 0x35B, 0x591, 0x592, 0x596, 0x597, 0x59B, 0x59C, 0x5A2,
    0x5A8, 0x5AA, 0x5AB, 0x5C5, 0x5C6, 0x5C8, 0x5C9, 0x655, 0x657, 0x65C, 0x65D, 0x65F, 0x660,
    0x6E3, 0x6E4, 0x6EA, 0x6EB, 0x6ED, 0x6EE, 0x731, 0x732, 0x734, 0x735, 0x737, 0x73A, 0x73B,
    0x73D, 0x73E, 0x73F, 0x742, 0x743, 0x744, 0x745, 0x746, 0x747, 0x748, 0x749, 0x7F2, 0x7F3,
    0x7FD, 0x7FE, 0x859, 0x85C, 0x899, 0x89C, 0x8CF, 0x8D4, 0x8E3, 0x8E4, 0x8E6, 0x8E7, 0x8E9,
    0x8EA, 0x8ED, 0x8F0, 0x8F6, 0x8F7, 0x8F9, 0x8FB, 0x952, 0x953, 0xF18, 0xF1A, 0xF35, 0xF36,
    0xF37, 0xF38, 0xFC6, 0xFC7, 0x108D, 0x108E, 0x193B, 0x193C, 0x1A18, 0x1A19, 0x1A7F, 0x1A80,
    0x1AB5, 0x1ABB, 0x1ABD, 0x1ABE, 0x1ABF, 0x1AC1, 0x1AC3, 0x1AC5, 0x1ACA, 0x1ACB, 0x1ADD,
    0x1ADE, 0x1AE6, 0x1AE7, 0x1B6C, 0x1B6D, 0x1CD5, 0x1CDA, 0x1CDC, 0x1CE0, 0x1CED, 0x1CEE,
    0x1DC2, 0x1DC3, 0x1DCA, 0x1DCB, 0x1DCF, 0x1DD0, 0x1DF9, 0x1DFA, 0x1DFD, 0x1DFE, 0x1DFF,
    0x1E00, 0x20E8, 0x20E9, 0x20EC, 0x20F0, 0xA92B, 0xA92E, 0xAAB4, 0xAAB5, 0xFE27, 0xFE2E,
    0x101FD, 0x101FE, 0x102E0, 0x102E1, 0x10A0D, 0x10A0E, 0x10A3A, 0x10A3B, 0x10AE6, 0x10AE7,
    0x10EFA, 0x10EFC, 0x10EFD, 0x10F00, 0x10F46, 0x10F48, 0x10F4B, 0x10F4C, 0x10F4D, 0x10F51,
    0x10F83, 0x10F84, 0x10F85, 0x10F86, 0x1D17B, 0x1D183, 0x1D18A, 0x1D18C, 0x1E4EE, 0x1E4EF,
    0x1E5EF, 0x1E5F0, 0x1E8D0, 0x1E8D7]),
   (9, [0x94D, 0x94E, 0x9CD, 0x9CE, 0xA4D, 0xA4E, 0xACD, 0xACE, 0xB4D, 0xB4E, 0xBCD, 0xBCE, 0xC4D,
    0xC4E, 0xCCD, 0xCCE, 0xD3B, 0xD3D, 0xD4D, 0xD4E, 0xDCA, 0xDCB, 0xE3A, 0xE3B, 0xEBA, 0xEBB,
    0xF84, 0xF85, 0x1039, 0x103B, 0x1714, 0x1716, 0x1734, 0x1735, 0x17D2, 0x17D3, 0x1A60,
    0x1A61, 0x1B44, 0x1B45, 0x1BAA, 0x1BAC, 0x1BF2, 0x1BF4, 0x2D7F, 0x2D80, 0xA806, 0xA807,
    0xA82C, 0xA82D, 0xA8C4, 0xA8C5, 0xA953, 0xA954, 0xA9C0, 0xA9C1, 0xAAF6, 0xAAF7, 0xABED,
    0xABEE, 0x10A3F, 0x10A40, 0x11046, 0x11047, 0x11070, 0x11071, 0x1107F, 0x11080, 0x110B9,
    0x110BA, 0x11133, 0x11135, 0x111C0, 0x111C1, 0x11235, 0x11236, 0x112EA, 0x112EB, 0x1134D,
    0x1134E, 0x113CE, 0x113D1, 0x11442, 0x11443, 0x114C2, 0x114C3, 0x115BF, 0x115C0, 0x1163F,
    0x11640, 0x116B6, 0x116B7, 0x1172B, 0x1172C, 0x11839, 0x1183A, 0x1193D, 0x1193F, 0x119E0,
    0x119E1, 0x11A34, 0x11A35, 0x11A47, 0x11A48, 0x11A99, 0x11A9A, 0x11C3F, 0x11C40, 0x11D44,
    0x11D46, 0x11D97, 0x11D98, 0x11F41, 0x11F43, 0x1612F, 0x16130]),
   (7, [0x93C, 0x93D, 0x9BC, 0x9BD, 0xA3C, 0xA3D, 0xABC, 0xABD, 0xB3C, 0xB3D, 0xC3C, 0xC3D, 0xCBC,
    0xCBD, 0x1037, 0x1038, 0x1B34, 0x1B35, 0x1BE6, 0x1BE7, 0x1C37, 0x1C38, 0xA9B3, 0xA9B4,
    0x110BA, 0x110BB, 0x11173, 0x11174, 0x111CA, 0x111CB, 0x11236, 0x11237, 0x112E9, 0x112EA,
    0x1133B, 0x1133D, 0x11446, 0x11447, 0x114C3, 0x114C4, 0x115C0, 0x115C1, 0x116B7, 0x116B8,
    0x1183A, 0x1183B, 0x11943, 0x11944, 0x11D42, 0x11D43, 0x1E94A, 0x1E94B]),
   (1, [0x334, 0x339, 0x1CD4, 0x1CD5, 0x1CE2, 0x1CE9, 0x20D2, 0x20D4, 0x20D8, 0x20DB, 0x20E5,
    0x20E7, 0x20EA, 0x20EC, 0x10A39, 0x10A3A, 0x16AF0, 0x16AF5, 0x1BC9E, 0x1BC9F, 0x1D167,
    0x1D16A]),
   (232, [0x315, 0x316, 0x31A, 0x31B, 0x358, 0x359, 0x1DF6, 0x1DF7, 0x302C, 0x302D, 0x1E4EC,
    0x1E4EE]),
   (216, [0x31B, 0x31C, 0xF39, 0xF3A, 0x1D165, 0x1D167, 0x1D16E, 0x1D173]),
   (222, [0x59A, 0x59B, 0x5AD, 0x5AE, 0x1939, 0x193A, 0x302D, 0x302E]),
   (228, [0x5AE, 0x5AF, 0x18A9, 0x18AA, 0x1DF7, 0x1DF9, 0x302B, 0x302C]),
   (233, [0x35C, 0x35D, 0x35F, 0x360, 0x362, 0x363, 0x1DFC, 0x1DFD]),
   (234, [0x35D, 0x35F, 0x360, 0x362, 0x1AEB, 0x1AEC, 0x1DCD, 0x1DCE]),
   (130, [0xF72, 0xF73, 0xF7A, 0xF7E, 0xF80, 0xF81]),
   (202, [0x321, 0x323, 0x327, 0x329, 0x1DD0, 0x1DD1]), (18, [0x5B8, 0x5B9, 0x5C7, 0x5C8]),
   (27, [0x64B, 0x64C, 0x8F0, 0x8F1]), (28, [0x64C, 0x64D, 0x8F1, 0x8F2]),
   (29, [0x64D, 0x64E, 0x8F2, 0x8F3]), (30, [0x618, 0x619, 0x64E, 0x64F]),
   (31, [0x619, 0x61A, 0x64F, 0x650]), (32, [0x61A, 0x61B, 0x650, 0x651]),
   (218, [0x1DFA, 0x1DFB, 0x302A, 0x302B]), (6, [0x16FF0, 0x16FF2]), (8, [0x3099, 0x309B]),
   (10, [0x5B0, 0x5B1]), (11, [0x5B1, 0x5B2]), (12, [0x5B2, 0x5B3]), (13, [0x5B3, 0x5B4]),
   (14, [0x5B4, 0x5B5]), (15, [0x5B5, 0x5B6]), (16, [0x5B6, 0x5B7]), (17, [0x5B7, 0x5B8]),
   (19, [0x5B9, 0x5BB]), (20, [0x5BB, 0x5BC]), (21, [0x5BC, 0x5BD]), (22, [0x5BD, 0x5BE]),
   (23, [0x5BF, 0x5C0]), (24, [0x5C1, 0x5C2]), (25, [0x5C2, 0x5C3]), (26, [0xFB1E, 0xFB1F]),
   (33, [0x651, 0x652]), (34, [0x652, 0x653]), (35, [0x670, 0x671]), (36, [0x711, 0x712]),
   (84, [0xC55, 0xC56]), (91, [0xC56, 0xC57]), (103, [0xE38, 0xE3A]), (107, [0xE48, 0xE4C]),
   (118, [0xEB8, 0xEBA]), (122, [0xEC8, 0xECC]), (129, [0xF71, 0xF72]), (132, [0xF74, 0xF75]),
   (214, [0x1DCE, 0x1DCF]), (224, [0x302E, 0x3030]), (226, [0x1D16D, 0x1D16E]),
   (240, [0x345, 0x346])]

/-- The class of a mark; zero for a character that starts anew. -/
def combiningClass (c : Char) : Nat :=
  match combiningClasses.find? fun entry => isWithin entry.2 c with
  | some (n, _) => n
  | none => 0

/-! ## Composed characters and their parts -/

/-- The composed characters, each with its two parts. -/
def compositions : Table := .read "
C0:41+300 41+301 41+302 41+303 41+308 41+30A C7:43+327 45+300 45+301 45+302 45+308 49+300 49+301
49+302 49+308 D1:4E+303 4F+300 4F+301 4F+302 4F+303 4F+308 D9:55+300 55+301 55+302 55+308 59+301
E0:61+300 61+301 61+302 61+303 61+308 61+30A E7:63+327 65+300 65+301 65+302 65+308 69+300 69+301
69+302 69+308 F1:6E+303 6F+300 6F+301 6F+302 6F+303 6F+308 F9:75+300 75+301 75+302 75+308 79+301
FF:79+308 41+304 61+304 41+306 61+306 41+328 61+328 43+301 63+301 43+302 63+302 43+307 63+307
43+30C 63+30C 44+30C 64+30C 112:45+304 65+304 45+306 65+306 45+307 65+307 45+328 65+328 45+30C
65+30C 47+302 67+302 47+306 67+306 47+307 67+307 47+327 67+327 48+302 68+302 128:49+303 69+303
49+304 69+304 49+306 69+306 49+328 69+328 49+307 134:4A+302 6A+302 4B+327 6B+327 139:4C+301 6C+301
4C+327 6C+327 4C+30C 6C+30C 143:4E+301 6E+301 4E+327 6E+327 4E+30C 6E+30C 14C:4F+304 6F+304 4F+306
6F+306 4F+30B 6F+30B 154:52+301 72+301 52+327 72+327 52+30C 72+30C 53+301 73+301 53+302 73+302
53+327 73+327 53+30C 73+30C 54+327 74+327 54+30C 74+30C 168:55+303 75+303 55+304 75+304 55+306
75+306 55+30A 75+30A 55+30B 75+30B 55+328 75+328 57+302 77+302 59+302 79+302 59+308 5A+301 7A+301
5A+307 7A+307 5A+30C 7A+30C 1A0:4F+31B 6F+31B 1AF:55+31B 75+31B 1CD:41+30C 61+30C 49+30C 69+30C
4F+30C 6F+30C 55+30C 75+30C DC+304 FC+304 DC+301 FC+301 DC+30C FC+30C DC+300 FC+300 1DE:C4+304
E4+304 226+304 227+304 C6+304 E6+304 1E6:47+30C 67+30C 4B+30C 6B+30C 4F+328 6F+328 1EA+304 1EB+304
1B7+30C 292+30C 6A+30C 1F4:47+301 67+301 1F8:4E+300 6E+300 C5+301 E5+301 C6+301 E6+301 D8+301
F8+301 41+30F 61+30F 41+311 61+311 45+30F 65+30F 45+311 65+311 49+30F 69+30F 49+311 69+311 4F+30F
6F+30F 4F+311 6F+311 52+30F 72+30F 52+311 72+311 55+30F 75+30F 55+311 75+311 53+326 73+326 54+326
74+326 21E:48+30C 68+30C 226:41+307 61+307 45+327 65+327 D6+304 F6+304 D5+304 F5+304 4F+307 6F+307
22E+304 22F+304 59+304 79+304 385:A8+301 391+301 388:395+301 397+301 399+301 38C:39F+301
38E:3A5+301 3A9+301 3CA+301 3AA:399+308 3A5+308 3B1+301 3B5+301 3B7+301 3B9+301 3CB+301
3CA:3B9+308 3C5+308 3BF+301 3C5+301 3C9+301 3D3:3D2+301 3D2+308 400:415+300 415+308 403:413+301
407:406+308 40C:41A+301 418+300 423+306 419:418+306 439:438+306 450:435+300 435+308 453:433+301
457:456+308 45C:43A+301 438+300 443+306 476:474+30F 475+30F 4C1:416+306 436+306 4D0:410+306
430+306 410+308 430+308 4D6:415+306 435+306 4DA:4D8+308 4D9+308 416+308 436+308 417+308 437+308
4E2:418+304 438+304 418+308 438+308 41E+308 43E+308 4EA:4E8+308 4E9+308 42D+308 44D+308 423+304
443+304 423+308 443+308 423+30B 443+30B 427+308 447+308 4F8:42B+308 44B+308 622:627+653 627+654
648+654 627+655 64A+654 6C0:6D5+654 6C2:6C1+654 6D3:6D2+654 929:928+93C 931:930+93C 934:933+93C
9CB:9C7+9BE 9C7+9D7 B48:B47+B56 B4B:B47+B3E B47+B57 B94:B92+BD7 BCA:BC6+BBE BC7+BBE BC6+BD7
C48:C46+C56 CC0:CBF+CD5 CC7:CC6+CD5 CC6+CD6 CCA:CC6+CC2 CCA+CD5 D4A:D46+D3E D47+D3E D46+D57
DDA:DD9+DCA DDC:DD9+DCF DDC+DCA DD9+DDF 1026:1025+102E 1B06:1B05+1B35 1B08:1B07+1B35
1B0A:1B09+1B35 1B0C:1B0B+1B35 1B0E:1B0D+1B35 1B12:1B11+1B35 1B3B:1B3A+1B35 1B3D:1B3C+1B35
1B40:1B3E+1B35 1B3F+1B35 1B43:1B42+1B35 1E00:41+325 61+325 42+307 62+307 42+323 62+323 42+331
62+331 C7+301 E7+301 44+307 64+307 44+323 64+323 44+331 64+331 44+327 64+327 44+32D 64+32D 112+300
113+300 112+301 113+301 45+32D 65+32D 45+330 65+330 228+306 229+306 46+307 66+307 47+304 67+304
48+307 68+307 48+323 68+323 48+308 68+308 48+327 68+327 48+32E 68+32E 49+330 69+330 CF+301 EF+301
4B+301 6B+301 4B+323 6B+323 4B+331 6B+331 4C+323 6C+323 1E36+304 1E37+304 4C+331 6C+331 4C+32D
6C+32D 4D+301 6D+301 4D+307 6D+307 4D+323 6D+323 4E+307 6E+307 4E+323 6E+323 4E+331 6E+331 4E+32D
6E+32D D5+301 F5+301 D5+308 F5+308 14C+300 14D+300 14C+301 14D+301 50+301 70+301 50+307 70+307
52+307 72+307 52+323 72+323 1E5A+304 1E5B+304 52+331 72+331 53+307 73+307 53+323 73+323 15A+307
15B+307 160+307 161+307 1E62+307 1E63+307 54+307 74+307 54+323 74+323 54+331 74+331 54+32D 74+32D
55+324 75+324 55+330 75+330 55+32D 75+32D 168+301 169+301 16A+308 16B+308 56+303 76+303 56+323
76+323 57+300 77+300 57+301 77+301 57+308 77+308 57+307 77+307 57+323 77+323 58+307 78+307 58+308
78+308 59+307 79+307 5A+302 7A+302 5A+323 7A+323 5A+331 7A+331 68+331 74+308 77+30A 79+30A
1E9B:17F+307 1EA0:41+323 61+323 41+309 61+309 C2+301 E2+301 C2+300 E2+300 C2+309 E2+309 C2+303
E2+303 1EA0+302 1EA1+302 102+301 103+301 102+300 103+300 102+309 103+309 102+303 103+303 1EA0+306
1EA1+306 45+323 65+323 45+309 65+309 45+303 65+303 CA+301 EA+301 CA+300 EA+300 CA+309 EA+309
CA+303 EA+303 1EB8+302 1EB9+302 49+309 69+309 49+323 69+323 4F+323 6F+323 4F+309 6F+309 D4+301
F4+301 D4+300 F4+300 D4+309 F4+309 D4+303 F4+303 1ECC+302 1ECD+302 1A0+301 1A1+301 1A0+300 1A1+300
1A0+309 1A1+309 1A0+303 1A1+303 1A0+323 1A1+323 55+323 75+323 55+309 75+309 1AF+301 1B0+301
1AF+300 1B0+300 1AF+309 1B0+309 1AF+303 1B0+303 1AF+323 1B0+323 59+300 79+300 59+323 79+323 59+309
79+309 59+303 79+303 1F00:3B1+313 3B1+314 1F00+300 1F01+300 1F00+301 1F01+301 1F00+342 1F01+342
391+313 391+314 1F08+300 1F09+300 1F08+301 1F09+301 1F08+342 1F09+342 3B5+313 3B5+314 1F10+300
1F11+300 1F10+301 1F11+301 1F18:395+313 395+314 1F18+300 1F19+300 1F18+301 1F19+301 1F20:3B7+313
3B7+314 1F20+300 1F21+300 1F20+301 1F21+301 1F20+342 1F21+342 397+313 397+314 1F28+300 1F29+300
1F28+301 1F29+301 1F28+342 1F29+342 3B9+313 3B9+314 1F30+300 1F31+300 1F30+301 1F31+301 1F30+342
1F31+342 399+313 399+314 1F38+300 1F39+300 1F38+301 1F39+301 1F38+342 1F39+342 3BF+313 3BF+314
1F40+300 1F41+300 1F40+301 1F41+301 1F48:39F+313 39F+314 1F48+300 1F49+300 1F48+301 1F49+301
1F50:3C5+313 3C5+314 1F50+300 1F51+300 1F50+301 1F51+301 1F50+342 1F51+342 1F59:3A5+314
1F5B:1F59+300 1F5D:1F59+301 1F5F:1F59+342 3C9+313 3C9+314 1F60+300 1F61+300 1F60+301 1F61+301
1F60+342 1F61+342 3A9+313 3A9+314 1F68+300 1F69+300 1F68+301 1F69+301 1F68+342 1F69+342 3B1+300
1F72:3B5+300 1F74:3B7+300 1F76:3B9+300 1F78:3BF+300 1F7A:3C5+300 1F7C:3C9+300 1F80:1F00+345
1F01+345 1F02+345 1F03+345 1F04+345 1F05+345 1F06+345 1F07+345 1F08+345 1F09+345 1F0A+345 1F0B+345
1F0C+345 1F0D+345 1F0E+345 1F0F+345 1F20+345 1F21+345 1F22+345 1F23+345 1F24+345 1F25+345 1F26+345
1F27+345 1F28+345 1F29+345 1F2A+345 1F2B+345 1F2C+345 1F2D+345 1F2E+345 1F2F+345 1F60+345 1F61+345
1F62+345 1F63+345 1F64+345 1F65+345 1F66+345 1F67+345 1F68+345 1F69+345 1F6A+345 1F6B+345 1F6C+345
1F6D+345 1F6E+345 1F6F+345 3B1+306 3B1+304 1F70+345 3B1+345 3AC+345 1FB6:3B1+342 1FB6+345 391+306
391+304 391+300 1FBC:391+345 1FC1:A8+342 1F74+345 3B7+345 3AE+345 1FC6:3B7+342 1FC6+345 395+300
1FCA:397+300 1FCC:397+345 1FBF+300 1FBF+301 1FBF+342 3B9+306 3B9+304 3CA+300 1FD6:3B9+342 3CA+342
399+306 399+304 399+300 1FDD:1FFE+300 1FFE+301 1FFE+342 3C5+306 3C5+304 3CB+300 1FE4:3C1+313
3C1+314 3C5+342 3CB+342 3A5+306 3A5+304 3A5+300 1FEC:3A1+314 A8+300 1FF2:1F7C+345 3C9+345 3CE+345
1FF6:3C9+342 1FF6+345 39F+300 1FFA:3A9+300 1FFC:3A9+345 219A:2190+338 2192+338 21AE:2194+338
21CD:21D0+338 21D4+338 21D2+338 2204:2203+338 2209:2208+338 220C:220B+338 2224:2223+338
2226:2225+338 2241:223C+338 2244:2243+338 2247:2245+338 2249:2248+338 2260:3D+338 2262:2261+338
226D:224D+338 3C+338 3E+338 2264+338 2265+338 2274:2272+338 2273+338 2278:2276+338 2277+338
2280:227A+338 227B+338 2284:2282+338 2283+338 2288:2286+338 2287+338 22AC:22A2+338 22A8+338
22A9+338 22AB+338 22E0:227C+338 227D+338 2291+338 2292+338 22EA:22B2+338 22B3+338 22B4+338
22B5+338 304C:304B+3099 304E:304D+3099 3050:304F+3099 3052:3051+3099 3054:3053+3099 3056:3055+3099
3058:3057+3099 305A:3059+3099 305C:305B+3099 305E:305D+3099 3060:305F+3099 3062:3061+3099
3065:3064+3099 3067:3066+3099 3069:3068+3099 3070:306F+3099 306F+309A 3073:3072+3099 3072+309A
3076:3075+3099 3075+309A 3079:3078+3099 3078+309A 307C:307B+3099 307B+309A 3094:3046+3099
309E:309D+3099 30AC:30AB+3099 30AE:30AD+3099 30B0:30AF+3099 30B2:30B1+3099 30B4:30B3+3099
30B6:30B5+3099 30B8:30B7+3099 30BA:30B9+3099 30BC:30BB+3099 30BE:30BD+3099 30C0:30BF+3099
30C2:30C1+3099 30C5:30C4+3099 30C7:30C6+3099 30C9:30C8+3099 30D0:30CF+3099 30CF+309A
30D3:30D2+3099 30D2+309A 30D6:30D5+3099 30D5+309A 30D9:30D8+3099 30D8+309A 30DC:30DB+3099
30DB+309A 30F4:30A6+3099 30F7:30EF+3099 30F0+3099 30F1+3099 30F2+3099 30FE:30FD+3099
105C9:105D2+307 105E4:105DA+307 1109A:11099+110BA 1109C:1109B+110BA 110AB:110A5+110BA
1112E:11131+11127 11132+11127 1134B:11347+1133E 11347+11357 11383:11382+113C9 11385:11384+113BB
1138E:1138B+113C2 11391:11390+113C9 113C5:113C2+113C2 113C7:113C2+113B8 113C2+113C9
114BB:114B9+114BA 114B9+114B0 114BE:114B9+114BD 115BA:115B8+115AF 115B9+115AF 11938:11935+11930
16121:1611E+1611E 1611E+16129 1611E+1611F 16129+1611F 1611E+16120 16121+1611F 16122+1611F
16121+16120 16D68:16D67+16D67 16D63+16D67 16D69+16D67"

/-- The number of syllables that begin with one Hangul consonant. -/
def syllablesPerLead : Nat := 21 * 28

/-- The parts of a Hangul syllable: a consonant and a vowel, or a shorter syllable and its last
consonant. -/
def syllableParts? (c : Char) : Option (Char × Char) :=
  let n := c.toNat - 0xAC00
  if c.toNat < 0xAC00 || 19 * syllablesPerLead ≤ n then none
  else if n % 28 = 0 then
    some (Char.ofNat (0x1100 + n / syllablesPerLead),
      Char.ofNat (0x1161 + n % syllablesPerLead / 28))
  else some (Char.ofNat (c.toNat - n % 28), Char.ofNat (0x11A7 + n % 28))

/-- The Hangul syllable with these parts. -/
def syllable? (a b : Char) : Option Char :=
  let n := a.toNat - 0xAC00
  if 0x1100 ≤ a.toNat && a.toNat < 0x1113 && 0x1161 ≤ b.toNat && b.toNat < 0x1176 then
    some (Char.ofNat (0xAC00 + (a.toNat - 0x1100) * syllablesPerLead + (b.toNat - 0x1161) * 28))
  else if 0xAC00 ≤ a.toNat && n < 19 * syllablesPerLead && n % 28 = 0 && 0x11A8 ≤ b.toNat
      && b.toNat < 0x11C3 then
    some (Char.ofNat (a.toNat + (b.toNat - 0x11A7)))
  else none

/-- The two parts of a composed character. -/
def parts? (c : Char) : Option (Char × Char) :=
  match compositions.lookup c with
  | some [a, b] => some (a, b)
  | _ => syllableParts? c

/-- The character composed of two parts. -/
def composite? (a b : Char) : Option Char :=
  match compositions.find? fun entry => entry.2 == [a, b] with
  | some (c, _) => some c
  | none => syllable? a b

/-! ## Whole texts -/

/-- The parts of a character, down to the given depth. -/
def decomposeChar : Nat → Char → List Char
  | 0, c => [c]
  | depth + 1, c =>
    match parts? c with
    | some (a, b) => decomposeChar depth a ++ [b]
    | none => [c]

/-- Puts a mark in front of a text, behind the marks of lower classes that start it. -/
def insertMark (c : Char) : List Char → List Char
  | [] => [c]
  | d :: s =>
    if 0 < combiningClass d && combiningClass d < combiningClass c then d :: insertMark c s
    else c :: d :: s

/-- A text taken apart, with its marks in order. No composed character has parts that go deeper than
three steps. -/
def decompose (s : List Char) : List Char :=
  (s.flatMap (decomposeChar 3)).foldr insertMark []

/-- Composes a text behind its first character `first`. The marks `kept`, latest first, stand behind
it and were not taken up; a mark whose class is not above that of the latest cannot get past it. -/
def composeFrom (first : Char) (kept : List Char) : List Char → List Char
  | [] => first :: kept.reverse
  | c :: s =>
    let reaches : Bool := match kept with
      | [] => true
      | latest :: _ => combiningClass latest < combiningClass c
    match if reaches then composite? first c else none with
    | some d => composeFrom d kept s
    | none =>
      if combiningClass c = 0 then first :: kept.reverse ++ composeFrom c [] s
      else composeFrom first (c :: kept) s

/-- The composed form of a text. -/
def compose (s : List Char) : List Char :=
  match decompose s with
  | [] => []
  | c :: s => composeFrom c [] s

end PipelineLint.Text
