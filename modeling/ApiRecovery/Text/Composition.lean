import ApiRecovery.Text.CombiningClass

/-!
# Canonical composition

A character with marks can often be written as one character or as several. The composed form of a
text takes every composite apart, puts the marks into the order of their classes, and joins each
mark to its base where one character stands for both. Characters that are never the composed form of
anything are left alone.
-/

namespace ApiRecovery.Text

/-- For a mark, the bases it joins and the characters that stand for both. -/
def composites : List (Nat × List (Nat × Nat)) :=
  [(768,
     [(65, 192), (69, 200), (73, 204), (79, 210), (85, 217), (97, 224), (101, 232), (105, 236),
      (111, 242), (117, 249), (220, 475), (252, 476), (78, 504), (110, 505), (1045, 1024),
      (1048, 1037), (1077, 1104), (1080, 1117), (274, 7700), (275, 7701), (332, 7760), (333, 7761),
      (87, 7808), (119, 7809), (194, 7846), (226, 7847), (258, 7856), (259, 7857), (202, 7872),
      (234, 7873), (212, 7890), (244, 7891), (416, 7900), (417, 7901), (431, 7914), (432, 7915),
      (89, 7922), (121, 7923), (7936, 7938), (7937, 7939), (7944, 7946), (7945, 7947), (7952, 7954),
      (7953, 7955), (7960, 7962), (7961, 7963), (7968, 7970), (7969, 7971), (7976, 7978),
      (7977, 7979), (7984, 7986), (7985, 7987), (7992, 7994), (7993, 7995), (8000, 8002),
      (8001, 8003), (8008, 8010), (8009, 8011), (8016, 8018), (8017, 8019), (8025, 8027),
      (8032, 8034), (8033, 8035), (8040, 8042), (8041, 8043), (945, 8048), (949, 8050), (951, 8052),
      (953, 8054), (959, 8056), (965, 8058), (969, 8060), (913, 8122), (917, 8136), (919, 8138),
      (8127, 8141), (970, 8146), (921, 8154), (8190, 8157), (971, 8162), (933, 8170), (168, 8173),
      (927, 8184), (937, 8186)]),
   (769,
     [(65, 193), (69, 201), (73, 205), (79, 211), (85, 218), (89, 221), (97, 225), (101, 233),
      (105, 237), (111, 243), (117, 250), (121, 253), (67, 262), (99, 263), (76, 313), (108, 314),
      (78, 323), (110, 324), (82, 340), (114, 341), (83, 346), (115, 347), (90, 377), (122, 378),
      (220, 471), (252, 472), (71, 500), (103, 501), (197, 506), (229, 507), (198, 508), (230, 509),
      (216, 510), (248, 511), (168, 901), (913, 902), (917, 904), (919, 905), (921, 906),
      (927, 908), (933, 910), (937, 911), (970, 912), (945, 940), (949, 941), (951, 942),
      (953, 943), (971, 944), (959, 972), (965, 973), (969, 974), (978, 979), (1043, 1027),
      (1050, 1036), (1075, 1107), (1082, 1116), (199, 7688), (231, 7689), (274, 7702), (275, 7703),
      (207, 7726), (239, 7727), (75, 7728), (107, 7729), (77, 7742), (109, 7743), (213, 7756),
      (245, 7757), (332, 7762), (333, 7763), (80, 7764), (112, 7765), (360, 7800), (361, 7801),
      (87, 7810), (119, 7811), (194, 7844), (226, 7845), (258, 7854), (259, 7855), (202, 7870),
      (234, 7871), (212, 7888), (244, 7889), (416, 7898), (417, 7899), (431, 7912), (432, 7913),
      (7936, 7940), (7937, 7941), (7944, 7948), (7945, 7949), (7952, 7956), (7953, 7957),
      (7960, 7964), (7961, 7965), (7968, 7972), (7969, 7973), (7976, 7980), (7977, 7981),
      (7984, 7988), (7985, 7989), (7992, 7996), (7993, 7997), (8000, 8004), (8001, 8005),
      (8008, 8012), (8009, 8013), (8016, 8020), (8017, 8021), (8025, 8029), (8032, 8036),
      (8033, 8037), (8040, 8044), (8041, 8045), (8127, 8142), (8190, 8158)]),
   (770,
     [(65, 194), (69, 202), (73, 206), (79, 212), (85, 219), (97, 226), (101, 234), (105, 238),
      (111, 244), (117, 251), (67, 264), (99, 265), (71, 284), (103, 285), (72, 292), (104, 293),
      (74, 308), (106, 309), (83, 348), (115, 349), (87, 372), (119, 373), (89, 374), (121, 375),
      (90, 7824), (122, 7825), (7840, 7852), (7841, 7853), (7864, 7878), (7865, 7879), (7884, 7896),
      (7885, 7897)]),
   (771,
     [(65, 195), (78, 209), (79, 213), (97, 227), (110, 241), (111, 245), (73, 296), (105, 297),
      (85, 360), (117, 361), (86, 7804), (118, 7805), (194, 7850), (226, 7851), (258, 7860),
      (259, 7861), (69, 7868), (101, 7869), (202, 7876), (234, 7877), (212, 7894), (244, 7895),
      (416, 7904), (417, 7905), (431, 7918), (432, 7919), (89, 7928), (121, 7929)]),
   (772,
     [(65, 256), (97, 257), (69, 274), (101, 275), (73, 298), (105, 299), (79, 332), (111, 333),
      (85, 362), (117, 363), (220, 469), (252, 470), (196, 478), (228, 479), (550, 480), (551, 481),
      (198, 482), (230, 483), (490, 492), (491, 493), (214, 554), (246, 555), (213, 556),
      (245, 557), (558, 560), (559, 561), (89, 562), (121, 563), (1048, 1250), (1080, 1251),
      (1059, 1262), (1091, 1263), (71, 7712), (103, 7713), (7734, 7736), (7735, 7737), (7770, 7772),
      (7771, 7773), (945, 8113), (913, 8121), (953, 8145), (921, 8153), (965, 8161), (933, 8169)]),
   (774,
     [(65, 258), (97, 259), (69, 276), (101, 277), (71, 286), (103, 287), (73, 300), (105, 301),
      (79, 334), (111, 335), (85, 364), (117, 365), (1059, 1038), (1048, 1049), (1080, 1081),
      (1091, 1118), (1046, 1217), (1078, 1218), (1040, 1232), (1072, 1233), (1045, 1238),
      (1077, 1239), (552, 7708), (553, 7709), (7840, 7862), (7841, 7863), (945, 8112), (913, 8120),
      (953, 8144), (921, 8152), (965, 8160), (933, 8168)]),
   (775,
     [(67, 266), (99, 267), (69, 278), (101, 279), (71, 288), (103, 289), (73, 304), (90, 379),
      (122, 380), (65, 550), (97, 551), (79, 558), (111, 559), (66, 7682), (98, 7683), (68, 7690),
      (100, 7691), (70, 7710), (102, 7711), (72, 7714), (104, 7715), (77, 7744), (109, 7745),
      (78, 7748), (110, 7749), (80, 7766), (112, 7767), (82, 7768), (114, 7769), (83, 7776),
      (115, 7777), (346, 7780), (347, 7781), (352, 7782), (353, 7783), (7778, 7784), (7779, 7785),
      (84, 7786), (116, 7787), (87, 7814), (119, 7815), (88, 7818), (120, 7819), (89, 7822),
      (121, 7823), (383, 7835), (67026, 67017), (67034, 67044)]),
   (776,
     [(65, 196), (69, 203), (73, 207), (79, 214), (85, 220), (97, 228), (101, 235), (105, 239),
      (111, 246), (117, 252), (121, 255), (89, 376), (921, 938), (933, 939), (953, 970), (965, 971),
      (978, 980), (1045, 1025), (1030, 1031), (1077, 1105), (1110, 1111), (1040, 1234),
      (1072, 1235), (1240, 1242), (1241, 1243), (1046, 1244), (1078, 1245), (1047, 1246),
      (1079, 1247), (1048, 1252), (1080, 1253), (1054, 1254), (1086, 1255), (1256, 1258),
      (1257, 1259), (1069, 1260), (1101, 1261), (1059, 1264), (1091, 1265), (1063, 1268),
      (1095, 1269), (1067, 1272), (1099, 1273), (72, 7718), (104, 7719), (213, 7758), (245, 7759),
      (362, 7802), (363, 7803), (87, 7812), (119, 7813), (88, 7820), (120, 7821), (116, 7831)]),
   (777,
     [(65, 7842), (97, 7843), (194, 7848), (226, 7849), (258, 7858), (259, 7859), (69, 7866),
      (101, 7867), (202, 7874), (234, 7875), (73, 7880), (105, 7881), (79, 7886), (111, 7887),
      (212, 7892), (244, 7893), (416, 7902), (417, 7903), (85, 7910), (117, 7911), (431, 7916),
      (432, 7917), (89, 7926), (121, 7927)]),
   (778, [(65, 197), (97, 229), (85, 366), (117, 367), (119, 7832), (121, 7833)]),
   (779, [(79, 336), (111, 337), (85, 368), (117, 369), (1059, 1266), (1091, 1267)]),
   (780,
     [(67, 268), (99, 269), (68, 270), (100, 271), (69, 282), (101, 283), (76, 317), (108, 318),
      (78, 327), (110, 328), (82, 344), (114, 345), (83, 352), (115, 353), (84, 356), (116, 357),
      (90, 381), (122, 382), (65, 461), (97, 462), (73, 463), (105, 464), (79, 465), (111, 466),
      (85, 467), (117, 468), (220, 473), (252, 474), (71, 486), (103, 487), (75, 488), (107, 489),
      (439, 494), (658, 495), (106, 496), (72, 542), (104, 543)]),
   (783,
     [(65, 512), (97, 513), (69, 516), (101, 517), (73, 520), (105, 521), (79, 524), (111, 525),
      (82, 528), (114, 529), (85, 532), (117, 533), (1140, 1142), (1141, 1143)]),
   (785,
     [(65, 514), (97, 515), (69, 518), (101, 519), (73, 522), (105, 523), (79, 526), (111, 527),
      (82, 530), (114, 531), (85, 534), (117, 535)]),
   (787,
     [(945, 7936), (913, 7944), (949, 7952), (917, 7960), (951, 7968), (919, 7976), (953, 7984),
      (921, 7992), (959, 8000), (927, 8008), (965, 8016), (969, 8032), (937, 8040), (961, 8164)]),
   (788,
     [(945, 7937), (913, 7945), (949, 7953), (917, 7961), (951, 7969), (919, 7977), (953, 7985),
      (921, 7993), (959, 8001), (927, 8009), (965, 8017), (933, 8025), (969, 8033), (937, 8041),
      (961, 8165), (929, 8172)]),
   (795, [(79, 416), (111, 417), (85, 431), (117, 432)]),
   (803,
     [(66, 7684), (98, 7685), (68, 7692), (100, 7693), (72, 7716), (104, 7717), (75, 7730),
      (107, 7731), (76, 7734), (108, 7735), (77, 7746), (109, 7747), (78, 7750), (110, 7751),
      (82, 7770), (114, 7771), (83, 7778), (115, 7779), (84, 7788), (116, 7789), (86, 7806),
      (118, 7807), (87, 7816), (119, 7817), (90, 7826), (122, 7827), (65, 7840), (97, 7841),
      (69, 7864), (101, 7865), (73, 7882), (105, 7883), (79, 7884), (111, 7885), (416, 7906),
      (417, 7907), (85, 7908), (117, 7909), (431, 7920), (432, 7921), (89, 7924), (121, 7925)]),
   (804, [(85, 7794), (117, 7795)]),
   (805, [(65, 7680), (97, 7681)]),
   (806, [(83, 536), (115, 537), (84, 538), (116, 539)]),
   (807,
     [(67, 199), (99, 231), (71, 290), (103, 291), (75, 310), (107, 311), (76, 315), (108, 316),
      (78, 325), (110, 326), (82, 342), (114, 343), (83, 350), (115, 351), (84, 354), (116, 355),
      (69, 552), (101, 553), (68, 7696), (100, 7697), (72, 7720), (104, 7721)]),
   (808,
     [(65, 260), (97, 261), (69, 280), (101, 281), (73, 302), (105, 303), (85, 370), (117, 371),
      (79, 490), (111, 491)]),
   (813,
     [(68, 7698), (100, 7699), (69, 7704), (101, 7705), (76, 7740), (108, 7741), (78, 7754),
      (110, 7755), (84, 7792), (116, 7793), (85, 7798), (117, 7799)]),
   (814, [(72, 7722), (104, 7723)]),
   (816, [(69, 7706), (101, 7707), (73, 7724), (105, 7725), (85, 7796), (117, 7797)]),
   (817,
     [(66, 7686), (98, 7687), (68, 7694), (100, 7695), (75, 7732), (107, 7733), (76, 7738),
      (108, 7739), (78, 7752), (110, 7753), (82, 7774), (114, 7775), (84, 7790), (116, 7791),
      (90, 7828), (122, 7829), (104, 7830)]),
   (824,
     [(8592, 8602), (8594, 8603), (8596, 8622), (8656, 8653), (8660, 8654), (8658, 8655),
      (8707, 8708), (8712, 8713), (8715, 8716), (8739, 8740), (8741, 8742), (8764, 8769),
      (8771, 8772), (8773, 8775), (8776, 8777), (61, 8800), (8801, 8802), (8781, 8813), (60, 8814),
      (62, 8815), (8804, 8816), (8805, 8817), (8818, 8820), (8819, 8821), (8822, 8824),
      (8823, 8825), (8826, 8832), (8827, 8833), (8834, 8836), (8835, 8837), (8838, 8840),
      (8839, 8841), (8866, 8876), (8872, 8877), (8873, 8878), (8875, 8879), (8828, 8928),
      (8829, 8929), (8849, 8930), (8850, 8931), (8882, 8938), (8883, 8939), (8884, 8940),
      (8885, 8941)]),
   (834,
     [(7936, 7942), (7937, 7943), (7944, 7950), (7945, 7951), (7968, 7974), (7969, 7975),
      (7976, 7982), (7977, 7983), (7984, 7990), (7985, 7991), (7992, 7998), (7993, 7999),
      (8016, 8022), (8017, 8023), (8025, 8031), (8032, 8038), (8033, 8039), (8040, 8046),
      (8041, 8047), (945, 8118), (168, 8129), (951, 8134), (8127, 8143), (953, 8150), (970, 8151),
      (8190, 8159), (965, 8166), (971, 8167), (969, 8182)]),
   (837,
     [(7936, 8064), (7937, 8065), (7938, 8066), (7939, 8067), (7940, 8068), (7941, 8069),
      (7942, 8070), (7943, 8071), (7944, 8072), (7945, 8073), (7946, 8074), (7947, 8075),
      (7948, 8076), (7949, 8077), (7950, 8078), (7951, 8079), (7968, 8080), (7969, 8081),
      (7970, 8082), (7971, 8083), (7972, 8084), (7973, 8085), (7974, 8086), (7975, 8087),
      (7976, 8088), (7977, 8089), (7978, 8090), (7979, 8091), (7980, 8092), (7981, 8093),
      (7982, 8094), (7983, 8095), (8032, 8096), (8033, 8097), (8034, 8098), (8035, 8099),
      (8036, 8100), (8037, 8101), (8038, 8102), (8039, 8103), (8040, 8104), (8041, 8105),
      (8042, 8106), (8043, 8107), (8044, 8108), (8045, 8109), (8046, 8110), (8047, 8111),
      (8048, 8114), (945, 8115), (940, 8116), (8118, 8119), (913, 8124), (8052, 8130), (951, 8131),
      (942, 8132), (8134, 8135), (919, 8140), (8060, 8178), (969, 8179), (974, 8180), (8182, 8183),
      (937, 8188)]),
   (1619, [(1575, 1570)]),
   (1620, [(1575, 1571), (1608, 1572), (1610, 1574), (1749, 1728), (1729, 1730), (1746, 1747)]),
   (1621, [(1575, 1573)]),
   (2364, [(2344, 2345), (2352, 2353), (2355, 2356)]),
   (2494, [(2503, 2507)]),
   (2519, [(2503, 2508)]),
   (2878, [(2887, 2891)]),
   (2902, [(2887, 2888)]),
   (2903, [(2887, 2892)]),
   (3006, [(3014, 3018), (3015, 3019)]),
   (3031, [(2962, 2964), (3014, 3020)]),
   (3158, [(3142, 3144)]),
   (3266, [(3270, 3274)]),
   (3285, [(3263, 3264), (3270, 3271), (3274, 3275)]),
   (3286, [(3270, 3272)]),
   (3390, [(3398, 3402), (3399, 3403)]),
   (3415, [(3398, 3404)]),
   (3530, [(3545, 3546), (3548, 3549)]),
   (3535, [(3545, 3548)]),
   (3551, [(3545, 3550)]),
   (4142, [(4133, 4134)]),
   (6965,
     [(6917, 6918), (6919, 6920), (6921, 6922), (6923, 6924), (6925, 6926), (6929, 6930),
      (6970, 6971), (6972, 6973), (6974, 6976), (6975, 6977), (6978, 6979)]),
   (12441,
     [(12363, 12364), (12365, 12366), (12367, 12368), (12369, 12370), (12371, 12372),
      (12373, 12374), (12375, 12376), (12377, 12378), (12379, 12380), (12381, 12382),
      (12383, 12384), (12385, 12386), (12388, 12389), (12390, 12391), (12392, 12393),
      (12399, 12400), (12402, 12403), (12405, 12406), (12408, 12409), (12411, 12412),
      (12358, 12436), (12445, 12446), (12459, 12460), (12461, 12462), (12463, 12464),
      (12465, 12466), (12467, 12468), (12469, 12470), (12471, 12472), (12473, 12474),
      (12475, 12476), (12477, 12478), (12479, 12480), (12481, 12482), (12484, 12485),
      (12486, 12487), (12488, 12489), (12495, 12496), (12498, 12499), (12501, 12502),
      (12504, 12505), (12507, 12508), (12454, 12532), (12527, 12535), (12528, 12536),
      (12529, 12537), (12530, 12538), (12541, 12542)]),
   (12442,
     [(12399, 12401), (12402, 12404), (12405, 12407), (12408, 12410), (12411, 12413),
      (12495, 12497), (12498, 12500), (12501, 12503), (12504, 12506), (12507, 12509)]),
   (69818, [(69785, 69786), (69787, 69788), (69797, 69803)]),
   (69927, [(69937, 69934), (69938, 69935)]),
   (70462, [(70471, 70475)]),
   (70487, [(70471, 70476)]),
   (70584, [(70594, 70599)]),
   (70587, [(70532, 70533)]),
   (70594, [(70539, 70542), (70594, 70597)]),
   (70601, [(70530, 70531), (70544, 70545), (70594, 70600)]),
   (70832, [(70841, 70844)]),
   (70842, [(70841, 70843)]),
   (70845, [(70841, 70846)]),
   (71087, [(71096, 71098), (71097, 71099)]),
   (71984, [(71989, 71992)]),
   (90398, [(90398, 90401)]),
   (90399, [(90398, 90403), (90409, 90404), (90401, 90406), (90402, 90407)]),
   (90400, [(90398, 90405), (90401, 90408)]),
   (90409, [(90398, 90402)]),
   (93543, [(93543, 93544), (93539, 93545), (93545, 93546)])]

namespace Hangul

/-! Syllables of Hangul are composed of a leading consonant, a vowel and possibly a trailing
consonant, and stand in the order of their parts. -/

def firstSyllable : Nat := 0xAC00
def firstLeading : Nat := 0x1100
def firstVowel : Nat := 0x1161
/-- One before the first trailing consonant, for syllables that have none. -/
def noTrailing : Nat := 0x11A7
def leadingCount : Nat := 19
def vowelCount : Nat := 21
def trailingCount : Nat := 28

def index? (n : Nat) : Option Nat :=
  if firstSyllable ≤ n && n < firstSyllable + leadingCount * vowelCount * trailingCount then
    some (n - firstSyllable)
  else none

def parts? (n : Nat) : Option (List Nat) :=
  (index? n).map fun i =>
    let trailing := i % trailingCount
    [firstLeading + i / (vowelCount * trailingCount),
      firstVowel + i / trailingCount % vowelCount] ++
      if trailing = 0 then [] else [noTrailing + trailing]

/-- The syllable of two parts, the first of which may be a syllable without a trailing consonant. -/
def compose? (a b : Nat) : Option Nat :=
  if firstLeading ≤ a && a < firstLeading + leadingCount &&
      firstVowel ≤ b && b < firstVowel + vowelCount then
    some (firstSyllable + ((a - firstLeading) * vowelCount + (b - firstVowel)) * trailingCount)
  else
    match index? a with
    | some i =>
      if i % trailingCount = 0 && noTrailing < b && b < noTrailing + trailingCount then
        some (a + (b - noTrailing))
      else none
    | none => none

end Hangul

def compose? (base mark : Char) : Option Char :=
  let found := (Hangul.compose? base.toNat mark.toNat).or
    ((composites.lookup mark.toNat).bind (·.lookup base.toNat))
  found.map Char.ofNat

def takeApart? (c : Char) : Option (Char × Char) :=
  composites.findSome? fun (mark, pairs) =>
    (pairs.find? fun (_, composite) => composite == c.toNat).map fun (base, _) =>
      (Char.ofNat base, Char.ofNat mark)

/-- The most marks that one character of the table has on its base. -/
def maxMarks : Nat := 3

/-- A base and its marks; a base is taken apart up to `depth` times. -/
def decomposeChar : Nat → Char → List Char
  | 0, c => [c]
  | depth + 1, c =>
    match takeApart? c with
    | some (base, mark) => decomposeChar depth base ++ [mark]
    | none => [c]

def decompose (cs : List Char) : List Char :=
  cs.flatMap fun c =>
    if c.toNat < 128 then [c]
    else
      match Hangul.parts? c.toNat with
      | some parts => parts.map Char.ofNat
      | none => decomposeChar maxMarks c

/-- Puts each run of marks into the order of their classes and keeps the order within a class. -/
def orderMarks (cs : List Char) : List Char :=
  match cs with
  | [] => []
  | c :: rest =>
    let ordered := orderMarks rest
    let k := combiningClass c
    if k = 0 then c :: ordered
    else
      let isBefore (d : Char) : Bool := combiningClass d != 0 && combiningClass d < k
      ordered.takeWhile isBefore ++ c :: ordered.dropWhile isBefore

/-- Joins marks to `base`; `passed` holds the marks after it that did not join, last mark first. A
mark joins if no mark between has its class or a higher one. -/
def joinMarks (base : Char) (passed : List Char) : List Char → List Char
  | [] => base :: passed.reverse
  | c :: rest =>
    let k := combiningClass c
    let isFree := (passed.head?.map fun d => decide (combiningClass d < k)).getD true
    match if isFree then compose? base c else none with
    | some composite => joinMarks composite passed rest
    | none =>
      if k = 0 then base :: passed.reverse ++ joinMarks c [] rest
      else joinMarks base (c :: passed) rest

/-- The composed form of a text. Marks at the beginning have no base to join. -/
def composed (cs : List Char) : List Char :=
  if cs.all fun c => c.toNat < 0x300 then cs
  else
    let parts := orderMarks (decompose cs)
    let isFirst (c : Char) : Bool := combiningClass c != 0
    match parts.dropWhile isFirst with
    | [] => parts
    | base :: rest => parts.takeWhile isFirst ++ joinMarks base [] rest

end ApiRecovery.Text
