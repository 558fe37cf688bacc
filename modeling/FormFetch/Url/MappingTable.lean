/-!
# The table of domain characters

Which characters of a domain name stand for others (UTS #46, without the transitional
rules): capitals for small letters, compatibility forms for plain ones, and so on.
-/

namespace FormFetch.Url.MappingTable

/-- Regular runs: the first and the last code, the step from one code to the next, and the code that
the first one stands for; the others stand for codes at the same distance. -/
def shifts : Array Nat := #[
  192, 214, 1, 224, 216, 222, 1, 248, 256, 302, 2, 257, 313, 317, 2, 314, 321, 327, 2, 322, 330,
  374, 2, 331, 377, 381, 2, 378, 416, 420, 2, 417, 461, 475, 2, 462, 478, 494, 2, 479, 504, 542,
  2, 505, 546, 562, 2, 547, 582, 590, 2, 583, 904, 906, 1, 941, 913, 929, 1, 945, 931, 939, 1,
  963, 984, 1006, 2, 985, 1021, 1023, 1, 891, 1024, 1039, 1, 1104, 1040, 1071, 1, 1072, 1120,
  1152, 2, 1121, 1162, 1214, 2, 1163, 1217, 1229, 2, 1218, 1232, 1326, 2, 1233, 1329, 1366, 1,
  1377, 4256, 4293, 1, 11520, 5112, 5117, 1, 5104, 7312, 7354, 1, 4304, 7357, 7359, 1, 4349, 7473,
  7481, 2, 101, 7476, 7482, 2, 104, 7517, 7519, 1, 946, 7588, 7590, 1, 616, 7598, 7601, 1, 626,
  7612, 7614, 1, 656, 7680, 7828, 2, 7681, 7840, 7934, 2, 7841, 7944, 7951, 1, 7936, 7960, 7965,
  1, 7952, 7976, 7983, 1, 7968, 7992, 7999, 1, 7984, 8008, 8013, 1, 8000, 8025, 8031, 2, 8017,
  8040, 8047, 1, 8032, 8308, 8313, 1, 52, 8320, 8329, 1, 48, 8342, 8345, 1, 107, 8473, 8475, 1,
  112, 8501, 8504, 1, 1488, 9312, 9320, 1, 49, 9398, 9423, 1, 97, 9424, 9449, 1, 97, 11264, 11311,
  1, 11312, 11367, 11371, 2, 11368, 11392, 11490, 2, 11393, 12599, 12601, 1, 4355, 12602, 12607,
  1, 4528, 12609, 12611, 1, 4358, 12613, 12622, 1, 4361, 12623, 12643, 1, 4449, 12664, 12668, 1,
  4395, 12676, 12678, 1, 4439, 12899, 12901, 1, 4357, 12905, 12909, 1, 4366, 13028, 13033, 1,
  12490, 13038, 13042, 1, 12510, 13045, 13050, 1, 12520, 13051, 13054, 1, 12527, 42560, 42604, 2,
  42561, 42624, 42650, 2, 42625, 42786, 42798, 2, 42787, 42802, 42862, 2, 42803, 42878, 42886, 2,
  42879, 42902, 42920, 2, 42903, 42932, 42946, 2, 42933, 43888, 43967, 1, 5024, 64292, 64294, 1,
  1499, 65089, 65092, 1, 12300, 65281, 65312, 1, 33, 65313, 65338, 1, 97, 65339, 65374, 1, 91,
  65413, 65418, 1, 12490, 65423, 65427, 1, 12510, 65430, 65435, 1, 12520, 65447, 65449, 1, 4355,
  65450, 65455, 1, 4528, 65457, 65459, 1, 4358, 65461, 65470, 1, 4361, 65474, 65479, 1, 4449,
  65482, 65487, 1, 4455, 65490, 65495, 1, 4461, 65498, 65500, 1, 4467, 65513, 65516, 1, 8592,
  66560, 66599, 1, 66600, 66736, 66771, 1, 66776, 66928, 66964, 2, 66967, 66929, 66937, 2, 66968,
  66941, 66953, 2, 66980, 66957, 66961, 2, 66996, 67510, 67512, 1, 448, 68736, 68786, 1, 68800,
  71840, 71871, 1, 71872, 93760, 93791, 1, 93792, 119808, 119833, 1, 97, 119834, 119859, 1, 97,
  119860, 119885, 1, 97, 119886, 119910, 2, 97, 119887, 119891, 2, 98, 119895, 119911, 2, 106,
  119912, 119937, 1, 97, 119938, 119963, 1, 97, 119977, 119980, 1, 110, 119982, 119989, 1, 115,
  119990, 119993, 1, 97, 119995, 120015, 2, 102, 119998, 120002, 2, 105, 120006, 120014, 2, 113,
  120016, 120041, 1, 97, 120042, 120067, 1, 97, 120069, 120073, 2, 98, 120077, 120084, 1, 106,
  120086, 120092, 1, 115, 120094, 120119, 1, 97, 120121, 120125, 2, 98, 120124, 120134, 2, 101,
  120138, 120144, 1, 115, 120146, 120171, 1, 97, 120172, 120197, 1, 97, 120198, 120223, 1, 97,
  120224, 120249, 1, 97, 120250, 120275, 1, 97, 120276, 120301, 1, 97, 120302, 120327, 1, 97,
  120328, 120353, 1, 97, 120354, 120379, 1, 97, 120380, 120405, 1, 97, 120406, 120431, 1, 97,
  120432, 120457, 1, 97, 120458, 120483, 1, 97, 120488, 120504, 1, 945, 120506, 120512, 1, 963,
  120514, 120530, 1, 945, 120532, 120538, 1, 963, 120546, 120562, 1, 945, 120564, 120570, 1, 963,
  120572, 120588, 1, 945, 120590, 120596, 1, 963, 120604, 120620, 1, 945, 120622, 120628, 1, 963,
  120630, 120646, 1, 945, 120648, 120654, 1, 963, 120662, 120678, 1, 945, 120680, 120686, 1, 963,
  120688, 120704, 1, 945, 120706, 120712, 1, 963, 120720, 120736, 1, 945, 120738, 120744, 1, 963,
  120746, 120762, 1, 945, 120764, 120770, 1, 963, 120782, 120791, 1, 48, 120792, 120801, 1, 48,
  120802, 120811, 1, 48, 120812, 120821, 1, 48, 120822, 120831, 1, 48, 125184, 125217, 1, 125218,
  126474, 126477, 1, 1603, 126506, 126509, 1, 1603, 126603, 126605, 1, 1604, 126635, 126637, 1,
  1604, 127280, 127305, 1, 97, 130032, 130041, 1, 48]

set_option maxRecDepth 20000 in
/-- Runs of neighbours that stand for single codes: the first code, the length of the run, and the
codes that they stand for. -/
def singles : Array Nat := #[
  170, 1, 97, 178, 2, 50, 51, 181, 1, 956, 185, 2, 49, 111, 308, 1, 309, 310, 1, 311, 376, 1, 255,
  383, 1, 115, 385, 2, 595, 387, 388, 1, 389, 390, 2, 596, 392, 393, 3, 598, 599, 396, 398, 4,
  477, 601, 603, 402, 403, 2, 608, 611, 406, 3, 617, 616, 409, 412, 2, 623, 626, 415, 1, 629, 422,
  2, 640, 424, 425, 1, 643, 428, 1, 429, 430, 2, 648, 432, 433, 3, 650, 651, 436, 437, 1, 438,
  439, 2, 658, 441, 444, 1, 445, 500, 1, 501, 502, 2, 405, 447, 544, 1, 414, 570, 2, 11365, 572,
  573, 2, 410, 11366, 577, 1, 578, 579, 3, 384, 649, 652, 688, 9, 104, 614, 106, 114, 633, 635,
  641, 119, 121, 736, 5, 611, 108, 115, 120, 661, 832, 2, 768, 769, 835, 1, 787, 837, 1, 953, 880,
  1, 881, 882, 1, 883, 884, 1, 697, 886, 1, 887, 894, 2, 59, 1011, 902, 2, 940, 183, 908, 1, 972,
  910, 2, 973, 974, 975, 8, 983, 946, 952, 965, 973, 971, 966, 960, 1008, 3, 954, 961, 963, 1012,
  2, 952, 949, 1015, 1, 1016, 1017, 2, 963, 1019, 1216, 1, 1231, 3852, 1, 3851, 4295, 1, 11559,
  4301, 1, 11565, 4348, 1, 4316, 7296, 9, 1074, 1076, 1086, 1089, 1090, 1090, 1098, 1123, 42571,
  7468, 3, 97, 230, 98, 7472, 1, 100, 7474, 1, 477, 7484, 18, 111, 547, 112, 114, 116, 117, 119,
  97, 592, 593, 7426, 98, 100, 101, 601, 603, 604, 103, 7503, 14, 107, 109, 331, 111, 596, 7446,
  7447, 112, 116, 117, 7453, 623, 118, 7461, 7520, 11, 966, 967, 105, 114, 117, 118, 946, 947,
  961, 966, 967, 7544, 1, 1085, 7579, 9, 594, 99, 597, 240, 604, 102, 607, 609, 613, 7591, 7,
  7547, 669, 621, 7557, 671, 625, 624, 7602, 10, 632, 642, 643, 427, 649, 650, 7452, 651, 652,
  122, 7615, 1, 952, 7835, 1, 7777, 7838, 1, 223, 7838, 1, 223, 8049, 1, 940, 8051, 1, 941, 8053,
  1, 942, 8055, 1, 943, 8057, 1, 972, 8059, 1, 973, 8061, 1, 974, 8120, 4, 8112, 8113, 8048, 940,
  8126, 1, 953, 8136, 4, 8050, 941, 8052, 942, 8147, 1, 912, 8152, 4, 8144, 8145, 8054, 943, 8163,
  1, 944, 8168, 5, 8160, 8161, 8058, 973, 8165, 8175, 1, 96, 8184, 4, 8056, 972, 8060, 974, 8209,
  1, 8208, 8228, 1, 46, 8304, 2, 48, 105, 8314, 6, 43, 8722, 61, 40, 41, 110, 8330, 5, 43, 8722,
  61, 40, 41, 8336, 6, 97, 101, 111, 120, 601, 104, 8346, 3, 112, 115, 116, 8450, 1, 99, 8455, 1,
  603, 8458, 10, 103, 104, 104, 104, 104, 295, 105, 105, 108, 108, 8469, 1, 110, 8476, 2, 114,
  114, 8484, 1, 122, 8486, 1, 969, 8488, 1, 122, 8490, 4, 107, 229, 98, 99, 8495, 6, 101, 101,
  102, 8526, 109, 111, 8505, 1, 105, 8508, 5, 960, 947, 947, 960, 8721, 8517, 5, 100, 100, 101,
  105, 106, 8544, 1, 105, 8548, 1, 118, 8553, 1, 120, 8556, 5, 108, 99, 100, 109, 105, 8564, 1,
  118, 8569, 1, 120, 8572, 4, 108, 99, 100, 109, 8579, 1, 8580, 9001, 2, 12296, 12297, 9450, 1,
  48, 11360, 1, 11361, 11362, 3, 619, 7549, 637, 11373, 4, 593, 625, 592, 594, 11378, 1, 11379,
  11381, 1, 11382, 11388, 4, 106, 118, 575, 576, 11499, 1, 11500, 11501, 1, 11502, 11506, 1,
  11507, 11631, 1, 11617, 11935, 1, 27597, 12019, 1, 40863, 12032, 214, 19968, 20008, 20022,
  20031, 20057, 20101, 20108, 20128, 20154, 20799, 20837, 20843, 20866, 20886, 20907, 20960,
  20981, 20992, 21147, 21241, 21269, 21274, 21304, 21313, 21340, 21353, 21378, 21430, 21448,
  21475, 22231, 22303, 22763, 22786, 22794, 22805, 22823, 22899, 23376, 23424, 23544, 23567,
  23586, 23608, 23662, 23665, 24027, 24037, 24049, 24062, 24178, 24186, 24191, 24308, 24318,
  24331, 24339, 24400, 24417, 24435, 24515, 25096, 25142, 25163, 25903, 25908, 25991, 26007,
  26020, 26041, 26080, 26085, 26352, 26376, 26408, 27424, 27490, 27513, 27571, 27595, 27604,
  27611, 27663, 27668, 27700, 28779, 29226, 29238, 29243, 29247, 29255, 29273, 29275, 29356,
  29572, 29577, 29916, 29926, 29976, 29983, 29992, 30000, 30091, 30098, 30326, 30333, 30382,
  30399, 30446, 30683, 30690, 30707, 31034, 31160, 31166, 31348, 31435, 31481, 31859, 31992,
  32566, 32593, 32650, 32701, 32769, 32780, 32786, 32819, 32895, 32905, 33251, 33258, 33267,
  33276, 33292, 33307, 33311, 33390, 33394, 33400, 34381, 34411, 34880, 34892, 34915, 35198,
  35211, 35282, 35328, 35895, 35910, 35925, 35960, 35997, 36196, 36208, 36275, 36523, 36554,
  36763, 36784, 36789, 37009, 37193, 37318, 37324, 37329, 38263, 38272, 38428, 38582, 38585,
  38632, 38737, 38750, 38754, 38761, 38859, 38893, 38899, 38913, 39080, 39131, 39135, 39318,
  39321, 39340, 39592, 39640, 39647, 39717, 39727, 39730, 39740, 39770, 40165, 40565, 40575,
  40613, 40635, 40643, 40653, 40657, 40697, 40701, 40718, 40723, 40736, 40763, 40778, 40786,
  40845, 40860, 40864, 12290, 1, 46, 12342, 1, 12306, 12344, 3, 21313, 21316, 21317, 12593, 6,
  4352, 4353, 4522, 4354, 4524, 4525, 12608, 1, 4378, 12612, 1, 4385, 12645, 19, 4372, 4373, 4551,
  4552, 4556, 4558, 4563, 4567, 4569, 4380, 4573, 4575, 4381, 4382, 4384, 4386, 4387, 4391, 4393,
  12669, 7, 4402, 4406, 4416, 4423, 4428, 4593, 4594, 12679, 8, 4484, 4485, 4488, 4497, 4498,
  4500, 4510, 4513, 12690, 14, 19968, 20108, 19977, 22235, 19978, 20013, 19979, 30002, 20057,
  19993, 19969, 22825, 22320, 20154, 12868, 4, 21839, 24188, 25991, 31631, 12896, 3, 4352, 4354,
  4355, 12902, 3, 4361, 4363, 4364, 12910, 14, 44032, 45208, 45796, 46972, 47560, 48148, 49324,
  50500, 51088, 52264, 52852, 53440, 54028, 54616, 12926, 1, 50864, 12928, 49, 19968, 20108,
  19977, 22235, 20116, 20845, 19971, 20843, 20061, 21313, 26376, 28779, 27700, 26408, 37329,
  22303, 26085, 26666, 26377, 31038, 21517, 29305, 36001, 31069, 21172, 31192, 30007, 22899,
  36969, 20778, 21360, 27880, 38917, 20241, 20889, 27491, 19978, 20013, 19979, 24038, 21491,
  21307, 23447, 23398, 30435, 20225, 36039, 21332, 22812, 13008, 20, 12450, 12452, 12454, 12456,
  12458, 12459, 12461, 12463, 12465, 12467, 12469, 12471, 12473, 12475, 12477, 12479, 12481,
  12484, 12486, 12488, 13034, 4, 12498, 12501, 12504, 12507, 13043, 2, 12516, 12518, 42652, 2,
  1098, 1100, 42864, 1, 42863, 42873, 1, 42874, 42875, 1, 42876, 42877, 1, 7545, 42891, 1, 42892,
  42893, 1, 613, 42896, 1, 42897, 42898, 1, 42899, 42922, 5, 614, 604, 609, 620, 618, 42928, 4,
  670, 647, 669, 43859, 42948, 4, 42900, 642, 7566, 42952, 42953, 1, 42954, 42960, 1, 42961,
  42966, 1, 42967, 42968, 1, 42969, 42994, 4, 99, 102, 113, 42998, 43000, 2, 295, 339, 43868, 4,
  42791, 43831, 619, 43858, 43881, 1, 653, 63744, 270, 35912, 26356, 36554, 36040, 28369, 20018,
  21477, 40860, 40860, 22865, 37329, 21895, 22856, 25078, 30313, 32645, 34367, 34746, 35064,
  37007, 27138, 27931, 28889, 29662, 33853, 37226, 39409, 20098, 21365, 27396, 29211, 34349,
  40478, 23888, 28651, 34253, 35172, 25289, 33240, 34847, 24266, 26391, 28010, 29436, 37070,
  20358, 20919, 21214, 25796, 27347, 29200, 30439, 32769, 34310, 34396, 36335, 38706, 39791,
  40442, 30860, 31103, 32160, 33737, 37636, 40575, 35542, 22751, 24324, 31840, 32894, 29282,
  30922, 36034, 38647, 22744, 23650, 27155, 28122, 28431, 32047, 32311, 38475, 21202, 32907,
  20956, 20940, 31260, 32190, 33777, 38517, 35712, 25295, 27138, 35582, 20025, 23527, 24594,
  29575, 30064, 21271, 30971, 20415, 24489, 19981, 27852, 25976, 32034, 21443, 22622, 30465,
  33865, 35498, 27578, 36784, 27784, 25342, 33509, 25504, 30053, 20142, 20841, 20937, 26753,
  31975, 33391, 35538, 37327, 21237, 21570, 22899, 24300, 26053, 28670, 31018, 38317, 39530,
  40599, 40654, 21147, 26310, 27511, 36706, 24180, 24976, 25088, 25754, 28451, 29001, 29833,
  31178, 32244, 32879, 36646, 34030, 36899, 37706, 21015, 21155, 21693, 28872, 35010, 35498,
  24265, 24565, 25467, 27566, 31806, 29557, 20196, 22265, 23527, 23994, 24604, 29618, 29801,
  32666, 32838, 37428, 38646, 38728, 38936, 20363, 31150, 37300, 38584, 24801, 20102, 20698,
  23534, 23615, 26009, 27138, 29134, 30274, 34044, 36988, 40845, 26248, 38446, 21129, 26491,
  26611, 27969, 28316, 29705, 30041, 30827, 32016, 39006, 20845, 25134, 38520, 20523, 23833,
  28138, 36650, 24459, 24900, 26647, 29575, 38534, 21033, 21519, 23653, 26131, 26446, 26792,
  27877, 29702, 30178, 32633, 35023, 35041, 37324, 38626, 21311, 28346, 21533, 29136, 29848,
  34298, 38563, 40023, 40607, 26519, 28107, 33256, 31435, 31520, 31890, 29376, 28825, 35672,
  20160, 33590, 21050, 20999, 24230, 25299, 31958, 23429, 27934, 26292, 36667, 34892, 38477,
  35211, 24275, 20800, 21952, 64016, 1, 22618, 64018, 1, 26228, 64021, 10, 20958, 29482, 30410,
  31036, 31070, 31077, 31119, 38742, 31934, 32701, 64032, 1, 34322, 64034, 1, 35576, 64037, 2,
  36920, 37117, 64042, 68, 39151, 39164, 39208, 40372, 37086, 38583, 20398, 20711, 20813, 21193,
  21220, 21329, 21917, 22022, 22120, 22592, 22696, 23652, 23662, 24724, 24936, 24974, 25074,
  25935, 26082, 26257, 26757, 28023, 28186, 28450, 29038, 29227, 29730, 30865, 31038, 31049,
  31048, 31056, 31062, 31069, 31117, 31118, 31296, 31361, 31680, 32244, 32265, 32321, 32626,
  32773, 33261, 33401, 33401, 33879, 35088, 35222, 35585, 35641, 36051, 36104, 36790, 36920,
  38627, 38911, 38971, 24693, 148206, 33304, 64112, 106, 20006, 20917, 20840, 20352, 20805, 20864,
  21191, 21242, 21917, 21845, 21913, 21986, 22618, 22707, 22852, 22868, 23138, 23336, 24274,
  24281, 24425, 24493, 24792, 24910, 24840, 24974, 24928, 25074, 25140, 25540, 25628, 25682,
  25942, 26228, 26391, 26395, 26454, 27513, 27578, 27969, 28379, 28363, 28450, 28702, 29038,
  30631, 29237, 29359, 29482, 29809, 29958, 30011, 30237, 30239, 30410, 30427, 30452, 30538,
  30528, 30924, 31409, 31680, 31867, 32091, 32244, 32574, 32773, 33618, 33775, 34681, 35137,
  35206, 35222, 35519, 35576, 35531, 35585, 35582, 35565, 35641, 35722, 36104, 36664, 36978,
  37273, 37494, 38524, 38627, 38742, 38875, 38911, 38923, 38971, 39698, 40860, 141386, 141380,
  144341, 15261, 16408, 16441, 152137, 154832, 163539, 40771, 40846, 64288, 4, 1506, 1488, 1491,
  1492, 64295, 3, 1512, 1514, 43, 64336, 98, 1649, 1649, 1659, 1659, 1659, 1659, 1662, 1662, 1662,
  1662, 1664, 1664, 1664, 1664, 1658, 1658, 1658, 1658, 1663, 1663, 1663, 1663, 1657, 1657, 1657,
  1657, 1700, 1700, 1700, 1700, 1702, 1702, 1702, 1702, 1668, 1668, 1668, 1668, 1667, 1667, 1667,
  1667, 1670, 1670, 1670, 1670, 1671, 1671, 1671, 1671, 1677, 1677, 1676, 1676, 1678, 1678, 1672,
  1672, 1688, 1688, 1681, 1681, 1705, 1705, 1705, 1705, 1711, 1711, 1711, 1711, 1715, 1715, 1715,
  1715, 1713, 1713, 1713, 1713, 1722, 1722, 1723, 1723, 1723, 1723, 1728, 1728, 1729, 1729, 1729,
  1729, 1726, 1726, 1726, 1726, 1746, 1746, 1747, 1747, 64467, 10, 1709, 1709, 1709, 1709, 1735,
  1735, 1734, 1734, 1736, 1736, 64478, 12, 1739, 1739, 1733, 1733, 1737, 1737, 1744, 1744, 1744,
  1744, 1609, 1609, 64508, 4, 1740, 1740, 1740, 1740, 65040, 9, 44, 12289, 12290, 58, 59, 33, 63,
  12310, 12311, 65073, 16, 8212, 8211, 95, 95, 40, 41, 123, 125, 12308, 12309, 12304, 12305,
  12298, 12299, 12296, 12297, 65095, 2, 91, 93, 65101, 6, 95, 95, 95, 44, 12289, 46, 65108, 19,
  59, 58, 63, 33, 8212, 40, 41, 123, 125, 12308, 12309, 35, 38, 42, 43, 45, 60, 62, 61, 65128, 4,
  92, 36, 37, 64, 65152, 117, 1569, 1570, 1570, 1571, 1571, 1572, 1572, 1573, 1573, 1574, 1574,
  1574, 1574, 1575, 1575, 1576, 1576, 1576, 1576, 1577, 1577, 1578, 1578, 1578, 1578, 1579, 1579,
  1579, 1579, 1580, 1580, 1580, 1580, 1581, 1581, 1581, 1581, 1582, 1582, 1582, 1582, 1583, 1583,
  1584, 1584, 1585, 1585, 1586, 1586, 1587, 1587, 1587, 1587, 1588, 1588, 1588, 1588, 1589, 1589,
  1589, 1589, 1590, 1590, 1590, 1590, 1591, 1591, 1591, 1591, 1592, 1592, 1592, 1592, 1593, 1593,
  1593, 1593, 1594, 1594, 1594, 1594, 1601, 1601, 1601, 1601, 1602, 1602, 1602, 1602, 1603, 1603,
  1603, 1603, 1604, 1604, 1604, 1604, 1605, 1605, 1605, 1605, 1606, 1606, 1606, 1606, 1607, 1607,
  1607, 1607, 1608, 1608, 1609, 1609, 1610, 1610, 1610, 1610, 65375, 38, 10629, 10630, 46, 12300,
  12301, 12289, 12539, 12530, 12449, 12451, 12453, 12455, 12457, 12515, 12517, 12519, 12483,
  12540, 12450, 12452, 12454, 12456, 12458, 12459, 12461, 12463, 12465, 12467, 12469, 12471,
  12473, 12475, 12477, 12479, 12481, 12484, 12486, 12488, 65419, 4, 12498, 12501, 12504, 12507,
  65428, 2, 12516, 12518, 65436, 4, 12527, 12531, 12441, 12442, 65441, 6, 4352, 4353, 4522, 4354,
  4524, 4525, 65456, 1, 4378, 65460, 1, 4385, 65504, 3, 162, 163, 172, 65508, 3, 166, 165, 8361,
  65512, 1, 9474, 65517, 2, 9632, 9675, 66965, 1, 67004, 67457, 5, 720, 721, 230, 665, 595, 67463,
  42, 675, 43878, 677, 676, 598, 599, 7569, 600, 606, 681, 612, 610, 608, 667, 295, 668, 615, 644,
  682, 683, 620, 122628, 42894, 622, 122629, 654, 122630, 248, 630, 631, 113, 634, 122632, 637,
  638, 640, 680, 678, 43879, 679, 648, 11377, 67506, 4, 655, 673, 674, 664, 67513, 2, 122634,
  122654, 119964, 1, 97, 119966, 2, 99, 100, 119970, 1, 103, 119973, 2, 106, 107, 120068, 1, 97,
  120072, 1, 101, 120074, 1, 103, 120120, 1, 97, 120129, 1, 106, 120131, 1, 108, 120484, 2, 305,
  567, 120505, 1, 952, 120513, 1, 8711, 120531, 1, 963, 120539, 7, 8706, 949, 952, 954, 966, 961,
  960, 120563, 1, 952, 120571, 1, 8711, 120589, 1, 963, 120597, 7, 8706, 949, 952, 954, 966, 961,
  960, 120621, 1, 952, 120629, 1, 8711, 120647, 1, 963, 120655, 7, 8706, 949, 952, 954, 966, 961,
  960, 120679, 1, 952, 120687, 1, 8711, 120705, 1, 963, 120713, 7, 8706, 949, 952, 954, 966, 961,
  960, 120737, 1, 952, 120745, 1, 8711, 120763, 1, 963, 120771, 9, 8706, 949, 952, 954, 966, 961,
  960, 989, 989, 126464, 4, 1575, 1576, 1580, 1583, 126469, 5, 1608, 1586, 1581, 1591, 1610,
  126478, 18, 1587, 1593, 1601, 1589, 1602, 1585, 1588, 1578, 1579, 1582, 1584, 1590, 1592, 1594,
  1646, 1722, 1697, 1647, 126497, 2, 1576, 1580, 126500, 1, 1607, 126503, 1, 1581, 126505, 1,
  1610, 126510, 5, 1587, 1593, 1601, 1589, 1602, 126516, 4, 1588, 1578, 1579, 1582, 126521, 1,
  1590, 126523, 1, 1594, 126530, 1, 1580, 126535, 1, 1581, 126537, 1, 1610, 126539, 1, 1604,
  126541, 3, 1606, 1587, 1593, 126545, 2, 1589, 1602, 126548, 1, 1588, 126551, 1, 1582, 126553, 1,
  1590, 126555, 1, 1594, 126557, 1, 1722, 126559, 1, 1647, 126561, 2, 1576, 1580, 126564, 1, 1607,
  126567, 4, 1581, 1591, 1610, 1603, 126572, 7, 1605, 1606, 1587, 1593, 1601, 1589, 1602, 126580,
  4, 1588, 1578, 1579, 1582, 126585, 4, 1590, 1592, 1594, 1646, 126590, 1, 1697, 126592, 10, 1575,
  1576, 1580, 1583, 1607, 1608, 1586, 1581, 1591, 1610, 126606, 14, 1587, 1593, 1601, 1589, 1602,
  1585, 1588, 1578, 1579, 1582, 1584, 1590, 1592, 1594, 126625, 3, 1576, 1580, 1583, 126629, 5,
  1608, 1586, 1581, 1591, 1610, 126638, 14, 1587, 1593, 1601, 1589, 1602, 1585, 1588, 1578, 1579,
  1582, 1584, 1590, 1592, 1594, 127275, 2, 99, 114, 127490, 1, 12469, 127504, 44, 25163, 23383,
  21452, 12487, 20108, 22810, 35299, 22825, 20132, 26144, 28961, 26009, 21069, 24460, 20877,
  26032, 21021, 32066, 29983, 36009, 22768, 21561, 28436, 25237, 25429, 19968, 19977, 36938,
  24038, 20013, 21491, 25351, 36208, 25171, 31105, 31354, 21512, 28288, 26377, 26376, 30003,
  21106, 21942, 37197, 127568, 2, 24471, 21487, 194560, 542, 20029, 20024, 20033, 131362, 20320,
  20398, 20411, 20482, 20602, 20633, 20711, 20687, 13470, 132666, 20813, 20820, 20836, 20855,
  132380, 13497, 20839, 20877, 132427, 20887, 20900, 20172, 20908, 20917, 168415, 20981, 20995,
  13535, 21051, 21062, 21106, 21111, 13589, 21191, 21193, 21220, 21242, 21253, 21254, 21271,
  21321, 21329, 21338, 21363, 21373, 21375, 21375, 21375, 133676, 28784, 21450, 21471, 133987,
  21483, 21489, 21510, 21662, 21560, 21576, 21608, 21666, 21750, 21776, 21843, 21859, 21892,
  21892, 21913, 21931, 21939, 21954, 22294, 22022, 22295, 22097, 22132, 20999, 22766, 22478,
  22516, 22541, 22411, 22578, 22577, 22700, 136420, 22770, 22775, 22790, 22810, 22818, 22882,
  136872, 136938, 23020, 23067, 23079, 23000, 23142, 14062, 14076, 23304, 23358, 23358, 137672,
  23491, 23512, 23527, 23539, 138008, 23551, 23558, 24403, 23586, 14209, 23648, 23662, 23744,
  23693, 138724, 23875, 138726, 23918, 23915, 23932, 24033, 24034, 14383, 24061, 24104, 24125,
  24169, 14434, 139651, 14460, 24240, 24243, 24246, 24266, 172946, 24318, 140081, 140081, 33281,
  24354, 24354, 14535, 144056, 156122, 24418, 24427, 14563, 24474, 24525, 24535, 24569, 24705,
  14650, 14620, 24724, 141012, 24775, 24904, 24908, 24910, 24908, 24954, 24974, 25010, 24996,
  25007, 25054, 25074, 25078, 25104, 25115, 25181, 25265, 25300, 25424, 142092, 25405, 25340,
  25448, 25475, 25572, 142321, 25634, 25541, 25513, 14894, 25705, 25726, 25757, 25719, 14956,
  25935, 25964, 143370, 26083, 26360, 26185, 15129, 26257, 15112, 15076, 20882, 20885, 26368,
  26268, 32941, 17369, 26391, 26395, 26401, 26462, 26451, 144323, 15177, 26618, 26501, 26706,
  26757, 144493, 26766, 26655, 26900, 15261, 26946, 27043, 27114, 27304, 145059, 27355, 15384,
  27425, 145575, 27476, 15438, 27506, 27551, 27578, 27579, 146061, 138507, 146170, 27726, 146620,
  27839, 27853, 27751, 27926, 27966, 28023, 27969, 28009, 28024, 28037, 146718, 27956, 28207,
  28270, 15667, 28363, 28359, 147153, 28153, 28526, 147294, 147342, 28614, 28729, 28702, 28699,
  15766, 28746, 28797, 28791, 28845, 132389, 28997, 148067, 29084, 148395, 29224, 29237, 29264,
  149000, 29312, 29333, 149301, 149524, 29562, 29579, 16044, 29605, 16056, 16056, 29767, 29788,
  29809, 29829, 29898, 16155, 29988, 150582, 30014, 150674, 30064, 139679, 30224, 151457, 151480,
  151620, 16380, 16392, 30452, 151795, 151794, 151833, 151859, 30494, 30495, 30495, 30538, 16441,
  30603, 16454, 16534, 152605, 30798, 30860, 30924, 16611, 153126, 31062, 153242, 153285, 31119,
  31211, 16687, 31296, 31306, 31311, 153980, 154279, 154279, 31470, 16898, 154539, 31686, 31689,
  16935, 154752, 31954, 17056, 31976, 31971, 32000, 155526, 32099, 17153, 32199, 32258, 32325,
  17204, 156200, 156231, 17241, 156377, 32634, 156478, 32661, 32762, 32773, 156890, 156963, 32864,
  157096, 32880, 144223, 17365, 32946, 33027, 17419, 33086, 23221, 157607, 157621, 144275, 144284,
  33281, 33284, 36766, 17515, 33425, 33419, 33437, 21171, 33457, 33459, 33469, 33510, 158524,
  33509, 33565, 33635, 33709, 33571, 33725, 33767, 33879, 33619, 33738, 33740, 33756, 158774,
  159083, 158933, 17707, 34033, 34035, 34070, 160714, 34148, 159532, 17757, 17761, 159665, 159954,
  17771, 34384, 34396, 34407, 34409, 34473, 34440, 34574, 34530, 34681, 34600, 34667, 34694,
  17879, 34785, 34817, 17913, 34912, 34915, 161383, 35031, 35038, 17973, 35066, 13499, 161966,
  162150, 18110, 18119, 35488, 35565, 35722, 35925, 162984, 36011, 36033, 36123, 36215, 163631,
  133124, 36299, 36284, 36336, 133342, 36564, 36664, 165330, 165357, 37012, 37105, 37137, 165678,
  37147, 37432, 37591, 37592, 37500, 37881, 37909, 166906, 38283, 18837, 38327, 167287, 18918,
  38595, 23986, 38691, 168261, 168474, 19054, 19062, 38880, 168970, 19122, 169110, 38923, 38923,
  38953, 169398, 39138, 19251, 39209, 39335, 39362, 39422, 19406, 170800, 39698, 40000, 40189,
  19662, 19693, 40295, 172238, 19704, 172293, 172558, 172689, 40635, 19798, 40697, 40702, 40709,
  40719, 40726, 40763, 173568]

set_option maxRecDepth 20000 in
/-- Codes that stand for several: the code, the number of the others, and the others. -/
def expansions : Array Nat := #[
  188, 3, 49, 8260, 52, 189, 3, 49, 8260, 50, 190, 3, 51, 8260, 52, 304, 2, 105, 775, 306, 2, 105,
  106, 307, 2, 105, 106, 319, 2, 108, 183, 320, 2, 108, 183, 329, 2, 700, 110, 452, 2, 100, 382,
  453, 2, 100, 382, 454, 2, 100, 382, 455, 2, 108, 106, 456, 2, 108, 106, 457, 2, 108, 106, 458,
  2, 110, 106, 459, 2, 110, 106, 460, 2, 110, 106, 497, 2, 100, 122, 498, 2, 100, 122, 499, 2,
  100, 122, 836, 2, 776, 769, 1415, 2, 1381, 1410, 1653, 2, 1575, 1652, 1654, 2, 1608, 1652, 1655,
  2, 1735, 1652, 1656, 2, 1610, 1652, 2392, 2, 2325, 2364, 2393, 2, 2326, 2364, 2394, 2, 2327,
  2364, 2395, 2, 2332, 2364, 2396, 2, 2337, 2364, 2397, 2, 2338, 2364, 2398, 2, 2347, 2364, 2399,
  2, 2351, 2364, 2524, 2, 2465, 2492, 2525, 2, 2466, 2492, 2527, 2, 2479, 2492, 2611, 2, 2610,
  2620, 2614, 2, 2616, 2620, 2649, 2, 2582, 2620, 2650, 2, 2583, 2620, 2651, 2, 2588, 2620, 2654,
  2, 2603, 2620, 2908, 2, 2849, 2876, 2909, 2, 2850, 2876, 3635, 2, 3661, 3634, 3763, 2, 3789,
  3762, 3804, 2, 3755, 3737, 3805, 2, 3755, 3745, 3907, 2, 3906, 4023, 3917, 2, 3916, 4023, 3922,
  2, 3921, 4023, 3927, 2, 3926, 4023, 3932, 2, 3931, 4023, 3945, 2, 3904, 4021, 3955, 2, 3953,
  3954, 3957, 2, 3953, 3956, 3958, 2, 4018, 3968, 3959, 3, 4018, 3953, 3968, 3960, 2, 4019, 3968,
  3961, 3, 4019, 3953, 3968, 3969, 2, 3953, 3968, 3987, 2, 3986, 4023, 3997, 2, 3996, 4023, 4002,
  2, 4001, 4023, 4007, 2, 4006, 4023, 4012, 2, 4011, 4023, 4025, 2, 3984, 4021, 7834, 2, 97, 702,
  8064, 2, 7936, 953, 8065, 2, 7937, 953, 8066, 2, 7938, 953, 8067, 2, 7939, 953, 8068, 2, 7940,
  953, 8069, 2, 7941, 953, 8070, 2, 7942, 953, 8071, 2, 7943, 953, 8072, 2, 7936, 953, 8073, 2,
  7937, 953, 8074, 2, 7938, 953, 8075, 2, 7939, 953, 8076, 2, 7940, 953, 8077, 2, 7941, 953, 8078,
  2, 7942, 953, 8079, 2, 7943, 953, 8080, 2, 7968, 953, 8081, 2, 7969, 953, 8082, 2, 7970, 953,
  8083, 2, 7971, 953, 8084, 2, 7972, 953, 8085, 2, 7973, 953, 8086, 2, 7974, 953, 8087, 2, 7975,
  953, 8088, 2, 7968, 953, 8089, 2, 7969, 953, 8090, 2, 7970, 953, 8091, 2, 7971, 953, 8092, 2,
  7972, 953, 8093, 2, 7973, 953, 8094, 2, 7974, 953, 8095, 2, 7975, 953, 8096, 2, 8032, 953, 8097,
  2, 8033, 953, 8098, 2, 8034, 953, 8099, 2, 8035, 953, 8100, 2, 8036, 953, 8101, 2, 8037, 953,
  8102, 2, 8038, 953, 8103, 2, 8039, 953, 8104, 2, 8032, 953, 8105, 2, 8033, 953, 8106, 2, 8034,
  953, 8107, 2, 8035, 953, 8108, 2, 8036, 953, 8109, 2, 8037, 953, 8110, 2, 8038, 953, 8111, 2,
  8039, 953, 8114, 2, 8048, 953, 8115, 2, 945, 953, 8116, 2, 940, 953, 8119, 2, 8118, 953, 8124,
  2, 945, 953, 8130, 2, 8052, 953, 8131, 2, 951, 953, 8132, 2, 942, 953, 8135, 2, 8134, 953, 8140,
  2, 951, 953, 8178, 2, 8060, 953, 8179, 2, 969, 953, 8180, 2, 974, 953, 8183, 2, 8182, 953, 8188,
  2, 969, 953, 8229, 2, 46, 46, 8230, 3, 46, 46, 46, 8243, 2, 8242, 8242, 8244, 3, 8242, 8242,
  8242, 8246, 2, 8245, 8245, 8247, 3, 8245, 8245, 8245, 8252, 2, 33, 33, 8263, 2, 63, 63, 8264, 2,
  63, 33, 8265, 2, 33, 63, 8279, 4, 8242, 8242, 8242, 8242, 8360, 2, 114, 115, 8448, 3, 97, 47,
  99, 8449, 3, 97, 47, 115, 8451, 2, 176, 99, 8453, 3, 99, 47, 111, 8454, 3, 99, 47, 117, 8457, 2,
  176, 102, 8470, 2, 110, 111, 8480, 2, 115, 109, 8481, 3, 116, 101, 108, 8482, 2, 116, 109, 8507,
  3, 102, 97, 120, 8528, 3, 49, 8260, 55, 8529, 3, 49, 8260, 57, 8530, 4, 49, 8260, 49, 48, 8531,
  3, 49, 8260, 51, 8532, 3, 50, 8260, 51, 8533, 3, 49, 8260, 53, 8534, 3, 50, 8260, 53, 8535, 3,
  51, 8260, 53, 8536, 3, 52, 8260, 53, 8537, 3, 49, 8260, 54, 8538, 3, 53, 8260, 54, 8539, 3, 49,
  8260, 56, 8540, 3, 51, 8260, 56, 8541, 3, 53, 8260, 56, 8542, 3, 55, 8260, 56, 8543, 2, 49,
  8260, 8545, 2, 105, 105, 8546, 3, 105, 105, 105, 8547, 2, 105, 118, 8549, 2, 118, 105, 8550, 3,
  118, 105, 105, 8551, 4, 118, 105, 105, 105, 8552, 2, 105, 120, 8554, 2, 120, 105, 8555, 3, 120,
  105, 105, 8561, 2, 105, 105, 8562, 3, 105, 105, 105, 8563, 2, 105, 118, 8565, 2, 118, 105, 8566,
  3, 118, 105, 105, 8567, 4, 118, 105, 105, 105, 8568, 2, 105, 120, 8570, 2, 120, 105, 8571, 3,
  120, 105, 105, 8585, 3, 48, 8260, 51, 8748, 2, 8747, 8747, 8749, 3, 8747, 8747, 8747, 8751, 2,
  8750, 8750, 8752, 3, 8750, 8750, 8750, 9321, 2, 49, 48, 9322, 2, 49, 49, 9323, 2, 49, 50, 9324,
  2, 49, 51, 9325, 2, 49, 52, 9326, 2, 49, 53, 9327, 2, 49, 54, 9328, 2, 49, 55, 9329, 2, 49, 56,
  9330, 2, 49, 57, 9331, 2, 50, 48, 9332, 3, 40, 49, 41, 9333, 3, 40, 50, 41, 9334, 3, 40, 51, 41,
  9335, 3, 40, 52, 41, 9336, 3, 40, 53, 41, 9337, 3, 40, 54, 41, 9338, 3, 40, 55, 41, 9339, 3, 40,
  56, 41, 9340, 3, 40, 57, 41, 9341, 4, 40, 49, 48, 41, 9342, 4, 40, 49, 49, 41, 9343, 4, 40, 49,
  50, 41, 9344, 4, 40, 49, 51, 41, 9345, 4, 40, 49, 52, 41, 9346, 4, 40, 49, 53, 41, 9347, 4, 40,
  49, 54, 41, 9348, 4, 40, 49, 55, 41, 9349, 4, 40, 49, 56, 41, 9350, 4, 40, 49, 57, 41, 9351, 4,
  40, 50, 48, 41, 9352, 2, 49, 46, 9353, 2, 50, 46, 9354, 2, 51, 46, 9355, 2, 52, 46, 9356, 2, 53,
  46, 9357, 2, 54, 46, 9358, 2, 55, 46, 9359, 2, 56, 46, 9360, 2, 57, 46, 9361, 3, 49, 48, 46,
  9362, 3, 49, 49, 46, 9363, 3, 49, 50, 46, 9364, 3, 49, 51, 46, 9365, 3, 49, 52, 46, 9366, 3, 49,
  53, 46, 9367, 3, 49, 54, 46, 9368, 3, 49, 55, 46, 9369, 3, 49, 56, 46, 9370, 3, 49, 57, 46,
  9371, 3, 50, 48, 46, 9372, 3, 40, 97, 41, 9373, 3, 40, 98, 41, 9374, 3, 40, 99, 41, 9375, 3, 40,
  100, 41, 9376, 3, 40, 101, 41, 9377, 3, 40, 102, 41, 9378, 3, 40, 103, 41, 9379, 3, 40, 104, 41,
  9380, 3, 40, 105, 41, 9381, 3, 40, 106, 41, 9382, 3, 40, 107, 41, 9383, 3, 40, 108, 41, 9384, 3,
  40, 109, 41, 9385, 3, 40, 110, 41, 9386, 3, 40, 111, 41, 9387, 3, 40, 112, 41, 9388, 3, 40, 113,
  41, 9389, 3, 40, 114, 41, 9390, 3, 40, 115, 41, 9391, 3, 40, 116, 41, 9392, 3, 40, 117, 41,
  9393, 3, 40, 118, 41, 9394, 3, 40, 119, 41, 9395, 3, 40, 120, 41, 9396, 3, 40, 121, 41, 9397, 3,
  40, 122, 41, 10764, 4, 8747, 8747, 8747, 8747, 10868, 3, 58, 58, 61, 10869, 2, 61, 61, 10870, 3,
  61, 61, 61, 10972, 2, 10973, 824, 12447, 2, 12424, 12426, 12543, 2, 12467, 12488, 12800, 3, 40,
  4352, 41, 12801, 3, 40, 4354, 41, 12802, 3, 40, 4355, 41, 12803, 3, 40, 4357, 41, 12804, 3, 40,
  4358, 41, 12805, 3, 40, 4359, 41, 12806, 3, 40, 4361, 41, 12807, 3, 40, 4363, 41, 12808, 3, 40,
  4364, 41, 12809, 3, 40, 4366, 41, 12810, 3, 40, 4367, 41, 12811, 3, 40, 4368, 41, 12812, 3, 40,
  4369, 41, 12813, 3, 40, 4370, 41, 12814, 3, 40, 44032, 41, 12815, 3, 40, 45208, 41, 12816, 3,
  40, 45796, 41, 12817, 3, 40, 46972, 41, 12818, 3, 40, 47560, 41, 12819, 3, 40, 48148, 41, 12820,
  3, 40, 49324, 41, 12821, 3, 40, 50500, 41, 12822, 3, 40, 51088, 41, 12823, 3, 40, 52264, 41,
  12824, 3, 40, 52852, 41, 12825, 3, 40, 53440, 41, 12826, 3, 40, 54028, 41, 12827, 3, 40, 54616,
  41, 12828, 3, 40, 51452, 41, 12829, 4, 40, 50724, 51204, 41, 12830, 4, 40, 50724, 54980, 41,
  12832, 3, 40, 19968, 41, 12833, 3, 40, 20108, 41, 12834, 3, 40, 19977, 41, 12835, 3, 40, 22235,
  41, 12836, 3, 40, 20116, 41, 12837, 3, 40, 20845, 41, 12838, 3, 40, 19971, 41, 12839, 3, 40,
  20843, 41, 12840, 3, 40, 20061, 41, 12841, 3, 40, 21313, 41, 12842, 3, 40, 26376, 41, 12843, 3,
  40, 28779, 41, 12844, 3, 40, 27700, 41, 12845, 3, 40, 26408, 41, 12846, 3, 40, 37329, 41, 12847,
  3, 40, 22303, 41, 12848, 3, 40, 26085, 41, 12849, 3, 40, 26666, 41, 12850, 3, 40, 26377, 41,
  12851, 3, 40, 31038, 41, 12852, 3, 40, 21517, 41, 12853, 3, 40, 29305, 41, 12854, 3, 40, 36001,
  41, 12855, 3, 40, 31069, 41, 12856, 3, 40, 21172, 41, 12857, 3, 40, 20195, 41, 12858, 3, 40,
  21628, 41, 12859, 3, 40, 23398, 41, 12860, 3, 40, 30435, 41, 12861, 3, 40, 20225, 41, 12862, 3,
  40, 36039, 41, 12863, 3, 40, 21332, 41, 12864, 3, 40, 31085, 41, 12865, 3, 40, 20241, 41, 12866,
  3, 40, 33258, 41, 12867, 3, 40, 33267, 41, 12880, 3, 112, 116, 101, 12881, 2, 50, 49, 12882, 2,
  50, 50, 12883, 2, 50, 51, 12884, 2, 50, 52, 12885, 2, 50, 53, 12886, 2, 50, 54, 12887, 2, 50,
  55, 12888, 2, 50, 56, 12889, 2, 50, 57, 12890, 2, 51, 48, 12891, 2, 51, 49, 12892, 2, 51, 50,
  12893, 2, 51, 51, 12894, 2, 51, 52, 12895, 2, 51, 53, 12924, 2, 52280, 44256, 12925, 2, 51452,
  51032, 12977, 2, 51, 54, 12978, 2, 51, 55, 12979, 2, 51, 56, 12980, 2, 51, 57, 12981, 2, 52, 48,
  12982, 2, 52, 49, 12983, 2, 52, 50, 12984, 2, 52, 51, 12985, 2, 52, 52, 12986, 2, 52, 53, 12987,
  2, 52, 54, 12988, 2, 52, 55, 12989, 2, 52, 56, 12990, 2, 52, 57, 12991, 2, 53, 48, 12992, 2, 49,
  26376, 12993, 2, 50, 26376, 12994, 2, 51, 26376, 12995, 2, 52, 26376, 12996, 2, 53, 26376,
  12997, 2, 54, 26376, 12998, 2, 55, 26376, 12999, 2, 56, 26376, 13000, 2, 57, 26376, 13001, 3,
  49, 48, 26376, 13002, 3, 49, 49, 26376, 13003, 3, 49, 50, 26376, 13004, 2, 104, 103, 13005, 3,
  101, 114, 103, 13006, 2, 101, 118, 13007, 3, 108, 116, 100, 13055, 2, 20196, 21644, 13056, 4,
  12450, 12497, 12540, 12488, 13057, 4, 12450, 12523, 12501, 12449, 13058, 4, 12450, 12531, 12506,
  12450, 13059, 3, 12450, 12540, 12523, 13060, 4, 12452, 12491, 12531, 12464, 13061, 3, 12452,
  12531, 12481, 13062, 3, 12454, 12457, 12531, 13063, 5, 12456, 12473, 12463, 12540, 12489, 13064,
  4, 12456, 12540, 12459, 12540, 13065, 3, 12458, 12531, 12473, 13066, 3, 12458, 12540, 12512,
  13067, 3, 12459, 12452, 12522, 13068, 4, 12459, 12521, 12483, 12488, 13069, 4, 12459, 12525,
  12522, 12540, 13070, 3, 12460, 12525, 12531, 13071, 3, 12460, 12531, 12510, 13072, 2, 12462,
  12460, 13073, 3, 12462, 12491, 12540, 13074, 4, 12461, 12517, 12522, 12540, 13075, 4, 12462,
  12523, 12480, 12540, 13076, 2, 12461, 12525, 13077, 5, 12461, 12525, 12464, 12521, 12512, 13078,
  6, 12461, 12525, 12513, 12540, 12488, 12523, 13079, 5, 12461, 12525, 12527, 12483, 12488, 13080,
  3, 12464, 12521, 12512, 13081, 5, 12464, 12521, 12512, 12488, 12531, 13082, 5, 12463, 12523,
  12476, 12452, 12525, 13083, 4, 12463, 12525, 12540, 12493, 13084, 3, 12465, 12540, 12473, 13085,
  3, 12467, 12523, 12490, 13086, 3, 12467, 12540, 12509, 13087, 4, 12469, 12452, 12463, 12523,
  13088, 5, 12469, 12531, 12481, 12540, 12512, 13089, 4, 12471, 12522, 12531, 12464, 13090, 3,
  12475, 12531, 12481, 13091, 3, 12475, 12531, 12488, 13092, 3, 12480, 12540, 12473, 13093, 2,
  12487, 12471, 13094, 2, 12489, 12523, 13095, 2, 12488, 12531, 13096, 2, 12490, 12494, 13097, 3,
  12494, 12483, 12488, 13098, 3, 12495, 12452, 12484, 13099, 5, 12497, 12540, 12475, 12531, 12488,
  13100, 3, 12497, 12540, 12484, 13101, 4, 12496, 12540, 12524, 12523, 13102, 5, 12500, 12450,
  12473, 12488, 12523, 13103, 3, 12500, 12463, 12523, 13104, 2, 12500, 12467, 13105, 2, 12499,
  12523, 13106, 5, 12501, 12449, 12521, 12483, 12489, 13107, 4, 12501, 12451, 12540, 12488, 13108,
  5, 12502, 12483, 12471, 12455, 12523, 13109, 3, 12501, 12521, 12531, 13110, 5, 12504, 12463,
  12479, 12540, 12523, 13111, 2, 12506, 12477, 13112, 3, 12506, 12491, 12498, 13113, 3, 12504,
  12523, 12484, 13114, 3, 12506, 12531, 12473, 13115, 3, 12506, 12540, 12472, 13116, 3, 12505,
  12540, 12479, 13117, 4, 12509, 12452, 12531, 12488, 13118, 3, 12508, 12523, 12488, 13119, 2,
  12507, 12531, 13120, 3, 12509, 12531, 12489, 13121, 3, 12507, 12540, 12523, 13122, 3, 12507,
  12540, 12531, 13123, 4, 12510, 12452, 12463, 12525, 13124, 3, 12510, 12452, 12523, 13125, 3,
  12510, 12483, 12495, 13126, 3, 12510, 12523, 12463, 13127, 5, 12510, 12531, 12471, 12519, 12531,
  13128, 4, 12511, 12463, 12525, 12531, 13129, 2, 12511, 12522, 13130, 5, 12511, 12522, 12496,
  12540, 12523, 13131, 2, 12513, 12460, 13132, 4, 12513, 12460, 12488, 12531, 13133, 4, 12513,
  12540, 12488, 12523, 13134, 3, 12516, 12540, 12489, 13135, 3, 12516, 12540, 12523, 13136, 3,
  12518, 12450, 12531, 13137, 4, 12522, 12483, 12488, 12523, 13138, 2, 12522, 12521, 13139, 3,
  12523, 12500, 12540, 13140, 4, 12523, 12540, 12502, 12523, 13141, 2, 12524, 12512, 13142, 5,
  12524, 12531, 12488, 12466, 12531, 13143, 3, 12527, 12483, 12488, 13144, 2, 48, 28857, 13145, 2,
  49, 28857, 13146, 2, 50, 28857, 13147, 2, 51, 28857, 13148, 2, 52, 28857, 13149, 2, 53, 28857,
  13150, 2, 54, 28857, 13151, 2, 55, 28857, 13152, 2, 56, 28857, 13153, 2, 57, 28857, 13154, 3,
  49, 48, 28857, 13155, 3, 49, 49, 28857, 13156, 3, 49, 50, 28857, 13157, 3, 49, 51, 28857, 13158,
  3, 49, 52, 28857, 13159, 3, 49, 53, 28857, 13160, 3, 49, 54, 28857, 13161, 3, 49, 55, 28857,
  13162, 3, 49, 56, 28857, 13163, 3, 49, 57, 28857, 13164, 3, 50, 48, 28857, 13165, 3, 50, 49,
  28857, 13166, 3, 50, 50, 28857, 13167, 3, 50, 51, 28857, 13168, 3, 50, 52, 28857, 13169, 3, 104,
  112, 97, 13170, 2, 100, 97, 13171, 2, 97, 117, 13172, 3, 98, 97, 114, 13173, 2, 111, 118, 13174,
  2, 112, 99, 13175, 2, 100, 109, 13176, 3, 100, 109, 50, 13177, 3, 100, 109, 51, 13178, 2, 105,
  117, 13179, 2, 24179, 25104, 13180, 2, 26157, 21644, 13181, 2, 22823, 27491, 13182, 2, 26126,
  27835, 13183, 4, 26666, 24335, 20250, 31038, 13184, 2, 112, 97, 13185, 2, 110, 97, 13186, 2,
  956, 97, 13187, 2, 109, 97, 13188, 2, 107, 97, 13189, 2, 107, 98, 13190, 2, 109, 98, 13191, 2,
  103, 98, 13192, 3, 99, 97, 108, 13193, 4, 107, 99, 97, 108, 13194, 2, 112, 102, 13195, 2, 110,
  102, 13196, 2, 956, 102, 13197, 2, 956, 103, 13198, 2, 109, 103, 13199, 2, 107, 103, 13200, 2,
  104, 122, 13201, 3, 107, 104, 122, 13202, 3, 109, 104, 122, 13203, 3, 103, 104, 122, 13204, 3,
  116, 104, 122, 13205, 2, 956, 108, 13206, 2, 109, 108, 13207, 2, 100, 108, 13208, 2, 107, 108,
  13209, 2, 102, 109, 13210, 2, 110, 109, 13211, 2, 956, 109, 13212, 2, 109, 109, 13213, 2, 99,
  109, 13214, 2, 107, 109, 13215, 3, 109, 109, 50, 13216, 3, 99, 109, 50, 13217, 2, 109, 50,
  13218, 3, 107, 109, 50, 13219, 3, 109, 109, 51, 13220, 3, 99, 109, 51, 13221, 2, 109, 51, 13222,
  3, 107, 109, 51, 13223, 3, 109, 8725, 115, 13224, 4, 109, 8725, 115, 50, 13225, 2, 112, 97,
  13226, 3, 107, 112, 97, 13227, 3, 109, 112, 97, 13228, 3, 103, 112, 97, 13229, 3, 114, 97, 100,
  13230, 5, 114, 97, 100, 8725, 115, 13231, 6, 114, 97, 100, 8725, 115, 50, 13232, 2, 112, 115,
  13233, 2, 110, 115, 13234, 2, 956, 115, 13235, 2, 109, 115, 13236, 2, 112, 118, 13237, 2, 110,
  118, 13238, 2, 956, 118, 13239, 2, 109, 118, 13240, 2, 107, 118, 13241, 2, 109, 118, 13242, 2,
  112, 119, 13243, 2, 110, 119, 13244, 2, 956, 119, 13245, 2, 109, 119, 13246, 2, 107, 119, 13247,
  2, 109, 119, 13248, 2, 107, 969, 13249, 2, 109, 969, 13250, 4, 97, 46, 109, 46, 13251, 2, 98,
  113, 13252, 2, 99, 99, 13253, 2, 99, 100, 13254, 4, 99, 8725, 107, 103, 13255, 3, 99, 111, 46,
  13256, 2, 100, 98, 13257, 2, 103, 121, 13258, 2, 104, 97, 13259, 2, 104, 112, 13260, 2, 105,
  110, 13261, 2, 107, 107, 13262, 2, 107, 109, 13263, 2, 107, 116, 13264, 2, 108, 109, 13265, 2,
  108, 110, 13266, 3, 108, 111, 103, 13267, 2, 108, 120, 13268, 2, 109, 98, 13269, 3, 109, 105,
  108, 13270, 3, 109, 111, 108, 13271, 2, 112, 104, 13272, 4, 112, 46, 109, 46, 13273, 3, 112,
  112, 109, 13274, 2, 112, 114, 13275, 2, 115, 114, 13276, 2, 115, 118, 13277, 2, 119, 98, 13278,
  3, 118, 8725, 109, 13279, 3, 97, 8725, 109, 13280, 2, 49, 26085, 13281, 2, 50, 26085, 13282, 2,
  51, 26085, 13283, 2, 52, 26085, 13284, 2, 53, 26085, 13285, 2, 54, 26085, 13286, 2, 55, 26085,
  13287, 2, 56, 26085, 13288, 2, 57, 26085, 13289, 3, 49, 48, 26085, 13290, 3, 49, 49, 26085,
  13291, 3, 49, 50, 26085, 13292, 3, 49, 51, 26085, 13293, 3, 49, 52, 26085, 13294, 3, 49, 53,
  26085, 13295, 3, 49, 54, 26085, 13296, 3, 49, 55, 26085, 13297, 3, 49, 56, 26085, 13298, 3, 49,
  57, 26085, 13299, 3, 50, 48, 26085, 13300, 3, 50, 49, 26085, 13301, 3, 50, 50, 26085, 13302, 3,
  50, 51, 26085, 13303, 3, 50, 52, 26085, 13304, 3, 50, 53, 26085, 13305, 3, 50, 54, 26085, 13306,
  3, 50, 55, 26085, 13307, 3, 50, 56, 26085, 13308, 3, 50, 57, 26085, 13309, 3, 51, 48, 26085,
  13310, 3, 51, 49, 26085, 13311, 3, 103, 97, 108, 64256, 2, 102, 102, 64257, 2, 102, 105, 64258,
  2, 102, 108, 64259, 3, 102, 102, 105, 64260, 3, 102, 102, 108, 64261, 2, 115, 116, 64262, 2,
  115, 116, 64275, 2, 1396, 1398, 64276, 2, 1396, 1381, 64277, 2, 1396, 1387, 64278, 2, 1406,
  1398, 64279, 2, 1396, 1389, 64285, 2, 1497, 1460, 64287, 2, 1522, 1463, 64298, 2, 1513, 1473,
  64299, 2, 1513, 1474, 64300, 3, 1513, 1468, 1473, 64301, 3, 1513, 1468, 1474, 64302, 2, 1488,
  1463, 64303, 2, 1488, 1464, 64304, 2, 1488, 1468, 64305, 2, 1489, 1468, 64306, 2, 1490, 1468,
  64307, 2, 1491, 1468, 64308, 2, 1492, 1468, 64309, 2, 1493, 1468, 64310, 2, 1494, 1468, 64312,
  2, 1496, 1468, 64313, 2, 1497, 1468, 64314, 2, 1498, 1468, 64315, 2, 1499, 1468, 64316, 2, 1500,
  1468, 64318, 2, 1502, 1468, 64320, 2, 1504, 1468, 64321, 2, 1505, 1468, 64323, 2, 1507, 1468,
  64324, 2, 1508, 1468, 64326, 2, 1510, 1468, 64327, 2, 1511, 1468, 64328, 2, 1512, 1468, 64329,
  2, 1513, 1468, 64330, 2, 1514, 1468, 64331, 2, 1493, 1465, 64332, 2, 1489, 1471, 64333, 2, 1499,
  1471, 64334, 2, 1508, 1471, 64335, 2, 1488, 1500, 64477, 2, 1735, 1652, 64490, 2, 1574, 1575,
  64491, 2, 1574, 1575, 64492, 2, 1574, 1749, 64493, 2, 1574, 1749, 64494, 2, 1574, 1608, 64495,
  2, 1574, 1608, 64496, 2, 1574, 1735, 64497, 2, 1574, 1735, 64498, 2, 1574, 1734, 64499, 2, 1574,
  1734, 64500, 2, 1574, 1736, 64501, 2, 1574, 1736, 64502, 2, 1574, 1744, 64503, 2, 1574, 1744,
  64504, 2, 1574, 1744, 64505, 2, 1574, 1609, 64506, 2, 1574, 1609, 64507, 2, 1574, 1609, 64512,
  2, 1574, 1580, 64513, 2, 1574, 1581, 64514, 2, 1574, 1605, 64515, 2, 1574, 1609, 64516, 2, 1574,
  1610, 64517, 2, 1576, 1580, 64518, 2, 1576, 1581, 64519, 2, 1576, 1582, 64520, 2, 1576, 1605,
  64521, 2, 1576, 1609, 64522, 2, 1576, 1610, 64523, 2, 1578, 1580, 64524, 2, 1578, 1581, 64525,
  2, 1578, 1582, 64526, 2, 1578, 1605, 64527, 2, 1578, 1609, 64528, 2, 1578, 1610, 64529, 2, 1579,
  1580, 64530, 2, 1579, 1605, 64531, 2, 1579, 1609, 64532, 2, 1579, 1610, 64533, 2, 1580, 1581,
  64534, 2, 1580, 1605, 64535, 2, 1581, 1580, 64536, 2, 1581, 1605, 64537, 2, 1582, 1580, 64538,
  2, 1582, 1581, 64539, 2, 1582, 1605, 64540, 2, 1587, 1580, 64541, 2, 1587, 1581, 64542, 2, 1587,
  1582, 64543, 2, 1587, 1605, 64544, 2, 1589, 1581, 64545, 2, 1589, 1605, 64546, 2, 1590, 1580,
  64547, 2, 1590, 1581, 64548, 2, 1590, 1582, 64549, 2, 1590, 1605, 64550, 2, 1591, 1581, 64551,
  2, 1591, 1605, 64552, 2, 1592, 1605, 64553, 2, 1593, 1580, 64554, 2, 1593, 1605, 64555, 2, 1594,
  1580, 64556, 2, 1594, 1605, 64557, 2, 1601, 1580, 64558, 2, 1601, 1581, 64559, 2, 1601, 1582,
  64560, 2, 1601, 1605, 64561, 2, 1601, 1609, 64562, 2, 1601, 1610, 64563, 2, 1602, 1581, 64564,
  2, 1602, 1605, 64565, 2, 1602, 1609, 64566, 2, 1602, 1610, 64567, 2, 1603, 1575, 64568, 2, 1603,
  1580, 64569, 2, 1603, 1581, 64570, 2, 1603, 1582, 64571, 2, 1603, 1604, 64572, 2, 1603, 1605,
  64573, 2, 1603, 1609, 64574, 2, 1603, 1610, 64575, 2, 1604, 1580, 64576, 2, 1604, 1581, 64577,
  2, 1604, 1582, 64578, 2, 1604, 1605, 64579, 2, 1604, 1609, 64580, 2, 1604, 1610, 64581, 2, 1605,
  1580, 64582, 2, 1605, 1581, 64583, 2, 1605, 1582, 64584, 2, 1605, 1605, 64585, 2, 1605, 1609,
  64586, 2, 1605, 1610, 64587, 2, 1606, 1580, 64588, 2, 1606, 1581, 64589, 2, 1606, 1582, 64590,
  2, 1606, 1605, 64591, 2, 1606, 1609, 64592, 2, 1606, 1610, 64593, 2, 1607, 1580, 64594, 2, 1607,
  1605, 64595, 2, 1607, 1609, 64596, 2, 1607, 1610, 64597, 2, 1610, 1580, 64598, 2, 1610, 1581,
  64599, 2, 1610, 1582, 64600, 2, 1610, 1605, 64601, 2, 1610, 1609, 64602, 2, 1610, 1610, 64603,
  2, 1584, 1648, 64604, 2, 1585, 1648, 64605, 2, 1609, 1648, 64612, 2, 1574, 1585, 64613, 2, 1574,
  1586, 64614, 2, 1574, 1605, 64615, 2, 1574, 1606, 64616, 2, 1574, 1609, 64617, 2, 1574, 1610,
  64618, 2, 1576, 1585, 64619, 2, 1576, 1586, 64620, 2, 1576, 1605, 64621, 2, 1576, 1606, 64622,
  2, 1576, 1609, 64623, 2, 1576, 1610, 64624, 2, 1578, 1585, 64625, 2, 1578, 1586, 64626, 2, 1578,
  1605, 64627, 2, 1578, 1606, 64628, 2, 1578, 1609, 64629, 2, 1578, 1610, 64630, 2, 1579, 1585,
  64631, 2, 1579, 1586, 64632, 2, 1579, 1605, 64633, 2, 1579, 1606, 64634, 2, 1579, 1609, 64635,
  2, 1579, 1610, 64636, 2, 1601, 1609, 64637, 2, 1601, 1610, 64638, 2, 1602, 1609, 64639, 2, 1602,
  1610, 64640, 2, 1603, 1575, 64641, 2, 1603, 1604, 64642, 2, 1603, 1605, 64643, 2, 1603, 1609,
  64644, 2, 1603, 1610, 64645, 2, 1604, 1605, 64646, 2, 1604, 1609, 64647, 2, 1604, 1610, 64648,
  2, 1605, 1575, 64649, 2, 1605, 1605, 64650, 2, 1606, 1585, 64651, 2, 1606, 1586, 64652, 2, 1606,
  1605, 64653, 2, 1606, 1606, 64654, 2, 1606, 1609, 64655, 2, 1606, 1610, 64656, 2, 1609, 1648,
  64657, 2, 1610, 1585, 64658, 2, 1610, 1586, 64659, 2, 1610, 1605, 64660, 2, 1610, 1606, 64661,
  2, 1610, 1609, 64662, 2, 1610, 1610, 64663, 2, 1574, 1580, 64664, 2, 1574, 1581, 64665, 2, 1574,
  1582, 64666, 2, 1574, 1605, 64667, 2, 1574, 1607, 64668, 2, 1576, 1580, 64669, 2, 1576, 1581,
  64670, 2, 1576, 1582, 64671, 2, 1576, 1605, 64672, 2, 1576, 1607, 64673, 2, 1578, 1580, 64674,
  2, 1578, 1581, 64675, 2, 1578, 1582, 64676, 2, 1578, 1605, 64677, 2, 1578, 1607, 64678, 2, 1579,
  1605, 64679, 2, 1580, 1581, 64680, 2, 1580, 1605, 64681, 2, 1581, 1580, 64682, 2, 1581, 1605,
  64683, 2, 1582, 1580, 64684, 2, 1582, 1605, 64685, 2, 1587, 1580, 64686, 2, 1587, 1581, 64687,
  2, 1587, 1582, 64688, 2, 1587, 1605, 64689, 2, 1589, 1581, 64690, 2, 1589, 1582, 64691, 2, 1589,
  1605, 64692, 2, 1590, 1580, 64693, 2, 1590, 1581, 64694, 2, 1590, 1582, 64695, 2, 1590, 1605,
  64696, 2, 1591, 1581, 64697, 2, 1592, 1605, 64698, 2, 1593, 1580, 64699, 2, 1593, 1605, 64700,
  2, 1594, 1580, 64701, 2, 1594, 1605, 64702, 2, 1601, 1580, 64703, 2, 1601, 1581, 64704, 2, 1601,
  1582, 64705, 2, 1601, 1605, 64706, 2, 1602, 1581, 64707, 2, 1602, 1605, 64708, 2, 1603, 1580,
  64709, 2, 1603, 1581, 64710, 2, 1603, 1582, 64711, 2, 1603, 1604, 64712, 2, 1603, 1605, 64713,
  2, 1604, 1580, 64714, 2, 1604, 1581, 64715, 2, 1604, 1582, 64716, 2, 1604, 1605, 64717, 2, 1604,
  1607, 64718, 2, 1605, 1580, 64719, 2, 1605, 1581, 64720, 2, 1605, 1582, 64721, 2, 1605, 1605,
  64722, 2, 1606, 1580, 64723, 2, 1606, 1581, 64724, 2, 1606, 1582, 64725, 2, 1606, 1605, 64726,
  2, 1606, 1607, 64727, 2, 1607, 1580, 64728, 2, 1607, 1605, 64729, 2, 1607, 1648, 64730, 2, 1610,
  1580, 64731, 2, 1610, 1581, 64732, 2, 1610, 1582, 64733, 2, 1610, 1605, 64734, 2, 1610, 1607,
  64735, 2, 1574, 1605, 64736, 2, 1574, 1607, 64737, 2, 1576, 1605, 64738, 2, 1576, 1607, 64739,
  2, 1578, 1605, 64740, 2, 1578, 1607, 64741, 2, 1579, 1605, 64742, 2, 1579, 1607, 64743, 2, 1587,
  1605, 64744, 2, 1587, 1607, 64745, 2, 1588, 1605, 64746, 2, 1588, 1607, 64747, 2, 1603, 1604,
  64748, 2, 1603, 1605, 64749, 2, 1604, 1605, 64750, 2, 1606, 1605, 64751, 2, 1606, 1607, 64752,
  2, 1610, 1605, 64753, 2, 1610, 1607, 64754, 3, 1600, 1614, 1617, 64755, 3, 1600, 1615, 1617,
  64756, 3, 1600, 1616, 1617, 64757, 2, 1591, 1609, 64758, 2, 1591, 1610, 64759, 2, 1593, 1609,
  64760, 2, 1593, 1610, 64761, 2, 1594, 1609, 64762, 2, 1594, 1610, 64763, 2, 1587, 1609, 64764,
  2, 1587, 1610, 64765, 2, 1588, 1609, 64766, 2, 1588, 1610, 64767, 2, 1581, 1609, 64768, 2, 1581,
  1610, 64769, 2, 1580, 1609, 64770, 2, 1580, 1610, 64771, 2, 1582, 1609, 64772, 2, 1582, 1610,
  64773, 2, 1589, 1609, 64774, 2, 1589, 1610, 64775, 2, 1590, 1609, 64776, 2, 1590, 1610, 64777,
  2, 1588, 1580, 64778, 2, 1588, 1581, 64779, 2, 1588, 1582, 64780, 2, 1588, 1605, 64781, 2, 1588,
  1585, 64782, 2, 1587, 1585, 64783, 2, 1589, 1585, 64784, 2, 1590, 1585, 64785, 2, 1591, 1609,
  64786, 2, 1591, 1610, 64787, 2, 1593, 1609, 64788, 2, 1593, 1610, 64789, 2, 1594, 1609, 64790,
  2, 1594, 1610, 64791, 2, 1587, 1609, 64792, 2, 1587, 1610, 64793, 2, 1588, 1609, 64794, 2, 1588,
  1610, 64795, 2, 1581, 1609, 64796, 2, 1581, 1610, 64797, 2, 1580, 1609, 64798, 2, 1580, 1610,
  64799, 2, 1582, 1609, 64800, 2, 1582, 1610, 64801, 2, 1589, 1609, 64802, 2, 1589, 1610, 64803,
  2, 1590, 1609, 64804, 2, 1590, 1610, 64805, 2, 1588, 1580, 64806, 2, 1588, 1581, 64807, 2, 1588,
  1582, 64808, 2, 1588, 1605, 64809, 2, 1588, 1585, 64810, 2, 1587, 1585, 64811, 2, 1589, 1585,
  64812, 2, 1590, 1585, 64813, 2, 1588, 1580, 64814, 2, 1588, 1581, 64815, 2, 1588, 1582, 64816,
  2, 1588, 1605, 64817, 2, 1587, 1607, 64818, 2, 1588, 1607, 64819, 2, 1591, 1605, 64820, 2, 1587,
  1580, 64821, 2, 1587, 1581, 64822, 2, 1587, 1582, 64823, 2, 1588, 1580, 64824, 2, 1588, 1581,
  64825, 2, 1588, 1582, 64826, 2, 1591, 1605, 64827, 2, 1592, 1605, 64828, 2, 1575, 1611, 64829,
  2, 1575, 1611, 64848, 3, 1578, 1580, 1605, 64849, 3, 1578, 1581, 1580, 64850, 3, 1578, 1581,
  1580, 64851, 3, 1578, 1581, 1605, 64852, 3, 1578, 1582, 1605, 64853, 3, 1578, 1605, 1580, 64854,
  3, 1578, 1605, 1581, 64855, 3, 1578, 1605, 1582, 64856, 3, 1580, 1605, 1581, 64857, 3, 1580,
  1605, 1581, 64858, 3, 1581, 1605, 1610, 64859, 3, 1581, 1605, 1609, 64860, 3, 1587, 1581, 1580,
  64861, 3, 1587, 1580, 1581, 64862, 3, 1587, 1580, 1609, 64863, 3, 1587, 1605, 1581, 64864, 3,
  1587, 1605, 1581, 64865, 3, 1587, 1605, 1580, 64866, 3, 1587, 1605, 1605, 64867, 3, 1587, 1605,
  1605, 64868, 3, 1589, 1581, 1581, 64869, 3, 1589, 1581, 1581, 64870, 3, 1589, 1605, 1605, 64871,
  3, 1588, 1581, 1605, 64872, 3, 1588, 1581, 1605, 64873, 3, 1588, 1580, 1610, 64874, 3, 1588,
  1605, 1582, 64875, 3, 1588, 1605, 1582, 64876, 3, 1588, 1605, 1605, 64877, 3, 1588, 1605, 1605,
  64878, 3, 1590, 1581, 1609, 64879, 3, 1590, 1582, 1605, 64880, 3, 1590, 1582, 1605, 64881, 3,
  1591, 1605, 1581, 64882, 3, 1591, 1605, 1581, 64883, 3, 1591, 1605, 1605, 64884, 3, 1591, 1605,
  1610, 64885, 3, 1593, 1580, 1605, 64886, 3, 1593, 1605, 1605, 64887, 3, 1593, 1605, 1605, 64888,
  3, 1593, 1605, 1609, 64889, 3, 1594, 1605, 1605, 64890, 3, 1594, 1605, 1610, 64891, 3, 1594,
  1605, 1609, 64892, 3, 1601, 1582, 1605, 64893, 3, 1601, 1582, 1605, 64894, 3, 1602, 1605, 1581,
  64895, 3, 1602, 1605, 1605, 64896, 3, 1604, 1581, 1605, 64897, 3, 1604, 1581, 1610, 64898, 3,
  1604, 1581, 1609, 64899, 3, 1604, 1580, 1580, 64900, 3, 1604, 1580, 1580, 64901, 3, 1604, 1582,
  1605, 64902, 3, 1604, 1582, 1605, 64903, 3, 1604, 1605, 1581, 64904, 3, 1604, 1605, 1581, 64905,
  3, 1605, 1581, 1580, 64906, 3, 1605, 1581, 1605, 64907, 3, 1605, 1581, 1610, 64908, 3, 1605,
  1580, 1581, 64909, 3, 1605, 1580, 1605, 64910, 3, 1605, 1582, 1580, 64911, 3, 1605, 1582, 1605,
  64914, 3, 1605, 1580, 1582, 64915, 3, 1607, 1605, 1580, 64916, 3, 1607, 1605, 1605, 64917, 3,
  1606, 1581, 1605, 64918, 3, 1606, 1581, 1609, 64919, 3, 1606, 1580, 1605, 64920, 3, 1606, 1580,
  1605, 64921, 3, 1606, 1580, 1609, 64922, 3, 1606, 1605, 1610, 64923, 3, 1606, 1605, 1609, 64924,
  3, 1610, 1605, 1605, 64925, 3, 1610, 1605, 1605, 64926, 3, 1576, 1582, 1610, 64927, 3, 1578,
  1580, 1610, 64928, 3, 1578, 1580, 1609, 64929, 3, 1578, 1582, 1610, 64930, 3, 1578, 1582, 1609,
  64931, 3, 1578, 1605, 1610, 64932, 3, 1578, 1605, 1609, 64933, 3, 1580, 1605, 1610, 64934, 3,
  1580, 1581, 1609, 64935, 3, 1580, 1605, 1609, 64936, 3, 1587, 1582, 1609, 64937, 3, 1589, 1581,
  1610, 64938, 3, 1588, 1581, 1610, 64939, 3, 1590, 1581, 1610, 64940, 3, 1604, 1580, 1610, 64941,
  3, 1604, 1605, 1610, 64942, 3, 1610, 1581, 1610, 64943, 3, 1610, 1580, 1610, 64944, 3, 1610,
  1605, 1610, 64945, 3, 1605, 1605, 1610, 64946, 3, 1602, 1605, 1610, 64947, 3, 1606, 1581, 1610,
  64948, 3, 1602, 1605, 1581, 64949, 3, 1604, 1581, 1605, 64950, 3, 1593, 1605, 1610, 64951, 3,
  1603, 1605, 1610, 64952, 3, 1606, 1580, 1581, 64953, 3, 1605, 1582, 1610, 64954, 3, 1604, 1580,
  1605, 64955, 3, 1603, 1605, 1605, 64956, 3, 1604, 1580, 1605, 64957, 3, 1606, 1580, 1581, 64958,
  3, 1580, 1581, 1610, 64959, 3, 1581, 1580, 1610, 64960, 3, 1605, 1580, 1610, 64961, 3, 1601,
  1605, 1610, 64962, 3, 1576, 1581, 1610, 64963, 3, 1603, 1605, 1605, 64964, 3, 1593, 1580, 1605,
  64965, 3, 1589, 1605, 1605, 64966, 3, 1587, 1582, 1610, 64967, 3, 1606, 1580, 1610, 65008, 3,
  1589, 1604, 1746, 65009, 3, 1602, 1604, 1746, 65010, 4, 1575, 1604, 1604, 1607, 65011, 4, 1575,
  1603, 1576, 1585, 65012, 4, 1605, 1581, 1605, 1583, 65013, 4, 1589, 1604, 1593, 1605, 65014, 4,
  1585, 1587, 1608, 1604, 65015, 4, 1593, 1604, 1610, 1607, 65016, 4, 1608, 1587, 1604, 1605,
  65017, 3, 1589, 1604, 1609, 65020, 4, 1585, 1740, 1575, 1604, 65049, 3, 46, 46, 46, 65072, 2,
  46, 46, 65137, 2, 1600, 1611, 65143, 2, 1600, 1614, 65145, 2, 1600, 1615, 65147, 2, 1600, 1616,
  65149, 2, 1600, 1617, 65151, 2, 1600, 1618, 65269, 2, 1604, 1570, 65270, 2, 1604, 1570, 65271,
  2, 1604, 1571, 65272, 2, 1604, 1571, 65273, 2, 1604, 1573, 65274, 2, 1604, 1573, 65275, 2, 1604,
  1575, 65276, 2, 1604, 1575, 119134, 2, 119127, 119141, 119135, 2, 119128, 119141, 119136, 3,
  119128, 119141, 119150, 119137, 3, 119128, 119141, 119151, 119138, 3, 119128, 119141, 119152,
  119139, 3, 119128, 119141, 119153, 119140, 3, 119128, 119141, 119154, 119227, 2, 119225, 119141,
  119228, 2, 119226, 119141, 119229, 3, 119225, 119141, 119150, 119230, 3, 119226, 119141, 119150,
  119231, 3, 119225, 119141, 119151, 119232, 3, 119226, 119141, 119151, 127232, 2, 48, 46, 127233,
  2, 48, 44, 127234, 2, 49, 44, 127235, 2, 50, 44, 127236, 2, 51, 44, 127237, 2, 52, 44, 127238,
  2, 53, 44, 127239, 2, 54, 44, 127240, 2, 55, 44, 127241, 2, 56, 44, 127242, 2, 57, 44, 127248,
  3, 40, 97, 41, 127249, 3, 40, 98, 41, 127250, 3, 40, 99, 41, 127251, 3, 40, 100, 41, 127252, 3,
  40, 101, 41, 127253, 3, 40, 102, 41, 127254, 3, 40, 103, 41, 127255, 3, 40, 104, 41, 127256, 3,
  40, 105, 41, 127257, 3, 40, 106, 41, 127258, 3, 40, 107, 41, 127259, 3, 40, 108, 41, 127260, 3,
  40, 109, 41, 127261, 3, 40, 110, 41, 127262, 3, 40, 111, 41, 127263, 3, 40, 112, 41, 127264, 3,
  40, 113, 41, 127265, 3, 40, 114, 41, 127266, 3, 40, 115, 41, 127267, 3, 40, 116, 41, 127268, 3,
  40, 117, 41, 127269, 3, 40, 118, 41, 127270, 3, 40, 119, 41, 127271, 3, 40, 120, 41, 127272, 3,
  40, 121, 41, 127273, 3, 40, 122, 41, 127274, 3, 12308, 115, 12309, 127277, 2, 99, 100, 127278,
  2, 119, 122, 127306, 2, 104, 118, 127307, 2, 109, 118, 127308, 2, 115, 100, 127309, 2, 115, 115,
  127310, 3, 112, 112, 118, 127311, 2, 119, 99, 127338, 2, 109, 99, 127339, 2, 109, 100, 127340,
  2, 109, 114, 127376, 2, 100, 106, 127488, 2, 12411, 12363, 127489, 2, 12467, 12467, 127552, 3,
  12308, 26412, 12309, 127553, 3, 12308, 19977, 12309, 127554, 3, 12308, 20108, 12309, 127555, 3,
  12308, 23433, 12309, 127556, 3, 12308, 28857, 12309, 127557, 3, 12308, 25171, 12309, 127558, 3,
  12308, 30423, 12309, 127559, 3, 12308, 21213, 12309, 127560, 3, 12308, 25943, 12309]

/-- Runs of codes that are left out: first and last. -/
def ignored : List (Nat × Nat) :=
  [(0xAD, 0xAD), (0x34F, 0x34F), (0x180B, 0x180D), (0x180F, 0x180F), (0x200B, 0x200B), (0x2060,
    0x2060), (0x2064, 0x2064), (0xFE00, 0xFE0F), (0xFEFF, 0xFEFF), (0x1BCA0, 0x1BCA3), (0xE0100,
    0xE01EF)]

/-- Runs of codes that no domain name may hold although they show: first and last. -/
def excluded : List (Nat × Nat) :=
  [(0xA8, 0xA8), (0xAF, 0xAF), (0xB4, 0xB4), (0xB8, 0xB8), (0x2D8, 0x2DD), (0x37A, 0x37A), (0x384,
    0x385), (0x115F, 0x1160), (0x17B4, 0x17B5), (0x1FBD, 0x1FBD), (0x1FBF, 0x1FC1), (0x1FCD,
    0x1FCF), (0x1FDD, 0x1FDF), (0x1FED, 0x1FEE), (0x1FFD, 0x1FFE), (0x2017, 0x2017), (0x203E,
    0x203E), (0x2FF0, 0x2FFB), (0x309B, 0x309C), (0x3164, 0x3164), (0xFC5E, 0xFC63), (0xFDFA,
    0xFDFB), (0xFE49, 0xFE4C), (0xFE70, 0xFE70), (0xFE72, 0xFE72), (0xFE74, 0xFE74), (0xFE76,
    0xFE76), (0xFE78, 0xFE78), (0xFE7A, 0xFE7A), (0xFE7C, 0xFE7C), (0xFE7E, 0xFE7E), (0xFFA0,
    0xFFA0), (0xFFE3, 0xFFE3), (0xFFFC, 0xFFFD)]

end FormFetch.Url.MappingTable
