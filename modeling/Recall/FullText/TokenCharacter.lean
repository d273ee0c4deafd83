import Recall.Text.CodePoints

/-!
The characters of full-text tokens. A token is made of letters, numbers, private-use
characters and code points that were unassigned in Unicode 6.1; every other character
parts tokens. A combining mark of the removable kind stays inside a token but is left
out of its text, and each letter is written in its folded form: lowercase, without a
single diacritic over a Latin letter.
-/

namespace Recall.FullText
open Recall.Text

def separatorsAboveAscii : CodePointSet := ⟨#[
  128, 170, 171, 178, 180, 181, 182, 185, 187, 188, 191, 192, 215, 216, 247, 248, 706, 710, 722,
  736, 741, 748, 749, 750, 751, 880, 885, 886, 894, 895, 900, 902, 903, 904, 1014, 1015, 1154,
  1162, 1370, 1376, 1417, 1419, 1423, 1424, 1425, 1480, 1523, 1525, 1536, 1541, 1542, 1564, 1566,
  1568, 1611, 1632, 1642, 1646, 1648, 1649, 1748, 1749, 1750, 1765, 1767, 1774, 1789, 1791, 1792,
  1806, 1807, 1808, 1809, 1810, 1840, 1867, 1958, 1969, 2027, 2036, 2038, 2042, 2070, 2074, 2075,
  2084, 2085, 2088, 2089, 2094, 2096, 2111, 2137, 2140, 2142, 2143, 2276, 2303, 2304, 2308, 2362,
  2365, 2366, 2384, 2385, 2392, 2402, 2406, 2416, 2417, 2433, 2436, 2492, 2493, 2494, 2501, 2503,
  2505, 2507, 2510, 2519, 2520, 2530, 2532, 2546, 2548, 2554, 2556, 2561, 2564, 2620, 2621, 2622,
  2627, 2631, 2633, 2635, 2638, 2641, 2642, 2672, 2674, 2677, 2678, 2689, 2692, 2748, 2749, 2750,
  2758, 2759, 2762, 2763, 2766, 2786, 2788, 2800, 2802, 2817, 2820, 2876, 2877, 2878, 2885, 2887,
  2889, 2891, 2894, 2902, 2904, 2914, 2916, 2928, 2929, 2946, 2947, 3006, 3011, 3014, 3017, 3018,
  3022, 3031, 3032, 3059, 3067, 3073, 3076, 3134, 3141, 3142, 3145, 3146, 3150, 3157, 3159, 3170,
  3172, 3199, 3200, 3202, 3204, 3260, 3261, 3262, 3269, 3270, 3273, 3274, 3278, 3285, 3287, 3298,
  3300, 3330, 3332, 3390, 3397, 3398, 3401, 3402, 3406, 3415, 3416, 3426, 3428, 3449, 3450, 3458,
  3460, 3530, 3531, 3535, 3541, 3542, 3543, 3544, 3552, 3570, 3573, 3633, 3634, 3636, 3643, 3647,
  3648, 3655, 3664, 3674, 3676, 3761, 3762, 3764, 3770, 3771, 3773, 3784, 3790, 3841, 3872, 3892,
  3904, 3953, 3976, 3981, 3992, 3993, 4029, 4030, 4045, 4046, 4059, 4139, 4159, 4170, 4176, 4182,
  4186, 4190, 4193, 4194, 4197, 4199, 4206, 4209, 4213, 4226, 4238, 4239, 4240, 4250, 4256, 4347,
  4348, 4957, 4969, 5008, 5018, 5120, 5121, 5741, 5743, 5760, 5761, 5787, 5789, 5867, 5870, 5906,
  5909, 5938, 5943, 5970, 5972, 6002, 6004, 6068, 6103, 6104, 6108, 6109, 6110, 6144, 6159, 6313,
  6314, 6432, 6444, 6448, 6460, 6464, 6465, 6468, 6470, 6576, 6593, 6600, 6602, 6622, 6656, 6679,
  6684, 6686, 6688, 6741, 6751, 6752, 6781, 6783, 6784, 6816, 6823, 6824, 6830, 6912, 6917, 6964,
  6981, 7002, 7037, 7040, 7043, 7073, 7086, 7142, 7156, 7164, 7168, 7204, 7224, 7227, 7232, 7294,
  7296, 7360, 7368, 7376, 7401, 7405, 7406, 7410, 7413, 7616, 7655, 7676, 7680, 8125, 8126, 8127,
  8130, 8141, 8144, 8157, 8160, 8173, 8176, 8189, 8191, 8192, 8293, 8298, 8304, 8314, 8319, 8330,
  8335, 8352, 8378, 8400, 8433, 8448, 8450, 8451, 8455, 8456, 8458, 8468, 8469, 8470, 8473, 8478,
  8484, 8485, 8486, 8487, 8488, 8489, 8490, 8494, 8495, 8506, 8508, 8512, 8517, 8522, 8526, 8527,
  8528, 8592, 9204, 9216, 9255, 9280, 9291, 9372, 9450, 9472, 9984, 9985, 10102, 10132, 11085,
  11088, 11098, 11493, 11499, 11503, 11506, 11513, 11517, 11518, 11520, 11632, 11633, 11647,
  11648, 11744, 11823, 11824, 11836, 11904, 11930, 11931, 12020, 12032, 12246, 12272, 12284,
  12288, 12293, 12296, 12321, 12330, 12337, 12342, 12344, 12349, 12352, 12441, 12445, 12448,
  12449, 12539, 12540, 12688, 12690, 12694, 12704, 12736, 12772, 12800, 12831, 12842, 12872,
  12880, 12881, 12896, 12928, 12938, 12977, 12992, 13055, 13056, 13312, 19904, 19968, 42128,
  42183, 42238, 42240, 42509, 42512, 42607, 42623, 42655, 42656, 42736, 42744, 42752, 42775,
  42784, 42786, 42889, 42891, 43010, 43011, 43014, 43015, 43019, 43020, 43043, 43052, 43062,
  43066, 43124, 43128, 43136, 43138, 43188, 43205, 43214, 43216, 43232, 43250, 43256, 43259,
  43302, 43312, 43335, 43348, 43359, 43360, 43392, 43396, 43443, 43470, 43486, 43488, 43561,
  43575, 43587, 43588, 43596, 43598, 43612, 43616, 43639, 43642, 43643, 43644, 43696, 43697,
  43698, 43701, 43703, 43705, 43710, 43712, 43713, 43714, 43742, 43744, 43755, 43762, 43765,
  43767, 44003, 44014, 64286, 64287, 64297, 64298, 64434, 64450, 64830, 64832, 65020, 65022,
  65024, 65050, 65056, 65063, 65072, 65107, 65108, 65127, 65128, 65132, 65279, 65280, 65281,
  65296, 65306, 65313, 65339, 65345, 65371, 65382, 65504, 65511, 65512, 65519, 65529, 65536,
  65792, 65795, 65847, 65856, 65913, 65930, 65936, 65948, 66000, 66046, 66463, 66464, 66512,
  66513, 67671, 67672, 67871, 67872, 67903, 67904, 68097, 68100, 68101, 68103, 68108, 68112,
  68152, 68155, 68159, 68160, 68176, 68185, 68223, 68224, 68409, 68416, 69632, 69635, 69688,
  69710, 69760, 69763, 69808, 69826, 69888, 69891, 69927, 69941, 69952, 69956, 70016, 70019,
  70067, 70081, 70085, 70089, 71339, 71352, 74864, 74868, 94033, 94079, 94095, 94099, 118784,
  119030, 119040, 119079, 119081, 119262, 119296, 119366, 119552, 119639, 120513, 120514, 120539,
  120540, 120571, 120572, 120597, 120598, 120629, 120630, 120655, 120656, 120687, 120688, 120713,
  120714, 120745, 120746, 120771, 120772, 126704, 126706, 126976, 127020, 127024, 127124, 127136,
  127151, 127153, 127167, 127169, 127184, 127185, 127200, 127248, 127279, 127280, 127340, 127344,
  127387, 127462, 127491, 127504, 127547, 127552, 127561, 127568, 127570, 127744, 127777, 127792,
  127798, 127799, 127869, 127872, 127892, 127904, 127941, 127942, 127947, 127968, 127985, 128000,
  128063, 128064, 128065, 128066, 128248, 128249, 128253, 128256, 128318, 128320, 128324, 128336,
  128360, 128507, 128577, 128581, 128592, 128640, 128710, 128768, 128884, 917505, 917506, 917536,
  917632, 917760, 918000]⟩

def removableMarks : CodePointSet := ⟨#[
  768, 773, 774, 781, 783, 784, 785, 786, 795, 796, 803, 809, 813, 815, 816, 818]⟩

def foldedAboveAscii : CodePointMap := ⟨[
  ⟨181, 181, 1, 956, 1⟩, ⟨192, 197, 1, 97, 0⟩, ⟨198, 198, 1, 230, 1⟩, ⟨199, 199, 1, 99, 1⟩, ⟨200,
  203, 1, 101, 0⟩, ⟨204, 207, 1, 105, 0⟩, ⟨208, 208, 1, 240, 1⟩, ⟨209, 210, 1, 110, 1⟩, ⟨211, 214,
  1, 111, 0⟩, ⟨216, 216, 1, 248, 1⟩, ⟨217, 220, 1, 117, 0⟩, ⟨221, 221, 1, 121, 1⟩, ⟨222, 222, 1,
  254, 1⟩, ⟨224, 229, 1, 97, 0⟩, ⟨231, 231, 1, 99, 1⟩, ⟨232, 235, 1, 101, 0⟩, ⟨236, 239, 1, 105,
  0⟩, ⟨241, 242, 1, 110, 1⟩, ⟨243, 246, 1, 111, 0⟩, ⟨249, 252, 1, 117, 0⟩, ⟨253, 253, 1, 121, 1⟩,
  ⟨255, 255, 1, 121, 1⟩, ⟨256, 261, 1, 97, 0⟩, ⟨262, 269, 1, 99, 0⟩, ⟨270, 271, 1, 100, 0⟩, ⟨272,
  272, 1, 273, 1⟩, ⟨274, 283, 1, 101, 0⟩, ⟨284, 291, 1, 103, 0⟩, ⟨292, 293, 1, 104, 0⟩, ⟨294, 294,
  1, 295, 1⟩, ⟨296, 304, 1, 105, 0⟩, ⟨306, 306, 1, 307, 1⟩, ⟨308, 309, 1, 106, 0⟩, ⟨310, 311, 1,
  107, 0⟩, ⟨313, 318, 1, 108, 0⟩, ⟨319, 321, 2, 320, 2⟩, ⟨323, 328, 1, 110, 0⟩, ⟨330, 330, 1, 331,
  1⟩, ⟨332, 337, 1, 111, 0⟩, ⟨338, 338, 1, 339, 1⟩, ⟨340, 345, 1, 114, 0⟩, ⟨346, 353, 1, 115, 0⟩,
  ⟨354, 357, 1, 116, 0⟩, ⟨358, 358, 1, 359, 1⟩, ⟨360, 371, 1, 117, 0⟩, ⟨372, 373, 1, 119, 0⟩,
  ⟨374, 376, 1, 121, 0⟩, ⟨377, 382, 1, 122, 0⟩, ⟨383, 383, 1, 115, 1⟩, ⟨385, 385, 1, 595, 1⟩,
  ⟨386, 388, 2, 387, 2⟩, ⟨390, 390, 1, 596, 1⟩, ⟨391, 391, 1, 392, 1⟩, ⟨393, 394, 1, 598, 1⟩,
  ⟨395, 395, 1, 396, 1⟩, ⟨398, 398, 1, 477, 1⟩, ⟨399, 399, 1, 601, 1⟩, ⟨400, 400, 1, 603, 1⟩,
  ⟨401, 401, 1, 402, 1⟩, ⟨403, 403, 1, 608, 1⟩, ⟨404, 404, 1, 611, 1⟩, ⟨406, 406, 1, 617, 1⟩,
  ⟨407, 407, 1, 616, 1⟩, ⟨408, 408, 1, 409, 1⟩, ⟨412, 412, 1, 623, 1⟩, ⟨413, 413, 1, 626, 1⟩,
  ⟨415, 415, 1, 629, 1⟩, ⟨416, 417, 1, 111, 0⟩, ⟨418, 420, 2, 419, 2⟩, ⟨422, 422, 1, 640, 1⟩,
  ⟨423, 423, 1, 424, 1⟩, ⟨425, 425, 1, 643, 1⟩, ⟨428, 428, 1, 429, 1⟩, ⟨430, 430, 1, 648, 1⟩,
  ⟨431, 432, 1, 117, 0⟩, ⟨433, 434, 1, 650, 1⟩, ⟨435, 437, 2, 436, 2⟩, ⟨439, 439, 1, 658, 1⟩,
  ⟨440, 440, 1, 441, 1⟩, ⟨444, 444, 1, 445, 1⟩, ⟨452, 453, 1, 454, 0⟩, ⟨455, 456, 1, 457, 0⟩,
  ⟨458, 459, 1, 460, 0⟩, ⟨461, 462, 1, 97, 0⟩, ⟨463, 464, 1, 105, 0⟩, ⟨465, 466, 1, 111, 0⟩, ⟨467,
  468, 1, 117, 0⟩, ⟨469, 475, 2, 470, 2⟩, ⟨478, 484, 2, 479, 2⟩, ⟨486, 487, 1, 103, 0⟩, ⟨488, 489,
  1, 107, 0⟩, ⟨490, 491, 1, 111, 0⟩, ⟨492, 494, 2, 493, 2⟩, ⟨496, 496, 1, 106, 1⟩, ⟨497, 498, 1,
  499, 0⟩, ⟨500, 501, 1, 103, 0⟩, ⟨502, 502, 1, 405, 1⟩, ⟨503, 503, 1, 447, 1⟩, ⟨504, 505, 1, 110,
  0⟩, ⟨506, 510, 2, 507, 2⟩, ⟨512, 515, 1, 97, 0⟩, ⟨516, 519, 1, 101, 0⟩, ⟨520, 523, 1, 105, 0⟩,
  ⟨524, 527, 1, 111, 0⟩, ⟨528, 531, 1, 114, 0⟩, ⟨532, 535, 1, 117, 0⟩, ⟨536, 537, 1, 115, 0⟩,
  ⟨538, 539, 1, 116, 0⟩, ⟨540, 540, 1, 541, 1⟩, ⟨542, 543, 1, 104, 0⟩, ⟨544, 544, 1, 414, 1⟩,
  ⟨546, 548, 2, 547, 2⟩, ⟨550, 551, 1, 97, 0⟩, ⟨552, 553, 1, 101, 0⟩, ⟨554, 556, 2, 555, 2⟩, ⟨558,
  559, 1, 111, 0⟩, ⟨560, 560, 1, 561, 1⟩, ⟨562, 563, 1, 121, 0⟩, ⟨570, 570, 1, 11365, 1⟩, ⟨571,
  571, 1, 572, 1⟩, ⟨573, 573, 1, 410, 1⟩, ⟨574, 574, 1, 11366, 1⟩, ⟨577, 577, 1, 578, 1⟩, ⟨579,
  579, 1, 384, 1⟩, ⟨580, 580, 1, 649, 1⟩, ⟨581, 581, 1, 652, 1⟩, ⟨582, 590, 2, 583, 2⟩, ⟨880, 882,
  2, 881, 2⟩, ⟨886, 886, 1, 887, 1⟩, ⟨902, 902, 1, 940, 1⟩, ⟨904, 906, 1, 941, 1⟩, ⟨908, 908, 1,
  972, 1⟩, ⟨910, 911, 1, 973, 1⟩, ⟨913, 929, 1, 945, 1⟩, ⟨931, 939, 1, 963, 1⟩, ⟨962, 962, 1, 963,
  1⟩, ⟨975, 975, 1, 983, 1⟩, ⟨976, 976, 1, 946, 1⟩, ⟨977, 977, 1, 952, 1⟩, ⟨981, 981, 1, 966, 1⟩,
  ⟨982, 982, 1, 960, 1⟩, ⟨984, 1006, 2, 985, 2⟩, ⟨1008, 1008, 1, 954, 1⟩, ⟨1009, 1009, 1, 961, 1⟩,
  ⟨1012, 1012, 1, 952, 1⟩, ⟨1013, 1013, 1, 949, 1⟩, ⟨1015, 1015, 1, 1016, 1⟩, ⟨1017, 1017, 1,
  1010, 1⟩, ⟨1018, 1018, 1, 1019, 1⟩, ⟨1021, 1023, 1, 891, 1⟩, ⟨1024, 1039, 1, 1104, 1⟩, ⟨1040,
  1071, 1, 1072, 1⟩, ⟨1120, 1152, 2, 1121, 2⟩, ⟨1162, 1214, 2, 1163, 2⟩, ⟨1216, 1216, 1, 1231, 1⟩,
  ⟨1217, 1229, 2, 1218, 2⟩, ⟨1232, 1318, 2, 1233, 2⟩, ⟨1329, 1366, 1, 1377, 1⟩, ⟨4256, 4293, 1,
  11520, 1⟩, ⟨4295, 4295, 1, 11559, 1⟩, ⟨4301, 4301, 1, 11565, 1⟩, ⟨7680, 7681, 1, 97, 0⟩, ⟨7682,
  7687, 1, 98, 0⟩, ⟨7688, 7688, 1, 7689, 1⟩, ⟨7690, 7699, 1, 100, 0⟩, ⟨7700, 7702, 2, 7701, 2⟩,
  ⟨7704, 7707, 1, 101, 0⟩, ⟨7708, 7708, 1, 7709, 1⟩, ⟨7710, 7711, 1, 102, 0⟩, ⟨7712, 7713, 1, 103,
  0⟩, ⟨7714, 7723, 1, 104, 0⟩, ⟨7724, 7725, 1, 105, 0⟩, ⟨7726, 7726, 1, 7727, 1⟩, ⟨7728, 7733, 1,
  107, 0⟩, ⟨7734, 7735, 1, 108, 0⟩, ⟨7736, 7736, 1, 7737, 1⟩, ⟨7738, 7741, 1, 108, 0⟩, ⟨7742,
  7747, 1, 109, 0⟩, ⟨7748, 7755, 1, 110, 0⟩, ⟨7756, 7762, 2, 7757, 2⟩, ⟨7764, 7767, 1, 112, 0⟩,
  ⟨7768, 7771, 1, 114, 0⟩, ⟨7772, 7772, 1, 7773, 1⟩, ⟨7774, 7775, 1, 114, 0⟩, ⟨7776, 7779, 1, 115,
  0⟩, ⟨7780, 7784, 2, 7781, 2⟩, ⟨7786, 7793, 1, 116, 0⟩, ⟨7794, 7799, 1, 117, 0⟩, ⟨7800, 7802, 2,
  7801, 2⟩, ⟨7804, 7807, 1, 118, 0⟩, ⟨7808, 7817, 1, 119, 0⟩, ⟨7818, 7821, 1, 120, 0⟩, ⟨7822,
  7823, 1, 121, 0⟩, ⟨7824, 7829, 1, 122, 0⟩, ⟨7830, 7830, 1, 104, 1⟩, ⟨7831, 7831, 1, 116, 1⟩,
  ⟨7832, 7832, 1, 119, 1⟩, ⟨7833, 7833, 1, 121, 1⟩, ⟨7835, 7835, 1, 115, 1⟩, ⟨7838, 7838, 1, 223,
  1⟩, ⟨7840, 7843, 1, 97, 0⟩, ⟨7844, 7862, 2, 7845, 2⟩, ⟨7864, 7869, 1, 101, 0⟩, ⟨7870, 7878, 2,
  7871, 2⟩, ⟨7880, 7883, 1, 105, 0⟩, ⟨7884, 7887, 1, 111, 0⟩, ⟨7888, 7906, 2, 7889, 2⟩, ⟨7908,
  7911, 1, 117, 0⟩, ⟨7912, 7920, 2, 7913, 2⟩, ⟨7922, 7929, 1, 121, 0⟩, ⟨7930, 7934, 2, 7931, 2⟩,
  ⟨7944, 7951, 1, 7936, 1⟩, ⟨7960, 7965, 1, 7952, 1⟩, ⟨7976, 7983, 1, 7968, 1⟩, ⟨7992, 7999, 1,
  7984, 1⟩, ⟨8008, 8013, 1, 8000, 1⟩, ⟨8025, 8031, 2, 8017, 2⟩, ⟨8040, 8047, 1, 8032, 1⟩, ⟨8072,
  8079, 1, 8064, 1⟩, ⟨8088, 8095, 1, 8080, 1⟩, ⟨8104, 8111, 1, 8096, 1⟩, ⟨8120, 8121, 1, 8112, 1⟩,
  ⟨8122, 8123, 1, 8048, 1⟩, ⟨8124, 8124, 1, 8115, 1⟩, ⟨8126, 8126, 1, 953, 1⟩, ⟨8136, 8139, 1,
  8050, 1⟩, ⟨8140, 8140, 1, 8131, 1⟩, ⟨8152, 8153, 1, 8144, 1⟩, ⟨8154, 8155, 1, 8054, 1⟩, ⟨8168,
  8169, 1, 8160, 1⟩, ⟨8170, 8171, 1, 8058, 1⟩, ⟨8172, 8172, 1, 8165, 1⟩, ⟨8184, 8185, 1, 8056, 1⟩,
  ⟨8186, 8187, 1, 8060, 1⟩, ⟨8188, 8188, 1, 8179, 1⟩, ⟨8486, 8486, 1, 969, 1⟩, ⟨8490, 8490, 1,
  107, 1⟩, ⟨8491, 8491, 1, 97, 1⟩, ⟨8498, 8498, 1, 8526, 1⟩, ⟨8544, 8559, 1, 8560, 1⟩, ⟨8579,
  8579, 1, 8580, 1⟩, ⟨11264, 11310, 1, 11312, 1⟩, ⟨11360, 11360, 1, 11361, 1⟩, ⟨11362, 11362, 1,
  619, 1⟩, ⟨11363, 11363, 1, 7549, 1⟩, ⟨11364, 11364, 1, 637, 1⟩, ⟨11367, 11371, 2, 11368, 2⟩,
  ⟨11373, 11373, 1, 593, 1⟩, ⟨11374, 11374, 1, 625, 1⟩, ⟨11375, 11375, 1, 592, 1⟩, ⟨11376, 11376,
  1, 594, 1⟩, ⟨11378, 11378, 1, 11379, 1⟩, ⟨11381, 11381, 1, 11382, 1⟩, ⟨11390, 11391, 1, 575, 1⟩,
  ⟨11392, 11490, 2, 11393, 2⟩, ⟨11499, 11501, 2, 11500, 2⟩, ⟨11506, 11506, 1, 11507, 1⟩, ⟨42560,
  42604, 2, 42561, 2⟩, ⟨42624, 42646, 2, 42625, 2⟩, ⟨42786, 42798, 2, 42787, 2⟩, ⟨42802, 42862, 2,
  42803, 2⟩, ⟨42873, 42875, 2, 42874, 2⟩, ⟨42877, 42877, 1, 7545, 1⟩, ⟨42878, 42886, 2, 42879, 2⟩,
  ⟨42891, 42891, 1, 42892, 1⟩, ⟨42893, 42893, 1, 613, 1⟩, ⟨42896, 42898, 2, 42897, 2⟩, ⟨42912,
  42920, 2, 42913, 2⟩, ⟨42922, 42922, 1, 614, 1⟩, ⟨65313, 65338, 1, 65345, 1⟩, ⟨66560, 66599, 1,
  66600, 1⟩]⟩

def isTokenCharacter (c : Char) : Bool :=
  if c.toNat < 128 then c.isAlphanum else !separatorsAboveAscii.contains c

def isRemovableMark (c : Char) : Bool := removableMarks.contains c

def foldCharacter (c : Char) : Char :=
  if c.toNat < 128 then c.toLower else foldedAboveAscii.apply c

end Recall.FullText
