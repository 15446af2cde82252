import PromptStudio.Text.Printable

/-!
# Capital and small letters

The small letter of a letter, its form at the start of a title, and texts written with a capital at
their start. A letter may have a form of several characters, and the small form of a capital sigma
depends on the letters around it.
-/

namespace PromptStudio.Text

/-- Letters from `first` to `last`, each `step`-th of them, whose other form is `shift` further on. -/
structure CaseRun where
  first : Nat
  last : Nat
  step : Nat
  shift : Int
deriving DecidableEq, Repr

namespace CaseRun

def one (n : Nat) (shift : Int) : CaseRun := ⟨n, n, 1, shift⟩

def run (first last : Nat) (shift : Int) : CaseRun := ⟨first, last, 1, shift⟩

def alternate (first last : Nat) (shift : Int) : CaseRun := ⟨first, last, 2, shift⟩

end CaseRun

def CaseRun.other? (r : CaseRun) (n : Nat) : Option Nat :=
  if r.first ≤ n ∧ n ≤ r.last ∧ (n - r.first) % r.step = 0 then some ((n : Int) + r.shift).toNat
  else none

/-- The letters whose small form is one other character. -/
def lowerRuns : Array CaseRun := #[
  .run 65 90 32, .run 192 214 32, .run 216 222 32, .alternate 256 302 1, .alternate 306 310 1,
  .alternate 313 327 1, .alternate 330 374 1, .one 376 (-121), .alternate 377 381 1, .one 385 210,
  .alternate 386 388 1, .one 390 206, .one 391 1, .run 393 394 205, .one 395 1, .one 398 79,
  .one 399 202, .one 400 203, .one 401 1, .one 403 205, .one 404 207, .one 406 211, .one 407 209,
  .one 408 1, .one 412 211, .one 413 213, .one 415 214, .alternate 416 420 1, .one 422 218,
  .one 423 1, .one 425 218, .one 428 1, .one 430 218, .one 431 1, .run 433 434 217,
  .alternate 435 437 1, .one 439 219, .one 440 1, .one 444 1, .one 452 2, .one 453 1, .one 455 2,
  .one 456 1, .one 458 2, .alternate 459 475 1, .alternate 478 494 1, .one 497 2,
  .alternate 498 500 1, .one 502 (-97), .one 503 (-56), .alternate 504 542 1, .one 544 (-130),
  .alternate 546 562 1, .one 570 10795, .one 571 1, .one 573 (-163), .one 574 10792, .one 577 1,
  .one 579 (-195), .one 580 69, .one 581 71, .alternate 582 590 1, .alternate 880 882 1, .one 886 1,
  .one 895 116, .one 902 38, .run 904 906 37, .one 908 64, .run 910 911 63, .run 913 929 32,
  .run 931 939 32, .one 975 8, .alternate 984 1006 1, .one 1012 (-60), .one 1015 1, .one 1017 (-7),
  .one 1018 1, .run 1021 1023 (-130), .run 1024 1039 80, .run 1040 1071 32, .alternate 1120 1152 1,
  .alternate 1162 1214 1, .one 1216 15, .alternate 1217 1229 1, .alternate 1232 1326 1,
  .run 1329 1366 48, .run 4256 4293 7264, .one 4295 7264, .one 4301 7264, .run 5024 5103 38864,
  .run 5104 5109 8, .run 7312 7354 (-3008), .run 7357 7359 (-3008), .alternate 7680 7828 1,
  .one 7838 (-7615), .alternate 7840 7934 1, .run 7944 7951 (-8), .run 7960 7965 (-8),
  .run 7976 7983 (-8), .run 7992 7999 (-8), .run 8008 8013 (-8), .alternate 8025 8031 (-8),
  .run 8040 8047 (-8), .run 8072 8079 (-8), .run 8088 8095 (-8), .run 8104 8111 (-8),
  .run 8120 8121 (-8), .run 8122 8123 (-74), .one 8124 (-9), .run 8136 8139 (-86), .one 8140 (-9),
  .run 8152 8153 (-8), .run 8154 8155 (-100), .run 8168 8169 (-8), .run 8170 8171 (-112),
  .one 8172 (-7), .run 8184 8185 (-128), .run 8186 8187 (-126), .one 8188 (-9), .one 8486 (-7517),
  .one 8490 (-8383), .one 8491 (-8262), .one 8498 28, .run 8544 8559 16, .one 8579 1,
  .run 9398 9423 26, .run 11264 11311 48, .one 11360 1, .one 11362 (-10743), .one 11363 (-3814),
  .one 11364 (-10727), .alternate 11367 11371 1, .one 11373 (-10780), .one 11374 (-10749),
  .one 11375 (-10783), .one 11376 (-10782), .one 11378 1, .one 11381 1, .run 11390 11391 (-10815),
  .alternate 11392 11490 1, .alternate 11499 11501 1, .one 11506 1, .alternate 42560 42604 1,
  .alternate 42624 42650 1, .alternate 42786 42798 1, .alternate 42802 42862 1,
  .alternate 42873 42875 1, .one 42877 (-35332), .alternate 42878 42886 1, .one 42891 1,
  .one 42893 (-42280), .alternate 42896 42898 1, .alternate 42902 42920 1, .one 42922 (-42308),
  .one 42923 (-42319), .one 42924 (-42315), .one 42925 (-42305), .one 42926 (-42308),
  .one 42928 (-42258), .one 42929 (-42282), .one 42930 (-42261), .one 42931 928,
  .alternate 42932 42946 1, .one 42948 (-48), .one 42949 (-42307), .one 42950 (-35384),
  .alternate 42951 42953 1, .one 42960 1, .alternate 42966 42968 1, .one 42997 1,
  .run 65313 65338 32, .run 66560 66599 40, .run 66736 66771 40, .run 66928 66938 39,
  .run 66940 66954 39, .run 66956 66962 39, .run 66964 66965 39, .run 68736 68786 64,
  .run 71840 71871 32, .run 93760 93791 32, .run 125184 125217 34]

/-- The letters whose form at the start of a title is one other character. -/
def titleRuns : Array CaseRun := #[
  .run 97 122 (-32), .one 181 743, .run 224 246 (-32), .run 248 254 (-32), .one 255 121,
  .alternate 257 303 (-1), .one 305 (-232), .alternate 307 311 (-1), .alternate 314 328 (-1),
  .alternate 331 375 (-1), .alternate 378 382 (-1), .one 383 (-300), .one 384 195,
  .alternate 387 389 (-1), .one 392 (-1), .one 396 (-1), .one 402 (-1), .one 405 97, .one 409 (-1),
  .one 410 163, .one 414 130, .alternate 417 421 (-1), .one 424 (-1), .one 429 (-1), .one 432 (-1),
  .alternate 436 438 (-1), .one 441 (-1), .one 445 (-1), .one 447 56, .one 452 1, .one 454 (-1),
  .one 455 1, .one 457 (-1), .one 458 1, .alternate 460 476 (-1), .one 477 (-79),
  .alternate 479 495 (-1), .one 497 1, .alternate 499 501 (-1), .alternate 505 543 (-1),
  .alternate 547 563 (-1), .one 572 (-1), .run 575 576 10815, .one 578 (-1),
  .alternate 583 591 (-1), .one 592 10783, .one 593 10780, .one 594 10782, .one 595 (-210),
  .one 596 (-206), .run 598 599 (-205), .one 601 (-202), .one 603 (-203), .one 604 42319,
  .one 608 (-205), .one 609 42315, .one 611 (-207), .one 613 42280, .one 614 42308, .one 616 (-209),
  .one 617 (-211), .one 618 42308, .one 619 10743, .one 620 42305, .one 623 (-211), .one 625 10749,
  .one 626 (-213), .one 629 (-214), .one 637 10727, .one 640 (-218), .one 642 42307,
  .one 643 (-218), .one 647 42282, .one 648 (-218), .one 649 (-69), .run 650 651 (-217),
  .one 652 (-71), .one 658 (-219), .one 669 42261, .one 670 42258, .one 837 84,
  .alternate 881 883 (-1), .one 887 (-1), .run 891 893 130, .one 940 (-38), .run 941 943 (-37),
  .run 945 961 (-32), .one 962 (-31), .run 963 971 (-32), .one 972 (-64), .run 973 974 (-63),
  .one 976 (-62), .one 977 (-57), .one 981 (-47), .one 982 (-54), .one 983 (-8),
  .alternate 985 1007 (-1), .one 1008 (-86), .one 1009 (-80), .one 1010 7, .one 1011 (-116),
  .one 1013 (-96), .one 1016 (-1), .one 1019 (-1), .run 1072 1103 (-32), .run 1104 1119 (-80),
  .alternate 1121 1153 (-1), .alternate 1163 1215 (-1), .alternate 1218 1230 (-1), .one 1231 (-15),
  .alternate 1233 1327 (-1), .run 1377 1414 (-48), .run 5112 5117 (-8), .one 7296 (-6254),
  .one 7297 (-6253), .one 7298 (-6244), .run 7299 7300 (-6242), .one 7301 (-6243),
  .one 7302 (-6236), .one 7303 (-6181), .one 7304 35266, .one 7545 35332, .one 7549 3814,
  .one 7566 35384, .alternate 7681 7829 (-1), .one 7835 (-59), .alternate 7841 7935 (-1),
  .run 7936 7943 8, .run 7952 7957 8, .run 7968 7975 8, .run 7984 7991 8, .run 8000 8005 8,
  .alternate 8017 8023 8, .run 8032 8039 8, .run 8048 8049 74, .run 8050 8053 86,
  .run 8054 8055 100, .run 8056 8057 128, .run 8058 8059 112, .run 8060 8061 126, .run 8064 8071 8,
  .run 8080 8087 8, .run 8096 8103 8, .run 8112 8113 8, .one 8115 9, .one 8126 (-7205), .one 8131 9,
  .run 8144 8145 8, .run 8160 8161 8, .one 8165 7, .one 8179 9, .one 8526 (-28),
  .run 8560 8575 (-16), .one 8580 (-1), .run 9424 9449 (-26), .run 11312 11359 (-48),
  .one 11361 (-1), .one 11365 (-10795), .one 11366 (-10792), .alternate 11368 11372 (-1),
  .one 11379 (-1), .one 11382 (-1), .alternate 11393 11491 (-1), .alternate 11500 11502 (-1),
  .one 11507 (-1), .run 11520 11557 (-7264), .one 11559 (-7264), .one 11565 (-7264),
  .alternate 42561 42605 (-1), .alternate 42625 42651 (-1), .alternate 42787 42799 (-1),
  .alternate 42803 42863 (-1), .alternate 42874 42876 (-1), .alternate 42879 42887 (-1),
  .one 42892 (-1), .alternate 42897 42899 (-1), .one 42900 48, .alternate 42903 42921 (-1),
  .alternate 42933 42947 (-1), .alternate 42952 42954 (-1), .one 42961 (-1),
  .alternate 42967 42969 (-1), .one 42998 (-1), .one 43859 (-928), .run 43888 43967 (-38864),
  .run 65345 65370 (-32), .run 66600 66639 (-40), .run 66776 66811 (-40), .run 66967 66977 (-39),
  .run 66979 66993 (-39), .run 66995 67001 (-39), .run 67003 67004 (-39), .run 68800 68850 (-64),
  .run 71872 71903 (-32), .run 93792 93823 (-32), .run 125218 125251 (-34)]

/-- The letters whose form at the start of a title has several characters. -/
def titleSequences : List (Nat × List Nat) := [
  (223, [83, 115]), (329, [700, 78]), (496, [74, 780]), (912, [921, 776, 769]),
  (944, [933, 776, 769]), (1415, [1333, 1410]), (7830, [72, 817]), (7831, [84, 776]),
  (7832, [87, 778]), (7833, [89, 778]), (7834, [65, 702]), (8016, [933, 787]),
  (8018, [933, 787, 768]), (8020, [933, 787, 769]), (8022, [933, 787, 834]), (8114, [8122, 837]),
  (8116, [902, 837]), (8118, [913, 834]), (8119, [913, 834, 837]), (8130, [8138, 837]),
  (8132, [905, 837]), (8134, [919, 834]), (8135, [919, 834, 837]), (8146, [921, 776, 768]),
  (8147, [921, 776, 769]), (8150, [921, 834]), (8151, [921, 776, 834]), (8162, [933, 776, 768]),
  (8163, [933, 776, 769]), (8164, [929, 787]), (8166, [933, 834]), (8167, [933, 776, 834]),
  (8178, [8186, 837]), (8180, [911, 837]), (8182, [937, 834]), (8183, [937, 834, 837]),
  (64256, [70, 102]), (64257, [70, 105]), (64258, [70, 108]), (64259, [70, 102, 105]),
  (64260, [70, 102, 108]), (64261, [83, 116]), (64262, [83, 116]), (64275, [1348, 1398]),
  (64276, [1348, 1381]), (64277, [1348, 1387]), (64278, [1358, 1398]), (64279, [1348, 1389])]

/-- The runs of letters with several forms, apart from those that are passed over. -/
def casedRuns : List Nat := [
  65, 26, 6, 26, 47, 1, 10, 1, 4, 1, 5, 23, 1, 31, 1, 195, 1, 4, 4, 208, 1, 27, 192, 4, 2, 2, 3, 3,
  1, 1, 6, 1, 1, 3, 1, 1, 1, 20, 1, 83, 1, 139, 8, 166, 1, 38, 9, 41, 2839, 38, 1, 1, 5, 1, 2, 43,
  2, 3, 672, 86, 2, 6, 2178, 9, 7, 43, 2, 3, 64, 44, 63, 13, 1, 34, 101, 278, 2, 6, 2, 38, 2, 6, 2,
  8, 1, 1, 1, 1, 1, 1, 1, 31, 2, 53, 1, 7, 1, 1, 3, 3, 1, 7, 3, 4, 2, 6, 4, 13, 5, 3, 1, 7, 261, 1,
  4, 1, 2, 10, 1, 1, 3, 5, 6, 1, 1, 1, 1, 1, 1, 4, 1, 6, 4, 1, 2, 4, 5, 5, 4, 1, 17, 32, 3, 2, 817,
  52, 1814, 124, 2, 103, 6, 4, 3, 2, 12, 38, 1, 1, 5, 1, 30994, 46, 18, 28, 134, 78, 1, 23, 3, 4, 1,
  59, 5, 2, 1, 1, 1, 5, 27, 2, 3, 1, 821, 43, 5, 9, 7, 80, 20288, 7, 12, 5, 1033, 26, 6, 26, 1189,
  80, 96, 36, 4, 36, 116, 11, 1, 15, 1, 7, 1, 2, 1, 11, 1, 15, 1, 7, 1, 2, 1731, 51, 13, 51, 2989,
  64, 21856, 64, 25984, 85, 1, 71, 1, 2, 2, 1, 2, 2, 2, 4, 1, 12, 1, 1, 1, 7, 1, 65, 1, 4, 2, 8, 1,
  7, 1, 28, 1, 4, 1, 5, 1, 1, 3, 7, 1, 340, 2, 25, 1, 25, 1, 31, 1, 25, 1, 31, 1, 25, 1, 31, 1, 25,
  1, 31, 1, 25, 1, 8, 1844, 10, 1, 20, 2529, 68, 2028, 26, 6, 26, 6, 26]

/-- The runs of characters that are passed over when the letters around a sigma are looked for. -/
def passedRuns : List Nat := [
  39, 1, 6, 1, 11, 1, 35, 1, 1, 1, 71, 1, 4, 1, 1, 1, 4, 1, 2, 2, 503, 192, 4, 2, 4, 1, 9, 2, 1, 1,
  251, 7, 207, 1, 5, 1, 49, 45, 1, 1, 1, 2, 1, 2, 1, 1, 44, 1, 11, 6, 10, 11, 1, 1, 35, 1, 10, 21,
  16, 1, 101, 8, 1, 10, 1, 4, 33, 1, 1, 1, 30, 27, 91, 11, 58, 11, 4, 1, 2, 1, 24, 24, 43, 3, 44, 1,
  7, 2, 6, 8, 41, 58, 55, 1, 1, 1, 4, 8, 4, 1, 3, 7, 10, 2, 13, 1, 15, 1, 58, 1, 4, 4, 8, 1, 20, 2,
  26, 1, 2, 2, 57, 1, 4, 2, 4, 2, 2, 3, 3, 1, 30, 2, 3, 1, 11, 2, 57, 1, 4, 5, 1, 2, 4, 1, 20, 2,
  22, 6, 1, 1, 58, 1, 2, 1, 1, 4, 8, 1, 7, 2, 11, 2, 30, 1, 61, 1, 12, 1, 50, 1, 3, 1, 55, 1, 1, 3,
  5, 3, 1, 4, 7, 2, 11, 2, 29, 1, 58, 1, 2, 1, 6, 1, 5, 2, 20, 2, 28, 2, 57, 2, 4, 4, 8, 1, 20, 2,
  29, 1, 72, 1, 7, 3, 1, 1, 90, 1, 2, 7, 11, 9, 98, 1, 2, 9, 9, 1, 1, 6, 74, 2, 27, 1, 1, 1, 1, 1,
  55, 14, 1, 5, 1, 2, 5, 11, 1, 36, 9, 1, 102, 4, 1, 6, 1, 2, 2, 2, 25, 2, 4, 3, 16, 4, 13, 1, 2, 2,
  6, 1, 15, 1, 94, 1, 608, 3, 946, 3, 29, 2, 30, 2, 30, 2, 64, 2, 1, 7, 8, 1, 2, 11, 3, 1, 5, 1, 45,
  5, 51, 1, 65, 2, 34, 1, 118, 3, 4, 2, 9, 1, 6, 3, 219, 2, 2, 1, 58, 1, 1, 7, 1, 1, 1, 1, 2, 8, 6,
  10, 2, 1, 39, 1, 8, 31, 49, 4, 48, 1, 1, 5, 1, 1, 5, 1, 40, 9, 12, 2, 32, 4, 2, 2, 1, 3, 56, 1, 1,
  2, 3, 1, 1, 3, 58, 8, 2, 2, 64, 6, 82, 3, 1, 13, 1, 7, 4, 1, 6, 1, 3, 2, 50, 63, 13, 1, 34, 101,
  445, 1, 1, 3, 11, 3, 13, 3, 13, 3, 13, 2, 12, 5, 8, 2, 10, 1, 2, 1, 2, 5, 49, 5, 1, 10, 1, 1, 13,
  1, 16, 13, 51, 33, 2955, 2, 113, 3, 125, 1, 15, 1, 96, 32, 47, 1, 469, 1, 36, 4, 3, 5, 5, 1, 93,
  6, 93, 3, 28438, 1, 1250, 6, 270, 1, 98, 4, 1, 10, 1, 1, 28, 4, 80, 2, 14, 34, 78, 1, 23, 3, 103,
  3, 3, 2, 8, 1, 3, 1, 4, 1, 25, 2, 5, 1, 151, 2, 26, 18, 13, 1, 38, 8, 25, 11, 46, 3, 48, 1, 2, 4,
  2, 2, 17, 1, 21, 2, 66, 6, 2, 2, 2, 2, 12, 1, 8, 1, 35, 1, 11, 1, 51, 1, 1, 3, 2, 2, 5, 2, 1, 1,
  27, 1, 14, 2, 5, 2, 1, 1, 100, 5, 9, 3, 121, 1, 2, 1, 4, 1, 20272, 1, 147, 17, 573, 16, 3, 1, 12,
  16, 34, 1, 2, 1, 169, 1, 7, 1, 6, 1, 11, 1, 35, 1, 1, 1, 47, 1, 45, 2, 67, 1, 21, 3, 513, 1, 226,
  1, 149, 5, 1029, 6, 1, 42, 1, 9, 582, 3, 1, 2, 5, 4, 40, 3, 4, 1, 165, 2, 573, 4, 387, 2, 153, 11,
  49, 4, 123, 1, 54, 15, 41, 1, 2, 2, 10, 3, 49, 4, 2, 2, 2, 1, 4, 1, 10, 1, 50, 3, 36, 5, 1, 8, 62,
  1, 12, 2, 52, 9, 10, 4, 2, 1, 95, 3, 2, 1, 1, 2, 6, 1, 160, 1, 3, 8, 21, 2, 57, 2, 3, 1, 37, 7, 3,
  5, 195, 8, 2, 3, 1, 1, 23, 1, 84, 6, 1, 1, 4, 2, 1, 2, 238, 4, 6, 2, 1, 2, 27, 2, 85, 8, 2, 1, 1,
  2, 106, 1, 1, 1, 2, 6, 1, 1, 101, 3, 2, 4, 1, 5, 259, 9, 1, 2, 256, 2, 1, 1, 4, 1, 144, 4, 2, 2,
  4, 1, 32, 10, 40, 6, 2, 4, 8, 1, 9, 6, 2, 3, 46, 13, 1, 2, 406, 7, 1, 6, 1, 1, 82, 22, 2, 7, 1, 2,
  1, 2, 122, 6, 3, 1, 1, 2, 1, 7, 1, 1, 72, 2, 3, 1, 1, 1, 347, 2, 5435, 9, 14007, 5, 59, 7, 9, 4,
  1035, 1, 63, 17, 64, 2, 1, 2, 16395, 4, 1, 7, 1, 2, 3230, 2, 1, 4, 4700, 46, 2, 23, 544, 3, 9, 16,
  2, 7, 30, 4, 148, 3, 1979, 55, 4, 50, 8, 1, 14, 1, 22, 5, 1, 15, 1360, 7, 1, 17, 2, 7, 1, 2, 1, 5,
  261, 14, 368, 1, 61, 4, 1504, 7, 109, 8, 2735, 5, 789505, 1, 30, 96, 128, 240]

/-- The capital sigma, which has two small forms. -/
def capitalSigma : Nat := 0x3a3

/-- Whether the first of some characters that is not passed over is a letter with several forms. -/
def startsCased (cs : List Char) : Bool :=
  match cs.dropWhile (inRuns passedRuns ·.toNat) with
  | [] => false
  | c :: _ => inRuns casedRuns c.toNat

/-- The small form of a capital sigma: the final one at the end of a word. `before` are the characters
before it, the nearest one first, and `after` those behind it. -/
def smallSigma (before after : List Char) : Char :=
  if startsCased before && !startsCased after then 'ς' else 'σ'

/-- The small form of a character among its neighbours. -/
def lowerChar (before : List Char) (c : Char) (after : List Char) : List Char :=
  if c.toNat = capitalSigma then [smallSigma before after]
  else if c = 'İ' then ['i', '\u0307']
  else match lowerRuns.findSome? fun r => r.other? c.toNat with
    | some n => [Char.ofNat n]
    | none => [c]

/-- The small forms of characters behind those in `before`, the nearest one first. -/
def lowerFrom (before : List Char) : List Char → List Char
  | [] => []
  | c :: rest => lowerChar before c rest ++ lowerFrom (c :: before) rest

def lower (s : String) : String := String.ofList (lowerFrom [] s.toList)

/-- The form of a character at the start of a title. -/
def titleChar (c : Char) : List Char :=
  match titleSequences.find? fun entry => entry.1 = c.toNat with
  | some (_, codes) => codes.map Char.ofNat
  | none =>
    match titleRuns.findSome? fun r => r.other? c.toNat with
    | some n => [Char.ofNat n]
    | none => [c]

def capitalized (s : String) : String :=
  match s.toList with
  | [] => ""
  | c :: rest => String.ofList (titleChar c ++ lowerFrom [c] rest)

end PromptStudio.Text
