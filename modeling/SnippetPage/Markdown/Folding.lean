import SnippetPage.Text.Runs

/-!
# Case folding

Labels of links are compared up to case. The case folding of a character is one to three
characters; most characters are their own.
-/

namespace SnippetPage.Markdown

/-- Rows of a first code, how many codes it begins, their distance, and the folding of the first;
the foldings of the others lie at the same distances. -/
def foldingRows : List Nat := Text.numbers
  "65 26 1 97 181 1 1 956 192 23 1 224 216 7 1 248 256 24 2 257 306 3 2 307 313 8 2 314
330 23 2 331 376 1 1 255 377 3 2 378 383 1 1 115 385 1 1 595 386 2 2 387 390 1 1 596 391 1 1 392
393 2 1 598 395 1 1 396 398 1 1 477 399 1 1 601 400 1 1 603 401 1 1 402 403 1 1 608 404 1 1 611
406 1 1 617 407 1 1 616 408 1 1 409 412 1 1 623 413 1 1 626 415 1 1 629 416 3 2 417 422 1 1 640
423 1 1 424 425 1 1 643 428 1 1 429 430 1 1 648 431 1 1 432 433 2 1 650 435 2 2 436 439 1 1 658
440 1 1 441 444 1 1 445 452 1 1 454 453 1 1 454 455 1 1 457 456 1 1 457 458 1 1 460 459 9 2 460
478 9 2 479 497 1 1 499 498 2 2 499 502 1 1 405 503 1 1 447 504 20 2 505 544 1 1 414 546 9 2 547
570 1 1 11365 571 1 1 572 573 1 1 410 574 1 1 11366 577 1 1 578 579 1 1 384 580 1 1 649
581 1 1 652 582 5 2 583 837 1 1 953 880 2 2 881 886 1 1 887 895 1 1 1011 902 1 1 940 904 3 1 941
908 1 1 972 910 2 1 973 913 17 1 945 931 9 1 963 962 1 1 963 975 1 1 983 976 1 1 946 977 1 1 952
981 1 1 966 982 1 1 960 984 12 2 985 1008 1 1 954 1009 1 1 961 1012 1 1 952 1013 1 1 949
1015 1 1 1016 1017 1 1 1010 1018 1 1 1019 1021 3 1 891 1024 16 1 1104 1040 32 1 1072
1120 17 2 1121 1162 27 2 1163 1216 1 1 1231 1217 7 2 1218 1232 48 2 1233 1329 38 1 1377
4256 38 1 11520 4295 1 1 11559 4301 1 1 11565 5112 6 1 5104 7296 1 1 1074 7297 1 1 1076
7298 1 1 1086 7299 2 1 1089 7301 1 1 1090 7302 1 1 1098 7303 1 1 1123 7304 1 1 42571
7312 43 1 4304 7357 3 1 4349 7680 75 2 7681 7835 1 1 7777 7840 48 2 7841 7944 8 1 7936
7960 6 1 7952 7976 8 1 7968 7992 8 1 7984 8008 6 1 8000 8025 4 2 8017 8040 8 1 8032
8120 2 1 8112 8122 2 1 8048 8126 1 1 953 8136 4 1 8050 8152 2 1 8144 8154 2 1 8054 8168 2 1 8160
8170 2 1 8058 8172 1 1 8165 8184 2 1 8056 8186 2 1 8060 8486 1 1 969 8490 1 1 107 8491 1 1 229
8498 1 1 8526 8544 16 1 8560 8579 1 1 8580 9398 26 1 9424 11264 48 1 11312 11360 1 1 11361
11362 1 1 619 11363 1 1 7549 11364 1 1 637 11367 3 2 11368 11373 1 1 593 11374 1 1 625
11375 1 1 592 11376 1 1 594 11378 1 1 11379 11381 1 1 11382 11390 2 1 575 11392 50 2 11393
11499 2 2 11500 11506 1 1 11507 42560 23 2 42561 42624 14 2 42625 42786 7 2 42787
42802 31 2 42803 42873 2 2 42874 42877 1 1 7545 42878 5 2 42879 42891 1 1 42892 42893 1 1 613
42896 2 2 42897 42902 10 2 42903 42922 1 1 614 42923 1 1 604 42924 1 1 609 42925 1 1 620
42926 1 1 618 42928 1 1 670 42929 1 1 647 42930 1 1 669 42931 1 1 43859 42932 8 2 42933
42948 1 1 42900 42949 1 1 642 42950 1 1 7566 42951 2 2 42952 42960 1 1 42961 42966 2 2 42967
42997 1 1 42998 43888 80 1 5024 65313 26 1 65345 66560 40 1 66600 66736 36 1 66776
66928 11 1 66967 66940 15 1 66979 66956 7 1 66995 66964 2 1 67003 68736 51 1 68800
71840 32 1 71872 93760 32 1 93792 125184 34 1 125218"

/-- Rows of a code and the three codes of its folding, with zeros for those it does not have. -/
def longFoldingRows : List Nat := Text.numbers
  "223 115 115 0 304 105 775 0 329 700 110 0 496 106 780 0 912 953 776 769 944 965 776 769
1415 1381 1410 0 7830 104 817 0 7831 116 776 0 7832 119 778 0 7833 121 778 0 7834 97 702 0
7838 115 115 0 8016 965 787 0 8018 965 787 768 8020 965 787 769 8022 965 787 834 8064 7936 953 0
8065 7937 953 0 8066 7938 953 0 8067 7939 953 0 8068 7940 953 0 8069 7941 953 0 8070 7942 953 0
8071 7943 953 0 8072 7936 953 0 8073 7937 953 0 8074 7938 953 0 8075 7939 953 0 8076 7940 953 0
8077 7941 953 0 8078 7942 953 0 8079 7943 953 0 8080 7968 953 0 8081 7969 953 0 8082 7970 953 0
8083 7971 953 0 8084 7972 953 0 8085 7973 953 0 8086 7974 953 0 8087 7975 953 0 8088 7968 953 0
8089 7969 953 0 8090 7970 953 0 8091 7971 953 0 8092 7972 953 0 8093 7973 953 0 8094 7974 953 0
8095 7975 953 0 8096 8032 953 0 8097 8033 953 0 8098 8034 953 0 8099 8035 953 0 8100 8036 953 0
8101 8037 953 0 8102 8038 953 0 8103 8039 953 0 8104 8032 953 0 8105 8033 953 0 8106 8034 953 0
8107 8035 953 0 8108 8036 953 0 8109 8037 953 0 8110 8038 953 0 8111 8039 953 0 8114 8048 953 0
8115 945 953 0 8116 940 953 0 8118 945 834 0 8119 945 834 953 8124 945 953 0 8130 8052 953 0
8131 951 953 0 8132 942 953 0 8134 951 834 0 8135 951 834 953 8140 951 953 0 8146 953 776 768
8147 953 776 769 8150 953 834 0 8151 953 776 834 8162 965 776 768 8163 965 776 769
8164 961 787 0 8166 965 834 0 8167 965 776 834 8178 8060 953 0 8179 969 953 0 8180 974 953 0
8182 969 834 0 8183 969 834 953 8188 969 953 0 64256 102 102 0 64257 102 105 0 64258 102 108 0
64259 102 102 105 64260 102 102 108 64261 115 116 0 64262 115 116 0 64275 1396 1398 0
64276 1396 1381 0 64277 1396 1387 0 64278 1406 1398 0 64279 1396 1389 0"

/-- The folding of a code that folds to one code. -/
def foldOne : List Nat → Nat → Option Nat
  | first :: count :: step :: target :: rest, n =>
    if first ≤ n ∧ n < first + count * step ∧ (n - first) % step = 0 then
      some (target + (n - first))
    else foldOne rest n
  | _, _ => none

/-- The folding of a code that folds to several codes. -/
def foldLong : List Nat → Nat → Option (List Nat)
  | code :: a :: b :: c :: rest, n =>
    if code = n then some ([a, b, c].filter (· != 0)) else foldLong rest n
  | _, _ => none

def foldChar (c : Char) : List Char :=
  match foldOne foldingRows c.toNat with
  | some n => [Char.ofNat n]
  | none =>
    match foldLong longFoldingRows c.toNat with
    | some ns => ns.map Char.ofNat
    | none => [c]

def foldCase (cs : List Char) : List Char :=
  cs.flatMap foldChar

end SnippetPage.Markdown
