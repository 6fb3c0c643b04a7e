import FocusJournal.Text.CodeTable

/-!
# The characters of host names

How a character counts in the name of a host: as itself, as other characters, not at all, or as a reason to refuse the
name. Upper case becomes lower case, and compatibility forms become plain ones.

* `spell?` gives what a character counts as.
-/

namespace FocusJournal.Url

open Text (CodeTable)

/-- The characters that no name may have, as gaps and lengths. -/
def refusedText : String :=
"128 32 728 2 6 4 7 1 1 1 20 1 397 1 38 2 50 2 3 1 55 8 27 4 6 17 22 1 192 1 48 2 59 2 101 14 59 2 49 2 15 1 28 2 1 1
11 5 32 7 75 1 161 1 8 2 2 2 22 1 7 1 1 3 4 2 9 2 2 2 4 8 1 4 2 1 5 2 25 2 3 1 6 4 2 2 22 1 7 1 2 1 2 1 2 2 1 1 5 4 2
2 3 3 1 7 4 1 1 7 17 10 3 1 9 1 3 1 22 1 7 1 2 1 5 2 10 1 3 1 3 2 1 15 4 2 12 7 7 1 3 1 8 2 2 2 22 1 7 1 2 1 5 2 9 2 2
2 3 7 3 4 2 1 5 2 18 10 2 1 6 3 3 1 4 3 2 1 1 1 2 3 2 3 3 3 12 4 5 3 3 1 4 2 1 6 1 14 21 5 13 1 3 1 23 1 16 2 9 1 3 1
4 7 2 1 3 1 2 2 4 2 10 7 22 1 3 1 23 1 10 1 5 2 9 1 3 1 4 7 2 5 3 1 4 2 10 1 3 12 13 1 3 1 51 1 3 1 6 4 16 2 26 1 3 1
18 3 24 1 9 1 1 2 7 3 1 4 6 1 1 1 8 6 10 2 3 12 58 4 29 37 2 1 1 1 5 1 24 1 1 1 23 2 5 1 1 1 7 1 10 2 4 32 72 1 36 4
39 1 36 1 15 1 13 37 198 1 1 5 1 2 377 1 4 2 7 1 1 1 4 2 41 1 4 2 33 1 4 2 7 1 1 1 4 2 15 1 57 1 4 2 67 2 32 3 26 6 86
2 6 2 640 1 28 3 89 7 22 9 24 9 20 12 13 1 3 1 2 12 94 2 10 6 10 6 26 6 89 7 43 5 70 10 31 1 12 4 12 4 1 3 42 2 5 11
44 4 26 6 11 3 62 2 65 1 29 2 11 6 10 6 14 2 46 2 12 20 77 1 166 8 60 3 15 3 62 5 43 2 11 8 43 5 534 2 6 2 38 2 6 2 8
1 1 1 1 1 1 1 31 2 53 1 15 1 14 2 6 1 19 2 3 1 9 1 14 2 20 3 1 7 54 5 8 2 27 1 13 3 34 14 33 15 140 4 666 22 11 21 40
20 1752 2 382 5 45 1 1 5 1 2 56 7 2 14 24 9 7 1 7 1 7 1 7 1 7 1 7 1 7 1 7 1 126 34 26 1 89 12 214 42 64 1 86 2 103 5
43 1 94 1 86 10 47 1 418 1 4 1 16 1 28852 3 55 9 348 20 184 8 221 20 60 3 10 6 56 8 70 8 12 6 116 11 30 3 78 1 11 4 33
1 55 9 14 2 10 2 103 24 28 10 6 2 6 2 6 9 7 1 7 1 60 4 126 2 10 6 11172 12 23 4 49 8452 366 2 106 38 7 12 5 5 26 1 5 1
1 1 2 1 2 1 650 32 34 1 6 7 16 1 33 2 19 1 4 4 5 1 135 2 1 1 190 3 6 2 6 2 6 2 3 3 7 1 7 17 12 1 26 1 19 1 2 1 15 2 14
34 123 5 3 4 45 3 88 1 13 3 1 47 46 130 29 3 49 15 28 4 36 9 30 5 43 5 30 1 37 4 14 42 158 2 10 6 36 4 36 4 40 8 52 11
12 1 15 1 7 1 2 1 11 1 15 1 7 1 2 3 52 12 311 9 22 10 8 24 6 1 42 1 9 69 6 2 1 1 44 1 2 3 1 2 23 1 72 8 9 48 19 1 2 5
33 3 27 5 27 38 56 4 20 2 50 1 2 5 8 1 3 1 29 2 3 4 10 7 9 7 64 32 39 4 12 9 54 3 29 2 27 5 26 7 4 12 7 80 73 55 51 13
51 7 46 8 10 6 38 3 29 8 2 208 31 1 42 1 3 2 2 16 6 8 9 33 46 8 42 22 26 38 28 20 23 9 78 4 36 9 62 1 5 13 25 7 10 6
53 1 18 8 39 9 96 1 20 11 18 1 47 62 7 1 1 1 4 1 15 1 11 6 59 5 10 6 4 1 8 2 2 2 22 1 7 1 2 1 5 1 10 2 2 2 3 2 1 6 1 5
7 2 7 3 5 11 10 1 1 2 1 1 38 1 10 1 1 2 1 1 4 1 10 1 2 8 2 29 92 1 5 30 72 8 10 166 54 2 38 34 69 11 10 6 13 19 58 6
10 6 20 28 27 2 15 4 23 185 60 100 83 12 8 2 1 2 8 1 2 1 30 1 2 2 12 9 10 70 8 2 46 2 11 27 72 8 83 13 73 7 10 86 8 88
34 14 10 6 9 1 45 1 14 10 29 3 32 2 22 1 14 73 7 1 2 1 44 3 1 1 2 1 9 8 10 6 6 1 2 1 37 1 2 1 6 7 10 6 44 4 10 246 25
7 17 1 41 3 29 85 1 15 50 13 923 102 111 1 5 11 196 2636 99 13 1072 16 22 10 3995 5 583 6841 58 1734 569 7 31 1 10 4
81 1 10 6 30 2 6 10 70 10 10 1 7 1 21 5 19 432 58 198 91 5 25 2 25 44 75 4 57 7 17 64 5 11 7 9 7382 41 32 97 115 8701
4 1 7 1 2 1 291 15 1 29 3 2 1 14 4 8 396 2308 107 5 13 3 9 7 10 2 8 3932 253 3 436 6 23 15 17 15 46 2 23 9 116 60 246
10 39 2 194 21 70 122 20 12 20 12 87 9 25 135 85 1 71 1 2 2 1 2 2 2 4 1 12 1 1 1 7 1 65 1 4 2 8 1 7 1 28 1 4 1 5 1 1 3
7 1 340 2 292 2 702 15 5 1 15 1104 31 6 6 213 7 1 17 2 7 1 2 1 5 5 62 33 1 112 45 3 14 2 10 4 2 320 31 17 58 5 1 464
42 214 43 4 1 192 31 1 22 8 2 224 7 1 4 1 2 1 15 1 197 2 16 41 76 4 10 4 2 785 68 76 61 194 4 1 27 1 2 1 1 2 1 1 10 1
4 1 1 1 1 6 1 4 1 1 1 1 1 1 3 1 2 1 1 2 1 1 1 1 1 1 1 1 1 1 2 1 1 2 4 1 7 1 4 1 4 1 1 1 10 1 17 5 3 1 5 1 17 52 2 270
44 4 100 12 15 2 15 1 15 1 37 11 173 56 29 13 44 4 9 7 2 14 6 154 985 3 17 3 13 3 218 6 12 4 1 15 12 4 56 8 10 6 40 8
30 2 12 4 2 14 9 39 344 8 14 2 13 3 11 3 57 1 1 4 16 2 12 4 10 7 147 1 103 1029 42720 32 4382 2 5774 2 7473 15 622
2466 542 1506 4939 5 8490 707718 240 196112"

/-- The characters that no name may have. -/
def refused : CodeTable Unit := .ofSets refusedText

/-- The characters that count as nothing, as gaps and lengths. -/
def silentText : String :=
"173 1 673 1 3599 2 1619 2 85 5 2043 1 84 5 5 6 4340 1 52379 16 239 1 160 1 48383 4 5327 8 798597 240"

/-- The characters that count as nothing. -/
def silent : CodeTable Unit := .ofSets silentText

/-- Runs of characters that count as the characters of another run, whose first one is given. -/
def shiftedText : String :=
"65 26 97 69 1 32 9 1 97 7 2 50 1 1 956 3 1 49 0 1 111 5 23 224 1 7 248 153 1 255 6 1 115 1 1 595 4 1 596 0 1 392 1 2
598 0 1 396 2 1 477 0 1 601 0 1 603 0 1 402 1 1 608 0 1 611 1 1 617 0 1 616 0 1 409 3 1 623 0 1 626 1 1 629 6 1 640 0
1 424 1 1 643 2 1 429 1 1 648 0 1 432 1 2 650 4 1 658 0 1 441 3 1 445 55 1 501 1 1 405 0 1 447 40 1 414 25 1 11365 0 1
572 1 1 410 0 1 11366 2 1 578 1 1 384 0 1 649 0 1 652 106 1 104 0 1 614 0 1 106 0 1 114 0 1 633 0 1 635 0 1 641 0 1
119 0 1 121 39 1 611 0 1 108 0 1 115 0 1 120 0 1 661 91 2 768 1 1 787 1 1 953 46 1 697 1 1 887 7 1 59 0 1 1011 6 1 940
0 1 183 0 3 941 1 1 972 1 2 973 1 17 945 1 9 963 35 1 983 0 1 946 0 1 952 0 1 965 0 1 973 0 1 971 0 1 966 0 1 960 25 1
954 0 1 961 0 1 963 1 1 952 0 1 949 1 1 1016 1 1 963 0 1 1019 2 3 891 0 16 1104 0 32 1072 144 1 1231 112 38 1377 2485
1 3851 403 38 11520 1 1 11559 5 1 11565 46 1 4316 763 6 5104 2178 1 1074 0 1 1076 0 1 1086 0 2 1089 0 1 1090 0 1 1098
0 1 1123 0 1 42571 0 1 7306 6 43 4304 2 3 4349 108 1 97 0 1 230 3 1 101 0 1 477 0 8 103 1 1 111 0 1 547 0 1 112 0 1
114 0 2 116 0 1 119 0 1 97 0 2 592 0 1 7426 0 1 98 0 2 100 0 1 601 0 2 603 0 1 103 1 1 107 0 1 109 0 1 331 0 1 111 0 1
596 0 2 7446 0 1 112 0 2 116 0 1 7453 0 1 623 0 1 118 0 1 7461 0 3 946 0 2 966 0 1 105 0 1 114 0 2 117 0 2 946 0 1 961
0 2 966 13 1 1085 34 1 594 0 1 99 0 1 597 0 1 240 0 1 604 0 1 102 0 1 607 0 1 609 0 1 613 0 3 616 0 1 7547 0 1 669 0 1
621 0 1 7557 0 1 671 0 1 625 0 1 624 0 4 626 0 1 632 0 2 642 0 1 427 0 2 649 0 1 7452 0 2 651 0 1 122 0 3 656 0 1 952
219 1 7777 2 1 223 105 8 7936 8 6 7952 10 8 7968 8 8 7984 8 6 8000 26 8 8032 1 1 940 1 1 941 1 1 942 1 1 943 1 1 972 1
1 973 1 1 974 58 2 8112 0 1 8048 0 1 940 2 1 953 9 1 8050 0 1 941 0 1 8052 0 1 942 7 1 912 4 2 8144 0 1 8054 0 1 943 7
1 944 4 2 8160 0 1 8058 0 1 973 0 1 8165 2 1 96 8 1 8056 0 1 972 0 1 8060 0 1 974 4 1 32 0 1 32 0 1 32 0 1 32 0 1 32 0
1 32 0 1 32 0 1 32 0 1 32 0 1 32 0 1 32 6 1 8208 29 1 32 47 1 32 16 1 48 0 1 105 2 6 52 0 1 43 0 1 8722 0 1 61 0 2 40
0 1 110 0 10 48 0 1 43 0 1 8722 0 1 61 0 2 40 1 1 97 0 1 101 0 1 111 0 1 120 0 1 601 0 1 104 0 4 107 0 1 112 0 2 115
101 1 99 4 1 603 2 2 103 0 1 104 0 1 104 0 1 104 0 1 295 0 1 105 0 1 105 0 1 108 6 3 112 0 1 114 0 1 114 6 1 122 1 1
969 1 1 122 1 1 107 0 1 229 0 2 98 1 1 101 0 2 101 0 1 8526 0 1 109 0 1 111 0 4 1488 0 1 105 2 1 960 0 1 947 0 1 947 0
1 960 0 1 8721 4 1 100 0 2 100 0 2 105 22 1 105 3 1 118 4 1 120 2 1 108 0 2 99 0 1 109 0 1 105 3 1 118 4 1 120 2 1 108
0 2 99 0 1 109 3 1 8580 421 2 12296 309 9 49 77 26 97 0 26 97 0 1 48 1813 48 11312 48 1 11361 1 1 619 0 1 7549 0 1 637
8 1 593 0 1 625 0 1 592 0 1 594 1 1 11379 2 1 11382 6 1 106 0 1 118 0 2 575 114 1 11507 124 1 11617 303 1 27597 83 1
40863 12 1 19968 0 1 20008 0 1 20022 0 1 20031 0 1 20057 0 1 20101 0 1 20108 0 1 20128 0 1 20154 0 1 20799 0 1 20837 0
1 20843 0 1 20866 0 1 20886 0 1 20907 0 1 20960 0 1 20981 0 1 20992 0 1 21147 0 1 21241 0 1 21269 0 1 21274 0 1 21304
0 1 21313 0 1 21340 0 1 21353 0 1 21378 0 1 21430 0 1 21448 0 1 21475 0 1 22231 0 1 22303 0 1 22763 0 1 22786 0 1
22794 0 1 22805 0 1 22823 0 1 22899 0 1 23376 0 1 23424 0 1 23544 0 1 23567 0 1 23586 0 1 23608 0 1 23662 0 1 23665 0
1 24027 0 1 24037 0 1 24049 0 1 24062 0 1 24178 0 1 24186 0 1 24191 0 1 24308 0 1 24318 0 1 24331 0 1 24339 0 1 24400
0 1 24417 0 1 24435 0 1 24515 0 1 25096 0 1 25142 0 1 25163 0 1 25903 0 1 25908 0 1 25991 0 1 26007 0 1 26020 0 1
26041 0 1 26080 0 1 26085 0 1 26352 0 1 26376 0 1 26408 0 1 27424 0 1 27490 0 1 27513 0 1 27571 0 1 27595 0 1 27604 0
1 27611 0 1 27663 0 1 27668 0 1 27700 0 1 28779 0 1 29226 0 1 29238 0 1 29243 0 1 29247 0 1 29255 0 1 29273 0 1 29275
0 1 29356 0 1 29572 0 1 29577 0 1 29916 0 1 29926 0 1 29976 0 1 29983 0 1 29992 0 1 30000 0 1 30091 0 1 30098 0 1
30326 0 1 30333 0 1 30382 0 1 30399 0 1 30446 0 1 30683 0 1 30690 0 1 30707 0 1 31034 0 1 31160 0 1 31166 0 1 31348 0
1 31435 0 1 31481 0 1 31859 0 1 31992 0 1 32566 0 1 32593 0 1 32650 0 1 32701 0 1 32769 0 1 32780 0 1 32786 0 1 32819
0 1 32895 0 1 32905 0 1 33251 0 1 33258 0 1 33267 0 1 33276 0 1 33292 0 1 33307 0 1 33311 0 1 33390 0 1 33394 0 1
33400 0 1 34381 0 1 34411 0 1 34880 0 1 34892 0 1 34915 0 1 35198 0 1 35211 0 1 35282 0 1 35328 0 1 35895 0 1 35910 0
1 35925 0 1 35960 0 1 35997 0 1 36196 0 1 36208 0 1 36275 0 1 36523 0 1 36554 0 1 36763 0 1 36784 0 1 36789 0 1 37009
0 1 37193 0 1 37318 0 1 37324 0 1 37329 0 1 38263 0 1 38272 0 1 38428 0 1 38582 0 1 38585 0 1 38632 0 1 38737 0 1
38750 0 1 38754 0 1 38761 0 1 38859 0 1 38893 0 1 38899 0 1 38913 0 1 39080 0 1 39131 0 1 39135 0 1 39318 0 1 39321 0
1 39340 0 1 39592 0 1 39640 0 1 39647 0 1 39717 0 1 39727 0 1 39730 0 1 39740 0 1 39770 0 1 40165 0 1 40565 0 1 40575
0 1 40613 0 1 40635 0 1 40643 0 1 40653 0 1 40657 0 1 40697 0 1 40701 0 1 40718 0 1 40723 0 1 40736 0 1 40763 0 1
40778 0 1 40786 0 1 40845 0 1 40860 0 1 40864 42 1 32 1 1 46 51 1 12306 1 1 21313 0 2 21316 246 2 4352 0 1 4522 0 1
4354 0 2 4524 0 3 4355 0 6 4528 0 1 4378 0 3 4358 0 1 4385 0 10 4361 0 21 4449 1 2 4372 0 2 4551 0 1 4556 0 1 4558 0 1
4563 0 1 4567 0 1 4569 0 1 4380 0 1 4573 0 1 4575 0 2 4381 0 1 4384 0 2 4386 0 1 4391 0 1 4393 0 5 4395 0 1 4402 0 1
4406 0 1 4416 0 1 4423 0 1 4428 0 2 4593 0 3 4439 0 2 4484 0 1 4488 0 2 4497 0 1 4500 0 1 4510 0 1 4513 3 1 19968 0 1
20108 0 1 19977 0 1 22235 0 1 19978 0 1 20013 0 1 19979 0 1 30002 0 1 20057 0 1 19993 0 1 19969 0 1 22825 0 1 22320 0
1 20154 164 1 21839 0 1 24188 0 1 25991 0 1 31631 24 1 4352 0 2 4354 0 3 4357 0 1 4361 0 2 4363 0 5 4366 0 1 44032 0 1
45208 0 1 45796 0 1 46972 0 1 47560 0 1 48148 0 1 49324 0 1 50500 0 1 51088 0 1 52264 0 1 52852 0 1 53440 0 1 54028 0
1 54616 2 1 50864 1 1 19968 0 1 20108 0 1 19977 0 1 22235 0 1 20116 0 1 20845 0 1 19971 0 1 20843 0 1 20061 0 1 21313
0 1 26376 0 1 28779 0 1 27700 0 1 26408 0 1 37329 0 1 22303 0 1 26085 0 1 26666 0 1 26377 0 1 31038 0 1 21517 0 1
29305 0 1 36001 0 1 31069 0 1 21172 0 1 31192 0 1 30007 0 1 22899 0 1 36969 0 1 20778 0 1 21360 0 1 27880 0 1 38917 0
1 20241 0 1 20889 0 1 27491 0 1 19978 0 1 20013 0 1 19979 0 1 24038 0 1 21491 0 1 21307 0 1 23447 0 1 23398 0 1 30435
0 1 20225 0 1 36039 0 1 21332 0 1 22812 31 1 12450 0 1 12452 0 1 12454 0 1 12456 0 2 12458 0 1 12461 0 1 12463 0 1
12465 0 1 12467 0 1 12469 0 1 12471 0 1 12473 0 1 12475 0 1 12477 0 1 12479 0 1 12481 0 1 12484 0 1 12486 0 1 12488 0
6 12490 0 1 12498 0 1 12501 0 1 12504 0 1 12507 0 5 12510 0 1 12516 0 1 12518 0 6 12520 0 4 12527 29597 1 1098 0 1
1100 210 1 42863 12 1 7545 13 1 42892 1 1 613 28 1 614 0 1 604 0 1 609 0 1 620 0 1 618 1 1 670 0 1 647 0 1 669 0 1
43859 16 1 42900 0 1 642 0 1 7566 4 1 612 16 1 411 20 1 115 0 1 99 0 1 102 0 1 113 0 1 42998 2 1 295 0 1 339 866 1
42791 0 1 43831 0 1 619 0 1 43858 9 1 653 6 80 5024 19776 1 35912 0 1 26356 0 1 36554 0 1 36040 0 1 28369 0 1 20018 0
1 21477 0 1 40860 0 1 40860 0 1 22865 0 1 37329 0 1 21895 0 1 22856 0 1 25078 0 1 30313 0 1 32645 0 1 34367 0 1 34746
0 1 35064 0 1 37007 0 1 27138 0 1 27931 0 1 28889 0 1 29662 0 1 33853 0 1 37226 0 1 39409 0 1 20098 0 1 21365 0 1
27396 0 1 29211 0 1 34349 0 1 40478 0 1 23888 0 1 28651 0 1 34253 0 1 35172 0 1 25289 0 1 33240 0 1 34847 0 1 24266 0
1 26391 0 1 28010 0 1 29436 0 1 37070 0 1 20358 0 1 20919 0 1 21214 0 1 25796 0 1 27347 0 1 29200 0 1 30439 0 1 32769
0 1 34310 0 1 34396 0 1 36335 0 1 38706 0 1 39791 0 1 40442 0 1 30860 0 1 31103 0 1 32160 0 1 33737 0 1 37636 0 1
40575 0 1 35542 0 1 22751 0 1 24324 0 1 31840 0 1 32894 0 1 29282 0 1 30922 0 1 36034 0 1 38647 0 1 22744 0 1 23650 0
1 27155 0 1 28122 0 1 28431 0 1 32047 0 1 32311 0 1 38475 0 1 21202 0 1 32907 0 1 20956 0 1 20940 0 1 31260 0 1 32190
0 1 33777 0 1 38517 0 1 35712 0 1 25295 0 1 27138 0 1 35582 0 1 20025 0 1 23527 0 1 24594 0 1 29575 0 1 30064 0 1
21271 0 1 30971 0 1 20415 0 1 24489 0 1 19981 0 1 27852 0 1 25976 0 1 32034 0 1 21443 0 1 22622 0 1 30465 0 1 33865 0
1 35498 0 1 27578 0 1 36784 0 1 27784 0 1 25342 0 1 33509 0 1 25504 0 1 30053 0 1 20142 0 1 20841 0 1 20937 0 1 26753
0 1 31975 0 1 33391 0 1 35538 0 1 37327 0 1 21237 0 1 21570 0 1 22899 0 1 24300 0 1 26053 0 1 28670 0 1 31018 0 1
38317 0 1 39530 0 1 40599 0 1 40654 0 1 21147 0 1 26310 0 1 27511 0 1 36706 0 1 24180 0 1 24976 0 1 25088 0 1 25754 0
1 28451 0 1 29001 0 1 29833 0 1 31178 0 1 32244 0 1 32879 0 1 36646 0 1 34030 0 1 36899 0 1 37706 0 1 21015 0 1 21155
0 1 21693 0 1 28872 0 1 35010 0 1 35498 0 1 24265 0 1 24565 0 1 25467 0 1 27566 0 1 31806 0 1 29557 0 1 20196 0 1
22265 0 1 23527 0 1 23994 0 1 24604 0 1 29618 0 1 29801 0 1 32666 0 1 32838 0 1 37428 0 1 38646 0 1 38728 0 1 38936 0
1 20363 0 1 31150 0 1 37300 0 1 38584 0 1 24801 0 1 20102 0 1 20698 0 1 23534 0 1 23615 0 1 26009 0 1 27138 0 1 29134
0 1 30274 0 1 34044 0 1 36988 0 1 40845 0 1 26248 0 1 38446 0 1 21129 0 1 26491 0 1 26611 0 1 27969 0 1 28316 0 1
29705 0 1 30041 0 1 30827 0 1 32016 0 1 39006 0 1 20845 0 1 25134 0 1 38520 0 1 20523 0 1 23833 0 1 28138 0 1 36650 0
1 24459 0 1 24900 0 1 26647 0 1 29575 0 1 38534 0 1 21033 0 1 21519 0 1 23653 0 1 26131 0 1 26446 0 1 26792 0 1 27877
0 1 29702 0 1 30178 0 1 32633 0 1 35023 0 1 35041 0 1 37324 0 1 38626 0 1 21311 0 1 28346 0 1 21533 0 1 29136 0 1
29848 0 1 34298 0 1 38563 0 1 40023 0 1 40607 0 1 26519 0 1 28107 0 1 33256 0 1 31435 0 1 31520 0 1 31890 0 1 29376 0
1 28825 0 1 35672 0 1 20160 0 1 33590 0 1 21050 0 1 20999 0 1 24230 0 1 25299 0 1 31958 0 1 23429 0 1 27934 0 1 26292
0 1 36667 0 1 34892 0 1 38477 0 1 35211 0 1 24275 0 1 20800 0 1 21952 2 1 22618 1 1 26228 2 1 20958 0 1 29482 0 1
30410 0 1 31036 0 1 31070 0 1 31077 0 1 31119 0 1 38742 0 1 31934 0 1 32701 1 1 34322 1 1 35576 2 1 36920 0 1 37117 3
1 39151 0 1 39164 0 1 39208 0 1 40372 0 1 37086 0 1 38583 0 1 20398 0 1 20711 0 1 20813 0 1 21193 0 1 21220 0 1 21329
0 1 21917 0 1 22022 0 1 22120 0 1 22592 0 1 22696 0 1 23652 0 1 23662 0 1 24724 0 1 24936 0 1 24974 0 1 25074 0 1
25935 0 1 26082 0 1 26257 0 1 26757 0 1 28023 0 1 28186 0 1 28450 0 1 29038 0 1 29227 0 1 29730 0 1 30865 0 1 31038 0
1 31049 0 1 31048 0 1 31056 0 1 31062 0 1 31069 0 2 31117 0 1 31296 0 1 31361 0 1 31680 0 1 32244 0 1 32265 0 1 32321
0 1 32626 0 1 32773 0 1 33261 0 1 33401 0 1 33401 0 1 33879 0 1 35088 0 1 35222 0 1 35585 0 1 35641 0 1 36051 0 1
36104 0 1 36790 0 1 36920 0 1 38627 0 1 38911 0 1 38971 0 1 24693 0 1 148206 0 1 33304 2 1 20006 0 1 20917 0 1 20840 0
1 20352 0 1 20805 0 1 20864 0 1 21191 0 1 21242 0 1 21917 0 1 21845 0 1 21913 0 1 21986 0 1 22618 0 1 22707 0 1 22852
0 1 22868 0 1 23138 0 1 23336 0 1 24274 0 1 24281 0 1 24425 0 1 24493 0 1 24792 0 1 24910 0 1 24840 0 1 24974 0 1
24928 0 1 25074 0 1 25140 0 1 25540 0 1 25628 0 1 25682 0 1 25942 0 1 26228 0 1 26391 0 1 26395 0 1 26454 0 1 27513 0
1 27578 0 1 27969 0 1 28379 0 1 28363 0 1 28450 0 1 28702 0 1 29038 0 1 30631 0 1 29237 0 1 29359 0 1 29482 0 1 29809
0 1 29958 0 1 30011 0 1 30237 0 1 30239 0 1 30410 0 1 30427 0 1 30452 0 1 30538 0 1 30528 0 1 30924 0 1 31409 0 1
31680 0 1 31867 0 1 32091 0 1 32244 0 1 32574 0 1 32773 0 1 33618 0 1 33775 0 1 34681 0 1 35137 0 1 35206 0 1 35222 0
1 35519 0 1 35576 0 1 35531 0 1 35585 0 1 35582 0 1 35565 0 1 35641 0 1 35722 0 1 36104 0 1 36664 0 1 36978 0 1 37273
0 1 37494 0 1 38524 0 1 38627 0 1 38742 0 1 38875 0 1 38911 0 1 38923 0 1 38971 0 1 39698 0 1 40860 0 1 141386 0 1
141380 0 1 144341 0 1 15261 0 1 16408 0 1 16441 0 1 152137 0 1 154832 0 1 163539 0 1 40771 0 1 40846 70 1 1506 0 1
1488 0 2 1491 0 3 1499 0 1 1512 0 1 1514 0 1 43 38 1 1649 0 1 1649 0 1 1659 0 1 1659 0 1 1659 0 1 1659 0 1 1662 0 1
1662 0 1 1662 0 1 1662 0 1 1664 0 1 1664 0 1 1664 0 1 1664 0 1 1658 0 1 1658 0 1 1658 0 1 1658 0 1 1663 0 1 1663 0 1
1663 0 1 1663 0 1 1657 0 1 1657 0 1 1657 0 1 1657 0 1 1700 0 1 1700 0 1 1700 0 1 1700 0 1 1702 0 1 1702 0 1 1702 0 1
1702 0 1 1668 0 1 1668 0 1 1668 0 1 1668 0 1 1667 0 1 1667 0 1 1667 0 1 1667 0 1 1670 0 1 1670 0 1 1670 0 2 1670 0 1
1671 0 1 1671 0 1 1671 0 1 1677 0 1 1677 0 1 1676 0 1 1676 0 1 1678 0 1 1678 0 1 1672 0 1 1672 0 1 1688 0 1 1688 0 1
1681 0 1 1681 0 1 1705 0 1 1705 0 1 1705 0 1 1705 0 1 1711 0 1 1711 0 1 1711 0 1 1711 0 1 1715 0 1 1715 0 1 1715 0 1
1715 0 1 1713 0 1 1713 0 1 1713 0 1 1713 0 1 1722 0 2 1722 0 1 1723 0 1 1723 0 1 1723 0 1 1728 0 2 1728 0 1 1729 0 1
1729 0 1 1729 0 1 1726 0 1 1726 0 1 1726 0 1 1726 0 1 1746 0 2 1746 0 1 1747 33 1 1709 0 1 1709 0 1 1709 0 1 1709 0 1
1735 0 1 1735 0 1 1734 0 1 1734 0 1 1736 0 1 1736 1 1 1739 0 1 1739 0 1 1733 0 1 1733 0 1 1737 0 1 1737 0 1 1744 0 1
1744 0 1 1744 0 1 1744 0 1 1609 0 1 1609 18 1 1740 0 1 1740 0 1 1740 0 1 1740 528 1 44 0 1 12289 1 2 58 0 1 33 0 1 63
0 2 12310 24 1 8212 0 1 8211 0 1 95 0 1 95 0 2 40 0 1 123 0 1 125 0 2 12308 0 2 12304 0 2 12298 0 2 12296 0 4 12300 2
1 91 0 1 93 4 1 95 0 1 95 0 1 95 0 1 44 0 1 12289 2 1 59 0 1 58 0 1 63 0 1 33 0 1 8212 0 2 40 0 1 123 0 1 125 0 2
12308 0 1 35 0 1 38 0 2 42 0 1 45 0 1 60 0 1 62 0 1 61 1 1 92 0 2 36 0 1 64 20 2 1569 0 2 1570 0 2 1571 0 2 1572 0 2
1573 0 1 1574 0 1 1574 0 2 1574 0 2 1575 0 1 1576 0 1 1576 0 2 1576 0 2 1577 0 1 1578 0 1 1578 0 2 1578 0 1 1579 0 1
1579 0 2 1579 0 1 1580 0 1 1580 0 2 1580 0 1 1581 0 1 1581 0 2 1581 0 1 1582 0 1 1582 0 2 1582 0 2 1583 0 2 1584 0 2
1585 0 2 1586 0 1 1587 0 1 1587 0 2 1587 0 1 1588 0 1 1588 0 2 1588 0 1 1589 0 1 1589 0 2 1589 0 1 1590 0 1 1590 0 2
1590 0 1 1591 0 1 1591 0 2 1591 0 1 1592 0 1 1592 0 2 1592 0 1 1593 0 1 1593 0 2 1593 0 1 1594 0 1 1594 0 1 1594 0 1
1601 0 1 1601 0 1 1601 0 2 1601 0 1 1602 0 1 1602 0 2 1602 0 1 1603 0 1 1603 0 2 1603 0 1 1604 0 1 1604 0 2 1604 0 1
1605 0 1 1605 0 2 1605 0 1 1606 0 1 1606 0 2 1606 0 1 1607 0 1 1607 0 2 1607 0 2 1608 0 2 1609 0 1 1610 0 1 1610 0 1
1610 12 32 33 0 26 97 0 36 91 0 2 10629 0 1 46 0 2 12300 0 1 12289 0 1 12539 0 1 12530 0 1 12449 0 1 12451 0 1 12453 0
1 12455 0 1 12457 0 1 12515 0 1 12517 0 1 12519 0 1 12483 0 1 12540 0 1 12450 0 1 12452 0 1 12454 0 1 12456 0 2 12458
0 1 12461 0 1 12463 0 1 12465 0 1 12467 0 1 12469 0 1 12471 0 1 12473 0 1 12475 0 1 12477 0 1 12479 0 1 12481 0 1
12484 0 1 12486 0 1 12488 0 6 12490 0 1 12498 0 1 12501 0 1 12504 0 1 12507 0 5 12510 0 1 12516 0 1 12518 0 6 12520 0
1 12527 0 1 12531 0 2 12441 1 2 4352 0 1 4522 0 1 4354 0 2 4524 0 3 4355 0 6 4528 0 1 4378 0 3 4358 0 1 4385 0 10 4361
3 6 4449 2 6 4455 2 6 4461 2 3 4467 3 2 162 0 1 172 1 1 166 0 1 165 0 1 8361 1 1 9474 0 4 8592 0 1 9632 0 1 9675 1041
40 66600 136 36 66776 156 11 66967 1 15 66979 1 7 66995 1 2 67003 491 2 720 0 1 230 0 1 665 0 1 595 1 1 675 0 1 43878
0 1 677 0 1 676 0 2 598 0 1 7569 0 1 600 0 1 606 0 1 681 0 1 612 0 1 610 0 1 608 0 1 667 0 1 295 0 1 668 0 1 615 0 1
644 0 2 682 0 1 620 0 1 122628 0 1 42894 0 1 622 0 1 122629 0 1 654 0 1 122630 0 1 248 0 2 630 0 1 113 0 1 634 0 1
122632 0 2 637 0 1 640 0 1 680 0 1 678 0 1 43879 0 1 679 0 1 648 0 1 11377 1 1 655 0 2 673 0 1 664 0 3 448 0 1 122634
0 1 122654 1221 51 68800 157 22 68976 2874 32 71872 21888 32 93792 64 25 93883 24093 26 97 0 10 48 1798 26 97 0 26 97
0 26 97 0 7 97 1 18 105 0 26 97 0 26 97 3 1 100 2 1 103 2 2 106 2 4 110 1 8 115 0 4 97 4 6 105 1 11 112 0 26 97 0 26
97 0 2 97 1 4 100 2 8 106 1 7 115 1 26 97 0 2 97 1 4 100 1 5 105 1 1 111 3 7 115 1 26 97 0 26 97 0 26 97 0 26 97 0 26
97 0 26 97 0 26 97 0 26 97 0 26 97 0 26 97 0 26 97 0 26 97 0 26 97 0 1 305 0 1 567 2 17 945 0 1 952 0 7 963 0 1 8711 0
17 945 0 1 963 0 7 963 0 1 8706 0 1 949 0 1 952 0 1 954 0 1 966 0 1 961 0 1 960 0 17 945 0 1 952 0 7 963 0 1 8711 0 17
945 0 1 963 0 7 963 0 1 8706 0 1 949 0 1 952 0 1 954 0 1 966 0 1 961 0 1 960 0 17 945 0 1 952 0 7 963 0 1 8711 0 17
945 0 1 963 0 7 963 0 1 8706 0 1 949 0 1 952 0 1 954 0 1 966 0 1 961 0 1 960 0 17 945 0 1 952 0 7 963 0 1 8711 0 17
945 0 1 963 0 7 963 0 1 8706 0 1 949 0 1 952 0 1 954 0 1 966 0 1 961 0 1 960 0 17 945 0 1 952 0 7 963 0 1 8711 0 17
945 0 1 963 0 7 963 0 1 8706 0 1 949 0 1 952 0 1 954 0 1 966 0 1 961 0 1 960 0 1 989 0 1 989 2 10 48 0 10 48 0 10 48 0
10 48 0 10 48 2096 9 1072 0 3 1082 0 11 1086 0 1 1099 0 2 1101 0 1 42633 0 1 1241 0 1 1110 0 1 1112 0 1 1257 0 1 1199
0 1 1231 0 9 1072 0 2 1082 0 2 1086 0 1 1089 0 6 1091 0 2 1098 0 1 1169 0 1 1110 0 1 1109 0 1 1119 0 1 1195 0 1 42577
0 1 1201 2194 34 125218 1246 2 1575 0 1 1580 0 1 1583 1 1 1608 0 1 1586 0 1 1581 0 1 1591 0 1 1610 0 4 1603 0 1 1587 0
1 1593 0 1 1601 0 1 1589 0 1 1602 0 1 1585 0 1 1588 0 2 1578 0 1 1582 0 1 1584 0 1 1590 0 1 1592 0 1 1594 0 1 1646 0 1
1722 0 1 1697 0 1 1647 1 1 1576 0 1 1580 1 1 1607 2 1 1581 1 1 1610 0 4 1603 0 1 1587 0 1 1593 0 1 1601 0 1 1589 0 1
1602 1 1 1588 0 2 1578 0 1 1582 1 1 1590 1 1 1594 6 1 1580 4 1 1581 1 1 1610 4 1 1587 0 1 1593 1 1 1589 0 1 1602 1 1
1588 2 1 1582 1 1 1590 1 1 1594 1 1 1722 1 1 1647 1 1 1576 0 1 1580 1 1 1607 2 1 1581 0 1 1591 0 1 1610 3 1 1606 0 1
1587 0 1 1593 0 1 1601 0 1 1589 0 1 1602 1 1 1588 0 2 1578 0 1 1582 1 1 1590 0 1 1592 0 1 1594 0 1 1646 1 1 1697 1 2
1575 0 1 1580 0 1 1583 0 2 1607 0 1 1586 0 1 1581 0 1 1591 0 1 1610 1 3 1604 0 1 1587 0 1 1593 0 1 1601 0 1 1589 0 1
1602 0 1 1585 0 1 1588 0 2 1578 0 1 1582 0 1 1584 0 1 1590 0 1 1592 0 1 1594 5 1 1576 0 1 1580 0 1 1583 1 1 1608 0 1
1586 0 1 1581 0 1 1591 0 1 1610 1 3 1604 0 1 1587 0 1 1593 0 1 1601 0 1 1589 0 1 1602 0 1 1585 0 1 1588 0 2 1578 0 1
1582 0 1 1584 0 1 1590 0 1 1592 0 1 1594 623 1 99 0 1 114 3 26 97 184 1 12469 13 1 25163 0 1 23383 0 1 21452 0 1 12487
0 1 20108 0 1 22810 0 1 35299 0 1 22825 0 1 20132 0 1 26144 0 1 28961 0 1 26009 0 1 21069 0 1 24460 0 1 20877 0 1
26032 0 1 21021 0 1 32066 0 1 29983 0 1 36009 0 1 22768 0 1 21561 0 1 28436 0 1 25237 0 1 25429 0 1 19968 0 1 19977 0
1 36938 0 1 24038 0 1 20013 0 1 21491 0 1 25351 0 1 36208 0 1 25171 0 1 31105 0 1 31354 0 1 21512 0 1 28288 0 1 26377
0 1 26376 0 1 30003 0 1 21106 0 1 21942 0 1 37197 20 1 24471 0 1 21487 2462 10 48 64518 1 20029 0 1 20024 0 1 20033 0
1 131362 0 1 20320 0 1 20398 0 1 20411 0 1 20482 0 1 20602 0 1 20633 0 1 20711 0 1 20687 0 1 13470 0 1 132666 0 1
20813 0 1 20820 0 1 20836 0 1 20855 0 1 132380 0 1 13497 0 1 20839 0 1 20877 0 1 132427 0 1 20887 0 1 20900 0 1 20172
0 1 20908 0 1 20917 0 1 168415 0 1 20981 0 1 20995 0 1 13535 0 1 21051 0 1 21062 0 1 21106 0 1 21111 0 1 13589 0 1
21191 0 1 21193 0 1 21220 0 1 21242 0 2 21253 0 1 21271 0 1 21321 0 1 21329 0 1 21338 0 1 21363 0 1 21373 0 1 21375 0
1 21375 0 1 21375 0 1 133676 0 1 28784 0 1 21450 0 1 21471 0 1 133987 0 1 21483 0 1 21489 0 1 21510 0 1 21662 0 1
21560 0 1 21576 0 1 21608 0 1 21666 0 1 21750 0 1 21776 0 1 21843 0 1 21859 0 1 21892 0 1 21892 0 1 21913 0 1 21931 0
1 21939 0 1 21954 0 1 22294 0 1 22022 0 1 22295 0 1 22097 0 1 22132 0 1 20999 0 1 22766 0 1 22478 0 1 22516 0 1 22541
0 1 22411 0 1 22578 0 1 22577 0 1 22700 0 1 136420 0 1 22770 0 1 22775 0 1 22790 0 1 22810 0 1 22818 0 1 22882 0 1
136872 0 1 136938 0 1 23020 0 1 23067 0 1 23079 0 1 23000 0 1 23142 0 1 14062 0 1 14076 0 1 23304 0 1 23358 0 1 23358
0 1 137672 0 1 23491 0 1 23512 0 1 23527 0 1 23539 0 1 138008 0 1 23551 0 1 23558 0 1 24403 0 1 23586 0 1 14209 0 1
23648 0 1 23662 0 1 23744 0 1 23693 0 1 138724 0 1 23875 0 1 138726 0 1 23918 0 1 23915 0 1 23932 0 2 24033 0 1 14383
0 1 24061 0 1 24104 0 1 24125 0 1 24169 0 1 14434 0 1 139651 0 1 14460 0 1 24240 0 1 24243 0 1 24246 0 1 24266 0 1
172946 0 1 24318 0 1 140081 0 1 140081 0 1 33281 0 1 24354 0 1 24354 0 1 14535 0 1 144056 0 1 156122 0 1 24418 0 1
24427 0 1 14563 0 1 24474 0 1 24525 0 1 24535 0 1 24569 0 1 24705 0 1 14650 0 1 14620 0 1 24724 0 1 141012 0 1 24775 0
1 24904 0 1 24908 0 1 24910 0 1 24908 0 1 24954 0 1 24974 0 1 25010 0 1 24996 0 1 25007 0 1 25054 0 1 25074 0 1 25078
0 1 25104 0 1 25115 0 1 25181 0 1 25265 0 1 25300 0 1 25424 0 1 142092 0 1 25405 0 1 25340 0 1 25448 0 1 25475 0 1
25572 0 1 142321 0 1 25634 0 1 25541 0 1 25513 0 1 14894 0 1 25705 0 1 25726 0 1 25757 0 1 25719 0 1 14956 0 1 25935 0
1 25964 0 1 143370 0 1 26083 0 1 26360 0 1 26185 0 1 15129 0 1 26257 0 1 15112 0 1 15076 0 1 20882 0 1 20885 0 1 26368
0 1 26268 0 1 32941 0 1 17369 0 1 26391 0 1 26395 0 1 26401 0 1 26462 0 1 26451 0 1 144323 0 1 15177 0 1 26618 0 1
26501 0 1 26706 0 1 26757 0 1 144493 0 1 26766 0 1 26655 0 1 26900 0 1 15261 0 1 26946 0 1 27043 0 1 27114 0 1 27304 0
1 145059 0 1 27355 0 1 15384 0 1 27425 0 1 145575 0 1 27476 0 1 15438 0 1 27506 0 1 27551 0 2 27578 0 1 146061 0 1
138507 0 1 146170 0 1 27726 0 1 146620 0 1 27839 0 1 27853 0 1 27751 0 1 27926 0 1 27966 0 1 28023 0 1 27969 0 1 28009
0 1 28024 0 1 28037 0 1 146718 0 1 27956 0 1 28207 0 1 28270 0 1 15667 0 1 28363 0 1 28359 0 1 147153 0 1 28153 0 1
28526 0 1 147294 0 1 147342 0 1 28614 0 1 28729 0 1 28702 0 1 28699 0 1 15766 0 1 28746 0 1 28797 0 1 28791 0 1 28845
0 1 132389 0 1 28997 0 1 148067 0 1 29084 0 1 148395 0 1 29224 0 1 29237 0 1 29264 0 1 149000 0 1 29312 0 1 29333 0 1
149301 0 1 149524 0 1 29562 0 1 29579 0 1 16044 0 1 29605 0 1 16056 0 1 16056 0 1 29767 0 1 29788 0 1 29809 0 1 29829
0 1 29898 0 1 16155 0 1 29988 0 1 150582 0 1 30014 0 1 150674 0 1 30064 0 1 139679 0 1 30224 0 1 151457 0 1 151480 0 1
151620 0 1 16380 0 1 16392 0 1 30452 0 1 151795 0 1 151794 0 1 151833 0 1 151859 0 2 30494 0 1 30495 0 1 30538 0 1
16441 0 1 30603 0 1 16454 0 1 16534 0 1 152605 0 1 30798 0 1 30860 0 1 30924 0 1 16611 0 1 153126 0 1 31062 0 1 153242
0 1 153285 0 1 31119 0 1 31211 0 1 16687 0 1 31296 0 1 31306 0 1 31311 0 1 153980 0 1 154279 0 1 154279 0 1 31470 0 1
16898 0 1 154539 0 1 31686 0 1 31689 0 1 16935 0 1 154752 0 1 31954 0 1 17056 0 1 31976 0 1 31971 0 1 32000 0 1 155526
0 1 32099 0 1 17153 0 1 32199 0 1 32258 0 1 32325 0 1 17204 0 1 156200 0 1 156231 0 1 17241 0 1 156377 0 1 32634 0 1
156478 0 1 32661 0 1 32762 0 1 32773 0 1 156890 0 1 156963 0 1 32864 0 1 157096 0 1 32880 0 1 144223 0 1 17365 0 1
32946 0 1 33027 0 1 17419 0 1 33086 0 1 23221 0 1 157607 0 1 157621 0 1 144275 0 1 144284 0 1 33281 0 1 33284 0 1
36766 0 1 17515 0 1 33425 0 1 33419 0 1 33437 0 1 21171 0 1 33457 0 1 33459 0 1 33469 0 1 33510 0 1 158524 0 1 33509 0
1 33565 0 1 33635 0 1 33709 0 1 33571 0 1 33725 0 1 33767 0 1 33879 0 1 33619 0 1 33738 0 1 33740 0 1 33756 0 1 158774
0 1 159083 0 1 158933 0 1 17707 0 1 34033 0 1 34035 0 1 34070 0 1 160714 0 1 34148 0 1 159532 0 1 17757 0 1 17761 0 1
159665 0 1 159954 0 1 17771 0 1 34384 0 1 34396 0 1 34407 0 1 34409 0 1 34473 0 1 34440 0 1 34574 0 1 34530 0 1 34681
0 1 34600 0 1 34667 0 1 34694 0 1 17879 0 1 34785 0 1 34817 0 1 17913 0 1 34912 0 1 34915 0 1 161383 0 1 35031 0 1
35038 0 1 17973 0 1 35066 0 1 13499 0 1 161966 0 1 162150 0 1 18110 0 1 18119 0 1 35488 0 1 35565 0 1 35722 0 1 35925
0 1 162984 0 1 36011 0 1 36033 0 1 36123 0 1 36215 0 1 163631 0 1 133124 0 1 36299 0 1 36284 0 1 36336 0 1 133342 0 1
36564 0 1 36664 0 1 165330 0 1 165357 0 1 37012 0 1 37105 0 1 37137 0 1 165678 0 1 37147 0 1 37432 0 2 37591 0 1 37500
0 1 37881 0 1 37909 0 1 166906 0 1 38283 0 1 18837 0 1 38327 0 1 167287 0 1 18918 0 1 38595 0 1 23986 0 1 38691 0 1
168261 0 1 168474 0 1 19054 0 1 19062 0 1 38880 0 1 168970 0 1 19122 0 1 169110 0 1 38923 0 1 38923 0 1 38953 0 1
169398 0 1 39138 0 1 19251 0 1 39209 0 1 39335 0 1 39362 0 1 39422 0 1 19406 0 1 170800 0 1 39698 0 1 40000 0 1 40189
0 1 19662 0 1 19693 0 1 40295 0 1 172238 0 1 19704 0 1 172293 0 1 172558 0 1 172689 0 1 40635 0 1 19798 0 1 40697 0 1
40702 0 1 40709 0 1 40719 0 1 40726 0 1 40763 0 1 173568"

/-- Runs of characters that count as the characters of another run. -/
def shifted : CodeTable Nat := .ofValues shiftedText

/-- Runs of which every second character counts as the one that follows it. -/
def alternatingText : String :=
"256 47 257 5 3 309 2 5 314 3 7 322 2 45 331 2 5 378 4 3 387 27 5 417 14 3 436 23 15 462 2 17 479 9 39 505 3 17 547 19
9 583 289 3 881 101 23 985 113 33 1121 9 53 1163 2 13 1218 2 95 1233 6143 3 98 207 149 7681 11 95 7841 90 7 8017 435 3
108 2897 5 11368 20 99 11393 8 3 11500 31058 45 42561 19 27 42625 135 13 42787 3 61 42803 10 3 42874 2 9 42879 9 3
42897 3 19 42903 11 15 42933 4 3 42952 2 15 42957 76993 3 97 28 3 102 6541 3 1604 28 3 1603"

/-- Runs of which every second character, from the first, counts as one of another run. -/
def alternating : CodeTable Nat := .ofValues alternatingText

/-- The characters that count as several others. -/
def expandedText : String :=
"168 2 32 776 6 2 32 772 4 2 32 769 3 2 32 807 3 3 49 8260 52 0 3 49 8260 50 0 3 51 8260 52 113 2 105 775 1 2 105 106 0
2 105 106 11 2 108 183 0 2 108 183 8 2 700 110 122 2 100 382 0 2 100 382 0 2 100 382 0 2 108 106 0 2 108 106 0 2 108
106 0 2 110 106 0 2 110 106 0 2 110 106 36 2 100 122 0 2 100 122 0 2 100 122 228 2 32 774 0 2 32 775 0 2 32 778 0 2 32
808 0 2 32 771 0 2 32 779 102 2 776 769 53 2 32 953 9 2 32 769 0 3 32 776 769 513 2 1381 1410 237 2 1575 1652 0 2 1608
1652 0 2 1735 1652 0 2 1610 1652 735 2 2325 2364 0 2 2326 2364 0 2 2327 2364 0 2 2332 2364 0 2 2337 2364 0 2 2338 2364
0 2 2347 2364 0 2 2351 2364 124 2 2465 2492 0 2 2466 2492 1 2 2479 2492 83 2 2610 2620 2 2 2616 2620 34 2 2582 2620 0
2 2583 2620 0 2 2588 2620 2 2 2603 2620 253 2 2849 2876 0 2 2850 2876 725 2 3661 3634 127 2 3789 3762 40 2 3755 3737 0
2 3755 3745 101 2 3906 4023 9 2 3916 4023 4 2 3921 4023 4 2 3926 4023 4 2 3931 4023 12 2 3904 4021 9 2 3953 3954 1 2
3953 3956 0 2 4018 3968 0 3 4018 3953 3968 0 2 4019 3968 0 3 4019 3953 3968 7 2 3953 3968 17 2 3986 4023 9 2 3996 4023
4 2 4001 4023 4 2 4006 4023 4 2 4011 4023 12 2 3984 4021 3808 2 97 702 229 2 7936 953 0 2 7937 953 0 2 7938 953 0 2
7939 953 0 2 7940 953 0 2 7941 953 0 2 7942 953 0 2 7943 953 0 2 7936 953 0 2 7937 953 0 2 7938 953 0 2 7939 953 0 2
7940 953 0 2 7941 953 0 2 7942 953 0 2 7943 953 0 2 7968 953 0 2 7969 953 0 2 7970 953 0 2 7971 953 0 2 7972 953 0 2
7973 953 0 2 7974 953 0 2 7975 953 0 2 7968 953 0 2 7969 953 0 2 7970 953 0 2 7971 953 0 2 7972 953 0 2 7973 953 0 2
7974 953 0 2 7975 953 0 2 8032 953 0 2 8033 953 0 2 8034 953 0 2 8035 953 0 2 8036 953 0 2 8037 953 0 2 8038 953 0 2
8039 953 0 2 8032 953 0 2 8033 953 0 2 8034 953 0 2 8035 953 0 2 8036 953 0 2 8037 953 0 2 8038 953 0 2 8039 953 2 2
8048 953 0 2 945 953 0 2 940 953 2 2 8118 953 4 2 945 953 0 2 32 787 1 2 32 787 0 2 32 834 0 3 32 776 834 0 2 8052 953
0 2 951 953 0 2 942 953 2 2 8134 953 4 2 951 953 0 3 32 787 768 0 3 32 787 769 0 3 32 787 834 13 3 32 788 768 0 3 32
788 769 0 3 32 788 834 13 3 32 776 768 0 3 32 776 769 3 2 8060 953 0 2 969 953 0 2 974 953 2 2 8182 953 4 2 969 953 0
2 32 769 0 2 32 788 24 2 32 819 27 2 8242 8242 0 3 8242 8242 8242 1 2 8245 8245 0 3 8245 8245 8245 4 2 33 33 1 2 32
773 8 2 63 63 0 2 63 33 0 2 33 63 13 4 8242 8242 8242 8242 80 2 114 115 87 3 97 47 99 0 3 97 47 115 1 2 176 99 1 3 99
47 111 0 3 99 47 117 2 2 176 102 12 2 110 111 9 2 115 109 0 3 116 101 108 0 2 116 109 24 3 102 97 120 20 3 49 8260 55
0 3 49 8260 57 0 4 49 8260 49 48 0 3 49 8260 51 0 3 50 8260 51 0 3 49 8260 53 0 3 50 8260 53 0 3 51 8260 53 0 3 52
8260 53 0 3 49 8260 54 0 3 53 8260 54 0 3 49 8260 56 0 3 51 8260 56 0 3 53 8260 56 0 3 55 8260 56 0 2 49 8260 1 2 105
105 0 3 105 105 105 0 2 105 118 1 2 118 105 0 3 118 105 105 0 4 118 105 105 105 0 2 105 120 1 2 120 105 0 3 120 105
105 5 2 105 105 0 3 105 105 105 0 2 105 118 1 2 118 105 0 3 118 105 105 0 4 118 105 105 105 0 2 105 120 1 2 120 105 0
3 120 105 105 13 3 48 8260 51 162 2 8747 8747 0 3 8747 8747 8747 1 2 8750 8750 0 3 8750 8750 8750 568 2 49 48 0 2 49
49 0 2 49 50 0 2 49 51 0 2 49 52 0 2 49 53 0 2 49 54 0 2 49 55 0 2 49 56 0 2 49 57 0 2 50 48 0 3 40 49 41 0 3 40 50 41
0 3 40 51 41 0 3 40 52 41 0 3 40 53 41 0 3 40 54 41 0 3 40 55 41 0 3 40 56 41 0 3 40 57 41 0 4 40 49 48 41 0 4 40 49
49 41 0 4 40 49 50 41 0 4 40 49 51 41 0 4 40 49 52 41 0 4 40 49 53 41 0 4 40 49 54 41 0 4 40 49 55 41 0 4 40 49 56 41
0 4 40 49 57 41 0 4 40 50 48 41 20 3 40 97 41 0 3 40 98 41 0 3 40 99 41 0 3 40 100 41 0 3 40 101 41 0 3 40 102 41 0 3
40 103 41 0 3 40 104 41 0 3 40 105 41 0 3 40 106 41 0 3 40 107 41 0 3 40 108 41 0 3 40 109 41 0 3 40 110 41 0 3 40 111
41 0 3 40 112 41 0 3 40 113 41 0 3 40 114 41 0 3 40 115 41 0 3 40 116 41 0 3 40 117 41 0 3 40 118 41 0 3 40 119 41 0 3
40 120 41 0 3 40 121 41 0 3 40 122 41 1366 4 8747 8747 8747 8747 103 3 58 58 61 0 2 61 61 0 3 61 61 61 101 2 10973 824
1470 2 32 12441 0 2 32 12442 2 2 12424 12426 95 2 12467 12488 256 3 40 4352 41 0 3 40 4354 41 0 3 40 4355 41 0 3 40
4357 41 0 3 40 4358 41 0 3 40 4359 41 0 3 40 4361 41 0 3 40 4363 41 0 3 40 4364 41 0 3 40 4366 41 0 3 40 4367 41 0 3
40 4368 41 0 3 40 4369 41 0 3 40 4370 41 0 3 40 44032 41 0 3 40 45208 41 0 3 40 45796 41 0 3 40 46972 41 0 3 40 47560
41 0 3 40 48148 41 0 3 40 49324 41 0 3 40 50500 41 0 3 40 51088 41 0 3 40 52264 41 0 3 40 52852 41 0 3 40 53440 41 0 3
40 54028 41 0 3 40 54616 41 0 3 40 51452 41 0 4 40 50724 51204 41 0 4 40 50724 54980 41 1 3 40 19968 41 0 3 40 20108
41 0 3 40 19977 41 0 3 40 22235 41 0 3 40 20116 41 0 3 40 20845 41 0 3 40 19971 41 0 3 40 20843 41 0 3 40 20061 41 0 3
40 21313 41 0 3 40 26376 41 0 3 40 28779 41 0 3 40 27700 41 0 3 40 26408 41 0 3 40 37329 41 0 3 40 22303 41 0 3 40
26085 41 0 3 40 26666 41 0 3 40 26377 41 0 3 40 31038 41 0 3 40 21517 41 0 3 40 29305 41 0 3 40 36001 41 0 3 40 31069
41 0 3 40 21172 41 0 3 40 20195 41 0 3 40 21628 41 0 3 40 23398 41 0 3 40 30435 41 0 3 40 20225 41 0 3 40 36039 41 0 3
40 21332 41 0 3 40 31085 41 0 3 40 20241 41 0 3 40 33258 41 0 3 40 33267 41 12 3 112 116 101 0 2 50 49 0 2 50 50 0 2
50 51 0 2 50 52 0 2 50 53 0 2 50 54 0 2 50 55 0 2 50 56 0 2 50 57 0 2 51 48 0 2 51 49 0 2 51 50 0 2 51 51 0 2 51 52 0
2 51 53 28 2 52280 44256 0 2 51452 51032 51 2 51 54 0 2 51 55 0 2 51 56 0 2 51 57 0 2 52 48 0 2 52 49 0 2 52 50 0 2 52
51 0 2 52 52 0 2 52 53 0 2 52 54 0 2 52 55 0 2 52 56 0 2 52 57 0 2 53 48 0 2 49 26376 0 2 50 26376 0 2 51 26376 0 2 52
26376 0 2 53 26376 0 2 54 26376 0 2 55 26376 0 2 56 26376 0 2 57 26376 0 3 49 48 26376 0 3 49 49 26376 0 3 49 50 26376
0 2 104 103 0 3 101 114 103 0 2 101 118 0 3 108 116 100 47 2 20196 21644 0 4 12450 12497 12540 12488 0 4 12450 12523
12501 12449 0 4 12450 12531 12506 12450 0 3 12450 12540 12523 0 4 12452 12491 12531 12464 0 3 12452 12531 12481 0 3
12454 12457 12531 0 5 12456 12473 12463 12540 12489 0 4 12456 12540 12459 12540 0 3 12458 12531 12473 0 3 12458 12540
12512 0 3 12459 12452 12522 0 4 12459 12521 12483 12488 0 4 12459 12525 12522 12540 0 3 12460 12525 12531 0 3 12460
12531 12510 0 2 12462 12460 0 3 12462 12491 12540 0 4 12461 12517 12522 12540 0 4 12462 12523 12480 12540 0 2 12461
12525 0 5 12461 12525 12464 12521 12512 0 6 12461 12525 12513 12540 12488 12523 0 5 12461 12525 12527 12483 12488 0 3
12464 12521 12512 0 5 12464 12521 12512 12488 12531 0 5 12463 12523 12476 12452 12525 0 4 12463 12525 12540 12493 0 3
12465 12540 12473 0 3 12467 12523 12490 0 3 12467 12540 12509 0 4 12469 12452 12463 12523 0 5 12469 12531 12481 12540
12512 0 4 12471 12522 12531 12464 0 3 12475 12531 12481 0 3 12475 12531 12488 0 3 12480 12540 12473 0 2 12487 12471 0
2 12489 12523 0 2 12488 12531 0 2 12490 12494 0 3 12494 12483 12488 0 3 12495 12452 12484 0 5 12497 12540 12475 12531
12488 0 3 12497 12540 12484 0 4 12496 12540 12524 12523 0 5 12500 12450 12473 12488 12523 0 3 12500 12463 12523 0 2
12500 12467 0 2 12499 12523 0 5 12501 12449 12521 12483 12489 0 4 12501 12451 12540 12488 0 5 12502 12483 12471 12455
12523 0 3 12501 12521 12531 0 5 12504 12463 12479 12540 12523 0 2 12506 12477 0 3 12506 12491 12498 0 3 12504 12523
12484 0 3 12506 12531 12473 0 3 12506 12540 12472 0 3 12505 12540 12479 0 4 12509 12452 12531 12488 0 3 12508 12523
12488 0 2 12507 12531 0 3 12509 12531 12489 0 3 12507 12540 12523 0 3 12507 12540 12531 0 4 12510 12452 12463 12525 0
3 12510 12452 12523 0 3 12510 12483 12495 0 3 12510 12523 12463 0 5 12510 12531 12471 12519 12531 0 4 12511 12463
12525 12531 0 2 12511 12522 0 5 12511 12522 12496 12540 12523 0 2 12513 12460 0 4 12513 12460 12488 12531 0 4 12513
12540 12488 12523 0 3 12516 12540 12489 0 3 12516 12540 12523 0 3 12518 12450 12531 0 4 12522 12483 12488 12523 0 2
12522 12521 0 3 12523 12500 12540 0 4 12523 12540 12502 12523 0 2 12524 12512 0 5 12524 12531 12488 12466 12531 0 3
12527 12483 12488 0 2 48 28857 0 2 49 28857 0 2 50 28857 0 2 51 28857 0 2 52 28857 0 2 53 28857 0 2 54 28857 0 2 55
28857 0 2 56 28857 0 2 57 28857 0 3 49 48 28857 0 3 49 49 28857 0 3 49 50 28857 0 3 49 51 28857 0 3 49 52 28857 0 3 49
53 28857 0 3 49 54 28857 0 3 49 55 28857 0 3 49 56 28857 0 3 49 57 28857 0 3 50 48 28857 0 3 50 49 28857 0 3 50 50
28857 0 3 50 51 28857 0 3 50 52 28857 0 3 104 112 97 0 2 100 97 0 2 97 117 0 3 98 97 114 0 2 111 118 0 2 112 99 0 2
100 109 0 3 100 109 50 0 3 100 109 51 0 2 105 117 0 2 24179 25104 0 2 26157 21644 0 2 22823 27491 0 2 26126 27835 0 4
26666 24335 20250 31038 0 2 112 97 0 2 110 97 0 2 956 97 0 2 109 97 0 2 107 97 0 2 107 98 0 2 109 98 0 2 103 98 0 3 99
97 108 0 4 107 99 97 108 0 2 112 102 0 2 110 102 0 2 956 102 0 2 956 103 0 2 109 103 0 2 107 103 0 2 104 122 0 3 107
104 122 0 3 109 104 122 0 3 103 104 122 0 3 116 104 122 0 2 956 108 0 2 109 108 0 2 100 108 0 2 107 108 0 2 102 109 0
2 110 109 0 2 956 109 0 2 109 109 0 2 99 109 0 2 107 109 0 3 109 109 50 0 3 99 109 50 0 2 109 50 0 3 107 109 50 0 3
109 109 51 0 3 99 109 51 0 2 109 51 0 3 107 109 51 0 3 109 8725 115 0 4 109 8725 115 50 0 2 112 97 0 3 107 112 97 0 3
109 112 97 0 3 103 112 97 0 3 114 97 100 0 5 114 97 100 8725 115 0 6 114 97 100 8725 115 50 0 2 112 115 0 2 110 115 0
2 956 115 0 2 109 115 0 2 112 118 0 2 110 118 0 2 956 118 0 2 109 118 0 2 107 118 0 2 109 118 0 2 112 119 0 2 110 119
0 2 956 119 0 2 109 119 0 2 107 119 0 2 109 119 0 2 107 969 0 2 109 969 1 2 98 113 0 2 99 99 0 2 99 100 0 4 99 8725
107 103 1 2 100 98 0 2 103 121 0 2 104 97 0 2 104 112 0 2 105 110 0 2 107 107 0 2 107 109 0 2 107 116 0 2 108 109 0 2
108 110 0 3 108 111 103 0 2 108 120 0 2 109 98 0 3 109 105 108 0 3 109 111 108 0 2 112 104 1 3 112 112 109 0 2 112 114
0 2 115 114 0 2 115 118 0 2 119 98 0 3 118 8725 109 0 3 97 8725 109 0 2 49 26085 0 2 50 26085 0 2 51 26085 0 2 52
26085 0 2 53 26085 0 2 54 26085 0 2 55 26085 0 2 56 26085 0 2 57 26085 0 3 49 48 26085 0 3 49 49 26085 0 3 49 50 26085
0 3 49 51 26085 0 3 49 52 26085 0 3 49 53 26085 0 3 49 54 26085 0 3 49 55 26085 0 3 49 56 26085 0 3 49 57 26085 0 3 50
48 26085 0 3 50 49 26085 0 3 50 50 26085 0 3 50 51 26085 0 3 50 52 26085 0 3 50 53 26085 0 3 50 54 26085 0 3 50 55
26085 0 3 50 56 26085 0 3 50 57 26085 0 3 51 48 26085 0 3 51 49 26085 0 3 103 97 108 50944 2 102 102 0 2 102 105 0 2
102 108 0 3 102 102 105 0 3 102 102 108 0 2 115 116 0 2 115 116 12 2 1396 1398 0 2 1396 1381 0 2 1396 1387 0 2 1406
1398 0 2 1396 1389 5 2 1497 1460 1 2 1522 1463 10 2 1513 1473 0 2 1513 1474 0 3 1513 1468 1473 0 3 1513 1468 1474 0 2
1488 1463 0 2 1488 1464 0 2 1488 1468 0 2 1489 1468 0 2 1490 1468 0 2 1491 1468 0 2 1492 1468 0 2 1493 1468 0 2 1494
1468 1 2 1496 1468 0 2 1497 1468 0 2 1498 1468 0 2 1499 1468 0 2 1500 1468 1 2 1502 1468 1 2 1504 1468 0 2 1505 1468 1
2 1507 1468 0 2 1508 1468 1 2 1510 1468 0 2 1511 1468 0 2 1512 1468 0 2 1513 1468 0 2 1514 1468 0 2 1493 1465 0 2 1489
1471 0 2 1499 1471 0 2 1508 1471 0 2 1488 1500 141 2 1735 1652 12 2 1574 1575 0 2 1574 1575 0 2 1574 1749 0 2 1574
1749 0 2 1574 1608 0 2 1574 1608 0 2 1574 1735 0 2 1574 1735 0 2 1574 1734 0 2 1574 1734 0 2 1574 1736 0 2 1574 1736 0
2 1574 1744 0 2 1574 1744 0 2 1574 1744 0 2 1574 1609 0 2 1574 1609 0 2 1574 1609 4 2 1574 1580 0 2 1574 1581 0 2 1574
1605 0 2 1574 1609 0 2 1574 1610 0 2 1576 1580 0 2 1576 1581 0 2 1576 1582 0 2 1576 1605 0 2 1576 1609 0 2 1576 1610 0
2 1578 1580 0 2 1578 1581 0 2 1578 1582 0 2 1578 1605 0 2 1578 1609 0 2 1578 1610 0 2 1579 1580 0 2 1579 1605 0 2 1579
1609 0 2 1579 1610 0 2 1580 1581 0 2 1580 1605 0 2 1581 1580 0 2 1581 1605 0 2 1582 1580 0 2 1582 1581 0 2 1582 1605 0
2 1587 1580 0 2 1587 1581 0 2 1587 1582 0 2 1587 1605 0 2 1589 1581 0 2 1589 1605 0 2 1590 1580 0 2 1590 1581 0 2 1590
1582 0 2 1590 1605 0 2 1591 1581 0 2 1591 1605 0 2 1592 1605 0 2 1593 1580 0 2 1593 1605 0 2 1594 1580 0 2 1594 1605 0
2 1601 1580 0 2 1601 1581 0 2 1601 1582 0 2 1601 1605 0 2 1601 1609 0 2 1601 1610 0 2 1602 1581 0 2 1602 1605 0 2 1602
1609 0 2 1602 1610 0 2 1603 1575 0 2 1603 1580 0 2 1603 1581 0 2 1603 1582 0 2 1603 1604 0 2 1603 1605 0 2 1603 1609 0
2 1603 1610 0 2 1604 1580 0 2 1604 1581 0 2 1604 1582 0 2 1604 1605 0 2 1604 1609 0 2 1604 1610 0 2 1605 1580 0 2 1605
1581 0 2 1605 1582 0 2 1605 1605 0 2 1605 1609 0 2 1605 1610 0 2 1606 1580 0 2 1606 1581 0 2 1606 1582 0 2 1606 1605 0
2 1606 1609 0 2 1606 1610 0 2 1607 1580 0 2 1607 1605 0 2 1607 1609 0 2 1607 1610 0 2 1610 1580 0 2 1610 1581 0 2 1610
1582 0 2 1610 1605 0 2 1610 1609 0 2 1610 1610 0 2 1584 1648 0 2 1585 1648 0 2 1609 1648 0 3 32 1612 1617 0 3 32 1613
1617 0 3 32 1614 1617 0 3 32 1615 1617 0 3 32 1616 1617 0 3 32 1617 1648 0 2 1574 1585 0 2 1574 1586 0 2 1574 1605 0 2
1574 1606 0 2 1574 1609 0 2 1574 1610 0 2 1576 1585 0 2 1576 1586 0 2 1576 1605 0 2 1576 1606 0 2 1576 1609 0 2 1576
1610 0 2 1578 1585 0 2 1578 1586 0 2 1578 1605 0 2 1578 1606 0 2 1578 1609 0 2 1578 1610 0 2 1579 1585 0 2 1579 1586 0
2 1579 1605 0 2 1579 1606 0 2 1579 1609 0 2 1579 1610 0 2 1601 1609 0 2 1601 1610 0 2 1602 1609 0 2 1602 1610 0 2 1603
1575 0 2 1603 1604 0 2 1603 1605 0 2 1603 1609 0 2 1603 1610 0 2 1604 1605 0 2 1604 1609 0 2 1604 1610 0 2 1605 1575 0
2 1605 1605 0 2 1606 1585 0 2 1606 1586 0 2 1606 1605 0 2 1606 1606 0 2 1606 1609 0 2 1606 1610 0 2 1609 1648 0 2 1610
1585 0 2 1610 1586 0 2 1610 1605 0 2 1610 1606 0 2 1610 1609 0 2 1610 1610 0 2 1574 1580 0 2 1574 1581 0 2 1574 1582 0
2 1574 1605 0 2 1574 1607 0 2 1576 1580 0 2 1576 1581 0 2 1576 1582 0 2 1576 1605 0 2 1576 1607 0 2 1578 1580 0 2 1578
1581 0 2 1578 1582 0 2 1578 1605 0 2 1578 1607 0 2 1579 1605 0 2 1580 1581 0 2 1580 1605 0 2 1581 1580 0 2 1581 1605 0
2 1582 1580 0 2 1582 1605 0 2 1587 1580 0 2 1587 1581 0 2 1587 1582 0 2 1587 1605 0 2 1589 1581 0 2 1589 1582 0 2 1589
1605 0 2 1590 1580 0 2 1590 1581 0 2 1590 1582 0 2 1590 1605 0 2 1591 1581 0 2 1592 1605 0 2 1593 1580 0 2 1593 1605 0
2 1594 1580 0 2 1594 1605 0 2 1601 1580 0 2 1601 1581 0 2 1601 1582 0 2 1601 1605 0 2 1602 1581 0 2 1602 1605 0 2 1603
1580 0 2 1603 1581 0 2 1603 1582 0 2 1603 1604 0 2 1603 1605 0 2 1604 1580 0 2 1604 1581 0 2 1604 1582 0 2 1604 1605 0
2 1604 1607 0 2 1605 1580 0 2 1605 1581 0 2 1605 1582 0 2 1605 1605 0 2 1606 1580 0 2 1606 1581 0 2 1606 1582 0 2 1606
1605 0 2 1606 1607 0 2 1607 1580 0 2 1607 1605 0 2 1607 1648 0 2 1610 1580 0 2 1610 1581 0 2 1610 1582 0 2 1610 1605 0
2 1610 1607 0 2 1574 1605 0 2 1574 1607 0 2 1576 1605 0 2 1576 1607 0 2 1578 1605 0 2 1578 1607 0 2 1579 1605 0 2 1579
1607 0 2 1587 1605 0 2 1587 1607 0 2 1588 1605 0 2 1588 1607 0 2 1603 1604 0 2 1603 1605 0 2 1604 1605 0 2 1606 1605 0
2 1606 1607 0 2 1610 1605 0 2 1610 1607 0 3 1600 1614 1617 0 3 1600 1615 1617 0 3 1600 1616 1617 0 2 1591 1609 0 2
1591 1610 0 2 1593 1609 0 2 1593 1610 0 2 1594 1609 0 2 1594 1610 0 2 1587 1609 0 2 1587 1610 0 2 1588 1609 0 2 1588
1610 0 2 1581 1609 0 2 1581 1610 0 2 1580 1609 0 2 1580 1610 0 2 1582 1609 0 2 1582 1610 0 2 1589 1609 0 2 1589 1610 0
2 1590 1609 0 2 1590 1610 0 2 1588 1580 0 2 1588 1581 0 2 1588 1582 0 2 1588 1605 0 2 1588 1585 0 2 1587 1585 0 2 1589
1585 0 2 1590 1585 0 2 1591 1609 0 2 1591 1610 0 2 1593 1609 0 2 1593 1610 0 2 1594 1609 0 2 1594 1610 0 2 1587 1609 0
2 1587 1610 0 2 1588 1609 0 2 1588 1610 0 2 1581 1609 0 2 1581 1610 0 2 1580 1609 0 2 1580 1610 0 2 1582 1609 0 2 1582
1610 0 2 1589 1609 0 2 1589 1610 0 2 1590 1609 0 2 1590 1610 0 2 1588 1580 0 2 1588 1581 0 2 1588 1582 0 2 1588 1605 0
2 1588 1585 0 2 1587 1585 0 2 1589 1585 0 2 1590 1585 0 2 1588 1580 0 2 1588 1581 0 2 1588 1582 0 2 1588 1605 0 2 1587
1607 0 2 1588 1607 0 2 1591 1605 0 2 1587 1580 0 2 1587 1581 0 2 1587 1582 0 2 1588 1580 0 2 1588 1581 0 2 1588 1582 0
2 1591 1605 0 2 1592 1605 0 2 1575 1611 0 2 1575 1611 18 3 1578 1580 1605 0 3 1578 1581 1580 0 3 1578 1581 1580 0 3
1578 1581 1605 0 3 1578 1582 1605 0 3 1578 1605 1580 0 3 1578 1605 1581 0 3 1578 1605 1582 0 3 1580 1605 1581 0 3 1580
1605 1581 0 3 1581 1605 1610 0 3 1581 1605 1609 0 3 1587 1581 1580 0 3 1587 1580 1581 0 3 1587 1580 1609 0 3 1587 1605
1581 0 3 1587 1605 1581 0 3 1587 1605 1580 0 3 1587 1605 1605 0 3 1587 1605 1605 0 3 1589 1581 1581 0 3 1589 1581 1581
0 3 1589 1605 1605 0 3 1588 1581 1605 0 3 1588 1581 1605 0 3 1588 1580 1610 0 3 1588 1605 1582 0 3 1588 1605 1582 0 3
1588 1605 1605 0 3 1588 1605 1605 0 3 1590 1581 1609 0 3 1590 1582 1605 0 3 1590 1582 1605 0 3 1591 1605 1581 0 3 1591
1605 1581 0 3 1591 1605 1605 0 3 1591 1605 1610 0 3 1593 1580 1605 0 3 1593 1605 1605 0 3 1593 1605 1605 0 3 1593 1605
1609 0 3 1594 1605 1605 0 3 1594 1605 1610 0 3 1594 1605 1609 0 3 1601 1582 1605 0 3 1601 1582 1605 0 3 1602 1605 1581
0 3 1602 1605 1605 0 3 1604 1581 1605 0 3 1604 1581 1610 0 3 1604 1581 1609 0 3 1604 1580 1580 0 3 1604 1580 1580 0 3
1604 1582 1605 0 3 1604 1582 1605 0 3 1604 1605 1581 0 3 1604 1605 1581 0 3 1605 1581 1580 0 3 1605 1581 1605 0 3 1605
1581 1610 0 3 1605 1580 1581 0 3 1605 1580 1605 0 3 1605 1582 1580 0 3 1605 1582 1605 2 3 1605 1580 1582 0 3 1607 1605
1580 0 3 1607 1605 1605 0 3 1606 1581 1605 0 3 1606 1581 1609 0 3 1606 1580 1605 0 3 1606 1580 1605 0 3 1606 1580 1609
0 3 1606 1605 1610 0 3 1606 1605 1609 0 3 1610 1605 1605 0 3 1610 1605 1605 0 3 1576 1582 1610 0 3 1578 1580 1610 0 3
1578 1580 1609 0 3 1578 1582 1610 0 3 1578 1582 1609 0 3 1578 1605 1610 0 3 1578 1605 1609 0 3 1580 1605 1610 0 3 1580
1581 1609 0 3 1580 1605 1609 0 3 1587 1582 1609 0 3 1589 1581 1610 0 3 1588 1581 1610 0 3 1590 1581 1610 0 3 1604 1580
1610 0 3 1604 1605 1610 0 3 1610 1581 1610 0 3 1610 1580 1610 0 3 1610 1605 1610 0 3 1605 1605 1610 0 3 1602 1605 1610
0 3 1606 1581 1610 0 3 1602 1605 1581 0 3 1604 1581 1605 0 3 1593 1605 1610 0 3 1603 1605 1610 0 3 1606 1580 1581 0 3
1605 1582 1610 0 3 1604 1580 1605 0 3 1603 1605 1605 0 3 1604 1580 1605 0 3 1606 1580 1581 0 3 1580 1581 1610 0 3 1581
1580 1610 0 3 1605 1580 1610 0 3 1601 1605 1610 0 3 1576 1581 1610 0 3 1603 1605 1605 0 3 1593 1580 1605 0 3 1589 1605
1605 0 3 1587 1582 1610 0 3 1606 1580 1610 40 3 1589 1604 1746 0 3 1602 1604 1746 0 4 1575 1604 1604 1607 0 4 1575
1603 1576 1585 0 4 1605 1581 1605 1583 0 4 1589 1604 1593 1605 0 4 1585 1587 1608 1604 0 4 1593 1604 1610 1607 0 4
1608 1587 1604 1605 0 3 1589 1604 1609 0 18 1589 1604 1609 32 1575 1604 1604 1607 32 1593 1604 1610 1607 32 1608 1587
1604 1605 0 8 1580 1604 32 1580 1604 1575 1604 1607 0 4 1585 1740 1575 1604 76 2 32 773 0 2 32 773 0 2 32 773 0 2 32
773 35 2 32 1611 0 2 1600 1611 0 2 32 1612 1 2 32 1613 1 2 32 1614 0 2 1600 1614 0 2 32 1615 0 2 1600 1615 0 2 32 1616
0 2 1600 1616 0 2 32 1617 0 2 1600 1617 0 2 32 1618 0 2 1600 1618 117 2 1604 1570 0 2 1604 1570 0 2 1604 1571 0 2 1604
1571 0 2 1604 1573 0 2 1604 1573 0 2 1604 1575 0 2 1604 1575 230 2 32 772 53626 2 119127 119141 0 2 119128 119141 0 3
119128 119141 119150 0 3 119128 119141 119151 0 3 119128 119141 119152 0 3 119128 119141 119153 0 3 119128 119141
119154 86 2 119225 119141 0 2 119226 119141 0 3 119225 119141 119150 0 3 119226 119141 119150 0 3 119225 119141 119151
0 3 119226 119141 119151 8000 2 48 44 0 2 49 44 0 2 50 44 0 2 51 44 0 2 52 44 0 2 53 44 0 2 54 44 0 2 55 44 0 2 56 44
0 2 57 44 5 3 40 97 41 0 3 40 98 41 0 3 40 99 41 0 3 40 100 41 0 3 40 101 41 0 3 40 102 41 0 3 40 103 41 0 3 40 104 41
0 3 40 105 41 0 3 40 106 41 0 3 40 107 41 0 3 40 108 41 0 3 40 109 41 0 3 40 110 41 0 3 40 111 41 0 3 40 112 41 0 3 40
113 41 0 3 40 114 41 0 3 40 115 41 0 3 40 116 41 0 3 40 117 41 0 3 40 118 41 0 3 40 119 41 0 3 40 120 41 0 3 40 121 41
0 3 40 122 41 0 3 12308 115 12309 2 2 99 100 0 2 119 122 27 2 104 118 0 2 109 118 0 2 115 100 0 2 115 115 0 3 112 112
118 0 2 119 99 26 2 109 99 0 2 109 100 0 2 109 114 35 2 100 106 111 2 12411 12363 0 2 12467 12467 62 3 12308 26412
12309 0 3 12308 19977 12309 0 3 12308 20108 12309 0 3 12308 23433 12309 0 3 12308 28857 12309 0 3 12308 25171 12309 0
3 12308 30423 12309 0 3 12308 21213 12309 0 3 12308 25943 12309"

/-- The characters that count as several others. -/
def expanded : CodeTable (List Char) := .ofSequences expandedText

/-- What a character of a run of every second character counts as. -/
def alternate? (c : Char) : Option Char :=
  match alternating.find? c with
  | some run => if (c.toNat - run.first) % 2 = 0 then some (Char.ofNat (run.value + (c.toNat - run.first))) else none
  | none => none

/-- What a character counts as if it counts as one other. -/
def shift? (c : Char) : Option Char :=
  match alternate? c with
  | some d => some d
  | none => (shifted.find? c).map fun run => Char.ofNat (run.value + (c.toNat - run.first))

/-- What a character counts as in a name, unless no name may have it. -/
def spell? (c : Char) : Option (List Char) :=
  if refused.contains c then none
  else if silent.contains c then some []
  else
    match shift? c with
    | some d => some [d]
    | none => some ((expanded.value? c).getD [c])

end FocusJournal.Url
