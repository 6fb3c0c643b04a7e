import FocusJournal.Text.CodeTable

/-!
# Composite characters

Many characters are equivalent to a sequence of others, a letter and its marks for instance. A composite stands for its
sequence in composed text; other such characters are always replaced. The syllables of Hangul follow a rule of their
own and are in no table.

* `decompose` gives the sequence of a character, `compose?` the composite of two characters.
* `combiningClass` orders the marks on one letter.
-/

namespace FocusJournal.Text

/-- The composites, each with the character it begins with and the mark that is added. -/
def compositeText : String :=
"192 2 65 768 0 2 65 769 0 2 65 770 0 2 65 771 0 2 65 776 0 2 65 778 1 2 67 807 0 2 69 768 0 2 69 769 0 2 69 770 0 2 69
776 0 2 73 768 0 2 73 769 0 2 73 770 0 2 73 776 1 2 78 771 0 2 79 768 0 2 79 769 0 2 79 770 0 2 79 771 0 2 79 776 2 2
85 768 0 2 85 769 0 2 85 770 0 2 85 776 0 2 89 769 2 2 97 768 0 2 97 769 0 2 97 770 0 2 97 771 0 2 97 776 0 2 97 778 1
2 99 807 0 2 101 768 0 2 101 769 0 2 101 770 0 2 101 776 0 2 105 768 0 2 105 769 0 2 105 770 0 2 105 776 1 2 110 771 0
2 111 768 0 2 111 769 0 2 111 770 0 2 111 771 0 2 111 776 2 2 117 768 0 2 117 769 0 2 117 770 0 2 117 776 0 2 121 769
1 2 121 776 0 2 65 772 0 2 97 772 0 2 65 774 0 2 97 774 0 2 65 808 0 2 97 808 0 2 67 769 0 2 99 769 0 2 67 770 0 2 99
770 0 2 67 775 0 2 99 775 0 2 67 780 0 2 99 780 0 2 68 780 0 2 100 780 2 2 69 772 0 2 101 772 0 2 69 774 0 2 101 774 0
2 69 775 0 2 101 775 0 2 69 808 0 2 101 808 0 2 69 780 0 2 101 780 0 2 71 770 0 2 103 770 0 2 71 774 0 2 103 774 0 2
71 775 0 2 103 775 0 2 71 807 0 2 103 807 0 2 72 770 0 2 104 770 2 2 73 771 0 2 105 771 0 2 73 772 0 2 105 772 0 2 73
774 0 2 105 774 0 2 73 808 0 2 105 808 0 2 73 775 3 2 74 770 0 2 106 770 0 2 75 807 0 2 107 807 1 2 76 769 0 2 108 769
0 2 76 807 0 2 108 807 0 2 76 780 0 2 108 780 4 2 78 769 0 2 110 769 0 2 78 807 0 2 110 807 0 2 78 780 0 2 110 780 3 2
79 772 0 2 111 772 0 2 79 774 0 2 111 774 0 2 79 779 0 2 111 779 2 2 82 769 0 2 114 769 0 2 82 807 0 2 114 807 0 2 82
780 0 2 114 780 0 2 83 769 0 2 115 769 0 2 83 770 0 2 115 770 0 2 83 807 0 2 115 807 0 2 83 780 0 2 115 780 0 2 84 807
0 2 116 807 0 2 84 780 0 2 116 780 2 2 85 771 0 2 117 771 0 2 85 772 0 2 117 772 0 2 85 774 0 2 117 774 0 2 85 778 0 2
117 778 0 2 85 779 0 2 117 779 0 2 85 808 0 2 117 808 0 2 87 770 0 2 119 770 0 2 89 770 0 2 121 770 0 2 89 776 0 2 90
769 0 2 122 769 0 2 90 775 0 2 122 775 0 2 90 780 0 2 122 780 33 2 79 795 0 2 111 795 13 2 85 795 0 2 117 795 28 2 65
780 0 2 97 780 0 2 73 780 0 2 105 780 0 2 79 780 0 2 111 780 0 2 85 780 0 2 117 780 0 2 220 772 0 2 252 772 0 2 220
769 0 2 252 769 0 2 220 780 0 2 252 780 0 2 220 768 0 2 252 768 1 2 196 772 0 2 228 772 0 2 550 772 0 2 551 772 0 2
198 772 0 2 230 772 2 2 71 780 0 2 103 780 0 2 75 780 0 2 107 780 0 2 79 808 0 2 111 808 0 2 490 772 0 2 491 772 0 2
439 780 0 2 658 780 0 2 106 780 3 2 71 769 0 2 103 769 2 2 78 768 0 2 110 768 0 2 197 769 0 2 229 769 0 2 198 769 0 2
230 769 0 2 216 769 0 2 248 769 0 2 65 783 0 2 97 783 0 2 65 785 0 2 97 785 0 2 69 783 0 2 101 783 0 2 69 785 0 2 101
785 0 2 73 783 0 2 105 783 0 2 73 785 0 2 105 785 0 2 79 783 0 2 111 783 0 2 79 785 0 2 111 785 0 2 82 783 0 2 114 783
0 2 82 785 0 2 114 785 0 2 85 783 0 2 117 783 0 2 85 785 0 2 117 785 0 2 83 806 0 2 115 806 0 2 84 806 0 2 116 806 2 2
72 780 0 2 104 780 6 2 65 775 0 2 97 775 0 2 69 807 0 2 101 807 0 2 214 772 0 2 246 772 0 2 213 772 0 2 245 772 0 2 79
775 0 2 111 775 0 2 558 772 0 2 559 772 0 2 89 772 0 2 121 772 337 2 168 769 0 2 913 769 1 2 917 769 0 2 919 769 0 2
921 769 1 2 927 769 1 2 933 769 0 2 937 769 0 2 970 769 25 2 921 776 0 2 933 776 0 2 945 769 0 2 949 769 0 2 951 769 0
2 953 769 0 2 971 769 25 2 953 776 0 2 965 776 0 2 959 769 0 2 965 769 0 2 969 769 4 2 978 769 0 2 978 776 43 2 1045
768 0 2 1045 776 1 2 1043 769 3 2 1030 776 4 2 1050 769 0 2 1048 768 0 2 1059 774 10 2 1048 774 31 2 1080 774 22 2
1077 768 0 2 1077 776 1 2 1075 769 3 2 1110 776 4 2 1082 769 0 2 1080 768 0 2 1091 774 23 2 1140 783 0 2 1141 783 73 2
1046 774 0 2 1078 774 13 2 1040 774 0 2 1072 774 0 2 1040 776 0 2 1072 776 2 2 1045 774 0 2 1077 774 2 2 1240 776 0 2
1241 776 0 2 1046 776 0 2 1078 776 0 2 1047 776 0 2 1079 776 2 2 1048 772 0 2 1080 772 0 2 1048 776 0 2 1080 776 0 2
1054 776 0 2 1086 776 2 2 1256 776 0 2 1257 776 0 2 1069 776 0 2 1101 776 0 2 1059 772 0 2 1091 772 0 2 1059 776 0 2
1091 776 0 2 1059 779 0 2 1091 779 0 2 1063 776 0 2 1095 776 2 2 1067 776 0 2 1099 776 296 2 1575 1619 0 2 1575 1620 0
2 1608 1620 0 2 1575 1621 0 2 1610 1620 153 2 1749 1620 1 2 1729 1620 16 2 1746 1620 597 2 2344 2364 7 2 2352 2364 2 2
2355 2364 150 2 2503 2494 0 2 2503 2519 379 2 2887 2902 2 2 2887 2878 0 2 2887 2903 71 2 2962 3031 53 2 3014 3006 0 2
3015 3006 0 2 3014 3031 123 2 3142 3158 119 2 3263 3285 6 2 3270 3285 0 2 3270 3286 1 2 3270 3266 0 2 3274 3285 126 2
3398 3390 0 2 3399 3390 0 2 3398 3415 141 2 3545 3530 1 2 3545 3535 0 2 3548 3530 0 2 3545 3551 583 2 4133 4142 2783 2
6917 6965 1 2 6919 6965 1 2 6921 6965 1 2 6923 6965 1 2 6925 6965 3 2 6929 6965 40 2 6970 6965 1 2 6972 6965 2 2 6974
6965 0 2 6975 6965 1 2 6978 6965 700 2 65 805 0 2 97 805 0 2 66 775 0 2 98 775 0 2 66 803 0 2 98 803 0 2 66 817 0 2 98
817 0 2 199 769 0 2 231 769 0 2 68 775 0 2 100 775 0 2 68 803 0 2 100 803 0 2 68 817 0 2 100 817 0 2 68 807 0 2 100
807 0 2 68 813 0 2 100 813 0 2 274 768 0 2 275 768 0 2 274 769 0 2 275 769 0 2 69 813 0 2 101 813 0 2 69 816 0 2 101
816 0 2 552 774 0 2 553 774 0 2 70 775 0 2 102 775 0 2 71 772 0 2 103 772 0 2 72 775 0 2 104 775 0 2 72 803 0 2 104
803 0 2 72 776 0 2 104 776 0 2 72 807 0 2 104 807 0 2 72 814 0 2 104 814 0 2 73 816 0 2 105 816 0 2 207 769 0 2 239
769 0 2 75 769 0 2 107 769 0 2 75 803 0 2 107 803 0 2 75 817 0 2 107 817 0 2 76 803 0 2 108 803 0 2 7734 772 0 2 7735
772 0 2 76 817 0 2 108 817 0 2 76 813 0 2 108 813 0 2 77 769 0 2 109 769 0 2 77 775 0 2 109 775 0 2 77 803 0 2 109 803
0 2 78 775 0 2 110 775 0 2 78 803 0 2 110 803 0 2 78 817 0 2 110 817 0 2 78 813 0 2 110 813 0 2 213 769 0 2 245 769 0
2 213 776 0 2 245 776 0 2 332 768 0 2 333 768 0 2 332 769 0 2 333 769 0 2 80 769 0 2 112 769 0 2 80 775 0 2 112 775 0
2 82 775 0 2 114 775 0 2 82 803 0 2 114 803 0 2 7770 772 0 2 7771 772 0 2 82 817 0 2 114 817 0 2 83 775 0 2 115 775 0
2 83 803 0 2 115 803 0 2 346 775 0 2 347 775 0 2 352 775 0 2 353 775 0 2 7778 775 0 2 7779 775 0 2 84 775 0 2 116 775
0 2 84 803 0 2 116 803 0 2 84 817 0 2 116 817 0 2 84 813 0 2 116 813 0 2 85 804 0 2 117 804 0 2 85 816 0 2 117 816 0 2
85 813 0 2 117 813 0 2 360 769 0 2 361 769 0 2 362 776 0 2 363 776 0 2 86 771 0 2 118 771 0 2 86 803 0 2 118 803 0 2
87 768 0 2 119 768 0 2 87 769 0 2 119 769 0 2 87 776 0 2 119 776 0 2 87 775 0 2 119 775 0 2 87 803 0 2 119 803 0 2 88
775 0 2 120 775 0 2 88 776 0 2 120 776 0 2 89 775 0 2 121 775 0 2 90 770 0 2 122 770 0 2 90 803 0 2 122 803 0 2 90 817
0 2 122 817 0 2 104 817 0 2 116 776 0 2 119 778 0 2 121 778 1 2 383 775 4 2 65 803 0 2 97 803 0 2 65 777 0 2 97 777 0
2 194 769 0 2 226 769 0 2 194 768 0 2 226 768 0 2 194 777 0 2 226 777 0 2 194 771 0 2 226 771 0 2 7840 770 0 2 7841
770 0 2 258 769 0 2 259 769 0 2 258 768 0 2 259 768 0 2 258 777 0 2 259 777 0 2 258 771 0 2 259 771 0 2 7840 774 0 2
7841 774 0 2 69 803 0 2 101 803 0 2 69 777 0 2 101 777 0 2 69 771 0 2 101 771 0 2 202 769 0 2 234 769 0 2 202 768 0 2
234 768 0 2 202 777 0 2 234 777 0 2 202 771 0 2 234 771 0 2 7864 770 0 2 7865 770 0 2 73 777 0 2 105 777 0 2 73 803 0
2 105 803 0 2 79 803 0 2 111 803 0 2 79 777 0 2 111 777 0 2 212 769 0 2 244 769 0 2 212 768 0 2 244 768 0 2 212 777 0
2 244 777 0 2 212 771 0 2 244 771 0 2 7884 770 0 2 7885 770 0 2 416 769 0 2 417 769 0 2 416 768 0 2 417 768 0 2 416
777 0 2 417 777 0 2 416 771 0 2 417 771 0 2 416 803 0 2 417 803 0 2 85 803 0 2 117 803 0 2 85 777 0 2 117 777 0 2 431
769 0 2 432 769 0 2 431 768 0 2 432 768 0 2 431 777 0 2 432 777 0 2 431 771 0 2 432 771 0 2 431 803 0 2 432 803 0 2 89
768 0 2 121 768 0 2 89 803 0 2 121 803 0 2 89 777 0 2 121 777 0 2 89 771 0 2 121 771 6 2 945 787 0 2 945 788 0 2 7936
768 0 2 7937 768 0 2 7936 769 0 2 7937 769 0 2 7936 834 0 2 7937 834 0 2 913 787 0 2 913 788 0 2 7944 768 0 2 7945 768
0 2 7944 769 0 2 7945 769 0 2 7944 834 0 2 7945 834 0 2 949 787 0 2 949 788 0 2 7952 768 0 2 7953 768 0 2 7952 769 0 2
7953 769 2 2 917 787 0 2 917 788 0 2 7960 768 0 2 7961 768 0 2 7960 769 0 2 7961 769 2 2 951 787 0 2 951 788 0 2 7968
768 0 2 7969 768 0 2 7968 769 0 2 7969 769 0 2 7968 834 0 2 7969 834 0 2 919 787 0 2 919 788 0 2 7976 768 0 2 7977 768
0 2 7976 769 0 2 7977 769 0 2 7976 834 0 2 7977 834 0 2 953 787 0 2 953 788 0 2 7984 768 0 2 7985 768 0 2 7984 769 0 2
7985 769 0 2 7984 834 0 2 7985 834 0 2 921 787 0 2 921 788 0 2 7992 768 0 2 7993 768 0 2 7992 769 0 2 7993 769 0 2
7992 834 0 2 7993 834 0 2 959 787 0 2 959 788 0 2 8000 768 0 2 8001 768 0 2 8000 769 0 2 8001 769 2 2 927 787 0 2 927
788 0 2 8008 768 0 2 8009 768 0 2 8008 769 0 2 8009 769 2 2 965 787 0 2 965 788 0 2 8016 768 0 2 8017 768 0 2 8016 769
0 2 8017 769 0 2 8016 834 0 2 8017 834 1 2 933 788 1 2 8025 768 1 2 8025 769 1 2 8025 834 0 2 969 787 0 2 969 788 0 2
8032 768 0 2 8033 768 0 2 8032 769 0 2 8033 769 0 2 8032 834 0 2 8033 834 0 2 937 787 0 2 937 788 0 2 8040 768 0 2
8041 768 0 2 8040 769 0 2 8041 769 0 2 8040 834 0 2 8041 834 0 2 945 768 1 2 949 768 1 2 951 768 1 2 953 768 1 2 959
768 1 2 965 768 1 2 969 768 3 2 7936 837 0 2 7937 837 0 2 7938 837 0 2 7939 837 0 2 7940 837 0 2 7941 837 0 2 7942 837
0 2 7943 837 0 2 7944 837 0 2 7945 837 0 2 7946 837 0 2 7947 837 0 2 7948 837 0 2 7949 837 0 2 7950 837 0 2 7951 837 0
2 7968 837 0 2 7969 837 0 2 7970 837 0 2 7971 837 0 2 7972 837 0 2 7973 837 0 2 7974 837 0 2 7975 837 0 2 7976 837 0 2
7977 837 0 2 7978 837 0 2 7979 837 0 2 7980 837 0 2 7981 837 0 2 7982 837 0 2 7983 837 0 2 8032 837 0 2 8033 837 0 2
8034 837 0 2 8035 837 0 2 8036 837 0 2 8037 837 0 2 8038 837 0 2 8039 837 0 2 8040 837 0 2 8041 837 0 2 8042 837 0 2
8043 837 0 2 8044 837 0 2 8045 837 0 2 8046 837 0 2 8047 837 0 2 945 774 0 2 945 772 0 2 8048 837 0 2 945 837 0 2 940
837 1 2 945 834 0 2 8118 837 0 2 913 774 0 2 913 772 0 2 913 768 1 2 913 837 4 2 168 834 0 2 8052 837 0 2 951 837 0 2
942 837 1 2 951 834 0 2 8134 837 0 2 917 768 1 2 919 768 1 2 919 837 0 2 8127 768 0 2 8127 769 0 2 8127 834 0 2 953
774 0 2 953 772 0 2 970 768 3 2 953 834 0 2 970 834 0 2 921 774 0 2 921 772 0 2 921 768 2 2 8190 768 0 2 8190 769 0 2
8190 834 0 2 965 774 0 2 965 772 0 2 971 768 1 2 961 787 0 2 961 788 0 2 965 834 0 2 971 834 0 2 933 774 0 2 933 772 0
2 933 768 1 2 929 788 0 2 168 768 4 2 8060 837 0 2 969 837 0 2 974 837 1 2 969 834 0 2 8182 837 0 2 927 768 1 2 937
768 1 2 937 837 413 2 8592 824 0 2 8594 824 18 2 8596 824 30 2 8656 824 0 2 8660 824 0 2 8658 824 52 2 8707 824 4 2
8712 824 2 2 8715 824 23 2 8739 824 1 2 8741 824 26 2 8764 824 2 2 8771 824 2 2 8773 824 1 2 8776 824 22 2 61 824 1 2
8801 824 10 2 8781 824 0 2 60 824 0 2 62 824 0 2 8804 824 0 2 8805 824 2 2 8818 824 0 2 8819 824 2 2 8822 824 0 2 8823
824 6 2 8826 824 0 2 8827 824 2 2 8834 824 0 2 8835 824 2 2 8838 824 0 2 8839 824 34 2 8866 824 0 2 8872 824 0 2 8873
824 0 2 8875 824 48 2 8828 824 0 2 8829 824 0 2 8849 824 0 2 8850 824 6 2 8882 824 0 2 8883 824 0 2 8884 824 0 2 8885
824 3422 2 12363 12441 1 2 12365 12441 1 2 12367 12441 1 2 12369 12441 1 2 12371 12441 1 2 12373 12441 1 2 12375 12441
1 2 12377 12441 1 2 12379 12441 1 2 12381 12441 1 2 12383 12441 1 2 12385 12441 2 2 12388 12441 1 2 12390 12441 1 2
12392 12441 6 2 12399 12441 0 2 12399 12442 1 2 12402 12441 0 2 12402 12442 1 2 12405 12441 0 2 12405 12442 1 2 12408
12441 0 2 12408 12442 1 2 12411 12441 0 2 12411 12442 22 2 12358 12441 9 2 12445 12441 13 2 12459 12441 1 2 12461
12441 1 2 12463 12441 1 2 12465 12441 1 2 12467 12441 1 2 12469 12441 1 2 12471 12441 1 2 12473 12441 1 2 12475 12441
1 2 12477 12441 1 2 12479 12441 1 2 12481 12441 2 2 12484 12441 1 2 12486 12441 1 2 12488 12441 6 2 12495 12441 0 2
12495 12442 1 2 12498 12441 0 2 12498 12442 1 2 12501 12441 0 2 12501 12442 1 2 12504 12441 0 2 12504 12442 1 2 12507
12441 0 2 12507 12442 22 2 12454 12441 2 2 12527 12441 0 2 12528 12441 0 2 12529 12441 0 2 12530 12441 3 2 12541 12441
54474 2 67026 775 26 2 67034 775 2741 2 69785 69818 1 2 69787 69818 14 2 69797 69818 130 2 69937 69927 0 2 69938 69927
539 2 70471 70462 0 2 70471 70487 54 2 70530 70601 1 2 70532 70587 8 2 70539 70594 2 2 70544 70601 51 2 70594 70594 1
2 70594 70584 0 2 70594 70601 242 2 70841 70842 0 2 70841 70832 1 2 70841 70845 251 2 71096 71087 0 2 71097 71087 892
2 71989 71984 18408 2 90398 90398 0 2 90398 90409 0 2 90398 90399 0 2 90409 90399 0 2 90398 90400 0 2 90401 90399 0 2
90402 90399 0 2 90401 90400 3135 2 93543 93543 0 2 93539 93543 0 2 93545 93543"

/-- The composites, each with the character it begins with and the mark that is added. -/
def composites : CodeTable (List Char) := .ofSequences compositeText

/-- The characters that are never used in composed text, each with its full sequence. -/
def replacedText : String :=
"832 1 768 0 1 769 1 1 787 0 2 776 769 47 1 697 9 1 59 8 1 183 1488 2 2325 2364 0 2 2326 2364 0 2 2327 2364 0 2 2332
2364 0 2 2337 2364 0 2 2338 2364 0 2 2347 2364 0 2 2351 2364 124 2 2465 2492 0 2 2466 2492 1 2 2479 2492 83 2 2610
2620 2 2 2616 2620 34 2 2582 2620 0 2 2583 2620 0 2 2588 2620 2 2 2603 2620 253 2 2849 2876 0 2 2850 2876 997 2 3906
4023 9 2 3916 4023 4 2 3921 4023 4 2 3926 4023 4 2 3931 4023 12 2 3904 4021 9 2 3953 3954 1 2 3953 3956 0 2 4018 3968
1 2 4019 3968 8 2 3953 3968 17 2 3986 4023 9 2 3996 4023 4 2 4001 4023 4 2 4006 4023 4 2 4011 4023 12 2 3984 4021 4023
2 945 769 1 2 949 769 1 2 951 769 1 2 953 769 1 2 959 769 1 2 965 769 1 2 969 769 61 2 913 769 2 1 953 10 2 917 769 1
2 919 769 7 3 953 776 769 7 2 921 769 7 3 965 776 769 7 2 933 769 2 2 168 769 0 1 96 9 2 927 769 1 2 937 769 1 1 180 2
1 8194 0 1 8195 292 1 937 3 1 75 0 2 65 778 509 1 12296 0 1 12297 1969 2 10973 824 52771 1 35912 0 1 26356 0 1 36554 0
1 36040 0 1 28369 0 1 20018 0 1 21477 0 1 40860 0 1 40860 0 1 22865 0 1 37329 0 1 21895 0 1 22856 0 1 25078 0 1 30313
0 1 32645 0 1 34367 0 1 34746 0 1 35064 0 1 37007 0 1 27138 0 1 27931 0 1 28889 0 1 29662 0 1 33853 0 1 37226 0 1
39409 0 1 20098 0 1 21365 0 1 27396 0 1 29211 0 1 34349 0 1 40478 0 1 23888 0 1 28651 0 1 34253 0 1 35172 0 1 25289 0
1 33240 0 1 34847 0 1 24266 0 1 26391 0 1 28010 0 1 29436 0 1 37070 0 1 20358 0 1 20919 0 1 21214 0 1 25796 0 1 27347
0 1 29200 0 1 30439 0 1 32769 0 1 34310 0 1 34396 0 1 36335 0 1 38706 0 1 39791 0 1 40442 0 1 30860 0 1 31103 0 1
32160 0 1 33737 0 1 37636 0 1 40575 0 1 35542 0 1 22751 0 1 24324 0 1 31840 0 1 32894 0 1 29282 0 1 30922 0 1 36034 0
1 38647 0 1 22744 0 1 23650 0 1 27155 0 1 28122 0 1 28431 0 1 32047 0 1 32311 0 1 38475 0 1 21202 0 1 32907 0 1 20956
0 1 20940 0 1 31260 0 1 32190 0 1 33777 0 1 38517 0 1 35712 0 1 25295 0 1 27138 0 1 35582 0 1 20025 0 1 23527 0 1
24594 0 1 29575 0 1 30064 0 1 21271 0 1 30971 0 1 20415 0 1 24489 0 1 19981 0 1 27852 0 1 25976 0 1 32034 0 1 21443 0
1 22622 0 1 30465 0 1 33865 0 1 35498 0 1 27578 0 1 36784 0 1 27784 0 1 25342 0 1 33509 0 1 25504 0 1 30053 0 1 20142
0 1 20841 0 1 20937 0 1 26753 0 1 31975 0 1 33391 0 1 35538 0 1 37327 0 1 21237 0 1 21570 0 1 22899 0 1 24300 0 1
26053 0 1 28670 0 1 31018 0 1 38317 0 1 39530 0 1 40599 0 1 40654 0 1 21147 0 1 26310 0 1 27511 0 1 36706 0 1 24180 0
1 24976 0 1 25088 0 1 25754 0 1 28451 0 1 29001 0 1 29833 0 1 31178 0 1 32244 0 1 32879 0 1 36646 0 1 34030 0 1 36899
0 1 37706 0 1 21015 0 1 21155 0 1 21693 0 1 28872 0 1 35010 0 1 35498 0 1 24265 0 1 24565 0 1 25467 0 1 27566 0 1
31806 0 1 29557 0 1 20196 0 1 22265 0 1 23527 0 1 23994 0 1 24604 0 1 29618 0 1 29801 0 1 32666 0 1 32838 0 1 37428 0
1 38646 0 1 38728 0 1 38936 0 1 20363 0 1 31150 0 1 37300 0 1 38584 0 1 24801 0 1 20102 0 1 20698 0 1 23534 0 1 23615
0 1 26009 0 1 27138 0 1 29134 0 1 30274 0 1 34044 0 1 36988 0 1 40845 0 1 26248 0 1 38446 0 1 21129 0 1 26491 0 1
26611 0 1 27969 0 1 28316 0 1 29705 0 1 30041 0 1 30827 0 1 32016 0 1 39006 0 1 20845 0 1 25134 0 1 38520 0 1 20523 0
1 23833 0 1 28138 0 1 36650 0 1 24459 0 1 24900 0 1 26647 0 1 29575 0 1 38534 0 1 21033 0 1 21519 0 1 23653 0 1 26131
0 1 26446 0 1 26792 0 1 27877 0 1 29702 0 1 30178 0 1 32633 0 1 35023 0 1 35041 0 1 37324 0 1 38626 0 1 21311 0 1
28346 0 1 21533 0 1 29136 0 1 29848 0 1 34298 0 1 38563 0 1 40023 0 1 40607 0 1 26519 0 1 28107 0 1 33256 0 1 31435 0
1 31520 0 1 31890 0 1 29376 0 1 28825 0 1 35672 0 1 20160 0 1 33590 0 1 21050 0 1 20999 0 1 24230 0 1 25299 0 1 31958
0 1 23429 0 1 27934 0 1 26292 0 1 36667 0 1 34892 0 1 38477 0 1 35211 0 1 24275 0 1 20800 0 1 21952 2 1 22618 1 1
26228 2 1 20958 0 1 29482 0 1 30410 0 1 31036 0 1 31070 0 1 31077 0 1 31119 0 1 38742 0 1 31934 0 1 32701 1 1 34322 1
1 35576 2 1 36920 0 1 37117 3 1 39151 0 1 39164 0 1 39208 0 1 40372 0 1 37086 0 1 38583 0 1 20398 0 1 20711 0 1 20813
0 1 21193 0 1 21220 0 1 21329 0 1 21917 0 1 22022 0 1 22120 0 1 22592 0 1 22696 0 1 23652 0 1 23662 0 1 24724 0 1
24936 0 1 24974 0 1 25074 0 1 25935 0 1 26082 0 1 26257 0 1 26757 0 1 28023 0 1 28186 0 1 28450 0 1 29038 0 1 29227 0
1 29730 0 1 30865 0 1 31038 0 1 31049 0 1 31048 0 1 31056 0 1 31062 0 1 31069 0 1 31117 0 1 31118 0 1 31296 0 1 31361
0 1 31680 0 1 32244 0 1 32265 0 1 32321 0 1 32626 0 1 32773 0 1 33261 0 1 33401 0 1 33401 0 1 33879 0 1 35088 0 1
35222 0 1 35585 0 1 35641 0 1 36051 0 1 36104 0 1 36790 0 1 36920 0 1 38627 0 1 38911 0 1 38971 0 1 24693 0 1 148206 0
1 33304 2 1 20006 0 1 20917 0 1 20840 0 1 20352 0 1 20805 0 1 20864 0 1 21191 0 1 21242 0 1 21917 0 1 21845 0 1 21913
0 1 21986 0 1 22618 0 1 22707 0 1 22852 0 1 22868 0 1 23138 0 1 23336 0 1 24274 0 1 24281 0 1 24425 0 1 24493 0 1
24792 0 1 24910 0 1 24840 0 1 24974 0 1 24928 0 1 25074 0 1 25140 0 1 25540 0 1 25628 0 1 25682 0 1 25942 0 1 26228 0
1 26391 0 1 26395 0 1 26454 0 1 27513 0 1 27578 0 1 27969 0 1 28379 0 1 28363 0 1 28450 0 1 28702 0 1 29038 0 1 30631
0 1 29237 0 1 29359 0 1 29482 0 1 29809 0 1 29958 0 1 30011 0 1 30237 0 1 30239 0 1 30410 0 1 30427 0 1 30452 0 1
30538 0 1 30528 0 1 30924 0 1 31409 0 1 31680 0 1 31867 0 1 32091 0 1 32244 0 1 32574 0 1 32773 0 1 33618 0 1 33775 0
1 34681 0 1 35137 0 1 35206 0 1 35222 0 1 35519 0 1 35576 0 1 35531 0 1 35585 0 1 35582 0 1 35565 0 1 35641 0 1 35722
0 1 36104 0 1 36664 0 1 36978 0 1 37273 0 1 37494 0 1 38524 0 1 38627 0 1 38742 0 1 38875 0 1 38911 0 1 38923 0 1
38971 0 1 39698 0 1 40860 0 1 141386 0 1 141380 0 1 144341 0 1 15261 0 1 16408 0 1 16441 0 1 152137 0 1 154832 0 1
163539 0 1 40771 0 1 40846 67 2 1497 1460 1 2 1522 1463 10 2 1513 1473 0 2 1513 1474 0 3 1513 1468 1473 0 3 1513 1468
1474 0 2 1488 1463 0 2 1488 1464 0 2 1488 1468 0 2 1489 1468 0 2 1490 1468 0 2 1491 1468 0 2 1492 1468 0 2 1493 1468 0
2 1494 1468 1 2 1496 1468 0 2 1497 1468 0 2 1498 1468 0 2 1499 1468 0 2 1500 1468 1 2 1502 1468 1 2 1504 1468 0 2 1505
1468 1 2 1507 1468 0 2 1508 1468 1 2 1510 1468 0 2 1511 1468 0 2 1512 1468 0 2 1513 1468 0 2 1514 1468 0 2 1493 1465 0
2 1489 1471 0 2 1499 1471 0 2 1508 1471 54799 2 119127 119141 0 2 119128 119141 0 3 119128 119141 119150 0 3 119128
119141 119151 0 3 119128 119141 119152 0 3 119128 119141 119153 0 3 119128 119141 119154 86 2 119225 119141 0 2 119226
119141 0 3 119225 119141 119150 0 3 119226 119141 119150 0 3 119225 119141 119151 0 3 119226 119141 119151 75327 1
20029 0 1 20024 0 1 20033 0 1 131362 0 1 20320 0 1 20398 0 1 20411 0 1 20482 0 1 20602 0 1 20633 0 1 20711 0 1 20687 0
1 13470 0 1 132666 0 1 20813 0 1 20820 0 1 20836 0 1 20855 0 1 132380 0 1 13497 0 1 20839 0 1 20877 0 1 132427 0 1
20887 0 1 20900 0 1 20172 0 1 20908 0 1 20917 0 1 168415 0 1 20981 0 1 20995 0 1 13535 0 1 21051 0 1 21062 0 1 21106 0
1 21111 0 1 13589 0 1 21191 0 1 21193 0 1 21220 0 1 21242 0 1 21253 0 1 21254 0 1 21271 0 1 21321 0 1 21329 0 1 21338
0 1 21363 0 1 21373 0 1 21375 0 1 21375 0 1 21375 0 1 133676 0 1 28784 0 1 21450 0 1 21471 0 1 133987 0 1 21483 0 1
21489 0 1 21510 0 1 21662 0 1 21560 0 1 21576 0 1 21608 0 1 21666 0 1 21750 0 1 21776 0 1 21843 0 1 21859 0 1 21892 0
1 21892 0 1 21913 0 1 21931 0 1 21939 0 1 21954 0 1 22294 0 1 22022 0 1 22295 0 1 22097 0 1 22132 0 1 20999 0 1 22766
0 1 22478 0 1 22516 0 1 22541 0 1 22411 0 1 22578 0 1 22577 0 1 22700 0 1 136420 0 1 22770 0 1 22775 0 1 22790 0 1
22810 0 1 22818 0 1 22882 0 1 136872 0 1 136938 0 1 23020 0 1 23067 0 1 23079 0 1 23000 0 1 23142 0 1 14062 0 1 14076
0 1 23304 0 1 23358 0 1 23358 0 1 137672 0 1 23491 0 1 23512 0 1 23527 0 1 23539 0 1 138008 0 1 23551 0 1 23558 0 1
24403 0 1 23586 0 1 14209 0 1 23648 0 1 23662 0 1 23744 0 1 23693 0 1 138724 0 1 23875 0 1 138726 0 1 23918 0 1 23915
0 1 23932 0 1 24033 0 1 24034 0 1 14383 0 1 24061 0 1 24104 0 1 24125 0 1 24169 0 1 14434 0 1 139651 0 1 14460 0 1
24240 0 1 24243 0 1 24246 0 1 24266 0 1 172946 0 1 24318 0 1 140081 0 1 140081 0 1 33281 0 1 24354 0 1 24354 0 1 14535
0 1 144056 0 1 156122 0 1 24418 0 1 24427 0 1 14563 0 1 24474 0 1 24525 0 1 24535 0 1 24569 0 1 24705 0 1 14650 0 1
14620 0 1 24724 0 1 141012 0 1 24775 0 1 24904 0 1 24908 0 1 24910 0 1 24908 0 1 24954 0 1 24974 0 1 25010 0 1 24996 0
1 25007 0 1 25054 0 1 25074 0 1 25078 0 1 25104 0 1 25115 0 1 25181 0 1 25265 0 1 25300 0 1 25424 0 1 142092 0 1 25405
0 1 25340 0 1 25448 0 1 25475 0 1 25572 0 1 142321 0 1 25634 0 1 25541 0 1 25513 0 1 14894 0 1 25705 0 1 25726 0 1
25757 0 1 25719 0 1 14956 0 1 25935 0 1 25964 0 1 143370 0 1 26083 0 1 26360 0 1 26185 0 1 15129 0 1 26257 0 1 15112 0
1 15076 0 1 20882 0 1 20885 0 1 26368 0 1 26268 0 1 32941 0 1 17369 0 1 26391 0 1 26395 0 1 26401 0 1 26462 0 1 26451
0 1 144323 0 1 15177 0 1 26618 0 1 26501 0 1 26706 0 1 26757 0 1 144493 0 1 26766 0 1 26655 0 1 26900 0 1 15261 0 1
26946 0 1 27043 0 1 27114 0 1 27304 0 1 145059 0 1 27355 0 1 15384 0 1 27425 0 1 145575 0 1 27476 0 1 15438 0 1 27506
0 1 27551 0 1 27578 0 1 27579 0 1 146061 0 1 138507 0 1 146170 0 1 27726 0 1 146620 0 1 27839 0 1 27853 0 1 27751 0 1
27926 0 1 27966 0 1 28023 0 1 27969 0 1 28009 0 1 28024 0 1 28037 0 1 146718 0 1 27956 0 1 28207 0 1 28270 0 1 15667 0
1 28363 0 1 28359 0 1 147153 0 1 28153 0 1 28526 0 1 147294 0 1 147342 0 1 28614 0 1 28729 0 1 28702 0 1 28699 0 1
15766 0 1 28746 0 1 28797 0 1 28791 0 1 28845 0 1 132389 0 1 28997 0 1 148067 0 1 29084 0 1 148395 0 1 29224 0 1 29237
0 1 29264 0 1 149000 0 1 29312 0 1 29333 0 1 149301 0 1 149524 0 1 29562 0 1 29579 0 1 16044 0 1 29605 0 1 16056 0 1
16056 0 1 29767 0 1 29788 0 1 29809 0 1 29829 0 1 29898 0 1 16155 0 1 29988 0 1 150582 0 1 30014 0 1 150674 0 1 30064
0 1 139679 0 1 30224 0 1 151457 0 1 151480 0 1 151620 0 1 16380 0 1 16392 0 1 30452 0 1 151795 0 1 151794 0 1 151833 0
1 151859 0 1 30494 0 1 30495 0 1 30495 0 1 30538 0 1 16441 0 1 30603 0 1 16454 0 1 16534 0 1 152605 0 1 30798 0 1
30860 0 1 30924 0 1 16611 0 1 153126 0 1 31062 0 1 153242 0 1 153285 0 1 31119 0 1 31211 0 1 16687 0 1 31296 0 1 31306
0 1 31311 0 1 153980 0 1 154279 0 1 154279 0 1 31470 0 1 16898 0 1 154539 0 1 31686 0 1 31689 0 1 16935 0 1 154752 0 1
31954 0 1 17056 0 1 31976 0 1 31971 0 1 32000 0 1 155526 0 1 32099 0 1 17153 0 1 32199 0 1 32258 0 1 32325 0 1 17204 0
1 156200 0 1 156231 0 1 17241 0 1 156377 0 1 32634 0 1 156478 0 1 32661 0 1 32762 0 1 32773 0 1 156890 0 1 156963 0 1
32864 0 1 157096 0 1 32880 0 1 144223 0 1 17365 0 1 32946 0 1 33027 0 1 17419 0 1 33086 0 1 23221 0 1 157607 0 1
157621 0 1 144275 0 1 144284 0 1 33281 0 1 33284 0 1 36766 0 1 17515 0 1 33425 0 1 33419 0 1 33437 0 1 21171 0 1 33457
0 1 33459 0 1 33469 0 1 33510 0 1 158524 0 1 33509 0 1 33565 0 1 33635 0 1 33709 0 1 33571 0 1 33725 0 1 33767 0 1
33879 0 1 33619 0 1 33738 0 1 33740 0 1 33756 0 1 158774 0 1 159083 0 1 158933 0 1 17707 0 1 34033 0 1 34035 0 1 34070
0 1 160714 0 1 34148 0 1 159532 0 1 17757 0 1 17761 0 1 159665 0 1 159954 0 1 17771 0 1 34384 0 1 34396 0 1 34407 0 1
34409 0 1 34473 0 1 34440 0 1 34574 0 1 34530 0 1 34681 0 1 34600 0 1 34667 0 1 34694 0 1 17879 0 1 34785 0 1 34817 0
1 17913 0 1 34912 0 1 34915 0 1 161383 0 1 35031 0 1 35038 0 1 17973 0 1 35066 0 1 13499 0 1 161966 0 1 162150 0 1
18110 0 1 18119 0 1 35488 0 1 35565 0 1 35722 0 1 35925 0 1 162984 0 1 36011 0 1 36033 0 1 36123 0 1 36215 0 1 163631
0 1 133124 0 1 36299 0 1 36284 0 1 36336 0 1 133342 0 1 36564 0 1 36664 0 1 165330 0 1 165357 0 1 37012 0 1 37105 0 1
37137 0 1 165678 0 1 37147 0 1 37432 0 1 37591 0 1 37592 0 1 37500 0 1 37881 0 1 37909 0 1 166906 0 1 38283 0 1 18837
0 1 38327 0 1 167287 0 1 18918 0 1 38595 0 1 23986 0 1 38691 0 1 168261 0 1 168474 0 1 19054 0 1 19062 0 1 38880 0 1
168970 0 1 19122 0 1 169110 0 1 38923 0 1 38923 0 1 38953 0 1 169398 0 1 39138 0 1 19251 0 1 39209 0 1 39335 0 1 39362
0 1 39422 0 1 19406 0 1 170800 0 1 39698 0 1 40000 0 1 40189 0 1 19662 0 1 19693 0 1 40295 0 1 172238 0 1 19704 0 1
172293 0 1 172558 0 1 172689 0 1 40635 0 1 19798 0 1 40697 0 1 40702 0 1 40709 0 1 40719 0 1 40726 0 1 40763 0 1
173568"

/-- The characters that are never used in composed text, each with its full sequence. -/
def replaced : CodeTable (List Char) := .ofSequences replacedText

/-- The combining classes that are not zero. -/
def combiningText : String :=
"768 21 230 0 1 232 0 4 220 0 1 232 0 1 216 0 5 220 0 2 202 0 4 220 0 2 202 0 11 220 0 5 1 0 4 220 0 8 230 0 1 240 0 1
230 0 3 220 0 3 230 0 2 220 1 3 230 0 4 220 0 1 230 0 1 232 0 2 220 0 1 230 0 1 233 0 2 234 0 1 233 0 2 234 0 1 233 0
13 230 275 5 230 265 1 220 0 4 230 0 1 220 0 3 230 0 1 222 0 1 220 0 6 230 0 6 220 0 2 230 0 1 220 0 2 230 0 1 222 0 1
228 0 1 230 0 1 10 0 1 11 0 1 12 0 1 13 0 1 14 0 1 15 0 1 16 0 1 17 0 1 18 0 2 19 0 1 20 0 1 21 0 1 22 1 1 23 1 1 24 0
1 25 1 1 230 0 1 220 1 1 18 72 8 230 0 1 30 0 1 31 0 1 32 48 1 27 0 1 28 0 1 29 0 1 30 0 1 31 0 1 32 0 1 33 0 1 34 0 2
230 0 2 220 0 5 230 0 1 220 0 2 230 0 1 220 16 1 35 101 7 230 2 4 230 0 1 220 0 1 230 2 2 230 1 1 220 0 2 230 0 1 220
35 1 36 30 1 230 0 1 220 0 2 230 0 1 220 0 2 230 0 3 220 0 1 230 0 2 220 0 1 230 0 1 220 0 3 230 0 1 220 0 1 230 0 1
220 0 1 230 0 1 220 0 1 230 0 1 220 0 2 230 160 7 230 0 1 220 0 1 230 9 1 220 24 4 230 1 9 230 1 3 230 1 5 230 43 3
220 60 1 230 0 3 220 0 4 230 42 5 230 0 5 220 0 14 230 1 1 220 0 2 230 0 1 220 0 2 230 0 1 220 0 3 230 0 3 220 0 1 27
0 1 28 0 1 29 0 3 230 0 1 220 0 2 230 0 2 220 0 5 230 60 1 7 16 1 9 3 1 230 0 1 220 0 2 230 103 1 7 16 1 9 48 1 230 61
1 7 16 1 9 110 1 7 16 1 9 110 1 7 16 1 9 127 1 9 110 1 7 16 1 9 7 1 84 0 1 91 101 1 7 16 1 9 109 2 9 16 1 9 124 1 9
109 2 103 0 1 9 13 4 107 108 2 118 0 1 9 13 4 122 76 2 220 27 1 220 1 1 220 1 1 216 55 1 129 0 1 130 1 1 132 5 4 130 2
1 130 1 2 230 0 1 9 1 2 230 62 1 220 112 1 7 1 2 9 82 1 220 719 3 230 948 2 9 30 1 9 157 1 9 10 1 230 203 1 228 143 1
222 0 1 230 0 1 220 219 1 230 0 1 220 71 1 9 20 8 230 2 1 220 48 5 230 0 6 220 0 2 230 0 1 220 1 2 220 0 2 230 0 2 220
0 5 230 0 1 220 0 4 230 101 1 7 15 1 9 38 1 230 0 1 220 0 7 230 54 2 9 58 1 7 11 2 9 67 1 7 152 3 230 1 1 1 0 5 220 0
2 230 0 4 220 0 1 230 1 7 1 4 1 220 6 1 230 3 2 230 198 2 230 0 1 220 0 7 230 0 1 220 0 2 230 0 1 234 0 1 214 0 1 220
0 1 202 0 37 230 0 1 232 0 2 228 0 1 220 0 1 218 0 1 230 0 1 233 0 1 220 0 1 230 0 1 220 720 2 230 0 2 1 0 4 230 0 3 1
0 2 230 4 1 230 3 2 1 0 1 230 0 1 220 0 1 230 0 2 1 0 4 220 0 1 230 3070 3 230 141 1 9 96 32 230 554 1 218 0 1 228 0 1
232 0 1 222 0 2 224 105 2 8 30164 1 230 4 10 230 32 2 230 80 2 230 276 1 9 37 1 9 151 1 9 27 18 230 57 3 220 37 1 9 95
1 7 12 1 9 239 1 230 1 2 230 0 1 220 2 2 230 5 2 230 1 1 230 52 1 9 246 1 9 20272 1 26 769 7 230 0 7 220 0 2 230 973 1
220 226 1 220 149 5 230 1682 1 220 1 1 230 40 1 230 0 1 1 0 1 220 4 1 9 165 1 230 0 1 220 573 4 230 387 2 230 80 3 220
70 2 220 0 3 230 0 1 220 0 1 230 0 4 220 49 1 230 0 1 220 0 1 230 0 1 220 192 1 9 41 1 9 14 1 9 57 1 9 0 1 7 69 3 230
48 2 9 62 1 7 76 1 9 9 1 7 106 1 9 0 1 7 178 1 7 0 1 9 80 2 7 16 1 9 24 7 230 3 5 230 205 1 9 3 1 7 23 1 230 99 1 9 0
1 7 251 1 9 0 1 7 126 1 9 118 1 9 0 1 7 115 1 9 269 1 9 0 1 7 258 2 9 4 1 7 156 1 9 83 1 9 18 1 9 81 1 9 421 1 9 258 1
7 1 2 9 81 1 9 425 2 9 19373 5 1 59 7 230 1209 2 6 19628 1 1 5318 2 216 0 3 1 3 1 226 0 5 216 8 8 220 2 5 230 0 2 220
30 4 230 148 3 230 3515 7 230 1 17 230 2 7 230 1 2 230 1 5 230 100 1 230 160 7 230 375 1 230 61 4 230 508 2 232 0 1
220 0 1 230 992 7 220 109 6 230 0 1 7"

/-- The combining classes that are not zero. -/
def combining : CodeTable Nat := .ofValues combiningText

/-- The combining class of a character, which is zero for one that begins a new sequence. -/
def combiningClass (c : Char) : Nat :=
  if c.toNat < 0x300 then 0 else (combining.value? c).getD 0

/-- The number of a Hangul syllable. -/
def syllable? (c : Char) : Option Nat :=
  if 0xAC00 ≤ c.toNat ∧ c.toNat < 0xAC00 + 11172 then some (c.toNat - 0xAC00) else none

/-- The letters of a Hangul syllable: a leading consonant, a vowel, and perhaps a trailing consonant. -/
def letters (syllable : Nat) : List Char :=
  let leading := Char.ofNat (0x1100 + syllable / 588)
  let vowel := Char.ofNat (0x1161 + syllable % 588 / 28)
  if syllable % 28 = 0 then [leading, vowel] else [leading, vowel, Char.ofNat (0x11A7 + syllable % 28)]

/-- The sequence of a character where composites begin with composites, nested at most as deep as given. -/
def decomposeWithin : (depth : Nat) → Char → List Char
  | 0, c => [c]
  | depth + 1, c =>
    match composites.value? c with
    | some (first :: marks) => decomposeWithin depth first ++ marks
    | _ => (replaced.value? c).getD [c]

/-- The full sequence of a character, which is itself for most. Composites nest at most four deep. -/
def decompose (c : Char) : List Char :=
  if c.toNat < 0xC0 then [c]
  else
    match syllable? c with
    | some n => letters n
    | none => decomposeWithin 4 c

/-- The Hangul syllable of two letters, or of a syllable and a trailing consonant. -/
def composeSyllable? (a b : Char) : Option Char :=
  if 0x1100 ≤ a.toNat ∧ a.toNat < 0x1113 ∧ 0x1161 ≤ b.toNat ∧ b.toNat < 0x1176 then
    some (Char.ofNat (0xAC00 + (a.toNat - 0x1100) * 588 + (b.toNat - 0x1161) * 28))
  else
    match syllable? a with
    | some n =>
      if n % 28 = 0 ∧ 0x11A8 ≤ b.toNat ∧ b.toNat < 0x11C3 then some (Char.ofNat (a.toNat + (b.toNat - 0x11A7)))
      else none
    | none => none

/-- The composite of two characters. -/
def compose? (a b : Char) : Option Char :=
  match composites.runs.find? fun run => run.value = [a, b] with
  | some run => some (Char.ofNat run.first)
  | none => composeSyllable? a b

end FocusJournal.Text
