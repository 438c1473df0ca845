import InventoryQuery.Text.CodeSet
/-! # Characters that are shown by number

A message quotes a foreign text so that every character can be told from its neighbours: controls,
formats, separators other than the space, unassigned and private code points, characters that are
ignored by default, and marks that would join the character before them are written as a number.
-/

namespace InventoryQuery.Text

/-- The characters that are shown by number. -/
def numbered : CodeSet := .ofText
  "0 32 127 161 173 174 768 880 888 890 896 900 907 908 909 910 930 931 1155 1162 1328 1329 1367
    1369 1419 1421 1424 1470 1471 1472 1473 1475 1476 1478 1479 1488 1515 1519 1525 1542 1552 1563
    1564 1565 1611 1632 1648 1649 1750 1758 1759 1765 1767 1769 1770 1774 1806 1808 1809 1810 1840
    1869 1958 1969 1970 1984 2027 2036 2043 2046 2070 2074 2075 2084 2085 2088 2089 2096 2111 2112
    2137 2142 2143 2144 2155 2160 2192 2208 2250 2307 2362 2363 2364 2365 2369 2377 2381 2382 2385
    2392 2402 2404 2433 2434 2436 2437 2445 2447 2449 2451 2473 2474 2481 2482 2483 2486 2490 2493
    2494 2495 2497 2503 2505 2507 2509 2510 2511 2524 2526 2527 2530 2534 2558 2563 2564 2565 2571
    2575 2577 2579 2601 2602 2609 2610 2612 2613 2615 2616 2618 2622 2625 2649 2653 2654 2655 2662
    2672 2674 2677 2678 2679 2691 2692 2693 2702 2703 2706 2707 2729 2730 2737 2738 2740 2741 2746
    2749 2753 2761 2762 2763 2765 2768 2769 2784 2786 2790 2802 2809 2810 2818 2820 2821 2829 2831
    2833 2835 2857 2858 2865 2866 2868 2869 2874 2877 2878 2880 2881 2887 2889 2891 2893 2908 2910
    2911 2914 2918 2936 2947 2948 2949 2955 2958 2961 2962 2966 2969 2971 2972 2973 2974 2976 2979
    2981 2984 2987 2990 3002 3007 3008 3009 3011 3014 3017 3018 3021 3024 3025 3046 3067 3073 3076
    3077 3085 3086 3089 3090 3113 3114 3130 3133 3134 3137 3141 3160 3163 3164 3166 3168 3170 3174
    3184 3191 3201 3202 3213 3214 3217 3218 3241 3242 3252 3253 3258 3261 3263 3265 3266 3267 3269
    3292 3295 3296 3298 3302 3312 3313 3316 3330 3341 3342 3345 3346 3387 3389 3390 3391 3393 3398
    3401 3402 3405 3406 3408 3412 3415 3416 3426 3430 3456 3458 3460 3461 3479 3482 3506 3507 3516
    3517 3518 3520 3527 3536 3538 3544 3551 3558 3568 3570 3573 3585 3633 3634 3636 3647 3655 3663
    3676 3713 3715 3716 3717 3718 3723 3724 3748 3749 3750 3751 3761 3762 3764 3773 3774 3776 3781
    3782 3783 3792 3802 3804 3808 3840 3864 3866 3893 3894 3895 3896 3897 3898 3912 3913 3949 3967
    3968 3973 3974 3976 3981 4030 4038 4039 4045 4046 4059 4096 4141 4145 4146 4152 4153 4155 4157
    4159 4184 4186 4190 4193 4209 4213 4226 4227 4229 4231 4237 4238 4253 4254 4294 4295 4296 4301
    4302 4304 4447 4449 4681 4682 4686 4688 4695 4696 4697 4698 4702 4704 4745 4746 4750 4752 4785
    4786 4790 4792 4799 4800 4801 4802 4806 4808 4823 4824 4881 4882 4886 4888 4955 4960 4989 4992
    5018 5024 5110 5112 5118 5120 5760 5761 5789 5792 5881 5888 5906 5919 5938 5941 5943 5952 5970
    5984 5997 5998 6001 6016 6068 6070 6071 6078 6086 6087 6089 6100 6109 6112 6122 6128 6138 6144
    6155 6160 6170 6176 6265 6272 6277 6279 6313 6314 6315 6320 6390 6400 6431 6435 6439 6441 6444
    6448 6450 6451 6457 6464 6465 6468 6510 6512 6517 6528 6572 6576 6602 6608 6619 6622 6679 6681
    6683 6686 6742 6743 6744 6753 6754 6755 6757 6765 6771 6784 6794 6800 6810 6816 6830 6916 6964
    6974 6978 6981 6989 6990 7019 7028 7040 7042 7074 7078 7080 7086 7142 7143 7144 7146 7149 7150
    7151 7164 7212 7220 7222 7227 7242 7245 7307 7312 7355 7357 7368 7379 7380 7393 7394 7401 7405
    7406 7412 7413 7416 7418 7419 7424 7616 7680 7958 7960 7966 7968 8006 8008 8014 8016 8024 8025
    8026 8027 8028 8029 8030 8031 8062 8064 8117 8118 8133 8134 8148 8150 8156 8157 8176 8178 8181
    8182 8191 8208 8232 8240 8287 8304 8306 8308 8335 8336 8349 8352 8386 8448 8588 8592 9258 9280
    9291 9312 11124 11126 11503 11506 11508 11513 11558 11559 11560 11565 11566 11568 11624 11631
    11633 11648 11671 11680 11687 11688 11695 11696 11703 11704 11711 11712 11719 11720 11727
    11728 11735 11736 11743 11776 11870 11904 11930 11931 12020 12032 12246 12272 12288 12289
    12330 12336 12352 12353 12439 12443 12544 12549 12592 12593 12644 12645 12687 12688 12774
    12783 12831 12832 42125 42128 42183 42192 42540 42560 42607 42611 42612 42622 42654 42656
    42736 42738 42744 42752 42973 42993 43010 43011 43014 43015 43019 43020 43045 43047 43052
    43056 43066 43072 43128 43136 43204 43214 43226 43250 43263 43264 43302 43310 43335 43346
    43347 43359 43389 43395 43443 43444 43446 43450 43452 43454 43456 43457 43470 43471 43482
    43486 43493 43494 43519 43520 43561 43567 43569 43571 43573 43584 43587 43588 43596 43597
    43598 43600 43610 43612 43644 43645 43696 43697 43698 43701 43703 43705 43710 43712 43713
    43714 43715 43739 43756 43758 43766 43777 43783 43785 43791 43793 43799 43808 43815 43816
    43823 43824 43884 43888 44005 44006 44008 44009 44013 44016 44026 44032 55204 55216 55239
    55243 55292 63744 64110 64112 64218 64256 64263 64275 64280 64285 64286 64287 64311 64312
    64317 64318 64319 64320 64322 64323 64325 64326 64976 65008 65024 65040 65050 65072 65107
    65108 65127 65128 65132 65136 65141 65142 65277 65281 65440 65441 65471 65474 65480 65482
    65488 65490 65496 65498 65501 65504 65511 65512 65519 65532 65534 65536 65548 65549 65575
    65576 65595 65596 65598 65599 65614 65616 65630 65664 65787 65792 65795 65799 65844 65847
    65935 65936 65949 65952 65953 66000 66045 66176 66205 66208 66257 66273 66300 66304 66340
    66349 66379 66384 66422 66432 66462 66463 66500 66504 66518 66560 66718 66720 66730 66736
    66772 66776 66812 66816 66856 66864 66916 66927 66939 66940 66955 66956 66963 66964 66966
    66967 66978 66979 66994 66995 67002 67003 67005 67008 67060 67072 67383 67392 67414 67424
    67432 67456 67462 67463 67505 67506 67515 67584 67590 67592 67593 67594 67638 67639 67641
    67644 67645 67647 67670 67671 67743 67751 67760 67808 67827 67828 67830 67835 67868 67871
    67898 67903 67930 67968 68024 68028 68048 68050 68097 68112 68116 68117 68120 68121 68150
    68160 68169 68176 68185 68192 68256 68288 68325 68331 68343 68352 68406 68409 68438 68440
    68467 68472 68498 68505 68509 68521 68528 68608 68681 68736 68787 68800 68851 68858 68900
    68912 68922 68928 68966 68974 68998 69006 69008 69216 69247 69248 69290 69293 69294 69296
    69298 69314 69320 69328 69337 69376 69416 69424 69446 69457 69466 69488 69506 69510 69514
    69552 69580 69600 69623 69632 69633 69634 69688 69703 69710 69714 69744 69745 69747 69749
    69750 69762 69811 69815 69817 69819 69821 69822 69826 69840 69865 69872 69882 69891 69927
    69932 69933 69942 69960 69968 70003 70004 70007 70018 70070 70079 70080 70081 70089 70093
    70095 70096 70112 70113 70133 70144 70162 70163 70191 70194 70196 70200 70206 70207 70209
    70272 70279 70280 70281 70282 70286 70287 70302 70303 70314 70320 70367 70368 70371 70384
    70394 70402 70404 70405 70413 70415 70417 70419 70441 70442 70449 70450 70452 70453 70458
    70461 70462 70463 70464 70465 70469 70471 70473 70475 70477 70480 70481 70493 70500 70528
    70538 70539 70540 70542 70543 70544 70582 70583 70584 70585 70587 70602 70603 70604 70606
    70609 70610 70611 70614 70615 70617 70656 70712 70720 70722 70725 70726 70727 70748 70749
    70750 70751 70754 70784 70832 70833 70835 70841 70842 70843 70845 70846 70847 70849 70850
    70852 70856 70864 70874 71040 71087 71088 71090 71096 71100 71102 71103 71105 71132 71168
    71219 71227 71229 71230 71231 71233 71237 71248 71258 71264 71277 71296 71339 71340 71341
    71342 71344 71352 71354 71360 71370 71376 71396 71424 71451 71454 71455 71456 71458 71462
    71463 71472 71495 71680 71727 71736 71737 71739 71740 71840 71923 71935 71943 71945 71946
    71948 71956 71957 71959 71960 71984 71985 71990 71991 71993 71999 72003 72004 72007 72016
    72026 72096 72104 72106 72148 72156 72160 72161 72165 72192 72193 72203 72243 72249 72251
    72255 72263 72272 72273 72279 72281 72284 72330 72343 72344 72346 72355 72368 72441 72448
    72458 72545 72546 72549 72550 72551 72552 72640 72674 72688 72698 72704 72713 72714 72752
    72766 72767 72768 72774 72784 72813 72816 72848 72873 72874 72881 72882 72884 72885 72960
    72967 72968 72970 72971 73009 73030 73031 73040 73050 73056 73062 73063 73065 73066 73103
    73107 73109 73110 73111 73112 73113 73120 73130 73136 73180 73184 73194 73440 73459 73461
    73465 73474 73489 73490 73526 73534 73536 73539 73562 73648 73649 73664 73714 73727 74650
    74752 74863 74864 74869 74880 75076 77712 77811 77824 78896 78913 78919 78944 82939 82944
    83527 90368 90398 90410 90413 90416 90426 92160 92729 92736 92767 92768 92778 92782 92863
    92864 92874 92880 92910 92917 92918 92928 92976 92983 92998 93008 93018 93019 93026 93027
    93048 93053 93072 93504 93562 93760 93851 93856 93881 93883 93908 93952 94027 94032 94088
    94099 94112 94176 94180 94194 94199 94208 101590 101631 101663 101760 101875 110576 110580
    110581 110588 110589 110591 110592 110883 110898 110899 110928 110931 110933 110934 110948
    110952 110960 111356 113664 113771 113776 113789 113792 113801 113808 113818 113820 113821
    113823 113824 117760 118013 118016 118452 118458 118481 118496 118513 118608 118724 118784
    119030 119040 119079 119081 119141 119146 119149 119171 119173 119180 119210 119214 119275
    119296 119362 119365 119366 119488 119508 119520 119540 119552 119639 119648 119673 119808
    119893 119894 119965 119966 119968 119970 119971 119973 119975 119977 119981 119982 119994
    119995 119996 119997 120004 120005 120070 120071 120075 120077 120085 120086 120093 120094
    120122 120123 120127 120128 120133 120134 120135 120138 120145 120146 120486 120488 120780
    120782 121344 121399 121403 121453 121461 121462 121476 121477 121484 122624 122655 122661
    122667 122928 122990 123136 123181 123191 123198 123200 123210 123214 123216 123536 123566
    123584 123628 123632 123642 123647 123648 124112 124140 124144 124154 124368 124398 124400
    124411 124415 124416 124608 124639 124640 124643 124644 124646 124647 124654 124656 124661
    124670 124672 124896 124903 124904 124908 124909 124911 124912 124927 124928 125125 125127
    125136 125184 125252 125259 125260 125264 125274 125278 125280 126065 126133 126209 126270
    126464 126468 126469 126496 126497 126499 126500 126501 126503 126504 126505 126515 126516
    126520 126521 126522 126523 126524 126530 126531 126535 126536 126537 126538 126539 126540
    126541 126544 126545 126547 126548 126549 126551 126552 126553 126554 126555 126556 126557
    126558 126559 126560 126561 126563 126564 126565 126567 126571 126572 126579 126580 126584
    126585 126589 126590 126591 126592 126602 126603 126620 126625 126628 126629 126634 126635
    126652 126704 126706 126976 127020 127024 127124 127136 127151 127153 127168 127169 127184
    127185 127222 127232 127406 127462 127491 127504 127548 127552 127561 127568 127570 127584
    127590 127744 128729 128732 128749 128752 128765 128768 128986 128992 129004 129008 129009
    129024 129036 129040 129096 129104 129114 129120 129160 129168 129198 129200 129212 129216
    129218 129232 129241 129280 129624 129632 129646 129648 129661 129664 129675 129678 129735
    129736 129737 129741 129757 129759 129771 129775 129785 129792 129939 129940 130043 131072
    173792 173824 178206 178208 183982 183984 191457 191472 192094 194560 195102 196608 201547
    201552 210042"

/-- Whether a character is shown by number. -/
def isNumbered (c : Char) : Bool :=
  numbered.contains c

end InventoryQuery.Text
