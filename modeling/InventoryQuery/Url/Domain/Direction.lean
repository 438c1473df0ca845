import InventoryQuery.Text.CodeSet
/-! # Writing direction in domains

Where some label of a domain is written from right to left, every label must have one direction
only: it begins with a letter of that direction, ends with a letter or number and holds no letter of
the other one. Marks at the end do not count. The tables hold for the characters that may stand in a
domain.
-/

namespace InventoryQuery.Url.Domain

open Text (CodeSet)

/-- How a character takes part in the direction of a text. -/
inductive Direction where
  | leftToRight
  | rightToLeft
  | europeanNumber
  | arabicNumber
  | mark
  | neutral
  deriving DecidableEq, Repr

/-- The letters written from right to left. -/
def rightToLeftLetters : CodeSet := .ofText
  "1470 1471 1472 1473 1475 1476 1478 1479 1488 1542 1544 1545 1547 1548 1549 1550 1563 1611 1645
    1648 1649 1750 1765 1767 1774 1776 1786 1809 1810 1840 1869 1958 1969 2027 2036 2038 2042 2045
    2046 2070 2074 2075 2084 2085 2088 2089 2096 2137 2142 2199 2208 2250 64434 64451 65139 65536
    67584 67871 67872 68097 68112 68152 68160 68325 68331 68409 68416 68900 68938 68969 68975
    69216 69248 69291 69293 69328 69337 69370 69376 69446 69457 69506 69510 69632 124928 125136
    125218 125252 125259 126704"

/-- The numbers that belong to letters written from right to left. -/
def arabicNumbers : CodeSet := .ofText
  "1632 1642 1643 1645 68912 68938 69216 69248"

/-- The other numbers. -/
def europeanNumbers : CodeSet := .ofText
  "48 58 1776 1786 66273 66304"

/-- The marks that take the direction of the character before them. -/
def directionMarks : CodeSet := .ofText
  "768 881 1155 1163 1425 1470 1471 1472 1473 1475 1476 1478 1479 1488 1552 1563 1611 1632 1648
    1649 1750 1758 1759 1765 1767 1769 1770 1774 1809 1810 1840 1869 1958 1969 2027 2036 2045 2046
    2070 2074 2075 2084 2085 2088 2089 2096 2137 2142 2199 2208 2250 2307 2362 2363 2364 2365 2369
    2377 2381 2382 2385 2400 2402 2404 2433 2434 2492 2493 2497 2503 2509 2510 2530 2534 2558 2563
    2620 2622 2625 2652 2672 2674 2677 2678 2689 2691 2748 2749 2753 2761 2765 2768 2786 2790 2810
    2818 2876 2877 2879 2880 2881 2887 2893 2903 2914 2918 2946 2947 3008 3009 3021 3024 3072 3073
    3076 3077 3132 3133 3134 3137 3142 3160 3170 3174 3201 3202 3260 3261 3276 3285 3298 3302 3328
    3330 3387 3389 3393 3398 3405 3406 3426 3430 3457 3458 3530 3535 3538 3544 3633 3634 3636 3647
    3655 3663 3761 3762 3764 3773 3784 3792 3864 3866 3893 3894 3895 3896 3897 3898 3953 3967 3968
    3973 3974 3976 3981 4030 4038 4039 4141 4145 4146 4152 4153 4155 4157 4159 4184 4186 4190 4193
    4209 4213 4226 4227 4229 4231 4237 4238 4253 4254 4957 4960 5906 5909 5938 5940 5970 5984 6002
    6016 6071 6078 6086 6087 6089 6100 6109 6112 6277 6279 6313 6314 6432 6435 6439 6441 6450 6451
    6457 6464 6679 6681 6683 6686 6742 6743 6744 6753 6754 6755 6757 6765 6771 6784 6832 6916 6964
    6965 6966 6970 7019 7028 7040 7042 7074 7078 7080 7082 7083 7086 7142 7143 7144 7146 7149 7150
    7151 7154 7212 7220 7222 7227 7376 7379 7380 7393 7394 7401 7405 7406 7412 7413 7416 7418 7616
    7681 8400 8452 11503 11507 11647 11648 11744 11776 12330 12334 12441 12445 42607 42611 42612
    42622 42654 42656 42736 42738 43010 43011 43014 43015 43019 43020 43045 43047 43052 43056
    43204 43214 43232 43250 43263 43264 43302 43310 43335 43346 43392 43395 43443 43444 43446
    43450 43452 43454 43493 43494 43561 43567 43569 43571 43573 43584 43587 43588 43596 43597
    43644 43645 43696 43697 43698 43701 43703 43705 43710 43712 43713 43714 43756 43758 43766
    43777 44005 44006 44008 44009 44013 44016 64286 64434 65056 65093 66045 66176 66272 66273
    66422 66432 68097 68112 68152 68160 68325 68331 68900 68912 68969 68974 69291 69293 69370
    69376 69446 69457 69506 69510 69633 69634 69688 69703 69744 69745 69747 69749 69759 69762
    69811 69815 69817 69819 69826 69840 69888 69891 69927 69932 69933 69942 70003 70004 70016
    70018 70070 70079 70089 70093 70095 70096 70191 70194 70196 70197 70198 70200 70206 70207
    70209 70272 70367 70368 70371 70384 70400 70402 70459 70461 70464 70465 70502 70528 70587
    70594 70606 70607 70608 70609 70610 70611 70625 70656 70712 70720 70722 70725 70726 70727
    70750 70751 70835 70841 70842 70843 70847 70849 70850 70852 71090 71096 71100 71102 71103
    71105 71132 71168 71219 71227 71229 71230 71231 71233 71339 71340 71341 71342 71344 71350
    71351 71352 71453 71454 71455 71456 71458 71462 71463 71472 71727 71736 71737 71739 71995
    71997 71998 71999 72003 72004 72148 72156 72160 72161 72193 72199 72201 72203 72243 72249
    72251 72255 72263 72272 72273 72279 72281 72284 72330 72343 72344 72346 72544 72545 72546
    72549 72550 72551 72752 72766 72850 72873 72874 72881 72882 72884 72885 72960 73009 73030
    73031 73040 73104 73107 73109 73110 73111 73112 73459 73461 73472 73474 73526 73534 73536
    73537 73538 73539 73562 73648 78912 78913 78919 78944 90398 90410 90413 90416 92912 92917
    92976 92983 94031 94032 94095 94099 94180 94192 113821 113823 118528 118608 119143 119146
    119163 119171 119173 119180 119210 119214 119362 119365 121344 121399 121403 121453 121461
    121462 121476 121477 121499 121600 122880 123136 123184 123191 123566 123584 123628 123632
    124140 124144 124398 124400 124643 124644 124646 124647 124654 124656 124661 124670 125136
    125218 125252 125259"

/-- The characters that have no direction of their own. -/
def neutrals : CodeSet := .ofText
  "0 48 58 97 123 223 247 248 697 699 706 720 722 750 751 768 885 887 1014 1016 1418 1425 1542
    1544 1545 1547 1548 1549 1550 1552 1642 1643 1758 1759 1769 1770 2038 2042 2546 2548 2555 2556
    2801 2809 3059 3072 3192 3199 3647 3648 3898 3902 5008 5024 5120 5121 5787 5792 6107 6108 6128
    6160 6464 6470 6622 6656 8204 8400 8452 8526 8586 9014 9083 9109 9110 9900 9901 10240 10496
    11312 11493 11500 11513 11520 11776 12293 12296 12321 12336 12337 12343 12347 12349 12353
    12448 12449 12539 12540 12736 12784 19904 19968 42128 42192 42509 42512 42611 42612 42622
    42625 42752 42787 42888 42889 43048 43052 43064 43072 43124 43136 43882 43968 64451 65056
    65093 65139 65793 65794 65856 65933 65936 66000 67871 67872 68409 68416 68974 68975 69328
    69337 69714 69734 71264 71296 73685 73727 94178 94179 117760 118528 119273 119362 119365
    119376 119552 119648 121600 122624 123647 124112 126704 127312 127341 127344 127405 127462
    127584 131072"

/-- The direction of a character. -/
def direction (c : Char) : Direction :=
  if rightToLeftLetters.contains c then .rightToLeft
  else if arabicNumbers.contains c then .arabicNumber
  else if europeanNumbers.contains c then .europeanNumber
  else if directionMarks.contains c then .mark
  else if neutrals.contains c then .neutral
  else .leftToRight

/-- Whether a character makes a domain one that is written from right to left; none before the
letters of Hebrew does. -/
def runsRightToLeft (c : Char) : Bool :=
  0x590 ≤ c.toNat && [Direction.rightToLeft, .arabicNumber].contains (direction c)

/-- Whether a label has one direction only. -/
def hasOneDirection (label : List Char) : Bool :=
  match label.map direction with
  | [] => true
  | first :: others =>
    match first, others.reverse.dropWhile (· = .mark) with
    | .leftToRight, [] => true
    | .leftToRight, last :: middle =>
      [Direction.leftToRight, .europeanNumber].contains last &&
        middle.all fun d => d ≠ .rightToLeft ∧ d ≠ .arabicNumber
    | .rightToLeft, [] => true
    | .rightToLeft, last :: middle =>
      [Direction.rightToLeft, .europeanNumber, .arabicNumber].contains last &&
        middle.all (· ≠ .leftToRight) &&
        !(others.contains .europeanNumber && others.contains .arabicNumber)
    | _, _ => false

end InventoryQuery.Url.Domain
