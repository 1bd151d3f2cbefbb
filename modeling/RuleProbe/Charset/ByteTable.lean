/-!
# Charsets of single bytes, and the four-byte area of GB 18030

Entries of numbers in base sixteen.
-/

namespace RuleProbe

namespace Charset

/-- The charsets of single bytes: a name, and the codes of the characters up to byte 255;
the bytes before them stand for the characters of the same number. -/
def byteRows : String := "iso8859_2 a0 104 2d8 141 a4 13d 15a a7 a8 160 15e 164 179 ad 17d 17b b0 105 2db 142 b4 13e 15b
2c7 b8 161 15f 165 17a 2dd 17e 17c 154 c1 c2 102 c4 139 106 c7 10c c9 118 cb 11a cd ce 10e 110
143 147 d3 d4 150 d6 d7 158 16e da 170 dc dd 162 df 155 e1 e2 103 e4 13a 107 e7 10d e9 119 eb
11b ed ee 10f 111 144 148 f3 f4 151 f6 f7 159 16f fa 171 fc fd 163 2d9
;
iso8859_3 a0 126 2d8 a3 a4 fffd 124 a7 a8 130 15e 11e 134 ad fffd 17b b0 127 b2 b3 b4 b5 125 b7
b8 131 15f 11f 135 bd fffd 17c c0 c1 c2 fffd c4 10a 108 c7 c8 c9 ca cb cc cd ce cf fffd d1 d2 d3
d4 120 d6 d7 11c d9 da db dc 16c 15c df e0 e1 e2 fffd e4 10b 109 e7 e8 e9 ea eb ec ed ee ef fffd
f1 f2 f3 f4 121 f6 f7 11d f9 fa fb fc 16d 15d 2d9
;
iso8859_4 a0 104 138 156 a4 128 13b a7 a8 160 112 122 166 ad 17d af b0 105 2db 157 b4 129 13c
2c7 b8 161 113 123 167 14a 17e 14b 100 c1 c2 c3 c4 c5 c6 12e 10c c9 118 cb 116 cd ce 12a 110 145
14c 136 d4 d5 d6 d7 d8 172 da db dc 168 16a df 101 e1 e2 e3 e4 e5 e6 12f 10d e9 119 eb 117 ed ee
12b 111 146 14d 137 f4 f5 f6 f7 f8 173 fa fb fc 169 16b 2d9
;
iso8859_5 a0 401 402 403 404 405 406 407 408 409 40a 40b 40c ad 40e 40f 410 411 412 413 414 415
416 417 418 419 41a 41b 41c 41d 41e 41f 420 421 422 423 424 425 426 427 428 429 42a 42b 42c 42d
42e 42f 430 431 432 433 434 435 436 437 438 439 43a 43b 43c 43d 43e 43f 440 441 442 443 444 445
446 447 448 449 44a 44b 44c 44d 44e 44f 2116 451 452 453 454 455 456 457 458 459 45a 45b 45c a7
45e 45f
;
iso8859_6 a0 fffd fffd fffd a4 fffd fffd fffd fffd fffd fffd fffd 60c ad fffd fffd fffd fffd
fffd fffd fffd fffd fffd fffd fffd fffd fffd 61b fffd fffd fffd 61f fffd 621 622 623 624 625 626
627 628 629 62a 62b 62c 62d 62e 62f 630 631 632 633 634 635 636 637 638 639 63a fffd fffd fffd
fffd fffd 640 641 642 643 644 645 646 647 648 649 64a 64b 64c 64d 64e 64f 650 651 652 fffd fffd
fffd fffd fffd fffd fffd fffd fffd fffd fffd fffd fffd
;
iso8859_7 a0 2018 2019 a3 20ac 20af a6 a7 a8 a9 37a ab ac ad fffd 2015 b0 b1 b2 b3 384 385 386
b7 388 389 38a bb 38c bd 38e 38f 390 391 392 393 394 395 396 397 398 399 39a 39b 39c 39d 39e 39f
3a0 3a1 fffd 3a3 3a4 3a5 3a6 3a7 3a8 3a9 3aa 3ab 3ac 3ad 3ae 3af 3b0 3b1 3b2 3b3 3b4 3b5 3b6 3b7
3b8 3b9 3ba 3bb 3bc 3bd 3be 3bf 3c0 3c1 3c2 3c3 3c4 3c5 3c6 3c7 3c8 3c9 3ca 3cb 3cc 3cd 3ce fffd
;
iso8859_8 a0 fffd a2 a3 a4 a5 a6 a7 a8 a9 d7 ab ac ad ae af b0 b1 b2 b3 b4 b5 b6 b7 b8 b9 f7 bb
bc bd be fffd fffd fffd fffd fffd fffd fffd fffd fffd fffd fffd fffd fffd fffd fffd fffd fffd
fffd fffd fffd fffd fffd fffd fffd fffd fffd fffd fffd fffd fffd fffd fffd 2017 5d0 5d1 5d2 5d3
5d4 5d5 5d6 5d7 5d8 5d9 5da 5db 5dc 5dd 5de 5df 5e0 5e1 5e2 5e3 5e4 5e5 5e6 5e7 5e8 5e9 5ea fffd
fffd 200e 200f fffd
;
iso8859_9 a0 a1 a2 a3 a4 a5 a6 a7 a8 a9 aa ab ac ad ae af b0 b1 b2 b3 b4 b5 b6 b7 b8 b9 ba bb bc
bd be bf c0 c1 c2 c3 c4 c5 c6 c7 c8 c9 ca cb cc cd ce cf 11e d1 d2 d3 d4 d5 d6 d7 d8 d9 da db dc
130 15e df e0 e1 e2 e3 e4 e5 e6 e7 e8 e9 ea eb ec ed ee ef 11f f1 f2 f3 f4 f5 f6 f7 f8 f9 fa fb
fc 131 15f ff
;
iso8859_10 a0 104 112 122 12a 128 136 a7 13b 110 160 166 17d ad 16a 14a b0 105 113 123 12b 129
137 b7 13c 111 161 167 17e 2015 16b 14b 100 c1 c2 c3 c4 c5 c6 12e 10c c9 118 cb 116 cd ce cf d0
145 14c d3 d4 d5 d6 168 d8 172 da db dc dd de df 101 e1 e2 e3 e4 e5 e6 12f 10d e9 119 eb 117 ed
ee ef f0 146 14d f3 f4 f5 f6 169 f8 173 fa fb fc fd fe 138
;
iso8859_11 a0 e01 e02 e03 e04 e05 e06 e07 e08 e09 e0a e0b e0c e0d e0e e0f e10 e11 e12 e13 e14
e15 e16 e17 e18 e19 e1a e1b e1c e1d e1e e1f e20 e21 e22 e23 e24 e25 e26 e27 e28 e29 e2a e2b e2c
e2d e2e e2f e30 e31 e32 e33 e34 e35 e36 e37 e38 e39 e3a fffd fffd fffd fffd e3f e40 e41 e42 e43
e44 e45 e46 e47 e48 e49 e4a e4b e4c e4d e4e e4f e50 e51 e52 e53 e54 e55 e56 e57 e58 e59 e5a e5b
fffd fffd fffd fffd
;
iso8859_13 a0 201d a2 a3 a4 201e a6 a7 d8 a9 156 ab ac ad ae c6 b0 b1 b2 b3 201c b5 b6 b7 f8 b9
157 bb bc bd be e6 104 12e 100 106 c4 c5 118 112 10c c9 179 116 122 136 12a 13b 160 143 145 d3
14c d5 d6 d7 172 141 15a 16a dc 17b 17d df 105 12f 101 107 e4 e5 119 113 10d e9 17a 117 123 137
12b 13c 161 144 146 f3 14d f5 f6 f7 173 142 15b 16b fc 17c 17e 2019
;
iso8859_14 a0 1e02 1e03 a3 10a 10b 1e0a a7 1e80 a9 1e82 1e0b 1ef2 ad ae 178 1e1e 1e1f 120 121
1e40 1e41 b6 1e56 1e81 1e57 1e83 1e60 1ef3 1e84 1e85 1e61 c0 c1 c2 c3 c4 c5 c6 c7 c8 c9 ca cb cc
cd ce cf 174 d1 d2 d3 d4 d5 d6 1e6a d8 d9 da db dc dd 176 df e0 e1 e2 e3 e4 e5 e6 e7 e8 e9 ea eb
ec ed ee ef 175 f1 f2 f3 f4 f5 f6 1e6b f8 f9 fa fb fc fd 177 ff
;
iso8859_15 a0 a1 a2 a3 20ac a5 160 a7 161 a9 aa ab ac ad ae af b0 b1 b2 b3 17d b5 b6 b7 17e b9
ba bb 152 153 178 bf c0 c1 c2 c3 c4 c5 c6 c7 c8 c9 ca cb cc cd ce cf d0 d1 d2 d3 d4 d5 d6 d7 d8
d9 da db dc dd de df e0 e1 e2 e3 e4 e5 e6 e7 e8 e9 ea eb ec ed ee ef f0 f1 f2 f3 f4 f5 f6 f7 f8
f9 fa fb fc fd fe ff
;
iso8859_16 a0 104 105 141 20ac 201e 160 a7 161 a9 218 ab 179 ad 17a 17b b0 b1 10c 142 17d 201d
b6 b7 17e 10d 219 bb 152 153 178 17c c0 c1 c2 102 c4 106 c6 c7 c8 c9 ca cb cc cd ce cf 110 143
d2 d3 d4 150 d6 15a 170 d9 da db dc 118 21a df e0 e1 e2 103 e4 107 e6 e7 e8 e9 ea eb ec ed ee ef
111 144 f2 f3 f4 151 f6 15b 171 f9 fa fb fc 119 21b ff
;
cp1250 20ac fffd 201a fffd 201e 2026 2020 2021 fffd 2030 160 2039 15a 164 17d 179 fffd 2018 2019
201c 201d 2022 2013 2014 fffd 2122 161 203a 15b 165 17e 17a a0 2c7 2d8 141 a4 104 a6 a7 a8 a9
15e ab ac ad ae 17b b0 b1 2db 142 b4 b5 b6 b7 b8 105 15f bb 13d 2dd 13e 17c 154 c1 c2 102 c4 139
106 c7 10c c9 118 cb 11a cd ce 10e 110 143 147 d3 d4 150 d6 d7 158 16e da 170 dc dd 162 df 155
e1 e2 103 e4 13a 107 e7 10d e9 119 eb 11b ed ee 10f 111 144 148 f3 f4 151 f6 f7 159 16f fa 171
fc fd 163 2d9
;
cp1251 402 403 201a 453 201e 2026 2020 2021 20ac 2030 409 2039 40a 40c 40b 40f 452 2018 2019
201c 201d 2022 2013 2014 fffd 2122 459 203a 45a 45c 45b 45f a0 40e 45e 408 a4 490 a6 a7 401 a9
404 ab ac ad ae 407 b0 b1 406 456 491 b5 b6 b7 451 2116 454 bb 458 405 455 457 410 411 412 413
414 415 416 417 418 419 41a 41b 41c 41d 41e 41f 420 421 422 423 424 425 426 427 428 429 42a 42b
42c 42d 42e 42f 430 431 432 433 434 435 436 437 438 439 43a 43b 43c 43d 43e 43f 440 441 442 443
444 445 446 447 448 449 44a 44b 44c 44d 44e 44f
;
cp1252 20ac fffd 201a 192 201e 2026 2020 2021 2c6 2030 160 2039 152 fffd 17d fffd fffd 2018 2019
201c 201d 2022 2013 2014 2dc 2122 161 203a 153 fffd 17e 178 a0 a1 a2 a3 a4 a5 a6 a7 a8 a9 aa ab
ac ad ae af b0 b1 b2 b3 b4 b5 b6 b7 b8 b9 ba bb bc bd be bf c0 c1 c2 c3 c4 c5 c6 c7 c8 c9 ca cb
cc cd ce cf d0 d1 d2 d3 d4 d5 d6 d7 d8 d9 da db dc dd de df e0 e1 e2 e3 e4 e5 e6 e7 e8 e9 ea eb
ec ed ee ef f0 f1 f2 f3 f4 f5 f6 f7 f8 f9 fa fb fc fd fe ff
;
cp1253 20ac fffd 201a 192 201e 2026 2020 2021 fffd 2030 fffd 2039 fffd fffd fffd fffd fffd 2018
2019 201c 201d 2022 2013 2014 fffd 2122 fffd 203a fffd fffd fffd fffd a0 385 386 a3 a4 a5 a6 a7
a8 a9 fffd ab ac ad ae 2015 b0 b1 b2 b3 384 b5 b6 b7 388 389 38a bb 38c bd 38e 38f 390 391 392
393 394 395 396 397 398 399 39a 39b 39c 39d 39e 39f 3a0 3a1 fffd 3a3 3a4 3a5 3a6 3a7 3a8 3a9 3aa
3ab 3ac 3ad 3ae 3af 3b0 3b1 3b2 3b3 3b4 3b5 3b6 3b7 3b8 3b9 3ba 3bb 3bc 3bd 3be 3bf 3c0 3c1 3c2
3c3 3c4 3c5 3c6 3c7 3c8 3c9 3ca 3cb 3cc 3cd 3ce fffd
;
cp1254 20ac fffd 201a 192 201e 2026 2020 2021 2c6 2030 160 2039 152 fffd fffd fffd fffd 2018
2019 201c 201d 2022 2013 2014 2dc 2122 161 203a 153 fffd fffd 178 a0 a1 a2 a3 a4 a5 a6 a7 a8 a9
aa ab ac ad ae af b0 b1 b2 b3 b4 b5 b6 b7 b8 b9 ba bb bc bd be bf c0 c1 c2 c3 c4 c5 c6 c7 c8 c9
ca cb cc cd ce cf 11e d1 d2 d3 d4 d5 d6 d7 d8 d9 da db dc 130 15e df e0 e1 e2 e3 e4 e5 e6 e7 e8
e9 ea eb ec ed ee ef 11f f1 f2 f3 f4 f5 f6 f7 f8 f9 fa fb fc 131 15f ff
;
cp1255 20ac fffd 201a 192 201e 2026 2020 2021 2c6 2030 fffd 2039 fffd fffd fffd fffd fffd 2018
2019 201c 201d 2022 2013 2014 2dc 2122 fffd 203a fffd fffd fffd fffd a0 a1 a2 a3 20aa a5 a6 a7
a8 a9 d7 ab ac ad ae af b0 b1 b2 b3 b4 b5 b6 b7 b8 b9 f7 bb bc bd be bf 5b0 5b1 5b2 5b3 5b4 5b5
5b6 5b7 5b8 5b9 fffd 5bb 5bc 5bd 5be 5bf 5c0 5c1 5c2 5c3 5f0 5f1 5f2 5f3 5f4 fffd fffd fffd fffd
fffd fffd fffd 5d0 5d1 5d2 5d3 5d4 5d5 5d6 5d7 5d8 5d9 5da 5db 5dc 5dd 5de 5df 5e0 5e1 5e2 5e3
5e4 5e5 5e6 5e7 5e8 5e9 5ea fffd fffd 200e 200f fffd
;
cp1256 20ac 67e 201a 192 201e 2026 2020 2021 2c6 2030 679 2039 152 686 698 688 6af 2018 2019
201c 201d 2022 2013 2014 6a9 2122 691 203a 153 200c 200d 6ba a0 60c a2 a3 a4 a5 a6 a7 a8 a9 6be
ab ac ad ae af b0 b1 b2 b3 b4 b5 b6 b7 b8 b9 61b bb bc bd be 61f 6c1 621 622 623 624 625 626 627
628 629 62a 62b 62c 62d 62e 62f 630 631 632 633 634 635 636 d7 637 638 639 63a 640 641 642 643
e0 644 e2 645 646 647 648 e7 e8 e9 ea eb 649 64a ee ef 64b 64c 64d 64e f4 64f 650 f7 651 f9 652
fb fc 200e 200f 6d2
;
cp1257 20ac fffd 201a fffd 201e 2026 2020 2021 fffd 2030 fffd 2039 fffd a8 2c7 b8 fffd 2018 2019
201c 201d 2022 2013 2014 fffd 2122 fffd 203a fffd af 2db fffd a0 fffd a2 a3 a4 fffd a6 a7 d8 a9
156 ab ac ad ae c6 b0 b1 b2 b3 b4 b5 b6 b7 f8 b9 157 bb bc bd be e6 104 12e 100 106 c4 c5 118
112 10c c9 179 116 122 136 12a 13b 160 143 145 d3 14c d5 d6 d7 172 141 15a 16a dc 17b 17d df 105
12f 101 107 e4 e5 119 113 10d e9 17a 117 123 137 12b 13c 161 144 146 f3 14d f5 f6 f7 173 142 15b
16b fc 17c 17e 2d9
;
cp1258 20ac fffd 201a 192 201e 2026 2020 2021 2c6 2030 fffd 2039 152 fffd fffd fffd fffd 2018
2019 201c 201d 2022 2013 2014 2dc 2122 fffd 203a 153 fffd fffd 178 a0 a1 a2 a3 a4 a5 a6 a7 a8 a9
aa ab ac ad ae af b0 b1 b2 b3 b4 b5 b6 b7 b8 b9 ba bb bc bd be bf c0 c1 c2 102 c4 c5 c6 c7 c8 c9
ca cb 300 cd ce cf 110 d1 309 d3 d4 1a0 d6 d7 d8 d9 da db dc 1af 303 df e0 e1 e2 103 e4 e5 e6 e7
e8 e9 ea eb 301 ed ee ef 111 f1 323 f3 f4 1a1 f6 f7 f8 f9 fa fb fc 1b0 20ab ff
;
koi8_r 2500 2502 250c 2510 2514 2518 251c 2524 252c 2534 253c 2580 2584 2588 258c 2590 2591 2592
2593 2320 25a0 2219 221a 2248 2264 2265 a0 2321 b0 b2 b7 f7 2550 2551 2552 451 2553 2554 2555
2556 2557 2558 2559 255a 255b 255c 255d 255e 255f 2560 2561 401 2562 2563 2564 2565 2566 2567
2568 2569 256a 256b 256c a9 44e 430 431 446 434 435 444 433 445 438 439 43a 43b 43c 43d 43e 43f
44f 440 441 442 443 436 432 44c 44b 437 448 44d 449 447 44a 42e 410 411 426 414 415 424 413 425
418 419 41a 41b 41c 41d 41e 41f 42f 420 421 422 423 416 412 42c 42b 417 428 42d 429 427 42a
;
koi8_u 2500 2502 250c 2510 2514 2518 251c 2524 252c 2534 253c 2580 2584 2588 258c 2590 2591 2592
2593 2320 25a0 2219 221a 2248 2264 2265 a0 2321 b0 b2 b7 f7 2550 2551 2552 451 454 2554 456 457
2557 2558 2559 255a 255b 491 255d 255e 255f 2560 2561 401 404 2563 406 407 2566 2567 2568 2569
256a 490 256c a9 44e 430 431 446 434 435 444 433 445 438 439 43a 43b 43c 43d 43e 43f 44f 440 441
442 443 436 432 44c 44b 437 448 44d 449 447 44a 42e 410 411 426 414 415 424 413 425 418 419 41a
41b 41c 41d 41e 41f 42f 420 421 422 423 416 412 42c 42b 417 428 42d 429 427 42a
;
cp437 c7 fc e9 e2 e4 e0 e5 e7 ea eb e8 ef ee ec c4 c5 c9 e6 c6 f4 f6 f2 fb f9 ff d6 dc a2 a3 a5
20a7 192 e1 ed f3 fa f1 d1 aa ba bf 2310 ac bd bc a1 ab bb 2591 2592 2593 2502 2524 2561 2562
2556 2555 2563 2551 2557 255d 255c 255b 2510 2514 2534 252c 251c 2500 253c 255e 255f 255a 2554
2569 2566 2560 2550 256c 2567 2568 2564 2565 2559 2558 2552 2553 256b 256a 2518 250c 2588 2584
258c 2590 2580 3b1 df 393 3c0 3a3 3c3 b5 3c4 3a6 398 3a9 3b4 221e 3c6 3b5 2229 2261 b1 2265 2264
2320 2321 f7 2248 b0 2219 b7 221a 207f b2 25a0 a0
;
cp850 c7 fc e9 e2 e4 e0 e5 e7 ea eb e8 ef ee ec c4 c5 c9 e6 c6 f4 f6 f2 fb f9 ff d6 dc f8 a3 d8
d7 192 e1 ed f3 fa f1 d1 aa ba bf ae ac bd bc a1 ab bb 2591 2592 2593 2502 2524 c1 c2 c0 a9 2563
2551 2557 255d a2 a5 2510 2514 2534 252c 251c 2500 253c e3 c3 255a 2554 2569 2566 2560 2550 256c
a4 f0 d0 ca cb c8 131 cd ce cf 2518 250c 2588 2584 a6 cc 2580 d3 df d4 d2 f5 d5 b5 fe de da db
d9 fd dd af b4 ad b1 2017 be b6 a7 f7 b8 b0 a8 b7 b9 b3 b2 25a0 a0
;
cp852 c7 fc e9 e2 e4 16f 107 e7 142 eb 150 151 ee 179 c4 106 c9 139 13a f4 f6 13d 13e 15a 15b d6
dc 164 165 141 d7 10d e1 ed f3 fa 104 105 17d 17e 118 119 ac 17a 10c 15f ab bb 2591 2592 2593
2502 2524 c1 c2 11a 15e 2563 2551 2557 255d 17b 17c 2510 2514 2534 252c 251c 2500 253c 102 103
255a 2554 2569 2566 2560 2550 256c a4 111 110 10e cb 10f 147 cd ce 11b 2518 250c 2588 2584 162
16e 2580 d3 df d4 143 144 148 160 161 154 da 155 170 fd dd 163 b4 ad 2dd 2db 2c7 2d8 a7 f7 b8 b0
a8 2d9 171 158 159 25a0 a0
;
cp866 410 411 412 413 414 415 416 417 418 419 41a 41b 41c 41d 41e 41f 420 421 422 423 424 425
426 427 428 429 42a 42b 42c 42d 42e 42f 430 431 432 433 434 435 436 437 438 439 43a 43b 43c 43d
43e 43f 2591 2592 2593 2502 2524 2561 2562 2556 2555 2563 2551 2557 255d 255c 255b 2510 2514
2534 252c 251c 2500 253c 255e 255f 255a 2554 2569 2566 2560 2550 256c 2567 2568 2564 2565 2559
2558 2552 2553 256b 256a 2518 250c 2588 2584 258c 2590 2580 440 441 442 443 444 445 446 447 448
449 44a 44b 44c 44d 44e 44f 401 451 404 454 407 457 40e 45e b0 2219 b7 221a 2116 a4 25a0 a0
;
cp874 20ac fffd fffd fffd fffd 2026 fffd fffd fffd fffd fffd fffd fffd fffd fffd fffd fffd 2018
2019 201c 201d 2022 2013 2014 fffd fffd fffd fffd fffd fffd fffd fffd a0 e01 e02 e03 e04 e05 e06
e07 e08 e09 e0a e0b e0c e0d e0e e0f e10 e11 e12 e13 e14 e15 e16 e17 e18 e19 e1a e1b e1c e1d e1e
e1f e20 e21 e22 e23 e24 e25 e26 e27 e28 e29 e2a e2b e2c e2d e2e e2f e30 e31 e32 e33 e34 e35 e36
e37 e38 e39 e3a fffd fffd fffd fffd e3f e40 e41 e42 e43 e44 e45 e46 e47 e48 e49 e4a e4b e4c e4d
e4e e4f e50 e51 e52 e53 e54 e55 e56 e57 e58 e59 e5a e5b fffd fffd fffd fffd"

/-- Where the double bytes of GB 18030 differ from those of GBK: the number of a double byte,
the code of its character, and the length of the run. -/
def gb18030Runs : String := "17c0 e4c6 60 187e e526 60 18e8 e766 6 1920 20ac 1 1921 e76d 1 192c e76e 2 193a e770 2 193c e586
60 19fa e5e6 60 1aad e772 b 1ab8 e646 60 1b6e e77d 8 1b76 e6a6 60 1bee e785 8 1c0e e78d 7 1c21
e794 2 1c28 e796 1 1c2b e797 9 1c34 e706 60 1cb5 e7a0 f 1ce5 e7af d 1d47 e7bc b 1d6d e7c7 1 1d70
1f9 1 1d72 e7c9 4 1d9b e7cd 15 1dc8 e7e2 1 1dcb e7e3 1 1dcd e7e4 3 1df8 303e 1 1df9 2ff0 c 1e06
e7f4 d 1e5f e801 f 1ece e000 5e 1f8c e05e 5e 204a e0bc 5e 2108 e11a 5e 21c6 e178 5e 2284 e1d6 5e
408d e810 5 58b2 e234 5e 5970 e292 5e 5a2e e2f0 5e 5aec e34e 5e 5baa e3ac 5e 5c68 e40a 5e 5cd6
2e81 1 5cd7 e816 3 5cda 2e84 1 5cdb 3473 1 5cdc 3447 1 5cdd 2e88 1 5cde 2e8b 1 5cdf e81e 1 5ce0
359e 1 5ce1 361a 1 5ce2 360e 1 5ce3 2e8c 1 5ce4 2e97 1 5ce5 396e 1 5ce6 3918 1 5ce7 e826 1 5ce8
39cf 1 5ce9 39df 1 5cea 3a73 1 5ceb 39d0 1 5cec e82b 2 5cee 3b4e 1 5cef 3c6e 1 5cf0 3ce0 1 5cf1
2ea7 1 5cf2 e831 2 5cf4 2eaa 1 5cf5 4056 1 5cf6 415f 1 5cf7 2eae 1 5cf8 4337 1 5cf9 2eb3 1 5cfa
2eb6 2 5cfc e83b 1 5cfd 43b1 1 5cfe 43ac 1 5cff 2ebb 1 5d00 43dd 1 5d01 44d6 1 5d02 4661 1 5d03
464c 1 5d04 e843 1 5d05 4723 1 5d06 4729 1 5d07 477c 1 5d08 478d 1 5d09 2eca 1 5d0a 4947 1 5d0b
497a 1 5d0c 497d 1 5d0d 4982 2 5d0f 4985 2 5d11 499f 1 5d12 499b 1 5d13 49b7 1 5d14 49b6 1 5d15
e854 2 5d17 4ca3 1 5d18 4c9f 3 5d1b 4c77 1 5d1c 4ca2 1 5d1d 4d13 7 5d24 4dae 1 5d25 e864 1 5d26
e468 5e"

/-- The four-byte area below code 65536: the number of a group of bytes, the code of its
character, and the length of the run. -/
def gb18030Ranges : String := "0 80 24 24 a5 2 26 a9 7 2d b2 5 32 b8 1f 51 d8 8 59 e2 6 5f eb 1 60 ee 4 64 f4 3 67 f8 1 68 fb 1
69 fd 4 6d 102 11 7e 114 7 85 11c f 94 12c 18 ac 145 3 af 149 4 b3 14e 1d d0 16c 62 132 1cf 1
133 1d1 1 134 1d3 1 135 1d5 1 136 1d7 1 137 1d9 1 138 1db 1 139 1dd 1c 155 1fa 57 1ac 252 f 1bb
262 65 220 2c8 1 221 2cc d 22e 2da b7 2e5 3a2 1 2e6 3aa 7 2ed 3c2 1 2ee 3ca 37 325 402 e 333 450
1 334 452 1bbe 1ef2 2011 2 1ef4 2017 1 1ef5 201a 2 1ef7 201e 7 1efe 2027 9 1f07 2031 1 1f08 2034
1 1f09 2036 5 1f0e 203c 70 1f7e 20ad 56 1fd4 2104 1 1fd5 2106 3 1fd8 210a c 1fe4 2117 a 1fee
2122 3e 202c 216c 4 2030 217a 16 2046 2194 2 2048 219a 6e 20b6 2209 6 20bc 2210 1 20bd 2212 3
20c0 2216 4 20c4 221b 2 20c6 2221 2 20c8 2224 1 20c9 2226 1 20ca 222c 2 20cc 222f 5 20d1 2238 5
20d6 223e a 20e0 2249 3 20e3 224d 5 20e8 2253 d 20f5 2262 2 20f7 2268 6 20fd 2270 25 2122 2296 3
2125 229a b 2130 22a6 19 2149 22c0 52 219b 2313 14d 22e8 246a a 22f2 249c 64 2356 254c 4 235a
2574 d 2367 2590 3 236a 2596 a 2374 25a2 10 2384 25b4 8 238c 25be 8 2394 25c8 3 2397 25cc 2 2399
25d0 12 23ab 25e6 1f 23ca 2607 2 23cc 260a 36 2402 2641 1 2403 2643 83e 2c41 2e82 2 2c43 2e85 3
2c46 2e89 2 2c48 2e8d a 2c52 2e98 f 2c61 2ea8 2 2c63 2eab 3 2c66 2eaf 4 2c6a 2eb4 2 2c6c 2eb8 3
2c6f 2ebc e 2c7d 2ecb 125 2da2 2ffc 4 2da6 3004 1 2da7 3018 5 2dac 301f 2 2dae 302a 14 2dc2 303f
2 2dc4 3094 7 2dcb 309f 2 2dcd 30f7 5 2dd2 30ff 6 2dd8 312a f6 2ece 322a 7 2ed5 3232 71 2f46
32a4 ea 3030 3390 c 303c 339f 2 303e 33a2 22 3060 33c5 9 3069 33cf 2 306b 33d3 2 306d 33d6 71
30de 3448 2b 3109 3474 12a 3233 359f 6f 32a2 360f b 32ad 361b 2fd 35aa 3919 55 35ff 396f 60 365f
39d1 e 366d 39e0 93 3700 3a74 da 37da 3b4f 11f 38f9 3c6f 71 396a 3ce1 375 3cdf 4057 108 3de7
4160 1d7 3fbe 4338 74 4032 43ad 4 4036 43b2 2b 4061 43de f8 4159 44d7 175 42ce 464d 14 42e2 4662
c1 43a3 4724 5 43a8 472a 52 43fa 477d 10 440a 478e 1b9 45c3 4948 32 45f5 497b 2 45f7 497e 4 45fb
4984 1 45fc 4987 14 4610 499c 3 4613 49a0 16 4629 49b8 2bf 48e8 4c78 27 490f 4ca4 6f 497e 4d1a
94 4a12 4daf 51 4a63 9fa6 385a 82bd e76c 1 82be e7c8 1 82bf e7e7 d 82cc e815 1 82cd e819 5 82d2
e81f 7 82d9 e827 4 82dd e82d 4 82e1 e833 8 82e9 e83c 7 82f0 e844 10 8300 e856 e 830e e865 10c7
93d5 f92d 4c 9421 f97a 1b 943c f996 51 948d f9e8 9 9496 f9f2 1a 94b0 fa10 1 94b1 fa12 1 94b2
fa15 3 94b5 fa19 6 94bb fa22 1 94bc fa25 2 94be fa2a 406 98c4 fe32 1 98c5 fe45 4 98c9 fe53 1
98ca fe58 1 98cb fe67 1 98cc fe6c 95 9961 ff5f 81 99e2 ffe6 1a"

end Charset

end RuleProbe
