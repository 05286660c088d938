import FileDepot.Text.Numerals

/-!
# Tables for preparing names

The ranges of a table are given by their bounds. A run of letters is four numbers: the first one, the
last one, the distance between its members, and the image of the first; the other members move by as
much.
-/

namespace FileDepot.Encoding.Nameprep

/-- The runs of characters beyond ASCII that are replaced by one other character. -/
def foldRuns : Thunk (List Nat) := .mk fun _ => Text.readNumbers "
b5 b5 1 3bc c0 d6 1 e0 d8 de 1 f8 100 12e 2 101 132 136 2 133 139 147 2 13a 14a 176 2 14b 178 178
1 ff 179 17d 2 17a 17f 17f 1 73 181 181 1 253 182 184 2 183 186 186 1 254 187 187 1 188 189 18a 1
256 18b 18b 1 18c 18e 18e 1 1dd 18f 18f 1 259 190 190 1 25b 191 191 1 192 193 193 1 260 194 194 1
263 196 196 1 269 197 197 1 268 198 198 1 199 19c 19c 1 26f 19d 19d 1 272 19f 19f 1 275 1a0 1a4 2
1a1 1a6 1a6 1 280 1a7 1a7 1 1a8 1a9 1a9 1 283 1ac 1ac 1 1ad 1ae 1ae 1 288 1af 1af 1 1b0 1b1 1b2 1
28a 1b3 1b5 2 1b4 1b7 1b7 1 292 1b8 1b8 1 1b9 1bc 1bc 1 1bd 1c4 1c4 1 1c6 1c5 1c5 1 1c6 1c7 1c7 1
1c9 1c8 1c8 1 1c9 1ca 1ca 1 1cc 1cb 1db 2 1cc 1de 1ee 2 1df 1f1 1f1 1 1f3 1f2 1f4 2 1f3 1f6 1f6 1
195 1f7 1f7 1 1bf 1f8 21e 2 1f9 220 220 1 19e 222 232 2 223 23a 23a 1 2c65 23b 23b 1 23c 23d 23d
1 19a 23e 23e 1 2c66 241 241 1 242 243 243 1 180 244 244 1 289 245 245 1 28c 246 24e 2 247 345
345 1 3b9 370 372 2 371 376 376 1 377 37f 37f 1 3f3 386 386 1 3ac 388 38a 1 3ad 38c 38c 1 3cc 38e
38f 1 3cd 391 3a1 1 3b1 3a3 3ab 1 3c3 3c2 3c2 1 3c3 3cf 3cf 1 3d7 3d0 3d0 1 3b2 3d1 3d1 1 3b8 3d2
3d2 1 3c5 3d3 3d3 1 3cd 3d4 3d4 1 3cb 3d5 3d5 1 3c6 3d6 3d6 1 3c0 3d8 3ee 2 3d9 3f0 3f0 1 3ba 3f1
3f1 1 3c1 3f2 3f2 1 3c3 3f4 3f4 1 3b8 3f5 3f5 1 3b5 3f7 3f7 1 3f8 3f9 3f9 1 3c3 3fa 3fa 1 3fb 3fd
3ff 1 37b 400 40f 1 450 410 42f 1 430 460 480 2 461 48a 4be 2 48b 4c0 4c0 1 4cf 4c1 4cd 2 4c2 4d0
52e 2 4d1 531 556 1 561 10a0 10c5 1 2d00 10c7 10c7 1 2d27 10cd 10cd 1 2d2d 13a0 13ef 1 ab70 13f0
13f5 1 13f8 1c90 1cba 1 10d0 1cbd 1cbf 1 10fd 1e00 1e94 2 1e01 1e9b 1e9b 1 1e61 1ea0 1efe 2 1ea1
1f08 1f0f 1 1f00 1f18 1f1d 1 1f10 1f28 1f2f 1 1f20 1f38 1f3f 1 1f30 1f48 1f4d 1 1f40 1f59 1f5f 2
1f51 1f68 1f6f 1 1f60 1fb8 1fb9 1 1fb0 1fba 1fbb 1 1f70 1fbe 1fbe 1 3b9 1fc8 1fcb 1 1f72 1fd8
1fd9 1 1fd0 1fda 1fdb 1 1f76 1fe8 1fe9 1 1fe0 1fea 1feb 1 1f7a 1fec 1fec 1 1fe5 1ff8 1ff9 1 1f78
1ffa 1ffb 1 1f7c 2102 2102 1 63 2107 2107 1 25b 210b 210b 1 68 210c 210c 1 68 210d 210d 1 68 2110
2110 1 69 2111 2111 1 69 2112 2112 1 6c 2115 2115 1 6e 2119 211b 1 70 211c 211c 1 72 211d 211d 1
72 2124 2124 1 7a 2126 2126 1 3c9 2128 2128 1 7a 212a 212a 1 6b 212b 212b 1 e5 212c 212d 1 62
2130 2131 1 65 2132 2132 1 214e 2133 2133 1 6d 213e 213e 1 3b3 213f 213f 1 3c0 2145 2145 1 64
2160 216f 1 2170 2183 2183 1 2184 24b6 24cf 1 24d0 2c00 2c2f 1 2c30 2c60 2c60 1 2c61 2c62 2c62 1
26b 2c63 2c63 1 1d7d 2c64 2c64 1 27d 2c67 2c6b 2 2c68 2c6d 2c6d 1 251 2c6e 2c6e 1 271 2c6f 2c6f 1
250 2c70 2c70 1 252 2c72 2c72 1 2c73 2c75 2c75 1 2c76 2c7e 2c7f 1 23f 2c80 2ce2 2 2c81 2ceb 2ced
2 2cec 2cf2 2cf2 1 2cf3 a640 a66c 2 a641 a680 a69a 2 a681 a722 a72e 2 a723 a732 a76e 2 a733 a779
a77b 2 a77a a77d a77d 1 1d79 a77e a786 2 a77f a78b a78b 1 a78c a78d a78d 1 265 a790 a792 2 a791
a796 a7a8 2 a797 a7aa a7aa 1 266 a7ab a7ab 1 25c a7ac a7ac 1 261 a7ad a7ad 1 26c a7ae a7ae 1 26a
a7b0 a7b0 1 29e a7b1 a7b1 1 287 a7b2 a7b2 1 29d a7b3 a7b3 1 ab53 a7b4 a7c2 2 a7b5 a7c4 a7c4 1
a794 a7c5 a7c5 1 282 a7c6 a7c6 1 1d8e a7c7 a7c9 2 a7c8 a7d0 a7d0 1 a7d1 a7d6 a7d8 2 a7d7 a7f5
a7f5 1 a7f6 ff21 ff3a 1 ff41 10400 10427 1 10428 104b0 104d3 1 104d8 10570 1057a 1 10597 1057c
1058a 1 105a3 1058c 10592 1 105b3 10594 10595 1 105bb 10c80 10cb2 1 10cc0 118a0 118bf 1 118c0
16e40 16e5f 1 16e60 1d400 1d419 1 61 1d434 1d44d 1 61 1d468 1d481 1 61 1d49c 1d49e 2 61 1d49f
1d49f 1 64 1d4a2 1d4a2 1 67 1d4a5 1d4a6 1 6a 1d4a9 1d4ac 1 6e 1d4ae 1d4b5 1 73 1d4d0 1d4e9 1 61
1d504 1d505 1 61 1d507 1d50a 1 64 1d50d 1d514 1 6a 1d516 1d51c 1 73 1d538 1d539 1 61 1d53b 1d53e
1 64 1d540 1d544 1 69 1d546 1d546 1 6f 1d54a 1d550 1 73 1d56c 1d585 1 61 1d5a0 1d5b9 1 61 1d5d4
1d5ed 1 61 1d608 1d621 1 61 1d63c 1d655 1 61 1d670 1d689 1 61 1d6a8 1d6b8 1 3b1 1d6b9 1d6b9 1 3b8
1d6ba 1d6c0 1 3c3 1d6d3 1d6d3 1 3c3 1d6e2 1d6f2 1 3b1 1d6f3 1d6f3 1 3b8 1d6f4 1d6fa 1 3c3 1d70d
1d70d 1 3c3 1d71c 1d72c 1 3b1 1d72d 1d72d 1 3b8 1d72e 1d734 1 3c3 1d747 1d747 1 3c3 1d756 1d766 1
3b1 1d767 1d767 1 3b8 1d768 1d76e 1 3c3 1d781 1d781 1 3c3 1d790 1d7a0 1 3b1 1d7a1 1d7a1 1 3b8
1d7a2 1d7a8 1 3c3 1d7bb 1d7bb 1 3c3 1e900 1e921 1 1e922"

/-- The characters that are replaced by several others, each with those. -/
def foldRecords : String :=
"df 73 73,130 69 307,149 2bc 6e,1f0 6a 30c,37a 20 3b9,390 3b9 308 301,3b0 3c5 308 301,587 565 582,
1e96 68 331,1e97 74 308,1e98 77 30a,1e99 79 30a,1e9a 61 2be,1e9e 73 73,1f50 3c5 313,
1f52 3c5 313 300,1f54 3c5 313 301,1f56 3c5 313 342,1f80 1f00 3b9,1f81 1f01 3b9,1f82 1f02 3b9,
1f83 1f03 3b9,1f84 1f04 3b9,1f85 1f05 3b9,1f86 1f06 3b9,1f87 1f07 3b9,1f88 1f00 3b9,1f89 1f01 3b9,
1f8a 1f02 3b9,1f8b 1f03 3b9,1f8c 1f04 3b9,1f8d 1f05 3b9,1f8e 1f06 3b9,1f8f 1f07 3b9,1f90 1f20 3b9,
1f91 1f21 3b9,1f92 1f22 3b9,1f93 1f23 3b9,1f94 1f24 3b9,1f95 1f25 3b9,1f96 1f26 3b9,1f97 1f27 3b9,
1f98 1f20 3b9,1f99 1f21 3b9,1f9a 1f22 3b9,1f9b 1f23 3b9,1f9c 1f24 3b9,1f9d 1f25 3b9,1f9e 1f26 3b9,
1f9f 1f27 3b9,1fa0 1f60 3b9,1fa1 1f61 3b9,1fa2 1f62 3b9,1fa3 1f63 3b9,1fa4 1f64 3b9,1fa5 1f65 3b9,
1fa6 1f66 3b9,1fa7 1f67 3b9,1fa8 1f60 3b9,1fa9 1f61 3b9,1faa 1f62 3b9,1fab 1f63 3b9,1fac 1f64 3b9,
1fad 1f65 3b9,1fae 1f66 3b9,1faf 1f67 3b9,1fb2 1f70 3b9,1fb3 3b1 3b9,1fb4 3ac 3b9,1fb6 3b1 342,
1fb7 3b1 342 3b9,1fbc 3b1 3b9,1fc2 1f74 3b9,1fc3 3b7 3b9,1fc4 3ae 3b9,1fc6 3b7 342,
1fc7 3b7 342 3b9,1fcc 3b7 3b9,1fd2 3b9 308 300,1fd3 3b9 308 301,1fd6 3b9 342,1fd7 3b9 308 342,
1fe2 3c5 308 300,1fe3 3c5 308 301,1fe4 3c1 313,1fe6 3c5 342,1fe7 3c5 308 342,1ff2 1f7c 3b9,
1ff3 3c9 3b9,1ff4 3ce 3b9,1ff6 3c9 342,1ff7 3c9 342 3b9,1ffc 3c9 3b9,20a8 72 73,2103 b0 63,
2109 b0 66,2116 6e 6f,2120 73 6d,2121 74 65 6c,2122 74 6d,3371 68 70 61,3373 61 75,3375 6f 76,
3380 70 61,3381 6e 61,3382 3bc 61,3383 6d 61,3384 6b 61,3385 6b 62,3386 6d 62,3387 67 62,
338a 70 66,338b 6e 66,338c 3bc 66,3390 68 7a,3391 6b 68 7a,3392 6d 68 7a,3393 67 68 7a,
3394 74 68 7a,33a9 70 61,33aa 6b 70 61,33ab 6d 70 61,33ac 67 70 61,33b4 70 76,33b5 6e 76,
33b6 3bc 76,33b7 6d 76,33b8 6b 76,33b9 6d 76,33ba 70 77,33bb 6e 77,33bc 3bc 77,33bd 6d 77,
33be 6b 77,33bf 6d 77,33c0 6b 3c9,33c1 6d 3c9,33c3 62 71,33c6 63 2215 6b 67,33c7 63 6f 2e,
33c8 64 62,33c9 67 79,33cb 68 70,33cd 6b 6b,33ce 6b 6d,33d7 70 68,33d9 70 70 6d,33da 70 72,
33dc 73 76,33dd 77 62,fb00 66 66,fb01 66 69,fb02 66 6c,fb03 66 66 69,fb04 66 66 6c,fb05 73 74,
fb06 73 74,fb13 574 576,fb14 574 565,fb15 574 56b,fb16 57e 576,fb17 574 56d"

/-- The bounds of the ranges of code points that no name may hold. -/
def prohibitedBounds : Thunk (List Nat) := .mk fun _ => Text.runningSums <| Text.readNumbers "
80 21 29f 2 39b 1 31 1 f70 1 18d 1 7f1 10 18 8 2f 5 6 6 f80 c 4 1 a7ff 2100 4d0 20 10f 1 f9 7
d173 8 2e83 2 fffe 2 fffe 2 fffe 2 fffe 2 fffe 2 fffe 2 fffe 2 fffe 2 fffe 2 fffe 2 fffe 2 fffe 2
1 1 1e 60 ff7e 20002"

/-- The bounds of the ranges of characters that are written from right to left. -/
def rightBounds : Thunk (List Nat) := .mk fun _ => Text.runningSums <| Text.readNumbers "
5be 1 1 1 2 1 c 1b 5 5 26 1 3 1 1 1a 5 b 22 3 1 65 7 1 7 2 13 5 1 e 2 1 1 1b 53 26 b 1 185d 1
db0d 1 1 a 1 d 1 5 1 1 1 2 1 2 1 6c 21 16b 12 40 2 36 28 d 73 5 1 87"

/-- The bounds of the ranges of characters that are written from left to right. -/
def leftBounds : Thunk (List Nat) := .mk fun _ => Text.runningSums <| Text.readNumbers "
41 1a 6 1a 2f 1 a 1 4 1 5 17 1 1f 1 129 1 12 1c 5e 2 9 2 7 e 2 e 5 9 1 8b 1 b 1 1 3 1 1 1 14 1 2c
1 26 a 83 7 45 1 26 2 2 6 10 21 26 2 7 1 27 1 1 379 1 1 35 3 4 8 4 3 1 7 a 2 d 11 2 1 8 2 2 2 16
1 7 1 1 3 4 4 3 6 2 2 2 a 1 4 2 1 3 4 c 2 7 a 6 4 2 2 16 1 7 1 2 1 2 1 2 4 3 18 4 1 1 7 a 2 3 e 1
1 7 1 1 1 3 1 16 1 7 1 2 1 5 3 4 8 1 1 2 3 1 f 1 5 a 12 2 1 8 2 2 2 16 1 7 1 2 2 4 3 2 1 1 6 2 2
2 a 1 4 2 1 3 4 b 12 1 1 6 3 3 1 4 3 2 1 1 1 2 3 2 3 3 3 8 1 3 4 2 1 2 3 3 1 3 a 1 f c e 3 1 8 1
3 1 17 1 a 1 5 7 4 1b 2 4 a 12 2 1 8 1 3 1 17 1 a 1 5 4 1 1 5 2 2 1 2 9 2 7 1 1 2 4 a 12 2 1 8 1
3 1 17 1 10 4 3 5 3 1 3 a 1 8 2 4 a 12 2 1 12 3 18 1 9 1 1 2 7 8 3 6 8 12 3 c 30 1 2 c 7 8 d 25 2
1 1 2 2 1 1 2 1 6 4 1 7 1 3 1 1 1 1 2 2 1 4 1 2 9 1 2 5 1 1 9 a 2 2 22 18 2 1b 1 1 1 1 5 a 1 22
14 1 5 1 2 4 32 8 1 6 2 1 30 22 1 5 1 2 1 1 4 1 6 1 7 18 48 26 a 29 2 1 4 5a 5 44 5 52 6 7 1 3f 1
1 1 4 2 7 1 1 1 4 2 27 1 1 1 4 2 1f 1 1 1 4 2 7 1 1 1 4 2 7 1 7 1 17 1 1f 1 1 1 4 2 7 1 27 1 13 6
1c 23 55 c 276 a 1a 5 51 f d 1 4 e 12 3 2 9 12 e d 1 3 f 37 7 8 1 2 b 7 1 1 3 a 26 a 6 58 8 29
557 9c 4 5a 6 16 2 6 2 26 2 6 2 8 1 1 1 1 1 1 1 1f 2 35 1 7 1 1 3 3 1 7 3 4 2 6 4 d 5 3 1 7 11 1
62 1 d 1 82 1 4 1 2 a 1 1 3 5 6 1 1 1 1 1 1 4 1 3 1 7 3 3 5 5 16 24 1b2 45 1a 1 106 4e b1b 3 19 9
7 5 2 5 4 56 6 3 1 5a 1 4 5 28 4 5e 1 28 38 2d 3 24 1c 1c 3 32 f c 4 2f 1 77 4 63 2 1f 1 19b6 4a
51a6 5a 48d 773 2ba4 5c 222e 2 3b 95 7 c 5 409 1a 6 1a b 59 3 6 2 6 2 6 2 3 323 1f 1 4 c 1b b5 26
2 26 cbb2 f6 a 27 3 3d 3 9 10 2 7 1e 4 30 222 55 1 47 1 2 2 1 2 2 2 4 1 c 1 1 1 4 1 2 1 41 1 4 2
8 1 7 1 1c 1 4 1 5 1 1 3 7 1 152 4 122 2836 a6d7 5129 21e c05e2 fffe 2 fffe"

end FileDepot.Encoding.Nameprep
