import FileDepot.Text.Numerals
import FileDepot.Text.Point

/-!
# Marks

A mark belongs to the character before it. Marks of different *classes* stand at different places
around it, so their order does not matter. Characters that are no such marks have class zero.
-/

namespace FileDepot.Text

/-- The classes: the first character of a run, how many there are, and their class. -/
def classRecords : String :=
"300 15 e6,315 1 e8,316 4 dc,31a 1 e8,31b 1 d8,31c 5 dc,321 2 ca,323 4 dc,327 2 ca,329 b dc,
334 5 1,339 4 dc,33d 8 e6,345 1 f0,346 1 e6,347 3 dc,34a 3 e6,34d 2 dc,350 3 e6,353 4 dc,357 1 e6,
358 1 e8,359 2 dc,35b 1 e6,35c 1 e9,35d 2 ea,35f 1 e9,360 2 ea,362 1 e9,363 d e6,483 5 e6,
591 1 dc,592 4 e6,596 1 dc,597 3 e6,59a 1 de,59b 1 dc,59c 6 e6,5a2 6 dc,5a8 2 e6,5aa 1 dc,
5ab 2 e6,5ad 1 de,5ae 1 e4,5af 1 e6,5b0 1 a,5b1 1 b,5b2 1 c,5b3 1 d,5b4 1 e,5b5 1 f,5b6 1 10,
5b7 1 11,5b8 1 12,5b9 2 13,5bb 1 14,5bc 1 15,5bd 1 16,5bf 1 17,5c1 1 18,5c2 1 19,5c4 1 e6,
5c5 1 dc,5c7 1 12,610 8 e6,618 1 1e,619 1 1f,61a 1 20,64b 1 1b,64c 1 1c,64d 1 1d,64e 1 1e,
64f 1 1f,650 1 20,651 1 21,652 1 22,653 2 e6,655 2 dc,657 5 e6,65c 1 dc,65d 2 e6,65f 1 dc,
670 1 23,6d6 7 e6,6df 4 e6,6e3 1 dc,6e4 1 e6,6e7 2 e6,6ea 1 dc,6eb 2 e6,6ed 1 dc,711 1 24,
730 1 e6,731 1 dc,732 2 e6,734 1 dc,735 2 e6,737 3 dc,73a 1 e6,73b 2 dc,73d 1 e6,73e 1 dc,
73f 3 e6,742 1 dc,743 1 e6,744 1 dc,745 1 e6,746 1 dc,747 1 e6,748 1 dc,749 2 e6,7eb 7 e6,
7f2 1 dc,7f3 1 e6,7fd 1 dc,816 4 e6,81b 9 e6,825 3 e6,829 5 e6,859 3 dc,898 1 e6,899 3 dc,
89c 4 e6,8ca 5 e6,8cf 5 dc,8d4 e e6,8e3 1 dc,8e4 2 e6,8e6 1 dc,8e7 2 e6,8e9 1 dc,8ea 3 e6,
8ed 3 dc,8f0 1 1b,8f1 1 1c,8f2 1 1d,8f3 3 e6,8f6 1 dc,8f7 2 e6,8f9 2 dc,8fb 5 e6,93c 1 7,94d 1 9,
951 1 e6,952 1 dc,953 2 e6,9bc 1 7,9cd 1 9,9fe 1 e6,a3c 1 7,a4d 1 9,abc 1 7,acd 1 9,b3c 1 7,
b4d 1 9,bcd 1 9,c3c 1 7,c4d 1 9,c55 1 54,c56 1 5b,cbc 1 7,ccd 1 9,d3b 2 9,d4d 1 9,dca 1 9,
e38 2 67,e3a 1 9,e48 4 6b,eb8 2 76,eba 1 9,ec8 4 7a,f18 2 dc,f35 1 dc,f37 1 dc,f39 1 d8,f71 1 81,
f72 1 82,f74 1 84,f7a 4 82,f80 1 82,f82 2 e6,f84 1 9,f86 2 e6,fc6 1 dc,1037 1 7,1039 2 9,
108d 1 dc,135d 3 e6,1714 2 9,1734 1 9,17d2 1 9,17dd 1 e6,18a9 1 e4,1939 1 de,193a 1 e6,193b 1 dc,
1a17 1 e6,1a18 1 dc,1a60 1 9,1a75 8 e6,1a7f 1 dc,1ab0 5 e6,1ab5 6 dc,1abb 2 e6,1abd 1 dc,
1abf 2 dc,1ac1 2 e6,1ac3 2 dc,1ac5 5 e6,1aca 1 dc,1acb 4 e6,1b34 1 7,1b44 1 9,1b6b 1 e6,1b6c 1 dc,
1b6d 7 e6,1baa 2 9,1be6 1 7,1bf2 2 9,1c37 1 7,1cd0 3 e6,1cd4 1 1,1cd5 5 dc,1cda 2 e6,1cdc 4 dc,
1ce0 1 e6,1ce2 7 1,1ced 1 dc,1cf4 1 e6,1cf8 2 e6,1dc0 2 e6,1dc2 1 dc,1dc3 7 e6,1dca 1 dc,
1dcb 2 e6,1dcd 1 ea,1dce 1 d6,1dcf 1 dc,1dd0 1 ca,1dd1 25 e6,1df6 1 e8,1df7 2 e4,1df9 1 dc,
1dfa 1 da,1dfb 1 e6,1dfc 1 e9,1dfd 1 dc,1dfe 1 e6,1dff 1 dc,20d0 2 e6,20d2 2 1,20d4 4 e6,20d8 3 1,
20db 2 e6,20e1 1 e6,20e5 2 1,20e7 1 e6,20e8 1 dc,20e9 1 e6,20ea 2 1,20ec 4 dc,20f0 1 e6,2cef 3 e6,
2d7f 1 9,2de0 20 e6,302a 1 da,302b 1 e4,302c 1 e8,302d 1 de,302e 2 e0,3099 2 8,a66f 1 e6,
a674 a e6,a69e 2 e6,a6f0 2 e6,a806 1 9,a82c 1 9,a8c4 1 9,a8e0 12 e6,a92b 3 dc,a953 1 9,a9b3 1 7,
a9c0 1 9,aab0 1 e6,aab2 2 e6,aab4 1 dc,aab7 2 e6,aabe 2 e6,aac1 1 e6,aaf6 1 9,abed 1 9,fb1e 1 1a,
fe20 7 e6,fe27 7 dc,fe2e 2 e6,101fd 1 dc,102e0 1 dc,10376 5 e6,10a0d 1 dc,10a0f 1 e6,10a38 1 e6,
10a39 1 1,10a3a 1 dc,10a3f 1 9,10ae5 1 e6,10ae6 1 dc,10d24 4 e6,10eab 2 e6,10f46 2 dc,10f48 3 e6,
10f4b 1 dc,10f4c 1 e6,10f4d 4 dc,10f82 1 e6,10f83 1 dc,10f84 1 e6,10f85 1 dc,11046 1 9,11070 1 9,
1107f 1 9,110b9 1 9,110ba 1 7,11100 3 e6,11133 2 9,11173 1 7,111c0 1 9,111ca 1 7,11235 1 9,
11236 1 7,112e9 1 7,112ea 1 9,1133b 2 7,1134d 1 9,11366 7 e6,11370 5 e6,11442 1 9,11446 1 7,
1145e 1 e6,114c2 1 9,114c3 1 7,115bf 1 9,115c0 1 7,1163f 1 9,116b6 1 9,116b7 1 7,1172b 1 9,
11839 1 9,1183a 1 7,1193d 2 9,11943 1 7,119e0 1 9,11a34 1 9,11a47 1 9,11a99 1 9,11c3f 1 9,
11d42 1 7,11d44 2 9,11d97 1 9,16af0 5 1,16b30 7 e6,16ff0 2 6,1bc9e 1 1,1d165 2 d8,1d167 3 1,
1d16d 1 e2,1d16e 5 d8,1d17b 8 dc,1d185 5 e6,1d18a 2 dc,1d1aa 4 e6,1d242 3 e6,1e000 7 e6,
1e008 11 e6,1e01b 7 e6,1e023 2 e6,1e026 5 e6,1e130 7 e6,1e2ae 1 e6,1e2ec 4 e6,1e8d0 7 dc,
1e944 6 e6,1e94a 1 7"

/-- The runs of characters with a class other than zero: the first character, the number of
characters, and the class. -/
def classRuns : Thunk (List (Nat × Nat × Nat)) :=
  .mk fun _ => (classRecords.splitOn ",").filterMap fun record =>
    match readNumbers record with
    | [first, count, k] => some (first, count, k)
    | _ => none

/-- The class of a code point. The first marks stand at 300. -/
def combiningClass (p : Point) : Nat :=
  let n := p.toNat
  if n < 0x300 then 0
  else match classRuns.get.find? fun run => run.1 ≤ n && n < run.1 + run.2.1 with
    | some run => run.2.2
    | none => 0

/-- The bounds of the ranges of marks. -/
def markBounds : List Nat := runningSums <| readNumbers "
300 70 113 7 107 2d 1 1 1 2 1 2 1 1 48 b 30 15 10 1 65 7 2 6 2 2 1 4 23 1 1e 1b 5b b 3a 9 9 1 18
4 1 9 1 3 1 5 2b 3 3c 8 2a 18 1 21 36 3 1 12 1 7 a 2 1d 3 38 1 1 7 2 2 2 3 9 1 a 2 1a 1 2 3 38 1
1 5 4 2 2 3 3 1 1e 2 3 1 b 3 38 1 1 8 1 3 1 3 14 2 16 6 1 3 38 1 1 7 2 2 2 3 7 3 a 2 1e 1 3b 5 3
3 1 4 9 1 28 5 37 1 1 7 1 3 1 4 7 2 b 2 1d 3 38 1 1 7 1 3 1 4 7 2 b 2 1c 4 37 2 1 7 1 3 1 4 9 1
a 2 1d 3 46 1 4 6 1 1 1 8 12 2 3d 1 2 7 c 8 62 1 2 9 b 6 4a 2 1b 1 1 1 1 1 4 2 31 14 1 2 5 b 1
24 9 1 64 14 17 4 4 3 1 3 2 7 3 4 d c 1 1 a 4 2bf 3 3b2 4 1c 3 1d 2 1e 2 40 20 9 1 2d 3 1 1 75 2
22 1 76 c 4 c db 5 39 a 1 1d 2 1 30 1f 31 5 2f 11 26 9 c 3 1e d 38 e 30 14 98 3 1 15 4 1 6 1 2 3
c6 40 2d0 21 bfe 3 8d 1 60 20 22a 6 69 2 75d4 4 1 a 20 2 50 2 110 1 3 1 4 1 17 5 4 1 53 2 32 12
1a 12 d 1 26 8 19 d 2c 4 2f e 24 1 43 e c 1 8 2 2d 3 32 1 1 3 2 2 5 2 1 1 29 5 5 2 ec 8 1 2 4f30
1 2e1 10 10 10 3cd 1 e2 1 95 5 686 3 1 2 5 4 28 3 4 1 a5 2 23d 4 183 2 99 b 31 4 7a 3 35 f 29 1
2 2 a 4 2d b 7 1 3d 3 24 e 10 2 2c 1 c 3 30 e 8 4 1 2 5c c 6 1 a0 c 15 4 37 2 1 7 2 2 2 3 9 1 a
2 2 7 3 5 c0 12 17 1 51 14 eb 7 2 9 1b 2 52 11 6a d 65 f 100 f f5 6 1 2 2 4 1 1 1 2 8d 7 2 7 3 1
1c a 28 7 1 4 8 1 9 b 2e 10 195 8 1 8 52 16 1 e 7a 6 3 1 1 2 1 7 1 1 42 5 1 2 1 5 15b 4 4bf9 5
3b 7 418 1 1 37 7 4 51 1 b 2 4cab 2 1261 2e 2 17 21e 5 3 6 8 8 2 7 1e 4 94 3 7bb 37 4 32 8 1 e 1
16 5 1 f 550 7 1 11 2 7 1 2 1 5 105 7 177 1 3d 4 5e0 7 6d 7 c17b5 f0"

/-- Whether a code point is a mark. -/
def isMark (p : Point) : Bool := inside markBounds p.toNat

end FileDepot.Text
