import TemplateRouter.Text.Property
/- Simple case folding: the characters that differ from each other in case alone. -/
namespace TemplateRouter.Text.CaseFold

/-- Pairs of a lower and an upper half, as runs: first member, count, step, its partner. -/
def pairRuns : List String := [
  "41,a,1,61 4c,7,1,6c 54,7,1,74 c0,5,1,e0 c6,11,1,e6 d8,7,1,f8 df,1,1,1e9e ff,1,1,178",
  "100,18,2,101 132,3,2,133 139,8,2,13a 14a,17,2,14b 179,3,2,17a 180,1,1,243 181,1,1,253",
  "182,2,2,183 186,1,1,254 187,1,1,188 189,2,1,256 18b,1,1,18c 18e,1,1,1dd 18f,1,1,259",
  "190,1,1,25b 191,1,1,192 193,1,1,260 194,1,1,263 195,1,1,1f6 196,1,1,269 197,1,1,268",
  "198,1,1,199 19a,1,1,23d 19b,1,1,a7dc 19c,1,1,26f 19d,1,1,272 19e,1,1,220 19f,1,1,275",
  "1a0,3,2,1a1 1a6,1,1,280 1a7,1,1,1a8 1a9,1,1,283 1ac,1,1,1ad 1ae,1,1,288 1af,1,1,1b0",
  "1b1,2,1,28a 1b3,2,2,1b4 1b7,1,1,292 1b8,1,1,1b9 1bc,1,1,1bd 1bf,1,1,1f7 1cd,8,2,1ce",
  "1de,9,2,1df 1f4,1,1,1f5 1f8,14,2,1f9 222,9,2,223 23a,1,1,2c65 23b,1,1,23c 23e,1,1,2c66",
  "23f,2,1,2c7e 241,1,1,242 244,1,1,289 245,1,1,28c 246,5,2,247 250,1,1,2c6f 251,1,1,2c6d",
  "252,1,1,2c70 25c,1,1,a7ab 261,1,1,a7ac 264,1,1,a7cb 265,1,1,a78d 266,1,1,a7aa",
  "26a,1,1,a7ae 26b,1,1,2c62 26c,1,1,a7ad 271,1,1,2c6e 27d,1,1,2c64 282,1,1,a7c5",
  "287,1,1,a7b1 29d,1,1,a7b2 29e,1,1,a7b0 370,2,2,371 376,1,1,377 37b,3,1,3fd 37f,1,1,3f3",
  "386,1,1,3ac 388,3,1,3ad 38c,1,1,3cc 38e,2,1,3cd 390,1,1,1fd3 391,2,2,3b1 394,2,2,3b4",
  "397,1,1,3b7 39b,2,2,3bb 39e,2,1,3be 3a4,2,1,3c4 3a7,2,1,3c7 3aa,2,1,3ca 3b0,1,1,1fe3",
  "3cf,1,1,3d7 3d8,c,2,3d9 3f2,1,1,3f9 3f7,1,1,3f8 3fa,1,1,3fb 400,10,1,450 410,2,1,430",
  "413,2,2,433 416,8,1,436 41f,2,1,43f 423,7,1,443 42b,5,1,44b 460,1,1,461 464,f,2,465",
  "48a,1b,2,48b 4c0,1,1,4cf 4c1,7,2,4c2 4d0,30,2,4d1 531,26,1,561 10a0,26,1,2d00",
  "10c7,1,1,2d27 10cd,1,1,2d2d 10d0,2b,1,1c90 10fd,3,1,1cbd 13a0,50,1,ab70 13f0,6,1,13f8",
  "1c89,1,1,1c8a 1d79,1,1,a77d 1d7d,1,1,2c63 1d8e,1,1,a7c6 1e00,30,2,1e01 1e62,1a,2,1e63",
  "1ea0,30,2,1ea1 1f00,8,1,1f08 1f10,6,1,1f18 1f20,8,1,1f28 1f30,8,1,1f38 1f40,6,1,1f48",
  "1f51,4,2,1f59 1f60,8,1,1f68 1f70,2,1,1fba 1f72,4,1,1fc8 1f76,2,1,1fda 1f78,2,1,1ff8",
  "1f7a,2,1,1fea 1f7c,2,1,1ffa 1f80,8,1,1f88 1f90,8,1,1f98 1fa0,8,1,1fa8 1fb0,2,1,1fb8",
  "1fb3,1,1,1fbc 1fc3,1,1,1fcc 1fd0,2,1,1fd8 1fe0,2,1,1fe8 1fe5,1,1,1fec 1ff3,1,1,1ffc",
  "2132,1,1,214e 2160,10,1,2170 2183,1,1,2184 24b6,1a,1,24d0 2c00,30,1,2c30 2c60,1,1,2c61",
  "2c67,3,2,2c68 2c72,1,1,2c73 2c75,1,1,2c76 2c80,32,2,2c81 2ceb,2,2,2cec 2cf2,1,1,2cf3",
  "a640,5,2,a641 a64c,11,2,a64d a680,e,2,a681 a722,7,2,a723 a732,1f,2,a733 a779,2,2,a77a",
  "a77e,5,2,a77f a78b,1,1,a78c a790,2,2,a791 a794,1,1,a7c4 a796,a,2,a797 a7b3,1,1,ab53",
  "a7b4,8,2,a7b5 a7c7,2,2,a7c8 a7cc,1,1,a7cd a7d0,1,1,a7d1 a7d6,3,2,a7d7 a7f5,1,1,a7f6",
  "fb05,1,1,fb06 ff21,1a,1,ff41 10400,28,1,10428 104b0,24,1,104d8 10570,b,1,10597",
  "1057c,f,1,105a3 1058c,7,1,105b3 10594,2,1,105bb 10c80,33,1,10cc0 10d50,16,1,10d70",
  "118a0,20,1,118c0 16e40,20,1,16e60 1e900,22,1,1e922"]

/-- Sets of three or four characters with one folding. -/
def largerOrbits : List String := [
  "4b,6b,212a 53,73,17f b5,39c,3bc c5,e5,212b 1c4,1c5,1c6 1c7,1c8,1c9 1ca,1cb,1cc",
  "1f1,1f2,1f3 345,399,3b9,1fbe 392,3b2,3d0 395,3b5,3f5 398,3b8,3d1,3f4 39a,3ba,3f0",
  "3a0,3c0,3d6 3a1,3c1,3f1 3a3,3c2,3c3 3a6,3c6,3d5 3a9,3c9,2126 412,432,1c80 414,434,1c81",
  "41e,43e,1c82 421,441,1c83 422,442,1c84,1c85 42a,44a,1c86 462,463,1c87 1c88,a64a,a64b",
  "1e60,1e61,1e9b"]

/-- Groups of hexadecimal numerals: a blank ends a group, a comma ends a numeral. -/
def numberGroups (line : String) : List (List Nat) :=
  (line.splitOn " ").map fun word => (word.splitOn ",").map hexNumeral

def expandRun : List Nat → List (List Nat)
  | [first, count, step, partner] =>
    (List.range count).map fun i => [first + i * step, partner + i * step]
  | _ => []

def orbits : List (List Nat) :=
  (pairRuns.flatMap numberGroups).flatMap expandRun ++ largerOrbits.flatMap numberGroups

def table : Array (Nat × List Nat) :=
  ((orbits.flatMap fun o => o.map fun n => (n, o)).mergeSort fun x y => x.1 ≤ y.1).toArray

/-- Every character that folds as the given one does, itself included. -/
def orbit (c : Char) : List Char :=
  match table[bisect (fun i => c.toNat ≤ (table.getD i (0, [])).1) 0 table.size]? with
  | some (n, o) => if n = c.toNat then o.map Char.ofNat else [c]
  | none => [c]

end TemplateRouter.Text.CaseFold
