import QueryShell.Text.CombiningClass

namespace QueryShell.Text

structure Composite where
  letter : Char
  mark : Char
  whole : Char

def composites : List Composite :=
  compositeLines.flatMap fun row => (words row.2).filterMap (ofWord? row.1)
where
  charAt (word : String) : Char := Char.ofNat (hexNumber word.toList)
  ofWord? (mark word : String) : Option Composite :=
    match word.splitOn "-" with
    | [letter, whole] => some ⟨charAt letter, charAt mark, charAt whole⟩
    | _ => none
  compositeLines : List (String × List String) :=
    [("300", ["61-e0 65-e8 69-ec 6f-f2 75-f9 fc-1dc 6e-1f9 435-450 438-45d 113-1e15 14d-1e51",
        "77-1e81 e2-1ea7 103-1eb1 ea-1ec1 f4-1ed3 1a1-1edd 1b0-1eeb 79-1ef3 1f00-1f02",
        "1f01-1f03 1f10-1f12 1f11-1f13 1f20-1f22 1f21-1f23 1f30-1f32 1f31-1f33 1f40-1f42",
        "1f41-1f43 1f50-1f52 1f51-1f53 1f60-1f62 1f61-1f63 3b1-1f70 3b5-1f72 3b7-1f74",
        "3b9-1f76 3bf-1f78 3c5-1f7a 3c9-1f7c 3ca-1fd2 3cb-1fe2"]),
    ("301", ["61-e1 65-e9 69-ed 6f-f3 75-fa 79-fd 63-107 6c-13a 6e-144 72-155 73-15b 7a-17a fc-1d8",
        "67-1f5 e5-1fb e6-1fd f8-1ff 3ca-390 3b1-3ac 3b5-3ad 3b7-3ae 3b9-3af 3cb-3b0 3bf-3cc",
        "3c5-3cd 3c9-3ce 433-453 43a-45c e7-1e09 113-1e17 ef-1e2f 6b-1e31 6d-1e3f f5-1e4d",
        "14d-1e53 70-1e55 169-1e79 77-1e83 e2-1ea5 103-1eaf ea-1ebf f4-1ed1 1a1-1edb 1b0-1ee9",
        "1f00-1f04 1f01-1f05 1f10-1f14 1f11-1f15 1f20-1f24 1f21-1f25 1f30-1f34 1f31-1f35",
        "1f40-1f44 1f41-1f45 1f50-1f54 1f51-1f55 1f60-1f64 1f61-1f65"]),
    ("302", ["61-e2 65-ea 69-ee 6f-f4 75-fb 63-109 67-11d 68-125 6a-135 73-15d 77-175 79-177",
        "7a-1e91 1ea1-1ead 1eb9-1ec7 1ecd-1ed9"]),
    ("303", ["61-e3 6e-f1 6f-f5 69-129 75-169 76-1e7d e2-1eab 103-1eb5 65-1ebd ea-1ec5 f4-1ed7",
        "1a1-1ee1 1b0-1eef 79-1ef9"]),
    ("304", ["61-101 65-113 69-12b 6f-14d 75-16b fc-1d6 e4-1df 227-1e1 e6-1e3 1eb-1ed f6-22b",
        "f5-22d 22f-231 79-233 438-4e3 443-4ef 67-1e21 1e37-1e39 1e5b-1e5d 3b1-1fb1 3b9-1fd1",
        "3c5-1fe1"]),
    ("306", ["61-103 65-115 67-11f 69-12d 6f-14f 75-16d 438-439 443-45e 436-4c2 430-4d1 435-4d7",
        "229-1e1d 1ea1-1eb7 3b1-1fb0 3b9-1fd0 3c5-1fe0"]),
    ("307", ["63-10b 65-117 67-121 7a-17c 61-227 6f-22f 62-1e03 64-1e0b 66-1e1f 68-1e23 6d-1e41",
        "6e-1e45 70-1e57 72-1e59 73-1e61 15b-1e65 161-1e67 1e63-1e69 74-1e6b 77-1e87 78-1e8b",
        "79-1e8f"]),
    ("308", ["61-e4 65-eb 69-ef 6f-f6 75-fc 79-ff 3b9-3ca 3c5-3cb 435-451 456-457 430-4d3 4d9-4db",
        "436-4dd 437-4df 438-4e5 43e-4e7 4e9-4eb 44d-4ed 443-4f1 447-4f5 44b-4f9 68-1e27",
        "f5-1e4f 16b-1e7b 77-1e85 78-1e8d 74-1e97"]),
    ("309", ["61-1ea3 e2-1ea9 103-1eb3 65-1ebb ea-1ec3 69-1ec9 6f-1ecf f4-1ed5 1a1-1edf 75-1ee7",
        "1b0-1eed 79-1ef7"]),
    ("30a", ["61-e5 75-16f 77-1e98 79-1e99"]),
    ("30b", ["6f-151 75-171 443-4f3"]),
    ("30c", ["63-10d 64-10f 65-11b 6c-13e 6e-148 72-159 73-161 74-165 7a-17e 61-1ce 69-1d0 6f-1d2",
        "75-1d4 fc-1da 67-1e7 6b-1e9 292-1ef 6a-1f0 68-21f"]),
    ("30f", ["61-201 65-205 69-209 6f-20d 72-211 75-215 475-477"]),
    ("311", ["61-203 65-207 69-20b 6f-20f 72-213 75-217"]),
    ("313", ["3b1-1f00 3b5-1f10 3b7-1f20 3b9-1f30 3bf-1f40 3c5-1f50 3c9-1f60 3c1-1fe4"]),
    ("314", ["3b1-1f01 3b5-1f11 3b7-1f21 3b9-1f31 3bf-1f41 3c5-1f51 3c9-1f61 3c1-1fe5"]),
    ("31b", ["6f-1a1 75-1b0"]),
    ("323", ["62-1e05 64-1e0d 68-1e25 6b-1e33 6c-1e37 6d-1e43 6e-1e47 72-1e5b 73-1e63 74-1e6d",
        "76-1e7f 77-1e89 7a-1e93 61-1ea1 65-1eb9 69-1ecb 6f-1ecd 1a1-1ee3 75-1ee5 1b0-1ef1",
        "79-1ef5"]),
    ("324", ["75-1e73"]),
    ("325", ["61-1e01"]),
    ("326", ["73-219 74-21b"]),
    ("327", ["63-e7 67-123 6b-137 6c-13c 6e-146 72-157 73-15f 74-163 65-229 64-1e11 68-1e29"]),
    ("328", ["61-105 65-119 69-12f 75-173 6f-1eb"]),
    ("32d", ["64-1e13 65-1e19 6c-1e3d 6e-1e4b 74-1e71 75-1e77"]),
    ("32e", ["68-1e2b"]),
    ("330", ["65-1e1b 69-1e2d 75-1e75"]),
    ("331", ["62-1e07 64-1e0f 6b-1e35 6c-1e3b 6e-1e49 72-1e5f 74-1e6f 7a-1e95 68-1e96"]),
    ("342", ["1f00-1f06 1f01-1f07 1f20-1f26 1f21-1f27 1f30-1f36 1f31-1f37 1f50-1f56 1f51-1f57",
        "1f60-1f66 1f61-1f67 3b1-1fb6 3b7-1fc6 3b9-1fd6 3ca-1fd7 3c5-1fe6 3cb-1fe7 3c9-1ff6"]),
    ("653", ["627-622"]),
    ("654", ["627-623 648-624 64a-626 6d5-6c0 6c1-6c2 6d2-6d3"]),
    ("655", ["627-625"]),
    ("93c", ["928-929 930-931 933-934"]),
    ("9be", ["9c7-9cb"]),
    ("9d7", ["9c7-9cc"]),
    ("b3e", ["b47-b4b"]),
    ("b56", ["b47-b48"]),
    ("b57", ["b47-b4c"]),
    ("bbe", ["bc6-bca bc7-bcb"]),
    ("bd7", ["b92-b94 bc6-bcc"]),
    ("c56", ["c46-c48"]),
    ("cc2", ["cc6-cca"]),
    ("cd5", ["cbf-cc0 cc6-cc7 cca-ccb"]),
    ("cd6", ["cc6-cc8"]),
    ("d3e", ["d46-d4a d47-d4b"]),
    ("d57", ["d46-d4c"]),
    ("dca", ["dd9-dda ddc-ddd"]),
    ("dcf", ["dd9-ddc"]),
    ("ddf", ["dd9-dde"]),
    ("102e", ["1025-1026"]),
    ("1b35", ["1b05-1b06 1b07-1b08 1b09-1b0a 1b0b-1b0c 1b0d-1b0e 1b11-1b12 1b3a-1b3b 1b3c-1b3d",
        "1b3e-1b40 1b3f-1b41 1b42-1b43"]),
    ("3099", ["304b-304c 304d-304e 304f-3050 3051-3052 3053-3054 3055-3056 3057-3058 3059-305a",
        "305b-305c 305d-305e 305f-3060 3061-3062 3064-3065 3066-3067 3068-3069 306f-3070",
        "3072-3073 3075-3076 3078-3079 307b-307c 3046-3094 309d-309e 30ab-30ac 30ad-30ae",
        "30af-30b0 30b1-30b2 30b3-30b4 30b5-30b6 30b7-30b8 30b9-30ba 30bb-30bc 30bd-30be",
        "30bf-30c0 30c1-30c2 30c4-30c5 30c6-30c7 30c8-30c9 30cf-30d0 30d2-30d3 30d5-30d6",
        "30d8-30d9 30db-30dc 30a6-30f4 30ef-30f7 30f0-30f8 30f1-30f9 30f2-30fa 30fd-30fe"]),
    ("309a", ["306f-3071 3072-3074 3075-3077 3078-307a 307b-307d 30cf-30d1 30d2-30d4 30d5-30d7",
        "30d8-30da 30db-30dd"]),
    ("110ba", ["11099-1109a 1109b-1109c 110a5-110ab"]),
    ("11127", ["11131-1112e 11132-1112f"]),
    ("1133e", ["11347-1134b"]),
    ("11357", ["11347-1134c"]),
    ("114b0", ["114b9-114bc"]),
    ("114ba", ["114b9-114bb"]),
    ("114bd", ["114b9-114be"]),
    ("115af", ["115b8-115ba 115b9-115bb"]),
    ("11930", ["11935-11938"])]

def composed? (letter mark : Char) : Option Char :=
  (composites.find? fun x => x.letter == letter && x.mark == mark).map (·.whole)

def deepest : Nat := 2

def decomposed : (steps : Nat) → Char → List Char
  | 0, c => [c]
  | steps + 1, c =>
      match composites.find? (·.whole == c) with
      | some x => decomposed steps x.letter ++ [x.mark]
      | none => [c]

def insertMark (c : Char) : List Char → List Char
  | [] => [c]
  | d :: ds =>
      if 0 < combiningClass d && combiningClass d < combiningClass c then d :: insertMark c ds
      else c :: d :: ds

def compose (letter : Char) (kept : List Char) : List Char → List Char
  | [] => letter :: kept.reverse
  | c :: cs =>
      let stays := kept.head?.any fun d => combiningClass c ≤ combiningClass d
      match if stays then none else composed? letter c with
      | some whole => compose whole kept cs
      | none =>
          if combiningClass c == 0 then letter :: (kept.reverse ++ compose c [] cs)
          else compose letter (c :: kept) cs

def normalForm (cs : List Char) : List Char :=
  match (cs.flatMap (decomposed deepest)).foldr insertMark [] with
  | [] => []
  | letter :: rest => compose letter [] rest

end QueryShell.Text
