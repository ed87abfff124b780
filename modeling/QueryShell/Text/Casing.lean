import QueryShell.Text.CaseIgnorable
import QueryShell.Text.Ranges

/-!
Lower case and title case. A table row `a-b/s>t` maps every `s`-th character from `a` to `b`, the
first of them to `t` and the others by the same distance; `t+u` stands for several characters.
-/

namespace QueryShell.Text

structure CaseRow where
  range : Range
  stride : Nat
  image : List Nat
  deriving Repr

def CaseRow.ofWord? (word : String) : Option CaseRow :=
  match word.splitOn ">" with
  | [source, image] =>
      match source.splitOn "/" with
      | [range, stride] =>
          some ⟨Range.ofWord range, hexNumber stride.toList,
            (image.splitOn "+").map fun t => hexNumber t.toList⟩
      | _ => none
  | _ => none

def CaseRow.ofLines (lines : List String) : Array CaseRow :=
  ((words lines).filterMap CaseRow.ofWord?).toArray

def CaseRow.apply? (row : CaseRow) (n : Nat) : Option (List Char) :=
  if row.range.has n && (n - row.range.first) % row.stride == 0 then
    match row.image with
    | [t] => some [Char.ofNat (t + (n - row.range.first))]
    | ts => some (ts.map Char.ofNat)
  else none

def mapCase (table : Array CaseRow) (c : Char) : List Char :=
  (table.findSome? fun row => row.apply? c.toNat).getD [c]

def lowerRows : Array CaseRow := CaseRow.ofLines
  ["c0-d6/1>e0 d8-de/1>f8 100-12e/2>101 130-130/1>69+307 132-136/2>133 139-147/2>13a",
    "14a-176/2>14b 178-178/1>ff 179-17d/2>17a 181-181/1>253 182-184/2>183 186-186/1>254",
    "187-187/1>188 189-18a/1>256 18b-18b/1>18c 18e-18e/1>1dd 18f-18f/1>259 190-190/1>25b",
    "191-191/1>192 193-193/1>260 194-194/1>263 196-196/1>269 197-197/1>268 198-198/1>199",
    "19c-19c/1>26f 19d-19d/1>272 19f-19f/1>275 1a0-1a4/2>1a1 1a6-1a6/1>280 1a7-1a7/1>1a8",
    "1a9-1a9/1>283 1ac-1ac/1>1ad 1ae-1ae/1>288 1af-1af/1>1b0 1b1-1b2/1>28a 1b3-1b5/2>1b4",
    "1b7-1b7/1>292 1b8-1b8/1>1b9 1bc-1bc/1>1bd 1c4-1c4/1>1c6 1c5-1c5/1>1c6 1c7-1c7/1>1c9",
    "1c8-1c8/1>1c9 1ca-1ca/1>1cc 1cb-1db/2>1cc 1de-1ee/2>1df 1f1-1f1/1>1f3 1f2-1f4/2>1f3",
    "1f6-1f6/1>195 1f7-1f7/1>1bf 1f8-21e/2>1f9 220-220/1>19e 222-232/2>223 23a-23a/1>2c65",
    "23b-23b/1>23c 23d-23d/1>19a 23e-23e/1>2c66 241-241/1>242 243-243/1>180 244-244/1>289",
    "245-245/1>28c 246-24e/2>247 370-372/2>371 376-376/1>377 37f-37f/1>3f3 386-386/1>3ac",
    "388-38a/1>3ad 38c-38c/1>3cc 38e-38f/1>3cd 391-3a1/1>3b1 3a3-3ab/1>3c3 3cf-3cf/1>3d7",
    "3d8-3ee/2>3d9 3f4-3f4/1>3b8 3f7-3f7/1>3f8 3f9-3f9/1>3f2 3fa-3fa/1>3fb 3fd-3ff/1>37b",
    "400-40f/1>450 410-42f/1>430 460-480/2>461 48a-4be/2>48b 4c0-4c0/1>4cf 4c1-4cd/2>4c2",
    "4d0-52e/2>4d1 531-556/1>561 10a0-10c5/1>2d00 10c7-10c7/1>2d27 10cd-10cd/1>2d2d",
    "13a0-13ef/1>ab70 13f0-13f5/1>13f8 1c90-1cba/1>10d0 1cbd-1cbf/1>10fd 1e00-1e94/2>1e01",
    "1e9e-1e9e/1>df 1ea0-1efe/2>1ea1 1f08-1f0f/1>1f00 1f18-1f1d/1>1f10 1f28-1f2f/1>1f20",
    "1f38-1f3f/1>1f30 1f48-1f4d/1>1f40 1f59-1f5f/2>1f51 1f68-1f6f/1>1f60 1f88-1f8f/1>1f80",
    "1f98-1f9f/1>1f90 1fa8-1faf/1>1fa0 1fb8-1fb9/1>1fb0 1fba-1fbb/1>1f70 1fbc-1fbc/1>1fb3",
    "1fc8-1fcb/1>1f72 1fcc-1fcc/1>1fc3 1fd8-1fd9/1>1fd0 1fda-1fdb/1>1f76 1fe8-1fe9/1>1fe0",
    "1fea-1feb/1>1f7a 1fec-1fec/1>1fe5 1ff8-1ff9/1>1f78 1ffa-1ffb/1>1f7c 1ffc-1ffc/1>1ff3",
    "2126-2126/1>3c9 212a-212a/1>6b 212b-212b/1>e5 2132-2132/1>214e 2160-216f/1>2170",
    "2183-2183/1>2184 24b6-24cf/1>24d0 2c00-2c2f/1>2c30 2c60-2c60/1>2c61 2c62-2c62/1>26b",
    "2c63-2c63/1>1d7d 2c64-2c64/1>27d 2c67-2c6b/2>2c68 2c6d-2c6d/1>251 2c6e-2c6e/1>271",
    "2c6f-2c6f/1>250 2c70-2c70/1>252 2c72-2c72/1>2c73 2c75-2c75/1>2c76 2c7e-2c7f/1>23f",
    "2c80-2ce2/2>2c81 2ceb-2ced/2>2cec 2cf2-2cf2/1>2cf3 a640-a66c/2>a641 a680-a69a/2>a681",
    "a722-a72e/2>a723 a732-a76e/2>a733 a779-a77b/2>a77a a77d-a77d/1>1d79 a77e-a786/2>a77f",
    "a78b-a78b/1>a78c a78d-a78d/1>265 a790-a792/2>a791 a796-a7a8/2>a797 a7aa-a7aa/1>266",
    "a7ab-a7ab/1>25c a7ac-a7ac/1>261 a7ad-a7ad/1>26c a7ae-a7ae/1>26a a7b0-a7b0/1>29e",
    "a7b1-a7b1/1>287 a7b2-a7b2/1>29d a7b3-a7b3/1>ab53 a7b4-a7c2/2>a7b5 a7c4-a7c4/1>a794",
    "a7c5-a7c5/1>282 a7c6-a7c6/1>1d8e a7c7-a7c9/2>a7c8 a7d0-a7d0/1>a7d1 a7d6-a7d8/2>a7d7",
    "a7f5-a7f5/1>a7f6 ff21-ff3a/1>ff41 10400-10427/1>10428 104b0-104d3/1>104d8",
    "10570-1057a/1>10597 1057c-1058a/1>105a3 1058c-10592/1>105b3 10594-10595/1>105bb",
    "10c80-10cb2/1>10cc0 118a0-118bf/1>118c0 16e40-16e5f/1>16e60 1e900-1e921/1>1e922"]

def titleRows : Array CaseRow := CaseRow.ofLines
  ["b5-b5/1>39c df-df/1>53+73 e0-f6/1>c0 f8-fe/1>d8 ff-ff/1>178 101-12f/2>100 131-131/1>49",
    "133-137/2>132 13a-148/2>139 149-149/1>2bc+4e 14b-177/2>14a 17a-17e/2>179 17f-17f/1>53",
    "180-180/1>243 183-185/2>182 188-188/1>187 18c-18c/1>18b 192-192/1>191 195-195/1>1f6",
    "199-199/1>198 19a-19a/1>23d 19e-19e/1>220 1a1-1a5/2>1a0 1a8-1a8/1>1a7 1ad-1ad/1>1ac",
    "1b0-1b0/1>1af 1b4-1b6/2>1b3 1b9-1b9/1>1b8 1bd-1bd/1>1bc 1bf-1bf/1>1f7 1c4-1c4/1>1c5",
    "1c6-1c6/1>1c5 1c7-1c7/1>1c8 1c9-1c9/1>1c8 1ca-1ca/1>1cb 1cc-1dc/2>1cb 1dd-1dd/1>18e",
    "1df-1ef/2>1de 1f0-1f0/1>4a+30c 1f1-1f1/1>1f2 1f3-1f5/2>1f2 1f9-21f/2>1f8 223-233/2>222",
    "23c-23c/1>23b 23f-240/1>2c7e 242-242/1>241 247-24f/2>246 250-250/1>2c6f 251-251/1>2c6d",
    "252-252/1>2c70 253-253/1>181 254-254/1>186 256-257/1>189 259-259/1>18f 25b-25b/1>190",
    "25c-25c/1>a7ab 260-260/1>193 261-261/1>a7ac 263-263/1>194 265-265/1>a78d 266-266/1>a7aa",
    "268-268/1>197 269-269/1>196 26a-26a/1>a7ae 26b-26b/1>2c62 26c-26c/1>a7ad 26f-26f/1>19c",
    "271-271/1>2c6e 272-272/1>19d 275-275/1>19f 27d-27d/1>2c64 280-280/1>1a6 282-282/1>a7c5",
    "283-283/1>1a9 287-287/1>a7b1 288-288/1>1ae 289-289/1>244 28a-28b/1>1b1 28c-28c/1>245",
    "292-292/1>1b7 29d-29d/1>a7b2 29e-29e/1>a7b0 345-345/1>399 371-373/2>370 377-377/1>376",
    "37b-37d/1>3fd 390-390/1>399+308+301 3ac-3ac/1>386 3ad-3af/1>388 3b0-3b0/1>3a5+308+301",
    "3b1-3c1/1>391 3c2-3c2/1>3a3 3c3-3cb/1>3a3 3cc-3cc/1>38c 3cd-3ce/1>38e 3d0-3d0/1>392",
    "3d1-3d1/1>398 3d5-3d5/1>3a6 3d6-3d6/1>3a0 3d7-3d7/1>3cf 3d9-3ef/2>3d8 3f0-3f0/1>39a",
    "3f1-3f1/1>3a1 3f2-3f2/1>3f9 3f3-3f3/1>37f 3f5-3f5/1>395 3f8-3f8/1>3f7 3fb-3fb/1>3fa",
    "430-44f/1>410 450-45f/1>400 461-481/2>460 48b-4bf/2>48a 4c2-4ce/2>4c1 4cf-4cf/1>4c0",
    "4d1-52f/2>4d0 561-586/1>531 587-587/1>535+582 13f8-13fd/1>13f0 1c80-1c80/1>412",
    "1c81-1c81/1>414 1c82-1c82/1>41e 1c83-1c84/1>421 1c85-1c85/1>422 1c86-1c86/1>42a",
    "1c87-1c87/1>462 1c88-1c88/1>a64a 1d79-1d79/1>a77d 1d7d-1d7d/1>2c63 1d8e-1d8e/1>a7c6",
    "1e01-1e95/2>1e00 1e96-1e96/1>48+331 1e97-1e97/1>54+308 1e98-1e98/1>57+30a 1e99-1e99/1>59+30a",
    "1e9a-1e9a/1>41+2be 1e9b-1e9b/1>1e60 1ea1-1eff/2>1ea0 1f00-1f07/1>1f08 1f10-1f15/1>1f18",
    "1f20-1f27/1>1f28 1f30-1f37/1>1f38 1f40-1f45/1>1f48 1f50-1f50/1>3a5+313 1f51-1f51/1>1f59",
    "1f52-1f52/1>3a5+313+300 1f53-1f53/1>1f5b 1f54-1f54/1>3a5+313+301 1f55-1f55/1>1f5d",
    "1f56-1f56/1>3a5+313+342 1f57-1f57/1>1f5f 1f60-1f67/1>1f68 1f70-1f71/1>1fba 1f72-1f75/1>1fc8",
    "1f76-1f77/1>1fda 1f78-1f79/1>1ff8 1f7a-1f7b/1>1fea 1f7c-1f7d/1>1ffa 1f80-1f87/1>1f88",
    "1f90-1f97/1>1f98 1fa0-1fa7/1>1fa8 1fb0-1fb1/1>1fb8 1fb2-1fb2/1>1fba+345 1fb3-1fb3/1>1fbc",
    "1fb4-1fb4/1>386+345 1fb6-1fb6/1>391+342 1fb7-1fb7/1>391+342+345 1fbe-1fbe/1>399",
    "1fc2-1fc2/1>1fca+345 1fc3-1fc3/1>1fcc 1fc4-1fc4/1>389+345 1fc6-1fc6/1>397+342",
    "1fc7-1fc7/1>397+342+345 1fd0-1fd1/1>1fd8 1fd2-1fd2/1>399+308+300 1fd3-1fd3/1>399+308+301",
    "1fd6-1fd6/1>399+342 1fd7-1fd7/1>399+308+342 1fe0-1fe1/1>1fe8 1fe2-1fe2/1>3a5+308+300",
    "1fe3-1fe3/1>3a5+308+301 1fe4-1fe4/1>3a1+313 1fe5-1fe5/1>1fec 1fe6-1fe6/1>3a5+342",
    "1fe7-1fe7/1>3a5+308+342 1ff2-1ff2/1>1ffa+345 1ff3-1ff3/1>1ffc 1ff4-1ff4/1>38f+345",
    "1ff6-1ff6/1>3a9+342 1ff7-1ff7/1>3a9+342+345 214e-214e/1>2132 2170-217f/1>2160",
    "2184-2184/1>2183 24d0-24e9/1>24b6 2c30-2c5f/1>2c00 2c61-2c61/1>2c60 2c65-2c65/1>23a",
    "2c66-2c66/1>23e 2c68-2c6c/2>2c67 2c73-2c73/1>2c72 2c76-2c76/1>2c75 2c81-2ce3/2>2c80",
    "2cec-2cee/2>2ceb 2cf3-2cf3/1>2cf2 2d00-2d25/1>10a0 2d27-2d27/1>10c7 2d2d-2d2d/1>10cd",
    "a641-a66d/2>a640 a681-a69b/2>a680 a723-a72f/2>a722 a733-a76f/2>a732 a77a-a77c/2>a779",
    "a77f-a787/2>a77e a78c-a78c/1>a78b a791-a793/2>a790 a794-a794/1>a7c4 a797-a7a9/2>a796",
    "a7b5-a7c3/2>a7b4 a7c8-a7ca/2>a7c7 a7d1-a7d1/1>a7d0 a7d7-a7d9/2>a7d6 a7f6-a7f6/1>a7f5",
    "ab53-ab53/1>a7b3 ab70-abbf/1>13a0 fb00-fb00/1>46+66 fb01-fb01/1>46+69 fb02-fb02/1>46+6c",
    "fb03-fb03/1>46+66+69 fb04-fb04/1>46+66+6c fb05-fb05/1>53+74 fb06-fb06/1>53+74",
    "fb13-fb13/1>544+576 fb14-fb14/1>544+565 fb15-fb15/1>544+56b fb16-fb16/1>54e+576",
    "fb17-fb17/1>544+56d ff41-ff5a/1>ff21 10428-1044f/1>10400 104d8-104fb/1>104b0",
    "10597-105a1/1>10570 105a3-105b1/1>1057c 105b3-105b9/1>1058c 105bb-105bc/1>10594",
    "10cc0-10cf2/1>10c80 118c0-118df/1>118a0 16e60-16e7f/1>16e40 1e922-1e943/1>1e900"]

def casedRanges : Array Range := Range.ofLines
  ["41-5a 61-7a aa b5 ba c0-d6 d8-f6 f8-1ba 1bc-1bf 1c4-293 295-2b8 2c0-2c1 2e0-2e4 345 370-373",
    "376-377 37a-37d 37f 386 388-38a 38c 38e-3a1 3a3-3f5 3f7-481 48a-52f 531-556 560-588",
    "10a0-10c5 10c7 10cd 10d0-10fa 10fd-10ff 13a0-13f5 13f8-13fd 1c80-1c88 1c90-1cba 1cbd-1cbf",
    "1d00-1dbf 1e00-1f15 1f18-1f1d 1f20-1f45 1f48-1f4d 1f50-1f57 1f59 1f5b 1f5d 1f5f-1f7d",
    "1f80-1fb4 1fb6-1fbc 1fbe 1fc2-1fc4 1fc6-1fcc 1fd0-1fd3 1fd6-1fdb 1fe0-1fec 1ff2-1ff4",
    "1ff6-1ffc 2071 207f 2090-209c 2102 2107 210a-2113 2115 2119-211d 2124 2126 2128 212a-212d",
    "212f-2134 2139 213c-213f 2145-2149 214e 2160-217f 2183-2184 24b6-24e9 2c00-2ce4 2ceb-2cee",
    "2cf2-2cf3 2d00-2d25 2d27 2d2d a640-a66d a680-a69d a722-a787 a78b-a78e a790-a7ca a7d0-a7d1",
    "a7d3 a7d5-a7d9 a7f5-a7f6 a7f8-a7fa ab30-ab5a ab5c-ab68 ab70-abbf fb00-fb06 fb13-fb17",
    "ff21-ff3a ff41-ff5a 10400-1044f 104b0-104d3 104d8-104fb 10570-1057a 1057c-1058a 1058c-10592",
    "10594-10595 10597-105a1 105a3-105b1 105b3-105b9 105bb-105bc 10780 10783-10785 10787-107b0",
    "107b2-107ba 10c80-10cb2 10cc0-10cf2 118a0-118df 16e40-16e7f 1d400-1d454 1d456-1d49c",
    "1d49e-1d49f 1d4a2 1d4a5-1d4a6 1d4a9-1d4ac 1d4ae-1d4b9 1d4bb 1d4bd-1d4c3 1d4c5-1d505",
    "1d507-1d50a 1d50d-1d514 1d516-1d51c 1d51e-1d539 1d53b-1d53e 1d540-1d544 1d546 1d54a-1d550",
    "1d552-1d6a5 1d6a8-1d6c0 1d6c2-1d6da 1d6dc-1d6fa 1d6fc-1d714 1d716-1d734 1d736-1d74e",
    "1d750-1d76e 1d770-1d788 1d78a-1d7a8 1d7aa-1d7c2 1d7c4-1d7cb 1df00-1df09 1df0b-1df1e",
    "1e900-1e943 1f130-1f149 1f150-1f169 1f170-1f189"]

def lowerChar (c : Char) : List Char :=
  if c.toNat < 0x80 then [c.toLower] else mapCase lowerRows c

def titleChar (c : Char) : List Char :=
  if c.toNat < 0x80 then [c.toUpper] else mapCase titleRows c

def isCased (c : Char) : Bool :=
  if c.toNat < 0x80 then c.isAlpha else inRanges casedRanges c.toNat

def startsCased (cs : List Char) : Bool :=
  (cs.head?.map isCased).getD false

def endsWord (before after : List Char) : Bool :=
  startsCased (before.dropWhile isCaseIgnorable) && !startsCased (after.dropWhile isCaseIgnorable)

/-- The lower case of a character where it stands: sigma has a form for the end of a word. -/
def lowerWithin (before after : List Char) (c : Char) : List Char :=
  if c == 'Σ' && endsWord before after then ['ς'] else lowerChar c

def lower (cs : List Char) : List Char :=
  go [] cs
where
  go (before : List Char) : List Char → List Char
    | [] => []
    | c :: cs => lowerWithin before cs c ++ go (c :: before) cs

def title (cs : List Char) : List Char :=
  go [] cs
where
  go (before : List Char) : List Char → List Char
    | [] => []
    | c :: cs =>
        (if startsCased before then lowerWithin before cs c else titleChar c) ++
          go (c :: before) cs

end QueryShell.Text
