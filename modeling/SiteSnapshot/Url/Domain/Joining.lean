import SiteSnapshot.Url.Domain.Ranges

/-!
# Joiners and marks in domain names

The two joiners, which are invisible, are accepted where they change how a word is written:
behind a sign that takes away the vowel of a letter, and the non-joiner also between letters
that would be joined without it. No label starts with a mark.
-/

namespace SiteSnapshot.Domain

/-- The characters of each joining class: on both sides, on the left, on the right, and
transparent. -/
def joiningListing : String :=
  "D:620 D:626 D:628 D:62a-62e D:633-63f D:641-647 D:649-64a D:66e-66f D:679-687 D:69a-6bf
D:6c1-6c2 D:6cc D:6ce D:6d0-6d1 D:6fa-6fc D:6ff D:712-714 D:71a-71d D:71f-727 D:729 D:72b
D:72d-72e D:74e-758 D:75c-76a D:76d-770 D:772 D:775-777 D:77a-77f D:7ca-7ea D:841-845 D:848
D:84a-853 D:855 D:860 D:862-865 D:868 D:886 D:889-88d D:88f D:8a0-8a9 D:8af-8b0 D:8b3-8b8
D:8ba-8c8 D:1807 D:1820-1878 D:1887-18a8 D:18aa D:a840-a871 D:10ac0-10ac4 D:10ad3-10ad6
D:10ad8-10adc D:10ade-10ae0 D:10aeb-10aee D:10b80 D:10b82 D:10b86-10b88 D:10b8a-10b8b D:10b8d
D:10b90 D:10bad-10bae D:10d01-10d21 D:10d23 D:10ec3-10ec4 D:10ec6-10eca D:10ed9 D:10f30-10f32
D:10f34-10f44 D:10f51-10f53 D:10f70-10f73 D:10f76-10f81 D:10fb0 D:10fb2-10fb3 D:10fb8
D:10fbb-10fbc D:10fbe-10fbf D:10fc1 D:10fc4 D:10fca D:1e922-1e943 L:a872 L:10acd L:10ad7 L:10d00
L:10fcb R:622-625 R:627 R:629 R:62f-632 R:648 R:671-673 R:688-699 R:6c0 R:6c3-6cb R:6cd R:6cf
R:6d2-6d3 R:6d5 R:6ee-6ef R:710 R:715-719 R:71e R:728 R:72a R:72c R:72f R:74d R:759-75b R:76b-76c
R:771 R:773-774 R:778-779 R:840 R:846-847 R:849 R:854 R:856-858 R:867 R:869-882 R:88e R:8aa-8ac
R:8ae R:8b1-8b2 R:8b9 R:10ac5 R:10ac7 R:10ac9-10aca R:10ace-10ad2 R:10add R:10ae1 R:10ae4 R:10aef
R:10b81 R:10b83-10b85 R:10b89 R:10b8c R:10b8e-10b8f R:10b91 R:10ba9-10bac R:10d22 R:10ec2 R:10f33
R:10f54 R:10f74-10f75 R:10fb4-10fb6 R:10fb9-10fba R:10fbd R:10fc2-10fc3 R:10fc9 T:300-36f
T:483-489 T:591-5bd T:5bf T:5c1-5c2 T:5c4-5c5 T:5c7-5c8 T:610-61a T:64b-65f T:670 T:6d6-6dc
T:6df-6e4 T:6e7-6e8 T:6ea-6ed T:711 T:730-74a T:7a6-7b0 T:7eb-7f3 T:7fd T:816-819 T:81b-823
T:825-827 T:829-82d T:859-85b T:897-89f T:8ca-902 T:93a T:93c T:941-948 T:94d T:951-957 T:962-963
T:981 T:9bc T:9c1-9c4 T:9cd T:9e2-9e3 T:9fe-a02 T:a3c T:a41-a51 T:a70-a71 T:a75 T:a81-a82 T:abc
T:ac1-ac8 T:acd T:ae2-ae3 T:afa-b01 T:b3c T:b3f T:b41-b44 T:b4d-b56 T:b62-b63 T:b82 T:bc0 T:bcd
T:c00 T:c04 T:c3c T:c3e-c40 T:c46-c56 T:c62-c63 T:c81 T:cbc T:cbf T:cc6 T:ccc-ccd T:ce2-ce3
T:d00-d01 T:d3b-d3c T:d41-d44 T:d4d T:d62-d63 T:d81 T:dca T:dd2-dd6 T:e31 T:e34-e3a T:e47-e4e
T:eb1 T:eb4-ebc T:ec8-ece T:f18-f19 T:f35 T:f37 T:f39 T:f71-f7e T:f80-f84 T:f86-f87 T:f8d-fbc
T:fc6 T:102d-1030 T:1032-1037 T:1039-103a T:103d-103e T:1058-1059 T:105e-1060 T:1071-1074 T:1082
T:1085-1086 T:108d T:109d T:135d-135f T:1712-1714 T:1732-1733 T:1752-1753 T:1772-1773 T:17b7-17bd
T:17c6 T:17c9-17d3 T:17dd T:1885-1886 T:18a9 T:1920-1922 T:1927-1928 T:1932 T:1939-193b
T:1a17-1a18 T:1a1b T:1a56 T:1a58-1a60 T:1a62 T:1a65-1a6c T:1a73-1a7f T:1ab0-1b03 T:1b34
T:1b36-1b39 T:1b3c T:1b42 T:1b6b-1b73 T:1b80-1b81 T:1ba2-1ba5 T:1ba8-1ba9 T:1bab-1bad T:1be6
T:1be8-1be9 T:1bed T:1bef-1bf1 T:1c2c-1c33 T:1c36-1c37 T:1cd0-1cd2 T:1cd4-1ce0 T:1ce2-1ce8 T:1ced
T:1cf4 T:1cf8-1cf9 T:1dc0-1dff T:20d0-20f0 T:2cef-2cf1 T:2d7f T:2de0-2dff T:302a-302d T:3099-309a
T:a66f-a672 T:a674-a67d T:a69e-a69f T:a6f0-a6f1 T:a802 T:a806 T:a80b T:a825-a826 T:a82c
T:a8c4-a8c5 T:a8e0-a8f1 T:a8ff T:a926-a92d T:a947-a951 T:a980-a982 T:a9b3 T:a9b6-a9b9 T:a9bc-a9bd
T:a9e5 T:aa29-aa2e T:aa31-aa32 T:aa35-aa36 T:aa43 T:aa4c T:aa7c T:aab0 T:aab2-aab4 T:aab7-aab8
T:aabe-aabf T:aac1 T:aaec-aaed T:aaf6 T:abe5 T:abe8 T:abed T:fb1e T:fe20-fe2f T:101fd T:102e0
T:10376-1037a T:10a01-10a0f T:10a38-10a3f T:10ae5-10ae6 T:10d24-10d27 T:10d69-10d6d T:10eab-10eac
T:10ecb T:10ef0-10eff T:10f46-10f50 T:10f82-10f85 T:11001 T:11038-11046 T:11070 T:11073-11074
T:1107f-11081 T:110b3-110b6 T:110b9-110ba T:110c2 T:11100-11102 T:11127-1112b T:1112d-11134
T:11173 T:11180-11181 T:111b6-111be T:111c9-111cc T:111cf T:1122f-11231 T:11234 T:11236-11237
T:1123e T:11241 T:112df T:112e3-112ea T:11300-11301 T:1133b-1133c T:11340 T:11366-11374
T:113bb-113c0 T:113ce T:113d0 T:113d2 T:113e1-113e2 T:11438-1143f T:11442-11444 T:11446 T:1145e
T:114b3-114b8 T:114ba T:114bf-114c0 T:114c2-114c3 T:115b2-115b5 T:115bc-115bd T:115bf-115c0
T:115dc-115dd T:11633-1163a T:1163d T:1163f-11640 T:116ab T:116ad T:116b0-116b5 T:116b7 T:1171d
T:1171f T:11722-11725 T:11727-1172b T:1182f-11837 T:11839-1183a T:1193b-1193c T:1193e T:11943
T:119d4-119db T:119e0 T:11a01-11a0a T:11a33-11a38 T:11a3b-11a3e T:11a47 T:11a51-11a56
T:11a59-11a5b T:11a8a-11a96 T:11a98-11a99 T:11b60 T:11b62-11b64 T:11b66 T:11c30-11c3d T:11c3f
T:11c92-11ca7 T:11caa-11cb0 T:11cb2-11cb3 T:11cb5-11cb6 T:11d31-11d45 T:11d47 T:11d90-11d91
T:11d95 T:11d97 T:11ef3-11ef4 T:11f00-11f01 T:11f36-11f3a T:11f40 T:11f42 T:11f5a T:13440
T:13447-13455 T:1611e-16129 T:1612d-1612f T:16af0-16af4 T:16b30-16b36 T:16f4f T:16f8f-16f92
T:16fe4 T:1bc9d-1bc9e T:1cf00-1cf46 T:1d167-1d169 T:1d17b-1d182 T:1d185-1d18b T:1d1aa-1d1ad
T:1d242-1d244 T:1da00-1da36 T:1da3b-1da6c T:1da75 T:1da84 T:1da9b-1daaf T:1e000-1e08f
T:1e130-1e136 T:1e2ae T:1e2ec-1e2ef T:1e4ec-1e4ef T:1e5ee-1e5ef T:1e6e3 T:1e6e6 T:1e6ee-1e6ef
T:1e6f5 T:1e8d0-1e8d6 T:1e944-1e94b"

/-- The signs that take away a vowel. -/
def viramaListing : String :=
  "94d 9cd a4d acd b4d bcd c4d ccd d3b-d3c d4d dca e3a eba f84 1039-103a 1714-1715 1734 17d2 1a60
1b44 1baa-1bab 1bf2-1bf3 2d7f a806 a82c a8c4 a953 a9c0 aaf6 abed 10a3f 11046 11070 1107f 110b9
11133-11134 111c0 11235 112ea 1134d 113ce-113d0 11442 114c2 115bf 1163f 116b6 1172b 11839
1193d-1193e 119e0 11a34 11a47 11a99 11c3f 11d44-11d45 11d97 11f41-11f42 1612f"

/-- The marks. -/
def markListing : String :=
  "300-36f 483-489 591-5bd 5bf 5c1-5c2 5c4-5c5 5c7-5c8 610-61a 64b-65f 670 6d6-6dc 6df-6e4 6e7-6e8
6ea-6ed 711 730-74a 7a6-7b0 7eb-7f3 7fd 816-819 81b-823 825-827 829-82d 859-85b 897-89f 8ca-903
93a-93c 93e-94f 951-957 962-963 981-983 9bc 9be-9cd 9d7 9e2-9e3 9fe-a03 a3c-a51 a70-a71 a75
a81-a83 abc abe-acd ae2-ae3 afa-b03 b3c b3e-b57 b62-b63 b82 bbe-bcd bd7 c00-c04 c3c c3e-c56
c62-c63 c81-c83 cbc cbe-cd6 ce2-ce3 cf3-d03 d3b-d3c d3e-d4d d57 d62-d63 d81-d83 dca-ddf df2-df3
e31 e34-e3a e47-e4e eb1 eb4-ebc ec8-ece f18-f19 f35 f37 f39 f3e-f3f f71-f84 f86-f87 f8d-fbc fc6
102b-103e 1056-1059 105e-1060 1062-1064 1067-106d 1071-1074 1082-108d 108f 109a-109d 135d-135f
1712-1715 1732-1734 1752-1753 1772-1773 17b6-17d3 17dd 1885-1886 18a9 1920-193b 1a17-1a1b
1a55-1a7f 1ab0-1b04 1b34-1b44 1b6b-1b73 1b80-1b82 1ba1-1bad 1be6-1bf3 1c24-1c37 1cd0-1cd2
1cd4-1ce8 1ced 1cf4 1cf7-1cf9 1dc0-1dff 20d0-20f0 2cef-2cf1 2d7f 2de0-2dff 302a-302f 3099-309a
a66f-a672 a674-a67d a69e-a69f a6f0-a6f1 a802 a806 a80b a823-a827 a82c a880-a881 a8b4-a8c5
a8e0-a8f1 a8ff a926-a92d a947-a953 a980-a983 a9b3-a9c0 a9e5 aa29-aa36 aa43 aa4c-aa4d aa7b-aa7d
aab0 aab2-aab4 aab7-aab8 aabe-aabf aac1 aaeb-aaef aaf5-aaf6 abe3-abea abec-abed fb1e fe20-fe2f
101fd 102e0 10376-1037a 10a01-10a0f 10a38-10a3f 10ae5-10ae6 10d24-10d27 10d69-10d6d 10eab-10eac
10ecb 10ef0-10eff 10f46-10f50 10f82-10f85 11000-11002 11038-11046 11070 11073-11074 1107f-11082
110b0-110ba 110c2 11100-11102 11127-11134 11145-11146 11173 11180-11182 111b3-111c0 111c9-111cc
111ce-111cf 1122c-11237 1123e 11241 112df-112ea 11300-11303 1133b-1133c 1133e-1134d 11357
11362-11374 113b8-113d0 113d2 113e1-113e2 11435-11446 1145e 114b0-114c3 115af-115c0 115dc-115dd
11630-11640 116ab-116b7 1171d-1172b 1182c-1183a 11930-1193e 11940 11942-11943 119d1-119e0 119e4
11a01-11a0a 11a33-11a39 11a3b-11a3e 11a47 11a51-11a5b 11a8a-11a99 11b60-11b67 11c2f-11c3f
11c92-11cb6 11d31-11d45 11d47 11d8a-11d97 11ef3-11ef6 11f00-11f01 11f03 11f34-11f42 11f5a 13440
13447-13455 1611e-1612f 16af0-16af4 16b30-16b36 16f4f 16f51-16f92 16fe4-16ff1 1bc9d-1bc9e
1cf00-1cf46 1d165-1d169 1d16d-1d182 1d185-1d18b 1d1aa-1d1ad 1d242-1d244 1da00-1da36 1da3b-1da6c
1da75 1da84 1da9b-1daaf 1e000-1e08f 1e130-1e136 1e2ae 1e2ec-1e2ef 1e4ec-1e4ef 1e5ee-1e5ef 1e6e3
1e6e6 1e6ee-1e6ef 1e6f5 1e8d0-1e8d6 1e944-1e94a"

/-- The ranges of the joining classes. -/
def joiningRanges : List (List Char × Nat × Nat) := readClasses joiningListing

/-- The ranges of the vowel-killing signs. -/
def viramaRanges : List (Nat × Nat) := readRanges viramaListing

/-- The ranges of the marks. -/
def markRanges : List (Nat × Nat) := readRanges markListing

/-- The joining class of a character. -/
def joining (c : Char) : String :=
  ((classOf? joiningRanges c).map String.ofList).getD "U"

/-- True for a character that a label cannot start with. -/
def isMark (c : Char) : Bool :=
  inRanges markRanges c

/-- True for the characters before and after a joiner that accept it, those before given
latest first. -/
def acceptsJoiner (joiner : Char) (before after : List Char) : Bool :=
  (before.head?.map (inRanges viramaRanges)).getD false ||
    (joiner == '\u200c' &&
      (((before.map joining).dropWhile (· == "T")).head?.map ["L", "D"].contains).getD false &&
      (((after.map joining).dropWhile (· == "T")).head?.map ["R", "D"].contains).getD false)

/-- True for a label whose joiners are all accepted, behind the characters given latest
first. -/
def acceptsJoiners (before : List Char) : List Char → Bool
  | [] => true
  | c :: rest =>
    (if c == '\u200c' || c == '\u200d' then acceptsJoiner c before rest else true) &&
      acceptsJoiners (c :: before) rest

end SiteSnapshot.Domain
