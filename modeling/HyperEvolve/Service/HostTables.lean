import HyperEvolve.Text.Runs

/-!
# Letters in the names of hosts

What the rules for internationalized names ask about a code point (Unicode 14): whether it may stand
in a name at all, in which direction it is written, how it joins its neighbours, and of which script
it is.
-/

namespace HyperEvolve

namespace HostName

/-- Code points that may stand in a name wherever they are. -/
def allowed : Runs := Runs.ofLines
  ["2d 30-39 61-7a df-f6 f8-ff 101-131/2 135-137/2 138-13e/2 142-148/2 14b-177/2 17a-180/2",
    "183-185/2 188 18c-18d 192 195 199-19b 19e 1a1-1a5/2 1a8-1aa/2 1ab-1ad/2 1b0 1b4-1b6/2",
    "1b9-1bb 1bd-1c3 1ce-1dc/2 1dd-1ef/2 1f0 1f5 1f9-233/2 234-239 23c 23f-240 242 247-24f/2",
    "250-2af 2b9-2c1 2c6-2d1 2ec-2ee/2 300-33f 342 346-34e 350-36f 371-373/2 377 37b-37d 390",
    "3ac-3ce 3d7-3ef/2 3f3 3f8 3fb-3fc 430-45f 461-483/2 484-487 48b-4bf/2 4c2-4ce/2 4cf-52f/2",
    "559 560-586 588 591-5bd 5bf-5c1/2 5c2-5c4/2 5c5-5c7/2 5d0-5ea 5ef-5f2 610-61a 620-63f",
    "641-65f 66e-674 679-6d3 6d5-6dc 6df-6e8 6ea-6ef 6fa-6ff 710-74a 74d-7b1 7c0-7f5 7fd 800-82d",
    "840-85b 860-86a 870-887 889-88e 898-8e1 8e3-957 960-963 966-96f 971-983 985-98c 98f-990",
    "993-9a8 9aa-9b0 9b2 9b6-9b9 9bc-9c4 9c7-9c8 9cb-9ce 9d7 9e0-9e3 9e6-9f1 9fc-9fe/2 a01-a03",
    "a05-a0a a0f-a10 a13-a28 a2a-a30 a32 a35 a38-a39 a3c-a3e/2 a3f-a42 a47-a48 a4b-a4d a51 a5c",
    "a66-a75 a81-a83 a85-a8d a8f-a91 a93-aa8 aaa-ab0 ab2-ab3 ab5-ab9 abc-ac5 ac7-ac9 acb-acd ad0",
    "ae0-ae3 ae6-aef af9-aff b01-b03 b05-b0c b0f-b10 b13-b28 b2a-b30 b32-b33 b35-b39 b3c-b44",
    "b47-b48 b4b-b4d b55-b57 b5f-b63 b66-b6f b71 b82-b83 b85-b8a b8e-b90 b92-b95 b99-b9a",
    "b9c-b9e/2 b9f ba3-ba4 ba8-baa bae-bb9 bbe-bc2 bc6-bc8 bca-bcd bd0 bd7 be6-bef c00-c0c",
    "c0e-c10 c12-c28 c2a-c39 c3c-c44 c46-c48 c4a-c4d c55-c56 c58-c5a c5d c60-c63 c66-c6f c80-c83",
    "c85-c8c c8e-c90 c92-ca8 caa-cb3 cb5-cb9 cbc-cc4 cc6-cc8 cca-ccd cd5-cd6 cdd-cde ce0-ce3",
    "ce6-cef cf1-cf2 d00-d0c d0e-d10 d12-d44 d46-d48 d4a-d4e d54-d57 d5f-d63 d66-d6f d7a-d7f",
    "d81-d83 d85-d96 d9a-db1 db3-dbb dbd dc0-dc6 dca dcf-dd4 dd6-dd8/2 dd9-ddf de6-def df2-df3",
    "e01-e32 e34-e3a e40-e4e e50-e59 e81-e82 e84-e86/2 e87-e8a e8c-ea3 ea5-ea7/2 ea8-eb2 eb4-ebd",
    "ec0-ec4 ec6-ec8/2 ec9-ecd ed0-ed9 ede-edf f00 f0b f18-f19 f20-f29 f35-f39/2 f3e-f42 f44-f47",
    "f49-f4c f4e-f51 f53-f56 f58-f5b f5d-f68 f6a-f6c f71-f72 f74 f7a-f80 f82-f84 f86-f92 f94-f97",
    "f99-f9c f9e-fa1 fa3-fa6 fa8-fab fad-fb8 fba-fbc fc6 1000-1049 1050-109d 10d0-10fa 10fd-10ff",
    "1200-1248 124a-124d 1250-1256 1258-125a/2 125b-125d 1260-1288 128a-128d 1290-12b0 12b2-12b5",
    "12b8-12be 12c0-12c2/2 12c3-12c5 12c8-12d6 12d8-1310 1312-1315 1318-135a 135d-135f 1380-138f",
    "13a0-13f5 1401-166c 166f-167f 1681-169a 16a0-16ea 16f1-16f8 1700-1715 171f-1734 1740-1753",
    "1760-176c 176e-1770 1772-1773 1780-17b3 17b6-17d3 17d7 17dc-17dd 17e0-17e9 1810-1819",
    "1820-1878 1880-18aa 18b0-18f5 1900-191e 1920-192b 1930-193b 1946-196d 1970-1974 1980-19ab",
    "19b0-19c9 19d0-19d9 1a00-1a1b 1a20-1a5e 1a60-1a7c 1a7f-1a89 1a90-1a99 1aa7 1ab0-1abd",
    "1abf-1ace 1b00-1b4c 1b50-1b59 1b6b-1b73 1b80-1bf3 1c00-1c37 1c40-1c49 1c4d-1c7d 1cd0-1cd2",
    "1cd4-1cfa 1d00-1d2b 1d2f 1d3b 1d4e 1d6b-1d77 1d79-1d9a 1dc0-1dff 1e01-1e95/2 1e96-1e99",
    "1e9c-1e9d 1e9f-1eff/2 1f00-1f07 1f10-1f15 1f20-1f27 1f30-1f37 1f40-1f45 1f50-1f57 1f60-1f67",
    "1f70-1f7c/2 1fb0-1fb1 1fb6 1fc6 1fd0-1fd2 1fd6-1fd7 1fe0-1fe2 1fe4-1fe7 1ff6 214e 2184",
    "2c30-2c5f 2c61 2c65-2c66 2c68-2c6c/2 2c71-2c73/2 2c74-2c76/2 2c77-2c7b 2c81-2ce3/2 2ce4",
    "2cec-2cee/2 2cef-2cf1 2cf3 2d00-2d25 2d27 2d2d 2d30-2d67 2d7f-2d96 2da0-2da6 2da8-2dae",
    "2db0-2db6 2db8-2dbe 2dc0-2dc6 2dc8-2dce 2dd0-2dd6 2dd8-2dde 2de0-2dff 2e2f 3005-3007",
    "302a-302d 303c 3041-3096 3099-309a 309d-309e 30a1-30fa 30fc-30fe 3105-312f 31a0-31bf",
    "31f0-31ff 3400-4dbf 4e00-a48c a4d0-a4fd a500-a60c a610-a62b a641-a66d/2 a66e-a66f a674-a67d",
    "a67f-a69b/2 a69e-a6e5 a6f0-a6f1 a717-a71f a723-a72f/2 a730-a731 a733-a771/2 a772-a778",
    "a77a-a77c/2 a77f-a787/2 a788 a78c-a78e/2 a78f-a793/2 a794-a795 a797-a7a9/2 a7af a7b5-a7c3/2",
    "a7c8-a7ca/2 a7d1-a7d9/2 a7f6-a7f7 a7fa-a827 a82c a840-a873 a880-a8c5 a8d0-a8d9",
    "a8e0-a8f7 a8fb-a8fd/2 a8fe-a92d a930-a953 a980-a9c0 a9cf-a9d9 a9e0-a9fe aa00-aa36 aa40-aa4d",
    "aa50-aa59 aa60-aa76 aa7a-aac2 aadb-aadd aae0-aaef aaf2-aaf6 ab01-ab06 ab09-ab0e ab11-ab16",
    "ab20-ab26 ab28-ab2e ab30-ab5a ab60-ab68 abc0-abea abec-abed abf0-abf9 ac00-d7a3 fa0e-fa0f",
    "fa11-fa13/2 fa14 fa1f-fa23/2 fa24 fa27-fa29 fb1e fe20-fe2f fe73 10000-1000b 1000d-10026",
    "10028-1003a 1003c-1003d 1003f-1004d 10050-1005d 10080-100fa 101fd 10280-1029c 102a0-102d0",
    "102e0 10300-1031f 1032d-10340 10342-10349 10350-1037a 10380-1039d 103a0-103c3 103c8-103cf",
    "10428-1049d 104a0-104a9 104d8-104fb 10500-10527 10530-10563 10597-105a1 105a3-105b1",
    "105b3-105b9 105bb-105bc 10600-10736 10740-10755 10760-10767 10780",
    "10800-10805 10808-1080a/2 1080b-10835 10837-10838 1083c 1083f-10855 10860-10876",
    "10880-1089e 108e0-108f2 108f4-108f5 10900-10915 10920-10939 10980-109b7 109be-109bf",
    "10a00-10a03 10a05-10a06 10a0c-10a13 10a15-10a17 10a19-10a35 10a38-10a3a 10a3f 10a60-10a7c",
    "10a80-10a9c 10ac0-10ac7 10ac9-10ae6 10b00-10b35 10b40-10b55 10b60-10b72 10b80-10b91",
    "10c00-10c48 10cc0-10cf2 10d00-10d27 10d30-10d39 10e80-10ea9 10eab-10eac 10eb0-10eb1",
    "10f00-10f1c 10f27 10f30-10f50 10f70-10f85 10fb0-10fc4 10fe0-10ff6 11000-11046 11066-11075",
    "1107f-110ba 110c2 110d0-110e8 110f0-110f9 11100-11134 11136-1113f 11144-11147 11150-11173",
    "11176 11180-111c4 111c9-111cc 111ce-111da 111dc 11200-11211 11213-11237 1123e 11280-11286",
    "11288-1128a/2 1128b-1128d 1128f-1129d 1129f-112a8 112b0-112ea 112f0-112f9 11300-11303",
    "11305-1130c 1130f-11310 11313-11328 1132a-11330 11332-11333 11335-11339 1133b-11344",
    "11347-11348 1134b-1134d 11350 11357 1135d-11363 11366-1136c 11370-11374 11400-1144a",
    "11450-11459 1145e-11461 11480-114c5 114c7 114d0-114d9 11580-115b5 115b8-115c0 115d8-115dd",
    "11600-11640 11644 11650-11659 11680-116b8 116c0-116c9 11700-1171a 1171d-1172b 11730-11739",
    "11740-11746 11800-1183a 118c0-118e9 118ff-11906 11909 1190c-11913 11915-11916 11918-11935",
    "11937-11938 1193b-11943 11950-11959 119a0-119a7 119aa-119d7 119da-119e1 119e3-119e4",
    "11a00-11a3e 11a47 11a50-11a99 11a9d 11ab0-11af8 11c00-11c08 11c0a-11c36 11c38-11c40",
    "11c50-11c59 11c72-11c8f 11c92-11ca7 11ca9-11cb6 11d00-11d06 11d08-11d09 11d0b-11d36",
    "11d3a-11d3c/2 11d3d-11d3f/2 11d40-11d47 11d50-11d59 11d60-11d65 11d67-11d68 11d6a-11d8e",
    "11d90-11d91 11d93-11d98 11da0-11da9 11ee0-11ef6 11fb0 12000-12399 12480-12543 12f90-12ff0",
    "13000-1342e 14400-14646 16800-16a38 16a40-16a5e 16a60-16a69 16a70-16abe 16ac0-16ac9",
    "16ad0-16aed 16af0-16af4 16b00-16b36 16b40-16b43 16b50-16b59 16b63-16b77 16b7d-16b8f",
    "16e60-16e7f 16f00-16f4a 16f4f-16f87 16f8f-16f9f 16fe0-16fe1 16fe3-16fe4 16ff0-16ff1",
    "17000-187f7 18800-18cd5 18d00-18d08 1aff0-1aff3 1aff5-1affb 1affd-1affe 1b000-1b122",
    "1b150-1b152 1b164-1b167 1b170-1b2fb 1bc00-1bc6a 1bc70-1bc7c 1bc80-1bc88 1bc90-1bc99",
    "1bc9d-1bc9e 1cf00-1cf2d 1cf30-1cf46 1da00-1da36 1da3b-1da6c 1da75 1da84 1da9b-1da9f",
    "1daa1-1daaf 1df00-1df1e 1e000-1e006 1e008-1e018 1e01b-1e021 1e023-1e024 1e026-1e02a",
    "1e100-1e12c 1e130-1e13d 1e140-1e149 1e14e 1e290-1e2ae 1e2c0-1e2f9 1e7e0-1e7e6 1e7e8-1e7eb",
    "1e7ed-1e7ee 1e7f0-1e7fe 1e800-1e8c4 1e8d0-1e8d6 1e922-1e94b 1e950-1e959 20000-2a6df",
    "2a700-2b738 2b740-2b81d 2b820-2cea1 2ceb0-2ebe0 30000-3134a"]

/-- Marks, which do not begin a name. -/
def marks : Runs := Runs.ofLines
  ["300-33f 342 346-34e 350-36f 483-487 591-5bd 5bf 5c1-5c2 5c4-5c5 5c7 610-61a 64b-65f 670",
    "6d6-6dc 6df-6e4 6e7-6e8 6ea-6ed 711 730-74a 7a6-7b0 7eb-7f3 7fd 816-819 81b-823 825-827",
    "829-82d 859-85b 898-89f 8ca-8e1 8e3-903 93a-93c 93e-94f 951-957 962-963 981-983 9bc 9be-9c4",
    "9c7-9c8 9cb-9cd 9d7 9e2-9e3 9fe a01-a03 a3c a3e-a42 a47-a48 a4b-a4d a51 a70-a71 a75 a81-a83",
    "abc abe-ac5 ac7-ac9 acb-acd ae2-ae3 afa-aff b01-b03 b3c b3e-b44 b47-b48 b4b-b4d b55-b57",
    "b62-b63 b82 bbe-bc2 bc6-bc8 bca-bcd bd7 c00-c04 c3c c3e-c44 c46-c48 c4a-c4d c55-c56 c62-c63",
    "c81-c83 cbc cbe-cc4 cc6-cc8 cca-ccd cd5-cd6 ce2-ce3 d00-d03 d3b-d3c d3e-d44 d46-d48 d4a-d4d",
    "d57 d62-d63 d81-d83 dca dcf-dd4 dd6 dd8-ddf df2-df3 e31 e34-e3a e47-e4e eb1 eb4-ebc ec8-ecd",
    "f18-f19 f35 f37 f39 f3e-f3f f71-f72 f74 f7a-f80 f82-f84 f86-f87 f8d-f92 f94-f97 f99-f9c",
    "f9e-fa1 fa3-fa6 fa8-fab fad-fb8 fba-fbc fc6 102b-103e 1056-1059 105e-1060 1062-1064",
    "1067-106d 1071-1074 1082-108d 108f 109a-109d 135d-135f 1712-1715 1732-1734 1752-1753",
    "1772-1773 17b6-17d3 17dd 1885-1886 18a9 1920-192b 1930-193b 1a17-1a1b 1a55-1a5e 1a60-1a7c",
    "1a7f 1ab0-1abd 1abf-1ace 1b00-1b04 1b34-1b44 1b6b-1b73 1b80-1b82 1ba1-1bad 1be6-1bf3",
    "1c24-1c37 1cd0-1cd2 1cd4-1ce8 1ced 1cf4 1cf7-1cf9 1dc0-1dff 2cef-2cf1 2d7f 2de0-2dff",
    "302a-302d 3099-309a a66f a674-a67d a69e-a69f a6f0-a6f1 a802 a806 a80b a823-a827 a82c",
    "a880-a881 a8b4-a8c5 a8e0-a8f1 a8ff a926-a92d a947-a953 a980-a983 a9b3-a9c0 a9e5 aa29-aa36",
    "aa43 aa4c-aa4d aa7b-aa7d aab0 aab2-aab4 aab7-aab8 aabe-aabf aac1 aaeb-aaef aaf5-aaf6",
    "abe3-abea abec-abed fb1e fe20-fe2f 101fd 102e0 10376-1037a 10a01-10a03 10a05-10a06",
    "10a0c-10a0f 10a38-10a3a 10a3f 10ae5-10ae6 10d24-10d27 10eab-10eac 10f46-10f50 10f82-10f85",
    "11000-11002 11038-11046 11070 11073-11074 1107f-11082 110b0-110ba 110c2 11100-11102",
    "11127-11134 11145-11146 11173 11180-11182 111b3-111c0 111c9-111cc 111ce-111cf 1122c-11237",
    "1123e 112df-112ea 11300-11303 1133b-1133c 1133e-11344 11347-11348 1134b-1134d 11357",
    "11362-11363 11366-1136c 11370-11374 11435-11446 1145e 114b0-114c3 115af-115b5 115b8-115c0",
    "115dc-115dd 11630-11640 116ab-116b7 1171d-1172b 1182c-1183a 11930-11935 11937-11938",
    "1193b-1193e 11940 11942-11943 119d1-119d7 119da-119e0 119e4 11a01-11a0a 11a33-11a39",
    "11a3b-11a3e 11a47 11a51-11a5b 11a8a-11a99 11c2f-11c36 11c38-11c3f 11c92-11ca7 11ca9-11cb6",
    "11d31-11d36 11d3a 11d3c-11d3d 11d3f-11d45 11d47 11d8a-11d8e 11d90-11d91 11d93-11d97",
    "11ef3-11ef6 16af0-16af4 16b30-16b36 16f4f 16f51-16f87 16f8f-16f92 16fe4 16ff0-16ff1",
    "1bc9d-1bc9e 1cf00-1cf2d 1cf30-1cf46 1da00-1da36 1da3b-1da6c 1da75 1da84 1da9b-1da9f",
    "1daa1-1daaf 1e000-1e006 1e008-1e018 1e01b-1e021 1e023-1e024 1e026-1e02a 1e130-1e136 1e2ae",
    "1e2ec-1e2ef 1e8d0-1e8d6 1e944-1e94a"]

inductive Direction where
  | left
  | right
  | arabicLetter
  | arabicNumber
  | number
  | separator
  | mark
  | neutral
deriving DecidableEq, Repr

/-- Directions other than from left to right, by number: right, Arabic letters, Arabic numbers,
numbers, separators of numbers, marks. -/
def directions : Runs := Runs.ofLines
  ["2d=5 30-39=4 b7=7 2b9-2ba=7 2c6-2cf=7 2ec=7 300-33f=6 342=6 346-34e=6 350-36f=6 375=7",
    "483-487=6 591-5bd=6 5bf=6 5c1-5c2=6 5c4-5c5=6 5c7=6 5d0-5ea=1 5ef-5f4=1 610-61a=6 620-63f=2",
    "641-64a=2 64b-65f=6 660-669=3 66e-66f=2 670=6 671-674=2 679-6d3=2 6d5=2 6d6-6dc=6 6df-6e4=6",
    "6e5-6e6=2 6e7-6e8=6 6ea-6ed=6 6ee-6ef=2 6f0-6f9=4 6fa-6ff=2 710=2 711=6 712-72f=2 730-74a=6",
    "74d-7a5=2 7a6-7b0=6 7b1=2 7c0-7ea=1 7eb-7f3=6 7f4-7f5=1 7fd=6 800-815=1 816-819=6 81a=1",
    "81b-823=6 824=1 825-827=6 828=1 829-82d=6 840-858=1 859-85b=6 860-86a=2 870-887=2 889-88e=2",
    "898-89f=6 8a0-8c9=2 8ca-8e1=6 8e3-902=6 93a=6 93c=6 941-948=6 94d=6 951-957=6 962-963=6",
    "981=6 9bc=6 9c1-9c4=6 9cd=6 9e2-9e3=6 9fe=6 a01-a02=6 a3c=6 a41-a42=6 a47-a48=6 a4b-a4d=6",
    "a51=6 a70-a71=6 a75=6 a81-a82=6 abc=6 ac1-ac5=6 ac7-ac8=6 acd=6 ae2-ae3=6 afa-aff=6 b01=6",
    "b3c=6 b3f=6 b41-b44=6 b4d=6 b55-b56=6 b62-b63=6 b82=6 bc0=6 bcd=6 c00=6 c04=6 c3c=6",
    "c3e-c40=6 c46-c48=6 c4a-c4d=6 c55-c56=6 c62-c63=6 c81=6 cbc=6 ccc-ccd=6 ce2-ce3=6 d00-d01=6",
    "d3b-d3c=6 d41-d44=6 d4d=6 d62-d63=6 d81=6 dca=6 dd2-dd4=6 dd6=6 e31=6 e34-e3a=6 e47-e4e=6",
    "eb1=6 eb4-ebc=6 ec8-ecd=6 f18-f19=6 f35=6 f37=6 f39=6 f71-f72=6 f74=6 f7a-f7e=6 f80=6",
    "f82-f84=6 f86-f87=6 f8d-f92=6 f94-f97=6 f99-f9c=6 f9e-fa1=6 fa3-fa6=6 fa8-fab=6 fad-fb8=6",
    "fba-fbc=6 fc6=6 102d-1030=6 1032-1037=6 1039-103a=6 103d-103e=6 1058-1059=6 105e-1060=6",
    "1071-1074=6 1082=6 1085-1086=6 108d=6 109d=6 135d-135f=6 1712-1714=6 1732-1733=6 1752-1753=6",
    "1772-1773=6 17b7-17bd=6 17c6=6 17c9-17d3=6 17dd=6 1885-1886=6 18a9=6 1920-1922=6 1927-1928=6",
    "1932=6 1939-193b=6 1a17-1a18=6 1a1b=6 1a56=6 1a58-1a5e=6 1a60=6 1a62=6 1a65-1a6c=6",
    "1a73-1a7c=6 1a7f=6 1ab0-1abd=6 1abf-1ace=6 1b00-1b03=6 1b34=6 1b36-1b3a=6 1b3c=6 1b42=6",
    "1b6b-1b73=6 1b80-1b81=6 1ba2-1ba5=6 1ba8-1ba9=6 1bab-1bad=6 1be6=6 1be8-1be9=6 1bed=6",
    "1bef-1bf1=6 1c2c-1c33=6 1c36-1c37=6 1cd0-1cd2=6 1cd4-1ce0=6 1ce2-1ce8=6 1ced=6 1cf4=6",
    "1cf8-1cf9=6 1dc0-1dff=6 200c-200d=7 2cef-2cf1=6 2d7f=6 2de0-2dff=6 2e2f=7 302a-302d=6",
    "3099-309a=6 30fb=7 a66f=6 a674-a67d=6 a67f=7 a69e-a69f=6 a6f0-a6f1=6 a717-a71f=7 a788=7",
    "a802=6 a806=6 a80b=6 a825-a826=6 a82c=6 a8c4-a8c5=6 a8e0-a8f1=6 a8ff=6 a926-a92d=6",
    "a947-a951=6 a980-a982=6 a9b3=6 a9b6-a9b9=6 a9bc-a9bd=6 a9e5=6 aa29-aa2e=6 aa31-aa32=6",
    "aa35-aa36=6 aa43=6 aa4c=6 aa7c=6 aab0=6 aab2-aab4=6 aab7-aab8=6 aabe-aabf=6 aac1=6",
    "aaec-aaed=6 aaf6=6 abe5=6 abe8=6 abed=6 fb1e=6 fe20-fe2f=6 fe73=2 101fd=6 102e0=6",
    "10376-1037a=6 10800-10805=1 10808=1 1080a-10835=1 10837-10838=1 1083c=1 1083f-10855=1",
    "10860-10876=1 10880-1089e=1 108e0-108f2=1 108f4-108f5=1 10900-10915=1 10920-10939=1",
    "10980-109b7=1 109be-109bf=1 10a00=1 10a01-10a03=6 10a05-10a06=6 10a0c-10a0f=6 10a10-10a13=1",
    "10a15-10a17=1 10a19-10a35=1 10a38-10a3a=6 10a3f=6 10a60-10a7c=1 10a80-10a9c=1 10ac0-10ac7=1",
    "10ac9-10ae4=1 10ae5-10ae6=6 10b00-10b35=1 10b40-10b55=1 10b60-10b72=1 10b80-10b91=1",
    "10c00-10c48=1 10cc0-10cf2=1 10d00-10d23=2 10d24-10d27=6 10d30-10d39=3 10e80-10ea9=1",
    "10eab-10eac=6 10eb0-10eb1=1 10f00-10f1c=1 10f27=1 10f30-10f45=2 10f46-10f50=6 10f70-10f81=1",
    "10f82-10f85=6 10fb0-10fc4=1 10fe0-10ff6=1 11001=6 11038-11046=6 11070=6 11073-11074=6",
    "1107f-11081=6 110b3-110b6=6 110b9-110ba=6 110c2=6 11100-11102=6 11127-1112b=6 1112d-11134=6",
    "11173=6 11180-11181=6 111b6-111be=6 111c9-111cc=6 111cf=6 1122f-11231=6 11234=6",
    "11236-11237=6 1123e=6 112df=6 112e3-112ea=6 11300-11301=6 1133b-1133c=6 11340=6",
    "11366-1136c=6 11370-11374=6 11438-1143f=6 11442-11444=6 11446=6 1145e=6 114b3-114b8=6",
    "114ba=6 114bf-114c0=6 114c2-114c3=6 115b2-115b5=6 115bc-115bd=6 115bf-115c0=6 115dc-115dd=6",
    "11633-1163a=6 1163d=6 1163f-11640=6 116ab=6 116ad=6 116b0-116b5=6 116b7=6 1171d-1171f=6",
    "11722-11725=6 11727-1172b=6 1182f-11837=6 11839-1183a=6 1193b-1193c=6 1193e=6 11943=6",
    "119d4-119d7=6 119da-119db=6 119e0=6 11a01-11a06=6 11a09-11a0a=6 11a33-11a38=6 11a3b-11a3e=6",
    "11a47=6 11a51-11a56=6 11a59-11a5b=6 11a8a-11a96=6 11a98-11a99=6 11c30-11c36=6 11c38-11c3d=6",
    "11c92-11ca7=6 11caa-11cb0=6 11cb2-11cb3=6 11cb5-11cb6=6 11d31-11d36=6 11d3a=6 11d3c-11d3d=6",
    "11d3f-11d45=6 11d47=6 11d90-11d91=6 11d95=6 11d97=6 11ef3-11ef4=6 16af0-16af4=6",
    "16b30-16b36=6 16f4f=6 16f8f-16f92=6 16fe4=6 1bc9d-1bc9e=6 1cf00-1cf2d=6 1cf30-1cf46=6",
    "1da00-1da36=6 1da3b-1da6c=6 1da75=6 1da84=6 1da9b-1da9f=6 1daa1-1daaf=6 1e000-1e006=6",
    "1e008-1e018=6 1e01b-1e021=6 1e023-1e024=6 1e026-1e02a=6 1e130-1e136=6 1e2ae=6 1e2ec-1e2ef=6",
    "1e800-1e8c4=1 1e8d0-1e8d6=6 1e922-1e943=1 1e944-1e94a=6 1e94b=1 1e950-1e959=1"]

def direction (n : Nat) : Direction :=
  match (directions.value? n).getD 0 with
  | 0 => .left
  | 1 => .right
  | 2 => .arabicLetter
  | 3 => .arabicNumber
  | 4 => .number
  | 5 => .separator
  | 6 => .mark
  | _ => .neutral

inductive Joining where
  | none
  | transparent
  | dual
  | right
  | left
deriving DecidableEq, Repr

/-- How letters join, by number: not at all for others, transparent, on both sides, to the right, to
the left. -/
def joinings : Runs := Runs.ofLines
  ["300-33f=1 342=1 346-34e=1 350-36f=1 483-487=1 591-5bd=1 5bf=1 5c1-5c2=1 5c4-5c5=1 5c7=1",
    "610-61a=1 620=2 622-625=3 626=2 627=3 628=2 629=3 62a-62e=2 62f-632=3 633-63f=2 641-647=2",
    "648=3 649-64a=2 64b-65f=1 66e-66f=2 670=1 671-673=3 679-687=2 688-699=3 69a-6bf=2 6c0=3",
    "6c1-6c2=2 6c3-6cb=3 6cc=2 6cd=3 6ce=2 6cf=3 6d0-6d1=2 6d2-6d3=3 6d5=3 6d6-6dc=1 6df-6e4=1",
    "6e7-6e8=1 6ea-6ed=1 6ee-6ef=3 6fa-6fc=2 6ff=2 710=3 711=1 712-714=2 715-719=3 71a-71d=2",
    "71e=3 71f-727=2 728=3 729=2 72a=3 72b=2 72c=3 72d-72e=2 72f=3 730-74a=1 74d=3 74e-758=2",
    "759-75b=3 75c-76a=2 76b-76c=3 76d-770=2 771=3 772=2 773-774=3 775-777=2 778-779=3 77a-77f=2",
    "7a6-7b0=1 7ca-7ea=2 7eb-7f3=1 7fd=1 816-819=1 81b-823=1 825-827=1 829-82d=1 840=3 841-845=2",
    "846-847=3 848=2 849=3 84a-853=2 854=3 855=2 856-858=3 859-85b=1 860=2 862-865=2 867=3 868=2",
    "869-86a=3 870-882=3 886=2 889-88d=2 88e=3 898-89f=1 8a0-8a9=2 8aa-8ac=3 8ae=3 8af-8b0=2",
    "8b1-8b2=3 8b3-8b8=2 8b9=3 8ba-8c8=2 8ca-8e1=1 8e3-902=1 93a=1 93c=1 941-948=1 94d=1",
    "951-957=1 962-963=1 981=1 9bc=1 9c1-9c4=1 9cd=1 9e2-9e3=1 9fe=1 a01-a02=1 a3c=1 a41-a42=1",
    "a47-a48=1 a4b-a4d=1 a51=1 a70-a71=1 a75=1 a81-a82=1 abc=1 ac1-ac5=1 ac7-ac8=1 acd=1",
    "ae2-ae3=1 afa-aff=1 b01=1 b3c=1 b3f=1 b41-b44=1 b4d=1 b55-b56=1 b62-b63=1 b82=1 bc0=1 bcd=1",
    "c00=1 c04=1 c3c=1 c3e-c40=1 c46-c48=1 c4a-c4d=1 c55-c56=1 c62-c63=1 c81=1 cbc=1 cbf=1 cc6=1",
    "ccc-ccd=1 ce2-ce3=1 d00-d01=1 d3b-d3c=1 d41-d44=1 d4d=1 d62-d63=1 d81=1 dca=1 dd2-dd4=1",
    "dd6=1 e31=1 e34-e3a=1 e47-e4e=1 eb1=1 eb4-ebc=1 ec8-ecd=1 f18-f19=1 f35=1 f37=1 f39=1",
    "f71-f72=1 f74=1 f7a-f7e=1 f80=1 f82-f84=1 f86-f87=1 f8d-f92=1 f94-f97=1 f99-f9c=1 f9e-fa1=1",
    "fa3-fa6=1 fa8-fab=1 fad-fb8=1 fba-fbc=1 fc6=1 102d-1030=1 1032-1037=1 1039-103a=1",
    "103d-103e=1 1058-1059=1 105e-1060=1 1071-1074=1 1082=1 1085-1086=1 108d=1 109d=1 135d-135f=1",
    "1712-1714=1 1732-1733=1 1752-1753=1 1772-1773=1 17b7-17bd=1 17c6=1 17c9-17d3=1 17dd=1",
    "1820-1878=2 1885-1886=1 1887-18a8=2 18a9=1 18aa=2 1920-1922=1 1927-1928=1 1932=1 1939-193b=1",
    "1a17-1a18=1 1a1b=1 1a56=1 1a58-1a5e=1 1a60=1 1a62=1 1a65-1a6c=1 1a73-1a7c=1 1a7f=1",
    "1ab0-1abd=1 1abf-1ace=1 1b00-1b03=1 1b34=1 1b36-1b3a=1 1b3c=1 1b42=1 1b6b-1b73=1 1b80-1b81=1",
    "1ba2-1ba5=1 1ba8-1ba9=1 1bab-1bad=1 1be6=1 1be8-1be9=1 1bed=1 1bef-1bf1=1 1c2c-1c33=1",
    "1c36-1c37=1 1cd0-1cd2=1 1cd4-1ce0=1 1ce2-1ce8=1 1ced=1 1cf4=1 1cf8-1cf9=1 1dc0-1dff=1",
    "2cef-2cf1=1 2d7f=1 2de0-2dff=1 302a-302d=1 3099-309a=1 a66f=1 a674-a67d=1 a69e-a69f=1",
    "a6f0-a6f1=1 a802=1 a806=1 a80b=1 a825-a826=1 a82c=1 a840-a871=2 a872=4 a8c4-a8c5=1",
    "a8e0-a8f1=1 a8ff=1 a926-a92d=1 a947-a951=1 a980-a982=1 a9b3=1 a9b6-a9b9=1 a9bc-a9bd=1 a9e5=1",
    "aa29-aa2e=1 aa31-aa32=1 aa35-aa36=1 aa43=1 aa4c=1 aa7c=1 aab0=1 aab2-aab4=1 aab7-aab8=1",
    "aabe-aabf=1 aac1=1 aaec-aaed=1 aaf6=1 abe5=1 abe8=1 abed=1 fb1e=1 fe20-fe2f=1 101fd=1",
    "102e0=1 10376-1037a=1 10a01-10a03=1 10a05-10a06=1 10a0c-10a0f=1 10a38-10a3a=1 10a3f=1",
    "10ac0-10ac4=2 10ac5=3 10ac7=3 10ac9-10aca=3 10acd=4 10ace-10ad2=3 10ad3-10ad6=2 10ad7=4",
    "10ad8-10adc=2 10add=3 10ade-10ae0=2 10ae1=3 10ae4=3 10ae5-10ae6=1 10b80=2 10b81=3 10b82=2",
    "10b83-10b85=3 10b86-10b88=2 10b89=3 10b8a-10b8b=2 10b8c=3 10b8d=2 10b8e-10b8f=3 10b90=2",
    "10b91=3 10d00=4 10d01-10d21=2 10d22=3 10d23=2 10d24-10d27=1 10eab-10eac=1 10f30-10f32=2",
    "10f33=3 10f34-10f44=2 10f46-10f50=1 10f70-10f73=2 10f74-10f75=3 10f76-10f81=2 10f82-10f85=1",
    "10fb0=2 10fb2-10fb3=2 10fb4-10fb6=3 10fb8=2 10fb9-10fba=3 10fbb-10fbc=2 10fbd=3",
    "10fbe-10fbf=2 10fc1=2 10fc2-10fc3=3 10fc4=2 11001=1 11038-11046=1 11070=1 11073-11074=1",
    "1107f-11081=1 110b3-110b6=1 110b9-110ba=1 110c2=1 11100-11102=1 11127-1112b=1 1112d-11134=1",
    "11173=1 11180-11181=1 111b6-111be=1 111c9-111cc=1 111cf=1 1122f-11231=1 11234=1",
    "11236-11237=1 1123e=1 112df=1 112e3-112ea=1 11300-11301=1 1133b-1133c=1 11340=1",
    "11366-1136c=1 11370-11374=1 11438-1143f=1 11442-11444=1 11446=1 1145e=1 114b3-114b8=1",
    "114ba=1 114bf-114c0=1 114c2-114c3=1 115b2-115b5=1 115bc-115bd=1 115bf-115c0=1 115dc-115dd=1",
    "11633-1163a=1 1163d=1 1163f-11640=1 116ab=1 116ad=1 116b0-116b5=1 116b7=1 1171d=1 1171f=1",
    "11722-11725=1 11727-1172b=1 1182f-11837=1 11839-1183a=1 1193b-1193c=1 1193e=1 11943=1",
    "119d4-119d7=1 119da-119db=1 119e0=1 11a01-11a0a=1 11a33-11a38=1 11a3b-11a3e=1 11a47=1",
    "11a51-11a56=1 11a59-11a5b=1 11a8a-11a96=1 11a98-11a99=1 11c30-11c36=1 11c38-11c3d=1 11c3f=1",
    "11c92-11ca7=1 11caa-11cb0=1 11cb2-11cb3=1 11cb5-11cb6=1 11d31-11d36=1 11d3a=1 11d3c-11d3d=1",
    "11d3f-11d45=1 11d47=1 11d90-11d91=1 11d95=1 11d97=1 11ef3-11ef4=1 16af0-16af4=1",
    "16b30-16b36=1 16f4f=1 16f8f-16f92=1 16fe4=1 1bc9d-1bc9e=1 1cf00-1cf2d=1 1cf30-1cf46=1",
    "1da00-1da36=1 1da3b-1da6c=1 1da75=1 1da84=1 1da9b-1da9f=1 1daa1-1daaf=1 1e000-1e006=1",
    "1e008-1e018=1 1e01b-1e021=1 1e023-1e024=1 1e026-1e02a=1 1e130-1e136=1 1e2ae=1 1e2ec-1e2ef=1",
    "1e8d0-1e8d6=1 1e922-1e943=2 1e944-1e94b=1"]

def joining (n : Nat) : Joining :=
  match (joinings.value? n).getD 0 with
  | 0 => .none
  | 1 => .transparent
  | 2 => .dual
  | 3 => .right
  | _ => .left

inductive Script where
  | greek
  | hebrew
  | kanaOrHan
deriving DecidableEq, Repr

/-- Scripts that some code points need around them, by number. -/
def scripts : Runs := Runs.ofLines
  ["371=1 373=1 375=1 377=1 37b-37d=1 390=1 3ac-3ce=1 3d7=1 3d9=1 3db=1 3dd=1 3df=1 3e1=1 3f3=1",
    "3f8=1 3fb-3fc=1 591-5bd=2 5bf=2 5c1-5c2=2 5c4-5c5=2 5c7=2 5d0-5ea=2 5ef-5f4=2 1d26-1d2a=1",
    "1f00-1f07=1 1f10-1f15=1 1f20-1f27=1 1f30-1f37=1 1f40-1f45=1 1f50-1f57=1 1f60-1f67=1 1f70=1",
    "1f72=1 1f74=1 1f76=1 1f78=1 1f7a=1 1f7c=1 1fb0-1fb1=1 1fb6=1 1fc6=1 1fd0-1fd2=1 1fd6-1fd7=1",
    "1fe0-1fe2=1 1fe4-1fe7=1 1ff6=1 3005=3 3007=3 3041-3096=3 309d-309e=3 30a1-30fa=3 30fd-30fe=3",
    "31f0-31ff=3 3400-4dbf=3 4e00-9fff=3 ab65=1 fa0e-fa0f=3 fa11=3 fa13-fa14=3 fa1f=3 fa21=3",
    "fa23-fa24=3 fa27-fa29=3 fb1e=2 16fe3=3 16ff0-16ff1=3 1aff0-1aff3=3 1aff5-1affb=3",
    "1affd-1affe=3 1b000-1b122=3 1b150-1b152=3 1b164-1b167=3 20000-2a6df=3 2a700-2b738=3",
    "2b740-2b81d=3 2b820-2cea1=3 2ceb0-2ebe0=3 30000-3134a=3"]

def script? (n : Nat) : Option Script :=
  match (scripts.value? n).getD 0 with
  | 1 => some .greek
  | 2 => some .hebrew
  | 3 => some .kanaOrHan
  | _ => none

end HostName

end HyperEvolve
