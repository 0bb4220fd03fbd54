import SignIn.Text.Composed

/-!
# How host names are spelled

A host name may be spelled in capitals, in full-width letters, with marks apart from their letters
and with characters that show nothing; all spellings of a name stand for the same name. Some
characters may not be in a name at all. This is the mapping of Unicode Technical Standard 46 for
names that are looked up, of Unicode 17. A character that stands for others (`Decomposition`) is
mapped piece by piece.
-/

namespace SignIn.NameMapping

/-- The characters that may not be in a name. -/
def disallowed : CodePoints := .ofText
  "80-9f 378-379 380-383 38b 38d 3a2 530 557-558 58b-58c 590 5c8-5cf 5eb-5ee 5f5-605 61c 6dd
  70e-70f 74b-74c 7b2-7bf 7fb-7fc 82e-82f 83f 85c-85d 85f 86b-86f 890-896 8e2 984 98d-98e 991-992
  9a9 9b1 9b3-9b5 9ba-9bb 9c5-9c6 9c9-9ca 9cf-9d6 9d8-9db 9de 9e4-9e5 9ff-a00 a04 a0b-a0e a11-a12
  a29 a31 a34 a37 a3a-a3b a3d a43-a46 a49-a4a a4e-a50 a52-a58 a5d a5f-a65 a77-a80 a84 a8e a92 aa9
  ab1 ab4 aba-abb ac6 aca ace-acf ad1-adf ae4-ae5 af2-af8 b00 b04 b0d-b0e b11-b12 b29 b31 b34
  b3a-b3b b45-b46 b49-b4a b4e-b54 b58-b5b b5e b64-b65 b78-b81 b84 b8b-b8d b91 b96-b98 b9b b9d
  ba0-ba2 ba5-ba7 bab-bad bba-bbd bc3-bc5 bc9 bce-bcf bd1-bd6 bd8-be5 bfb-bff c0d c11 c29 c3a-c3b
  c45 c49 c4e-c54 c57 c5b c5e-c5f c64-c65 c70-c76 c8d c91 ca9 cb4 cba-cbb cc5 cc9 cce-cd4 cd7-cdb
  cdf ce4-ce5 cf0 cf4-cff d0d d11 d45 d49 d50-d53 d64-d65 d80 d84 d97-d99 db2 dbc dbe-dbf dc7-dc9
  dcb-dce dd5 dd7 de0-de5 df0-df1 df5-e00 e3b-e3e e5c-e80 e83 e85 e8b ea4 ea6 ebe-ebf ec5 ec7 ecf
  eda-edb ee0-eff f48 f6d-f70 f98 fbd fcd fdb-fff 10c6 10c8-10cc 10ce-10cf 1249 124e-124f 1257
  1259 125e-125f 1289 128e-128f 12b1 12b6-12b7 12bf 12c1 12c6-12c7 12d7 1311 1316-1317 135b-135c
  137d-137f 139a-139f 13f6-13f7 13fe-13ff 1680 169d-169f 16f9-16ff 1716-171e 1737-173f 1754-175f
  176d 1771 1774-177f 17de-17df 17ea-17ef 17fa-17ff 181a-181f 1879-187f 18ab-18af 18f6-18ff 191f
  192c-192f 193c-193f 1941-1943 196e-196f 1975-197f 19ac-19af 19ca-19cf 19db-19dd 1a1c-1a1d 1a5f
  1a7d-1a7e 1a8a-1a8f 1a9a-1a9f 1aae-1aaf 1ade-1adf 1aec-1aff 1b4d 1bf4-1bfb 1c38-1c3a 1c4a-1c4c
  1c8b-1c8f 1cbb-1cbc 1cc8-1ccf 1cfb-1cff 1f16-1f17 1f1e-1f1f 1f46-1f47 1f4e-1f4f 1f58 1f5a 1f5c
  1f5e 1f7e-1f7f 1fb5 1fc5 1fd4-1fd5 1fdc 1ff0-1ff1 1ff5 1fff 200e-200f 2024-2026 2028-202e
  2065-2069 2072-2073 208f 209d-209f 20c2-20cf 20f1-20ff 218c-218f 242a-243f 244b-245f 2488-249b
  2b74-2b75 2cf4-2cf8 2d26 2d28-2d2c 2d2e-2d2f 2d68-2d6e 2d71-2d7e 2d97-2d9f 2da7 2daf 2db7 2dbf
  2dc7 2dcf 2dd7 2ddf 2e5e-2e7f 2e9a 2ef4-2eff 2fd6-2fff 3040 3097-3098 3100-3104 3130 318f
  31e6-31ef 321f 33c2 33c7 33d8 a48d-a48f a4c7-a4cf a62c-a63f a6f8-a6ff a7dd-a7f0 a82d-a82f
  a83a-a83f a878-a87f a8c6-a8cd a8da-a8df a954-a95e a97d-a97f a9ce a9da-a9dd a9ff aa37-aa3f
  aa4e-aa4f aa5a-aa5b aac3-aada aaf7-ab00 ab07-ab08 ab0f-ab10 ab17-ab1f ab27 ab2f ab6c-ab6f
  abee-abef abfa-abff d7a4-d7af d7c7-d7ca d7fc-f8ff fa6e-fa6f fada-faff fb07-fb12 fb18-fb1c fb37
  fb3d fb3f fb42 fb45 fdd0-fdef fe12 fe19-fe1f fe30 fe52-fe53 fe67 fe6c-fe6f fe75 fefd-fefe ff00
  ffbf-ffc1 ffc8-ffc9 ffd0-ffd1 ffd8-ffd9 ffdd-ffdf ffe7 ffef-ffff 1000c 10027 1003b 1003e
  1004e-1004f 1005e-1007f 100fb-100ff 10103-10106 10134-10136 1018f 1019d-1019f 101a1-101cf
  101fe-1027f 1029d-1029f 102d1-102df 102fc-102ff 10324-1032c 1034b-1034f 1037b-1037f 1039e
  103c4-103c7 103d6-103ff 1049e-1049f 104aa-104af 104d4-104d7 104fc-104ff 10528-1052f 10564-1056e
  1057b 1058b 10593 10596 105a2 105b2 105ba 105bd-105bf 105f4-105ff 10737-1073f 10756-1075f
  10768-1077f 10786 107b1 107bb-107ff 10806-10807 10809 10836 10839-1083b 1083d-1083e 10856
  1089f-108a6 108b0-108df 108f3 108f6-108fa 1091c-1091e 1093a-1093e 1095a-1097f 109b8-109bb
  109d0-109d1 10a04 10a07-10a0b 10a14 10a18 10a36-10a37 10a3b-10a3e 10a49-10a4f 10a59-10a5f
  10aa0-10abf 10ae7-10aea 10af7-10aff 10b36-10b38 10b56-10b57 10b73-10b77 10b92-10b98 10b9d-10ba8
  10bb0-10bff 10c49-10c7f 10cb3-10cbf 10cf3-10cf9 10d28-10d2f 10d3a-10d3f 10d66-10d68 10d86-10d8d
  10d90-10e5f 10e7f 10eaa 10eae-10eaf 10eb2-10ec1 10ec8-10ecf 10ed9-10ef9 10f28-10f2f 10f5a-10f6f
  10f8a-10faf 10fcc-10fdf 10ff7-10fff 1104e-11051 11076-1107e 110bd 110c3-110cf 110e9-110ef
  110fa-110ff 11135 11148-1114f 11177-1117f 111e0 111f5-111ff 11212 11242-1127f 11287 11289 1128e
  1129e 112aa-112af 112eb-112ef 112fa-112ff 11304 1130d-1130e 11311-11312 11329 11331 11334 1133a
  11345-11346 11349-1134a 1134e-1134f 11351-11356 11358-1135c 11364-11365 1136d-1136f 11375-1137f
  1138a 1138c-1138d 1138f 113b6 113c1 113c3-113c4 113c6 113cb 113d6 113d9-113e0 113e3-113ff 1145c
  11462-1147f 114c8-114cf 114da-1157f 115b6-115b7 115de-115ff 11645-1164f 1165a-1165f 1166d-1167f
  116ba-116bf 116ca-116cf 116e4-116ff 1171b-1171c 1172c-1172f 11747-117ff 1183c-1189f 118f3-118fe
  11907-11908 1190a-1190b 11914 11917 11936 11939-1193a 11947-1194f 1195a-1199f 119a8-119a9
  119d8-119d9 119e5-119ff 11a48-11a4f 11aa3-11aaf 11af9-11aff 11b0a-11b5f 11b68-11bbf 11be2-11bef
  11bfa-11bff 11c09 11c37 11c46-11c4f 11c6d-11c6f 11c90-11c91 11ca8 11cb7-11cff 11d07 11d0a
  11d37-11d39 11d3b 11d3e 11d48-11d4f 11d5a-11d5f 11d66 11d69 11d8f 11d92 11d99-11d9f 11daa-11daf
  11ddc-11ddf 11dea-11edf 11ef9-11eff 11f11 11f3b-11f3d 11f5b-11faf 11fb1-11fbf 11ff2-11ffe
  1239a-123ff 1246f 12475-1247f 12544-12f8f 12ff3-12fff 13430-1343f 13456-1345f 143fb-143ff
  14647-160ff 1613a-167ff 16a39-16a3f 16a5f 16a6a-16a6d 16abf 16aca-16acf 16aee-16aef 16af6-16aff
  16b46-16b4f 16b5a 16b62 16b78-16b7c 16b90-16d3f 16d7a-16e3f 16e9b-16e9f 16eb9-16eba 16ed4-16eff
  16f4b-16f4e 16f88-16f8e 16fa0-16fdf 16fe5-16fef 16ff7-16fff 18cd6-18cfe 18d1f-18d7f 18df3-1afef
  1aff4 1affc 1afff 1b123-1b131 1b133-1b14f 1b153-1b154 1b156-1b163 1b168-1b16f 1b2fc-1bbff
  1bc6b-1bc6f 1bc7d-1bc7f 1bc89-1bc8f 1bc9a-1bc9b 1bca4-1cbff 1ccfd-1ccff 1ceb4-1ceb9 1ced1-1cedf
  1cef1-1ceff 1cf2e-1cf2f 1cf47-1cf4f 1cfc4-1cfff 1d0f6-1d0ff 1d127-1d128 1d1eb-1d1ff 1d246-1d2bf
  1d2d4-1d2df 1d2f4-1d2ff 1d357-1d35f 1d379-1d3ff 1d455 1d49d 1d4a0-1d4a1 1d4a3-1d4a4 1d4a7-1d4a8
  1d4ad 1d4ba 1d4bc 1d4c4 1d506 1d50b-1d50c 1d515 1d51d 1d53a 1d53f 1d545 1d547-1d549 1d551
  1d6a6-1d6a7 1d7cc-1d7cd 1da8c-1da9a 1daa0 1dab0-1deff 1df1f-1df24 1df2b-1dfff 1e007 1e019-1e01a
  1e022 1e025 1e02b-1e02f 1e06e-1e08e 1e090-1e0ff 1e12d-1e12f 1e13e-1e13f 1e14a-1e14d 1e150-1e28f
  1e2af-1e2bf 1e2fa-1e2fe 1e300-1e4cf 1e4fa-1e5cf 1e5fb-1e5fe 1e600-1e6bf 1e6df 1e6f6-1e6fd
  1e700-1e7df 1e7e7 1e7ec 1e7ef 1e7ff 1e8c5-1e8c6 1e8d7-1e8ff 1e94c-1e94f 1e95a-1e95d 1e960-1ec70
  1ecb5-1ed00 1ed3e-1edff 1ee04 1ee20 1ee23 1ee25-1ee26 1ee28 1ee33 1ee38 1ee3a 1ee3c-1ee41
  1ee43-1ee46 1ee48 1ee4a 1ee4c 1ee50 1ee53 1ee55-1ee56 1ee58 1ee5a 1ee5c 1ee5e 1ee60 1ee63
  1ee65-1ee66 1ee6b 1ee73 1ee78 1ee7d 1ee7f 1ee8a 1ee9c-1eea0 1eea4 1eeaa 1eebc-1eeef 1eef2-1efff
  1f02c-1f02f 1f094-1f09f 1f0af-1f0b0 1f0c0 1f0d0 1f0f6-1f100 1f1ae-1f1e5 1f203-1f20f 1f23c-1f23f
  1f249-1f24f 1f252-1f25f 1f266-1f2ff 1f6d9-1f6db 1f6ed-1f6ef 1f6fd-1f6ff 1f7da-1f7df 1f7ec-1f7ef
  1f7f1-1f7ff 1f80c-1f80f 1f848-1f84f 1f85a-1f85f 1f888-1f88f 1f8ae-1f8af 1f8bc-1f8bf 1f8c2-1f8cf
  1f8d9-1f8ff 1fa58-1fa5f 1fa6e-1fa6f 1fa7d-1fa7f 1fa8b-1fa8d 1fac7 1fac9-1facc 1fadd-1fade
  1faeb-1faee 1faf9-1faff 1fb93 1fbfb-1ffff 2a6e0-2a6ff 2b81e-2b81f 2ceae-2ceaf 2ebe1-2ebef
  2ee5e-2f7ff 2fa1e-2ffff 3134b-3134f 3347a-e00ff e01f0-10ffff"

/-- The characters that are left out. -/
def ignored : CodePoints := .ofText
  "ad 34f 115f-1160 17b4-17b5 180b-180f 200b 2060-2064 206a-206f 3164 fe00-fe0f feff ffa0
  1bca0-1bca3 1d173-1d17a e0100-e01ef"

/-- What characters of a name are spellings of. -/
def spellings : CharTable := .ofText
  "41-5a=61 a0=20 a8=20.308 aa=61 af=20.304 b2=32,33,20.301,3bc b8=20.327,31,6f
  bc=31.2044.34,31.2044.32,33.2044.34 c6=e6 d0=f0 d8=f8 de=fe 110=111 126=127 132=69.6a,69.6a
  13f=6c.b7,6c.b7,142 149=2bc.6e,14b 152=153 166=167 17f=73 181=253,183 184=185 186=254,188
  189=256,257,18c 18e=1dd,259,25b,192 193=260,263 196=269,268,199 19c=26f,272 19f=275 1a2=1a3
  1a4=1a5 1a6=280,1a8 1a9=283 1ac=1ad 1ae=288 1b1=28a,28b,1b4 1b5=1b6 1b7=292,1b9 1bc=1bd
  1c4=64.17e,64.17e,64.17e,6c.6a,6c.6a,6c.6a,6e.6a,6e.6a,6e.6a 1e4=1e5 1f1=64.7a,64.7a,64.7a
  1f6=195,1bf 21c=21d 220=19e 222=223 224=225 23a=2c65,23c 23d=19a,2c66 241=242 243=180,289,28c
  246-24e/2=247 2b0=68,266,6a,72,279,27b,281,77,79 2d8=20.306,20.307,20.30a,20.328,20.303,20.30b
  2e0=263,6c,73,78,295 345=3b9 370=371 372=373 376=377 37a=20.3b9 37f=3f3 384=20.301 391-3a1=3b1
  3a3-3a9=3c3 3cf=3d7,3b2,3b8,3c5 3d5=3c6,3c0 3d8-3ee/2=3d9 3f0=3ba,3c1,3c3 3f4=3b8,3b5 3f7=3f8
  3f9=3c3,3fb 3fd-3ff=37b 402=452 404-406=454 408-40b=458 40f=45f 410-418=430 41a-42f=43a
  460-474/2=461 478-480/2=479 48a-4be/2=48b 4c0=4cf 4c3-4cd/2=4c4 4d4=4d5 4d8=4d9 4e0=4e1 4e8=4e9
  4f6=4f7 4fa-52e/2=4fb 531-556=561 587=565.582 675=627.674,648.674,6c7.674,64a.674 e33=e4d.e32
  eb3=ecd.eb2 edc=eab.e99,eab.ea1 f0c=f0b f77=fb2.f71.f80 f79=fb3.f71.f80 10a0-10c5=2d00
  10c7=2d27 10cd=2d2d 10fc=10dc 13f8-13fd=13f0 1c80=432,434,43e,441,442,442,44a,463,a64b,1c8a
  1c90-1cba=10d0 1cbd-1cbf=10fd 1d2c=61,e6,62 1d30=64,65,1dd 1d33-1d3a=67
  1d3c=6f,223,70,72,74,75,77,61,250,251,1d02,62,64,65,259,25b 1d4c=25c,67
  1d4f=6b,6d,14b,6f,254,1d16,1d17,70,74,75,1d1d,26f,76,1d25 1d5d-1d5f=3b2
  1d60=3c6,3c7,69,72,75,76,3b2,3b3,3c1,3c6,3c7 1d78=43d 1d9b=252,63,255,f0,25c,66,25f,261,265
  1da4-1da6=268 1da7=1d7b,29d,26d,1d85,29f,271,270 1dae-1db1=272
  1db2=278,282,283,1ab,289,28a,1d1c,28b,28c,7a 1dbc-1dbe=290 1dbf=3b8 1e9a=61.2be 1e9e=df
  1efa-1efe/2=1efb 1fbd=20.313 1fbf=20.313,20.342 1ffe=20.314 2002=20,20,20,20,20,20,20,20,20
  2011=2010 2017=20.333 202f=20 2033=2032.2032,2032.2032.2032 2036=2035.2035,2035.2035.2035
  203c=21.21 203e=20.305 2047=3f.3f,3f.21,21.3f 2057=2032.2032.2032.2032 205f=20 2070=30,69
  2074-2079=34 207a=2b,2212,3d,28,29,6e 2080-2089=30 208a=2b,2212,3d,28,29
  2090=61,65,6f,78,259,68 2096-2099=6b 209a=70,73,74 20a8=72.73 2100=61.2f.63,61.2f.73,63,b0.63
  2105=63.2f.6f,63.2f.75,25b 2109=b0.66,67,68,68,68,68,127,69,69,6c,6c 2115=6e,6e.6f 2119-211b=70
  211c=72,72 2120=73.6d,74.65.6c,74.6d 2124=7a 2128=7a 212c=62,63 212f=65,65,66,214e,6d,6f
  2135-2138=5d0 2139=69 213b=66.61.78,3c0,3b3,3b3,3c0,2211 2145=64,64,65,69,6a
  2150=31.2044.37,31.2044.39,31.2044.31.30,31.2044.33
  2154=32.2044.33,31.2044.35,32.2044.35,33.2044.35,34.2044.35
  2159=31.2044.36,35.2044.36,31.2044.38,33.2044.38,35.2044.38
  215e=37.2044.38,31.2044,69,69.69,69.69.69,69.76,76,76.69
  2166=76.69.69,76.69.69.69,69.78,78,78.69,78.69.69,6c,63,64
  216f=6d,69,69.69,69.69.69,69.76,76,76.69,76.69.69
  2177=76.69.69.69,69.78,78,78.69,78.69.69,6c,63,64,6d 2183=2184 2189=30.2044.33
  222c=222b.222b,222b.222b.222b 222f=222e.222e,222e.222e.222e 2460-2468=31
  2469=31.30,31.31,31.32,31.33,31.34,31.35,31.36,31.37,31.38
  2472=31.39,32.30,28.31.29,28.32.29,28.33.29,28.34.29
  2478=28.35.29,28.36.29,28.37.29,28.38.29,28.39.29
  247d=28.31.30.29,28.31.31.29,28.31.32.29,28.31.33.29
  2481=28.31.34.29,28.31.35.29,28.31.36.29,28.31.37.29 2485=28.31.38.29,28.31.39.29,28.32.30.29
  249c=28.61.29,28.62.29,28.63.29,28.64.29,28.65.29,28.66.29
  24a2=28.67.29,28.68.29,28.69.29,28.6a.29,28.6b.29,28.6c.29
  24a8=28.6d.29,28.6e.29,28.6f.29,28.70.29,28.71.29,28.72.29
  24ae=28.73.29,28.74.29,28.75.29,28.76.29,28.77.29,28.78.29 24b4=28.79.29,28.7a.29 24b6-24cf=61
  24d0-24e9=61 24ea=30 2a0c=222b.222b.222b.222b 2a74=3a.3a.3d,3d.3d,3d.3d.3d 2c00-2c2f=2c30
  2c60=2c61 2c62=26b,1d7d,27d 2c67-2c6b/2=2c68 2c6d=251,271,250,252 2c72=2c73 2c75=2c76
  2c7c=6a,76,23f,240 2c80-2ce2/2=2c81 2ceb=2cec 2ced=2cee 2cf2=2cf3 2d6f=2d61 2e9f=6bcd 2ef3=9f9f
  2f00=4e00,4e28,4e36,4e3f,4e59,4e85,4e8c,4ea0,4eba,513f,5165
  2f0b=516b,5182,5196,51ab,51e0,51f5,5200,529b,52f9,5315,531a
  2f16=5338,5341,535c,5369,5382,53b6,53c8,53e3,56d7,571f,58eb
  2f21=5902,590a,5915,5927,5973,5b50,5b80,5bf8,5c0f,5c22,5c38
  2f2c=5c6e,5c71,5ddb,5de5,5df1,5dfe,5e72,5e7a,5e7f,5ef4,5efe
  2f37=5f0b,5f13,5f50,5f61,5f73,5fc3,6208,6236,624b,652f,6534
  2f42=6587,6597,65a4,65b9,65e0,65e5,66f0,6708,6728,6b20,6b62
  2f4d=6b79,6bb3,6bcb,6bd4,6bdb,6c0f,6c14,6c34,706b,722a,7236
  2f58=723b,723f,7247,7259,725b,72ac,7384,7389,74dc,74e6,7518
  2f63=751f,7528,7530,758b,7592,7676,767d,76ae,76bf,76ee,77db
  2f6e=77e2,77f3,793a,79b8,79be,7a74,7acb,7af9,7c73,7cf8,7f36
  2f79=7f51,7f8a,7fbd,8001,800c,8012,8033,807f,8089,81e3,81ea
  2f84=81f3,81fc,820c,821b,821f,826e,8272,8278,864d,866b,8840
  2f8f=884c,8863,897e,898b,89d2,8a00,8c37,8c46,8c55,8c78,8c9d
  2f9a=8d64,8d70,8db3,8eab,8eca,8f9b,8fb0,8fb5,9091,9149,91c6
  2fa5=91cc,91d1,9577,9580,961c,96b6,96b9,96e8,9751,975e,9762
  2fb0=9769,97cb,97ed,97f3,9801,98a8,98db,98df,9996,9999,99ac
  2fbb=9aa8,9ad8,9adf,9b25,9b2f,9b32,9b3c,9b5a,9ce5,9e75,9e7f
  2fc6=9ea5,9ebb,9ec3,9ecd,9ed1,9ef9,9efd,9f0e,9f13,9f20,9f3b 2fd1=9f4a,9f52,9f8d,9f9c,9fa0
  3000=20 3002=2e 3036=3012 3038=5341,5344,5345 309b=20.3099,20.309a 309f=3088.308a
  30ff=30b3.30c8 3131=1100,1101,11aa,1102,11ac,11ad 3137-3139=1103 313a-313f=11b0 3140=111a
  3141-3143=1106 3144=1121 3145-314e=1109 314f-3163=1161
  3165=1114,1115,11c7,11c8,11cc,11ce,11d3,11d7,11d9,111c,11dd
  3170=11df,111d,111e,1120,1122,1123,1127,1129 3178-317c=112b
  317d=1132,1136,1140,1147,114c,11f1,11f2 3184-3186=1157
  3187=1184,1185,1188,1191,1192,1194,119e,11a1
  3192=4e00,4e8c,4e09,56db,4e0a,4e2d,4e0b,7532,4e59,4e19,4e01 319d=5929,5730,4eba
  3200=28.1100.29,28.1102.29,28.1103.29,28.1105.29,28.1106.29
  3205=28.1107.29,28.1109.29,28.110b.29,28.110c.29,28.110e.29
  320a=28.110f.29,28.1110.29,28.1111.29,28.1112.29,28.ac00.29
  320f=28.b098.29,28.b2e4.29,28.b77c.29,28.b9c8.29,28.bc14.29
  3214=28.c0ac.29,28.c544.29,28.c790.29,28.cc28.29,28.ce74.29
  3219=28.d0c0.29,28.d30c.29,28.d558.29,28.c8fc.29 321d=28.c624.c804.29,28.c624.d6c4.29
  3220=28.4e00.29,28.4e8c.29,28.4e09.29,28.56db.29,28.4e94.29
  3225=28.516d.29,28.4e03.29,28.516b.29,28.4e5d.29,28.5341.29
  322a=28.6708.29,28.706b.29,28.6c34.29,28.6728.29,28.91d1.29
  322f=28.571f.29,28.65e5.29,28.682a.29,28.6709.29,28.793e.29
  3234=28.540d.29,28.7279.29,28.8ca1.29,28.795d.29,28.52b4.29
  3239=28.4ee3.29,28.547c.29,28.5b66.29,28.76e3.29,28.4f01.29
  323e=28.8cc7.29,28.5354.29,28.796d.29,28.4f11.29,28.81ea.29 3243=28.81f3.29,554f,5e7c,6587,7b8f
  3250=70.74.65,32.31,32.32,32.33,32.34,32.35,32.36,32.37
  3258=32.38,32.39,33.30,33.31,33.32,33.33,33.34,33.35,1100 3261=1102,1103 3263-3265=1105
  3266=1109,110b,110c 3269-326d=110e 326e=ac00,b098,b2e4,b77c,b9c8,bc14,c0ac,c544,c790,cc28,ce74
  3279=d0c0,d30c,d558,cc38.ace0,c8fc.c758,c6b0
  3280=4e00,4e8c,4e09,56db,4e94,516d,4e03,516b,4e5d,5341,6708
  328b=706b,6c34,6728,91d1,571f,65e5,682a,6709,793e,540d,7279
  3296=8ca1,795d,52b4,79d8,7537,5973,9069,512a,5370,6ce8,9805
  32a1=4f11,5199,6b63,4e0a,4e2d,4e0b,5de6,53f3,533b,5b97,5b66
  32ac=76e3,4f01,8cc7,5354,591c,33.36,33.37,33.38,33.39,34.30
  32b6=34.31,34.32,34.33,34.34,34.35,34.36,34.37,34.38,34.39
  32bf=35.30,31.6708,32.6708,33.6708,34.6708,35.6708,36.6708
  32c6=37.6708,38.6708,39.6708,31.30.6708,31.31.6708
  32cb=31.32.6708,68.67,65.72.67,65.76,6c.74.64,30a2,30a4,30a6
  32d3=30a8,30aa,30ab,30ad,30af,30b1,30b3,30b5,30b7,30b9,30bb 32de=30bd,30bf,30c1,30c4,30c6,30c8
  32e4-32e9=30ca 32ea=30d2,30d5,30d8,30db 32ee-32f2=30de 32f3=30e4,30e6 32f5-32fa=30e8
  32fb-32fe=30ef 32ff=4ee4.548c,30a2.30d1.30fc.30c8,30a2.30eb.30d5.30a1
  3302=30a2.30f3.30da.30a2,30a2.30fc.30eb,30a4.30cb.30f3.30b0
  3305=30a4.30f3.30c1,30a6.30a9.30f3,30a8.30b9.30af.30fc.30c9
  3308=30a8.30fc.30ab.30fc,30aa.30f3.30b9,30aa.30fc.30e0
  330b=30ab.30a4.30ea,30ab.30e9.30c3.30c8,30ab.30ed.30ea.30fc
  330e=30ac.30ed.30f3,30ac.30f3.30de,30ae.30ac,30ae.30cb.30fc
  3312=30ad.30e5.30ea.30fc,30ae.30eb.30c0.30fc,30ad.30ed
  3315=30ad.30ed.30b0.30e9.30e0,30ad.30ed.30e1.30fc.30c8.30eb
  3317=30ad.30ed.30ef.30c3.30c8,30b0.30e9.30e0
  3319=30b0.30e9.30e0.30c8.30f3,30af.30eb.30bc.30a4.30ed
  331b=30af.30ed.30fc.30cd,30b1.30fc.30b9,30b3.30eb.30ca 331e=30b3.30fc.30dd,30b5.30a4.30af.30eb
  3320=30b5.30f3.30c1.30fc.30e0,30b7.30ea.30f3.30b0
  3322=30bb.30f3.30c1,30bb.30f3.30c8,30c0.30fc.30b9,30c7.30b7
  3326=30c9.30eb,30c8.30f3,30ca.30ce,30ce.30c3.30c8
  332a=30cf.30a4.30c4,30d1.30fc.30bb.30f3.30c8,30d1.30fc.30c4
  332d=30d0.30fc.30ec.30eb,30d4.30a2.30b9.30c8.30eb 332f=30d4.30af.30eb,30d4.30b3,30d3.30eb
  3332=30d5.30a1.30e9.30c3.30c9,30d5.30a3.30fc.30c8 3334=30d6.30c3.30b7.30a7.30eb,30d5.30e9.30f3
  3336=30d8.30af.30bf.30fc.30eb,30da.30bd,30da.30cb.30d2
  3339=30d8.30eb.30c4,30da.30f3.30b9,30da.30fc.30b8
  333c=30d9.30fc.30bf,30dd.30a4.30f3.30c8,30dc.30eb.30c8
  333f=30db.30f3,30dd.30f3.30c9,30db.30fc.30eb,30db.30fc.30f3
  3343=30de.30a4.30af.30ed,30de.30a4.30eb,30de.30c3.30cf
  3346=30de.30eb.30af,30de.30f3.30b7.30e7.30f3
  3348=30df.30af.30ed.30f3,30df.30ea,30df.30ea.30d0.30fc.30eb
  334b=30e1.30ac,30e1.30ac.30c8.30f3,30e1.30fc.30c8.30eb
  334e=30e4.30fc.30c9,30e4.30fc.30eb,30e6.30a2.30f3
  3351=30ea.30c3.30c8.30eb,30ea.30e9,30eb.30d4.30fc
  3354=30eb.30fc.30d6.30eb,30ec.30e0,30ec.30f3.30c8.30b2.30f3
  3357=30ef.30c3.30c8,30.70b9,31.70b9,32.70b9,33.70b9,34.70b9
  335d=35.70b9,36.70b9,37.70b9,38.70b9,39.70b9,31.30.70b9
  3363=31.31.70b9,31.32.70b9,31.33.70b9,31.34.70b9,31.35.70b9
  3368=31.36.70b9,31.37.70b9,31.38.70b9,31.39.70b9,32.30.70b9
  336d=32.31.70b9,32.32.70b9,32.33.70b9,32.34.70b9,68.70.61
  3372=64.61,61.75,62.61.72,6f.76,70.63,64.6d,64.6d.32
  3379=64.6d.33,69.75,5e73.6210,662d.548c,5927.6b63,660e.6cbb
  337f=682a.5f0f.4f1a.793e,70.61,6e.61,3bc.61,6d.61,6b.61
  3385=6b.62,6d.62,67.62,63.61.6c,6b.63.61.6c,70.66,6e.66
  338c=3bc.66,3bc.67,6d.67,6b.67,68.7a,6b.68.7a,6d.68.7a
  3393=67.68.7a,74.68.7a,3bc.6c,6d.6c,64.6c,6b.6c,66.6d,6e.6d
  339b=3bc.6d,6d.6d,63.6d,6b.6d,6d.6d.32,63.6d.32,6d.32
  33a2=6b.6d.32,6d.6d.33,63.6d.33,6d.33,6b.6d.33,6d.2215.73
  33a8=6d.2215.73.32,70.61,6b.70.61,6d.70.61,67.70.61,72.61.64
  33ae=72.61.64.2215.73,72.61.64.2215.73.32,70.73,6e.73,3bc.73
  33b3=6d.73,70.76,6e.76,3bc.76,6d.76,6b.76,6d.76,70.77,6e.77
  33bc=3bc.77,6d.77,6b.77,6d.77,6b.3c9,6d.3c9 33c3=62.71,63.63,63.64,63.2215.6b.67
  33c8=64.62,67.79,68.61,68.70,69.6e,6b.6b,6b.6d,6b.74,6c.6d
  33d1=6c.6e,6c.6f.67,6c.78,6d.62,6d.69.6c,6d.6f.6c,70.68
  33d9=70.70.6d,70.72,73.72,73.76,77.62,76.2215.6d,61.2215.6d
  33e0=31.65e5,32.65e5,33.65e5,34.65e5,35.65e5,36.65e5,37.65e5
  33e7=38.65e5,39.65e5,31.30.65e5,31.31.65e5,31.32.65e5
  33ec=31.33.65e5,31.34.65e5,31.35.65e5,31.36.65e5,31.37.65e5
  33f1=31.38.65e5,31.39.65e5,32.30.65e5,32.31.65e5,32.32.65e5
  33f6=32.33.65e5,32.34.65e5,32.35.65e5,32.36.65e5,32.37.65e5
  33fb=32.38.65e5,32.39.65e5,33.30.65e5,33.31.65e5,67.61.6c a640-a66c/2=a641 a680-a69a/2=a681
  a69c=44a,44c a722-a72e/2=a723 a732-a76e/2=a733 a770=a76f a779=a77a a77b=a77c a77d=1d79
  a77e-a786/2=a77f a78b=a78c a78d=265 a790=a791 a792=a793 a796-a7a8/2=a797
  a7aa=266,25c,261,26c,26a a7b0=29e,287,29d,ab53 a7b4-a7c2/2=a7b5 a7c4=a794,282,1d8e,a7c8
  a7c9=a7ca a7cb=264 a7cc-a7da/2=a7cd a7dc=19b a7f1=73,63,66,71,a7f6 a7f8=127,153
  ab5c=a727,ab37,26b,ab52 ab69=28d ab70-abbf=13a0
  fb00=66.66,66.69,66.6c,66.66.69,66.66.6c,73.74,73.74
  fb13=574.576,574.565,574.56b,57e.576,574.56d fb20=5e2,5d0,5d3,5d4 fb24-fb26=5db fb27=5e8,5ea,2b
  fb4f=5d0.5dc,671,671,67b,67b,67b,67b,67e,67e,67e,67e,680,680
  fb5c=680,680,67a,67a,67a,67a,67f,67f,67f,67f,679,679,679,679
  fb6a=6a4,6a4,6a4,6a4,6a6,6a6,6a6,6a6,684,684,684,684,683,683
  fb78=683,683,686,686,686,686,687,687,687,687,68d,68d,68c,68c
  fb86=68e,68e,688,688,698,698,691,691,6a9,6a9,6a9,6a9,6af,6af
  fb94=6af,6af,6b3,6b3,6b3,6b3,6b1,6b1,6b1,6b1,6ba,6ba,6bb,6bb
  fba2=6bb,6bb,6c0,6c0,6c1,6c1,6c1,6c1,6be,6be,6be,6be,6d2,6d2 fbb0=6d3,6d3
  fbd3=6ad,6ad,6ad,6ad,6c7,6c7,6c6,6c6,6c8,6c8,6c7.674,6cb,6cb
  fbe0=6c5,6c5,6c9,6c9,6d0,6d0,6d0,6d0,649,649,626.627,626.627
  fbec=626.6d5,626.6d5,626.648,626.648,626.6c7,626.6c7,626.6c6
  fbf3=626.6c6,626.6c8,626.6c8,626.6d0,626.6d0,626.6d0,626.649
  fbfa=626.649,626.649,6cc,6cc,6cc,6cc,626.62c,626.62d,626.645
  fc03=626.649,626.64a,628.62c,628.62d,628.62e,628.645,628.649
  fc0a=628.64a,62a.62c,62a.62d,62a.62e,62a.645,62a.649,62a.64a
  fc11=62b.62c,62b.645,62b.649,62b.64a,62c.62d,62c.645,62d.62c
  fc18=62d.645,62e.62c,62e.62d,62e.645,633.62c,633.62d,633.62e
  fc1f=633.645,635.62d,635.645,636.62c,636.62d,636.62e,636.645
  fc26=637.62d,637.645,638.645,639.62c,639.645,63a.62c,63a.645
  fc2d=641.62c,641.62d,641.62e,641.645,641.649,641.64a,642.62d
  fc34=642.645,642.649,642.64a,643.627,643.62c,643.62d,643.62e
  fc3b=643.644,643.645,643.649,643.64a,644.62c,644.62d,644.62e
  fc42=644.645,644.649,644.64a,645.62c,645.62d,645.62e,645.645
  fc49=645.649,645.64a,646.62c,646.62d,646.62e,646.645,646.649
  fc50=646.64a,647.62c,647.645,647.649,647.64a,64a.62c,64a.62d
  fc57=64a.62e,64a.645,64a.649,64a.64a,630.670,631.670,649.670
  fc5e=20.64c.651,20.64d.651,20.64e.651,20.64f.651,20.650.651
  fc63=20.651.670,626.631,626.632,626.645,626.646,626.649
  fc69=626.64a,628.631,628.632,628.645,628.646,628.649,628.64a
  fc70=62a.631,62a.632,62a.645,62a.646,62a.649,62a.64a,62b.631
  fc77=62b.632,62b.645,62b.646,62b.649,62b.64a,641.649,641.64a
  fc7e=642.649,642.64a,643.627,643.644,643.645,643.649,643.64a
  fc85=644.645,644.649,644.64a,645.627,645.645,646.631,646.632
  fc8c=646.645,646.646,646.649,646.64a,649.670,64a.631,64a.632
  fc93=64a.645,64a.646,64a.649,64a.64a,626.62c,626.62d,626.62e
  fc9a=626.645,626.647,628.62c,628.62d,628.62e,628.645,628.647
  fca1=62a.62c,62a.62d,62a.62e,62a.645,62a.647,62b.645,62c.62d
  fca8=62c.645,62d.62c,62d.645,62e.62c,62e.645,633.62c,633.62d
  fcaf=633.62e,633.645,635.62d,635.62e,635.645,636.62c,636.62d
  fcb6=636.62e,636.645,637.62d,638.645,639.62c,639.645,63a.62c
  fcbd=63a.645,641.62c,641.62d,641.62e,641.645,642.62d,642.645
  fcc4=643.62c,643.62d,643.62e,643.644,643.645,644.62c,644.62d
  fccb=644.62e,644.645,644.647,645.62c,645.62d,645.62e,645.645
  fcd2=646.62c,646.62d,646.62e,646.645,646.647,647.62c,647.645
  fcd9=647.670,64a.62c,64a.62d,64a.62e,64a.645,64a.647,626.645
  fce0=626.647,628.645,628.647,62a.645,62a.647,62b.645,62b.647
  fce7=633.645,633.647,634.645,634.647,643.644,643.645,644.645
  fcee=646.645,646.647,64a.645,64a.647,640.64e.651,640.64f.651
  fcf4=640.650.651,637.649,637.64a,639.649,639.64a,63a.649
  fcfa=63a.64a,633.649,633.64a,634.649,634.64a,62d.649,62d.64a
  fd01=62c.649,62c.64a,62e.649,62e.64a,635.649,635.64a,636.649
  fd08=636.64a,634.62c,634.62d,634.62e,634.645,634.631,633.631
  fd0f=635.631,636.631,637.649,637.64a,639.649,639.64a,63a.649
  fd16=63a.64a,633.649,633.64a,634.649,634.64a,62d.649,62d.64a
  fd1d=62c.649,62c.64a,62e.649,62e.64a,635.649,635.64a,636.649
  fd24=636.64a,634.62c,634.62d,634.62e,634.645,634.631,633.631
  fd2b=635.631,636.631,634.62c,634.62d,634.62e,634.645,633.647
  fd32=634.647,637.645,633.62c,633.62d,633.62e,634.62c,634.62d
  fd39=634.62e,637.645,638.645,627.64b,627.64b
  fd50=62a.62c.645,62a.62d.62c,62a.62d.62c,62a.62d.645
  fd54=62a.62e.645,62a.645.62c,62a.645.62d,62a.645.62e
  fd58=62c.645.62d,62c.645.62d,62d.645.64a,62d.645.649
  fd5c=633.62d.62c,633.62c.62d,633.62c.649,633.645.62d
  fd60=633.645.62d,633.645.62c,633.645.645,633.645.645
  fd64=635.62d.62d,635.62d.62d,635.645.645,634.62d.645
  fd68=634.62d.645,634.62c.64a,634.645.62e,634.645.62e
  fd6c=634.645.645,634.645.645,636.62d.649,636.62e.645
  fd70=636.62e.645,637.645.62d,637.645.62d,637.645.645
  fd74=637.645.64a,639.62c.645,639.645.645,639.645.645
  fd78=639.645.649,63a.645.645,63a.645.64a,63a.645.649
  fd7c=641.62e.645,641.62e.645,642.645.62d,642.645.645
  fd80=644.62d.645,644.62d.64a,644.62d.649,644.62c.62c
  fd84=644.62c.62c,644.62e.645,644.62e.645,644.645.62d
  fd88=644.645.62d,645.62d.62c,645.62d.645,645.62d.64a
  fd8c=645.62c.62d,645.62c.645,645.62e.62c,645.62e.645
  fd92=645.62c.62e,647.645.62c,647.645.645,646.62d.645
  fd96=646.62d.649,646.62c.645,646.62c.645,646.62c.649
  fd9a=646.645.64a,646.645.649,64a.645.645,64a.645.645
  fd9e=628.62e.64a,62a.62c.64a,62a.62c.649,62a.62e.64a
  fda2=62a.62e.649,62a.645.64a,62a.645.649,62c.645.64a
  fda6=62c.62d.649,62c.645.649,633.62e.649,635.62d.64a
  fdaa=634.62d.64a,636.62d.64a,644.62c.64a,644.645.64a
  fdae=64a.62d.64a,64a.62c.64a,64a.645.64a,645.645.64a
  fdb2=642.645.64a,646.62d.64a,642.645.62d,644.62d.645
  fdb6=639.645.64a,643.645.64a,646.62c.62d,645.62e.64a
  fdba=644.62c.645,643.645.645,644.62c.645,646.62c.62d
  fdbe=62c.62d.64a,62d.62c.64a,645.62c.64a,641.645.64a
  fdc2=628.62d.64a,643.645.645,639.62c.645,635.645.645 fdc6=633.62e.64a,646.62c.64a
  fdf0=635.644.6d2,642.644.6d2,627.644.644.647,627.643.628.631
  fdf4=645.62d.645.62f,635.644.639.645,631.633.648.644
  fdf7=639.644.64a.647,648.633.644.645,635.644.649
  fdfa=635.644.649.20.627.644.644.647.20.639.644.64a.647.20.648.633.644.645
  fdfb=62c.644.20.62c.644.627.644.647,631.6cc.627.644 fe10=2c,3001 fe13=3a,3b,21,3f,3016,3017
  fe31=2014,2013,5f,5f,28,29,7b,7d,3014,3015,3010,3011,300a fe3e=300b,3008,3009 fe41-fe44=300c
  fe47=5b,5d,20.305,20.305,20.305,20.305,5f,5f,5f,2c,3001
  fe54=3b,3a,3f,21,2014,28,29,7b,7d,3014,3015,23,26,2a,2b,2d fe64=3c,3e,3d fe68=5c,24,25,40
  fe70=20.64b,640.64b,20.64c fe74=20.64d fe76=20.64e,640.64e,20.64f,640.64f,20.650,640.650,20.651
  fe7d=640.651,20.652,640.652,621,622,622,623,623,624,624,625
  fe88=625,626,626,626,626,627,627,628,628,628,628,629,629,62a
  fe96=62a,62a,62a,62b,62b,62b,62b,62c,62c,62c,62c,62d,62d,62d
  fea4=62d,62e,62e,62e,62e,62f,62f,630,630,631,631,632,632,633
  feb2=633,633,633,634,634,634,634,635,635,635,635,636,636,636
  fec0=636,637,637,637,637,638,638,638,638,639,639,639,639,63a
  fece=63a,63a,63a,641,641,641,641,642,642,642,642,643,643,643
  fedc=643,644,644,644,644,645,645,645,645,646,646,646,646,647
  feea=647,647,647,648,648,649,649,64a,64a,64a,64a,644.622
  fef6=644.622,644.623,644.623,644.625,644.625,644.627,644.627 ff01-ff20=21 ff21-ff3a=61
  ff3b-ff5e=5b ff5f=2985,2986,2e,300c,300d,3001,30fb,30f2,30a1,30a3,30a5
  ff6a=30a7,30a9,30e3,30e5,30e7,30c3,30fc,30a2,30a4,30a6,30a8
  ff75=30aa,30ab,30ad,30af,30b1,30b3,30b5,30b7,30b9,30bb,30bd ff80=30bf,30c1,30c4,30c6,30c8
  ff85-ff8a=30ca ff8b=30d2,30d5,30d8,30db ff8f-ff93=30de ff94=30e4,30e6 ff96-ff9b=30e8
  ff9c=30ef,30f3,3099,309a ffa1=1100,1101,11aa,1102,11ac,11ad ffa7-ffa9=1103 ffaa-ffaf=11b0
  ffb0=111a ffb1-ffb3=1106 ffb4=1121 ffb5-ffbe=1109 ffc2-ffc7=1161 ffca-ffcf=1167 ffd2-ffd7=116d
  ffda-ffdc=1173 ffe0=a2,a3,ac,20.304,a6,a5,20a9 ffe8=2502 ffe9-ffec=2190 ffed=25a0,25cb
  10400-10427=10428 104b0-104d3=104d8 10570-1057a=10597 1057c-1058a=105a3 1058c-10592=105b3
  10594=105bb,105bc 10781=2d0,2d1,e6,299,253
  10787=2a3,ab66,2a5,2a4,256,257,1d91,258,25e,2a9,264,262,260
  10794=29b,127,29c,267,284,2aa,2ab,26c,1df04,a78e,26e,1df05
  107a0=28e,1df06,f8,276,277,71,27a,1df08,27d,27e,280,2a8,2a6 107ad=ab67,2a7,288,2c71
  107b2=28f,2a1,2a2,298 107b6-107b8=1c0 107b9=1df0a,1df1e 10c80-10cb2=10cc0 10d50-10d65=10d70
  118a0-118bf=118c0 16e40-16e5f=16e60 16ea0-16eb8=16ebb 1ccd6-1ccef=61 1ccf0-1ccf9=30
  1d400-1d419=61 1d41a-1d433=61 1d434-1d44d=61 1d44e-1d454=61 1d456-1d467=69 1d468-1d481=61
  1d482-1d49b=61 1d49c=61 1d49e=63,64 1d4a2=67 1d4a5=6a,6b 1d4a9-1d4ac=6e 1d4ae-1d4b5=73
  1d4b6-1d4b9=61 1d4bb=66 1d4bd-1d4c3=68 1d4c5-1d4cf=70 1d4d0-1d4e9=61 1d4ea-1d503=61 1d504=61,62
  1d507-1d50a=64 1d50d-1d514=6a 1d516-1d51c=73 1d51e-1d537=61 1d538=61,62 1d53b-1d53e=64
  1d540-1d544=69 1d546=6f 1d54a-1d550=73 1d552-1d56b=61 1d56c-1d585=61 1d586-1d59f=61
  1d5a0-1d5b9=61 1d5ba-1d5d3=61 1d5d4-1d5ed=61 1d5ee-1d607=61 1d608-1d621=61 1d622-1d63b=61
  1d63c-1d655=61 1d656-1d66f=61 1d670-1d689=61 1d68a-1d6a3=61 1d6a4=131,237 1d6a8-1d6b8=3b1
  1d6b9=3b8 1d6ba-1d6c0=3c3 1d6c1=2207 1d6c2-1d6d2=3b1 1d6d3=3c3 1d6d4-1d6da=3c3
  1d6db=2202,3b5,3b8,3ba,3c6,3c1,3c0 1d6e2-1d6f2=3b1 1d6f3=3b8 1d6f4-1d6fa=3c3 1d6fb=2207
  1d6fc-1d70c=3b1 1d70d=3c3 1d70e-1d714=3c3 1d715=2202,3b5,3b8,3ba,3c6,3c1,3c0 1d71c-1d72c=3b1
  1d72d=3b8 1d72e-1d734=3c3 1d735=2207 1d736-1d746=3b1 1d747=3c3 1d748-1d74e=3c3
  1d74f=2202,3b5,3b8,3ba,3c6,3c1,3c0 1d756-1d766=3b1 1d767=3b8 1d768-1d76e=3c3 1d76f=2207
  1d770-1d780=3b1 1d781=3c3 1d782-1d788=3c3 1d789=2202,3b5,3b8,3ba,3c6,3c1,3c0 1d790-1d7a0=3b1
  1d7a1=3b8 1d7a2-1d7a8=3c3 1d7a9=2207 1d7aa-1d7ba=3b1 1d7bb=3c3 1d7bc-1d7c2=3c3
  1d7c3=2202,3b5,3b8,3ba,3c6,3c1,3c0,3dd,3dd 1d7ce-1d7d7=30 1d7d8-1d7e1=30 1d7e2-1d7eb=30
  1d7ec-1d7f5=30 1d7f6-1d7ff=30 1e030-1e038=430 1e039-1e03b=43a 1e03c-1e046=43e
  1e047=44b,44d,44e,a689,4d9,456,458,4e9,4af,4cf 1e051-1e059=430 1e05a=43a,43b,43e,43f,441
  1e05f-1e064=443 1e065=44a,44b,491,456,455,45f,4ab,a651,4b1 1e900-1e921=1e922
  1ee00=627,628,62c,62f 1ee05=648,632,62d,637,64a 1ee0a-1ee0d=643
  1ee0e=633,639,641,635,642,631,634,62a,62b,62e,630,636,638 1ee1b=63a,66e,6ba,6a1,66f
  1ee21=628,62c 1ee24=647 1ee27=62d 1ee29=64a 1ee2a-1ee2d=643 1ee2e=633,639,641,635,642
  1ee34=634,62a,62b,62e 1ee39=636 1ee3b=63a 1ee42=62c 1ee47=62d 1ee49=64a 1ee4b=644
  1ee4d=646,633,639 1ee51=635,642 1ee54=634 1ee57=62e 1ee59=636 1ee5b=63a 1ee5d=6ba 1ee5f=66f
  1ee61=628,62c 1ee64=647 1ee67=62d,637,64a,643 1ee6c=645,646,633,639,641,635,642
  1ee74=634,62a,62b,62e 1ee79=636,638,63a,66e 1ee7e=6a1
  1ee80=627,628,62c,62f,647,648,632,62d,637,64a 1ee8b-1ee8d=644
  1ee8e=633,639,641,635,642,631,634,62a,62b,62e,630,636,638 1ee9b=63a 1eea1=628,62c,62f
  1eea5=648,632,62d,637,64a 1eeab-1eead=644
  1eeae=633,639,641,635,642,631,634,62a,62b,62e,630,636,638 1eebb=63a
  1f101=30.2c,31.2c,32.2c,33.2c,34.2c,35.2c,36.2c,37.2c,38.2c 1f10a=39.2c
  1f110=28.61.29,28.62.29,28.63.29,28.64.29,28.65.29,28.66.29
  1f116=28.67.29,28.68.29,28.69.29,28.6a.29,28.6b.29,28.6c.29
  1f11c=28.6d.29,28.6e.29,28.6f.29,28.70.29,28.71.29,28.72.29
  1f122=28.73.29,28.74.29,28.75.29,28.76.29,28.77.29,28.78.29
  1f128=28.79.29,28.7a.29,3014.73.3015,63,72,63.64,77.7a 1f130-1f149=61
  1f14a=68.76,6d.76,73.64,73.73,70.70.76,77.63 1f16a=6d.63,6d.64,6d.72 1f190=64.6a
  1f200=307b.304b,30b3.30b3,30b5 1f210=624b,5b57,53cc,30c7,4e8c,591a,89e3,5929,4ea4,6620,7121
  1f21b=6599,524d,5f8c,518d,65b0,521d,7d42,751f,8ca9,58f0,5439
  1f226=6f14,6295,6355,4e00,4e09,904a,5de6,4e2d,53f3,6307,8d70
  1f231=6253,7981,7a7a,5408,6e80,6709,6708,7533,5272,55b6,914d
  1f240=3014.672c.3015,3014.4e09.3015,3014.4e8c.3015
  1f243=3014.5b89.3015,3014.70b9.3015,3014.6253.3015
  1f246=3014.76d7.3015,3014.52dd.3015,3014.6557.3015 1f250=5f97,53ef 1fbf0-1fbf9=30"

/-- What a character that stands for no others is a spelling of. -/
def piece (c : Char) : List Char :=
  if ignored.contains c then [] else (spellings.find? c).getD [c]

/-- What a character is a spelling of, unless it may not be in a name. -/
def ofChar? (c : Char) : Option (List Char) :=
  if disallowed.contains c then none else some ((Composed.decomposeChar c).flatMap piece)

def isAscii (c : Char) : Bool := c.toNat < 0x80

/-- The name that a text spells, unless one of its characters may not be in a name. -/
def name? (s : List Char) : Option (List Char) :=
  if s.all isAscii then some (s.map Char.toLower)
  else (s.mapM ofChar?).map fun cs => Composed.compose cs.flatten

end SignIn.NameMapping
