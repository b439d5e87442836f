import Courier.Url.Domain.Table

/-!
The direction of characters, and the rule for names in which some are written from right to left:
every label keeps to one direction.
-/

namespace Courier.Url.Domain

/-- How a character takes part in the direction of a text. -/
inductive Direction
  | left
  | right
  | rightLetter
  | rightNumber
  | number
  | numberSign
  | numberEnd
  | separator
  | mark
  | boundary
  | other
  deriving DecidableEq, Repr

namespace Direction

/-- Ranges of characters that are not written from left to right, with a number for how they take
part. -/
def ranges : Array (List Nat) := Table.ofLines [
  "0,8,9 9,9,b a,a,a b,b,b c,c,c d,d,a e,1b,9 1c,1e,a 1f,1f,b 20,20,c 21,22,d 23,25,6 26,2a,d ",
  "2b,2b,5 2c,2c,7 2d,2d,5 2e,2f,7 30,39,4 3a,3a,7 3b,40,d 5b,60,d 7b,7e,d 7f,84,9 85,85,a ",
  "86,9f,9 a0,a0,7 a1,a1,d a2,a5,6 a6,a9,d ab,ac,d ad,ad,9 ae,af,d b0,b1,6 b2,b3,4 b4,b4,d ",
  "b6,b8,d b9,b9,4 bb,bf,d d7,d7,d f7,f7,d 2b9,2ba,d 2c2,2cf,d 2d2,2df,d 2e5,2ed,d 2ef,2ff,d ",
  "300,36f,8 374,375,d 37e,37e,d 384,385,d 387,387,d 3f6,3f6,d 483,489,8 58a,58a,d 58d,58e,d ",
  "58f,58f,6 591,5bd,8 5be,5be,1 5bf,5bf,8 5c0,5c0,1 5c1,5c2,8 5c3,5c3,1 5c4,5c5,8 5c6,5c6,1 ",
  "5c7,5c7,8 5d0,5ea,1 5ef,5f4,1 600,605,3 606,607,d 608,608,2 609,60a,6 60b,60b,2 60c,60c,7 ",
  "60d,60d,2 60e,60f,d 610,61a,8 61b,64a,2 64b,65f,8 660,669,3 66a,66a,6 66b,66c,3 66d,66f,2 ",
  "670,670,8 671,6d5,2 6d6,6dc,8 6dd,6dd,3 6de,6de,d 6df,6e4,8 6e5,6e6,2 6e7,6e8,8 6e9,6e9,d ",
  "6ea,6ed,8 6ee,6ef,2 6f0,6f9,4 6fa,70d,2 70f,710,2 711,711,8 712,72f,2 730,74a,8 74d,7a5,2 ",
  "7a6,7b0,8 7b1,7b1,2 7c0,7ea,1 7eb,7f3,8 7f4,7f5,1 7f6,7f9,d 7fa,7fa,1 7fd,7fd,8 7fe,815,1 ",
  "816,819,8 81a,81a,1 81b,823,8 824,824,1 825,827,8 828,828,1 829,82d,8 830,83e,1 840,858,1 ",
  "859,85b,8 85e,85e,1 860,86a,2 870,88e,2 890,891,3 898,89f,8 8a0,8c9,2 8ca,8e1,8 8e2,8e2,3 ",
  "8e3,902,8 93a,93a,8 93c,93c,8 941,948,8 94d,94d,8 951,957,8 962,963,8 981,981,8 9bc,9bc,8 ",
  "9c1,9c4,8 9cd,9cd,8 9e2,9e3,8 9f2,9f3,6 9fb,9fb,6 9fe,9fe,8 a01,a02,8 a3c,a3c,8 a41,a42,8 ",
  "a47,a48,8 a4b,a4d,8 a51,a51,8 a70,a71,8 a75,a75,8 a81,a82,8 abc,abc,8 ac1,ac5,8 ac7,ac8,8 ",
  "acd,acd,8 ae2,ae3,8 af1,af1,6 afa,aff,8 b01,b01,8 b3c,b3c,8 b3f,b3f,8 b41,b44,8 b4d,b4d,8 ",
  "b55,b56,8 b62,b63,8 b82,b82,8 bc0,bc0,8 bcd,bcd,8 bf3,bf8,d bf9,bf9,6 bfa,bfa,d c00,c00,8 ",
  "c04,c04,8 c3c,c3c,8 c3e,c40,8 c46,c48,8 c4a,c4d,8 c55,c56,8 c62,c63,8 c78,c7e,d c81,c81,8 ",
  "cbc,cbc,8 ccc,ccd,8 ce2,ce3,8 d00,d01,8 d3b,d3c,8 d41,d44,8 d4d,d4d,8 d62,d63,8 d81,d81,8 ",
  "dca,dca,8 dd2,dd4,8 dd6,dd6,8 e31,e31,8 e34,e3a,8 e3f,e3f,6 e47,e4e,8 eb1,eb1,8 eb4,ebc,8 ",
  "ec8,ecd,8 f18,f19,8 f35,f35,8 f37,f37,8 f39,f39,8 f3a,f3d,d f71,f7e,8 f80,f84,8 f86,f87,8 ",
  "f8d,f97,8 f99,fbc,8 fc6,fc6,8 102d,1030,8 1032,1037,8 1039,103a,8 103d,103e,8 1058,1059,8 ",
  "105e,1060,8 1071,1074,8 1082,1082,8 1085,1086,8 108d,108d,8 109d,109d,8 135d,135f,8 ",
  "1390,1399,d 1400,1400,d 1680,1680,c 169b,169c,d 1712,1714,8 1732,1733,8 1752,1753,8 ",
  "1772,1773,8 17b4,17b5,8 17b7,17bd,8 17c6,17c6,8 17c9,17d3,8 17db,17db,6 17dd,17dd,8 ",
  "17f0,17f9,d 1800,180a,d 180b,180d,8 180e,180e,9 180f,180f,8 1885,1886,8 18a9,18a9,8 ",
  "1920,1922,8 1927,1928,8 1932,1932,8 1939,193b,8 1940,1940,d 1944,1945,d 19de,19ff,d ",
  "1a17,1a18,8 1a1b,1a1b,8 1a56,1a56,8 1a58,1a5e,8 1a60,1a60,8 1a62,1a62,8 1a65,1a6c,8 ",
  "1a73,1a7c,8 1a7f,1a7f,8 1ab0,1ace,8 1b00,1b03,8 1b34,1b34,8 1b36,1b3a,8 1b3c,1b3c,8 ",
  "1b42,1b42,8 1b6b,1b73,8 1b80,1b81,8 1ba2,1ba5,8 1ba8,1ba9,8 1bab,1bad,8 1be6,1be6,8 ",
  "1be8,1be9,8 1bed,1bed,8 1bef,1bf1,8 1c2c,1c33,8 1c36,1c37,8 1cd0,1cd2,8 1cd4,1ce0,8 ",
  "1ce2,1ce8,8 1ced,1ced,8 1cf4,1cf4,8 1cf8,1cf9,8 1dc0,1dff,8 1fbd,1fbd,d 1fbf,1fc1,d ",
  "1fcd,1fcf,d 1fdd,1fdf,d 1fed,1fef,d 1ffd,1ffe,d 2000,200a,c 200b,200d,9 200f,200f,1 ",
  "2010,2027,d 2028,2028,c 2029,2029,a 202a,202e,d 202f,202f,7 2030,2034,6 2035,2043,d ",
  "2044,2044,7 2045,205e,d 205f,205f,c 2060,2064,9 2066,2069,d 206a,206f,9 2070,2070,4 ",
  "2074,2079,4 207a,207b,5 207c,207e,d 2080,2089,4 208a,208b,5 208c,208e,d 20a0,20c0,6 ",
  "20d0,20f0,8 2100,2101,d 2103,2106,d 2108,2109,d 2114,2114,d 2116,2118,d 211e,2123,d ",
  "2125,2125,d 2127,2127,d 2129,2129,d 212e,212e,6 213a,213b,d 2140,2144,d 214a,214d,d ",
  "2150,215f,d 2189,218b,d 2190,2211,d 2212,2212,5 2213,2213,6 2214,2335,d 237b,2394,d ",
  "2396,2426,d 2440,244a,d 2460,2487,d 2488,249b,4 24ea,26ab,d 26ad,27ff,d 2900,2b73,d ",
  "2b76,2b95,d 2b97,2bff,d 2ce5,2cea,d 2cef,2cf1,8 2cf9,2cff,d 2d7f,2d7f,8 2de0,2dff,8 ",
  "2e00,2e5d,d 2e80,2e99,d 2e9b,2ef3,d 2f00,2fd5,d 2ff0,2ffb,d 3000,3000,c 3001,3004,d ",
  "3008,3020,d 302a,302d,8 3030,3030,d 3036,3037,d 303d,303f,d 3099,309a,8 309b,309c,d ",
  "30a0,30a0,d 30fb,30fb,d 31c0,31e3,d 321d,321e,d 3250,325f,d 327c,327e,d 32b1,32bf,d ",
  "32cc,32cf,d 3377,337a,d 33de,33df,d 33ff,33ff,d 4dc0,4dff,d a490,a4c6,d a60d,a60f,d ",
  "a66f,a672,8 a673,a673,d a674,a67d,8 a67e,a67f,d a69e,a69f,8 a6f0,a6f1,8 a700,a721,d ",
  "a788,a788,d a802,a802,8 a806,a806,8 a80b,a80b,8 a825,a826,8 a828,a82b,d a82c,a82c,8 ",
  "a838,a839,6 a874,a877,d a8c4,a8c5,8 a8e0,a8f1,8 a8ff,a8ff,8 a926,a92d,8 a947,a951,8 ",
  "a980,a982,8 a9b3,a9b3,8 a9b6,a9b9,8 a9bc,a9bd,8 a9e5,a9e5,8 aa29,aa2e,8 aa31,aa32,8 ",
  "aa35,aa36,8 aa43,aa43,8 aa4c,aa4c,8 aa7c,aa7c,8 aab0,aab0,8 aab2,aab4,8 aab7,aab8,8 ",
  "aabe,aabf,8 aac1,aac1,8 aaec,aaed,8 aaf6,aaf6,8 ab6a,ab6b,d abe5,abe5,8 abe8,abe8,8 ",
  "abed,abed,8 fb1d,fb1d,1 fb1e,fb1e,8 fb1f,fb28,1 fb29,fb29,5 fb2a,fb36,1 fb38,fb3c,1 ",
  "fb3e,fb3e,1 fb40,fb41,1 fb43,fb44,1 fb46,fb4f,1 fb50,fbc2,2 fbd3,fd3d,2 fd3e,fd4f,d ",
  "fd50,fd8f,2 fd92,fdc7,2 fdcf,fdcf,d fdf0,fdfc,2 fdfd,fdff,d fe00,fe0f,8 fe10,fe19,d ",
  "fe20,fe2f,8 fe30,fe4f,d fe50,fe50,7 fe51,fe51,d fe52,fe52,7 fe54,fe54,d fe55,fe55,7 ",
  "fe56,fe5e,d fe5f,fe5f,6 fe60,fe61,d fe62,fe63,5 fe64,fe66,d fe68,fe68,d fe69,fe6a,6 ",
  "fe6b,fe6b,d fe70,fe74,2 fe76,fefc,2 feff,feff,9 ff01,ff02,d ff03,ff05,6 ff06,ff0a,d ",
  "ff0b,ff0b,5 ff0c,ff0c,7 ff0d,ff0d,5 ff0e,ff0f,7 ff10,ff19,4 ff1a,ff1a,7 ff1b,ff20,d ",
  "ff3b,ff40,d ff5b,ff65,d ffe0,ffe1,6 ffe2,ffe4,d ffe5,ffe6,6 ffe8,ffee,d fff9,fffd,d ",
  "10101,10101,d 10140,1018c,d 10190,1019c,d 101a0,101a0,d 101fd,101fd,8 102e0,102e0,8 ",
  "102e1,102fb,4 10376,1037a,8 10800,10805,1 10808,10808,1 1080a,10835,1 10837,10838,1 ",
  "1083c,1083c,1 1083f,10855,1 10857,1089e,1 108a7,108af,1 108e0,108f2,1 108f4,108f5,1 ",
  "108fb,1091b,1 1091f,1091f,d 10920,10939,1 1093f,1093f,1 10980,109b7,1 109bc,109cf,1 ",
  "109d2,10a00,1 10a01,10a03,8 10a05,10a06,8 10a0c,10a0f,8 10a10,10a13,1 10a15,10a17,1 ",
  "10a19,10a35,1 10a38,10a3a,8 10a3f,10a3f,8 10a40,10a48,1 10a50,10a58,1 10a60,10a9f,1 ",
  "10ac0,10ae4,1 10ae5,10ae6,8 10aeb,10af6,1 10b00,10b35,1 10b39,10b3f,d 10b40,10b55,1 ",
  "10b58,10b72,1 10b78,10b91,1 10b99,10b9c,1 10ba9,10baf,1 10c00,10c48,1 10c80,10cb2,1 ",
  "10cc0,10cf2,1 10cfa,10cff,1 10d00,10d23,2 10d24,10d27,8 10d30,10d39,3 10e60,10e7e,3 ",
  "10e80,10ea9,1 10eab,10eac,8 10ead,10ead,1 10eb0,10eb1,1 10f00,10f27,1 10f30,10f45,2 ",
  "10f46,10f50,8 10f51,10f59,2 10f70,10f81,1 10f82,10f85,8 10f86,10f89,1 10fb0,10fcb,1 ",
  "10fe0,10ff6,1 11001,11001,8 11038,11046,8 11052,11065,d 11070,11070,8 11073,11074,8 ",
  "1107f,11081,8 110b3,110b6,8 110b9,110ba,8 110c2,110c2,8 11100,11102,8 11127,1112b,8 ",
  "1112d,11134,8 11173,11173,8 11180,11181,8 111b6,111be,8 111c9,111cc,8 111cf,111cf,8 ",
  "1122f,11231,8 11234,11234,8 11236,11237,8 1123e,1123e,8 112df,112df,8 112e3,112ea,8 ",
  "11300,11301,8 1133b,1133c,8 11340,11340,8 11366,1136c,8 11370,11374,8 11438,1143f,8 ",
  "11442,11444,8 11446,11446,8 1145e,1145e,8 114b3,114b8,8 114ba,114ba,8 114bf,114c0,8 ",
  "114c2,114c3,8 115b2,115b5,8 115bc,115bd,8 115bf,115c0,8 115dc,115dd,8 11633,1163a,8 ",
  "1163d,1163d,8 1163f,11640,8 11660,1166c,d 116ab,116ab,8 116ad,116ad,8 116b0,116b5,8 ",
  "116b7,116b7,8 1171d,1171f,8 11722,11725,8 11727,1172b,8 1182f,11837,8 11839,1183a,8 ",
  "1193b,1193c,8 1193e,1193e,8 11943,11943,8 119d4,119d7,8 119da,119db,8 119e0,119e0,8 ",
  "11a01,11a06,8 11a09,11a0a,8 11a33,11a38,8 11a3b,11a3e,8 11a47,11a47,8 11a51,11a56,8 ",
  "11a59,11a5b,8 11a8a,11a96,8 11a98,11a99,8 11c30,11c36,8 11c38,11c3d,8 11c92,11ca7,8 ",
  "11caa,11cb0,8 11cb2,11cb3,8 11cb5,11cb6,8 11d31,11d36,8 11d3a,11d3a,8 11d3c,11d3d,8 ",
  "11d3f,11d45,8 11d47,11d47,8 11d90,11d91,8 11d95,11d95,8 11d97,11d97,8 11ef3,11ef4,8 ",
  "11fd5,11fdc,d 11fdd,11fe0,6 11fe1,11ff1,d 16af0,16af4,8 16b30,16b36,8 16f4f,16f4f,8 ",
  "16f8f,16f92,8 16fe2,16fe2,d 16fe4,16fe4,8 1bc9d,1bc9e,8 1bca0,1bca3,9 1cf00,1cf2d,8 ",
  "1cf30,1cf46,8 1d167,1d169,8 1d173,1d17a,9 1d17b,1d182,8 1d185,1d18b,8 1d1aa,1d1ad,8 ",
  "1d1e9,1d1ea,d 1d200,1d241,d 1d242,1d244,8 1d245,1d245,d 1d300,1d356,d 1d6db,1d6db,d ",
  "1d715,1d715,d 1d74f,1d74f,d 1d789,1d789,d 1d7c3,1d7c3,d 1d7ce,1d7ff,4 1da00,1da36,8 ",
  "1da3b,1da6c,8 1da75,1da75,8 1da84,1da84,8 1da9b,1da9f,8 1daa1,1daaf,8 1e000,1e006,8 ",
  "1e008,1e018,8 1e01b,1e021,8 1e023,1e024,8 1e026,1e02a,8 1e130,1e136,8 1e2ae,1e2ae,8 ",
  "1e2ec,1e2ef,8 1e2ff,1e2ff,6 1e800,1e8c4,1 1e8c7,1e8cf,1 1e8d0,1e8d6,8 1e900,1e943,1 ",
  "1e944,1e94a,8 1e94b,1e94b,1 1e950,1e959,1 1e95e,1e95f,1 1ec71,1ecb4,2 1ed01,1ed3d,2 ",
  "1ee00,1ee03,2 1ee05,1ee1f,2 1ee21,1ee22,2 1ee24,1ee24,2 1ee27,1ee27,2 1ee29,1ee32,2 ",
  "1ee34,1ee37,2 1ee39,1ee39,2 1ee3b,1ee3b,2 1ee42,1ee42,2 1ee47,1ee47,2 1ee49,1ee49,2 ",
  "1ee4b,1ee4b,2 1ee4d,1ee4f,2 1ee51,1ee52,2 1ee54,1ee54,2 1ee57,1ee57,2 1ee59,1ee59,2 ",
  "1ee5b,1ee5b,2 1ee5d,1ee5d,2 1ee5f,1ee5f,2 1ee61,1ee62,2 1ee64,1ee64,2 1ee67,1ee6a,2 ",
  "1ee6c,1ee72,2 1ee74,1ee77,2 1ee79,1ee7c,2 1ee7e,1ee7e,2 1ee80,1ee89,2 1ee8b,1ee9b,2 ",
  "1eea1,1eea3,2 1eea5,1eea9,2 1eeab,1eebb,2 1eef0,1eef1,d 1f000,1f02b,d 1f030,1f093,d ",
  "1f0a0,1f0ae,d 1f0b1,1f0bf,d 1f0c1,1f0cf,d 1f0d1,1f0f5,d 1f100,1f10a,4 1f10b,1f10f,d ",
  "1f12f,1f12f,d 1f16a,1f16f,d 1f1ad,1f1ad,d 1f260,1f265,d 1f300,1f6d7,d 1f6dd,1f6ec,d ",
  "1f6f0,1f6fc,d 1f700,1f773,d 1f780,1f7d8,d 1f7e0,1f7eb,d 1f7f0,1f7f0,d 1f800,1f80b,d ",
  "1f810,1f847,d 1f850,1f859,d 1f860,1f887,d 1f890,1f8ad,d 1f8b0,1f8b1,d 1f900,1fa53,d ",
  "1fa60,1fa6d,d 1fa70,1fa74,d 1fa78,1fa7c,d 1fa80,1fa86,d 1fa90,1faac,d 1fab0,1faba,d ",
  "1fac0,1fac5,d 1fad0,1fad9,d 1fae0,1fae7,d 1faf0,1faf6,d 1fb00,1fb92,d 1fb94,1fbca,d ",
  "1fbf0,1fbf9,4 e0001,e0001,9 e0020,e007f,9 e0100,e01ef,8 "]

/-- The direction of a number in the table. -/
def ofCode : Nat → Direction
  | 1 => right
  | 2 => rightLetter
  | 3 => rightNumber
  | 4 => number
  | 5 => numberSign
  | 6 => numberEnd
  | 7 => separator
  | 8 => mark
  | 9 => boundary
  | _ => other

def ofChar (c : Char) : Direction :=
  match Table.rangeValue? ranges c.toNat with
  | some k => ofCode k
  | none => left

/-- Whether the rule applies to a name because of a character. -/
def isRight (d : Direction) : Bool := d == right || d == rightLetter || d == rightNumber

def lastVisible (ds : List Direction) : Option Direction := ds.reverse.find? (· != mark)

/-- Whether a label keeps to one direction. -/
def labelHolds (label : List Char) : Bool :=
  let ds := label.map ofChar
  match ds.head? with
  | none => true
  | some d =>
    if d == right || d == rightLetter then
      ds.all (· != left) &&
        (match lastVisible ds with
          | some e => e == right || e == rightLetter || e == number || e == rightNumber
          | none => false) &&
        !(ds.contains number && ds.contains rightNumber)
    else if d == left then
      ds.all (fun d => !d.isRight) &&
        (match lastVisible ds with
          | some e => e == left || e == number
          | none => false)
    else false

end Direction

end Courier.Url.Domain
