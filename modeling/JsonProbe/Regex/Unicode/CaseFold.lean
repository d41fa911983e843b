/-!
# Simple case folding

The orbits of simple case folding of Unicode 16.0: each orbit is a set of two or more characters
that fold to the same character. Orbits are separated by commas, and the members of an orbit,
hexadecimal code points, by spaces.
-/

set_option autoImplicit false

namespace JsonProbe.Regex.Unicode

/-- The orbits of simple case folding. -/
def caseFoldOrbits : String :=
  "41 61,42 62,43 63,44 64,45 65,46 66,47 67,48 68,49 69,4A 6A,4B 6B 212A,4C 6C,4D 6D," ++
  "4E 6E,4F 6F,50 70,51 71,52 72,53 73 17F,54 74,55 75,56 76,57 77,58 78,59 79,5A 7A," ++
  "B5 39C 3BC,C0 E0,C1 E1,C2 E2,C3 E3,C4 E4,C5 E5 212B,C6 E6,C7 E7,C8 E8,C9 E9,CA EA,CB " ++
  "EB,CC EC,CD ED,CE EE,CF EF,D0 F0,D1 F1,D2 F2,D3 F3,D4 F4,D5 F5,D6 F6,D8 F8,D9 F9," ++
  "DA FA,DB FB,DC FC,DD FD,DE FE,DF 1E9E,FF 178,100 101,102 103,104 105,106 107,108 109," ++
  "10A 10B,10C 10D,10E 10F,110 111,112 113,114 115,116 117,118 119,11A 11B,11C 11D,11E " ++
  "11F,120 121,122 123,124 125,126 127,128 129,12A 12B,12C 12D,12E 12F,132 133,134 135," ++
  "136 137,139 13A,13B 13C,13D 13E,13F 140,141 142,143 144,145 146,147 148,14A 14B,14C " ++
  "14D,14E 14F,150 151,152 153,154 155,156 157,158 159,15A 15B,15C 15D,15E 15F,160 161," ++
  "162 163,164 165,166 167,168 169,16A 16B,16C 16D,16E 16F,170 171,172 173,174 175,176 " ++
  "177,179 17A,17B 17C,17D 17E,180 243,181 253,182 183,184 185,186 254,187 188,189 256," ++
  "18A 257,18B 18C,18E 1DD,18F 259,190 25B,191 192,193 260,194 263,195 1F6,196 269,197 " ++
  "268,198 199,19A 23D,19B A7DC,19C 26F,19D 272,19E 220,19F 275,1A0 1A1,1A2 1A3,1A4 1A5," ++
  "1A6 280,1A7 1A8,1A9 283,1AC 1AD,1AE 288,1AF 1B0,1B1 28A,1B2 28B,1B3 1B4,1B5 1B6,1B7 " ++
  "292,1B8 1B9,1BC 1BD,1BF 1F7,1C4 1C5 1C6,1C7 1C8 1C9,1CA 1CB 1CC,1CD 1CE,1CF 1D0,1D1 " ++
  "1D2,1D3 1D4,1D5 1D6,1D7 1D8,1D9 1DA,1DB 1DC,1DE 1DF,1E0 1E1,1E2 1E3,1E4 1E5,1E6 1E7," ++
  "1E8 1E9,1EA 1EB,1EC 1ED,1EE 1EF,1F1 1F2 1F3,1F4 1F5,1F8 1F9,1FA 1FB,1FC 1FD,1FE 1FF," ++
  "200 201,202 203,204 205,206 207,208 209,20A 20B,20C 20D,20E 20F,210 211,212 213,214 " ++
  "215,216 217,218 219,21A 21B,21C 21D,21E 21F,222 223,224 225,226 227,228 229,22A 22B," ++
  "22C 22D,22E 22F,230 231,232 233,23A 2C65,23B 23C,23E 2C66,23F 2C7E,240 2C7F,241 242," ++
  "244 289,245 28C,246 247,248 249,24A 24B,24C 24D,24E 24F,250 2C6F,251 2C6D,252 2C70,25C " ++
  "A7AB,261 A7AC,264 A7CB,265 A78D,266 A7AA,26A A7AE,26B 2C62,26C A7AD,271 2C6E,27D 2C64," ++
  "282 A7C5,287 A7B1,29D A7B2,29E A7B0,345 399 3B9 1FBE,370 371,372 373,376 377,37B 3FD," ++
  "37C 3FE,37D 3FF,37F 3F3,386 3AC,388 3AD,389 3AE,38A 3AF,38C 3CC,38E 3CD,38F 3CE,390 " ++
  "1FD3,391 3B1,392 3B2 3D0,393 3B3,394 3B4,395 3B5 3F5,396 3B6,397 3B7,398 3B8 3D1 3F4," ++
  "39A 3BA 3F0,39B 3BB,39D 3BD,39E 3BE,39F 3BF,3A0 3C0 3D6,3A1 3C1 3F1,3A3 3C2 3C3,3A4 3C4," ++
  "3A5 3C5,3A6 3C6 3D5,3A7 3C7,3A8 3C8,3A9 3C9 2126,3AA 3CA,3AB 3CB,3B0 1FE3,3CF 3D7,3D8 " ++
  "3D9,3DA 3DB,3DC 3DD,3DE 3DF,3E0 3E1,3E2 3E3,3E4 3E5,3E6 3E7,3E8 3E9,3EA 3EB,3EC 3ED," ++
  "3EE 3EF,3F2 3F9,3F7 3F8,3FA 3FB,400 450,401 451,402 452,403 453,404 454,405 455,406 " ++
  "456,407 457,408 458,409 459,40A 45A,40B 45B,40C 45C,40D 45D,40E 45E,40F 45F,410 430," ++
  "411 431,412 432 1C80,413 433,414 434 1C81,415 435,416 436,417 437,418 438,419 439,41A " ++
  "43A,41B 43B,41C 43C,41D 43D,41E 43E 1C82,41F 43F,420 440,421 441 1C83,422 442 1C84 1C85," ++
  "423 443,424 444,425 445,426 446,427 447,428 448,429 449,42A 44A 1C86,42B 44B,42C 44C," ++
  "42D 44D,42E 44E,42F 44F,460 461,462 463 1C87,464 465,466 467,468 469,46A 46B,46C 46D," ++
  "46E 46F,470 471,472 473,474 475,476 477,478 479,47A 47B,47C 47D,47E 47F,480 481,48A " ++
  "48B,48C 48D,48E 48F,490 491,492 493,494 495,496 497,498 499,49A 49B,49C 49D,49E 49F," ++
  "4A0 4A1,4A2 4A3,4A4 4A5,4A6 4A7,4A8 4A9,4AA 4AB,4AC 4AD,4AE 4AF,4B0 4B1,4B2 4B3,4B4 " ++
  "4B5,4B6 4B7,4B8 4B9,4BA 4BB,4BC 4BD,4BE 4BF,4C0 4CF,4C1 4C2,4C3 4C4,4C5 4C6,4C7 4C8," ++
  "4C9 4CA,4CB 4CC,4CD 4CE,4D0 4D1,4D2 4D3,4D4 4D5,4D6 4D7,4D8 4D9,4DA 4DB,4DC 4DD,4DE " ++
  "4DF,4E0 4E1,4E2 4E3,4E4 4E5,4E6 4E7,4E8 4E9,4EA 4EB,4EC 4ED,4EE 4EF,4F0 4F1,4F2 4F3," ++
  "4F4 4F5,4F6 4F7,4F8 4F9,4FA 4FB,4FC 4FD,4FE 4FF,500 501,502 503,504 505,506 507,508 " ++
  "509,50A 50B,50C 50D,50E 50F,510 511,512 513,514 515,516 517,518 519,51A 51B,51C 51D," ++
  "51E 51F,520 521,522 523,524 525,526 527,528 529,52A 52B,52C 52D,52E 52F,531 561,532 " ++
  "562,533 563,534 564,535 565,536 566,537 567,538 568,539 569,53A 56A,53B 56B,53C 56C," ++
  "53D 56D,53E 56E,53F 56F,540 570,541 571,542 572,543 573,544 574,545 575,546 576,547 " ++
  "577,548 578,549 579,54A 57A,54B 57B,54C 57C,54D 57D,54E 57E,54F 57F,550 580,551 581," ++
  "552 582,553 583,554 584,555 585,556 586,10A0 2D00,10A1 2D01,10A2 2D02,10A3 2D03,10A4 " ++
  "2D04,10A5 2D05,10A6 2D06,10A7 2D07,10A8 2D08,10A9 2D09,10AA 2D0A,10AB 2D0B,10AC 2D0C," ++
  "10AD 2D0D,10AE 2D0E,10AF 2D0F,10B0 2D10,10B1 2D11,10B2 2D12,10B3 2D13,10B4 2D14,10B5 " ++
  "2D15,10B6 2D16,10B7 2D17,10B8 2D18,10B9 2D19,10BA 2D1A,10BB 2D1B,10BC 2D1C,10BD 2D1D," ++
  "10BE 2D1E,10BF 2D1F,10C0 2D20,10C1 2D21,10C2 2D22,10C3 2D23,10C4 2D24,10C5 2D25,10C7 " ++
  "2D27,10CD 2D2D,10D0 1C90,10D1 1C91,10D2 1C92,10D3 1C93,10D4 1C94,10D5 1C95,10D6 1C96," ++
  "10D7 1C97,10D8 1C98,10D9 1C99,10DA 1C9A,10DB 1C9B,10DC 1C9C,10DD 1C9D,10DE 1C9E,10DF " ++
  "1C9F,10E0 1CA0,10E1 1CA1,10E2 1CA2,10E3 1CA3,10E4 1CA4,10E5 1CA5,10E6 1CA6,10E7 1CA7," ++
  "10E8 1CA8,10E9 1CA9,10EA 1CAA,10EB 1CAB,10EC 1CAC,10ED 1CAD,10EE 1CAE,10EF 1CAF,10F0 " ++
  "1CB0,10F1 1CB1,10F2 1CB2,10F3 1CB3,10F4 1CB4,10F5 1CB5,10F6 1CB6,10F7 1CB7,10F8 1CB8," ++
  "10F9 1CB9,10FA 1CBA,10FD 1CBD,10FE 1CBE,10FF 1CBF,13A0 AB70,13A1 AB71,13A2 AB72,13A3 " ++
  "AB73,13A4 AB74,13A5 AB75,13A6 AB76,13A7 AB77,13A8 AB78,13A9 AB79,13AA AB7A,13AB AB7B," ++
  "13AC AB7C,13AD AB7D,13AE AB7E,13AF AB7F,13B0 AB80,13B1 AB81,13B2 AB82,13B3 AB83,13B4 " ++
  "AB84,13B5 AB85,13B6 AB86,13B7 AB87,13B8 AB88,13B9 AB89,13BA AB8A,13BB AB8B,13BC AB8C," ++
  "13BD AB8D,13BE AB8E,13BF AB8F,13C0 AB90,13C1 AB91,13C2 AB92,13C3 AB93,13C4 AB94,13C5 " ++
  "AB95,13C6 AB96,13C7 AB97,13C8 AB98,13C9 AB99,13CA AB9A,13CB AB9B,13CC AB9C,13CD AB9D," ++
  "13CE AB9E,13CF AB9F,13D0 ABA0,13D1 ABA1,13D2 ABA2,13D3 ABA3,13D4 ABA4,13D5 ABA5,13D6 " ++
  "ABA6,13D7 ABA7,13D8 ABA8,13D9 ABA9,13DA ABAA,13DB ABAB,13DC ABAC,13DD ABAD,13DE ABAE," ++
  "13DF ABAF,13E0 ABB0,13E1 ABB1,13E2 ABB2,13E3 ABB3,13E4 ABB4,13E5 ABB5,13E6 ABB6,13E7 " ++
  "ABB7,13E8 ABB8,13E9 ABB9,13EA ABBA,13EB ABBB,13EC ABBC,13ED ABBD,13EE ABBE,13EF ABBF," ++
  "13F0 13F8,13F1 13F9,13F2 13FA,13F3 13FB,13F4 13FC,13F5 13FD,1C88 A64A A64B,1C89 1C8A," ++
  "1D79 A77D,1D7D 2C63,1D8E A7C6,1E00 1E01,1E02 1E03,1E04 1E05,1E06 1E07,1E08 1E09,1E0A " ++
  "1E0B,1E0C 1E0D,1E0E 1E0F,1E10 1E11,1E12 1E13,1E14 1E15,1E16 1E17,1E18 1E19,1E1A 1E1B," ++
  "1E1C 1E1D,1E1E 1E1F,1E20 1E21,1E22 1E23,1E24 1E25,1E26 1E27,1E28 1E29,1E2A 1E2B,1E2C " ++
  "1E2D,1E2E 1E2F,1E30 1E31,1E32 1E33,1E34 1E35,1E36 1E37,1E38 1E39,1E3A 1E3B,1E3C 1E3D," ++
  "1E3E 1E3F,1E40 1E41,1E42 1E43,1E44 1E45,1E46 1E47,1E48 1E49,1E4A 1E4B,1E4C 1E4D,1E4E " ++
  "1E4F,1E50 1E51,1E52 1E53,1E54 1E55,1E56 1E57,1E58 1E59,1E5A 1E5B,1E5C 1E5D,1E5E 1E5F," ++
  "1E60 1E61 1E9B,1E62 1E63,1E64 1E65,1E66 1E67,1E68 1E69,1E6A 1E6B,1E6C 1E6D,1E6E 1E6F," ++
  "1E70 1E71,1E72 1E73,1E74 1E75,1E76 1E77,1E78 1E79,1E7A 1E7B,1E7C 1E7D,1E7E 1E7F,1E80 " ++
  "1E81,1E82 1E83,1E84 1E85,1E86 1E87,1E88 1E89,1E8A 1E8B,1E8C 1E8D,1E8E 1E8F,1E90 1E91," ++
  "1E92 1E93,1E94 1E95,1EA0 1EA1,1EA2 1EA3,1EA4 1EA5,1EA6 1EA7,1EA8 1EA9,1EAA 1EAB,1EAC " ++
  "1EAD,1EAE 1EAF,1EB0 1EB1,1EB2 1EB3,1EB4 1EB5,1EB6 1EB7,1EB8 1EB9,1EBA 1EBB,1EBC 1EBD," ++
  "1EBE 1EBF,1EC0 1EC1,1EC2 1EC3,1EC4 1EC5,1EC6 1EC7,1EC8 1EC9,1ECA 1ECB,1ECC 1ECD,1ECE " ++
  "1ECF,1ED0 1ED1,1ED2 1ED3,1ED4 1ED5,1ED6 1ED7,1ED8 1ED9,1EDA 1EDB,1EDC 1EDD,1EDE 1EDF," ++
  "1EE0 1EE1,1EE2 1EE3,1EE4 1EE5,1EE6 1EE7,1EE8 1EE9,1EEA 1EEB,1EEC 1EED,1EEE 1EEF,1EF0 " ++
  "1EF1,1EF2 1EF3,1EF4 1EF5,1EF6 1EF7,1EF8 1EF9,1EFA 1EFB,1EFC 1EFD,1EFE 1EFF,1F00 1F08," ++
  "1F01 1F09,1F02 1F0A,1F03 1F0B,1F04 1F0C,1F05 1F0D,1F06 1F0E,1F07 1F0F,1F10 1F18,1F11 " ++
  "1F19,1F12 1F1A,1F13 1F1B,1F14 1F1C,1F15 1F1D,1F20 1F28,1F21 1F29,1F22 1F2A,1F23 1F2B," ++
  "1F24 1F2C,1F25 1F2D,1F26 1F2E,1F27 1F2F,1F30 1F38,1F31 1F39,1F32 1F3A,1F33 1F3B,1F34 " ++
  "1F3C,1F35 1F3D,1F36 1F3E,1F37 1F3F,1F40 1F48,1F41 1F49,1F42 1F4A,1F43 1F4B,1F44 1F4C," ++
  "1F45 1F4D,1F51 1F59,1F53 1F5B,1F55 1F5D,1F57 1F5F,1F60 1F68,1F61 1F69,1F62 1F6A,1F63 " ++
  "1F6B,1F64 1F6C,1F65 1F6D,1F66 1F6E,1F67 1F6F,1F70 1FBA,1F71 1FBB,1F72 1FC8,1F73 1FC9," ++
  "1F74 1FCA,1F75 1FCB,1F76 1FDA,1F77 1FDB,1F78 1FF8,1F79 1FF9,1F7A 1FEA,1F7B 1FEB,1F7C " ++
  "1FFA,1F7D 1FFB,1F80 1F88,1F81 1F89,1F82 1F8A,1F83 1F8B,1F84 1F8C,1F85 1F8D,1F86 1F8E," ++
  "1F87 1F8F,1F90 1F98,1F91 1F99,1F92 1F9A,1F93 1F9B,1F94 1F9C,1F95 1F9D,1F96 1F9E,1F97 " ++
  "1F9F,1FA0 1FA8,1FA1 1FA9,1FA2 1FAA,1FA3 1FAB,1FA4 1FAC,1FA5 1FAD,1FA6 1FAE,1FA7 1FAF," ++
  "1FB0 1FB8,1FB1 1FB9,1FB3 1FBC,1FC3 1FCC,1FD0 1FD8,1FD1 1FD9,1FE0 1FE8,1FE1 1FE9,1FE5 " ++
  "1FEC,1FF3 1FFC,2132 214E,2160 2170,2161 2171,2162 2172,2163 2173,2164 2174,2165 2175," ++
  "2166 2176,2167 2177,2168 2178,2169 2179,216A 217A,216B 217B,216C 217C,216D 217D,216E " ++
  "217E,216F 217F,2183 2184,24B6 24D0,24B7 24D1,24B8 24D2,24B9 24D3,24BA 24D4,24BB 24D5," ++
  "24BC 24D6,24BD 24D7,24BE 24D8,24BF 24D9,24C0 24DA,24C1 24DB,24C2 24DC,24C3 24DD,24C4 " ++
  "24DE,24C5 24DF,24C6 24E0,24C7 24E1,24C8 24E2,24C9 24E3,24CA 24E4,24CB 24E5,24CC 24E6," ++
  "24CD 24E7,24CE 24E8,24CF 24E9,2C00 2C30,2C01 2C31,2C02 2C32,2C03 2C33,2C04 2C34,2C05 " ++
  "2C35,2C06 2C36,2C07 2C37,2C08 2C38,2C09 2C39,2C0A 2C3A,2C0B 2C3B,2C0C 2C3C,2C0D 2C3D," ++
  "2C0E 2C3E,2C0F 2C3F,2C10 2C40,2C11 2C41,2C12 2C42,2C13 2C43,2C14 2C44,2C15 2C45,2C16 " ++
  "2C46,2C17 2C47,2C18 2C48,2C19 2C49,2C1A 2C4A,2C1B 2C4B,2C1C 2C4C,2C1D 2C4D,2C1E 2C4E," ++
  "2C1F 2C4F,2C20 2C50,2C21 2C51,2C22 2C52,2C23 2C53,2C24 2C54,2C25 2C55,2C26 2C56,2C27 " ++
  "2C57,2C28 2C58,2C29 2C59,2C2A 2C5A,2C2B 2C5B,2C2C 2C5C,2C2D 2C5D,2C2E 2C5E,2C2F 2C5F," ++
  "2C60 2C61,2C67 2C68,2C69 2C6A,2C6B 2C6C,2C72 2C73,2C75 2C76,2C80 2C81,2C82 2C83,2C84 " ++
  "2C85,2C86 2C87,2C88 2C89,2C8A 2C8B,2C8C 2C8D,2C8E 2C8F,2C90 2C91,2C92 2C93,2C94 2C95," ++
  "2C96 2C97,2C98 2C99,2C9A 2C9B,2C9C 2C9D,2C9E 2C9F,2CA0 2CA1,2CA2 2CA3,2CA4 2CA5,2CA6 " ++
  "2CA7,2CA8 2CA9,2CAA 2CAB,2CAC 2CAD,2CAE 2CAF,2CB0 2CB1,2CB2 2CB3,2CB4 2CB5,2CB6 2CB7," ++
  "2CB8 2CB9,2CBA 2CBB,2CBC 2CBD,2CBE 2CBF,2CC0 2CC1,2CC2 2CC3,2CC4 2CC5,2CC6 2CC7,2CC8 " ++
  "2CC9,2CCA 2CCB,2CCC 2CCD,2CCE 2CCF,2CD0 2CD1,2CD2 2CD3,2CD4 2CD5,2CD6 2CD7,2CD8 2CD9," ++
  "2CDA 2CDB,2CDC 2CDD,2CDE 2CDF,2CE0 2CE1,2CE2 2CE3,2CEB 2CEC,2CED 2CEE,2CF2 2CF3,A640 " ++
  "A641,A642 A643,A644 A645,A646 A647,A648 A649,A64C A64D,A64E A64F,A650 A651,A652 A653," ++
  "A654 A655,A656 A657,A658 A659,A65A A65B,A65C A65D,A65E A65F,A660 A661,A662 A663,A664 " ++
  "A665,A666 A667,A668 A669,A66A A66B,A66C A66D,A680 A681,A682 A683,A684 A685,A686 A687," ++
  "A688 A689,A68A A68B,A68C A68D,A68E A68F,A690 A691,A692 A693,A694 A695,A696 A697,A698 " ++
  "A699,A69A A69B,A722 A723,A724 A725,A726 A727,A728 A729,A72A A72B,A72C A72D,A72E A72F," ++
  "A732 A733,A734 A735,A736 A737,A738 A739,A73A A73B,A73C A73D,A73E A73F,A740 A741,A742 " ++
  "A743,A744 A745,A746 A747,A748 A749,A74A A74B,A74C A74D,A74E A74F,A750 A751,A752 A753," ++
  "A754 A755,A756 A757,A758 A759,A75A A75B,A75C A75D,A75E A75F,A760 A761,A762 A763,A764 " ++
  "A765,A766 A767,A768 A769,A76A A76B,A76C A76D,A76E A76F,A779 A77A,A77B A77C,A77E A77F," ++
  "A780 A781,A782 A783,A784 A785,A786 A787,A78B A78C,A790 A791,A792 A793,A794 A7C4,A796 " ++
  "A797,A798 A799,A79A A79B,A79C A79D,A79E A79F,A7A0 A7A1,A7A2 A7A3,A7A4 A7A5,A7A6 A7A7," ++
  "A7A8 A7A9,A7B3 AB53,A7B4 A7B5,A7B6 A7B7,A7B8 A7B9,A7BA A7BB,A7BC A7BD,A7BE A7BF,A7C0 " ++
  "A7C1,A7C2 A7C3,A7C7 A7C8,A7C9 A7CA,A7CC A7CD,A7D0 A7D1,A7D6 A7D7,A7D8 A7D9,A7DA A7DB," ++
  "A7F5 A7F6,FB05 FB06,FF21 FF41,FF22 FF42,FF23 FF43,FF24 FF44,FF25 FF45,FF26 FF46,FF27 " ++
  "FF47,FF28 FF48,FF29 FF49,FF2A FF4A,FF2B FF4B,FF2C FF4C,FF2D FF4D,FF2E FF4E,FF2F FF4F," ++
  "FF30 FF50,FF31 FF51,FF32 FF52,FF33 FF53,FF34 FF54,FF35 FF55,FF36 FF56,FF37 FF57,FF38 " ++
  "FF58,FF39 FF59,FF3A FF5A,10400 10428,10401 10429,10402 1042A,10403 1042B,10404 1042C," ++
  "10405 1042D,10406 1042E,10407 1042F,10408 10430,10409 10431,1040A 10432,1040B 10433,1040C " ++
  "10434,1040D 10435,1040E 10436,1040F 10437,10410 10438,10411 10439,10412 1043A,10413 " ++
  "1043B,10414 1043C,10415 1043D,10416 1043E,10417 1043F,10418 10440,10419 10441,1041A " ++
  "10442,1041B 10443,1041C 10444,1041D 10445,1041E 10446,1041F 10447,10420 10448,10421 " ++
  "10449,10422 1044A,10423 1044B,10424 1044C,10425 1044D,10426 1044E,10427 1044F,104B0 " ++
  "104D8,104B1 104D9,104B2 104DA,104B3 104DB,104B4 104DC,104B5 104DD,104B6 104DE,104B7 " ++
  "104DF,104B8 104E0,104B9 104E1,104BA 104E2,104BB 104E3,104BC 104E4,104BD 104E5,104BE " ++
  "104E6,104BF 104E7,104C0 104E8,104C1 104E9,104C2 104EA,104C3 104EB,104C4 104EC,104C5 " ++
  "104ED,104C6 104EE,104C7 104EF,104C8 104F0,104C9 104F1,104CA 104F2,104CB 104F3,104CC " ++
  "104F4,104CD 104F5,104CE 104F6,104CF 104F7,104D0 104F8,104D1 104F9,104D2 104FA,104D3 " ++
  "104FB,10570 10597,10571 10598,10572 10599,10573 1059A,10574 1059B,10575 1059C,10576 " ++
  "1059D,10577 1059E,10578 1059F,10579 105A0,1057A 105A1,1057C 105A3,1057D 105A4,1057E " ++
  "105A5,1057F 105A6,10580 105A7,10581 105A8,10582 105A9,10583 105AA,10584 105AB,10585 " ++
  "105AC,10586 105AD,10587 105AE,10588 105AF,10589 105B0,1058A 105B1,1058C 105B3,1058D " ++
  "105B4,1058E 105B5,1058F 105B6,10590 105B7,10591 105B8,10592 105B9,10594 105BB,10595 " ++
  "105BC,10C80 10CC0,10C81 10CC1,10C82 10CC2,10C83 10CC3,10C84 10CC4,10C85 10CC5,10C86 " ++
  "10CC6,10C87 10CC7,10C88 10CC8,10C89 10CC9,10C8A 10CCA,10C8B 10CCB,10C8C 10CCC,10C8D " ++
  "10CCD,10C8E 10CCE,10C8F 10CCF,10C90 10CD0,10C91 10CD1,10C92 10CD2,10C93 10CD3,10C94 " ++
  "10CD4,10C95 10CD5,10C96 10CD6,10C97 10CD7,10C98 10CD8,10C99 10CD9,10C9A 10CDA,10C9B " ++
  "10CDB,10C9C 10CDC,10C9D 10CDD,10C9E 10CDE,10C9F 10CDF,10CA0 10CE0,10CA1 10CE1,10CA2 " ++
  "10CE2,10CA3 10CE3,10CA4 10CE4,10CA5 10CE5,10CA6 10CE6,10CA7 10CE7,10CA8 10CE8,10CA9 " ++
  "10CE9,10CAA 10CEA,10CAB 10CEB,10CAC 10CEC,10CAD 10CED,10CAE 10CEE,10CAF 10CEF,10CB0 " ++
  "10CF0,10CB1 10CF1,10CB2 10CF2,10D50 10D70,10D51 10D71,10D52 10D72,10D53 10D73,10D54 " ++
  "10D74,10D55 10D75,10D56 10D76,10D57 10D77,10D58 10D78,10D59 10D79,10D5A 10D7A,10D5B " ++
  "10D7B,10D5C 10D7C,10D5D 10D7D,10D5E 10D7E,10D5F 10D7F,10D60 10D80,10D61 10D81,10D62 " ++
  "10D82,10D63 10D83,10D64 10D84,10D65 10D85,118A0 118C0,118A1 118C1,118A2 118C2,118A3 " ++
  "118C3,118A4 118C4,118A5 118C5,118A6 118C6,118A7 118C7,118A8 118C8,118A9 118C9,118AA " ++
  "118CA,118AB 118CB,118AC 118CC,118AD 118CD,118AE 118CE,118AF 118CF,118B0 118D0,118B1 " ++
  "118D1,118B2 118D2,118B3 118D3,118B4 118D4,118B5 118D5,118B6 118D6,118B7 118D7,118B8 " ++
  "118D8,118B9 118D9,118BA 118DA,118BB 118DB,118BC 118DC,118BD 118DD,118BE 118DE,118BF " ++
  "118DF,16E40 16E60,16E41 16E61,16E42 16E62,16E43 16E63,16E44 16E64,16E45 16E65,16E46 " ++
  "16E66,16E47 16E67,16E48 16E68,16E49 16E69,16E4A 16E6A,16E4B 16E6B,16E4C 16E6C,16E4D " ++
  "16E6D,16E4E 16E6E,16E4F 16E6F,16E50 16E70,16E51 16E71,16E52 16E72,16E53 16E73,16E54 " ++
  "16E74,16E55 16E75,16E56 16E76,16E57 16E77,16E58 16E78,16E59 16E79,16E5A 16E7A,16E5B " ++
  "16E7B,16E5C 16E7C,16E5D 16E7D,16E5E 16E7E,16E5F 16E7F,1E900 1E922,1E901 1E923,1E902 " ++
  "1E924,1E903 1E925,1E904 1E926,1E905 1E927,1E906 1E928,1E907 1E929,1E908 1E92A,1E909 " ++
  "1E92B,1E90A 1E92C,1E90B 1E92D,1E90C 1E92E,1E90D 1E92F,1E90E 1E930,1E90F 1E931,1E910 " ++
  "1E932,1E911 1E933,1E912 1E934,1E913 1E935,1E914 1E936,1E915 1E937,1E916 1E938,1E917 " ++
  "1E939,1E918 1E93A,1E919 1E93B,1E91A 1E93C,1E91B 1E93D,1E91C 1E93E,1E91D 1E93F,1E91E " ++
  "1E940,1E91F 1E941,1E920 1E942,1E921 1E943"

end JsonProbe.Regex.Unicode
