import SealedBuild.Unicode.Table

/-!
# Case

The characters that have case or change under a case mapping.
-/

namespace SealedBuild.Unicode.Property

/-- The characters with the property Lowercase. -/
def lowercase : CharTable := CharTable.decode
  ["61+19 30 b 5 25+17 2+7 2 2 2 2 2 2 2 2 2 2 2 2 2 2 2 2 2 2 2 2 2 2 2 2 2 2 2 2+1 2 2 2 2 2",
    "2 2 2+1 2 2 2 2 2 2 2 2 2 2 2 2 2 2 2 2 2 2 2 2 2 2 2 3 2 2+2 3 2 3 4+1 5 3 4+2 3 3 2 2 3",
    "2+1 2 3 4 2 3+1 3+2 7 3 3 2 2 2 2 2 2 2 2+1 2 2 2 2 2 2 2 2 2+1 3 2 4 2 2 2 2 2 2 2 2 2 2 2",
    "2 2 2 2 2 2 2 2 2 2 2 2 2 2 2 2 2 2+6 3 3+1 2 5 2 2 2 2+44 3+22 8+1 1f+4 61 2c 2 4 3+3 13",
    "1c+22 2+1 4+2 2 2 2 2 2 2 2 2 2 2 2 2+4 2 3 3+1 34+2f 2 2 2 2 2 2 2 2 2 2 2 2 2 2 2 2 2 a 2",
    "2 2 2 2 2 2 2 2 2 2 2 2 2 2 2 2 2 2 2 2 2 2 2 2 2 3 2 2 2 2 2 2+1 2 2 2 2 2 2 2 2 2 2 2 2 2",
    "2 2 2 2 2 2 2 2 2 2 2 2 2 2 2 2 2 2 2 2 2 2 2 2 2 2 2 2 2 2 2 2 2 2 2 31+28 b48+2a 2+3",
    "2f9+5 883+8 2 76+bf 42 2 2 2 2 2 2 2 2 2 2 2 2 2 2 2 2 2 2 2 2 2 2 2 2 2 2 2 2 2 2 2 2 2 2",
    "2 2 2 2 2 2 2 2 2 2 2 2 2 2 2 2 2 2 2 2 2 2 2 2 2 2 2 2 2 2 2 2 2 2 2 2 2 2 2 2+8 2 2 2 2 2",
    "2 2 2 2 2 2 2 2 2 2 2 2 2 2 2 2 2 2 2 2 2 2 2 2 2 2 2 2 2 2 2 2 2 2 2 2 2 2 2 2 2 2 2 2+8",
    "9+5 b+7 9+7 9+5 b+7 9+7 9+d 3+7 9+7 9+7 9+4 2+1 7 4+2 2+1 9+3 3+1 9+7 b+2 2+1 7a e 11+c 6e",
    "4+1 4 1c 5 5 3+1 9+3 5 22+f 5 34c+19 747+2f 2 4+1 2 2 2 5 2+1 2+7 4 2 2 2 2 2 2 2 2 2 2 2 2",
    "2 2 2 2 2 2 2 2 2 2 2 2 2 2 2 2 2 2 2 2 2 2 2 2 2 2 2 2 2 2 2 2 2 2 2 2 2+1 8 2 5 d+25 2 6",
    "7914 2 2 2 2 2 2 2 2 2 2 2 2 2 2 2 2 2 2 2 2 2 2 14 2 2 2 2 2 2 2 2 2 2 2 2 2+2 86 2 2 2 2",
    "2 2+2 2 2 2 2 2 2 2 2 2 2 2 2 2 2 2 2 2 2 2 2 2 2 2 2 2 2 2 2 2 2 2+9 2 2 3 2 2 2 2 5 2 3",
    "2+2 2 2 2 2 2 2 2 2 2 2 6 6 2 2 2 2 2 2 2 5 2 3 2 2 2 2 2 2 2 16+3 2 2+2 336+2a 2+d 7+4f",
    "4f41+6 d+4 42a+19 4ce+27 89+23 9c+a 2+e 2+6 2+1 1c4 3+2 2+29 2+8 506+32 7e+15 b3b+1f",
    "5581+1f 3c+18 6547+19 1b+6 2+11 1b+19 1b+3 2 2+6 2+a 1b+19 1b+19 1b+19 1b+19 1b+19 1b+19",
    "1b+19 1b+19 1b+1b 1d+18 2+5 1b+18 2+5 1b+18 2+5 1b+18 2+5 1b+18 2+5 2 735+9 2+13 7+5 106+3d",
    "8b5+21"]

/-- The characters with the property Uppercase. -/
def uppercase : CharTable := CharTable.decode
  ["41+19 66+16 2+6 22 2 2 2 2 2 2 2 2 2 2 2 2 2 2 2 2 2 2 2 2 2 2 2 2 2 2 2 3 2 2 2 2 2 2 2 3",
    "2 2 2 2 2 2 2 2 2 2 2 2 2 2 2 2 2 2 2 2 2 2 2+1 2 2 4+1 2 2+1 2+2 3+3 2+1 2+2 4+1 2+1 2 2",
    "2+1 2 3 2+1 2+2 2 2+1 4 8 3 3 3 2 2 2 2 2 2 2 3 2 2 2 2 2 2 2 2 3 3 2+2 2 2 2 2 2 2 2 2 2 2",
    "2 2 2 2 2 2 2 2 2 2 2 2 2 2 2 2 2 2 2 8+1 2+1 3 2+3 2 2 2 2 122 2 4 9 7 2+2 2 2+1 2+10 2+8",
    "24 3+2 4 2 2 2 2 2 2 2 2 2 2 2 6 3 2+1 3+32 31 2 2 2 2 2 2 2 2 2 2 2 2 2 2 2 2 a 2 2 2 2 2",
    "2 2 2 2 2 2 2 2 2 2 2 2 2 2 2 2 2 2 2 2 2 2+1 2 2 2 2 2 2 3 2 2 2 2 2 2 2 2 2 2 2 2 2 2 2 2",
    "2 2 2 2 2 2 2 2 2 2 2 2 2 2 2 2 2 2 2 2 2 2 2 2 2 2 2 2 2 2 2 3+25 b4a+25 2 6 2d3+55 894",
    "7+2a 3+2 141 2 2 2 2 2 2 2 2 2 2 2 2 2 2 2 2 2 2 2 2 2 2 2 2 2 2 2 2 2 2 2 2 2 2 2 2 2 2 2",
    "2 2 2 2 2 2 2 2 2 2 2 2 2 2 2 2 2 2 2 2 2 2 2 2 2 2 2 2 2 2 2 2 2 2 2 a 2 2 2 2 2 2 2 2 2 2",
    "2 2 2 2 2 2 2 2 2 2 2 2 2 2 2 2 2 2 2 2 2 2 2 2 2 2 2 2 2 2 2 2 2 2 2 2 2 2 a+7 9+5 b+7 9+7",
    "9+5 c 2 2 2 9+7 49+3 d+3 d+3 d+4 c+3 107 5 4+2 3+2 3 4+4 7 2 2 2+3 3+3 b+1 6 1b+f 14 333+19",
    "731+2f 31 2+2 3 2 2 2+3 2 3 9+2 2 2 2 2 2 2 2 2 2 2 2 2 2 2 2 2 2 2 2 2 2 2 2 2 2 2 2 2 2 2",
    "2 2 2 2 2 2 2 2 2 2 2 2 2 2 2 2 2 2 2 9 2 5 794e 2 2 2 2 2 2 2 2 2 2 2 2 2 2 2 2 2 2 2 2 2",
    "2 14 2 2 2 2 2 2 2 2 2 2 2 2 2 88 2 2 2 2 2 2 4 2 2 2 2 2 2 2 2 2 2 2 2 2 2 2 2 2 2 2 2 2 2",
    "2 2 2 2 2 2 2 2 b 2 2+1 2 2 2 2 5 2 3 2 4 2 2 2 2 2 2 2 2 2 2+4 2+4 2 2 2 2 2 2 2 2+3 2 2+1",
    "2 2 2 2 2 2 2 2 19 572c+19 4c6+27 89+23 9d+a 2+e 2+6 2+1 6eb+32 9e+15 b3b+1f 5581+1f 41+18",
    "6548+19 1b+19 1b+19 1b 2+1 3 3+1 3+3 2+7 1b+19 1b+1 2+3 3+7 2+6 1c+1 2+3 2+4 2 4+6 1c+19",
    "1b+19 1b+19 1b+19 1b+19 1b+19 1f+18 22+18 22+18 22+18 22+18 22 1136+21 80f+19 7+19 7+19"]

/-- The characters with the property Cased. -/
def cased : CharTable := CharTable.decode
  ["41+19 7+19 30 b 5 6+16 2+1e 2+c2 2+3 5+cf 3+22 8+1 1f+4 61 2b+3 3+1 3+3 2 7 2+2 2 2+13 2+52",
    "2+8a 9+a5 2+25 a+28 b18+25 2 6 3+2a 2+3 2a1+55 3+5 883+a 6+2a 3+2 41+bf 41+115 3+5 3+25 3+5",
    "3+7 2 2 2 2+1e 3+34 2+6 2 4+2 2+6 4+3 3+5 5+c 6+2 2+6 75 e 11+c 66 5 3+9 2 4+4 7 2 2 2+3",
    "2+5 5 3+3 6+4 5 12+1f 4+1 332+33 717+e4 7+3 4+1 d+25 2 6 7913+2d 13+1d 85+65 4+3 2+4c 15+5",
    "2+2 336+2a 2+d 7+4f 4f41+6 d+4 40a+19 7+19 4a6+4f 61+23 5+23 75+a 2+e 2+6 2+1 2+a 2+e 2+6",
    "2+1 1c4 3+2 2+29 2+8 4c6+32 e+32 5e+15 b+15 b1b+3f 5561+3f 21+18 3+18 652d+54 2+46 2+1 3",
    "3+1 3+3 2+b 2 2+6 2+40 2+3 3+7 2+6 2+1b 2+3 2+4 2 4+6 2+153 3+18 2+18 2+1e 2+18 2+1e 2+18",
    "2+1e 2+18 2+1e 2+18 2+7 735+9 2+13 7+5 106+3d 893+43 7ed+19 7+19 7+19"]

/-- The characters with the property Case Ignorable. -/
def caseIgnorable : CharTable := CharTable.decode
  ["27 7 c 24 2 48 5 2 5 3+1 1f8+bf 5+1 5 a+1 2 fc+6 d0 6 32+2c 2 2+1 2+1 2 2d c+5 b+a 2 24",
    "b+14 11 66+7 2+9 2+3 22 2 1f+1a 5c+a 3b+a 5 3 19+17 2c+2 2d 8+1 6+8 2a+39 38 2 5+7 5 4+6",
    "b+1 e 10 3b 5+3 9 15+1 1b 3+1 3a 5+1 5+1 3+2 4 1f+1 4 c+1 3a 5+4 2+1 5 15+1 17+5 2 3b 3 2+3",
    "9 8+1 c+1 1f 3e d 33 4 38 2+2 6+2 2+3 8+1 c+1 1e 3b 3 7 6+1 15+1 1d+1 3a+1 5+3 9 15+1 1e 49",
    "8+2 2 5b 3+6 c+8 63 3+8 a 2+6 4a+1 1c 2 2 38+d 2+4 2+1 6+a 2+23 a 67+3 2+5 2+1 3+1 1a+1 5+2",
    "11+3 e 3+1 7 10 5f 261+2 3b3+2 1e+1 1f+1 1f+1 41+1 2+6 9 3+a 4 6 2e+4 34 42+1 23 77+2 5+1 a",
    "7+2 dc+1 3 3b 2+6 2 2 3+7 7+9 3 28 9+2d 3+b 15+3 31 2+4 2 6 29+8 d+1 21+3 3+1 2+2 39 2+1 4",
    "2+2 3b+7 3+1 41+5 53+2 2+c 2+6 5 7 4+1 33+3e e 23+64 1be 2+2 c+2 e+2 e+2 e+1 d+4 9+1 b 3",
    "3+4 32+4 2+9 2 e 11+c 34+20 b8c+1 72+2 7e 10 61+1f 30 1d6 25+3 4+4 6 5e+5 5e+2 6f17 4e3+5",
    "10f 63+3 2+9 2 1d+3 51+1 f+21 4f 18+2 67+3 4+1 9 4 5 1a+1 6 98+1 1b+11 e 27+7 1a+a 2f+2 31",
    "3+3 3+1 12 16+1 43+5 3+1 3+1 d 9 24 c 34 2+2 3+1 6+1 2 1c f+1 6+1 2 65+4 a+2 7a 3 5 4f31",
    "94+10 23e+f 4 d+f 23 3 aa 8 7 c 24 2 30 2e+1 44 16+2 202 e3 96+4 406+5 2+29 2+8 247+2 2+1",
    "6+3 29+2 5 a6+1 23e+3 27 1b+4 2 13c+1 19 35+5 47+a 32+3 7c 37+e 2a 3+1 b+2 32+3 3+1 3 5 b",
    "33+2 25+4 2+7 3f d+1 35+8 b+3 3 60+2 3 2+1 7 3 9e 4+7 16+1 3a+1 4 26+6 4+4 47+5 e 2 2 f+1",
    "56+7 3+2 2 18 55+5 2 5+1 2+1 ef+3 7+1 2+1 1c+1 56+7 3 2+1 6b 2 3+5 2 66 2 3+3 2+4 104+8 2+1",
    "101+1 2 5 91+3 3+1 5 21+9 29+5 3+3 9 a+5 3+2 2f+c 2+1 c7 2+2 2 ca+6 2+5 2 53+15 3+6 2+1 2+1",
    "7b+5 4 2+1 2+6 2 49+1 4 2 42 11a+1 c+1 35+4 6 2 18 14d6+10 7+e 2cc9+b 4+2 9c1+4 3c+6 a+3",
    "1fd+2 29+1 1e3 40+10 41+1 2+1 e+1 3ffd+3 2+6 2+1 c9f+1 2+3 125d+2d 3+16 221+2 a+f 3+6 1f+3",
    "95+2 7bc+36 5+31 9 f 17+4 2+e 551+6 2+10 3+6 2+1 2+4 6+3d 22 a1+d 171 3e+3 1fc+4 ff+1 f4 3",
    "8+1 6 a 1d1+6 6e+7 ab0+4 c0c02 1f+5f 81+ef"]

/-- The characters with the property Changes When Casefolded. -/
def changesWhenCasefolded : CharTable := CharTable.decode
  ["41+19 5b b+16 2+7 21 2 2 2 2 2 2 2 2 2 2 2 2 2 2 2 2 2 2 2 2 2 2 2 2 2 2 2 3 2 2 2 2 2 2 2",
    "2+1 2 2 2 2 2 2 2 2 2 2 2 2 2 2 2 2 2 2 2 2 2 2 2+1 2 2 2 2+1 2 2+1 2+2 3+3 2+1 2+2 4+1 2+1",
    "2 2 2+1 2 3 2+1 2+2 2 2+1 4 8+1 2+1 2+1 2 2 2 2 2 2 2 2 3 2 2 2 2 2 2 2 2 3+1 2 2+2 2 2 2 2",
    "2 2 2 2 2 2 2 2 2 2 2 2 2 2 2 2 2 2 2 2 2 2 2 2 2 8+1 2+1 3 2+3 2 2 2 2 f7 2b 2 4 9 7 2+2 2",
    "2+1 2+10 2+8 17 d+2 4+1 2 2 2 2 2 2 2 2 2 2 2 2 2+1 3+1 2 2+1 3+32 31 2 2 2 2 2 2 2 2 2 2 2",
    "2 2 2 2 2 a 2 2 2 2 2 2 2 2 2 2 2 2 2 2 2 2 2 2 2 2 2 2 2 2 2 2 2+1 2 2 2 2 2 2 3 2 2 2 2 2",
    "2 2 2 2 2 2 2 2 2 2 2 2 2 2 2 2 2 2 2 2 2 2 2 2 2 2 2 2 2 2 2 2 2 2 2 2 2 2 2 2 2 2 3+25 31",
    "b19+25 2 6 32b+5 883+9 7+2a 3+2 141 2 2 2 2 2 2 2 2 2 2 2 2 2 2 2 2 2 2 2 2 2 2 2 2 2 2 2 2",
    "2 2 2 2 2 2 2 2 2 2 2 2 2 2 2 2 2 2 2 2 2 2 2 2 2 2 2 2 2 2 2 2 2 2 2 2 2 2 2 2 2 2 2 2 2 2",
    "6+1 3 2 2 2 2 2 2 2 2 2 2 2 2 2 2 2 2 2 2 2 2 2 2 2 2 2 2 2 2 2 2 2 2 2 2 2 2 2 2 2 2 2 2 2",
    "2 2 2 2 2 a+7 9+5 b+7 9+7 9+5 c 2 2 2 9+7 11+2f 3+2 3+5 6+2 3+5 c+3 d+4 6+2 3+5 12a 4+1 7",
    "2e+f 14 333+19 731+2f 31 2+2 3 2 2 2+3 2 3 9+2 2 2 2 2 2 2 2 2 2 2 2 2 2 2 2 2 2 2 2 2 2 2",
    "2 2 2 2 2 2 2 2 2 2 2 2 2 2 2 2 2 2 2 2 2 2 2 2 2 2 2 9 2 5 794e 2 2 2 2 2 2 2 2 2 2 2 2 2",
    "2 2 2 2 2 2 2 2 2 14 2 2 2 2 2 2 2 2 2 2 2 2 2 88 2 2 2 2 2 2 4 2 2 2 2 2 2 2 2 2 2 2 2 2 2",
    "2 2 2 2 2 2 2 2 2 2 2 2 2 2 2 2 b 2 2+1 2 2 2 2 5 2 3 2 4 2 2 2 2 2 2 2 2 2 2+4 2+4 2 2 2 2",
    "2 2 2 2+3 2 2+1 2 2 2 2 2 2 2 2 19 37b+4f 4f41+6 d+4 40a+19 4c6+27 89+23 9d+a 2+e 2+6 2+1",
    "6eb+32 9e+15 b3b+1f 5581+1f 41+18 7a48+21"]

/-- The characters with the property Changes When Casemapped. -/
def changesWhenCasemapped : CharTable := CharTable.decode
  ["41+19 7+19 3b b+16 2+1e 2+3f 2+53 2+1b 3+d 3+1 2 5+5c 2+11 7+1a 2+1 2 2+1 4+1 2+3 2+4 3 2+1",
    "3 8 3 2+1 4+5 6 b+1 a7 2b+3 3+1 4+2 2 7 2+2 2 2+13 2+2e 4+20 2+4 2+84 9+a5 2+25 b+26 b19+25",
    "2 6 3+2a 3+2 2a1+55 3+5 883+a 6+2a 3+2 ba 4 11 72+9b 3 2+75 3+5 3+25 3+5 3+7 2 2 2 2+1e",
    "3+34 2+6 2 4+2 2+6 4+3 3+5 5+c 6+2 2+6 12a 4+1 7 1c 12+1f 4+1 332+33 717+70 2+1 2+1 8+65",
    "8+3 4+1 d+25 2 6 7913+2d 13+1b 87+d 3+3d a+e 4+2 3+4 2+18 2+2c 19+1 35d 1d+4f 4f41+6 d+4",
    "40a+19 7+19 4a6+4f 61+23 5+23 75+a 2+e 2+6 2+1 2+a 2+e 2+6 2+1 6c4+32 e+32 5e+15 b+15",
    "b1b+3f 5561+3f 21+18 3+18 7a2d+43"]

/-- The characters with the property Changes When Lowercased. -/
def changesWhenLowercased : CharTable := CharTable.decode
  ["41+19 66+16 2+6 22 2 2 2 2 2 2 2 2 2 2 2 2 2 2 2 2 2 2 2 2 2 2 2 2 2 2 2 3 2 2 2 2 2 2 2 3",
    "2 2 2 2 2 2 2 2 2 2 2 2 2 2 2 2 2 2 2 2 2 2 2+1 2 2 4+1 2 2+1 2+2 3+3 2+1 2+2 4+1 2+1 2 2",
    "2+1 2 3 2+1 2+2 2 2+1 4 8+1 2+1 2+1 2 2 2 2 2 2 2 2 3 2 2 2 2 2 2 2 2 3+1 2 2+2 2 2 2 2 2 2",
    "2 2 2 2 2 2 2 2 2 2 2 2 2 2 2 2 2 2 2 2 2 2 2 8+1 2+1 3 2+3 2 2 2 2 122 2 4 9 7 2+2 2 2+1",
    "2+10 2+8 24 9 2 2 2 2 2 2 2 2 2 2 2 6 3 2+1 3+32 31 2 2 2 2 2 2 2 2 2 2 2 2 2 2 2 2 a 2 2 2",
    "2 2 2 2 2 2 2 2 2 2 2 2 2 2 2 2 2 2 2 2 2 2 2 2+1 2 2 2 2 2 2 3 2 2 2 2 2 2 2 2 2 2 2 2 2 2",
    "2 2 2 2 2 2 2 2 2 2 2 2 2 2 2 2 2 2 2 2 2 2 2 2 2 2 2 2 2 2 2 2 2 3+25 b4a+25 2 6 2d3+55",
    "894 7+2a 3+2 141 2 2 2 2 2 2 2 2 2 2 2 2 2 2 2 2 2 2 2 2 2 2 2 2 2 2 2 2 2 2 2 2 2 2 2 2 2",
    "2 2 2 2 2 2 2 2 2 2 2 2 2 2 2 2 2 2 2 2 2 2 2 2 2 2 2 2 2 2 2 2 2 2 2 2 2 a 2 2 2 2 2 2 2 2",
    "2 2 2 2 2 2 2 2 2 2 2 2 2 2 2 2 2 2 2 2 2 2 2 2 2 2 2 2 2 2 2 2 2 2 2 2 2 2 2 2 a+7 9+5 b+7",
    "9+7 9+5 c 2 2 2 9+7 19+7 9+7 9+7 9+4 c+4 c+3 d+4 c+4 12a 4+1 7 2e+f 14 333+19 731+2f 31 2+2",
    "3 2 2 2+3 2 3 9+2 2 2 2 2 2 2 2 2 2 2 2 2 2 2 2 2 2 2 2 2 2 2 2 2 2 2 2 2 2 2 2 2 2 2 2 2 2",
    "2 2 2 2 2 2 2 2 2 2 2 2 9 2 5 794e 2 2 2 2 2 2 2 2 2 2 2 2 2 2 2 2 2 2 2 2 2 2 14 2 2 2 2 2",
    "2 2 2 2 2 2 2 2 88 2 2 2 2 2 2 4 2 2 2 2 2 2 2 2 2 2 2 2 2 2 2 2 2 2 2 2 2 2 2 2 2 2 2 2 2",
    "2 b 2 2+1 2 2 2 2 5 2 3 2 4 2 2 2 2 2 2 2 2 2 2+4 2+4 2 2 2 2 2 2 2 2+3 2 2+1 2 2 2 2 2 2 2",
    "2 19 572c+19 4c6+27 89+23 9d+a 2+e 2+6 2+1 6eb+32 9e+15 b3b+1f 5581+1f 41+18 7a48+21"]

/-- The characters with the property Changes When Titlecased. -/
def changesWhenTitlecased : CharTable := CharTable.decode
  ["61+19 3b 2a+17 2+7 2 2 2 2 2 2 2 2 2 2 2 2 2 2 2 2 2 2 2 2 2 2 2 2 2 2 2 2 3 2 2 2 2 2 2",
    "2+1 2 2 2 2 2 2 2 2 2 2 2 2 2 2 2 2 2 2 2 2 2 2 2 3 2 2+2 3 2 3 4 6 3 4+2 3 3 2 2 3 5 3 4 2",
    "3 4 2 5 2+1 2+1 2 2 2 2 2 2 2 2 2+1 2 2 2 2 2 2 2 2 2+2 2 2 4 2 2 2 2 2 2 2 2 2 2 2 2 2 2 2",
    "2 2 2 2 4 2 2 2 2 2 2 2 2 9 3+1 2 5 2 2 2 2+5 2+1 2 2+1 4+1 2+3 2+4 3 2+1 3 8 3 2+1 4+5 6",
    "b+1 a7 2c 2 4 4+2 13 1c+22 2+1 4+2 2 2 2 2 2 2 2 2 2 2 2 2+4 2 3 3 35+2f 2 2 2 2 2 2 2 2 2",
    "2 2 2 2 2 2 2 2 a 2 2 2 2 2 2 2 2 2 2 2 2 2 2 2 2 2 2 2 2 2 2 2 2 2 2 3 2 2 2 2 2 2+1 2 2 2",
    "2 2 2 2 2 2 2 2 2 2 2 2 2 2 2 2 2 2 2 2 2 2 2 2 2 2 2 2 2 2 2 2 2 2 2 2 2 2 2 2 2 2 2 2 2",
    "32+26 e71+5 883+8 2 ef 4 11 73 2 2 2 2 2 2 2 2 2 2 2 2 2 2 2 2 2 2 2 2 2 2 2 2 2 2 2 2 2 2",
    "2 2 2 2 2 2 2 2 2 2 2 2 2 2 2 2 2 2 2 2 2 2 2 2 2 2 2 2 2 2 2 2 2 2 2 2 2 2 2 2 2 2 2 2+6 6",
    "2 2 2 2 2 2 2 2 2 2 2 2 2 2 2 2 2 2 2 2 2 2 2 2 2 2 2 2 2 2 2 2 2 2 2 2 2 2 2 2 2 2 2 2 2 2",
    "2+8 9+5 b+7 9+7 9+5 b+7 9+7 9+d 3+7 9+7 9+7 9+4 2+1 7 4+2 2+1 9+3 3+1 9+7 b+2 2+1 157 22+f",
    "5 34c+19 747+2f 2 4+1 2 2 2 7 3 b 2 2 2 2 2 2 2 2 2 2 2 2 2 2 2 2 2 2 2 2 2 2 2 2 2 2 2 2 2",
    "2 2 2 2 2 2 2 2 2 2 2 2 2 2 2 2 2 2 2 2 9 2 5 d+25 2 6 7914 2 2 2 2 2 2 2 2 2 2 2 2 2 2 2 2",
    "2 2 2 2 2 2 14 2 2 2 2 2 2 2 2 2 2 2 2 2 88 2 2 2 2 2 2 4 2 2 2 2 2 2 2 2 2 2 2 2 2 2 2 2 2",
    "2 2 2 2 2 2 2 2 2 2 2 2 2 b 2 3 2 2 2 2 5 5 2+1 3 2 2 2 2 2 2 2 2 2 c 2 2 2 2 2 2 2 5 2 3 2",
    "2 2 2 2 2 2 1b 35d 1d+4f 4f41+6 d+4 42a+19 4ce+27 89+23 9c+a 2+e 2+6 2+1 704+32 7e+15",
    "b3b+1f 5581+1f 3c+18 7a4f+21"]

/-- The characters with the property Changes When Uppercased. -/
def changesWhenUppercased : CharTable := CharTable.decode
  ["61+19 3b 2a+17 2+7 2 2 2 2 2 2 2 2 2 2 2 2 2 2 2 2 2 2 2 2 2 2 2 2 2 2 2 2 3 2 2 2 2 2 2",
    "2+1 2 2 2 2 2 2 2 2 2 2 2 2 2 2 2 2 2 2 2 2 2 2 2 3 2 2+2 3 2 3 4 6 3 4+2 3 3 2 2 3 5 3 4 2",
    "3 4 2 6+1 2+1 2+1 2 2 2 2 2 2 2 2+1 2 2 2 2 2 2 2 2 2+1 2+1 2 4 2 2 2 2 2 2 2 2 2 2 2 2 2 2",
    "2 2 2 2 2 4 2 2 2 2 2 2 2 2 9 3+1 2 5 2 2 2 2+5 2+1 2 2+1 4+1 2+3 2+4 3 2+1 3 8 3 2+1 4+5 6",
    "b+1 a7 2c 2 4 4+2 13 1c+22 2+1 4+2 2 2 2 2 2 2 2 2 2 2 2 2+4 2 3 3 35+2f 2 2 2 2 2 2 2 2 2",
    "2 2 2 2 2 2 2 2 a 2 2 2 2 2 2 2 2 2 2 2 2 2 2 2 2 2 2 2 2 2 2 2 2 2 2 3 2 2 2 2 2 2+1 2 2 2",
    "2 2 2 2 2 2 2 2 2 2 2 2 2 2 2 2 2 2 2 2 2 2 2 2 2 2 2 2 2 2 2 2 2 2 2 2 2 2 2 2 2 2 2 2 2",
    "32+26 b49+2a 3+2 2f9+5 883+8 2 ef 4 11 73 2 2 2 2 2 2 2 2 2 2 2 2 2 2 2 2 2 2 2 2 2 2 2 2 2",
    "2 2 2 2 2 2 2 2 2 2 2 2 2 2 2 2 2 2 2 2 2 2 2 2 2 2 2 2 2 2 2 2 2 2 2 2 2 2 2 2 2 2 2 2 2 2",
    "2 2 2+6 6 2 2 2 2 2 2 2 2 2 2 2 2 2 2 2 2 2 2 2 2 2 2 2 2 2 2 2 2 2 2 2 2 2 2 2 2 2 2 2 2 2",
    "2 2 2 2 2 2+8 9+5 b+7 9+7 9+5 b+7 9+7 9+d 3+34 2+1 5 2 4+2 2+1 5 4+3 3+1 9+7 b+2 2+1 5 152",
    "22+f 5 34c+19 747+2f 2 4+1 2 2 2 7 3 b 2 2 2 2 2 2 2 2 2 2 2 2 2 2 2 2 2 2 2 2 2 2 2 2 2 2",
    "2 2 2 2 2 2 2 2 2 2 2 2 2 2 2 2 2 2 2 2 2 2 2 9 2 5 d+25 2 6 7914 2 2 2 2 2 2 2 2 2 2 2 2 2",
    "2 2 2 2 2 2 2 2 2 14 2 2 2 2 2 2 2 2 2 2 2 2 2 88 2 2 2 2 2 2 4 2 2 2 2 2 2 2 2 2 2 2 2 2 2",
    "2 2 2 2 2 2 2 2 2 2 2 2 2 2 2 2 b 2 3 2 2 2 2 5 5 2+1 3 2 2 2 2 2 2 2 2 2 c 2 2 2 2 2 2 2 5",
    "2 3 2 2 2 2 2 2 2 1b 35d 1d+4f 4f41+6 d+4 42a+19 4ce+27 89+23 9c+a 2+e 2+6 2+1 704+32 7e+15",
    "b3b+1f 5581+1f 3c+18 7a4f+21"]

/-- The characters with the property Soft Dotted. -/
def softDotted : CharTable := CharTable.decode
  ["69+1 c5 11a 1f 35 15 141 63 2 190a 34 e 4 85 9e 1a6 d7+1 b33 1a7a6+1 33+1 33+1 33+1 33+1",
    "33+1 33+1 33+1 33+1 33+1 33+1 33+1 33+1 887 132+1 1b"]

end SealedBuild.Unicode.Property
