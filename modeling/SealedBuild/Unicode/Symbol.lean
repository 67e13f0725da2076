import SealedBuild.Unicode.Table

/-!
# Marks, symbols and reserved characters

The remaining binary character properties.
-/

namespace SealedBuild.Unicode.Property

/-- The characters with the property ASCII Hex Digit. -/
def asciiHexDigit : CharTable := CharTable.decode
  ["30+9 8+5 1b+5"]

/-- The characters with the property Bidi Control. -/
def bidiControl : CharTable := CharTable.decode
  ["61c 19f2+1 1b+4 38+3"]

/-- The characters with the property Bidi Mirrored. -/
def bidiMirrored : CharTable := CharTable.decode
  ["28+1 13 2 1d 2 1e 2 2e 10 e7f+3 75e+1 99d+1 b+1 37+1 f+1 b2 c1+3 4+5 4 4+1 4+3 2+3 2 2 5+8",
    "6 2+11 6+3 a+1 2 2+7 2+1f 3+3 6 a+1 3+12 6+1 a+4 3+1 5+17 3+f 9+3 15+1 8+1 43e+d 4b 3+3 2+1",
    "2+2 6+3 6+2 4+d 194+15 3+5 2+d 9 8+5 4 5+4 2+1 3+4 5 2+2 3+1 b+5 3+1 d+12 2+3 3 2 3 2+3 6+1",
    "7+2 19+1 c+1 5+3 2+1 3+1 5+2a 3+7 2+27 6 2 4+4 6+2 5 4+4 2 101 204+3 4+1 2+1 f+1 3+9 2c+7",
    "1ac+9 3+7 ce3e+5 6+1 a3+1 13 2 1d 2 1e 2 2+1 2+1 d778 3a 3a 3a 3a"]

/-- The characters with the property Dash. -/
def dash : CharTable := CharTable.decode
  ["2d 55d 34 e42 406 80a+5 3e 28 10 187 c05 3 20+1 5 1d 1bf 14 70 cd91+1 26 b aa e61 13f"]

/-- The characters with the property Default Ignorable Code Point. -/
def defaultIgnorableCodePoint : CharTable := CharTable.decode
  ["ad 2a2 2cd b43+1 654+1 56+4 7fc+4 1b+4 32+f 10f5 cc9c+f f0 a1 50+8 bca8+3 14d0+7 c2e86+fff"]

/-- The characters with the property Deprecated. -/
def deprecated : CharTable := CharTable.decode
  ["149 52a 904 2 82a+1 8c6+5 2ba+1 ddcd7"]

/-- The characters with the property Diacritic. -/
def diacritic : CharTable := CharTable.decode
  ["5e 2 48 7 5 3+1 1f8+9e 2+7 6+5 12+1 5 a+1 fe+4 d2 38+2c 2 2+1 2+1 2 84+7 5+1 87+1 5+1 4+2",
    "44+1a 5c+a 3b+a 23+1 7f+7 2a+9 11+1b 3e 11 4+3 1d 4b 11 6f 11 6f 11 30+2 3d 11 8 78 6f 11",
    "6f 11 6e+1 11 7d 70 d+5 2 6c e+4 4c+1 1c 2 2 5+1 43+2 2+1 3f 71 2+1 29+1 5+4 1a+6 2 b+1",
    "2c2+2 3b5+1 1f 95+a a 15c+2 125 15+7 3 31+e 3+a 4+e 3+b 49 10 27+8 37+1 3b c+1 43+1 41+5",
    "53+18 5 7 3+2 33+3e 31+23 6+b 26+a 1be 2+2 c+2 e+2 e+2 e+1 cf1+2 13e 1fb+5 6a+3 60 7573 d+1",
    "2 1d+1 53+1 f+21 67+2 67 7+1 d 26 98 1c+11 3a+3 25 60 d 25 96+2 42+3 34 65+4 a+2 81+1 4f31",
    "302+f 10f 2 30 2e+1 44 2fd 4a0+5 2+29 2+8 27e+2 5 a6+1 23c+5 27 1b+4 18d 3+2 47+a 32+3 c1",
    "2a 49+1 79+1 3f 4d a+2 69+1 b3+1 51+1 11 19+6 4+4 5a+2 2+1 e+1 60 4 7c+1 fc+1 7f 77+1 74",
    "10e+1 103+1 5 9d 54 13 52 1a6 103 2+1 52 42 168+1 18 14ed+e 2cda 9c1+4 3c+6 235+1 223+10",
    "51+1 3fff+3 2+6 2+1 1f02+2d 3+16 221+2 4+5 9+7 3+6 1f+3 e83+3d c3+6 178 3e+3 2ff+1 2e1+6",
    "6e+2 2+2"]

/-- The characters with the property Emoji. -/
def emoji : CharTable := CharTable.decode
  ["23 7 6+9 70 5 1f8e d d9 17 5b+5 10+1 170+1 d a7 1a+a 5+2 c8 e8+1 b a 3b+3 2+4 a 3 3+1 3 5 3",
    "2+1 3 4 4+1 9+2 6 2 6+b c+1 3 2+1 2 13 3+1 13+5 2 2+1 4+1 6 3+1 5+1 c+1 6+1 3 6+1 2 2+1",
    "15+1 6+5 2+3 3 5 3 3+5 2 3 2 2 7 4 7 b+1 10 3 5 2 5+2 2 c+1 31+2 a f f 175+1 1d0+2 14+1 34",
    "5 4db d 25a 2 1bd6b cb a1+1 d+1 f 3+9 4c+19 2+1 18 15 3+8 16+1 af+21 3+6f 3+1 2+2 3+52 3+2",
    "2+106 2+3e c+5 2+17 8+1 3+7 d 3+3 3 5+1 e+1 3 9+1 a 6+2 d+2 9+2 3 2 5 7 4 7+55 31+45 6+7",
    "3+3 4+9 4 2+1 4 3+9 e4+b 5 11c+2e 2+9 2+b8 71+c 4+a 4+38 2 5+f 3+b 5+9"]

/-- The characters with the property Emoji Component. -/
def emojiComponent : CharTable := CharTable.decode
  ["23 7 6+9 1fd4 d6 dd2c f3d7+19 1fc+4 5b1+3 c066d+5f"]

/-- The characters with the property Emoji Modifier. -/
def emojiModifier : CharTable := CharTable.decode
  ["1f3fb+4"]

/-- The characters with the property Emoji Modifier Base. -/
def emojiModifierBase : CharTable := CharTable.decode
  ["261d dc 11+3 1cc78 3d+2 3 3+2 76+1 3+a 16+12 4 5+2 2+2 8 2 19 ca+1 5 16 5+1 af+2 4+4 54",
    "11+2 a c 240 3 9+7 7 a+9 3+2 39 3e+1 2+1 2 12+2 2+c e6+2 2b+8"]

/-- The characters with the property Emoji Presentation. -/
def emojiPresentation : CharTable := CharTable.decode
  ["231a+1 ce+3 4 3 20a+1 16+1 33+b 2c 14 e 9+1 12+1 6+1 9 6 16 8+1 2 5 3 8 5+1 1d 24 2 5+2 2",
    "3e+2 19 f 35c+1 34 5 1c4af cb bf 3+9 4c+19 2 19 15 3+4 2+2 16+1 af+20 d+8 2+45 2+15 d+2a",
    "5+4 d+10 4 4+46 2 2+ba 3+3e e+3 2+17 13 1b+1 e 57+54 31+45 7 4+2 3+3 4+3 c+1 8+8 e4+b 5",
    "11c+2e 2+9 2+b8 71+c 4+a 4+38 2 5+f 3+b 5+9"]

/-- The characters with the property Extended Pictographic. -/
def extendedPictographic : CharTable := CharTable.decode
  ["a9 5 1f8e d d9 17 5b+5 10+1 170+1 d a7 1a+a 5+2 c8 e8+1 b a 3b+3 2+4 a 3 3+1 3 5 3 2+1 3 4",
    "4+1 9+2 6 2 6+b c+1 3 2+1 2 13 3+1 13+5 2 2+1 4+1 6 3+1 5+1 c+1 6+1 3 6+1 2 2+1 15+1 6+5",
    "2+3 3 5 3 3+5 2 3 2 2 7 4 7 b+1 10 3 5 2 5+2 2 c+1 31+2 a f f 175+1 1d0+2 14+1 34 5 4db d",
    "25a 2 1bd6b 28+3 65+b 10+1 10 f+1 26+9 71+1 d+1 f 3+9 14+37 1c+e b 15 3+8 2+3 a+16 7+bb",
    "3+6f 3+1 2+2 3+52 3+2 2+3 6+fd 2+3e c+5 2+17 8+1 3+7 d 3+3 3 5+1 e+1 3 9+1 a 6+2 d+2 9+2 3",
    "2 5 7 4 7+55 31+45 6+7 3+10 4 2+5 3+c db+25 d+3 39+7 b+5 29+7 1f+1 d+3 3+d a+26 d+2e 2+9",
    "2+b8 59+7 f+91 101+3fd"]

/-- The characters with the property Extender. -/
def extender : CharTable := CharTable.decode
  ["b7 219+1 36f 1ba 277 8a 5a 2f1 80 944 39 264 18f 45 138a 2c+4 68+1 5e+2 6f17 5f7 3c3 17 8a",
    "6d 16+1 547c 811+1 5cc 1c 5 4c8 126 75+1 1f3+2 4d0 341 4d69+1 49d+1 2 f+1 7149+1 4b2 355+2"]

/-- The characters with the property Hex Digit. -/
def hexDigit : CharTable := CharTable.decode
  ["30+9 8+5 1b+5 feaa+9 8+5 1b+5"]

/-- The characters with the property IDS Binary Operator. -/
def idsBinaryOperator : CharTable := CharTable.decode
  ["2ff0+1 3+9 1f2"]

/-- The characters with the property IDS Trinary Operator. -/
def idsTrinaryOperator : CharTable := CharTable.decode
  ["2ff2+1"]

/-- The characters with the property Ideographic. -/
def ideographic : CharTable := CharTable.decode
  ["3006+1 1a+8 f+2 3c6+19bf 41+51ff 5901+16d 3+69 750b e+4 a+1cd5 2a+1f 62+72 237e+18b",
    "4d05+a6df 21+111d 3+168d 3+1d30 10+26d 9a3+21d 5e3+134a 6+2129"]

/-- The characters with the property Logical Order Exception. -/
def logicalOrderException : CharTable := CharTable.decode
  ["e40+4 7c+4 af1+2 3 90fb+1 3 2+1"]

/-- The characters with the property Math. -/
def math : CharTable := CharTable.decode
  ["2b 11+2 20 1e 2 2e 5 26 20 2d9+2 3 1b+1 3+2 210+2 1a0e 1c+2 c 4 e f+3 16+4 c+4 42+c 5 4+1",
    "5+4 13 5 3+9 2 3+5 7 4+1 3+1 2+2 2+5 4+d 2 45+17 2+5 2+1 5+1 5+1f 2 7+1 f+10b 9+3 15+1 5b",
    "1f+1a 2 19 c+6 1be+1 d+9 5+5 5+1 3+1 4+4 f 2 3+5 c+7 6+1 3a 2 1e+3 a+2 151+3f 101+1ff 31+14",
    "3+5 cfdd 338+5 2 a3 11+2 1e 2 1e 2 84 7+3 da2+1 c161 510+54 2+46 2+1 3 3+1 3+3 2+b 2 2+6",
    "2+40 2+3 3+7 2+6 2+1b 2+3 2+4 2 4+6 2+153 3+123 3+31 1601+3 2+1a 2+1 2 3 2+9 2+3 2 2 7 5 2",
    "2 2+2 2+1 2 3 2 2 2 2 2+1 2 3+3 2+6 2+3 2+3 2 2+9 2+10 6+2 2+4 2+10 35+1 9df+8"]

/-- The characters with the property Noncharacter Code Point. -/
def noncharacterCodePoint : CharTable := CharTable.decode
  ["fdd0+1f 20f+1 ffff+1 ffff+1 ffff+1 ffff+1 ffff+1 ffff+1 ffff+1 ffff+1 ffff+1 ffff+1 ffff+1",
    "ffff+1 ffff+1 ffff+1 ffff+1 ffff+1"]

/-- The characters with the property Pattern Syntax. -/
def patternSyntax : CharTable := CharTable.decode
  ["21+e b+6 1b+3 2 1b+3 23+6 2 2+1 2 2+1 5 5 4 18 20 1f19+17 9+e 3+12 2+9 132+2cf a1+275",
    "1f+46b 201+7f 182+2 5+18 10 cd0e+1 106+1"]

/-- The characters with the property Pattern White Space. -/
def patternWhiteSpace : CharTable := CharTable.decode
  ["9+4 13 65 1f89+1 19+1"]

/-- The characters with the property Quotation Mark. -/
def quotationMark : CharTable := CharTable.decode
  ["22 5 84 10 1f5d+7 1a+1 e08 1ca+3 e+2 ce22+3 be 5 5b+1"]

/-- The characters with the property Radical. -/
def radical : CharTable := CharTable.decode
  ["2e80+19 2+58 d+d5"]

/-- The characters with the property Regional Indicator. -/
def regionalIndicator : CharTable := CharTable.decode
  ["1f1e6+19"]

/-- The characters with the property Sentence Terminal. -/
def sentenceTerminal : CharTable := CharTable.decode
  ["21 d 11 54a 94+2 b5 2c+2 f7 3e 2 4+1 126+1 6e5+1 317 5+1 306 c7+1 9e+1 2e 6 13b+1 163+3",
    "a3+1 b+1 3+1 1e+2 bc+1 42+1 3a5 18+1 a+2 cb0+2 133 e 17+1 1ae 74fd 10f+1 e4 4 17f+1 57+1 60",
    "99+1 94+2 91+1 fa 5227 3+1 3c 4+1 aa d 11 42 af5+1 4fe+4 2d+3 be+1 76+3 80+2 82+1 7 11+1",
    "59+1 2+1 6d 12b+1 76+1 176+1 6+e 6a+1 fa+2 206 2 fc+1 58+1 1a5+1 2b5+1 4b+1 4b2a+1 86 42+1",
    "c 22a+1 129 4e07 1de9"]

/-- The characters with the property Terminal Punctuation. -/
def terminalPunctuation : CharTable := CharTable.decode
  ["21 b 2 c+1 4 33f 9 202 3a 49 f 2+2 b5 2c+a 2 ec+1 37+5 2+7 20 106+1 4f5+1 ad 5+5 138+1",
    "316+7 306 7d+2 48+1 9e+2 4 28+3 3+1 13b+1 163+3 a3+1 b+1 2+2 1e+2 bc+4 3f+1 3a5 18+1 a+2",
    "cb0+2 133 e 5 b 2+1 4+1 1ad+1 74fc+1 10e+2 e4+4 17f+1 57+1 60 98+2 94+2 80 11+1 fa 5227 3+1",
    "3a+2 2+3 aa b 2 c+1 4 42 3 43b 31 487 c8 137+1 99+5 45+5 5a+3 3b9+4 2d+3 be+6 71+3 80+2",
    "82+1 7 11+1 59+4 6d 12b+1 76+2 d+1 167+3 4+e 6a+1 fa+2 206 2 fc+1 58+1 5+1 19f+2 2e 286+1",
    "4b+1 52c+4 45fa+1 86 42+2 b 22a+1 128+1 4e07 1de8+3"]

/-- The characters with the property Unified Ideograph. -/
def unifiedIdeograph : CharTable := CharTable.decode
  ["3400+19bf 41+51ff 5a0f+1 2 2+1 b 2 2+1 3+2 105d7+a6df 21+111d 3+168d 3+1d30 10+26d",
    "11a3+134a 6+2129"]

/-- The characters with the property Variation Selector. -/
def variationSelector : CharTable := CharTable.decode
  ["180b+2 2 e5f1+f d02f1+ef"]

/-- The characters with the property Prepended Concatenation Mark. -/
def prependedConcatenationMark : CharTable := CharTable.decode
  ["600+5 d8 32 181+1 51 107db 10"]

/-- The characters with the property IDS Unary Operator. -/
def idsUnaryOperator : CharTable := CharTable.decode
  ["2ffe+1"]

/-- The characters with the property ID Compat Math Start. -/
def idCompatMathStart : CharTable := CharTable.decode
  ["2202 5 17 1b4a3 1a 20 1a 20 1a 20 1a 20 1a"]

/-- The characters with the property ID Compat Math Continue. -/
def idCompatMathContinue : CharTable := CharTable.decode
  ["b2+1 6 1fb7 4+a 2+e 174 5 17 1b4a3 1a 20 1a 20 1a 20 1a 20 1a"]

/-- The characters with the property Modifier Combining Mark. -/
def modifierCombiningMark : CharTable := CharTable.decode
  ["654+1 3 84 7 4+1 1e2+1 2+2 4 20"]

end SealedBuild.Unicode.Property
