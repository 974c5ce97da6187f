/-!
# Directions and joining

Which way characters run, and how letters of joining scripts join their neighbours, as far as domain
names depend on it.

A set of code points is written by the gaps between its ranges: `41+19` leaves out `0x41` of them
and takes the next one and `0x19` more.
-/

namespace MediaPaths.Unicode

/-- The bidirectional classes with their code points. -/
def bidiClasses : List (String × List String) := [
  ("al",
    ["608 2 1 d+2f 22+2 1+64 f+1 7+1 a+16 1+1d 1b+5a b+e a0+2f 2+5 8+29 f286+1ed 12+7e 21+c",
     "73+8e e01+23 4+7 a+5 180+3c 33+15 b+1e dd00+4f 40+4f b0+ef 2+d"]),
  ("an",
    ["600+5 5a+9 1+1 70 1b2+1 50 1044d+9 126+1e"]),
  ("b",
    ["a 2 e+2 66 1fa3"]),
  ("bn",
    ["0+8 5+d 63+5 1+19 d 1760 7fc+2 52+5 4+5 dd60+1f 10f f0+8 5+1 bca0+3 14cf+7 2e83+1",
     "fffe+1 fffe+1 fffe+1 fffe+1 fffe+1 fffe+1 fffe+1 fffe+1 fffe+1 fffe+1 fffe+1 fffe+101",
     "f0+e0f effe+1 fffe+1 fffe+1"]),
  ("cs",
    ["2c 1+1 a 65 56b 1a22 14 de0b 1 2 b6 1+1 a"]),
  ("en",
    ["30+9 78+1 5 636+9 1976 3+5 6+9 3fe+13 da74+9 3c7+1a d4d2+31 1900+a ae5+9"]),
  ("es",
    ["2b 1 204c+1 e+1 186 d916 338+1 a7 1"]),
  ("et",
    ["23+2 7c+3 a+1 4dd 79+1 5f 387+1 7 f5 107 245 99b 854+4 6b+2f 5e e4 8624+1 5625 9+1 98+2",
     "da+1 3+1 1ff6+3 c31e"]),
  ("fsi",
    ["2068"]),
  ("l",
    ["41+19 6+19 2f a 4 5+16 1+1e 1+1c0 2+6 e+1 e+4 9 81+3 2+7 1+4 2 1+6d 1+8b 7+ff 1+1",
     "376+36 1 1+3 8+3 1+2 7+9 2+1c 1+39 1+3 4+7 1+13 2+d 2+6 1+1 1+1 2+38 1+3 2+3 2+1 3+2",
     "1+1d 2+2 1+a 2+38 1+3 5 2+3 1+13 2+c 1+7 6 1+39 1+1 1 4+7 1+6 2+a 2+1d 1+3c 1+b 1+24",
     "8+4 1+2 1+36 1 3+4 3 4+6 2+a 2+13 7+1 1+39 1+e 2+13 2+1b 2+38 2+3 4+7 1+13 2+1c 1+47",
     "1+6 3 1+59 1+1 7+3 1+6 8+61 1+1 9+a 7+48 2+1a 1 1 5+32 e 5 2+4 b 24+8 1+65 4 6 2+1 2+18",
     "2+3 3+f 4+c 1+1 2+5 1+e 1+2be 3+2f a+65 1+27e 1+19 2+74 3+1c 2+1d 2+1d 2+3f 2 7+7 1+1",
     "b+6 1 1+11 a+5 10+74 2+21 1+75 3+3 2+8 1+5 3+3 1+2 2+97 22+16 2+1 1+39 1 7 1 1+1 8+5",
     "a+1 1+2f 1f+30 4+2f 1 5 1+4 1+27 9+b 2+1f 4+1 2 3+37 1 2+2 1 3+39 8+1 2+97 3 d 7+3 1+5",
     "1+2 2+c5 40+1bc 1 3+a 3+c 3+c 3+c 2 e 62+2 b f+10 51+e 2 4 2+9 1 3+4 6 1 1 1+3 1+a 2+3",
     "5+4 4+1 10+28 3+3 1a6+44 1a 91+18 b+14 3c+4d 1c2 153+ff 274+1 20 69+e4 6+3 3+6 7+7e",
     "1+5f 7e+21 1a 59+b d6+19 c+3 5+2 19+8 4+1 1+4 2+4 3+58 4+2 1+59 1+c3 24+38 2+30 10+1b",
     "3+31 f+b 4+a6 4+62 2+1e 1+19bf 40+568f 37+145 3+5e 11+1d 2+4f 2+d 22+65 1+78 1+2 1+3",
     "1+18 2 5+a 2+39 4+4b 2+19 12+c 1+25 8+18 b+2d 3+2f 1+1 4+1 2+26 1+42 6+1 2+1 2+b 1+7",
     "1+2e 1+32 1 3+1 2+4 2 1+29 2+7 1+72 2+78 1+1 1+3 1+2c11 800+1b1c 2fd+5 33 13 4+3 90",
     "20+19 6+19 b+79 7 7 10+100 1+3d 4d+2 d+2 1+5b 1+e1 1c+79 5+484 800 1+35 f+a 14+9 1+1",
     "2+9 3+30 4+1 2+6 1+3c 3+23 5 8+3d 1+b 2+33 9+9 4+1 1+5e 3+1 1 2+5 1+1 1+9c 1+2 8+14",
     "2+38 2+2 1+24 7+2 5+c2 8+1 3 1+16 1+53 6 1+3 2 2+ed 4+5 2 2+1a 2+54 8+1 1 2+1e d+3d 1",
     "1+1 6 1+64 3+1 4 5+102 9 2+ff 2 1+3 1+8f 4+1 2+3 1+1f 6+1 2+27 6+1 4+7 1+8 6+1 3+2d d",
     "2+195 7 6+53 16+1 7 2 2+79 6+2 1 2 7 1+47 2+2 1 1+15a 2+a 2+33 5+4 1 1+91 1d+144d 1+5",
     "f+3699 5+3a 7+417 1+3e 4+4e 1 1+4cb7 2 4+125b 2e+1 17+21f 3+8 10+1 7+1d 4+3a 2+14 46+b9",
     "57+383 1+38 1+38 1+38 1+38 1+9 32+1ff 37+3 32+7 1+d 1+15 5 f+54f 7 11+1 7 2 5+63 1+9f",
     "7+176 1+3c 4+e 1+1eb 4+30f 82c+3 64+b f+1 f f 25+9 10+1e 1+39 6+3c 1+b1 6+99 3d8+3 11+2",
     "d+2 77+3 5f+5 c+3 1+e c+3 38+7 a+5 28+7 1e+1 2+4d 154+b e+1 d+2 9+6 2e 7+7 e+3 9+6 9+6",
     "93 37+24 a+403 2+fffd 2+fffd 2+fffd 2+fffd 2+fffd 2+fffd 2+fffd 2+fffd 2+fffd 2+fffd",
     "2+fffd 2+fffd 1002+effd 2+fffd 2+fffd 2+-1"]),
  ("lre",
    ["202a"]),
  ("lri",
    ["2066"]),
  ("lro",
    ["202d"]),
  ("nsm",
    ["300+6f 113+6 107+2c 1 1+1 1+1 1 48+a 30+14 10 65+6 2+5 2+1 1+3 23 1e+1a 5b+a 3a+8 9",
     "18+3 1+8 1+2 1+4 2b+2 3c+7 2a+17 1+1f 37 1 4+7 4 3+6 a+1 1d 3a 4+3 8 14+1 1a 2+1 39 4+1",
     "4+1 2+2 3 1e+1 3 b+1 39 4+4 1+1 4 14+1 16+5 1 3a 2 1+3 8 7+1 b+1 1e 3d c 32 3 37 1+2",
     "5+2 1+3 7+1 b+1 1d 3a f+1 14+1 1c+1 39+1 4+3 8 14+1 1d 48 7+2 1 5a 2+6 c+7 62 2+8 b+6",
     "49+1 1b 1 1 37+d 1+4 1+1 5+a 1+23 9 66+3 1+5 1+1 2+1 19+1 4+2 10+3 d 2+1 6 f 2bf+2",
     "3b2+2 1d+1 1e+1 1e+1 40+1 1+6 8 2+a 9 2d+2 1 75+1 22 76+2 4+1 9 6+2 db+1 2 3a 1+6 1 1",
     "2+7 6+9 2 30+1e 31+3 30 1+4 1 5 28+8 c+1 20+3 2+1 1+2 38 1+1 3 1+2 3a+7 2+1 98+2 1+c",
     "1+6 4 6 3+1 c6+3f 2d0+20 bfe+2 8d 60+1f 22a+3 6b+1 75d4+3 1+9 20+1 50+1 110 3 4 19+1 5",
     "97+1 1a+11 d 26+7 19+a 2e+2 30 2+3 2+1 27 43+5 2+1 2+1 c 8 2f 33 1+2 2+1 5+1 1 2a+1 8",
     "ee 2 4 4f30 2e1+f 10+f 3cd e2 95+4 686+2 1+1 5+3 28+2 4 a5+1 23d+3 183+1 50+2 46+a 31+3",
     "7b 36+e 29 2+1 a+2 31+3 2+1 7 3d+2 24+4 1+7 3e c+1 34+8 a+3 2 5f+2 2 1+1 6 2 9d 3+7",
     "15+1 39+1 3 25+6 3+4 c3+7 2+2 1 17 54+5 1 4+1 1+1 ee+3 6+1 1+1 1b+1 55+7 2 1+1 6a 1 2+5",
     "1 65+2 2+3 1+4 103+8 1+1 100+1 1 4 90+3 2+1 4 20+5 2+1 28+5 2+3 8 9+5 2+2 2e+c 1+1",
     "196+6 1+5 54+15 2+6 1+1 1+1 7a+5 3 1+1 1+6 1 48+1 3 1 15b+1 b+1 34+4 5 1 14fd 6+e",
     "369a+4 3b+6 418 3f+3 51 4cb8+1 1261+2d 2+16 220+2 11+7 2+6 1e+3 94+2 7bb+36 4+31 8 e",
     "16+4 1+e 550+6 1+10 2+6 1+1 1+4 64 a0+6 177 3d+3 1fc+3 3e0+6 6d+6 c17b5+ef"]),
  ("on",
    ["21+1 3+4 10+5 1a+5 1a+3 22 4+3 1+1 1+1 4 1+2 2+4 17 1f 1c1+1 7+d 2+d 5+8 1+10 74+1 8",
     "5+1 1 6e 193 2+1 77+1 6+1 ce a 10c+3 3f9+5 1 7d+6 2bb+3 452+9 66 29a+1 153+9 6+a 135",
     "3+1 98+21 5bd 1+2 b+2 d+2 d+2 d+1 11+17 d+e 1+19 1d+2 d+2 71+1 1+3 1+1 a 1+2 5+5 1 1 1",
     "10+1 4+4 5+3 2+f 29+2 4+81 2+121 45+19 1+90 19+a 15+27 62+1c1 1+152 100+273 2+1f 1+68",
     "e5+5 e+6 100+5d 22+19 1+58 c+d5 1a+b 5+3 3+18 f 5+1 5+2 5b+1 3 5a c4+23 39+1 31+f 1c+2",
     "32+e c+3 a7+3 63+1 1f 19c0+3f 5690+36 146+2 63 a+1 80+21 66 9f+3 48+3 2f2+1 51d2+11 7f",
     "2d+2 10+9 16+1f 1 2 1+8 1+1 2+2 1 2 95+1 3+4 10+5 1a+5 1a+a 7c+2 3+6 a+4 103 3e+4c 3+c",
     "3 77e 219+6 512+13 5fa+c 968+7 4+10 4ff0 6206+1 15+41 3 ba+56 384 39 39 39 39 172c+1",
     "10e+2b 4+63 c+e 2+e 1+e 1+24 15+4 1f 3a+5 3d b2+5 9a+3d7 4+10 3+c 3+76 4+5e 6+b 4 f+b",
     "4+37 8+9 6+27 8+1d 2+1 4e+153 c+d 2+c 3+8 7+2d 1+6 8+d 4+8 7+8 7+92 1+36"]),
  ("pdf",
    ["202c"]),
  ("pdi",
    ["2069"]),
  ("r",
    ["590 2d 1 2 2 1+37 1c0+2a 9+1 4+2 1+17 4 9 3 5+2a 3+3 17af db0d 1+9 1+25 cb0+11e 1+e0 3",
     "2+4 4+27 3+3 1+a4 2+51 7+1bf 40+11f 1f+2b 2+12 40+2f 40+11 4+79 d800+cf 7+6c 7+324",
     "50+3f 50+af 100+ff"]),
  ("rle",
    ["202b"]),
  ("rli",
    ["2067"]),
  ("rlo",
    ["202e"]),
  ("s",
    ["9 1 13"]),
  ("ws",
    ["c 13 165f 97f+a 1d 36 fa0"])]

/-- The joining types with their code points, of letters that join and of transparent
characters. -/
def joiningTypes : List (String × List String) := [
  ("d",
    ["620 5 1 1+4 4+c 1+6 1+1 23+1 8+f 12+25 1+1 9 1 1+1 28+2 2 12+2 5+3 1+8 1 1 1+1 1f+a 3+e",
     "2+3 1 2+2 2+5 4a+20 56+4 2 1+9 1 a 1+3 2 1d 2+4 12+9 5+1 2+5 1+e f3e 18+58 e+21 1",
     "8f95+31 624e+4 e+3 1+4 1+2 a+3 91 1 3+2 1+1 1 2 1c+1 152+20 1 20c+2 1+10 c+2 1c+3 2+b",
     "2e 1+1 4 2+1 1+1 1 2 5 d935+43"]),
  ("l",
    ["a872 625a 9 228 2ca"]),
  ("r",
    ["622+3 1 1 5+3 15 28+2 1+2 10+11 26 2+8 1 1 2+1 1 18+1 20 4+4 4 9 1 1 2 1d b+2 f+1 4 1+1",
     "3+1 c6 5+1 1 a 1+2 e 1+1 5+12 b 1b+2 1 2+1 6 1020b 1 1+1 3+4 a 3 2 a 91 1+2 3 2 1+1 1",
     "17+3 175 210 20 1f+1 3e+2 2+1 2 4+1 5"]),
  ("t",
    ["ad 252+6f 113+6 107+2c 1 1+1 1+1 1 48+a 1 2e+14 10 65+6 2+5 2+1 1+3 21 1 1e+1a 5b+a",
     "3a+8 9 18+3 1+8 1+2 1+4 2b+2 3c+7 2a+17 1+1f 37 1 4+7 4 3+6 a+1 1d 3a 4+3 8 14+1 1a 2+1",
     "39 4+1 4+1 2+2 3 1e+1 3 b+1 39 4+4 1+1 4 14+1 16+5 1 3a 2 1+3 8 7+1 b+1 1e 3d c 32 3 37",
     "1+2 5+2 1+3 7+1 b+1 1d 3a 2 6 5+1 14+1 1c+1 39+1 4+3 8 14+1 1d 48 7+2 1 5a 2+6 c+7 62",
     "2+8 b+6 49+1 1b 1 1 37+d 1+4 1+1 5+a 1+23 9 66+3 1+5 1+1 2+1 19+1 4+2 10+3 d 2+1 6 f",
     "2bf+2 3b2+2 1d+1 1e+1 1e+1 40+1 1+6 8 2+a 9 2d+2 1 75+1 22 76+2 4+1 9 6+2 db+1 2 3a 1+6",
     "1 1 2+7 6+9 2 30+1e 31+3 30 1+4 1 5 28+8 c+1 20+3 2+1 1+2 38 1+1 3 1+2 3a+7 2+1 98+2",
     "1+c 1+6 4 6 3+1 c6+3f 20b 2+1 1a+4 31+4 5+5 60+20 bfe+2 8d 60+1f 22a+3 6b+1 75d4+3 1+9",
     "20+1 50+1 110 3 4 19+1 5 97+1 1a+11 d 26+7 19+a 2e+2 30 2+3 2+1 27 43+5 2+1 2+1 c 8 2f",
     "33 1+2 2+1 5+1 1 2a+1 8 ee 2 4 4f30 2e1+f 10+f cf f9+2 201 e2 95+4 686+2 1+1 5+3 28+2 4",
     "a5+1 23d+3 183+1 50+2 46+a 31+3 7b 36+e 29 2+1 a+2 31+3 2+1 7 3d+2 24+4 1+7 3e c+1 34+8",
     "a+3 2 5f+2 2 1+1 6 2 9d 3+7 15+1 39+1 3 25+6 3+4 c3+7 2+2 1 17 54+5 1 4+1 1+1 ee+3 6+1",
     "1+1 1b+1 55+7 2 1+1 6a 1 2+5 1 65+2 2+3 1+4 103+8 1+1 100+1 1 4 90+3 2+1 4 20+9 28+5",
     "2+3 8 9+5 2+2 2e+c 1+1 196+6 1+5 1 52+15 2+6 1+1 1+1 7a+5 3 1+1 1+6 1 48+1 3 1 15b+1",
     "b+1 34+4 5 1 14ed+10 6+e 369a+4 3b+6 418 3f+3 51 4cb8+1 1+3 125c+2d 2+16 220+2 9+f 2+6",
     "1e+3 94+2 7bb+36 4+31 8 e 16+4 1+e 550+6 1+10 2+6 1+1 1+4 64 a0+6 177 3d+3 1fc+3 3e0+6",
     "6d+7 c16b5 1e+5f 80+ef"])]

end MediaPaths.Unicode
