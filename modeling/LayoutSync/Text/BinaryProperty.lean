import LayoutSync.Text.Property

namespace LayoutSync.Text

def binaryProperties : List PropertyValue := [
  ⟨["ahex", "asciihexdigit"],
    "30+9,8+5,1b+5"⟩,
  ⟨["alpha", "alphabetic"],
    "41+19,7+19,30,b,5,6+16,2+1e,2+1c9,5+b,f+4,8,2,57,2b+4,2+1,3+3,2,7,2+2,2,2+13,2+52,2+8a,9+a5,
     2+25,3,7+28,28+d,2,2+1,2+1,2,9+1a,5+3,1e+a,6+37,2+6,f+65,2+7,5+7,5+2,b+2,3,11+2f,e+64,19+20,
     a+1,5,6+17,3+12,14+18,8+a,6+17,2+5,12+29,b+b,4+6,7+4b,2+f,2+2,5+e,e+12,2+7,3+1,3+15,2+6,2,4+3,
     4+7,3+1,3+1,2,9,5+1,2+4,d+1,b,5+2,2+5,5+1,3+15,2+6,2+1,2+1,2+1,5+4,5+1,3+1,5,8+3,2,12+5,c+2,
     2+8,2+2,2+15,2+6,2+1,2+4,4+8,2+2,2+1,4,10+3,16+3,5+2,2+7,3+1,3+15,2+6,2+1,2+4,4+7,3+1,3+1,a+1,
     5+1,2+4,e,11+1,2+5,4+2,2+3,4+1,2,2+1,4+1,4+2,4+b,5+4,4+2,2+2,4,7,29+c,2+2,2+16,2+f,4+7,2+2,
     2+2,9+1,2+2,3,3+3,1d+3,2+7,2+2,2+16,2+9,2+4,4+7,2+2,2+2,9+1,7+1,2+3,e+2,d+c,2+2,2+28,3+7,2+2,
     2+2,2,6+3,8+4,17+5,2+2,2+11,4+17,2+8,2,3+6,9+5,2,2+7,13+1,e+39,6+6,7,34+1,2,2+4,2+17,2,2+12,
     2+2,3+4,2,7,f+3,21,40+7,2+23,5+12,5+f,2+23,44+36,2,3+4,11+3f,b+3,3+25,2,6,3+2a,2+14c,2+3,3+6,
     2,2+3,3+28,2+3,3+20,2+3,3+6,2,2+3,3+e,2+38,2+3,3+42,26+f,11+55,3+5,4+26b,3+10,2+19,6+4a,4+a,
     8+13,c+14,d+13,d+c,2+2,2+1,d+33,3+12,f,5,44+58,8+2a,6+45,b+1e,2+b,5+8,18+1d,3+4,c+2b,5+19,
     37+1b,5+3e,3+13,33,18+1,c+2,32+33,2+e,2+7,34+29,3+3,b+2b,2+a,f+36,17+2,b+23,3+8,8+2a,3+2,2a+3,
     2+5,2+1,4,6+bf,28+d,c+115,3+5,3+25,3+5,3+7,2,2,2,2+1e,3+34,2+6,2,4+2,2+6,4+3,3+5,5+c,6+2,2+6,
     75,e,11+c,66,5,3+9,2,4+4,7,2,2,2+3,2+a,3+3,6+4,5,12+28,32e+33,717+e4,7+3,4+1,d+25,2,6,3+37,8,
     11+16,a+6,2+6,2+6,2+6,2+6,2+6,2+6,2+6,2+1f,30,1d6+2,1a+8,8+4,3+4,5+55,7+2,2+59,2+3,6+2a,2+5d,
     12+1f,31+f,201+19bf,41+568c,44+2d,3+10c,4+f,b+1,15+2e,6+7,4+70,28+8,3+66,3+3f,6+1,2,2+4,19+13,
     2+20,19+33,d+43,2,2d+5,4,2+2,b+20,6+22,e+1c,4+32,2+b,10,11+f,b+4,2+36,a+d,13+16,4+44,2,2,19+2,
     3+f,3+3,c+5,3+5,3+5,a+6,2+6,2+2a,2+d,7+7a,16+2ba3,d+16,5+30,2105+16d,3+69,27+6,d+4,6+b,2+c,
     2+4,2,2+1,2+1,2+6b,22+16a,13+3f,3+35,29+b,75+4,2+86,25+19,7+19,c+58,4+5,3+5,3+5,3+2,24+b,2+19,
     2+12,2+1,2+e,3+d,23+7a,46+34,10c+1c,4+30,30+1f,e+1d,6+2a,6+1d,3+23,5+7,2+4,2b+9d,13+23,5+23,
     5+27,9+33,d+a,2+e,2+6,2+1,2+a,2+e,2+6,2+1,44+136,a+15,b+7,19+5,2+29,2+8,46+5,3,2+2b,2+1,4,
     3+16,b+16,a+1e,42+12,2+1,b+15,b+19,47+37,7+1,41+3,2+1,6+7,2+2,2+1c,2b+1c,4+1c,24+7,2+1b,1c+35,
     b+15,b+12,e+11,6f+48,38+32,e+32,e+27,159+29,2+1,4+1,4f+1c,b,9+15,2b+11,2f+14,1c+16,a+45,2c+4,
     b+38,a,e+18,18+32,12+3,9+22,4,a+3f,2+3,a+1,b,2,24+11,2+21,3,7+3,3f+6,2,2+3,2+e,2+9,8+38,18+3,
     2+7,3+1,3+15,2+6,2+1,2+4,4+7,3+1,3+1,4,7,6+6,9d+41,2+2,2+3,15+2,1f+41,3+1,2,b9+35,3+6,1a+5,
     23+3e,2,4,3c+35,3,48+1a,3+d,16+6,ba+38,68+3f,20+7,3,3+7,2+1,2+1d,2+1,3+1,3+3,5e+7,3+2d,3+5,2,
     2+1,1c+32,3+9,12+47,6,13+48,108+8,2+2c,2+6,2,32+1d,3+15,2+d,4a+6,2+1,2+2b,4,2+1,2+2,2,3+1,
     19+5,2+1,2+24,2+1,2+3,2,148+16,a+10,2+28,4+2,70,50+399,67+6e,12+c3,a4d+60,10+42f,12+5,fba+246,
     21ba+238,8+1e,12+4e,12+1d,13+2f,11+3,20+14,6+12,2b1+3f,81+4a,5+38,8+10,41+1,2,d+1,f+17f7,
     9+4d5,2b+8,22e8+3,2+6,2+1,2+122,10,1e+2,3,f+3,9+18b,905+6a,6+c,4+8,8+9,5,1762+54,2+46,2+1,3,
     3+1,3+3,2+b,2,2+6,2+40,2+3,3+7,2+6,2+1b,2+3,2+4,2,4+6,2+153,3+18,2+18,2+1e,2+18,2+1e,2+18,
     2+1e,2+18,2+1e,2+18,2+7,735+1e,7+5,d6+6,2+10,3+6,2+1,2+4,6+3d,22,71+2c,b+6,11,142+1d,13+2b,
     1e5+1b,2f5+6,2+3,2+1,2+e,2+c4,3c+43,4,4,4b5+3,2+1a,2+1,2,3,2+9,2+3,2,2,7,5,2,2,2+2,2+1,2,3,2,
     2,2,2,2+1,2,3+3,2+6,2+3,2+3,2,2+9,2+10,6+2,2+4,2+10,275+19,7+19,7+19,e77+a6df,21+1039,7+dd,
     3+1681,f+1d30,c20+21d,5e3+134a,6+105f"⟩,
  ⟨["bidic", "bidicontrol"],
    "61c,19f2+1,1b+4,38+3"⟩,
  ⟨["bidim", "bidimirrored"],
    "28+1,13,2,1d,2,1e,2,2e,10,e7f+3,75e+1,99d+1,b+1,37+1,f+1,b2,c1+3,4+5,4,4+1,4+3,2+3,2,2,5+8,6,
     2+11,6+3,a+1,2,2+7,3+1e,3+3,6,a+1,3+12,6+1,a+4,3+1,5+17,3+f,9+3,15+1,8+1,43e+d,4b,3+3,2+1,2+2,
     6+3,6+2,4+d,194+15,3+5,2+d,9,8+5,4,5+4,2+1,3+4,5,2+2,3+1,b+5,3+1,d+12,2+3,3,2,3,2+3,6+1,7+2,
     19+1,c+1,5+3,2+1,3+1,5+2a,3+7,2+27,6,2,4+4,6+2,5,4+4,2,101,204+3,4+1,2+1,f+1,3+9,2c+7,1ac+9,
     3+7,ce3e+5,6+1,a3+1,13,2,1d,2,1e,2,2+1,2+1,d778,3a,3a,3a,3a"⟩,
  ⟨["ci", "caseignorable"],
    "27,7,c,24,2,48,5,2,5,3+1,1f8+bf,5+1,5,a+1,2,fc+6,d0,6,32+2c,2,2+1,2+1,2,2d,c+5,b+a,2,24,b+14,
     11,66+7,2+9,2+3,22,2,1f+1a,5c+a,3b+a,5,3,19+17,2c+2,2d,8+1,7+7,2a+39,38,2,5+7,5,4+6,b+1,e,10,
     3b,5+3,9,15+1,1b,3+1,3a,5+1,5+1,3+2,4,1f+1,4,c+1,3a,5+4,2+1,5,15+1,17+5,2,3b,3,2+3,9,8+1,c+1,
     1f,3e,d,33,4,38,2+2,6+2,2+3,8+1,c+1,1e,3b,3,7,6+1,15+1,1d+1,3a+1,5+3,9,15+1,1e,49,8+2,2,5b,
     3+6,c+8,63,3+8,a,2+6,4a+1,1c,2,2,38+d,2+4,2+1,6+a,2+23,a,67+3,2+5,2+1,3+1,1a+1,5+2,11+3,e,3+1,
     7,10,5f,261+2,3b3+2,1e+1,1f+1,1f+1,41+1,2+6,9,3+a,4,6,2e+4,34,42+1,23,77+2,5+1,a,7+2,dc+1,3,
     3b,2+6,2,2,3+7,7+9,3,28,9+1e,32+3,31,2+4,2,6,29+8,d+1,21+3,3+1,2+2,39,2+1,4,2+2,3b+7,3+1,41+5,
     53+2,2+c,2+6,5,7,4+1,33+3e,e,23+64,1be,2+2,c+2,e+2,e+2,e+1,d+4,9+1,b,3,3+4,32+4,2+9,2,e,11+c,
     34+20,b8c+1,72+2,7e,10,61+1f,30,1d6,25+3,4+4,6,5e+5,5e+2,6f17,4e3+5,10f,63+3,2+9,2,1d+3,51+1,
     f+21,4f,18+2,68+2,4+1,9,4,5,1a+1,6,98+1,1b+11,e,27+7,1a+a,2f+2,31,3+3,3+1,12,16+1,43+5,3+1,
     3+1,d,9,24,c,34,2+2,3+1,6+1,2,1c,f+1,6+1,2,65+4,a+2,7a,3,5,4f31,94+10,23e+f,4,d+f,23,3,aa,8,7,
     c,24,2,30,2e+1,44,16+2,202,e3,96+4,406+5,2+29,2+8,247+2,2+1,6+3,29+2,5,a6+1,23e+3,184+1,51+2,
     47+a,32+3,7c,37+e,2a,3+1,b+2,32+3,3+1,3,5,b,33+2,25+4,2+7,3f,d+1,35+8,b+3,3,60+2,3,2+1,7,3,9e,
     4+7,16+1,3a+1,4,26+6,4+4,c4+7,3+2,2,18,55+5,2,5+1,2+1,ef+3,7+1,2+1,1c+1,56+7,3,2+1,6b,2,3+5,2,
     66+2,3+3,2+4,104+8,2+1,101+1,2,5,91+3,3+1,5,21+9,29+5,3+3,9,a+5,3+2,2f+c,2+1,197+6,2+5,2,
     53+15,3+6,2+1,2+1,7b+5,4,2+1,2+6,2,49+1,4,2,15c+1,c+1,35+4,6,2,14ee+10,7+e,369b+4,3c+6,a+3,
     40c,40+10,41+1,2+1,400c+3,2+6,2+1,c9f+1,2+3,125d+2d,3+16,221+2,a+f,3+6,1f+3,95+2,7bc+36,5+31,
     9,f,17+4,2+e,551+6,2+10,3+6,2+1,2+4,6+3d,22,a1+d,171,3e+3,1fc+4,3e1+6,6e+7,ab0+4,c0c02,1f+5f,
     81+ef"⟩,
  ⟨["cased"],
    "41+19,7+19,30,b,5,6+16,2+1e,2+c2,2+3,5+cf,2+23,8+1,1f+4,61,2b+3,3+1,3+3,2,7,2+2,2,2+13,2+52,
     2+8a,9+a5,2+25,a+28,b18+25,2,6,3+2a,2+3,2a1+55,3+5,883+8,8+2a,3+2,41+bf,41+115,3+5,3+25,3+5,
     3+7,2,2,2,2+1e,3+34,2+6,2,4+2,2+6,4+3,3+5,5+c,6+2,2+6,75,e,11+c,66,5,3+9,2,4+4,7,2,2,2+3,2+5,
     5,3+3,6+4,5,12+1f,4+1,332+33,717+e4,7+3,4+1,d+25,2,6,7913+2d,13+1d,85+65,4+3,2+3a,6+1,2,2+4,
     19+4,2+2,336+2a,2+d,7+4f,4f41+6,d+4,40a+19,7+19,4a6+4f,61+23,5+23,75+a,2+e,2+6,2+1,2+a,2+e,
     2+6,2+1,1c4,3+2,2+29,2+8,4c6+32,e+32,bae+3f,5561+3f,6581+54,2+46,2+1,3,3+1,3+3,2+b,2,2+6,2+40,
     2+3,3+7,2+6,2+1b,2+3,2+4,2,4+6,2+153,3+18,2+18,2+1e,2+18,2+1e,2+18,2+1e,2+18,2+1e,2+18,2+7,
     735+9,2+13,7+5,106+3d,893+43,7ed+19,7+19,7+19"⟩,
  ⟨["cwcf", "changeswhencasefolded"],
    "41+19,5b,b+16,2+7,21,2,2,2,2,2,2,2,2,2,2,2,2,2,2,2,2,2,2,2,2,2,2,2,2,2,2,2,3,2,2,2,2,2,2,2,
     2+1,2,2,2,2,2,2,2,2,2,2,2,2,2,2,2,2,2,2,2,2,2,2,2+1,2,2,2,2+1,2,2+1,2+2,3+3,2+1,2+2,4+1,2+1,2,
     2,2+1,2,3,2+1,2+2,2,2+1,4,8+1,2+1,2+1,2,2,2,2,2,2,2,2,3,2,2,2,2,2,2,2,2,3+1,2,2+2,2,2,2,2,2,2,
     2,2,2,2,2,2,2,2,2,2,2,2,2,2,2,2,2,2,2,2,2,2,2,8+1,2+1,3,2+3,2,2,2,2,f7,2b,2,4,9,7,2+2,2,2+1,
     2+10,2+8,17,d+2,4+1,2,2,2,2,2,2,2,2,2,2,2,2,2+1,3+1,2,2+1,3+32,31,2,2,2,2,2,2,2,2,2,2,2,2,2,2,
     2,2,a,2,2,2,2,2,2,2,2,2,2,2,2,2,2,2,2,2,2,2,2,2,2,2,2,2,2,2+1,2,2,2,2,2,2,3,2,2,2,2,2,2,2,2,2,
     2,2,2,2,2,2,2,2,2,2,2,2,2,2,2,2,2,2,2,2,2,2,2,2,2,2,2,2,2,2,2,2,2,2,2,2,2,2,3+25,31,b19+25,2,
     6,32b+5,883+8,8+2a,3+2,141,2,2,2,2,2,2,2,2,2,2,2,2,2,2,2,2,2,2,2,2,2,2,2,2,2,2,2,2,2,2,2,2,2,
     2,2,2,2,2,2,2,2,2,2,2,2,2,2,2,2,2,2,2,2,2,2,2,2,2,2,2,2,2,2,2,2,2,2,2,2,2,2,2,2,2,6+1,3,2,2,2,
     2,2,2,2,2,2,2,2,2,2,2,2,2,2,2,2,2,2,2,2,2,2,2,2,2,2,2,2,2,2,2,2,2,2,2,2,2,2,2,2,2,2,2,2,2,a+7,
     9+5,b+7,9+7,9+5,c,2,2,2,9+7,11+2f,3+2,3+5,6+2,3+5,c+3,d+4,6+2,3+5,12a,4+1,7,2e+f,14,333+19,
     731+2f,31,2+2,3,2,2,2+3,2,3,9+2,2,2,2,2,2,2,2,2,2,2,2,2,2,2,2,2,2,2,2,2,2,2,2,2,2,2,2,2,2,2,2,
     2,2,2,2,2,2,2,2,2,2,2,2,2,2,2,2,2,2,9,2,5,794e,2,2,2,2,2,2,2,2,2,2,2,2,2,2,2,2,2,2,2,2,2,2,14,
     2,2,2,2,2,2,2,2,2,2,2,2,2,88,2,2,2,2,2,2,4,2,2,2,2,2,2,2,2,2,2,2,2,2,2,2,2,2,2,2,2,2,2,2,2,2,
     2,2,2,2,2,b,2,2+1,2,2,2,2,5,2,3,2,4,2,2,2,2,2,2,2,2,2,2+4,2+4,2,2,2,2,2,2,2,2+3,2,7,6,2,1d,
     37b+4f,4f41+6,d+4,40a+19,4c6+27,89+23,9d+a,2+e,2+6,2+1,6eb+32,bee+1f,5581+1f,7aa1+21"⟩,
  ⟨["cwcm", "changeswhencasemapped"],
    "41+19,7+19,3b,b+16,2+1e,2+3f,2+53,2+c,2+d,3+d,3+1,2,5+5c,2+11,7+1a,2+1,2,2+1,4+1,2,2+1,2+4,3,
     2+1,3,8,3,2+1,4+5,6,b+1,a7,2b+3,3+1,4+2,2,7,2+2,2,2+13,2+2e,4+20,2+4,2+84,9+a5,2+25,b+26,
     b19+25,2,6,3+2a,3+2,2a1+55,3+5,883+8,8+2a,3+2,ba,4,11,72+9b,3,2+75,3+5,3+25,3+5,3+7,2,2,2,
     2+1e,3+34,2+6,2,4+2,2+6,4+3,3+5,5+c,6+2,2+6,12a,4+1,7,1c,12+1f,4+1,332+33,717+70,2+1,2+1,8+65,
     8+3,4+1,d+25,2,6,7913+2d,13+1b,87+d,3+3d,a+e,4+2,3+4,2+18,2+1a,6+1,5+3,1c+1,35d,1d+4f,4f41+6,
     d+4,40a+19,7+19,4a6+4f,61+23,5+23,75+a,2+e,2+6,2+1,2+a,2+e,2+6,2+1,6c4+32,e+32,bae+3f,5561+3f,
     7a81+43"⟩,
  ⟨["cwl", "changeswhenlowercased"],
    "41+19,66+16,2+6,22,2,2,2,2,2,2,2,2,2,2,2,2,2,2,2,2,2,2,2,2,2,2,2,2,2,2,2,3,2,2,2,2,2,2,2,3,2,
     2,2,2,2,2,2,2,2,2,2,2,2,2,2,2,2,2,2,2,2,2,2+1,2,2,4+1,2,2+1,2+2,3+3,2+1,2+2,4+1,2+1,2,2,2+1,2,
     3,2+1,2+2,2,2+1,4,8+1,2+1,2+1,2,2,2,2,2,2,2,2,3,2,2,2,2,2,2,2,2,3+1,2,2+2,2,2,2,2,2,2,2,2,2,2,
     2,2,2,2,2,2,2,2,2,2,2,2,2,2,2,2,2,2,2,8+1,2+1,3,2+3,2,2,2,2,122,2,4,9,7,2+2,2,2+1,2+10,2+8,24,
     9,2,2,2,2,2,2,2,2,2,2,2,6,3,2+1,3+32,31,2,2,2,2,2,2,2,2,2,2,2,2,2,2,2,2,a,2,2,2,2,2,2,2,2,2,2,
     2,2,2,2,2,2,2,2,2,2,2,2,2,2,2,2,2+1,2,2,2,2,2,2,3,2,2,2,2,2,2,2,2,2,2,2,2,2,2,2,2,2,2,2,2,2,2,
     2,2,2,2,2,2,2,2,2,2,2,2,2,2,2,2,2,2,2,2,2,2,2,2,2,3+25,b4a+25,2,6,2d3+55,89b+2a,3+2,141,2,2,2,
     2,2,2,2,2,2,2,2,2,2,2,2,2,2,2,2,2,2,2,2,2,2,2,2,2,2,2,2,2,2,2,2,2,2,2,2,2,2,2,2,2,2,2,2,2,2,2,
     2,2,2,2,2,2,2,2,2,2,2,2,2,2,2,2,2,2,2,2,2,2,2,2,a,2,2,2,2,2,2,2,2,2,2,2,2,2,2,2,2,2,2,2,2,2,2,
     2,2,2,2,2,2,2,2,2,2,2,2,2,2,2,2,2,2,2,2,2,2,2,2,2,2,a+7,9+5,b+7,9+7,9+5,c,2,2,2,9+7,19+7,9+7,
     9+7,9+4,c+4,c+3,d+4,c+4,12a,4+1,7,2e+f,14,333+19,731+2f,31,2+2,3,2,2,2+3,2,3,9+2,2,2,2,2,2,2,
     2,2,2,2,2,2,2,2,2,2,2,2,2,2,2,2,2,2,2,2,2,2,2,2,2,2,2,2,2,2,2,2,2,2,2,2,2,2,2,2,2,2,2,9,2,5,
     794e,2,2,2,2,2,2,2,2,2,2,2,2,2,2,2,2,2,2,2,2,2,2,14,2,2,2,2,2,2,2,2,2,2,2,2,2,88,2,2,2,2,2,2,
     4,2,2,2,2,2,2,2,2,2,2,2,2,2,2,2,2,2,2,2,2,2,2,2,2,2,2,2,2,2,2,b,2,2+1,2,2,2,2,5,2,3,2,4,2,2,2,
     2,2,2,2,2,2,2+4,2+4,2,2,2,2,2,2,2,2+3,2,7,6,2,1d,572c+19,4c6+27,89+23,9d+a,2+e,2+6,2+1,6eb+32,
     bee+1f,5581+1f,7aa1+21"⟩,
  ⟨["cwt", "changeswhentitlecased"],
    "61+19,3b,2a+17,2+7,2,2,2,2,2,2,2,2,2,2,2,2,2,2,2,2,2,2,2,2,2,2,2,2,2,2,2,2,3,2,2,2,2,2,2,2+1,
     2,2,2,2,2,2,2,2,2,2,2,2,2,2,2,2,2,2,2,2,2,2,2,3,2,2+2,3,2,3,4,6,3,4+1,4,3,2,2,3,5,3,4,2,3,4,2,
     5,2+1,2+1,2,2,2,2,2,2,2,2,2+1,2,2,2,2,2,2,2,2,2+2,2,2,4,2,2,2,2,2,2,2,2,2,2,2,2,2,2,2,2,2,2,2,
     4,2,2,2,2,2,2,2,2,9,3+1,2,5,2,2,2,2+5,2+1,2,2+1,4+1,2,2+1,2+4,3,2+1,3,8,3,2+1,4+5,6,b+1,a7,2c,
     2,4,4+2,13,1c+22,2+1,4+2,2,2,2,2,2,2,2,2,2,2,2,2+4,2,3,3,35+2f,2,2,2,2,2,2,2,2,2,2,2,2,2,2,2,
     2,2,a,2,2,2,2,2,2,2,2,2,2,2,2,2,2,2,2,2,2,2,2,2,2,2,2,2,2,3,2,2,2,2,2,2+1,2,2,2,2,2,2,2,2,2,2,
     2,2,2,2,2,2,2,2,2,2,2,2,2,2,2,2,2,2,2,2,2,2,2,2,2,2,2,2,2,2,2,2,2,2,2,2,2,2,32+26,e71+5,883+8,
     f1,4,11,73,2,2,2,2,2,2,2,2,2,2,2,2,2,2,2,2,2,2,2,2,2,2,2,2,2,2,2,2,2,2,2,2,2,2,2,2,2,2,2,2,2,
     2,2,2,2,2,2,2,2,2,2,2,2,2,2,2,2,2,2,2,2,2,2,2,2,2,2,2,2,2,2,2,2,2+6,6,2,2,2,2,2,2,2,2,2,2,2,2,
     2,2,2,2,2,2,2,2,2,2,2,2,2,2,2,2,2,2,2,2,2,2,2,2,2,2,2,2,2,2,2,2,2,2,2+8,9+5,b+7,9+7,9+5,b+7,
     9+7,9+d,3+7,9+7,9+7,9+4,2+1,7,4+2,2+1,9+3,3+1,9+7,b+2,2+1,157,22+f,5,34c+19,747+2f,2,4+1,2,2,
     2,7,3,b,2,2,2,2,2,2,2,2,2,2,2,2,2,2,2,2,2,2,2,2,2,2,2,2,2,2,2,2,2,2,2,2,2,2,2,2,2,2,2,2,2,2,2,
     2,2,2,2,2,2,9,2,5,d+25,2,6,7914,2,2,2,2,2,2,2,2,2,2,2,2,2,2,2,2,2,2,2,2,2,2,14,2,2,2,2,2,2,2,
     2,2,2,2,2,2,88,2,2,2,2,2,2,4,2,2,2,2,2,2,2,2,2,2,2,2,2,2,2,2,2,2,2,2,2,2,2,2,2,2,2,2,2,2,b,2,
     3,2,2,2,2,5,5,2+1,3,2,2,2,2,2,2,2,2,2,c,2,2,2,2,2,2,2,5,2,7,6,2,1d,35d,1d+4f,4f41+6,d+4,
     42a+19,4ce+27,89+23,9c+a,2+e,2+6,2+1,704+32,bce+1f,5581+1f,7aa3+21"⟩,
  ⟨["cwu", "changeswhenuppercased"],
    "61+19,3b,2a+17,2+7,2,2,2,2,2,2,2,2,2,2,2,2,2,2,2,2,2,2,2,2,2,2,2,2,2,2,2,2,3,2,2,2,2,2,2,2+1,
     2,2,2,2,2,2,2,2,2,2,2,2,2,2,2,2,2,2,2,2,2,2,2,3,2,2+2,3,2,3,4,6,3,4+1,4,3,2,2,3,5,3,4,2,3,4,2,
     6+1,2+1,2+1,2,2,2,2,2,2,2,2+1,2,2,2,2,2,2,2,2,2+1,2+1,2,4,2,2,2,2,2,2,2,2,2,2,2,2,2,2,2,2,2,2,
     2,4,2,2,2,2,2,2,2,2,9,3+1,2,5,2,2,2,2+5,2+1,2,2+1,4+1,2,2+1,2+4,3,2+1,3,8,3,2+1,4+5,6,b+1,a7,
     2c,2,4,4+2,13,1c+22,2+1,4+2,2,2,2,2,2,2,2,2,2,2,2,2+4,2,3,3,35+2f,2,2,2,2,2,2,2,2,2,2,2,2,2,2,
     2,2,2,a,2,2,2,2,2,2,2,2,2,2,2,2,2,2,2,2,2,2,2,2,2,2,2,2,2,2,3,2,2,2,2,2,2+1,2,2,2,2,2,2,2,2,2,
     2,2,2,2,2,2,2,2,2,2,2,2,2,2,2,2,2,2,2,2,2,2,2,2,2,2,2,2,2,2,2,2,2,2,2,2,2,2,2,32+26,b49+2a,
     3+2,2f9+5,883+8,f1,4,11,73,2,2,2,2,2,2,2,2,2,2,2,2,2,2,2,2,2,2,2,2,2,2,2,2,2,2,2,2,2,2,2,2,2,
     2,2,2,2,2,2,2,2,2,2,2,2,2,2,2,2,2,2,2,2,2,2,2,2,2,2,2,2,2,2,2,2,2,2,2,2,2,2,2,2,2+6,6,2,2,2,2,
     2,2,2,2,2,2,2,2,2,2,2,2,2,2,2,2,2,2,2,2,2,2,2,2,2,2,2,2,2,2,2,2,2,2,2,2,2,2,2,2,2,2,2+8,9+5,
     b+7,9+7,9+5,b+7,9+7,9+d,3+34,2+1,5,2,4+2,2+1,5,4+3,3+1,9+7,b+2,2+1,5,152,22+f,5,34c+19,747+2f,
     2,4+1,2,2,2,7,3,b,2,2,2,2,2,2,2,2,2,2,2,2,2,2,2,2,2,2,2,2,2,2,2,2,2,2,2,2,2,2,2,2,2,2,2,2,2,2,
     2,2,2,2,2,2,2,2,2,2,2,9,2,5,d+25,2,6,7914,2,2,2,2,2,2,2,2,2,2,2,2,2,2,2,2,2,2,2,2,2,2,14,2,2,
     2,2,2,2,2,2,2,2,2,2,2,88,2,2,2,2,2,2,4,2,2,2,2,2,2,2,2,2,2,2,2,2,2,2,2,2,2,2,2,2,2,2,2,2,2,2,
     2,2,2,b,2,3,2,2,2,2,5,5,2+1,3,2,2,2,2,2,2,2,2,2,c,2,2,2,2,2,2,2,5,2,7,6,2,1d,35d,1d+4f,4f41+6,
     d+4,42a+19,4ce+27,89+23,9c+a,2+e,2+6,2+1,704+32,bce+1f,5581+1f,7aa3+21"⟩,
  ⟨["dash"],
    "2d,55d,34,e42,406,80a+5,3e,28,10,187,c05,3,20+1,5,1d,1bf,14,70,cd91+1,26,b,aa,fa0"⟩,
  ⟨["di", "defaultignorablecodepoint"],
    "ad,2a2,2cd,b43+1,654+1,56+4,7fc+4,1b+4,32+f,10f5,cc9c+f,f0,a1,50+8,bca8+3,14d0+7,c2e86+fff"⟩,
  ⟨["dep", "deprecated"],
    "149,52a,904,2,82a+1,8c6+5,2ba+1,ddcd7"⟩,
  ⟨["dia", "diacritic"],
    "5e,2,48,7,5,3+1,1f8+9e,2+7,6+5,12+1,5,a+1,fe+4,d2,38+10,2+1a,2,2+1,2,87+7,5+1,87+1,5+1,4+2,
     44+1a,5c+a,3b+a,23+1,7f+7,2a+9,11+1b,3e,11,4+3,1d,4b,11,6f,11,6f,11,30+2,3d,11,8,78,6f,11,6f,
     11,6e+1,11,7d,7d+5,2,6c,e+4,4c+1,1c,2,2,5+1,43+2,2+1,3f,71,2+1,29+1,5+4,1a+6,2,b+1,2c2+2,
     3b5+1,b4+a,a,15c+2,13a+7,3,31+e,3+a,69,10,27+8,37+1,8b+1,41+5,53+18,5,7,3+2,33+3e,5a+b,26+a,
     1be,2+2,c+2,e+2,e+2,e+1,cf1+2,13e,1fb+5,6a+3,60,7573,d+1,2,1d+1,53+1,f+21,67+2,6e+1,cb,1c+11,
     3a+3,25,60,d,25,96+2,42+3,34,65+4,a+2,81+1,4f31,302+f,10f,2,30,2e+1,44,2fd,4a0+5,2+29,2+8,
     32b+1,23c+5,1d6+2,47+a,32+3,c1,2a,49+1,79+1,3f,4d,a+2,69+1,b3+1,52,11,19+6,4+4,ce,4,7c+1,fc+1,
     7f,77+1,74,10e+1,103+1,5,9d,54,13,52,1a6,103,2+1,52,16b0+e,369b+4,3c+6,459+10,51+1,3fff+3,2+6,
     2+1,1f02+2d,3+16,221+2,4+5,9+7,3+6,1f+3,e83+3d,c3+6,178,3e+3,5e1+6,6e+2,2+2"⟩,
  ⟨["emoji"],
    "23,7,6+9,70,5,1f8e,d,d9,17,5b+5,10+1,170+1,d,a7,1a+a,5+2,c8,e8+1,b,a,3b+3,2+4,a,3,3+1,3,5,3,
     2+1,3,4,4+1,9+2,6,2,6+b,c+1,3,2+1,2,13,3+1,13+5,2,2+1,4+1,6,3+1,5+1,c+1,6+1,3,6+1,2,2+1,15+1,
     6+5,2+3,3,5,3,3+5,2,3,2,2,7,4,7,b+1,10,3,5,2,5+2,2,c+1,31+2,a,f,f,175+1,1d0+2,14+1,34,5,4db,d,
     25a,2,1bd6b,cb,a1+1,d+1,f,3+9,4c+19,2+1,18,15,3+8,16+1,af+21,3+6f,3+1,2+2,3+52,3+2,2+106,2+3e,
     c+5,2+17,8+1,3+7,d,3+3,3,5+1,e+1,3,9+1,a,6+2,d+2,9+2,3,2,5,7,4,7+55,31+45,6+7,3+2,5+9,4,2+1,4,
     3+9,e4+b,5,11c+2e,2+9,2+b8,71+c,4+8,8+2d,2+6,9+d,5+8,8+8"⟩,
  ⟨["ecomp", "emojicomponent"],
    "23,7,6+9,1fd4,d6,dd2c,f3d7+19,1fc+4,5b1+3,c066d+5f"⟩,
  ⟨["emod", "emojimodifier"],
    "1f3fb+4"⟩,
  ⟨["ebase", "emojimodifierbase"],
    "261d,dc,11+3,1cc78,3d+2,3,3+2,76+1,3+a,16+12,4,5+2,2+2,8,2,19,ca+1,5,16,5+1,af+2,4+4,54,11+2,
     a,c,240,3,9+7,7,a+9,3+2,39,3e+1,2+1,2,12+2,2+c,e6+2,2b+8"⟩,
  ⟨["epres", "emojipresentation"],
    "231a+1,ce+3,4,3,20a+1,16+1,33+b,2c,14,e,9+1,12+1,6+1,9,6,16,8+1,2,5,3,8,5+1,1d,24,2,5+2,2,
     3e+2,19,f,35c+1,34,5,1c4af,cb,bf,3+9,4c+19,2,19,15,3+4,2+2,16+1,af+20,d+8,2+45,2+15,d+2a,5+4,
     d+10,4,4+46,2,2+ba,3+3e,e+3,2+17,13,1b+1,e,57+54,31+45,7,4+2,3+2,5+3,c+1,8+8,e4+b,5,11c+2e,
     2+9,2+b8,71+c,4+8,8+2d,2+6,9+d,5+8,8+8"⟩,
  ⟨["extpict", "extendedpictographic"],
    "a9,5,1f8e,d,d9,17,5b+5,10+1,170+1,d,60,47,1a+a,5+2,c8,e8+1,b,a,3b+3,2+5,2+b,2+71,b+75,3+a,2,2,
     7,4,7,b+1,10,3,5,2,5+2,2,c+4,2e+2,a,f,f,175+1,1d0+2,14+1,34,5,4db,d,25a,2,1bd67+ff,e+2,20,
     3d+5,d+1,f,3+9,13+38,1c+e,b,15,3+8,2+3,a+1b1,6+13d,9+109,31+7f,75+b,56+2a,d+3,39+7,b+5,29+7,
     1f+51,d+2e,2+9,2+1b8,101+3fd"⟩,
  ⟨["ext", "extender"],
    "b7,219+1,36f,1ba,35b,2f1,80,944,39,264,18f,45,138a,2c+4,68+1,5e+2,6f17,5f7,3c3,17,8a,6d,16+1,
     547c,811+1,bdb,269+2,4d0,50aa+1,49d+1,2,7159+1,807+2"⟩,
  ⟨["grbase", "graphemebase"],
    "20+5e,22+c,2+251,71+7,3+5,5+6,2,2+13,2+df,8+a5,2+25,3+31,3+2,2f,2,3,3,a+1a,5+5,12+9,c,2+2d,
     16+f,2+64,9,7+1,3,5+1f,3,2+1d,1e+58,c,f+2a,a+6,4+17,5,a,4,8+e,2+18,6,2+a,6+1e,12+29,3a+36,2,
     2+3,9+3,2+2,8+9,3+1c,2+1,2+7,3+1,3+15,2+6,2,4+3,4,2+1,7+1,3+1,2,e+1,2+2,5+17,6,2+5,5+1,3+15,
     2+6,2+1,2+1,2+1,5+2,19+3,2,8+9,3+2,2,d,2+8,2+2,2+15,2+6,2+1,2+4,4+3,9,2+1,4,10+1,5+b,8,9+1,
     2+7,3+1,3+15,2+6,2+1,2+4,4,3,7+1,3+1,10+1,2+2,5+11,c,2+5,4+2,2+3,4+1,2,2+1,4+1,4+2,4+b,6,2+1,
     4+2,2+2,4,16+14,7+2,2+7,2+2,2+16,2+f,4,4+3,14+2,3,3+1,5+9,8+9,2+a,2+2,2+16,2+9,2+4,4+1,2+1,
     2+1,3+1,2+1,12+1,2+1,5+9,2+2,f+a,2+2,2+28,3,2+1,6+2,2+2,2+1,5+2,2+9,5+19,3+1,2+11,4+17,2+8,2,
     3+6,a+1,7+6,8+9,3+2,d+2f,2+1,c+7,9+c,26+1,2,2+4,2+17,2,2+9,2+1,a,3+4,2,a+9,3+3,21+17,3+1a,2,2,
     2+d,2+23,13,6,3+4,32+7,2+5,2+c,26+2c,5,7,3+1,3+18,3+3,4+f,5+c,2+1,3+5,2+e,2+27,2,6,3+178,2+3,
     3+6,2,2+3,3+28,2+3,3+20,2+3,3+6,2,2+3,3+e,2+38,2+3,3+42,6+1c,4+19,7+55,3+5,3+29c,4+58,8+11,4,
     a+12,3+2,a+11,f+c,2+2,10+33,3,8+7,2+1,c+8,4+9,7+9,7+a,6+9,7+58,8+4,3+21,2,6+45,b+1e,5+3,3+2,
     5+1,2+5,8,4+29,3+4,c+2b,5+19,7+a,4+38,3+1,4+37,2,a,2+1,9+5,e+9,7+9,7+d,57+2f,8,2+4,2+9,4+1a,
     a+a,4+1f,5+1,3,4+37,2,3+2,2,4+1,9+2f,9+1,6+e,4+3b,8+2a,3+a,c,e,8+3,2+5,2+2,3,6+bf,41+115,3+5,
     3+25,3+5,3+7,2,2,2,2+1e,3+34,2+e,2+d,3+5,2+12,3+2,2+8,2+a,6+17,8+30,11+1,3+1a,2+c,4+20,40+8b,
     5+296,1a+a,16+713,3+1f,2+157,4+1,6+2c,2,6,3+37,8+1,10+16,a+6,2+6,2+6,2+6,2+6,2+6,2+6,2+6,
     22+5d,23+19,2+58,d+d5,1b+b,5+29,7+f,2+55,5+64,6+2a,2+5d,2+53,d+2e,2+726c,4+36,a+15b,15+2e,5,
     b+1f,3+4f,3+5,9+ca,6+1,2,2+4,19+f,2+2,2+3,2+18,3+4,5+9,7+37,9+43,b+b,19+c,2+25,9+18,c+1,c+1d,
     7+2f,2+1,5+1,3+f,2+a,5+6,2+18,2+28,7+1,3+1,c+2,2+7,2,3+9,3+1f,2+32,2,4+1,3+4,3,2,19+10,3+7,
     c+5,3+5,3+5,a+6,2+6,2+3b,5+74,2+1,2+3,4+9,7+2ba3,d+16,5+30,2105+16d,3+69,27+6,d+4,6,2+17,2+4,
     2,2+1,2+1,2+7c,11+1bc,3+35,8,21+f,11+9,17+22,2+12,2+3,5+4,2+86,5+9c,3+1e,4+5,3+5,3+5,3+2,4+6,
     2+6,e+1,3+b,2+19,2+12,2+1,2+e,3+d,23+7a,6+2,5+2c,4+57,2+c,4,30+2c,84+1c,4+30,11+1a,5+23,a+1d,
     6+25,b+1d,2+24,5+d,2b+9d,3+9,7+23,5+23,5+27,9+33,c+b,2+e,2+6,2+1,2+a,2+e,2+6,2+1,44+136,a+15,
     b+7,19+5,2+29,2+8,46+5,3,2+2b,2+1,4,3+16,2+47,9+8,31+12,2+1,6+20,4+1a,6,41+37,5+13,3+2e,10+3,
     2+2,2+1c,b+8,8+8,8+3f,21+24,7+b,a+35,4+1c,3+1a,6+19,8+3,d+6,51+48,38+32,e+32,8+29,d+9,127+1e,
     2+29,4,3+1,4f+27,9+15,c+8,17+11,5+3,27+1b,15+16,a,2+35,10+6,5+1d,2+1,3,d+30,5+1,3+1,2+3,f+18,
     8+9,a+23,6,a+11,9+22,2+2,c+33,a+9,5+1,2+f,2+13,c+11,2+1b,4+1,2,3+5,2+1,40+6,2,2+3,2+e,2+a,
     7+2e,2+2,e+9,9+1,2+7,3+1,3+15,2+6,2+1,2+4,4,2,2+3,3+1,3+2,3,d+6,9d+37,9+1,4,2+14,2,2+2,1f+2f,
     2+1,7,2+1,2,3,3+3,9+9,a7+2e,2+1,7+3,3,3+1a,25+32,9+1,2,3+3,c+9,7+c,14+2a,2,2+1,7,2+1,7+9,
     37+1a,6+1,5,a+16,ba+2e,a,3,65+52,d+7,3,3+7,2+1,2+17,2+4,2+1,5,2+3,2+2,a+9,47+7,3+29,9+3,2+3,
     1c,b+27,7+1,5+7,a,7+1,4+2d,e,3+8,e+48,8+9,f7+8,2+25,f,2+5,b+1c,4+1f,1a,8,3,4c+6,2+1,2+25,16,
     a+9,7+5,2+1,2+24,5+1,2,2,8+9,137+12,3+3,a+e,2+23,9+1,2,2+16,57,10+31,e+39a,67+6e,2+4,c+c3,
     a4d+62,e+42f,12+5,fba+246,21ba+238,8+1e,2+9,5+50,2+9,7+1d,8,b+2f,8+e,b+9,2+6,2+14,6+12,2b1+5a,
     66+4a,6+37,c+c,41+3,d+1,f+17f7,9+4d5,2b+8,22e8+3,2+6,2+1,2+122,10,1e+2,3,f+3,9+18b,905+6a,6+c,
     4+8,8+9,3,3,12b1+73,3d+f5,b+26,3+3b,2,4+3,16+1,8+1d,5+3c,16+41,4,7b+13,d+13,d+56,a+18,88+54,
     2+46,2+1,3,3+1,3+3,2+b,2,2+6,2+40,2+3,3+7,2+6,2+1b,2+3,2+4,2,4+6,2+153,3+123,3+231,38+3,33+7,
     2+d,2+6,475+1e,7+5,106+3d,93+2c,b+6,3+9,5+1,141+1d,13+2b,5+9,6,1d1+1b,5+9,2e7+6,2+3,2+1,2+e,
     2+c4,3+8,31+43,8,5+9,5+1,312+43,4d+3c,c3+3,2+1a,2+1,2,3,2+9,2+3,2,2,7,5,2,2,2+2,2+1,2,3,2,2,2,
     2,2+1,2,3+3,2+6,2+3,2+3,2,2+9,2+10,6+2,2+4,2+10,35+1,10f+2b,5+63,d+e,3+e,2+e,2+24,b+ad,39+1c,
     e+2b,5+8,8+1,f+5,9b+3d7,5+10,4+c,4+76,5+5e,7+b,5,10+b,5+37,9+9,7+27,9+1d,3+1,4f+153,d+d,3+c,
     4+8,8+2d,2+6,9+d,5+8,8+8,8+92,2+36,26+9,407+a6df,21+1039,7+dd,3+1681,f+1d30,c20+21d,5e3+134a,
     6+105f"⟩,
  ⟨["grext", "graphemeextend"],
    "300+6f,114+6,108+2c,2,2+1,2+1,2,49+a,31+14,11,66+6,3+5,3+1,2+3,24,1f+1a,5c+a,3b+8,a,19+3,2+8,
     2+2,2+4,2c+2,3d+7,2b+17,2+1f,38,2,5+7,5,4+6,b+1,1e,3b,2,3+3,9,a,b+1,1b,3+1,3a,5+1,5+1,3+2,4,
     1f+1,4,c+1,3a,5+4,2+1,5,15+1,17+5,2,3b,2+1,2+3,9,8+2,b+1,1f,3c,2,d,a,29,4,38,2+2,6+2,2+3,8+1,
     c+1,1e,3b,3,3,4,6+1,8+1,c+1,1d+1,3a+1,2,3+3,9,a,b+1,1e,49,5,3+2,2,9,52,3+6,d+7,63,3+8,c+6,
     4a+1,1c,2,2,38+d,2+4,2+1,6+a,2+23,a,67+3,2+5,2+1,3+1,1a+1,5+2,11+3,e,3+1,7,10,2c0+2,3b3+2,
     1e+1,1f+1,1f+1,41+1,2+6,9,3+a,a,2e+2,2,76+1,23,77+2,5+1,a,7+2,dc+1,3,3b,2+6,2,2,3+7,7+9,3,
     31+1e,32+3,31+6,2,6,29+8,d+1,21+3,3+1,2+2,39,2+1,4,2+2,3b+7,3+1,99+2,2+c,2+6,5,7,4+1,c7+3f,
     20d,c4+20,bff+2,8e,61+1f,22b+5,6a+1,75d5+3,2+9,21+1,51+1,111,4,5,1a+1,6,98+1,1b+11,e,27+7,
     1a+a,2f+2,31,3+3,3+1,28,44+5,3+1,3+1,d,9,30,34,2+2,3+1,6+1,2,2b+1,9,ef,3,5,4f31,2e2+f,11+f,
     16f+1,25e,e3,96+4,687+2,2+1,6+3,29+2,5,a6+1,23e+3,184+1,51+2,47+a,32+3,7c,37+e,2a,3+1,b+2,
     32+3,3+1,8,3e+2,25+4,2+7,3f,d+1,35+8,b+3,3,60+2,3,2+1,7,3,9e,4+7,16+1,3a+1,2,2,17,f+6,4+4,
     c4+7,3+2,2,18,52,3+5,2,3,2+1,2+1,ec,3+3,7+1,2+1,1c+1,56+7,3,2+1,6b,2,3+5,2,66+2,3+3,2+4,104+8,
     2+1,f6,b+1,2,5,91+3,3+1,5,21+9,29+5,3+3,9,a+5,3+2,2f+c,2+1,197+6,2+5,2,53+15,3+6,2+1,2+1,7b+5,
     4,2+1,2+6,2,49+1,4,2,15c+1,c+1,35+4,6,2,14fe,7+e,369b+4,3c+6,419,40+3,52,4cb9+1,1262+2d,3+16,
     21f,2+2,5+4,9+7,3+6,1f+3,95+2,7bc+36,5+31,9,f,17+4,2+e,551+6,2+10,3+6,2+1,2+4,65,a1+6,178,
     3e+3,1fd+3,3e1+6,6e+6,c16d6+5f,81+ef"⟩,
  ⟨["hex", "hexdigit"],
    "30+9,8+5,1b+5,feaa+9,8+5,1b+5"⟩,
  ⟨["idsb", "idsbinaryoperator"],
    "2ff0+1,3+7"⟩,
  ⟨["idst", "idstrinaryoperator"],
    "2ff2+1"⟩,
  ⟨["idc", "idcontinue"],
    "30+9,8+19,5,2+19,30,b,2,3,6+16,2+1e,2+1c9,5+b,f+4,8,2,12+74,2+1,3+3,2,7+4,2,2+13,2+52,2+8a,
     2+4,3+a5,2+25,3,7+28,9+2c,2,2+1,2+1,2,9+1a,5+3,1e+a,6+49,5+65,2+7,3+9,2+12,3,11+3a,3+64,f+35,
     5,3,3+2d,13+1b,5+a,6+17,2+5,a+49,2+80,3+9,2+12,2+7,3+1,3+15,2+6,2,4+3,3+8,3+1,3+3,9,5+1,2+4,
     3+b,b,2,3+2,2+5,5+1,3+15,2+6,2+1,2+1,2+1,3,2+4,5+1,3+2,4,8+3,2,8+f,c+2,2+8,2+2,2+15,2+6,2+1,
     2+4,3+9,2+2,2+2,3,10+3,3+9,a+6,2+2,2+7,3+1,3+15,2+6,2+1,2+4,3+8,3+1,3+2,8+2,5+1,2+4,3+9,2,
     11+1,2+5,4+2,2+3,4+1,2,2+1,4+1,4+2,4+b,5+4,4+2,2+3,3,7,f+9,11+c,2+2,2+16,2+f,3+8,2+2,2+3,8+1,
     2+2,3,3+3,3+9,11+3,2+7,2+2,2+16,2+9,2+4,3+8,2+2,2+3,8+1,7+1,2+3,3+9,2+2,d+c,2+2,2+32,2+2,2+4,
     6+3,8+4,3+9,b+5,2+2,2+11,4+17,2+8,2,3+6,4,5+5,2,2+7,7+9,3+1,e+39,6+e,2+9,28+1,2,2+4,2+17,2,
     2+16,3+4,2,2+6,2+9,3+3,21,18+1,7+9,c,2,2,5+9,2+23,5+13,2+11,2+23,a,3a+49,7+4d,3+25,2,6,3+2a,
     2+14c,2+3,3+6,2,2+3,3+28,2+3,3+20,2+3,3+6,2,2+3,3+e,2+38,2+3,3+42,3+2,a+8,f+f,11+55,3+5,4+26b,
     3+10,2+19,6+4a,4+a,8+15,a+15,c+13,d+c,2+2,2+1,d+53,4,5+1,3+9,22+2,2+a,7+58,8+2a,6+45,b+1e,2+b,
     5+b,b+27,3+4,c+2b,5+19,7+a,26+1b,5+3e,2+1c,3+a,7+9,e,9+d,2+f,32+4c,4+9,12+8,d+73,d+37,9+9,
     4+30,3+8,8+2a,3+2,11+2,2+26,6+215,3+5,3+25,3+5,3+7,2,2,2,2+1e,3+34,2+6,2,4+2,2+6,4+3,3+5,5+c,
     6+2,2+6,43+1,14,1d,e,11+c,34+c,5,4+b,12,5,3+9,2,3+5,7,2,2,2+f,3+3,6+4,5,12+28,a78+e4,7+8,d+25,
     2,6,3+37,8,10+17,a+6,2+6,2+6,2+6,2+6,2+6,2+6,2+6,2+1f,206+2,1a+e,2+4,3+4,5+55,3+6,2+59,2+3,
     6+2a,2+5d,12+1f,31+f,201+19bf,41+568c,44+2d,3+10c,4+1b,15+2f,5+9,2+72,26+8,3+66,3+3f,6+1,2,
     2+4,19+35,5,14+33,d+45,b+9,7+17,4,2+30,3+23,d+1c,4+40,f+a,7+1e,2+36,a+d,3+9,7+16,4+48,19+2,
     3+f,3+4,b+5,3+5,3+5,a+6,2+6,2+2a,2+d,7+7a,2+1,3+9,7+2ba3,d+16,5+30,2105+16d,3+69,27+6,d+4,6+b,
     2+c,2+4,2,2+1,2+1,2+6b,22+16a,13+3f,3+35,29+b,5+f,11+f,4+1,19+2,21+4,2+86,14+9,8+19,5,2+19,
     c+58,4+5,3+5,3+5,3+2,24+b,2+19,2+12,2+1,2+e,3+d,23+7a,46+34,89,83+1c,4+30,10,20+1f,e+1d,6+2a,
     6+1d,3+23,5+7,2+4,2b+9d,3+9,7+23,5+23,5+27,9+33,d+a,2+e,2+6,2+1,2+a,2+e,2+6,2+1,44+136,a+15,
     b+7,19+5,2+29,2+8,46+5,3,2+2b,2+1,4,3+16,b+16,a+1e,42+12,2+1,b+15,b+19,47+37,7+1,41+3,2+1,6+7,
     2+2,2+1c,3+2,5,21+1c,4+1c,24+7,2+1d,1a+35,b+15,b+12,e+11,6f+48,38+32,e+32,e+27,9+9,147+29,2+1,
     4+1,4c+1f,b,9+20,20+15,2b+14,1c+16,a+46,20+f,a+3b,8,e+18,8+9,7+34,2+9,5+3,9+23,3,a+44,5+3,2+c,
     2,24+11,2+24,7+3,3f+6,2,2+3,2+e,2+9,8+3a,6+9,7+3,2+7,3+1,3+15,2+6,2+1,2+4,2+9,3+1,3+2,3,7,6+6,
     3+6,4+4,8c+4a,6+9,5+3,1f+45,2,9+9,a7+35,3+8,18+5,23+40,4,c+9,27+38,8+9,37+1a,3+e,5+9,7+6,
     ba+3a,66+49,16+7,3,3+7,2+1,2+1d,2+1,3+8,d+9,47+7,3+2d,3+7,2+1,1c+3e,9,9+49,4,13+48,108+8,2+2c,
     2+8,10+9,19+1d,3+15,2+d,4a+6,2+1,2+2b,4,2+1,2+8,9+9,7+5,2+1,2+24,2+1,2+5,8+9,137+16,a+10,2+28,
     4+4,e+9,57,50+399,67+6e,12+c3,a4d+60,10+42f,11+15,fab+246,21ba+238,8+1e,2+9,7+4e,2+9,7+1d,3+4,
     c+36,a+3,d+9,a+14,6+12,2b1+3f,81+4a,5+38,8+10,41+1,2+1,c+1,f+17f7,9+4d5,2b+8,22e8+3,2+6,2+1,
     2+122,10,1e+2,3,f+3,9+18b,905+6a,6+c,4+8,8+9,4+1,1262+2d,3+16,21f+4,4+5,9+7,3+6,1f+3,95+2,
     1bc+54,2+46,2+1,3,3+1,3+3,2+b,2,2+6,2+40,2+3,3+7,2+6,2+1b,2+3,2+4,2,4+6,2+153,3+18,2+18,2+1e,
     2+18,2+1e,2+18,2+1e,2+18,2+1e,2+18,2+7,3+31,201+36,5+31,9,f,17+4,2+e,451+1e,7+5,d6+6,2+10,3+6,
     2+1,2+4,6+3d,22,71+2c,4+d,3+9,5,142+1e,12+39,1d7+29,2e7+6,2+3,2+1,2+e,2+c4,c+6,2a+4b,5+9,
     4a7+3,2+1a,2+1,2,3,2+9,2+3,2,2,7,5,2,2,2+2,2+1,2,3,2,2,2,2,2+1,2,3+3,2+6,2+3,2+3,2,2+9,2+10,
     6+2,2+4,2+10,d35+9,407+a6df,21+1039,7+dd,3+1681,f+1d30,c20+21d,5e3+134a,6+105f,add51+ef"⟩,
  ⟨["ids", "idstart"],
    "41+19,7+19,30,b,5,6+16,2+1e,2+1c9,5+b,f+4,8,2,82+4,2+1,3+3,2,7,2+2,2,2+13,2+52,2+8a,9+a5,2+25,
     3,7+28,48+1a,5+3,2e+2a,24+1,2+62,2,10+1,8+1,b+2,3,11,2+1d,1e+58,c,19+20,a+1,5,6+15,5,a,4,
     18+18,8+a,6+17,2+5,12+29,3b+35,4,13,8+9,10+f,5+7,3+1,3+15,2+6,2,4+3,4,11,e+1,2+2,f+1,b,9+5,
     5+1,3+15,2+6,2+1,2+1,2+1,20+3,2,14+2,11+8,2+2,2+15,2+6,2+1,2+4,4,13,10+1,18,c+7,3+1,3+15,2+6,
     2+1,2+4,4,1f+1,2+2,10,12,2+5,4+2,2+3,4+1,2,2+1,4+1,4+2,4+b,17,35+7,2+2,2+16,2+f,4,1b+2,3,3+1,
     1f,5+7,2+2,2+16,2+9,2+4,4,20+1,2+1,10+1,12+8,2+2,2+28,3,11,6+2,9+2,19+5,6+11,4+17,2+8,2,3+6,
     3b+2f,2+1,d+6,3b+1,2,2+4,2+17,2,2+9,2+1,a,3+4,2,16+3,21,40+7,2+23,1c+4,74+2a,15,11+5,5+3,4,
     4+1,8+2,5+c,d,12+25,2,6,3+2a,2+14c,2+3,3+6,2,2+3,3+28,2+3,3+20,2+3,3+6,2,2+3,3+e,2+38,2+3,
     3+42,26+f,11+55,3+5,4+26b,3+10,2+19,6+4a,4+a,8+11,e+12,f+11,f+c,2+2,10+33,24,5,44+58,8+28,2,
     6+45,b+1e,32+1d,3+4,c+2b,5+19,37+16,a+34,53,5e+2e,12+7,37+1d,e+1,b+2b,1b+23,2a+2,b+23,3+8,
     8+2a,3+2,2a+3,2+5,2+1,4,6+bf,41+115,3+5,3+25,3+5,3+7,2,2,2,2+1e,3+34,2+6,2,4+2,2+6,4+3,3+5,
     5+c,6+2,2+6,75,e,11+c,66,5,3+9,2,3+5,7,2,2,2+f,3+3,6+4,5,12+28,a78+e4,7+3,4+1,d+25,2,6,3+37,8,
     11+16,a+6,2+6,2+6,2+6,2+6,2+6,2+6,2+6,227+2,1a+8,8+4,3+4,5+55,5+4,2+59,2+3,6+2a,2+5d,12+1f,
     31+f,201+19bf,41+568c,44+2d,3+10c,4+f,b+1,15+2e,11+1e,3+4f,28+8,3+66,3+3f,6+1,2,2+4,19+f,2+2,
     2+3,2+16,1e+33,f+31,3f+5,4,2+1,c+1b,b+16,1a+1c,8+2e,1d,11+4,2+9,b+4,2+28,18+2,2+7,15+16,4,
     4+31,2,4+1,3+4,3,2,19+2,3+a,8+2,d+5,3+5,3+5,a+6,2+6,2+2a,2+d,7+72,1e+2ba3,d+16,5+30,2105+16d,
     3+69,27+6,d+4,6,2+9,2+c,2+4,2,2+1,2+1,2+6b,22+16a,13+3f,3+35,29+b,75+4,2+86,25+19,7+19,c+58,
     4+5,3+5,3+5,3+2,24+b,2+19,2+12,2+1,2+e,3+d,23+7a,46+34,10c+1c,4+30,30+1f,e+1d,6+25,b+1d,3+23,
     5+7,2+4,2b+9d,13+23,5+23,5+27,9+33,d+a,2+e,2+6,2+1,2+a,2+e,2+6,2+1,44+136,a+15,b+7,19+5,2+29,
     2+8,46+5,3,2+2b,2+1,4,3+16,b+16,a+1e,42+12,2+1,b+15,b+19,47+37,7+1,41,10+3,2+2,2+1c,2b+1c,
     4+1c,24+7,2+1b,1c+35,b+15,b+12,e+11,6f+48,38+32,e+32,e+23,15d+29,7+1,4f+1c,b,9+15,2b+11,2f+14,
     1c+16,d+34,3a+1,3,e+2c,21+18,1b+23,1e,3,9+22,4,d+2f,f+3,16,2,24+11,2+18,14+1,40+6,2,2+3,2+e,
     2+9,8+2e,27+7,3+1,3+15,2+6,2+1,2+4,4,13,d+4,9f+34,13+3,15+2,1f+2f,15+1,2,b9+2e,2a+3,25+2f,15,
     3c+2a,e,48+1a,26+6,ba+2b,75+3f,20+7,3,3+7,2+1,2+17,10,2,5f+7,3+26,11,2,1d,b+27,8,16,c+2d,14,
     13+48,108+8,2+24,12,32+1d,71+6,2+1,2+25,16,1a+5,2+1,2+1f,f,148+12,10,2+c,2+21,7d,50+399,67+6e,
     12+c3,a4d+60,10+42f,12+5,fba+246,21ba+238,8+1e,12+4e,12+1d,13+2f,11+3,20+14,6+12,2b1+3f,81+4a,
     6,43+c,41+1,2,1d+17f7,9+4d5,2b+8,22e8+3,2+6,2+1,2+122,10,1e+2,3,f+3,9+18b,905+6a,6+c,4+8,8+9,
     1767+54,2+46,2+1,3,3+1,3+3,2+b,2,2+6,2+40,2+3,3+7,2+6,2+1b,2+3,2+4,2,4+6,2+153,3+18,2+18,2+1e,
     2+18,2+1e,2+18,2+1e,2+18,2+1e,2+18,2+7,735+1e,7+5,106+3d,93+2c,b+6,11,142+1d,13+2b,1e5+1b,
     2f5+6,2+3,2+1,2+e,2+c4,3c+43,8,4b5+3,2+1a,2+1,2,3,2+9,2+3,2,2,7,5,2,2,2+2,2+1,2,3,2,2,2,2,2+1,
     2,3+3,2+6,2+3,2+3,2,2+9,2+10,6+2,2+4,2+10,1145+a6df,21+1039,7+dd,3+1681,f+1d30,c20+21d,
     5e3+134a,6+105f"⟩,
  ⟨["ideo", "ideographic"],
    "3006+1,1a+8,f+2,3c6+19bf,41+51ff,5901+16d,3+69,750b,1c+17f7,9+4d5,2b+8,2468+18b,4d05+a6df,
     21+1039,7+dd,3+1681,f+1d30,c20+21d,5e3+134a,6+105f"⟩,
  ⟨["joinc", "joincontrol"],
    "200c+1"⟩,
  ⟨["loe", "logicalorderexception"],
    "e40+4,7c+4,af1+2,3,90fb+1,3,2+1"⟩,
  ⟨["lower", "lowercase"],
    "61+19,30,b,5,25+17,2+7,2,2,2,2,2,2,2,2,2,2,2,2,2,2,2,2,2,2,2,2,2,2,2,2,2,2,2,2+1,2,2,2,2,2,2,
     2,2+1,2,2,2,2,2,2,2,2,2,2,2,2,2,2,2,2,2,2,2,2,2,2,2,3,2,2+2,3,2,3,4+1,5,3,4+2,3,3,2,2,3,2+1,2,
     3,4,2,3+1,3+2,7,3,3,2,2,2,2,2,2,2,2+1,2,2,2,2,2,2,2,2,2+1,3,2,4,2,2,2,2,2,2,2,2,2,2,2,2,2,2,2,
     2,2,2,2,2,2,2,2,2,2,2,2,2,2+6,3,3+1,2,5,2,2,2,2+44,2+23,8+1,1f+4,61,2c,2,4,3+3,13,1c+22,2+1,
     4+2,2,2,2,2,2,2,2,2,2,2,2,2+4,2,3,3+1,34+2f,2,2,2,2,2,2,2,2,2,2,2,2,2,2,2,2,2,a,2,2,2,2,2,2,2,
     2,2,2,2,2,2,2,2,2,2,2,2,2,2,2,2,2,2,2,3,2,2,2,2,2,2+1,2,2,2,2,2,2,2,2,2,2,2,2,2,2,2,2,2,2,2,2,
     2,2,2,2,2,2,2,2,2,2,2,2,2,2,2,2,2,2,2,2,2,2,2,2,2,2,2,2,31+28,b48+2a,2+3,2f9+5,883+8,78+bf,42,
     2,2,2,2,2,2,2,2,2,2,2,2,2,2,2,2,2,2,2,2,2,2,2,2,2,2,2,2,2,2,2,2,2,2,2,2,2,2,2,2,2,2,2,2,2,2,2,
     2,2,2,2,2,2,2,2,2,2,2,2,2,2,2,2,2,2,2,2,2,2,2,2,2,2,2+8,2,2,2,2,2,2,2,2,2,2,2,2,2,2,2,2,2,2,2,
     2,2,2,2,2,2,2,2,2,2,2,2,2,2,2,2,2,2,2,2,2,2,2,2,2,2,2,2,2,2+8,9+5,b+7,9+7,9+5,b+7,9+7,9+d,3+7,
     9+7,9+7,9+4,2+1,7,4+2,2+1,9+3,3+1,9+7,b+2,2+1,7a,e,11+c,6e,4+1,4,1c,5,5,3+1,9+3,5,22+f,5,
     34c+19,747+2f,2,4+1,2,2,2,5,2+1,2+7,4,2,2,2,2,2,2,2,2,2,2,2,2,2,2,2,2,2,2,2,2,2,2,2,2,2,2,2,2,
     2,2,2,2,2,2,2,2,2,2,2,2,2,2,2,2,2,2,2,2,2+1,8,2,5,d+25,2,6,7914,2,2,2,2,2,2,2,2,2,2,2,2,2,2,2,
     2,2,2,2,2,2,2,14,2,2,2,2,2,2,2,2,2,2,2,2,2+2,86,2,2,2,2,2,2+2,2,2,2,2,2,2,2,2,2,2,2,2,2,2,2,2,
     2,2,2,2,2,2,2,2,2,2,2,2,2,2,2+9,2,2,3,2,2,2,2,5,2,3,2+2,2,2,2,2,2,2,2,2,2,2,6,6,2,2,2,2,2,2,2,
     5,2,7,2,2,2,2,19+2,2,2+2,336+2a,2+d,7+4f,4f41+6,d+4,42a+19,4ce+27,89+23,9c+a,2+e,2+6,2+1,1c4,
     3+2,2+29,2+8,506+32,bce+1f,5581+1f,659b+19,1b+6,2+11,1b+19,1b+3,2,2+6,2+a,1b+19,1b+19,1b+19,
     1b+19,1b+19,1b+19,1b+19,1b+19,1b+1b,1d+18,2+5,1b+18,2+5,1b+18,2+5,1b+18,2+5,1b+18,2+5,2,735+9,
     2+13,7+5,106+3d,8b5+21"⟩,
  ⟨["math"],
    "2b,11+2,20,1e,2,2e,5,26,20,2d9+2,3,1b+1,3+2,210+2,1a0e,1c+2,c,4,e,f+3,16+4,c+4,42+c,5,4+1,5+4,
     13,5,3+9,2,3+5,7,4+1,3+1,2+2,2+5,4+d,2,45+17,2+5,2+1,5+1,5+1f,2,7+1,f+10b,9+3,15+1,5b,1f+1a,2,
     19,c+6,1be+1,d+9,5+5,5+1,3+1,4+4,f,2,3+5,c+7,6+1,3a,2,1e+3,a+2,151+3f,101+1ff,31+14,3+5,cfdd,
     338+5,2,a3,11+2,1e,2,1e,2,84,7+3,d414+54,2+46,2+1,3,3+1,3+3,2+b,2,2+6,2+40,2+3,3+7,2+6,2+1b,
     2+3,2+4,2,4+6,2+153,3+123,3+31,1601+3,2+1a,2+1,2,3,2+9,2+3,2,2,7,5,2,2,2+2,2+1,2,3,2,2,2,2,
     2+1,2,3+3,2+6,2+3,2+3,2,2+9,2+10,6+2,2+4,2+10,35+1"⟩,
  ⟨["nchar", "noncharactercodepoint"],
    "fdd0+1f,20f+1,ffff+1,ffff+1,ffff+1,ffff+1,ffff+1,ffff+1,ffff+1,ffff+1,ffff+1,ffff+1,ffff+1,
     ffff+1,ffff+1,ffff+1,ffff+1,ffff+1"⟩,
  ⟨["patsyn", "patternsyntax"],
    "21+e,b+6,1b+3,2,1b+3,23+6,2,2+1,2,2+1,5,5,4,18,20,1f19+17,9+e,3+12,2+9,132+2cf,a1+275,1f+46b,
     201+7f,182+2,5+18,10,cd0e+1,106+1"⟩,
  ⟨["patws", "patternwhitespace"],
    "9+4,13,65,1f89+1,19+1"⟩,
  ⟨["pcm", "prependedconcatenationmark"],
    "600+5,d8,32,181+1,51,107db,10"⟩,
  ⟨["qmark", "quotationmark"],
    "22,5,84,10,1f5d+7,1a+1,e08,1ca+3,e+2,ce22+3,be,5,5b+1"⟩,
  ⟨["radical"],
    "2e80+19,2+58,d+d5"⟩,
  ⟨["ri", "regionalindicator"],
    "1f1e6+19"⟩,
  ⟨["sterm", "sentenceterminal"],
    "21,d,11,54a,94+2,b5,2c+2,f7,3e,2,4+1,126+1,6e5+1,317,5+1,306,c7+1,cd,6,13b+1,163+3,af+1,3+1,
     1e+1,bd+1,42+1,3bd+1,a+2,de5,e,17+1,1ae,74fd,10f+1,e4,4,17f+1,57+1,60,99+1,94+2,91+1,fa,5267,
     4+1,aa,d,11,42,af5+1,4fe+4,2d+3,be+1,76+3,80+2,82+1,7,11+1,59+1,2+1,6d,1a2+1,176+1,6+e,6a+1,
     fa+2,206,2,fc+1,58+1,1a5+1,2b5+1,4b+1,4b2a+1,86,42+1,c,354,4e07,1de9"⟩,
  ⟨["sd", "softdotted"],
    "69+1,c5,11a,1f,35,15,141,63,2,190a,34,e,4,85,9e,1a6,d7+1,b33,1a7a6+1,33+1,33+1,33+1,33+1,33+1,
     33+1,33+1,33+1,33+1,33+1,33+1,33+1,887,132+1,1b"⟩,
  ⟨["term", "terminalpunctuation"],
    "21,b,2,c+1,4,33f,9,202,3a,49,f,2+2,b5,2c+a,2,ec+1,37+e,20,106+1,4f5+1,ad,5+5,138+1,316+7,306,
     7d+2,48+1,9e+2,4,28+3,3+1,13b+1,163+3,af+1,2+2,1e+1,bd+4,3f+1,3bd+1,a+2,de5,e,5,b,2+1,4+1,
     1ad+1,74fc+1,10e+2,e4+4,17f+1,57+1,60,98+2,94+2,80,11+1,fa,5265+2,2+3,aa,b,2,c+1,4,42,3,43b,
     31,487,c8,137+1,99+5,45+5,5a+3,3b9+4,2d+3,be+6,71+3,80+2,82+1,7,11+1,59+4,6d,1a2+2,d+1,167+3,
     4+e,6a+1,fa+2,206,2,fc+1,58+1,5+1,19f+2,2e,286+1,4b+1,52c+4,45fa+1,86,42+2,b,353+1,4e07,1de8+3"⟩,
  ⟨["uideo", "unifiedideograph"],
    "3400+19bf,41+51ff,5a0f+1,2,2+1,b,2,2+1,3+2,105d7+a6df,21+1039,7+dd,3+1681,f+1d30,1420+134a,
     6+105f"⟩,
  ⟨["upper", "uppercase"],
    "41+19,66+16,2+6,22,2,2,2,2,2,2,2,2,2,2,2,2,2,2,2,2,2,2,2,2,2,2,2,2,2,2,2,3,2,2,2,2,2,2,2,3,2,
     2,2,2,2,2,2,2,2,2,2,2,2,2,2,2,2,2,2,2,2,2,2+1,2,2,4+1,2,2+1,2+2,3+3,2+1,2+2,4+1,2+1,2,2,2+1,2,
     3,2+1,2+2,2,2+1,4,8,3,3,3,2,2,2,2,2,2,2,3,2,2,2,2,2,2,2,2,3,3,2+2,2,2,2,2,2,2,2,2,2,2,2,2,2,2,
     2,2,2,2,2,2,2,2,2,2,2,2,2,2,2,8+1,2+1,3,2+3,2,2,2,2,122,2,4,9,7,2+2,2,2+1,2+10,2+8,24,3+2,4,2,
     2,2,2,2,2,2,2,2,2,2,6,3,2+1,3+32,31,2,2,2,2,2,2,2,2,2,2,2,2,2,2,2,2,a,2,2,2,2,2,2,2,2,2,2,2,2,
     2,2,2,2,2,2,2,2,2,2,2,2,2,2,2+1,2,2,2,2,2,2,3,2,2,2,2,2,2,2,2,2,2,2,2,2,2,2,2,2,2,2,2,2,2,2,2,
     2,2,2,2,2,2,2,2,2,2,2,2,2,2,2,2,2,2,2,2,2,2,2,3+25,b4a+25,2,6,2d3+55,89b+2a,3+2,141,2,2,2,2,2,
     2,2,2,2,2,2,2,2,2,2,2,2,2,2,2,2,2,2,2,2,2,2,2,2,2,2,2,2,2,2,2,2,2,2,2,2,2,2,2,2,2,2,2,2,2,2,2,
     2,2,2,2,2,2,2,2,2,2,2,2,2,2,2,2,2,2,2,2,2,2,a,2,2,2,2,2,2,2,2,2,2,2,2,2,2,2,2,2,2,2,2,2,2,2,2,
     2,2,2,2,2,2,2,2,2,2,2,2,2,2,2,2,2,2,2,2,2,2,2,2,a+7,9+5,b+7,9+7,9+5,c,2,2,2,9+7,49+3,d+3,d+3,
     d+4,c+3,107,5,4+2,3+2,3,4+4,7,2,2,2+3,3+3,b+1,6,1b+f,14,333+19,731+2f,31,2+2,3,2,2,2+3,2,3,
     9+2,2,2,2,2,2,2,2,2,2,2,2,2,2,2,2,2,2,2,2,2,2,2,2,2,2,2,2,2,2,2,2,2,2,2,2,2,2,2,2,2,2,2,2,2,2,
     2,2,2,2,9,2,5,794e,2,2,2,2,2,2,2,2,2,2,2,2,2,2,2,2,2,2,2,2,2,2,14,2,2,2,2,2,2,2,2,2,2,2,2,2,
     88,2,2,2,2,2,2,4,2,2,2,2,2,2,2,2,2,2,2,2,2,2,2,2,2,2,2,2,2,2,2,2,2,2,2,2,2,2,b,2,2+1,2,2,2,2,
     5,2,3,2,4,2,2,2,2,2,2,2,2,2,2+4,2+4,2,2,2,2,2,2,2,2+3,2,7,6,2,1d,572c+19,4c6+27,89+23,9d+a,
     2+e,2+6,2+1,6eb+32,bee+1f,5581+1f,65a1+19,1b+19,1b+19,1b,2+1,3,3+1,3+3,2+7,1b+19,1b+1,2+3,3+7,
     2+6,1c+1,2+3,2+4,2,4+6,1c+19,1b+19,1b+19,1b+19,1b+19,1b+19,1f+18,22+18,22+18,22+18,22+18,22,
     1136+21,80f+19,7+19,7+19"⟩,
  ⟨["vs", "variationselector"],
    "180b+2,2,e5f1+f,d02f1+ef"⟩,
  ⟨["wspace", "whitespace", "space"],
    "9+4,13,65,1b,15e0,980+a,1e+1,6,30,fa1"⟩,
  ⟨["xidc", "xidcontinue"],
    "30+9,8+19,5,2+19,30,b,2,3,6+16,2+1e,2+1c9,5+b,f+4,8,2,12+74,2+1,4+2,2,7+4,2,2+13,2+52,2+8a,
     2+4,3+a5,2+25,3,7+28,9+2c,2,2+1,2+1,2,9+1a,5+3,1e+a,6+49,5+65,2+7,3+9,2+12,3,11+3a,3+64,f+35,
     5,3,3+2d,13+1b,5+a,6+17,2+5,a+49,2+80,3+9,2+12,2+7,3+1,3+15,2+6,2,4+3,3+8,3+1,3+3,9,5+1,2+4,
     3+b,b,2,3+2,2+5,5+1,3+15,2+6,2+1,2+1,2+1,3,2+4,5+1,3+2,4,8+3,2,8+f,c+2,2+8,2+2,2+15,2+6,2+1,
     2+4,3+9,2+2,2+2,3,10+3,3+9,a+6,2+2,2+7,3+1,3+15,2+6,2+1,2+4,3+8,3+1,3+2,8+2,5+1,2+4,3+9,2,
     11+1,2+5,4+2,2+3,4+1,2,2+1,4+1,4+2,4+b,5+4,4+2,2+3,3,7,f+9,11+c,2+2,2+16,2+f,3+8,2+2,2+3,8+1,
     2+2,3,3+3,3+9,11+3,2+7,2+2,2+16,2+9,2+4,3+8,2+2,2+3,8+1,7+1,2+3,3+9,2+2,d+c,2+2,2+32,2+2,2+4,
     6+3,8+4,3+9,b+5,2+2,2+11,4+17,2+8,2,3+6,4,5+5,2,2+7,7+9,3+1,e+39,6+e,2+9,28+1,2,2+4,2+17,2,
     2+16,3+4,2,2+6,2+9,3+3,21,18+1,7+9,c,2,2,5+9,2+23,5+13,2+11,2+23,a,3a+49,7+4d,3+25,2,6,3+2a,
     2+14c,2+3,3+6,2,2+3,3+28,2+3,3+20,2+3,3+6,2,2+3,3+e,2+38,2+3,3+42,3+2,a+8,f+f,11+55,3+5,4+26b,
     3+10,2+19,6+4a,4+a,8+15,a+15,c+13,d+c,2+2,2+1,d+53,4,5+1,3+9,22+2,2+a,7+58,8+2a,6+45,b+1e,2+b,
     5+b,b+27,3+4,c+2b,5+19,7+a,26+1b,5+3e,2+1c,3+a,7+9,e,9+d,2+f,32+4c,4+9,12+8,d+73,d+37,9+9,
     4+30,3+8,8+2a,3+2,11+2,2+26,6+215,3+5,3+25,3+5,3+7,2,2,2,2+1e,3+34,2+6,2,4+2,2+6,4+3,3+5,5+c,
     6+2,2+6,43+1,14,1d,e,11+c,34+c,5,4+b,12,5,3+9,2,3+5,7,2,2,2+f,3+3,6+4,5,12+28,a78+e4,7+8,d+25,
     2,6,3+37,8,10+17,a+6,2+6,2+6,2+6,2+6,2+6,2+6,2+6,2+1f,206+2,1a+e,2+4,3+4,5+55,3+1,3+2,2+59,
     2+3,6+2a,2+5d,12+1f,31+f,201+19bf,41+568c,44+2d,3+10c,4+1b,15+2f,5+9,2+72,26+8,3+66,3+3f,6+1,
     2,2+4,19+35,5,14+33,d+45,b+9,7+17,4,2+30,3+23,d+1c,4+40,f+a,7+1e,2+36,a+d,3+9,7+16,4+48,19+2,
     3+f,3+4,b+5,3+5,3+5,a+6,2+6,2+2a,2+d,7+7a,2+1,3+9,7+2ba3,d+16,5+30,2105+16d,3+69,27+6,d+4,6+b,
     2+c,2+4,2,2+1,2+1,2+6b,22+8a,7+d9,13+3f,3+35,29+9,7+f,11+f,4+1,19+2,22,2,4,2,2,2,2+7d,14+9,
     8+19,5,2+19,c+58,4+5,3+5,3+5,3+2,24+b,2+19,2+12,2+1,2+e,3+d,23+7a,46+34,89,83+1c,4+30,10,
     20+1f,e+1d,6+2a,6+1d,3+23,5+7,2+4,2b+9d,3+9,7+23,5+23,5+27,9+33,d+a,2+e,2+6,2+1,2+a,2+e,2+6,
     2+1,44+136,a+15,b+7,19+5,2+29,2+8,46+5,3,2+2b,2+1,4,3+16,b+16,a+1e,42+12,2+1,b+15,b+19,47+37,
     7+1,41+3,2+1,6+7,2+2,2+1c,3+2,5,21+1c,4+1c,24+7,2+1d,1a+35,b+15,b+12,e+11,6f+48,38+32,e+32,
     e+27,9+9,147+29,2+1,4+1,4c+1f,b,9+20,20+15,2b+14,1c+16,a+46,20+f,a+3b,8,e+18,8+9,7+34,2+9,5+3,
     9+23,3,a+44,5+3,2+c,2,24+11,2+24,7+3,3f+6,2,2+3,2+e,2+9,8+3a,6+9,7+3,2+7,3+1,3+15,2+6,2+1,2+4,
     2+9,3+1,3+2,3,7,6+6,3+6,4+4,8c+4a,6+9,5+3,1f+45,2,9+9,a7+35,3+8,18+5,23+40,4,c+9,27+38,8+9,
     37+1a,3+e,5+9,7+6,ba+3a,66+49,16+7,3,3+7,2+1,2+1d,2+1,3+8,d+9,47+7,3+2d,3+7,2+1,1c+3e,9,9+49,
     4,13+48,108+8,2+2c,2+8,10+9,19+1d,3+15,2+d,4a+6,2+1,2+2b,4,2+1,2+8,9+9,7+5,2+1,2+24,2+1,2+5,
     8+9,137+16,a+10,2+28,4+4,e+9,57,50+399,67+6e,12+c3,a4d+60,10+42f,11+15,fab+246,21ba+238,8+1e,
     2+9,7+4e,2+9,7+1d,3+4,c+36,a+3,d+9,a+14,6+12,2b1+3f,81+4a,5+38,8+10,41+1,2+1,c+1,f+17f7,9+4d5,
     2b+8,22e8+3,2+6,2+1,2+122,10,1e+2,3,f+3,9+18b,905+6a,6+c,4+8,8+9,4+1,1262+2d,3+16,21f+4,4+5,
     9+7,3+6,1f+3,95+2,1bc+54,2+46,2+1,3,3+1,3+3,2+b,2,2+6,2+40,2+3,3+7,2+6,2+1b,2+3,2+4,2,4+6,
     2+153,3+18,2+18,2+1e,2+18,2+1e,2+18,2+1e,2+18,2+1e,2+18,2+7,3+31,201+36,5+31,9,f,17+4,2+e,
     451+1e,7+5,d6+6,2+10,3+6,2+1,2+4,6+3d,22,71+2c,4+d,3+9,5,142+1e,12+39,1d7+29,2e7+6,2+3,2+1,
     2+e,2+c4,c+6,2a+4b,5+9,4a7+3,2+1a,2+1,2,3,2+9,2+3,2,2,7,5,2,2,2+2,2+1,2,3,2,2,2,2,2+1,2,3+3,
     2+6,2+3,2+3,2,2+9,2+10,6+2,2+4,2+10,d35+9,407+a6df,21+1039,7+dd,3+1681,f+1d30,c20+21d,
     5e3+134a,6+105f,add51+ef"⟩,
  ⟨["xids", "xidstart"],
    "41+19,7+19,30,b,5,6+16,2+1e,2+1c9,5+b,f+4,8,2,82+4,2+1,4+2,2,7,2+2,2,2+13,2+52,2+8a,9+a5,2+25,
     3,7+28,48+1a,5+3,2e+2a,24+1,2+62,2,10+1,8+1,b+2,3,11,2+1d,1e+58,c,19+20,a+1,5,6+15,5,a,4,
     18+18,8+a,6+17,2+5,12+29,3b+35,4,13,8+9,10+f,5+7,3+1,3+15,2+6,2,4+3,4,11,e+1,2+2,f+1,b,9+5,
     5+1,3+15,2+6,2+1,2+1,2+1,20+3,2,14+2,11+8,2+2,2+15,2+6,2+1,2+4,4,13,10+1,18,c+7,3+1,3+15,2+6,
     2+1,2+4,4,1f+1,2+2,10,12,2+5,4+2,2+3,4+1,2,2+1,4+1,4+2,4+b,17,35+7,2+2,2+16,2+f,4,1b+2,3,3+1,
     1f,5+7,2+2,2+16,2+9,2+4,4,20+1,2+1,10+1,12+8,2+2,2+28,3,11,6+2,9+2,19+5,6+11,4+17,2+8,2,3+6,
     3b+2f,2,e+6,3b+1,2,2+4,2+17,2,2+9,2,b,3+4,2,16+3,21,40+7,2+23,1c+4,74+2a,15,11+5,5+3,4,4+1,
     8+2,5+c,d,12+25,2,6,3+2a,2+14c,2+3,3+6,2,2+3,3+28,2+3,3+20,2+3,3+6,2,2+3,3+e,2+38,2+3,3+42,
     26+f,11+55,3+5,4+26b,3+10,2+19,6+4a,4+a,8+11,e+12,f+11,f+c,2+2,10+33,24,5,44+58,8+28,2,6+45,
     b+1e,32+1d,3+4,c+2b,5+19,37+16,a+34,53,5e+2e,12+7,37+1d,e+1,b+2b,1b+23,2a+2,b+23,3+8,8+2a,3+2,
     2a+3,2+5,2+1,4,6+bf,41+115,3+5,3+25,3+5,3+7,2,2,2,2+1e,3+34,2+6,2,4+2,2+6,4+3,3+5,5+c,6+2,2+6,
     75,e,11+c,66,5,3+9,2,3+5,7,2,2,2+f,3+3,6+4,5,12+28,a78+e4,7+3,4+1,d+25,2,6,3+37,8,11+16,a+6,
     2+6,2+6,2+6,2+6,2+6,2+6,2+6,227+2,1a+8,8+4,3+4,5+55,7+2,2+59,2+3,6+2a,2+5d,12+1f,31+f,
     201+19bf,41+568c,44+2d,3+10c,4+f,b+1,15+2e,11+1e,3+4f,28+8,3+66,3+3f,6+1,2,2+4,19+f,2+2,2+3,
     2+16,1e+33,f+31,3f+5,4,2+1,c+1b,b+16,1a+1c,8+2e,1d,11+4,2+9,b+4,2+28,18+2,2+7,15+16,4,4+31,2,
     4+1,3+4,3,2,19+2,3+a,8+2,d+5,3+5,3+5,a+6,2+6,2+2a,2+d,7+72,1e+2ba3,d+16,5+30,2105+16d,3+69,
     27+6,d+4,6,2+9,2+c,2+4,2,2+1,2+1,2+6b,22+8a,7+d9,13+3f,3+35,29+9,78,2,4,2,2,2,2+7d,25+19,7+19,
     c+37,3+1e,4+5,3+5,3+5,3+2,24+b,2+19,2+12,2+1,2+e,3+d,23+7a,46+34,10c+1c,4+30,30+1f,e+1d,6+25,
     b+1d,3+23,5+7,2+4,2b+9d,13+23,5+23,5+27,9+33,d+a,2+e,2+6,2+1,2+a,2+e,2+6,2+1,44+136,a+15,b+7,
     19+5,2+29,2+8,46+5,3,2+2b,2+1,4,3+16,b+16,a+1e,42+12,2+1,b+15,b+19,47+37,7+1,41,10+3,2+2,2+1c,
     2b+1c,4+1c,24+7,2+1b,1c+35,b+15,b+12,e+11,6f+48,38+32,e+32,e+23,15d+29,7+1,4f+1c,b,9+15,2b+11,
     2f+14,1c+16,d+34,3a+1,3,e+2c,21+18,1b+23,1e,3,9+22,4,d+2f,f+3,16,2,24+11,2+18,14+1,40+6,2,2+3,
     2+e,2+9,8+2e,27+7,3+1,3+15,2+6,2+1,2+4,4,13,d+4,9f+34,13+3,15+2,1f+2f,15+1,2,b9+2e,2a+3,25+2f,
     15,3c+2a,e,48+1a,26+6,ba+2b,75+3f,20+7,3,3+7,2+1,2+17,10,2,5f+7,3+26,11,2,1d,b+27,8,16,c+2d,
     14,13+48,108+8,2+24,12,32+1d,71+6,2+1,2+25,16,1a+5,2+1,2+1f,f,148+12,10,2+c,2+21,7d,50+399,
     67+6e,12+c3,a4d+60,10+42f,12+5,fba+246,21ba+238,8+1e,12+4e,12+1d,13+2f,11+3,20+14,6+12,2b1+3f,
     81+4a,6,43+c,41+1,2,1d+17f7,9+4d5,2b+8,22e8+3,2+6,2+1,2+122,10,1e+2,3,f+3,9+18b,905+6a,6+c,
     4+8,8+9,1767+54,2+46,2+1,3,3+1,3+3,2+b,2,2+6,2+40,2+3,3+7,2+6,2+1b,2+3,2+4,2,4+6,2+153,3+18,
     2+18,2+1e,2+18,2+1e,2+18,2+1e,2+18,2+1e,2+18,2+7,735+1e,7+5,106+3d,93+2c,b+6,11,142+1d,13+2b,
     1e5+1b,2f5+6,2+3,2+1,2+e,2+c4,3c+43,8,4b5+3,2+1a,2+1,2,3,2+9,2+3,2,2,7,5,2,2,2+2,2+1,2,3,2,2,
     2,2,2+1,2,3+3,2+6,2+3,2+3,2,2+9,2+10,6+2,2+4,2+10,1145+a6df,21+1039,7+dd,3+1681,f+1d30,
     c20+21d,5e3+134a,6+105f"⟩]

end LayoutSync.Text
