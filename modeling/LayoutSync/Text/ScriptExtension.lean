import LayoutSync.Text.Property

namespace LayoutSync.Text

def scriptExtensions : List PropertyValue := [
  ⟨["adlm", "adlam"],
    "61f,21,1e2c0+4b,5+9,5+1"⟩,
  ⟨["arab", "arabic"],
    "600+4,2+d6,2+21,51+2f,f1+1e,2+1,7+49,2+1c,f251+72,11+1bc,3+35,8,21+f,71+4,2+86,3e4+1b,b65+1e,
     7f+2,df01+3,2+1a,2+1,2,3,2+9,2+3,2,2,7,5,2,2,2+2,2+1,2,3,2,2,2,2,2+1,2,3+3,2+6,2+3,2+3,2,2+9,
     2+10,6+2,2+4,2+10,35+1"⟩,
  ⟨["beng", "bengali"],
    "951+1,12+1,1b+3,2+7,3+1,3+15,2+6,2,4+3,3+8,3+1,3+3,9,5+1,2+4,3+18,12d2,2,3+1,2,9,9,3,5,3+2,
     8bfa"⟩,
  ⟨["bopo", "bopomofo"],
    "2ea+1,2d16+2,5+9,2+c,b+3,3,7,c4,a+2a,71+1f,cc86+1,11b+4"⟩,
  ⟨["bugi", "buginese"],
    "1a00+1b,3+1,8fb0"⟩,
  ⟨["buhd", "buhid"],
    "1735+1,a+13"⟩,
  ⟨["cakm", "chakma"],
    "9e6+9,651+9,100b7+34,2+11"⟩,
  ⟨["copt", "coptic", "qaac"],
    "3e2+d,2891+73,6+6,d5e1+1b"⟩,
  ⟨["cpmn", "cyprominoan"],
    "10100+1,2e8f+62"⟩,
  ⟨["cprt", "cypriot"],
    "10100+2,5+2c,4+8,6c1+5,3,2+2b,2+1,4,3"⟩,
  ⟨["cyrl", "cyrillic"],
    "400+12f,1751+8,a3,4d,80,fe8+1f,44,77fd+5f,578f+1,e201+3d,22"⟩,
  ⟨["deva", "devanagari"],
    "900+52,3+2a,1351+26,2+1,3f7,8740+9,a7+1f,7201+9"⟩,
  ⟨["dogr", "dogra"],
    "964+b,9ec1+9,6fc7+3b"⟩,
  ⟨["dupl", "duployan"],
    "1bc00+6a,6+c,4+8,8+9,3+7"⟩,
  ⟨["geor", "georgian"],
    "10a0+25,2,6,3+2f,b91+2a,3+2,1041+25,2,6"⟩,
  ⟨["glag", "glagolitic"],
    "484,3,2779+5f,1e4,782c,13991+6,2+10,3+6,2+1,2+4"⟩,
  ⟨["gong", "gunjalagondi"],
    "964+1,113fb+5,2+1,2+24,2+1,2+5,8+9"⟩,
  ⟨["gonm", "masaramgondi"],
    "964+1,1139b+6,2+1,2+2b,4,2+1,2+8,9+9"⟩,
  ⟨["gran", "grantha"],
    "951+1,12+1,281+d,10dd,2+1,1f+2,4+1,3f7,f210+3,2+7,3+1,3+15,2+6,2+1,2+4,2+9,3+1,3+2,3,7,6+6,
     3+6,4+4,c5c+1,2"⟩,
  ⟨["grek", "greek"],
    "342,3,2b+3,2+2,3+3,2,5,2,2+2,2,2+13,2+3e,f+f,1927+4,33+4,5+4,55+2,13f+15,3+5,3+25,3+5,3+7,2,2,
     2,2+1e,3+34,2+e,2+d,3+5,2+12,3+2,2+8,128,8a3f,55db+4e,12,d060+45"⟩,
  ⟨["gujr", "gujarati"],
    "951+1,12+1,11c+2,2+8,2+2,2+15,2+6,2+1,2+4,3+9,2+2,2+2,3,10+3,3+b,8+6,9d31+9"⟩,
  ⟨["guru", "gurmukhi"],
    "951+1,12+1,9c+2,2+5,5+1,3+15,2+6,2+1,2+1,2+1,3,2+4,5+1,3+2,4,8+3,2,8+10,9dba+9"⟩,
  ⟨["hang", "hangul"],
    "1100+ff,1e02+2,5+9,2+c,f+2,7,c4,36+5d,72+1e,42+1e,76e2+1c,284+2ba3,d+16,5+30,264a+1,11b+4,
     3b+1e,4+5,3+5,3+5,3+2"⟩,
  ⟨["hani", "han"],
    "2e80+19,2+58,d+d5,2c+2,2+c,2+c,2+c,3,7+8,bc,95+f,21+23,3d+27,39+30,10+b,34,59+18,b+4,61+1e,
     2+19bf,41+51ff,701+7,51f9+16d,3+69,36c+1,11b+4,707d+1,d+1,636f+11,1edf+1,daf+a6df,21+1039,
     7+dd,3+1681,f+1d30,c20+21d,5e3+134a,6+105f"⟩,
  ⟨["hano", "hanunoo"],
    "1720+16"⟩,
  ⟨["hira", "hiragana"],
    "3001+2,5+9,2+c,11+5,2,5+1,4+55,3+7,5b+1,cd49+1,11b+4,b,2e+1,b062+11e,13,1e+2,40ae"⟩,
  ⟨["java", "javanese"],
    "a980+4d,2+a,5+1"⟩,
  ⟨["kali", "kayahli"],
    "a900+2f"⟩,
  ⟨["kana", "katakana"],
    "3001+2,5+9,2+c,11+5,2,5+1,5c+3,4+5f,f1+f,d1+2e,2+57,caee+1,11b+3e,b051+3,2+6,2+1,2,120+2,33,
     f+3"⟩,
  ⟨["khoj", "khojki"],
    "ae6+9,9d41+9,69c7+11,2+2e"⟩,
  ⟨["knda", "kannada"],
    "951+1,12+1,31b+c,2+2,2+16,2+9,2+4,3+8,2+2,2+3,8+1,7+1,2+3,3+9,2+2,fdd,2,8,18,2,8b3c+5"⟩,
  ⟨["kthi", "kaithi"],
    "966+9,9ec1+9,6847+42,b"⟩,
  ⟨["latn", "latin"],
    "41+19,7+19,30,10,6+16,2+1e,2+1c0,28+4,7f+c,116+1,4cb+1,7a9,c05+25,7+30,6+3,6+c,2+45,42+ff,130,
     42,e,11+c,54,3a+1,7,1c,12+28,ad8+1f,7a81+7,1b+65,4+3f,6+1,2,2+4,19+d,12f,202+2a,2+8,2+3,
     4f97+6,41b+19,7+19,826+5,2+29,2+8,d746+1e,7+5"⟩,
  ⟨["limb", "limbu"],
    "965,f9b+1e,2+b,5+b,5,4+b"⟩,
  ⟨["lina", "lineara"],
    "10107+2c,4cd+136,a+15,b+7"⟩,
  ⟨["linb", "linearb"],
    "10000+b,2+19,2+12,2+1,2+e,3+d,23+7a,6+2,5+2c,4+8"⟩,
  ⟨["mahj", "mahajani"],
    "964+b,9ec1+9,6917+26"⟩,
  ⟨["mand", "mandaic"],
    "640,200+1b,3"⟩,
  ⟨["mani", "manichaean"],
    "640,10480+26,5+b"⟩,
  ⟨["mlym", "malayalam"],
    "951+1,12+1,39b+c,2+2,2+32,2+2,2+5,5+f,3+19,f5b,8b56+2"⟩,
  ⟨["modi"],
    "a830+9,6dc7+44,c+9"⟩,
  ⟨["mong", "mongolian"],
    "1800+19,7+58,8+2a,785,f631+c"⟩,
  ⟨["mult", "multani"],
    "a66+9,10811+6,2,2+3,2+e,2+a"⟩,
  ⟨["mymr", "myanmar"],
    "1000+9f,988f,b2+1e,62+1f"⟩,
  ⟨["nand", "nandinagari"],
    "964+1,381+9,ffa,9,8,8b36+5,716b+7,3+2d,3+a"⟩,
  ⟨["nkoo", "nko"],
    "60c,f,4,1a1+3a,3+2,f53f+1"⟩,
  ⟨["orya", "oriya"],
    "951+1,12+1,19c+2,2+7,3+1,3+15,2+6,2+1,2+4,3+8,3+1,3+2,8+2,5+1,2+4,3+11,1163,18"⟩,
  ⟨["ougr", "olduyghur"],
    "640,104b2,47e+19"⟩,
  ⟨["perm", "oldpermic"],
    "483,fecd+2a"⟩,
  ⟨["phag", "phagspa"],
    "1802+1,2,903b+37"⟩,
  ⟨["phlp", "psalterpahlavi"],
    "640,10540+11,8+3,d+6"⟩,
  ⟨["rohg", "hanifirohingya"],
    "60c,f,4,21,94,1062c+27,9+9"⟩,
  ⟨["shrd", "sharada"],
    "951,1386,2,3+1,3,f4a0+5f"⟩,
  ⟨["sind", "khudawadi"],
    "964+1,9ecb+9,6a77+3a,6+9"⟩,
  ⟨["sinh", "sinhala"],
    "964+1,41c+2,2+11,4+17,2+8,2,3+6,4,5+5,2,2+7,7+9,3+2,103ed+13"⟩,
  ⟨["sogd", "sogdian"],
    "640,108f0+29"⟩,
  ⟨["sylo", "sylotinagri"],
    "964+1,81+9,9e11+2c"⟩,
  ⟨["syrc", "syriac"],
    "60c,f+1,3,21,b+a,1b,90+d,2+3b,3+2,111+a,158e,2"⟩,
  ⟨["tagb", "tagbanwa"],
    "1735+1,2a+c,2+2,2+1"⟩,
  ⟨["takr", "takri"],
    "964+1,9ecb+9,6e47+39,7+9"⟩,
  ⟨["tale", "taile"],
    "1040+9,907+1d,3+4"⟩,
  ⟨["taml", "tamil"],
    "951+1,12+1,21d+1,2+5,4+2,2+3,4+1,2,2+1,4+1,4+2,4+b,5+4,4+2,2+3,3,7,f+14,10e0,8c19,6a0e,2,38+1,
     c84+31,e"⟩,
  ⟨["telu", "telugu"],
    "951+1,12+1,29b+c,2+2,2+16,2+f,3+8,2+2,2+3,8+1,2+2,3,3+3,3+9,8+8,105b,18"⟩,
  ⟨["tglg", "tagalog"],
    "1700+15,a,16+1"⟩,
  ⟨["thaa", "thaana"],
    "60c,f+1,3,41+9,117+31,f641,b"⟩,
  ⟨["tirh", "tirhuta"],
    "951+1,12+1,138d,8b3e+9,6c47+47,9+9"⟩,
  ⟨["yezi", "yezidi"],
    "60c,f,4,41+9,10817+29,2+2,3+1"⟩,
  ⟨["yiii", "yi"],
    "3001+1,6+9,3+7,e0,6f05+48c,4+36,5a9b+4"⟩,
  ⟨["zinh", "inherited", "qaai"],
    "300+41,2+1,2+1c,5f1+1,115c+1e,2f4+35,2,2+4,20d+1,c3+1f,dd11+f,11+d,3d0,cd03+2d,3+16,221+2,
     12+7,3+6,1f+3,c2f53+ef"⟩,
  ⟨["zyyy", "common"],
    "0+40,1b+5,1b+2e,2+e,2+4,18,20,1c2+26,6+4,3+13,75,a,7,2,27e,d8,205,55d,196+3,713+2,913+b,3+20,
     2+34,2+a,4+a,2+e,12+20,40+25,2+2,3+5,2+1a,2+10,2a+2,5+296,1a+a,16+39f,101+273,3+1f,2+68,
     201+42,2+19,193+b,5,4,e,e,16,212+17,20,32+e,d+3,a2+9,6+5f,20,19c1+3f,5909+19,67+2,3d1,f+1,
     52a5+9,17+14,3+b,2+12,2+3,94,2+1f,1b+5,1b+5,80+6,2+6,b+4,193+c,34+2c,cd54+73,3d+f5,b+26,3+3d,
     4+10,9+1,8+1d,5+3c,d6+13,d+13,d+56,1c+6,88+54,2+46,2+1,3,3+1,3+3,2+b,2,2+6,2+40,2+3,3+7,2+6,
     2+1b,2+3,2+4,2,4+6,2+153,3+123,3+31,1472+43,4d+3c,2c3+2b,5+63,d+e,3+e,2+e,2+24,b+ad,39+19,2+1,
     e+2b,5+8,18+5,9b+3d7,5+10,4+c,4+76,5+5e,7+b,5,10+b,5+37,9+9,7+27,9+1d,3+1,4f+153,d+d,3+c,4+8,
     8+2d,2+6,9+d,5+8,8+8,8+92,2+36,26+9,c0408,1f+5f"⟩]

end LayoutSync.Text
