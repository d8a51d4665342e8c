namespace LayoutSync.Text

def otherProperties : List String := ["age", "bc", "bidiclass", "bidimirroringglyph",
  "bidipairedbracket", "bidipairedbrackettype", "blk", "block", "bmg", "bpb", "bpt",
  "canonicalcombiningclass", "casefolding", "ccc", "ce", "cf", "changeswhennfkccasefolded",
  "cjkaccountingnumeric", "cjkcompatibilityvariant", "cjkiicore", "cjkirggsource", "cjkirghsource",
  "cjkirgjsource", "cjkirgkpsource", "cjkirgksource", "cjkirgmsource", "cjkirgssource",
  "cjkirgtsource", "cjkirguksource", "cjkirgusource", "cjkirgvsource", "cjkothernumeric",
  "cjkprimarynumeric", "cjkrsunicode", "compex", "compositionexclusion", "cwkcf",
  "decompositionmapping", "decompositiontype", "dm", "dt", "ea", "eastasianwidth",
  "equideo", "equivalentunifiedideograph", "expandsonnfc", "expandsonnfd", "expandsonnfkc",
  "expandsonnfkd", "fcnfkc", "fcnfkcclosure", "fullcompositionexclusion", "gc", "gcb",
  "generalcategory", "graphemeclusterbreak", "graphemelink", "grlink", "hangulsyllabletype", "hst",
  "hyphen", "idcompatmathcontinue", "idcompatmathstart", "idsu", "idsunaryoperator", "incb",
  "indicconjunctbreak", "indicpositionalcategory", "indicsyllabiccategory", "inpc", "insc", "isc",
  "isocomment", "jamoshortname", "jg", "joininggroup", "joiningtype", "jsn", "jt",
  "kaccountingnumeric", "kcompatibilityvariant", "kehcat", "kehdesc", "kehhg", "kehifao", "kehjsesh",
  "kehnomirror", "kehnorotate", "kiicore", "kirggsource", "kirghsource", "kirgjsource",
  "kirgkpsource", "kirgksource", "kirgmsource", "kirgssource", "kirgtsource", "kirguksource",
  "kirgusource", "kirgvsource", "kothernumeric", "kprimarynumeric", "krsunicode", "lb", "lc",
  "linebreak", "lowercasemapping", "mcm", "modifiercombiningmark", "na", "na1", "name", "namealias",
  "nfcqc", "nfcquickcheck", "nfdqc", "nfdquickcheck", "nfkccasefold", "nfkccf", "nfkcqc",
  "nfkcquickcheck", "nfkcscf", "nfkcsimplecasefold", "nfkdqc", "nfkdquickcheck", "nt",
  "numerictype", "numericvalue", "nv", "oalpha", "odi", "ogrext", "oidc", "oids", "olower", "omath",
  "otheralphabetic", "otherdefaultignorablecodepoint", "othergraphemeextend", "otheridcontinue",
  "otheridstart", "otherlowercase", "othermath", "otheruppercase", "oupper", "sb", "sc", "scf",
  "script", "scriptextensions", "scx", "sentencebreak", "sfc", "simplecasefolding",
  "simplelowercasemapping", "simpletitlecasemapping", "simpleuppercasemapping", "slc", "stc", "suc",
  "tc", "titlecasemapping", "uc", "unicode1name", "unicoderadicalstroke", "uppercasemapping",
  "verticalorientation", "vo", "wb", "wordbreak", "xonfc", "xonfd", "xonfkc", "xonfkd"]

def normalizedName (name : String) : String :=
  let cs := name.toList
  let isPrefixed := (cs.take 2).map Char.toLower = ['i', 's']
  let kept := (if isPrefixed then cs.drop 2 else cs).filter fun c =>
    c ≠ ' ' ∧ c ≠ '_' ∧ c ≠ '-' ∧ c.toNat < 0x80
  let short := kept.map Char.toLower
  if isPrefixed ∧ short = ['c'] then "isc" else String.ofList short

end LayoutSync.Text
