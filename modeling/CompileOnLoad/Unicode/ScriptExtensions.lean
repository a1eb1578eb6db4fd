import CompileOnLoad.Unicode.Table

/-!
# Script extensions

Some characters are used with several scripts.  For each script the table holds the
characters that are used with it and are not of it, and those of it that count as used with
others instead.
-/

namespace CompileOnLoad
namespace Unicode

/-- Where the characters used with a script differ from those of the script. -/
def scriptExtensionChanges : List Table := [
  ⟨["adlm", "adlam"],
    [".m11W11"]⟩,
  ⟨["arab", "arabic"],
    ["im11E131W11ABQ1jsz12Wj1S"]⟩,
  ⟨["beng", "bengali"],
    ["ng22H2gx411122118181214123v.Y11"]⟩,
  ⟨["bopo", "bopomofo"],
    ["XWC34A1DA42161Z61fgp12w85"]⟩,
  ⟨["bugi", "buginese"],
    ["lkg11"]⟩,
  ⟨["buhd", "buhid"],
    ["rv52"]⟩,
  ⟨["cakm", "chakma"],
    ["cl2Amo1A"]⟩,
  ⟨["zyyy", "common"],
    ["im11E131W11ZP2ry11vn12h6211jc11D174161321qP1pm31zD3211A1DG61144x2231w22p4GW1a1y1e1u1",
     "n1FCp11u2PA5W3VXuS8e9Aq71W51kxK2b82w85A1j12WB34j139XDRajk14yr5I_s72"]⟩,
  ⟨["copt", "qaac", "coptic"],
    ["WtW2S"]⟩,
  ⟨["cprt", "cypriot"],
    ["WeW234j139"]⟩,
  ⟨["cpmn", "cyprominoan"],
    ["WeW22"]⟩,
  ⟨["cyrl", "cyrillic"],
    ["ba12nh61gY41"]⟩,
  ⟨["deva", "devanagari"],
    ["ng22H2gx4d112sV1.vX1A"]⟩,
  ⟨["dogr", "dogra"],
    ["ah2CWsd1A"]⟩,
  ⟨["dupl", "duployan"],
    ["Wbl34"]⟩,
  ⟨["geor", "georgian"],
    ["xd41"]⟩,
  ⟨["glag", "glagolitic"],
    ["aa1121xjA1hXU1"]⟩,
  ⟨["gran", "grantha"],
    ["ng22H2WKEyc4112U332sV1goy11qa3211"]⟩,
  ⟨["grek", "greek"],
    ["YQ121wp62"]⟩,
  ⟨["gujr", "gujarati"],
    ["ng22H2gsd1A"]⟩,
  ⟨["gong", "gunjalagondi"],
    ["ah22"]⟩,
  ⟨["guru", "gurmukhi"],
    ["ng22H2gsd1A"]⟩,
  ⟨["han", "hani"],
    ["XWC3211A1DA4216144x51q4GW1a1y1e1u1n1FCp11u2PA5W3VXuS8zvL2w85w.q1I_s72"]⟩,
  ⟨["hang", "hangul"],
    ["XWC34A1DG161Z61fgp12w85"]⟩,
  ⟨["rohg", "hanifirohingya"],
    ["im11E131W11p41"]⟩,
  ⟨["hano", "hanunoo"],
    ["rv52"]⟩,
  ⟨["hira", "hiragana"],
    ["XWC34A1DG61142x2431w22egp12w85A1j12"]⟩,
  ⟨["qaai", "zinh", "inherited"],
    ["YQ121TDr82aEBQ1WN2zx431D17416132c62s1111rN1vv34h32boq11wY41"]⟩,
  ⟨["java", "javanese"],
    ["lkg11"]⟩,
  ⟨["kthi", "kaithi"],
    ["ch2AWsd1A"]⟩,
  ⟨["knda", "kannada"],
    ["ng22H2gx411171N111xvY16"]⟩,
  ⟨["kana", "katakana"],
    ["XWC34A1DG61142x2431w22egp12w85A1j12"]⟩,
  ⟨["kali", "kayahli"],
    ["kfg11"]⟩,
  ⟨["khoj", "khojki"],
    ["ct2AWgd1A"]⟩,
  ⟨["sind", "khudawadi"],
    ["ah22gsd1A"]⟩,
  ⟨["latn", "latin"],
    ["ZRDr82gc12ez11pv31W61lmX18cH1"]⟩,
  ⟨["limb", "limbu"],
    ["bh21"]⟩,
  ⟨["lina", "lineara"],
    ["deW2j1"]⟩,
  ⟨["linb", "linearb"],
    ["WeW234j139"]⟩,
  ⟨["mahj", "mahajani"],
    ["ah2CWsd1A"]⟩,
  ⟨["mlym", "malayalam"],
    ["ng22H2qx41rwY13"]⟩,
  ⟨["mand", "mandaic"],
    ["Wo11"]⟩,
  ⟨["mani", "manichaean"],
    ["Wo11"]⟩,
  ⟨["gonm", "masaramgondi"],
    ["ah22"]⟩,
  ⟨["modi"],
    ["mXg1A"]⟩,
  ⟨["mong", "mongolian"],
    ["YW6211fX21"]⟩,
  ⟨["mult", "multani"],
    ["cp2A"]⟩,
  ⟨["mymr", "myanmar"],
    ["kfg11"]⟩,
  ⟨["nand", "nandinagari"],
    ["ah22WSAv.318171rvY16"]⟩,
  ⟨["nko", "nkoo"],
    ["im11E131_uz12"]⟩,
  ⟨["perm", "oldpermic"],
    ["Za11"]⟩,
  ⟨["ougr", "olduyghur"],
    ["Wo11nbX21"]⟩,
  ⟨["orya", "oriya"],
    ["ng22H2qx41N1"]⟩,
  ⟨["phag", "phagspa"],
    ["YW6211"]⟩,
  ⟨["phlp", "psalterpahlavi"],
    ["Wo11"]⟩,
  ⟨["shrd", "sharada"],
    ["ng21by41112221"]⟩,
  ⟨["sinh", "sinhala"],
    ["ah22"]⟩,
  ⟨["sogd", "sogdian"],
    ["Wo11"]⟩,
  ⟨["sylo", "sylotinagri"],
    ["ah22W4A"]⟩,
  ⟨["syrc", "syriac"],
    ["im11E221W11ABQ1dy5111"]⟩,
  ⟨["tglg", "tagalog"],
    ["rv52"]⟩,
  ⟨["tagb", "tagbanwa"],
    ["rv52"]⟩,
  ⟨["tale", "taile"],
    ["WY4A"]⟩,
  ⟨["takr", "takri"],
    ["ah22gsd1A"]⟩,
  ⟨["taml", "tamil"],
    ["ng22H2qx41uWZ11jmQ111t12"]⟩,
  ⟨["telu", "telugu"],
    ["ng22H2qx41N1"]⟩,
  ⟨["thaa", "thaana"],
    ["im11E221W2Aeyz11A1"]⟩,
  ⟨["tirh", "tirhuta"],
    ["ng22H2iy41zvY1A"]⟩,
  ⟨["yezi", "yezidi"],
    ["im11E131W2A"]⟩,
  ⟨["yi", "yiii"],
    ["XWC25A28.61bpp15"]⟩]

end Unicode
end CompileOnLoad
