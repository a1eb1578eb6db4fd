import CompileOnLoad.Unicode.Table

/-!
# Scripts

The script of each character: one script, or that the character is common to several or
inherits the script of its neighbours.
-/

namespace CompileOnLoad
namespace Unicode

def scripts : List Table := [
  ⟨["adlm", "adlam"],
    ["Wew3i24A42"]⟩,
  ⟨["ahom"],
    ["Wub2R2F4N"]⟩,
  ⟨["hluw", "anatolianhieroglyphs"],
    ["WWn2dI"]⟩,
  ⟨["arab", "arabic"],
    ["Wm15161E131W11ABQ1i31Y1m2m1m7V126g21Tmoy1p3GhB2m22s171W1Gm351d4Zx3V_33Wut141R1211211",
     "A141111614111111312112111111111121124171414111A1H53151Hq12"]⟩,
  ⟨["armn", "armenian"],
    ["nf1c12o123Ziz15"]⟩,
  ⟨["avst", "avestan"],
    ["WuY2s137"]⟩,
  ⟨["bali", "balinese"],
    ["Wu6j23l1"]⟩,
  ⟨["bamu", "bamum"],
    ["Wrf1u2eem1vH"]⟩,
  ⟨["bass", "bassavah"],
    ["msw2U26"]⟩,
  ⟨["batk", "batak"],
    ["W_6q184"]⟩,
  ⟨["beng", "bengali"],
    ["Wi2418222M1711342922248142152P"]⟩,
  ⟨["bhks", "bhaiksuki"],
    ["WWd291j11EAT"]⟩,
  ⟨["bopo", "bopomofo"],
    ["gN2vmBh1m3W1"]⟩,
  ⟨["brah", "brahmi"],
    ["WWa2k24a191"]⟩,
  ⟨["brai", "braille"],
    ["WWAW8"]⟩,
  ⟨["bugi", "buginese"],
    ["Wm6S22"]⟩,
  ⟨["buhd", "buhid"],
    ["Ww5K"]⟩,
  ⟨["cans", "canadianaboriginal"],
    ["WW5WKmHc2wjW2G"]⟩,
  ⟨["cari", "carian"],
    ["WrW2n1"]⟩,
  ⟨["aghb", "caucasianalbanian"],
    ["mfX2q1B1"]⟩,
  ⟨["cakm", "chakma"],
    ["Wea2r11I"]⟩,
  ⟨["cham"],
    ["Wmg1t19E2A24"]⟩,
  ⟨["cher", "cherokee"],
    ["Wz4s226oxb1m2"]⟩,
  ⟨["chrs", "chorasmian"],
    ["mzZ2S"]⟩,
  ⟨["zyyy", "common"],
    ["0X2Q6Ql11F15N1V1XEd1552Kq31916111zJ161E131W11y41aG1X42vc11rC4Y91ll13d22h6211jc11D174",
     "161321bOC2t21B3B1FHX1.1c113261R1Hf134tKPBLWTW8qJ2W11f3WG_2oCC45111PF844x2231w22p4GW1",
     "a1y1W2Vn2l11u2e5Wk6W2WeMY1c33b5Aq71W51hC1E2okK2m6AMZ11J14p411W1Q6QBA1j12W2717A5Y834j",
     "139m2Dp1j1a7Rajk14ir4q3y1s7Ad12_13H827U4z1r6KCKCt29Pd4r21d2122122241C11171X21428171S",
     "141511371qA2a92o1nZ5a2i2z1YMi14a3CF2F1F1b1Ak5u1Q12Di14972E6w4uU4H3D3t34.26C41FC4u18A",
     "6e18U22k2qACE2D397k1178E49797p41t1b1AdWXO1UW3"]⟩,
  ⟨["copt", "qaac", "coptic"],
    ["YVEmaAq357"]⟩,
  ⟨["xsux", "cuneiform"],
    ["WWe2wSc3l315Ba6"]⟩,
  ⟨["cprt", "cypriot"],
    ["WWY26211i1123121"]⟩,
  ⟨["cpmn", "cyprominoan"],
    ["myh2Z3"]⟩,
  ⟨["cyrl", "cyrillic"],
    ["WW1b42f5mw59Y51i21dZ4W1WYUW3kyL2Wmu1_1X11"]⟩,
  ⟨["dsrt", "deseret"],
    ["WWX2m2"]⟩,
  ⟨["deva", "devanagari"],
    ["We2n24F2QWxd1W1WmSA"]⟩,
  ⟨["diak", "divesakuru"],
    ["Wec272128121U122C9A"]⟩,
  ⟨["dogr", "dogra"],
    ["WWc2y1"]⟩,
  ⟨["dupl", "duployan"],
    ["WWl3h35D397A24"]⟩,
  ⟨["egyp", "egyptianhieroglyphs"],
    ["WWi2sY1"]⟩,
  ⟨["elba", "elbasan"],
    ["WeX2e1"]⟩,
  ⟨["elym", "elymaic"],
    ["W.Z2N"]⟩,
  ⟨["ethi", "ethiopic"],
    ["Wm4f2142711142f1142X1142711142F1v1142Z22W13Qcl6N9717171717171717YfV626269717nbl27141",
     "21F"]⟩,
  ⟨["geor", "georgian"],
    ["Wb4c111512h114my2h123WY4c11151"]⟩,
  ⟨["glag", "glagolitic"],
    ["WWBW3Wzi371H271215"]⟩,
  ⟨["goth", "gothic"],
    ["mvW2R"]⟩,
  ⟨["gran", "grantha"],
    ["Wua2418222M1712152922232161572735"]⟩,
  ⟨["grek", "greek"],
    ["mR4132411411113111K1.1EGcf65o1545q21WAM262c126281111111V2r11F1E261J2319d91_nY11wkLl2",
     "H1.Yq1c2"]⟩,
  ⟨["gujr", "gujarati"],
    ["Xq2319131M1712152A131321F42C77"]⟩,
  ⟨["gong", "gunjalagondi"],
    ["Whd26121b112167A"]⟩,
  ⟨["guru", "gurmukhi"],
    ["Xm2316422M17121212211542233174117H"]⟩,
  ⟨["han", "hani"],
    ["WqBQ1v2Cs6l1111P9E4aUWk6W2WmKWeMkB2g3eeT2C2kWa1Wtf1W1wX46_62Yq5Enf7.W3_GYl1hw45WZ4"]⟩,
  ⟨["hang", "hangul"],
    ["We4W8kn72X8_2n3VX2VXtTTZKazACN4n1az9V36262623"]⟩,
  ⟨["rohg", "hanifirohingya"],
    ["WeZ2e18A"]⟩,
  ⟨["hano", "hanunoo"],
    ["Wv5L"]⟩,
  ⟨["hatr", "hatran"],
    ["WdY2J1255"]⟩,
  ⟨["hebr", "hebrew"],
    ["ni1t18R46efz1Q151112121A"]⟩,
  ⟨["hira", "hiragana"],
    ["XYCs263Xx.2.8I1T3jbG1"]⟩,
  ⟨["armi", "imperialaramaic"],
    ["WYY2M19"]⟩,
  ⟨["qaai", "zinh", "inherited"],
    ["WOm3r82aEBQ1WN4xg4VXG31D17416132c6W2iG2Y6X1vv34h32bhp1GGElU1Y71wY41a_k1k12NWH3H827U4",
     "owhOm7"]⟩,
  ⟨["phli", "inscriptionalpahlavi"],
    ["WxY2J58"]⟩,
  ⟨["prti", "inscriptionalparthian"],
    ["WwY2M28"]⟩,
  ⟨["java", "javanese"],
    ["Wig1k22A42"]⟩,
  ⟨["kthi", "kaithi"],
    ["Waa2Z2A1"]⟩,
  ⟨["knda", "kannada"],
    ["Wa3D131N1A152913147262142A13"]⟩,
  ⟨["kana", "katakana"],
    ["XbCw223m7Gm6l11u2kWp1A1j1oYi14171211.83o11E4"]⟩,
  ⟨["kawi"],
    ["Wud2H1f13S"]⟩,
  ⟨["kali", "kayahli"],
    ["Weg1k111"]⟩,
  ⟨["khar", "kharoshthi"],
    ["WmY241258131T234A79"]⟩,
  ⟨["kits", "khitansmallscript"],
    ["a.x21xu6sE"]⟩,
  ⟨["khmr", "khmer"],
    ["Wy5_22A6AcFW1"]⟩,
  ⟨["khoj", "khojki"],
    ["Wma2I1l1"]⟩,
  ⟨["sind", "khudawadi"],
    ["mra2x15A"]⟩,
  ⟨["lao", "laoo"],
    ["Xq3211151O111N2511171A24"]⟩,
  ⟨["latn", "latin"],
    ["X2Q6Ql11F15N1V1XEd15xm6c16n1545D1c2X2W8nB1D1GDj4261R1Hf1ts2W1YrUc33W2521115OEmPh1191",
     "4syJ7wW1Q6QbX261g119bwr1V66"]⟩,
  ⟨["lepc", "lepcha"],
    ["WW7u13F33"]⟩,
  ⟨["limb", "limbu"],
    ["We6V1C4C413C"]⟩,
  ⟨["lina", "lineara"],
    ["WmX2t99MA8"]⟩,
  ⟨["linb", "linearb"],
    ["WWW2C1Q1J121F2EY1x3"]⟩,
  ⟨["lisu"],
    ["mcf1m1mrU1"]⟩,
  ⟨["lyci", "lycian"],
    ["WqW2T"]⟩,
  ⟨["lydi", "lydian"],
    ["WfY2Q51"]⟩,
  ⟨["mahj", "mahajani"],
    ["mga2d1"]⟩,
  ⟨["maka", "makasar"],
    ["Wtd2P"]⟩,
  ⟨["mlym", "malayalam"],
    ["We3D131p113164G2Q"]⟩,
  ⟨["mand", "mandaic"],
    ["WY2S21"]⟩,
  ⟨["mani", "manichaean"],
    ["WsY2d14C"]⟩,
  ⟨["marc", "marchen"],
    ["mZd2W12M1E"]⟩,
  ⟨["gonm", "masaramgondi"],
    ["Wed27121i13112198A"]⟩,
  ⟨["medf", "medefaidrin"],
    ["Wox2x2"]⟩,
  ⟨["mtei", "meeteimayek"],
    ["Wtg1Nf6k12A"]⟩,
  ⟨["mend", "mendekikakui"],
    ["WWw3b62G"]⟩,
  ⟨["merc", "meroiticcursive"],
    ["WjY2O4K2k1"]⟩,
  ⟨["mero", "meroitichieroglyphs"],
    ["WiY2W1"]⟩,
  ⟨["miao", "plrd"],
    ["Wux2h24v17H"]⟩,
  ⟨["modi"],
    ["Wmb2b2BA"]⟩,
  ⟨["mong", "mongolian"],
    ["WW62211K6v27h1rj.1D"]⟩,
  ⟨["mro", "mroo"],
    ["Wow2V1A42"]⟩,
  ⟨["mult", "multani"],
    ["Wqa2711141F1B"]⟩,
  ⟨["mymr", "myanmar"],
    ["WW4W5Wgc1VX3W1"]⟩,
  ⟨["nbat", "nabataean"],
    ["WaY2V89"]⟩,
  ⟨["nagm", "nagmundari"],
    ["mcv3g1"]⟩,
  ⟨["nand", "nandinagari"],
    ["Wjc282k12B"]⟩,
  ⟨["talu", "newtailue"],
    ["Wi6i14Q6B32"]⟩,
  ⟨["newa"],
    ["WWb2y215"]⟩,
  ⟨["nko", "nkoo"],
    ["W_1x123"]⟩,
  ⟨["nshu", "nushu"],
    ["X.x21kiGiC"]⟩,
  ⟨["hmnp", "nyiakengpuachuehmong"],
    ["Weu3j13E2A42"]⟩,
  ⟨["ogam", "ogham"],
    ["Wq5T"]⟩,
  ⟨["olck", "olchiki"],
    ["mY7m1"]⟩,
  ⟨["hung", "oldhungarian"],
    ["WaZ2p1Dp176"]⟩,
  ⟨["ital", "olditalic"],
    ["WuW2a193"]⟩,
  ⟨["narb", "oldnortharabian"],
    ["WqY2W1"]⟩,
  ⟨["perm", "oldpermic"],
    ["mwW2h1"]⟩,
  ⟨["xpeo", "oldpersian"],
    ["WzW2a14E"]⟩,
  ⟨["sogo", "oldsogdian"],
    ["WuZ2e1"]⟩,
  ⟨["sarb", "oldsoutharabian"],
    ["WpY2W1"]⟩,
  ⟨["orkh", "oldturkic"],
    ["WWZ2f2"]⟩,
  ⟨["ougr", "olduyghur"],
    ["mxZ2Q"]⟩,
  ⟨["orya", "oriya"],
    ["Xu2318222M1712152922237342152I"]⟩,
  ⟨["osge", "osage"],
    ["mbX2a14a1"]⟩,
  ⟨["osma", "osmanya"],
    ["WaX2U2A"]⟩,
  ⟨["hmng", "pahawhhmong"],
    ["Wuw2c2AA171L5J"]⟩,
  ⟨["palm", "palmyrene"],
    ["WZY2W1"]⟩,
  ⟨["pauc", "paucinhau"],
    ["Wsc2v1"]⟩,
  ⟨["phag", "phagspa"],
    ["WYg1u1"]⟩,
  ⟨["phnx", "phoenician"],
    ["WeY2S31"]⟩,
  ⟨["phlp", "psalterpahlavi"],
    ["WyY2I74C7"]⟩,
  ⟨["rjng", "rejang"],
    ["mfg1a1B1"]⟩,
  ⟨["runr", "runic"],
    ["Wr5h23B"]⟩,
  ⟨["samr", "samaritan"],
    ["WW2k12F"]⟩,
  ⟨["saur", "saurashtra"],
    ["Wag1c28C"]⟩,
  ⟨["shrd", "sharada"],
    ["Wia2W3"]⟩,
  ⟨["shaw", "shavian"],
    ["mYX2m1"]⟩,
  ⟨["sidd", "siddham"],
    ["Wib2s12c1"]⟩,
  ⟨["sgnw", "signwriting"],
    ["WWs3iKF51F"]⟩,
  ⟨["sinh", "sinhala"],
    ["Xi331I3O191127314611186A23i.W2K"]⟩,
  ⟨["sogd", "sogdian"],
    ["mvZ2g1"]⟩,
  ⟨["sora", "sorasompeng"],
    ["mca2P7A"]⟩,
  ⟨["soyo", "soyombo"],
    ["moc2p2"]⟩,
  ⟨["sund", "sundanese"],
    ["Wy6W2W88"]⟩,
  ⟨["sylo", "sylotinagri"],
    ["WWg1j1"]⟩,
  ⟨["syrc", "syriac"],
    ["Wu1E1y123m8B"]⟩,
  ⟨["tglg", "tagalog"],
    ["Wu5M91"]⟩,
  ⟨["tagb", "tagbanwa"],
    ["Wx5D1312"]⟩,
  ⟨["tale", "taile"],
    ["mg6U25"]⟩,
  ⟨["lana", "taitham"],
    ["Wn6.11T2B6A6E"]⟩,
  ⟨["tavt", "taiviet"],
    ["Wqg1Z2O5"]⟩,
  ⟨["takr", "takri"],
    ["Wqb2w16A"]⟩,
  ⟨["taml", "tamil"],
    ["Yy2216331432111232333C4533142161ELb_a2o1D1"]⟩,
  ⟨["tnsa", "tangsa"],
    ["mpw2l21A"]⟩,
  ⟨["tang", "tangut"],
    ["W.x21Vu.58WOWG9"]⟩,
  ⟨["telu", "telugu"],
    ["WW3D131N1G291314721321242A79"]⟩,
  ⟨["thaa", "thaana"],
    ["Wy1o1"]⟩,
  ⟨["thai"],
    ["Xm3w15S"]⟩,
  ⟨["tibt", "tibetan"],
    ["Wu3e21a14d11a11F1742"]⟩,
  ⟨["tfng", "tifinagh"],
    ["mfBu172E1"]⟩,
  ⟨["tirh", "tirhuta"],
    ["Wab2e28A"]⟩,
  ⟨["toto"],
    ["mqu3V"]⟩,
  ⟨["ugar", "ugaritic"],
    ["WyW2U11"]⟩,
  ⟨["vai", "vaii"],
    ["Wef1i9"]⟩,
  ⟨["vith", "vithkuqi"],
    ["mhX2B1F17121B1F1712"]⟩,
  ⟨["wcho", "wancho"],
    ["Wsu3w151"]⟩,
  ⟨["wara", "warangciti"],
    ["Wbc2p2C1"]⟩,
  ⟨["yezi", "yezidi"],
    ["WqZ2g11322"]⟩,
  ⟨["yi", "yiii"],
    ["WWe1ja13t1"]⟩,
  ⟨["zanb", "zanabazarsquare"],
    ["Wmc2e2"]⟩]

end Unicode
end CompileOnLoad
