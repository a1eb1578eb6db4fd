import CompileOnLoad.Unicode.Table

/-!
# Binary properties

The properties that a character has or has not.
-/

namespace CompileOnLoad
namespace Unicode

def binaryProperties : List Table := [
  ⟨["ahex", "asciihexdigit"],
    ["m1A76Q6"]⟩,
  ⟨["alpha", "alphabetic"],
    ["X2Q6Ql11A1415N1V1gE4CE57111s21g151224116113111K1p21h48c51c1216f1d1E111212118R44TB5u1",
     "17Ec3184843A321Gm1Db3OX192415O2JJP7B5O16Hg1AC376i21G134FDJ18222M17113438222211814215",
     "C2A14316422M17121212454222417411H6B319131M17121539131231F4L44318222M1712153822229242",
     "15D1G216331432111232333C4533133161e1D131N1G38131382132124S418131N1A15381313826214D3C",
     "D131f1281313115475M6131I3O191127861118I2Dw15761p1211151O111J13251161E4W11.181a14J4G1",
     "a1Z2t11125GW2A42c111512h11jA142711142f1142X1142711142F1v1142Z2b1GGs2263iJ2H1Q5h23B7K",
     "BLCKCD1312Cq12JE141Z2v27h15c2AV1C49NU25Bi14Qs1S4.12Ko11N2B3n1q11F18p1g124Ai11BEt1M3A",
     "a1297h123f141612315W6d1EBs8262c126281111111V2r11711331734264D5317q31D1GDb31412A11356",
     "11111141B245541Hf1jPq1su1b76432Cc111512u171GN97171717171717171W1l11rE3P975254s2631w2",
     "145h11_2HW1m1GWGWk6W2jqLZ2k12j83GA2Kl1583n3d192d32W2521115OK1X1Oq1Ca211i163113AX15Z1",
     "DT3p11CF1GGA51t19EIN3b21111O32G24B6262697171h11E6x3LazACN4n1ae8kB2g3c17C55C1D1511121",
     "21i3X1hBIW22s1e1Cq351d4a1Q6QBv236262623Z1C1Q1J121F2EY1x3b2r1h8T3n1l1W1DU5h15U2a14815",
     "g1_4Ia14a14e18q1CB1F17121B1F1712Z2t99MA8O61g119b26211i112312NAN9VX2J12AMAQc2u162W241",
     "258131Tg1T3TZ181SRs1AMAJDIk3f2t1p1Dp1De1uAg11232k2TA18Mg1Ik1LRN9c2h15Av191DPNp1H48Z1",
     "319W21492A111Z1I1Y12164_1711141F1A7v1N418222M171215382222316157y4Y21314K3UY22211u5s1",
     "27P6Y1.11131x1s121d2R2EL7v5v1d3W2V82128121U122224z282k1261112Rp12AHe251If2d891j11711",
     "n1U2M1Ef27121i13112131122O6121b1121411dAN9H1f133l31l2wSc3l3Ha6io2X3FmX1H6vz3dIvj8vH7",
     "VHl2HUIm1G4VL5JmLW2W4h24v17HW2211C2Eu.58sc1g19dt8417121Z9F1T321E48iCae2h35D397A41Xx5",
     "r21d2122122241C11171X21428171S141511371qA2P1P1V1P1V1P1V1P1V1P18qv1V66r671H2712155_1X",
     "11m3j1A7G1XAUIi1aFSqN714121F1b6x1a23131qb141R1211211A1411116141111113121121111111111",
     "21124171414111A1H53151HqJQ6Q6Qsp3Wtf1W1wX46_62Yq5Enf7.W3_GYl1hw45WZ4"]⟩,
  ⟨["bidic", "bidicontrol"],
    ["ym11nl62Q5t14"]⟩,
  ⟨["bidim", "bidimirrored"],
    ["e12I111S111T111j11F1_p34zw12yi22A2s12E2n51W643631323414111149511I549211182V2451922J5",
     "295224O2G84K272zX1Eg2124121354533EpCM261E817631451225411322A622CJ14211121145263O2B24",
     "412224h1281e151113553413511W81ZG43212E22Ah18hDA28znp1652Y52I111S111T1111212txr11v11v",
     "11v11v11"]⟩,
  ⟨["ci", "caseignorable"],
    ["d1161B1Z1111d2141114122tFW642419211x77l6151n1j111121211i11B6AB11Z11ALG1b381A14X1111U",
     "Rx2Bw1B4121OOh13i117268f1w1t1111484137A2D1F1w114481K2Q122v1142422331U231B2v11451241K",
     "2M611w1121148172B2U1z11C1o1131t1113531472B2T1w11216152K2S2v124481K2T1e217311w2127B9Y",
     "31299117f22R11111t1E15125B1a191c34161222P243G4D12261F1_21WJ3oT3T2U2U2W2217812B3151j1",
     "5p11X22Y11s33429163x6221w11171111286A21d118Vn14m11151151e19C2W142213u11123113w1822W2",
     "6o231D17416132o1.1D1Y1b3zD113B3D3D3D2C582A12125n151A11D1GDp1X1hy22n33z31F1W3W1l11rE1",
     "a143551z26z23suR1Yd16k81Y341A11S4m22EY1k21N3d3332813141P251t42QID1c18PBk13m112422H1L",
     "2Y262222C181Z11B1p1113225211R1E25211a3593v312141mvJ1p4HzHG31CGY1121f517161B1Z1111l11",
     "j12Z21L3XG1Y71r45bW161g119cI31254e1341b52zH4ZC2m23c2Bn14x31s1Ff1122A3n14222141A1o13a",
     "1518_11C2q19A421.2321126121z4138L2v1231b1735Z682311N1q26114212k746212R2r282112g31112",
     "611b332415Z8912W821141m442241W1Ae1624819623k1D12sC71611o2M271212w3631121711e223111xA",
     "2B2q155111jd5H6FwqD5x1794hW11.1HW2212hWG41712_a3214yo4k12NWH39G27U4q43xz1t14o181E1M5",
     "1Fmg171H2712155_1X11W5EmB1z14xF5WV7j38lr25XWZO1UW3W4m7"]⟩,
  ⟨["cased"],
    ["X2Q6Ql11A1415N1V1Z6144m61a172U5W31g142224116113111K1p21h48c51c19f1tu2c111512h114WLs2",
     "26Ya297h123W2W6W2s8262c126281111111V2r11711331734264D5317q31D1GDb31412A1135611111141",
     "641245541HW132nPq1su1b76432Cc11151oeUk1IUa4c3341x1521115O513rPh11E6m2WwJ7C5fW1Q6Qbb1",
     "m2W3a14a1q3B1F17121B1F1712ZE1231g119bc1p1Dp1jz2W2WhLW2WiPr21d2122122241C11171X214281",
     "71S141511371qA2P1P1V1P1V1P1V1P1V1P18qv1A1K66b8_1oa2a2i.1Q6Q6Q"]⟩,
  ⟨["cwcf", "changeswhencasefolded"],
    ["X2Qw21AN18W1111111111111111111111111111111111111111111111111111111121111111111111111",
     "211111111111111111111111111111111111111111111121111111211121324121332121111121121121",
     "311123172121211111111111111112111111111111111112211131111111111111111111111111111111",
     "1111111111111111111111111117212211411111111s71g11113181611311121H19M1C33211111111111",
     "1111111111111122211122p1m11111111111111111111111111111111119111111111111111111111111",
     "111111111111111111111111111111211111111111121111111111111111111111111111111111111111",
     "11111111111111111111111111111111111111111111111111111112c1m11uu2c11151gP6Ya297h123WA",
     "111111111111111111111111111111111111111111111111111111111111111111111111111111111111",
     "111111111111111111111111111111111111111111111111111111111111111115221111111111111111",
     "111111111111111111111111111111111111111111111111111111111111111111111111111111111988",
     "6A88886B111111188Gm123265326B4C55326f913261j1GJ1oPQmv1m1m111321111114112183111111111",
     "111111111111111111111111111111111111111111111111111111111111111111111111111111111111",
     "11111811141jgU111111111111111111111111111111111111111111111J111111111111111111111111",
     "111d4111111111111131111111111111111111111111111111111111111111111111111111111111A111",
     "121111111141112111311111111111111111111515111111111111111411615111S1wRm2WwJ7C5fW1Qbc",
     "1e1e4a1y4B1F1712gt1p1j.2W1WiLW1WrUY1"]⟩,
  ⟨["cwcm", "changeswhencasemapped"],
    ["X2Q6Qw11AN1V1W21q21D1E2E22114z21I6R121112321112152112217121123651A2c51g1422331161131",
     "11K1l13X1151b48c51c1Ad1uu2c111512h123WLs226Ya297h123v5131G1n3y4211s3262c126281111111",
     "V2r11711331734264D5317f913261R1HW132nPq1su1n312127c37432Cc11151oeUk1ISc4E2_19F33251P",
     "1R5244R2yQ1Sm2WwJ7C5fW1Q6Qbb1m2W3a14a1q3B1F17121B1F1712Zs1p1Dp1jz2W2WhLW2WqUa2"]⟩,
  ⟨["cwl", "changeswhenlowercased"],
    ["X2Qb3N17X111111111111111111111111111111111111111111111111111111112111111111111111211",
     "111111111111111111111111111111111111111111112111132111213241213321211111211211213111",
     "231721212111111111111111121111111111111111122111311111111111111111111111111111111111",
     "111111111111111111111117212211411111111X91113181611311121H19Z11811111111111111111111",
     "1115121122p1m11111111111111111111111111111111119111111111111111111111111111111111111",
     "111111111111111111211111111111121111111111111111111111111111111111111111111111111111",
     "11111111111111111111111111111111111111111112c1fw2c11151oMs2wa2h123WA1111111111111111",
     "111111111111111111111111111111111111111111111111111111111111111111111111111111111111",
     "111111111111111111111111111111111111111111111111191111111111111111111111111111111111",
     "1111111111111111111111111111111111111111111111111111111111111119886A88886B111111188O",
     "8888885B5B4C5B5f913261j1GJ1oPQmv1m1m111321111114112183111111111111111111111111111111",
     "11111111111111111111111111111111111111111111111111111111111111111111811141jgU1111111",
     "11111111111111111111111111111111111111J111111111111111111111111111d41111111111111311",
     "11111111111111111111111111111111111111111111111111111111111A111121111111141112111311",
     "111111111111111111515111111111111111411615111S1hvLQbc1e1e4a1y4B1F1712gt1p1j.2W1WiLW1",
     "WrUY1"]⟩,
  ⟨["cwt", "changeswhentitlecased"],
    ["X3Qw11f1O181111111111111111111111111111111111111111111111111111111121111111111111121",
     "111111111111111111111111111111111111111111111211113211121315121323121111121412131112",
     "131114112121111111111111111121111111111111111131111311111111111111111111111111111111",
     "11111113111111111111111118122114111111116121112321112152112217121123651A2c51h1111313",
     "3I1RZ11233111111111111111111111115112121q1m11111111111111111111111111111111111911111",
     "111111111111111111111111111111111111111111111111211111111111121111111111111111111111",
     "11111111111111111111111111111111111111111111111111111111111111111111111111n1d1mp36Ya",
     "29m7131G1o31111111111111111111111111111111111111111111111111111111111111111111111111",
     "111111111111111111111111111111111111111111111111111111111111111111111111111751111111",
     "111111111111111111111111111111111111111111111111111111111111111111111111111111111111",
     "111986A88886A8888E2888888512613312842288A312sA1X1G41hQQcw1m111321111116121A111111111",
     "111111111111111111111111111111111111111111111111111111111111111111111111111111111111",
     "111111811141Cc11151peU111111111111111111111111111111111111111111111J1111111111111111",
     "11111111111d411111111111113111111111111111111111111111111111111111111111111111111111",
     "1111A111211111111141411221111111111111111111B1111111111111114111615111S1yQ1Sm2WwJ7C5",
     "fX1Qjc1e1e4a1x4B1F1712Zu1p1j_2W1WiLW1YrUY1"]⟩,
  ⟨["cwu", "changeswhenuppercased"],
    ["X3Qw11f1O181111111111111111111111111111111111111111111111111111111121111111111111121",
     "111111111111111111111111111111111111111111111211113211121315121323121111121412131112",
     "131115212121111111111111112111111111111111112121131111111111111111111111111111111111",
     "111113111111111111111118122114111111116121112321112152112217121123651A2c51h11113133I",
     "1RZ11233111111111111111111111115112121q1m1111111111111111111111111111111111191111111",
     "111111111111111111111111111111111111111111111121111111111112111111111111111111111111",
     "111111111111111111111111111111111111111111111111111111111111111111111111n1d1ew2h123u",
     "N6Ya29m7131G1o3111111111111111111111111111111111111111111111111111111111111111111111",
     "111111111111111111111111111111111111111111111111111111111111111111111111111111175111",
     "111111111111111111111111111111111111111111111111111111111111111111111111111111111111",
     "1111111986A88886A8888E2r1124111331241342288A31241nA1X1G41hQQcw1m111321111116121A1111",
     "111111111111111111111111111111111111111111111111111111111111111111111111111111111111",
     "11111111111811141Cc11151peU111111111111111111111111111111111111111111111J11111111111",
     "1111111111111111d4111111111111131111111111111111111111111111111111111111111111111111",
     "111111111A111211111111141411221111111111111111111B1111111111111114111615111S1yQ1Sm2W",
     "wJ7C5fX1Qjc1e1e4a1x4B1F1712Zu1p1j_2W1WiLW1YrUY1"]⟩,
  ⟨["dash"],
    ["j11yg11p11Xo31bW11fW26z11d11F1cC1aW3121V241S1_D1J1l31mip12b11A1f51.y31"]⟩,
  ⟨["di", "defaultignorablecodepoint"],
    ["j51XL1iM1Yw22po12r25x.15Q5n1Gqd41xap1Gl71W51l29dbl14lc58bqhOWW4"]⟩,
  ⟨["dep", "deprecated"],
    ["fA1ff11Ze2111fX22bc26vL2sctR1"]⟩,
  ⟨["dia", "diacritic"],
    ["_2111d21614122tF.41856H24192z75n61t1H1R111211c4842c424233Z2Rx2Bw1BY12_38f1AGSz11G134",
     "S1g21G1k31G1k31G1l13y11G171t31k31G1k31G1j32G1y31y3611h31D5h22R1111142Y2312_11m3112e1",
     "245P711A2XM3qT2p5B91xA3v9821m1F2Be31F1c19s12g42W26o2P416123o1.1v2Cb1BzD113B3D3D3D2md",
     "33z91wF6f34.21ohT1C211S2o22EY1c33j32g61RIv14a11.21C1a11r43X24p11a3593W42mvJ1XOGk8111",
     "l11j12Z21yN1.a161g119gP2xH6rE3c2Bn14W61f11e22u32_11i2193e32o52n21G1O735j6131x32x72_3",
     "1s32p31j82Y8241y41p21I1n21bD1Y8112n21lr5FwqD5x17uY1Hm22_.F41712Xu7k12NWH3368827U4Yq3",
     "_1Y67tB1z14Wl17j3313"]⟩,
  ⟨["emoji"],
    ["Z11615Al3141jy71C1u61M1w26F2lB2C1c51PB43d61d72A191w1415912122214121122131328351115CB",
     "2211211I122I6111232512242B25221521112K256142141212611211111613161A2F12141114311B2m13",
     "91E1E1qB2lE3J2p1141wc11C1vI111ghl31g61W52C2E12Ah2Q12N1K129L2k5Y12m322132p2231d81.1B6",
     "1O7228C1242142D221829153C38321114161316s2m1c258234A3112312AZ7C41x8l11A1v5m3D397k1178",
     "E4979"]⟩,
  ⟨["ecomp", "emojicomponent"],
    ["Z11615Ap_71r61hft11s_y1QxF5mj14ipXOW3"]⟩,
  ⟨["emod", "emojimodifier"],
    ["x.y35"]⟩,
  ⟨["ebase", "emojimodifierbase"],
    ["zm91x61G4tZp31y132123r322BLJ3143137111O1f6241L142k5335p21G391B1.H12188619A23u11z1212",
     "11H31Db73g19"]⟩,
  ⟨["epres", "emojipresentation"],
    ["wu82j643121fG2L2o1Ch11J1D182H2528151L1721141217142S1Z11114311z13O1E1xQ2p1141kbn31g61",
     "_512Ah2Q11O1K12513L2k5X1C91c21MCh145CH313d2111x52.1D41OI1Q2D1s2r2m1c261332344B279Z7C",
     "41x8l11A1v5m3D397k1178E4979"]⟩,
  ⟨["extpict", "extendedpictographic"],
    ["f5141jy71C1u61M1w26F2lB2C1.21c21PB43d61d72A191w14161C1o3As32B1111613161A2F1214111431",
     "1B5j1391E1E1qB2lE3J2p1141wc11C1vI111chl3W8D3V1y16C2E12AIv1RFA1K129149oD5_98g8m1W4q3C",
     "r2h1C4u18A6e18Uo2Cl11A1vDW8_V"]⟩,
  ⟨["ext", "extender"],
    ["t51uG2kR1vD1wQ1mN1.31Zg21u11ZJ1kC1a21fy41h15d32z23suR1sl11YU1M1f41i31L2xZL1mW22w_21e",
     "J3lc11fbK2ya1211ugS2cW23"]⟩,
  ⟨["grbase", "graphemebase"],
    ["W1.2X1D1oIm382647111K1W77c51c12o123k111121219R46HAB11k1LG1b38162214W1211UTv2B1Eh1973",
     "O4191317F1P511B5VHg1v1t1111484137A2T1218222M1711343112622211D2134O5116422M1712121243",
     "O4117A2311C119131M17121534811231F24C718218222M17121531216222F2134IB11633143211123233",
     "3C5112331331LL6318131N1G3134J321224A7A1B131N1A153212122212H2124A13EB131f121125313124",
     "31A4Q221I3O19112792677A23Cm112B88Db1211151O111A129125119A24W1O2R11111E1a1I15125n1816",
     "1Db1j14161222P243G4D12261F1e111512vB142711142f1142X1142711142F1v1142Z25T3Q6s2262zK3v",
     "27I319J239IED13Fq1217812B93A6A6B5A6v2752Y1115c2AV44234216713g125Bi14Q6B3v1223u111911",
     "286DA6A6Es2m171151A3R9B3W142213u1112311328m1825F3y17h12BB1D1741613215W6W2s8262c12628",
     "1111111V2r11F1E261J23191B5O7n1G22R1D3X1.1i44tKPBLqu12W11uA325j111512u172FN9717171717",
     "171717X1_2Y1Q1v2Cs6QC4g16G1s24b35h11_21q2Cl11jpS3t19yAKl141AW12m2268h6521115OG13141P",
     "254A6u18a2ACOD1c18PB2BU6m112422G1B471P1f16222B318112A2W11p11132252111OH28B6262697171",
     "y14r312143A6azACN4n1ae8kB2g3c17C5511O151112121z3GzD2s171W1GGAMZ11J14451d44z42V362626",
     "233717D22C1Q1J121F2EY1x3534j13u21D31l1j1Z4T3n1GR4a19U5c1AU1b14Eg1_42A6a14a14e18q1BC1",
     "F17121B1F1712Z2t99MA8O61g119b26211i112312N1e289m1J125X13R51W2u14K2l1F4131TA9797W2W1b",
     "16C9s13T2R5Q74C7m2f2t1p1Dp17g1CAc9V1g13122k2e18MB9MI44c1SKN911s1F74U1221Cn1422214EP7",
     "A9a1519I8Z113Bq19A421G1KBI1S32112612.1711141F1B6l113DA8218222M171215311114222321C7y4",
     "u182311L1113Um11261121121248Ac5l11264212Ra1p1821124BA6DJh1111261126As1R52419Nv5l1912",
     "1a3p2C82128121O15124114139Ac282g18414R1Ae1624891623k1D129Df27As791c1E116AT3W1P17121h",
     "27121c1L19A66121b14211117As9J249F1a182111Ns21Fo1DxSc3l315Ba6io2Z3DmX1H6vz3dIvj8vH7V1",
     "A4n21A6U71Am17FAA171L5JmLx2b3h25u1BDW24C2Eu.58sc1g19dt8417121Z9F1T321E48iCae2h35D397",
     "A2121mr4q3y1s7Ad12y11134L27U4z1LY231w3KCKCt29Pd4r21d2122122241C11171X21428171S141511",
     "371qA2a92oHt14o181E17qZ1V66b8_1o4j1A72A42WAUIi14A51mES4AcN714121F1b629m1a2714A42nOa2",
     "i2z1Y641R1211211A141111614111111312112111111111121124171414111A1H53151Hq12k8i14a3CF2",
     "F1F1b1Ak5u1TDi14972E6w4uU4H3D3t34.26C41FC4u18A6e18U22k2qACE2D397k1178E49797p41t1b1Ac",
     "W1Wtf1W1wX46_62Yq5Enf7.W3_GYl1hw45WZ4"]⟩,
  ⟨["grext", "graphemeextend"],
    ["WOm3p87d8j111121211e2Bm1LG1b37262214Z11URx2Bw1991O4191315h13y18g1O1W1t1111484137A2T1",
     "w1111248191A2Q122v1142422331U231B2v11451241K2M611w1112148173A2U1x1111C191e1131t11135",
     "31472B2T1w112121315272B2S2v1211248191A2T1e2141231181n2127C8Y3129B7f22R11111t1E15125B",
     "1a191c34161222P243G4D12261F1.L3oT3T2U2U2W2217812B91j1311r32Y11s33429163x6221w1117111",
     "1286A21m1Vn14m171151e19C2W142213u11123113w1822u431D17416132c6W2iG1Z6X1_.23j41W3W1gH6",
     "f32qkT41AW12m22m813141P251t42QID1c18PBk13m112422d11Z262222C181l11p1113225211g1281k71",
     "2141mvJ1XNGGGkB2zI1Y71r45cq131254e1341b52zH4ZC2m23c2Bn14x31s1Ff1122A3n142271z13a1518",
     "_11C2q19A421.2321126121z4138L2v121111M1E735Z682311N1n212611211212h71246212R2r282112g",
     "31112611b332415Z8912r71A21141m442241W1Ae1624819623k1D12sC71611o2M271212w3631121711e2",
     "23111xA2B2q155111zd516FwqD5x17uW11.14n21ubJ2Xp4k12N_G113458827U4q43xz1t14o181E1M51Fm",
     "g171H271215a31W57tB1z14yF4WV7j37rsbOW3W4m7"]⟩,
  ⟨["grlink", "graphemelink"],
    ["jg21.31.31.31.31.31.31.31j32G1y31l31.31f61q52vs12U1z41jK1Z71b32c22hi41cqU1b11t41k41i",
     "31r91s71noN1cm11f11E1v11v32h41q31q51Y31q71.31y71.31s31q31j81Z82X51p21I1n21bD1a82n21f",
     "D2"]⟩,
  ⟨["hex", "hexdigit"],
    ["m1A76Q6fr.1A76Q6"]⟩,
  ⟨["hyphen"],
    ["j11.31yc11xp41fW22bm31ZN1dhp11f51t21"]⟩,
  ⟨["idsb", "idsbinaryoperator"],
    ["m.B228"]⟩,
  ⟨["idst", "idstrinaryoperator"],
    ["o.B2"]⟩,
  ⟨["idc", "idcontinue"],
    ["m1A7Q411Ql11A111215N1V1gE4CE57111Hr312241165111K1p21h4152c51c1216f18j1111212118R44TB",
     "5g24c3182A1J21Gx12b3Es141212k1IS4B5O169g21X42A1J18222M1711342922248142152CA111231642",
     "2M17121212211542233174117GB319131M1712152A131321F42A971318222M1712152922237342152A11",
     "G216331432111232333C4533142161EAGD131N1G291314721321242AG418131N1A152913147262142A13",
     "CD131p1131554752AA6131I3O191127314611186A22Dw15F1Ad1211151O111N2511171A24W11N26AB111",
     "114A1a14K1I1a191v1g26k22c111512h11jA142711142f1142X1142711142F1v1142Z22399EGGs2263iJ",
     "2H1Q5h23B7M9MBKCD1312Cq231422AX131B6v27h15c2AV1C4CAe125Bi14Q6Bb1S4.11T2B6AD18E1Gn1j2",
     "3AH9Cq3Cu18A3n1297h123G31d15sG262c126281111111V2r11711331734264D5317Y22J1S1D1GDp1D41",
     "3CH1412A11266111111G245541Hf1tp2b769Cc111512u171FO97171717171717171W1bG3PF15254s2271",
     "w2145h11_2HW1m1GWGWk6W2jqLZ2k12j83SKm14A1p3b192d32W2521115Os141Jq1Cc2AA6O311n12a1CT3",
     "X2EB6V1t19E2A6N3f2O32G25A6262697171h11E6x3122A6azACN4n1ae8kB2g3c17C55C1D151112121i3X",
     "1hBIW22s1e1C4GGG32O3W151d4JA7Q411QBv236262623Z1C1Q1J121F2EY1x3b2r1e41Y4T3n1F1VW1DU5h",
     "15U2a14815g1_42A6a14a14e18q1CB1F17121B1F1712Z2t99MA8O61g119b26211i112312NAN9VX2J12AM",
     "AQc2u162W241258131T2341W1T3TZ181UPs1AMAJDIk3f2t1p1Dp1De18AcAg11232h2W1A18X1VMg1LRN9d",
     "2VG9y171DP7A6r11A448a1219b2441D11Z1I1b164_1711141F1A7x15A6418222M1712151A22232161572",
     "735h4h25A44Uc2118Ac5s129N6Y1X231BAc1v17As1R2F4A67v5x1b3g2L82128121U1229CAc282k12812R",
     ".1818g231If2d891j119FAOU2M1Ef27121i13112198A66121b112167As9N9H1f135DAs21l2wSc3l3Ha6i",
     "o2X3FmX1GMgz3dIvj8vH7V1A6l21A6U25Bt194CA9L5JmLW2W4h24v17HW2212B2Eu.58sc1g19dt8417121",
     "Z9F1T321E48iCae2h35D397A32Xp4k12N_G5368827U4q43xDr21d2122122241C11171X21428171S14151",
     "1371qA2P1P1V1P1V1P1V1P1V1P182o1WGt14o181E1M51FmY1V66r671H2712155_1X11m3j13E2A41XAVHw",
     "1sEg1cN714121F1b6B7f1i24Acb141R1211211A141111614111111312112111111111121124171414111",
     "A1H53151Hqf3AcW1Wtf1W1wX46_62Yq5Enf7.W3_GYl1hw45WZ4mgtLm7"]⟩,
  ⟨["ids", "idstart"],
    ["X2Q6Ql11A1415N1V1gE4CE57111X451224116113111K1p21h48c51c1216f1d2R44j1h1Z121Z311F272A3",
     "21G11UTv2B1OX192415M419131NP7B5O16Hg1w1s131I17AFG48222M17113431G1D213E2A186422M17121",
     "212V411J3G9131M17121531I1F2N1B8222M17121531U213F1H116331432111232333CM1q18131N1G31Q3",
     "2122U148131N1A1531V212F2H9131f121G15383O65I3O191127w1m112C7w1211151O111A12912511L4W1",
     "1.181a1R5p3h1K1G6443132734DC1Hc111512h11jA142711142f1142X1142711142F1v1142Z2b1GGs226",
     "3iJ2H1Q5h23B7IDJEIED13Fq1Z1141Z2v27f1115c2AVn1U25Bi14Qs1N9r1o21z2l1H8s1UD2Ai1Qa1f13A",
     "a1297h123f141612315W6W2s8262c126281111111V2r11711331734264D5317q31D1GDb31412A1126611",
     "1111G245541Hf1tp2b76432Cc111512u171GN9717171717171717cH3P975254s2451w2145h11_2HW1m1G",
     "WGWk6W2jqLZ2k12j83GA2Kl1GV2m2d192d32W2521115OG13141NTq1Eo1_163112BSANPT7l1S1G51AA51f",
     "1N318KN313o11132252111O32B73C6262697171h11E6p3TazACN4n1ae8kB2g3c17C5511A1D151112121i",
     "3X1hBIW22s1e1Cq351d4a1Q6QBv236262623Z1C1Q1J121F2EY1x3b2r1h8T3n1l1W1DU5c1AU2a14815g1_",
     "4Ia14a14e18q1CB1F17121B1F1712Z2t99MA8O61g119b26211i112312NAN9VX2J12AMAQc2u162W21F413",
     "1Tg1T3TZ181SRs1AMAJDIk3f2t1p1Dp1Da1yAg162k2TA18Mg1Ik1LRNCr1v1221Dj1W1PQa1T1218Z131Cm",
     "1E4L111Z1I1PJ2.1711141F1A7l1c18222M17121531I1C5_4r1I4K3Um1K211u5l1f14a1m1K1x1h1D1d2R",
     "b17v5i1q3W2V82128121OF111_282d1G111S1Ae171L1Bk1J1If2d891b1H1n1Um37121c1L1P6121W1E1dA",
     "JF11D1Y1y31l2wSc3l3Ha6io2X3FmX1H6vz3dIvj8vH7VHl2HUIm1G4VL5JmLW2W4h251Y2DW2211Su.58sc",
     "1g19dt8417121Z9F1T321E48iCae2h35D397Acx5r21d2122122241C11171X21428171S141511371qA2P1",
     "P1V1P1V1P1V1P1V1P18qv1V66b8_1o4j1A7G1XAUIi1aFSqN714121F1b6x1a271qb141R1211211A141111",
     "614111111312112111111111121124171414111A1H53151Hag4Wtf1W1wX46_62Yq5Enf7.W3_GYl1hw45W",
     "Z4"]⟩,
  ⟨["ideo", "ideographic"],
    ["cWC2P9E3bUWk6W2WmKWeMkB2g3geT1Ru.58sc1g19dZ9iCaeJWtf1W1wX46_62Yq5Enf7.W3_GYl1hw45WZ4"]⟩,
  ⟨["joinc", "joincontrol"],
    ["iW82"]⟩,
  ⟨["loe", "logicalorderexception"],
    ["Wo35x35mt2321wda122112"]⟩,
  ⟨["lower", "lowercase"],
    ["X3Ql11A141a1O18111111111111111111111111111111111111111111111111111111121111111111111",
     "112111111111111111111111111111111111111111111111121111321112132412133212111112112112",
     "131112223612121111111111111111211111111111111111221113111111111111111111111111111111",
     "11111111111111111111111111117212211411111111b21a172U5W31h11113124I1RZ112331111111111",
     "11111111111115112122p1m1111111111111111111111111111111111191111111111111111111111111",
     "111111111111111111111111111121111111111112111111111111111111111111111111111111111111",
     "111111111111111111111111111111111111111111111111111111m1f1dw2h114uN6Ya29t3W6X2111111",
     "111111111111111111111111111111111111111111111111111111111111111111111111111111111111",
     "111111111111111111111111111111111111111111111111111111111191111111111111111111111111",
     "111111111111111111111111111111111111111111111111111111111111111111111111986A88886A88",
     "88E2888888512613312842288A312v31D1GDj313231R14141228441X1G41hQQcw1m11132111111411218",
     "311111111111111111111111111111111111111111111111111111111111111111111111111111111111",
     "1111111111111112711141Cc11151peU111111111111111111111111111111111111111111111J111111",
     "111111111111111111113b41111111111113111111111111111111111111111111111111111111111111",
     "1111111111111A1111211111111141112113111111111111111111115151111111111111114111611111",
     "1111O31113rPh11E6m2WwJ7C5fX1Qjc1e1e4a1x4B1F1712ZE1231g119be1p1j_2W1WiLW1wiPQQ71IQQQ4",
     "11171BQQQQQQQQQQQQQQQQQSSP16QP16QP16QP16QP1611qv1A1K66b8_1qb2Y1"]⟩,
  ⟨["math"],
    ["h11G3V1T111j1141b11V1uM321Q223lG3jm61R3B131D1E4L5B5X2D413245I1412A112661322213163E11",
     "a2O1612424W11162Ei884K2w21UR11O1B7zD2CA46422235E11126B852v1111T493mAW2W8WGm1L26y_p11",
     "tP611Y51G3T111T111Z4164pWr1r21d2122122241C11171X21428171S141511371qA2a92o1Wm541R1211",
     "211A141111614111111312112111111111121124171414111A1H53151Hq12"]⟩,
  ⟨["nchar", "noncharactercodepoint"],
    ["mk.1W1kG2_..12_..12_..12_..12_..12_..12_..12_..12_..12_..12_..12_..12_..12_..12_..12",
     "_..12"]⟩,
  ⟨["oalpha", "otheralphabetic"],
    ["mj1E11121211e2Bm1D17G1b37442241Z11UGc3Bb32391314d5C376Ks122F1253A2T3w172222A1A2T3w15",
     "422241U231B3w181312L2M343w17222292A2U1x153313A1e15v17131382B2T3w17131382B2F1C4w17131",
     "3A1A2T3h261118I2z1127I1Z312612G1Z5J9B1a1k3C1124N443132734DC11A4qp12U2U2U2Y2Jy52Y11s3",
     "C49_65v1A2Kg22B3n15m1Fy13U922v1Bo1JmDEh.3W1qZU8Y12YB181N5u22o1G11v11c15SCj14m1Cb11Z2",
     "EC182j13o11132251i1551j78pvJ1tY25cq131254qO4ZC2pA3r1Ej12B3j1991z13a1CI2v13m1DE2y2921",
     "6121z4AN4w172222A1A2n6D13g3Ij7727T2o2F11g3Bd3EX8Dt7612223111k472641SAg1514IBk1EtC817",
     "p2M1Ew363112131131Y251214yA49211m1733kWK11t174z22ibJ1Xx871H271215a31tb21"]⟩,
  ⟨["odi", "otherdefaultignorablecodepoint"],
    ["lQ1lm32po12lb21_d41xnp11l29dWWQ11UW3W4m7mm3"]⟩,
  ⟨["ogrext", "othergraphemeextend"],
    ["_j21O1cB1O1c31O1g71I2d31O1t31F1rg31sc11XX42kxp12_y41O1uA1C1n71WS1qXk1185jrhOW3"]⟩,
  ⟨["oidc", "otheridcontinue"],
    ["t51lM1X.39ep11"]⟩,
  ⟨["oids", "otheridstart"],
    ["ba62na21L1ix32"]⟩,
  ⟨["olower", "otherlowercase"],
    ["g51F1rF972U5W31q11Xi31lX3.1D1Y1b1nL1D1GDp6GmQQoy12_mU2o61X4332YR491sWN1231g119rZs1_1"]⟩,
  ⟨["omath", "othermath"],
    ["_21nR321Q222WX71R3B1W14O2E2X2D413245I1412A113561322213163455h25241212111522424I22111",
     "71162Y94e5211O1H1zD2C955522235E11126O2v1111T492sA2VApCM.14W12ZZr111141p6111Xcr1r21d2",
     "122122241C11171X21428171S141511371qA2P1P1V1P1V1P1V1P1V1P182o1Wm541R1211211A141111614",
     "111111312112111111111121124171414111A1H53151H"]⟩,
  ⟨["oupper", "otheruppercase"],
    ["Wh8GcQQWZp3Q6Q6Q"]⟩,
  ⟨["patsyn", "patternsyntax"],
    ["X1FA7Q411Q4Y1711121112414131N1V1uu7O8F2J1An9mMW5sJUiZ1WGW4XC34PF1jep12b82"]⟩,
  ⟨["patws", "patternwhitespace"],
    ["95I1a31ey72O2"]⟩,
  ⟨["pcm", "prependedconcatenationmark"],
    ["Wm16t61n11WC2m21w_X21F1"]⟩,
  ⟨["qmark", "quotationmark"],
    ["Y1141Z41F1yw78P2dm31fE4D3Xnp14z5141w22"]⟩,
  ⟨["radical"],
    ["WqBQ1v2Cs6"]⟩,
  ⟨["ri", "regionalindicator"],
    ["cly3Q"]⟩,
  ⟨["sterm", "sentenceterminal"],
    ["X11C1G1fg11p43q51h13s71z111132b92at12sO142bO1c62i6151w92YB4k5222T2y52X22yT293al31D1M",
     "2jD1ydT1k82Z7131_B2s22.21u42p43m42v71cpK132f51C1G1X21qt22zd15i14z52r34.33X4261G2u221",
     "2i31XD2rB25Ff32v73bG111x72t22aD2qL2g22fvI2b41X22B1pQ1cmJ1el71"]⟩,
  ⟨["sd", "softdotted"],
    ["f32a61v81U1q11K1WA1Y3111fe61p11D131a41z41bD1s62ov21bzf32o12o12o12o12o12o12o12o12o12o",
     "12o12o12ca21n92Q1"]⟩,
  ⟨["term", "terminalpunctuation"],
    ["X11A111B231_P181XG1v11e21E113q51h1B11h72s1FV1b82qd12i5146t92rO8bO1y33d22z4331d1422w9",
     "2YB4k5213T2y55_12yT293al31D141A11232iD2xdT2j83Z75_B2s22.21t43p43.31G2v71apK314f51A11",
     "1B231X2121wX11m11ca11d61s92u46a26v24uT5i14z57m34.33X4261G2u25i31XD3C2cB43Ff32v73bG11",
     "1x72t2242_C3j11bK2g22hf15vlH2b41X23A1oQ2cmJ1dl74"]⟩,
  ⟨["uideo", "unifiedideograph"],
    ["WWDWk6W2WmKkmM21112A1111223skX2Wtf1W1wX46_62Yq5Enf7.W5hw45WZ4"]⟩,
  ⟨["upper", "uppercase"],
    ["X2Qb3N17X111111111111111111111111111111111111111111111111111111112111111111111111211",
     "111111111111111111111111111111111111111111112111132111213241213321211111211211213111",
     "231712121211111111111111121111111111111111121211311111111111111111111111111111111111",
     "111111111111111111111117212211411111111X91113181611311121H19Z11233111111111111111111",
     "111115121122p1m111111111111111111111111111111111191111111111111111111111111111111111",
     "111111111111111111112111111111111211111111111111111111111111111111111111111111111111",
     "1111111111111111111111111111111111111111111112c1fw2c11151oMs2wa2h123WA11111111111111",
     "111111111111111111111111111111111111111111111111111111111111111111111111111111111111",
     "111111111111111111111111111111111111111111111111111911111111111111111111111111111111",
     "111111111111111111111111111111111111111111111111111111111111111119886A88886B11111118",
     "8e24C4C4C5B4c8141332321356111111424A251QGJ1oPQmv1m1m11132111111411218311111111111111",
     "111111111111111111111111111111111111111111111111111111111111111111111111111111111111",
     "811141jgU111111111111111111111111111111111111111111111J111111111111111111111111111d4",
     "111111111111131111111111111111111111111111111111111111111111111111111111111A11112111",
     "1111141112111311111111111111111111515111111111111111411615111S1hvLQbc1e1e4a1y4B1F171",
     "2gt1p1j.2W1WiLW1WjPQQQQQQ11221222418QQQ2142817R214151137RQQQQQQQQQQQUPX1PX1PX1PX1PX1",
     "1rf4Y1kW2Q6Q6Q"]⟩,
  ⟨["vs", "variationselector"],
    ["hW6311mlv1GmtWQm7"]⟩,
  ⟨["space", "wspace", "whitespace"],
    ["95I1a31Q1.k51.h2BT251l11Wz31"]⟩,
  ⟨["xidc", "xidcontinue"],
    ["m1A7Q411Ql11A111215N1V1gE4CE57111Hr312331165111K1p21h4152c51c1216f18j1111212118R44TB",
     "5g24c3182A1J21Gx12b3Es141212k1IS4B5O169g21X42A1J18222M1711342922248142152CA111231642",
     "2M17121212211542233174117GB319131M1712152A131321F42A971318222M1712152922237342152A11",
     "G216331432111232333C4533142161EAGD131N1G291314721321242AG418131N1A152913147262142A13",
     "CD131p1131554752AA6131I3O191127314611186A22Dw15F1Ad1211151O111N2511171A24W11N26AB111",
     "114A1a14K1I1a191v1g26k22c111512h11jA142711142f1142X1142711142F1v1142Z22399EGGs2263iJ",
     "2H1Q5h23B7M9MBKCD1312Cq231422AX131B6v27h15c2AV1C4CAe125Bi14Q6Bb1S4.11T2B6AD18E1Gn1j2",
     "3AH9Cq3Cu18A3n1297h123G31d15sG262c126281111111V2r11711331734264D5317Y22J1S1D1GDp1D41",
     "3CH1412A11266111111G245541Hf1tp2b769Cc111512u171FO97171717171717171W1bG3PF15254s2222",
     "31w2145h11_2HW1m1GWGWk6W2jqLZ2k12j83SKm14A1p3b192d32W2521115Os141Jq1Cc2AA6O311n12a1C",
     "T3X2EB6V1t19E2A6N3f2O32G25A6262697171h11E6x3122A6azACN4n1ae8kB2g3c17C55C1D151112121i",
     "3X1h46w6IW22s1e1A6GGG32O3X1111311111111_3JA7Q411QBv236262623Z1C1Q1J121F2EY1x3b2r1e41",
     "Y4T3n1F1VW1DU5h15U2a14815g1_42A6a14a14e18q1CB1F17121B1F1712Z2t99MA8O61g119b26211i112",
     "312NAN9VX2J12AMAQc2u162W241258131T2341W1T3TZ181UPs1AMAJDIk3f2t1p1Dp1De18AcAg11232h2W",
     "1A18X1VMg1LRN9d2VG9y171DP7A6r11A448a1219b2441D11Z1I1b164_1711141F1A7x15A6418222M1712",
     "151A22232161572735h4h25A44Uc2118Ac5s129N6Y1X231BAc1v17As1R2F4A67v5x1b3g2L82128121U12",
     "29CAc282k12812R.1818g231If2d891j119FAOU2M1Ef27121i13112198A66121b112167As9N9H1f135DA",
     "s21l2wSc3l3Ha6io2X3FmX1GMgz3dIvj8vH7V1A6l21A6U25Bt194CA9L5JmLW2W4h24v17HW2212B2Eu.58",
     "sc1g19dt8417121Z9F1T321E48iCae2h35D397A32Xp4k12N_G5368827U4q43xDr21d2122122241C11171",
     "X21428171S141511371qA2P1P1V1P1V1P1V1P1V1P182o1WGt14o181E1M51FmY1V66r671H2712155_1X11",
     "m3j13E2A41XAVHw1sEg1cN714121F1b6B7f1i24Acb141R1211211A141111614111111312112111111111",
     "121124171414111A1H53151Hqf3AcW1Wtf1W1wX46_62Yq5Enf7.W3_GYl1hw45WZ4mgtLm7"]⟩,
  ⟨["xids", "xidstart"],
    ["X2Q6Ql11A1415N1V1gE4CE57111X451233116113111K1p21h48c51c1216f1d2R44j1h1Z121Z311F272A3",
     "21G11UTv2B1OX192415M419131NP7B5O16Hg1w1s131I17AFG48222M17113431G1D213E2A186422M17121",
     "212V411J3G9131M17121531I1F2N1B8222M17121531U213F1H116331432111232333CM1q18131N1G31Q3",
     "2122U148131N1A1531V212F2H9131f121G15383O65I3O191127w1m111D7w1211151O111A11A12511L4W1",
     "1.181a1R5p3h1K1G6443132734DC1Hc111512h11jA142711142f1142X1142711142F1v1142Z2b1GGs226",
     "3iJ2H1Q5h23B7IDJEIED13Fq1Z1141Z2v27f1115c2AVn1U25Bi14Qs1N9r1o21z2l1H8s1UD2Ai1Qa1f13A",
     "a1297h123f141612315W6W2s8262c126281111111V2r11711331734264D5317q31D1GDb31412A1126611",
     "1111G245541Hf1tp2b76432Cc111512u171GN9717171717171717cH3P975254s2631w2145h11_2HW1m1G",
     "WGWk6W2jqLZ2k12j83GA2Kl1GV2m2d192d32W2521115OG13141NTq1Eo1_163112BSANPT7l1S1G51AA51f",
     "1N318KN313o11132252111O32B73C6262697171h11E6p3TazACN4n1ae8kB2g3c17C5511A1D151112121i",
     "3X1h46w6IW22s1e1At3111311111111_3a1Q6QBu12V36262623Z1C1Q1J121F2EY1x3b2r1h8T3n1l1W1DU",
     "5c1AU2a14815g1_4Ia14a14e18q1CB1F17121B1F1712Z2t99MA8O61g119b26211i112312NAN9VX2J12AM",
     "AQc2u162W21F4131Tg1T3TZ181SRs1AMAJDIk3f2t1p1Dp1Da1yAg162k2TA18Mg1Ik1LRNCr1v1221Dj1W1",
     "PQa1T1218Z131Cm1E4L111Z1I1PJ2.1711141F1A7l1c18222M17121531I1C5_4r1I4K3Um1K211u5l1f14",
     "a1m1K1x1h1D1d2Rb17v5i1q3W2V82128121OF111_282d1G111S1Ae171L1Bk1J1If2d891b1H1n1Um37121",
     "c1L1P6121W1E1dAJF11D1Y1y31l2wSc3l3Ha6io2X3FmX1H6vz3dIvj8vH7VHl2HUIm1G4VL5JmLW2W4h251",
     "Y2DW2211Su.58sc1g19dt8417121Z9F1T321E48iCae2h35D397Acx5r21d2122122241C11171X21428171",
     "S141511371qA2P1P1V1P1V1P1V1P1V1P18qv1V66b8_1o4j1A7G1XAUIi1aFSqN714121F1b6x1a271qb141",
     "R1211211A141111614111111312112111111111121124171414111A1H53151Hag4Wtf1W1wX46_62Yq5En",
     "f7.W3_GYl1hw45WZ4"]⟩]

end Unicode
end CompileOnLoad
