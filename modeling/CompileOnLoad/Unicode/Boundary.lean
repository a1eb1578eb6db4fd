import CompileOnLoad.Unicode.Table

/-!
# Text boundaries

The classes of characters that decide where grapheme clusters, words and sentences end.
-/

namespace CompileOnLoad
namespace Unicode

def graphemeClusterBreaks : List Table := [
  ⟨["cr"],
    ["D1"]⟩,
  ⟨["cn", "control"],
    ["0A121I.2X1D1kh11nl41y.1122O7n1Glqt11m7CqXDGWZY14lc58bqhOW1W3W4m7mm3"]⟩,
  ⟨["ex", "extend"],
    ["WOm3p87d8j111121211e2Bm1LG1b37262214Z11URx2Bw1991O4191315h13y18g1O1W1t1111484137A2T1",
     "w1111248191A2Q122v1142422331U231B2v11451241K2M611w1112148173A2U1x1111C191e1131t11135",
     "31472B2T1w112121315272B2S2v1211248191A2T1e2141231181n2127C8Y3129B7f22R11111t1E15125B",
     "1a191c34161222P243G4D12261F1.L3oT3T2U2U2W2217812B91j1311r32Y11s33429163x6221w1117111",
     "1286A21m1Vn14m171151e19C2W142213u11123113w1822u431D17416132c6W2iG1Z6X1_.23j41W3W1gH6",
     "f32qkT41AW12m22m813141P251t42QID1c18PBk13m112422d11Z262222C181l11p1113225211g1281k71",
     "2141mvJ1XNGGGkB2zI1Y71r45cq131254e1341b52zH4ZC2m23c2Bn14x31s1Ff1122A3n142271z13a1518",
     "_11C2q19A421.2321126121z4138L2v121111M1E735Z682311N1n212611211212h71246212R2r282112g",
     "31112611b332415Z8912r71A21141m442241W1Ae1624819623k1D12sC71611o2M271212w3631121711e2",
     "23111xA2B2q155111zd516FwqD5x17uW11.14n21ubJ2Xp4k12N_G113458827U4q43xz1t14o181E1M51Fm",
     "g171H271215a31W57tB1z14yF4WV7j37mr25WXZOW3W4m7"]⟩,
  ⟨["l"],
    ["We4W3WWc1T"]⟩,
  ⟨["lf"],
    ["A1"]⟩,
  ⟨["lv"],
    ["WWh11R1R1R1R1R1R1R1R1R1R1R1R1R1R1R1R1R1R1R1R1R1R1R1R1R1R1R1R1R1R1R1R1R1R1R1R1R1R1R1R",
     "1R1R1R1R1R1R1R1R1R1R1R1R1R1R1R1R1R1R1R1R1R1R1R1R1R1R1R1R1R1R1R1R1R1R1R1R1R1R1R1R1R1R",
     "1R1R1R1R1R1R1R1R1R1R1R1R1R1R1R1R1R1R1R1R1R1R1R1R1R1R1R1R1R1R1R1R1R1R1R1R1R1R1R1R1R1R",
     "1R1R1R1R1R1R1R1R1R1R1R1R1R1R1R1R1R1R1R1R1R1R1R1R1R1R1R1R1R1R1R1R1R1R1R1R1R1R1R1R1R1R",
     "1R1R1R1R1R1R1R1R1R1R1R1R1R1R1R1R1R1R1R1R1R1R1R1R1R1R1R1R1R1R1R1R1R1R1R1R1R1R1R1R1R1R",
     "1R1R1R1R1R1R1R1R1R1R1R1R1R1R1R1R1R1R1R1R1R1R1R1R1R1R1R1R1R1R1R1R1R1R1R1R1R1R1R1R1R1R",
     "1R1R1R1R1R1R1R1R1R1R1R1R1R1R1R1R1R1R1R1R1R1R1R1R1R1R1R1R1R1R1R1R1R1R1R1R1R1R1R1R1R1R",
     "1R1R1R1R1R1R1R1R1R1R1R1R1R1R1R1R1R1R1R1R1R1R1R1R1R1R1R1R1R1R1R1R1R1R1R1R1R1R1R1R1R1R",
     "1R1R1R1R1R1R1R1R1R1R1R1R1R1R1R1R1R1R1R1R1R1R1R1R1R1R1R1R1R1R1R1R1R1R1R1R1R1R1R1R1R1R",
     "1R1R1R1R1R1R1R1R1R1R1R1R1R1R1R1R1R1R1R1R1R1R1"]⟩,
  ⟨["lvt"],
    ["XWh1R1R1R1R1R1R1R1R1R1R1R1R1R1R1R1R1R1R1R1R1R1R1R1R1R1R1R1R1R1R1R1R1R1R1R1R1R1R1R1R1",
     "R1R1R1R1R1R1R1R1R1R1R1R1R1R1R1R1R1R1R1R1R1R1R1R1R1R1R1R1R1R1R1R1R1R1R1R1R1R1R1R1R1R1",
     "R1R1R1R1R1R1R1R1R1R1R1R1R1R1R1R1R1R1R1R1R1R1R1R1R1R1R1R1R1R1R1R1R1R1R1R1R1R1R1R1R1R1",
     "R1R1R1R1R1R1R1R1R1R1R1R1R1R1R1R1R1R1R1R1R1R1R1R1R1R1R1R1R1R1R1R1R1R1R1R1R1R1R1R1R1R1",
     "R1R1R1R1R1R1R1R1R1R1R1R1R1R1R1R1R1R1R1R1R1R1R1R1R1R1R1R1R1R1R1R1R1R1R1R1R1R1R1R1R1R1",
     "R1R1R1R1R1R1R1R1R1R1R1R1R1R1R1R1R1R1R1R1R1R1R1R1R1R1R1R1R1R1R1R1R1R1R1R1R1R1R1R1R1R1",
     "R1R1R1R1R1R1R1R1R1R1R1R1R1R1R1R1R1R1R1R1R1R1R1R1R1R1R1R1R1R1R1R1R1R1R1R1R1R1R1R1R1R1",
     "R1R1R1R1R1R1R1R1R1R1R1R1R1R1R1R1R1R1R1R1R1R1R1R1R1R1R1R1R1R1R1R1R1R1R1R1R1R1R1R1R1R1",
     "R1R1R1R1R1R1R1R1R1R1R1R1R1R1R1R1R1R1R1R1R1R1R1R1R1R1R1R1R1R1R1R1R1R1R1R1R1R1R1R1R1R1",
     "R1R1R1R1R1R1R1R1R1R1R1R1R1R1R1R1R1R1R1R1R1R1R"]⟩,
  ⟨["pp", "prepend"],
    ["Wm16t61n11WC2m21hZ11kxW21F1q72xx1111u71f26yL1xD1"]⟩,
  ⟨["ri", "regionalindicator"],
    ["cly3Q"]⟩,
  ⟨["sm", "spacingmark"],
    ["Ze21t11238412o12x126222s11w13Y21w138112r12y116222o31123313q13z14z12w1112122212d11E2x",
     "125313r12i2267J2.11.31g42.11n5192P2i11mq11U1X417812wA4234216W72w1111L6n41s111512z11U",
     "14221y11231132m1882h51L1hvY1221u22o1Gk42l11m124223k3222O1z412251j72121211pWP111.31j1",
     "342p31O2x11m1392D1z233211g53V2x11142223K2n638231h3261121121k726421n338211j311261l31b",
     "8391u7512412111k438441q21T2_11tC1E1g317121r654211_A2C1m128211lWKt1e32qhO161"]⟩,
  ⟨["t"],
    ["ej4u2hkn1n1"]⟩,
  ⟨["v"],
    ["Wh4e2emn1N"]⟩,
  ⟨["zwj"],
    ["jW81"]⟩]

def wordBreaks : List Table := [
  ⟨["le", "aletter"],
    ["X2Q6Ql11A1415N1V1WF6Y1m351224116113111K1p21h48c51c124111f111e31i1h1Z121Z311F272A321G",
     "11UTv2B1OX192415M419131NP7B5O16Hg1w1s131I17AFG48222M17113431G1D213E2A186422M17121212",
     "V411J3G9131M17121531I1F2N1B8222M17121531U213F1H116331432111232333CM1q18131N1G31Q3212",
     "2U148131N1A1531V212F2H9131f121G15383O65I3O191127v91.181a1R5p8c111512h11jA142711142f1",
     "142X1142711142F1v1142Z2b1GGs2263iJ2H1Q5h23B7IDJEIED13l5v2752Y1115c2AVX7Nk7l1H8s1UD2A",
     "i1Qa1f13Aa1297h123f141612315W6W2s8262c126281111111V2r11711331734264D5317q31D1GDb3141",
     "2A1135611111141B245541Hf1jPq1su1b76432Cc111512u171GN9717171717171717m21rE1r12e6h11_2",
     "HW1WoRja1Z2k12j83GA2Kl1GV2m2OZ6521115OG13141NTq1Eo1_163112BSANPT7l1S1m1f1N318q4B73C6",
     "262697171w16p3TazACN4n1au87C5u1Y3X1hBIW22s1e1Cq351d4a1Q6Qb2V36262623Z1C1Q1J121F2EY1x",
     "3b2r1h8T3n1l1W1DU5c1AU2a14815g1_4Ia14a14e18q1CB1F17121B1F1712Z2t99MA8O61g119b26211i1",
     "12312NAN9VX2J12AMAQc2u162W21F4131Tg1T3TZ181SRs1AMAJDIk3f2t1p1Dp1Da1yAg162k2TA18Mg1Ik",
     "1LRNCr1v1221Dj1W1PQa1T1218Z131Cm1E4L111Z1I1PJ2.1711141F1A7l1c18222M17121531I1C5_4r1I",
     "4K3Um1K211u5l1f14a1m1K1x1h1D1dAi1q3W2V82128121OF111_282d1G111S1Ae171L1Bk1J1If2d891b1",
     "H1n1Um37121c1L1P6121W1E1dAJF11D1Y1y31l2wSc3l3Ha6io2X3FmX1H6vz3dIvj8vH7VHl2HUIm1G4VL5",
     "JmLW2W4h251Y2DW2211yWJh35D397Acx5r21d2122122241C11171X21428171S141511371qA2P1P1V1P1V",
     "1P1V1P1V1P18qv1V66b8_1o4j1A7G1XAUIi1aFSqN714121F1b6x1a271qb141R1211211A1411116141111",
     "11312112111111111121124171414111A1H53151HqJQ6Q6Q"]⟩,
  ⟨["cr"],
    ["D1"]⟩,
  ⟨["dq", "doublequote"],
    ["Y11"]⟩,
  ⟨["extend"],
    ["WOm3p87d8j111121211e2Bm1LG1b37262214Z11URx2Bw1991O4191315h13y18g1O1X1s131I17A2T3u111",
     "7222391A2Q123u1115422331U231B3u11181313K2M613u1117222373A2U1x15331491e15t1117131472B",
     "2T3u1117131472B2F1C4t1217131491A2T3c21461118I2z1127C8Y3129B7f22R1111142n1K125B1a191a",
     "3KN443132734DC11A4.L3oT4S3T2U2W2W191j1311r32Y11s3C4Cx65v1A1T21m1Vn15l1Hc19C3UDu1Em1K",
     "u431L416123c6W2iG1Z6X1_.23j41W3W1gH6f32qkT41AW12m22m813141N541p22o1IQID1c18PDi14l1Ea",
     "11Z2EC182j13o1113225211f1552i7812mvJ1XNGGGkB2zI1Y71r45cq131254e1341b52zH4ZC2m23c2Bn1",
     "4w33r1Ff1122A4j1B71z13a1EG2i11C3m1E8412y2C6121z4CL4t1217222391A22735W6IN1n2Kh7729R2o",
     "2Hg3Db3FW8Fr7612241112j472731SAe1714819Bk1GrC818o2M1Ew3631121711Y251215xA49211m1735z",
     "d516FwqD5x17uW111t174n21B2hbJ2Xp4k12N_G5368827U4q43xz1t14o181E1M51Fmg171H271215a31W5",
     "7tB1z14yF4WV7j37mr25WXZOW3W4m7"]⟩,
  ⟨["ex", "extendnumlet"],
    [".21l_71F2J1_kt12O3l71"]⟩,
  ⟨["fo", "format"],
    ["j51og16M1W61n11WC2m21hv31..12Q5n151Alqt11v73Xc41F1Yx8GWZY14lc58cqhO1"]⟩,
  ⟨["hl", "hebrewletter"],
    ["mk1R44gfz111A1D151112121A"]⟩,
  ⟨["ka", "katakana"],
    ["nXC5b323x214m7Gm6l11u2kWp1u1oYi14171211.83o11E4"]⟩,
  ⟨["lf"],
    ["A1"]⟩,
  ⟨["ml", "midletter"],
    ["w11y31lM1tE1q41on61hlt11X21a61"]⟩,
  ⟨["mn", "midnum"],
    ["i11E1YQ1gG1Y42_21hC1hY61hkt1131x1131t51E1"]⟩,
  ⟨["mb", "midnumlet"],
    ["k11f.72A1jnt11q5161"]⟩,
  ⟨["nl", "newline"],
    ["B2u31Yz72"]⟩,
  ⟨["nu", "numeric"],
    ["m1Acn1A11a4Ac6AyCAs3As3As3As3As3As3As3As3As3AW3As3Ac2As8Ac2Acw1Ac1Ai9AW4Ac5A6As5As2A",
     "c4A6AckY1AcLAc1Ac6AMAs2AsCAsuKAci1Aca2AiPAW4Ay1Am4As8AsAAs3AsBAc3Ac3AcDAc3AsNAs7Ac2A",
     "cDAcuIAs2Ac4AqZRo1Wg2AcDAsFAsY1Asq4A"]⟩,
  ⟨["ri", "regionalindicator"],
    ["cly3Q"]⟩,
  ⟨["sq", "singlequote"],
    ["d11"]⟩,
  ⟨["wsegspace"],
    ["W11.o51.h2713q21Wz31"]⟩,
  ⟨["zwj"],
    ["jW81"]⟩]

def sentenceBreaks : List Table := [
  ⟨["at", "aterm"],
    ["k11r.71jnt11x51"]⟩,
  ⟨["cr"],
    ["D1"]⟩,
  ⟨["cl", "close"],
    ["Y1143n1111T111j11F1_p34zw12xh28P2A2s12E2vJ4T2mX167El22VApCM.14W12YW1EE22AO1I8hDA2813",
     "_ep12t62SG22G6f52n1111T1111212ouz13"]⟩,
  ⟨["ex", "extend"],
    ["WOm3p87d8j111121211e2Bm1LG1b37262214Z11URx2Bw1991O4191315h13y18g1O1X1s131I17A2T3u111",
     "7222391A2Q123u1115422331U231B3u11181313K2M613u1117222373A2U1x15331491e15t1117131472B",
     "2T3u1117131472B2F1C4t1217131491A2T3c21461118I2z1127C8Y3129B7f22R1111142n1K125B1a191a",
     "3KN443132734DC11A4.L3oT4S3T2U2W2W191j1311r32Y11s3C4Cx65v1A1T21m1Vn15l1Hc19C3UDu1Em1K",
     "u431L416123c6W2iG2Y6X1_.23j41W3W1gH6f32qkT41AW12m22m813141N541p22o1IQID1c18PDi14l1Ea",
     "11Z2EC182j13o1113225211f1552i7812mvJ1XNGGGkB2zI1Y71r45cq131254e1341b52zH4ZC2m23c2Bn1",
     "4w33r1Ff1122A4j1B71z13a1EG2i11C3m1E8412y2C6121z4CL4t1217222391A22735W6IN1n2Kh7729R2o",
     "2Hg3Db3FW8Fr7612241112j472731SAe1714819Bk1GrC818o2M1Ew3631121711Y251215xA49211m1735z",
     "d516FwqD5x17uW111t174n21B2hbJ2Xp4k12N_G5368827U4q43xz1t14o181E1M51Fmg171H271215a31W5",
     "7tB1z14yF4WV7j37rsbOW3W4m7"]⟩,
  ⟨["fo", "format"],
    ["j51og16M1W61n11WC2m21hv31y.1122Q5n151Alqt11v73Xc41F1Yx8GWZY14lc58cqhO1"]⟩,
  ⟨["lf"],
    ["A1"]⟩,
  ⟨["lo", "lower"],
    ["X3Ql11A141a1O18111111111111111111111111111111111111111111111111111111121111111111111",
     "112111111111111111111111111111111111111111111111121111321112132412133212111112112112",
     "131112223612121111111111111111211111111111111111221113111111111111111111111111111111",
     "11111111111111111111111111117212211411111111b21a172U5i41113124I1RZ112331111111111111",
     "11111111115112122p1m1111111111111111111111111111111111191111111111111111111111111111",
     "111111111111111111111111121111111111112111111111111111111111111111111111111111111111",
     "111111111111111111111111111111111111111111111111111m1f1px21xN6Ya29t3W6X2111111111111",
     "111111111111111111111111111111111111111111111111111111111111111111111111111111111111",
     "111111111111111111111111111111111111111111111111111191111111111111111111111111111111",
     "111111111111111111111111111111111111111111111111111111111111111111986A88886A8888E288",
     "8888512613312842288A312v31D1GDj313231R14141228441X1G41hQQcw1m11132111111411218311111",
     "111111111111111111111111111111111111111111111111111111111111111111111111111111111111",
     "1111111112711141Cc11151peU111111111111111111111111111111111111111111111J111111111111",
     "111111111111113b41111111111113111111111111111111111111111111111111111111111111111111",
     "1111111A11112111111111411121131111111111111111111151511111111111111141116111111111O3",
     "1113rPh11E6m2WwJ7C5fX1Qjc1e1e4a1x4B1F1712ZE1231g119be1p1j_2W1WiLW1wiPQQ71IQQQ411171B",
     "QQQQQQQQQQQQQQQQQSSP16QP16QP16QP16QP1611qv1A1K66b8_1qb2Y1"]⟩,
  ⟨["nu", "numeric"],
    ["m1Acn1A12Z4Ac6AyCAs3As3As3As3As3As3As3As3As3AW3As3Ac2As8Ac2Acw1Ac1Ai9AW4Ac5A6As5As2A",
     "c4A6AckY1AcLAc1Ac6AMAs2AsCAsuKAci1Aca2AiPAW4Ay1Am4As8AsAAs3AsBAc3Ac3AcDAc3AsNAs7Ac2A",
     "cDAcuIAs2Ac4AqZRo1Wg2AcDAsFAsY1Asq4A"]⟩,
  ⟨["le", "oletter"],
    ["xD144m61a176CQ111b41aF1s3R45i1h1Z121Z311F272A321G11UTv2B1OX192415M419131NP7B5O16Hg1w",
     "1s131I17AFG48222M17113431G1D213E2A186422M17121212V411J3G9131M17121531I1F2N1B8222M171",
     "21531U213F1H116331432111232333CM1q18131N1G31Q32122U148131N1A1531V212F2H9131f121G1538",
     "3O65I3O191127w1m112C7w1211151O111A12912511L4W11.181a1R5p3h1K1G6443132734DC1X2h12iA14",
     "2711142f1142X1142711142F1v1142Z2b1Gn3iJ2H1Q5h23B7IDJEIED13Fq1Z1141Z2v2752Y1115c2AVn1",
     "U25Bi14Qs1N9r1o21z2l1H8s1UD2Ai1Qa1f13Aa1Ih123f14161231wX14d2324dz2u171GN971717171717",
     "1717m21rE3P975254s2631w2145h11_2HW1m1GWGWk6W2jqLZ2k12j83GA2Y21G1W1m2d19e3161d3137131",
     "41NTq1Eo1_163112BSANPT7l1S1G51AA51f1N318KN313o11132252111O32B73C626269717n4Z1TazACN4",
     "n1ae8kB2g3Z211A1D151112121i3X1hBIW22s1e1Cq351d4f3u12V36262623Z1C1Q1J121F2EY1x3b2r1h8",
     "T3n1l1W1DU5c1AU2a14815w3k2Y3e18q1y4t99MA8P2z36211i112312NAN9VX2J12AMAQc2u162W21F4131",
     "Tg1T3TZ181SRs1AMAJDIk3f2t5a1yAg162k2TA18Mg1Ik1LRNCr1v1221Dj1W1PQa1T1218Z131Cm1E4L111",
     "Z1I1PJ2.1711141F1A7l1c18222M17121531I1C5_4r1I4K3Um1K211u5l1f14a1m1K1x1h1D1d2Rb17v5i1",
     "p682128121OF111_282d1G111S1Ae171L1Bk1J1If2d891b1H1n1Um37121c1L1P6121W1E1dAJF11D1Y1y3",
     "1l2wSc3l3Ha6io2X3FmX1H6vz3dIvj8vH7VHl2HUIm1G4VL5JmRh251Y2DW2211Su.58sc1g19dt8417121Z",
     "9F1T321E48iCae2h35D397Amp81rFj1A7G1XAUIi1aFSqN714121F1b6c41qb141R1211211A14111161411",
     "1111312112111111111121124171414111A1H53151Hag4Wtf1W1wX46_62Yq5Enf7.W3_GYl1hw45WZ4"]⟩,
  ⟨["sc", "scontinue"],
    ["i12C1Yf11k52gF1fW4151gW22i.31kmp1211T2T23121A1e52C1f21"]⟩,
  ⟨["st", "sterm"],
    ["X11T1fg11p43q51h13s71z111132b92at12sO142bO1c62i6151w92YB4k5222T2y52X22yT293al31D1M2j",
     "D1ydT1k82Z7131_B2s22.21u42p43m42v71gpK2f51T1X21qt22zd15i14z52r34.33X4261G2u2212i31XD",
     "2rB25Ff32v73bG111x72t22aD2qL2g22fvI2b41X22B1pQ1cmJ1el71"]⟩,
  ⟨["se", "sep"],
    ["b41Yz72"]⟩,
  ⟨["sp"],
    ["9112J1.31.k51.h2Ba11l11Wz31"]⟩,
  ⟨["up", "upper"],
    ["X2Qb3N17X111111111111111111111111111111111111111111111111111111112111111111111111211",
     "111111111111111111111111111111111111111111112111132111213241213321211111211211213111",
     "231721212111111111111111121111111111111111122111311111111111111111111111111111111111",
     "111111111111111111111117212211411111111X91113181611311121H19Z11233111111111111111111",
     "111115121122p1m111111111111111111111111111111111191111111111111111111111111111111111",
     "111111111111111111112111111111111211111111111111111111111111111111111111111111111111",
     "1111111111111111111111111111111111111111111112c1fw2c11151oMs2gm211111111111111111111",
     "111111111111111111111111111111111111111111111111111111111111111111111111111111111111",
     "111111111111111111111111111111111111111111111911111111111111111111111111111111111111",
     "111111111111111111111111111111111111111111111111111111111119886A88886B111111188O8888",
     "885B5B4C5B5b8141332321356111111424A251QGJ1oPQmv1m1m111321111114112183111111111111111",
     "111111111111111111111111111111111111111111111111111111111111111111111111111111111118",
     "11141jgU111111111111111111111111111111111111111111111J111111111111111111111111111d41",
     "11111111111131111111111111111111111111111111111111111111111111111111111111A111121111",
     "111141112111311111111111111111111515111111111111111411615111S1hvLQbc1e1e4a1y4B1F1712",
     "gt1p1j.2W1WiLW1WjPQQQQQQ11221222418QQQ2142817R214151137RQQQQQQQQQQQUPX1PX1PX1PX1PX11",
     "rf4Y1kW2Q6Q6Q"]⟩]

end Unicode
end CompileOnLoad
