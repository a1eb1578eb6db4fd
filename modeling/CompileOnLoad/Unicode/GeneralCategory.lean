import CompileOnLoad.Unicode.Table

/-!
# General categories

The general category of each assigned character, and of the numbers that are not assigned.
The groups of categories are unions of these.
-/

namespace CompileOnLoad
namespace Unicode

def generalCategories : List Table := [
  ⟨["cc", "cntrl", "control"],
    ["0W1.2X1"]⟩,
  ⟨["cf", "format"],
    ["j51og16M1W61n11WC2m21hv31y.15Q5n151Alqt11v73Xc41F1Yx8GWZY14lc58cqhO1UW3"]⟩,
  ⟨["cn", "unassigned"],
    ["uR2647111K1jC1c12o1231t18R46Bk81y12b3Ex12n12F1S211B5V126i718222M1711342922248142152P",
     "2316422M17121212211542233174117HA319131M1712152A131321F42C771318222M1712152922237342",
     "152IA216331432111232333C4533142161EL5D131N1G291314721321242A7M131N1A152913147262142A",
     "13CD131p113164G2Q131I3O191127314611186A23Cw14Tb1211151O111N2511171A24W1e21a14d11a11F",
     "1Db1c611512vB142711142f1142X1142711142F1v1142Z22W13Q6s2262zK3v27M9O9KCD1312C_22A6A6Q",
     "6v27h15c2AV1C4C413g125Bi14Q6B3_12X21T2B6A6E2Vn1j23l11q38y13F3y17h12B8h15sG262c126281",
     "111111V2r11F1E261J23191b31C2R1D3X1FX1Fi44tKPBLqu12W11zA5j111512u172EO971717171717171",
     "71_3Y1Q1v2Cs6QC4W21s22d35h11_21q2Cl11jpS3t19yAKu58h6521115Ox13A6u18c28C6q3BU3k21B4X1",
     "1t19E2A2d3OSA6262697171y14_32A6azACN4n14kp82g3c17C55Q151112121z3GzD2s171W1g16p11J144",
     "51d4211_5362626233717A52C1Q1J121F2EY1x3534j13u21D31l1k1Y4T3n1FS4a19U5h15U1b14Eg1_42A",
     "6a14a14e18q1BC1F17121B1F1712Z2t99MA8O61g119b26211i112312N1e289m1J125X13R51W2u14K2o11",
     "258131T234A797W2W1d14C9s13T2R5Q74C7m2f2t1p1Dp17k18Ac9V1g11322h2h18g1MQc1SKN9k24a19a2",
     "A12P7A6r11I8d19W31KBI1l1_1711141F1B6x15A6418222M1712151A22232161572735h4y215Ue28Ac5s",
     "12c1Y1b2BA6DJw16As1R2F4Nv5y1a3p2C82128121U122C9Ac282k12BRe28p2Df27As791j11EAT3W12M1E",
     "f27121i13112198A66121b112167As9P7H1f13Ss21Fo1DxSc3l315Ba6io2Z3DsY1gz3dIvj8vH7V1A4n21",
     "A6U26Ac2AA171L5JmLx2b3h24v17HW25B2Eu.58sc1g19dt8417121Z9F1T321E48iCae2h35D397A28yo4k",
     "12N9q3y1s7Ad12Y6Lc2w3KCKCt29Pd4r21d2122122241C11171X21428171S141511371qA2a92_LF51FmY",
     "1V66r671H2712155_1X11m3j13E2A42WAVHw151mEg1cN714121F1b62Gf1i24A42nOa2i2z1Y641R121121",
     "1A141111614111111312112111111111121124171414111A1H53151Hq12k8i14a3CF2F1F1b1Ak5u1TDi1",
     "4972E6w4uU4H3D3t34.26C41FC4u18A6e18U22k2qACE2D397k1178E49797p41t1b1AcW1Wtf1W1wX46_62",
     "Yq5Enf7.W3_GYl1hw45WZ4nYtL1UW3W4m7mm.1_..12_..12"]⟩,
  ⟨["co", "privateuse"],
    ["WWu1We6WuXS_..12_..1"]⟩,
  ⟨["cs", "surrogate"],
    [""]⟩,
  ⟨["ll", "lowercaseletter"],
    ["X3Qw11f1O181111111111111111111111111111111111111111111111111111111211111111111111121",
     "111111111111111111111111111111111111111111111211113211121324121332121111121121121311",
     "122236121211111111111111112111111111111111112211131111111111111111111111111111111111",
     "1111111111111111111111117212211411111111b21RX61113133I1RZ112331111111111111111111111",
     "15112122p1m1111111111111111111111111111111111191111111111111111111111111111111111111",
     "111111111111111121111111111112111111111111111111111111111111111111111111111111111111",
     "111111111111111111111111111111111111111111m1f1dw2h123uN6Ya29t3i1.1D1Y1c3111111111111",
     "111111111111111111111111111111111111111111111111111111111111111111111111111111111111",
     "111111111111111111111111111111111111111111111111111191111111111111111111111111111111",
     "111111111111111111111111111111111111111111111111111111111111111111986A88886A8888E288",
     "8888512613312842288A312o813231R14141228441r11hr2m11132111111411216511111111111111111",
     "111111111111111111111111111111111111111111111111111111111111111111111111111111111271",
     "1141Cc11151peU111111111111111111111111111111111111111111111J111111111111111111111111",
     "111d41111111111113111111111111111111111111111111111111111111111111111111111111111811",
     "112111111111411121131111111111111111111151511111111111111141116111111111S131rPh1597m",
     "2WwJ7C5fX1Qjc1e1e4a1x4B1F1712Zu1p1j_2W1WiLW1wiPQQ71IQQQ411171BQQQQQQQQQQQQQQQQQSSP16",
     "QP16QP16QP16QP1611qv1A1K66tl2Y1"]⟩,
  ⟨["lm", "modifierletter"],
    ["mLI4CE57111b4151_E1c71a52j8241V19131W51d51qc11.31rH1ws11h31ZJ1mE6k5.1D1Y1b1nL1D1GD._",
     "22n71.51rE1h1551X32z23suR1Yd16k81o31S2v39m21N1f3332rE1M1f41i31L2d3491cWL1j12W.161g11",
     "9byO4lY1DW2211iWG41712nXC_1f67jT1.Y11"]⟩,
  ⟨["lo", "otherletter"],
    ["g51F1W8144m61xPR44j1W11AZ121Z311O2A321G11UTv2B1OX1LMg1P7B5O16Hf1x1s131I17AGF48222M17",
     "113431G1D213E2A186422M17121212V411J3G9131M17121531I1F2N1B8222M17121531U213F1H1163314",
     "32111232333CM1q18131N1G31Q32122U148131N1A1531V212F2H9131f121G15383O65I3O191127w1m112",
     "C6x1211151O111A129125N4W11.181a1R5p3h1K1G6443132734DC1n3fA142711142f1142X1142711142F",
     "1v1142Z2b1Gn3iJ2H1Q5h2687IDJEIED13Fq1e11Z2Z11r1752Y1115c2AVn1U25Bi14Qs1N9r1m5l1H8s1U",
     "D2Ai1Qa1f13AUn34161231wX14t.2u1ON9717171717171717dH1r114s2811w2415h11_2HW1m1GWGWk6W2",
     "rmK1tZ1Z2e18i84GA2Y21n1c2f51d313713141NTq1Eo1_163112BSANPT7l1j1529A51f1N318KG16313o1",
     "1132252111O23B71E626269717n4Z1TazACN4n1ae8kB2g3Z211A1D151112121i3X1hBIW22s1e1Cq351d4",
     "f3A1j12V36262623Z1C1Q1J121F2EY1x3bCT3n1l1W1DK186c1AU2a148W4k2Y3e18q1y4t99MA8u46211i1",
     "12312NAN9VX2J12AMAQc2u162W21F4131Tg1T3TZ181SRs1AMAJDIk3f2t5a1yAg162k2TA18Mg1Ik1LRNCr",
     "1v1221Dj1W1PQa1T1218Z131Cm1E4L111Z1I1PJ2.1711141F1A7l1c18222M17121531I1C5_4r1I4K3Um1",
     "K211u5l1f14a1m1K1x1h1D1d2Rb17v5i1p682128121OF111_282d1G111S1Ae171L1Bk1J1If2d891b1H1n",
     "1Um37121c1L1P6121W1E1dAJF11D1Y1y31l2wSc7a6io2X3FmX1H6vz3dIvj8vH7VHl2HUIm1p1L5JmRh251",
     "l5u.58sc1g19tt8Z9F1T321E48iCae2h35D397Amp81rFj1X11XAUIi1aFRrN714121F1b6xf141R1211211",
     "A141111614111111312112111111111121124171414111A1H53151Hag4Wtf1W1wX46_62Yq5Enf7.W3_GY",
     "l1hw45WZ4"]⟩,
  ⟨["lt", "titlecaseletter"],
    ["bE12121c11ri788888C1F1l11"]⟩,
  ⟨["lu", "uppercaseletter"],
    ["X2Qb3N17X111111111111111111111111111111111111111111111111111111112111111111111111211",
     "111111111111111111111111111111111111111111112111132111213241213321211111211211213111",
     "231712121211111111111111121111111111111111121211311111111111111111111111111111111111",
     "111111111111111111111117212211411111111X91113181611311121H19Z11233111111111111111111",
     "111115121122p1m111111111111111111111111111111111191111111111111111111111111111111111",
     "111111111111111111112111111111111211111111111111111111111111111111111111111111111111",
     "1111111111111111111111111111111111111111111112c1fw2c11151oMs2wa2h123WA11111111111111",
     "111111111111111111111111111111111111111111111111111111111111111111111111111111111111",
     "111111111111111111111111111111111111111111111111111911111111111111111111111111111111",
     "111111111111111111111111111111111111111111111111111111111111111119886A88886B11111118",
     "8e24C4C4C5B4c8141332321356111111424A251z11yp2m1m111321111114112183111111111111111111",
     "111111111111111111111111111111111111111111111111111111111111111111111111111111118111",
     "41jgU111111111111111111111111111111111111111111111J111111111111111111111111111d41111",
     "11111111131111111111111111111111111111111111111111111111111111111111111A111121111111",
     "141112111311111111111111111111515111111111111111411615111S1hvLQbc1e1e4a1y4B1F1712gt1",
     "p1j.2W1WiLW1WjPQQQQQQ11221222418QQQ2142817R214151137RQQQQQQQQQQQUPX1PX1PX1PX1PX11rf4",
     "Y1"]⟩,
  ⟨["mc", "spacingmark"],
    ["Ze21t11238412o12w136222A1h11w13Y21w138112r12w11116222A1c32123313A1f13z14z12w11152212",
     "92S1E2w135313A1g12h2368I2gA2.11h52416122P2A327L22621A3up11U1X417812wA4234216W72w1111",
     "911286n41m11511512z11U14221y11231132m1882h51L1sv42p.T221u22o1Gk42l11m124223k3222O1j1",
     "111j312251j72121211pWP111.31j1342p31O2x11m1392D1z233211g53V2w1214222391A2n638231g336",
     "11421j736421n338211j311261f3241b8391t7612412111k438441q21T2_11tC1E1g317121r654211_A2",
     "C1m128211lWKt1e32phO266"]⟩,
  ⟨["me", "enclosingmark"],
    ["ea12qn51_m1413hiX13"]⟩,
  ⟨["mn", "nonspacingmark"],
    ["WOm3p85f8j111121211e2Bm1LG1b37262214Z11URx2Bw1991O4191315h13y18g1O1W1t1111484137A2T1",
     "w114481K2Q122v1142422331U231B2v11451241K2M611w1121148172B2U1z11C1o1131t1113531472B2T",
     "1w11216152K2S2v124481K2T1e217311w2127C8Y3129B7f22R11111t1E15125B1a191c34161222P243G4",
     "D12261F1.L3oT3T2U2U2W2217812B91j1311r32Y11s33429163x6221w11171111286A21m1E1Gn14m1115",
     "1151e19C2W142213u11123113w1822u431D17416132c6W2mMD413C_.23j41W3W1gH4h32qkT14AW12m22m",
     "813141P251t42QID1c18PBk13m112422d11Z262222C181l11p1113225211g1281k712141mvJ1XNGGGjU1",
     "Y71r45cq131254e1341b52zH4ZC2m23c2Bn14x31s1Ff1122A3n142271z13a1518_11C2q19A421.232112",
     "6121z4138L2v1231b1735Z682311N1q26114212k746212R2r282112g31112611b332415Z8912W821141m",
     "442241W1Ae1624819623k1D12sC71611o2M271212w3631121711e223111xA2B2q155111zd516FwqD5x17",
     "uW11.14n21ubJ2Xp4k12NWH3H827U4q43xz1t14o181E1M51Fmg171H271215a31W57tB1z14yF4WV7j37rz",
     "bOm7"]⟩,
  ⟨["nd", "digit", "decimalnumber"],
    ["m1Acn1Ac4Ac6AyCAs3As3As3As3As3As3As3As3As3AW3As3Ac2As8Ac2Acw1Ac1Ai9AW4Ac5A6As5As2Ac4",
     "A6AckY1AcLAc1Ac6AMAs2AsCAsuKAci1Aca2AiPAW4Ay1Am4As8AsAAs3AsBAc3Ac3AcDAc3AsNAs7Ac2AcD",
     "AcuIAs2Ac4AqZRo1Wg2AcDAsFAsY1Asq4A"]⟩,
  ⟨["nl", "letternumber"],
    ["kt53lp2Z124_p31P9E3hrTAmoMr1iE181c45gX8l3"]⟩,
  ⟨["no", "othernumber"],
    ["o525123rf26uB6u33b47v67H9nDArX1KpZ1AWF1rq11366Ac6Gf11sMy1k2MsJUfh11qa14g4AU81FW1Ad1F",
     "mhT6ncMj1X24H2rARa14qf18P7d19h25M6W522G2k1W29q12U3h25e38O8f17gA6WBV_4Ag14m37c4KxBKbg",
     "12kD9dRJpQLcyI7_ONfXPKCKi3Pkg59XTx11314i2j11FYUD"]⟩,
  ⟨["pc", "connectorpunctuation"],
    [".21._72J1_kt12O3l71"]⟩,
  ⟨["pd", "dashpunctuation"],
    ["j11yg11p11Xo31bW11fW26Xm3121V241S1_D1J1l31mip12b11A1f51.y31"]⟩,
  ⟨["pe", "closepunctuation"],
    ["f11p11V1zr3111_w11fj21t11F1wJ111U1_X11111111111111m21W1111111111qC111111111111111111",
     "111W2111X11bX11111111i11111111iD1111111113111111122_ep11v61T11111111111111131H11111g",
     "51p11V12121"]⟩,
  ⟨["pf", "finalpunctuation"],
    ["x51zw7131S1ek31114121F131"]⟩,
  ⟨["pi", "initialpunctuation"],
    ["h51ix712221P1ek31114121F131"]⟩,
  ⟨["po", "otherpunctuation"],
    ["X1313211112A232R1a2151E271_L181oE6f11s112121i12K212D113g24c31h1Ef73s1FV1b82A1i41u31v",
     "31cC1C1lB1w21A2e5F11m31g2542l36h51aJ9bO1y33d22z4313b1614v92u62W4716i57S2z34x15_12W28",
     "B1YQ2888924233B111Awa3412m31l42432129121122A51A24111D23iD3v11z51YWT2j83Z31A1p36yB4s2",
     "2e1311n12l11X3DG2y34_32G2v71anK721M1K2243314736112r4313211112A232R1a1122wC3yK1m11_C1",
     "dN1d61V1m89c11m37Y27v24uT5i14z57j3214_34m12l2441D113u26h31XD5A211e31w7Nf33SDi21Y43y7",
     "1e83x41y28p2315z2At95g12bK2g2Dl51mZ15yx22xpE2b41X2581oQ4dA1ybJ1dl75os32"]⟩,
  ⟨["ps", "openpunctuation"],
    ["e11o11V1_r3111_w11_h2131c11t11F1wJ111U1_X11111111111111m21W1111111111qC1111111111111",
     "11111111W2111X11bX11111111P1I1111111iD1111111113111111121Xfp11t61T11111111111111131H",
     "11111g51o11V13121"]⟩,
  ⟨["sc", "currencysymbol"],
    ["a11z34fd11x31oF2oF271r71d81bI1xi21ac2X1txX11ZkL1i31w41x6232s.74_um11mj21"]⟩,
  ⟨["sk", "modifiersymbol"],
    ["_2111d21614131fG4CE57111Hr31E2Ye11qv5113B3D3D3D2ya42ZpTN92d32mU1E2cYKHxR111Y51tWz15"]⟩,
  ⟨["sm", "mathsymbol"],
    ["h11G3z1111j1141b11V1_N1lG3xn61D1d13D3h41d1561a255241212171V22111Vi8W12w21UPe16rE191s",
     "18l31mA52VAGW8Z4M.14W12Y8m1L26y_p11uP113a51G3z1111Z4164qsr11P1V1P1V1P1V1P1V1P1iv52"]⟩,
  ⟨["so", "othersymbol"],
    ["c51214111nU1g82.32k61A1J2t71ZG1rB1Y4611a41l61f11dC3F11326K11111b48161254b62mNApM1oM1",
     "z4Y1XBA99Zi121412A1126611111141B2E11211w1295241212171V22111Vi884K272n21UPe16b2PBn2k2",
     "Mt5191s18l31u7i1i1W2W8WGm1L26d12W11f3b76bB2k1Q1v2Cs6QC81D2C1L262mA24AW1a1SVBU81FW1Ad",
     "1FWAWk6W2mqLt1XR4A211zH3csKG.31j13aF13142D2v99v1H231D31l1j1wp12lI1sZ31ra284HgwI451sg",
     "K1pr4q3y1s7Ad12y153M27U4z1LY231w5t2fb1WGt14o181E12es11yw21X41nMi14a3CF2F1F1b1NX5u1TD",
     "i14972E6w4x75uM4H3D3t34.26C41FC4u18A6e18U22k2qACE2D397k1178E49797p41t1"]⟩,
  ⟨["zl", "lineseparator"],
    ["eX81"]⟩,
  ⟨["zp", "paragraphseparator"],
    ["fX81"]⟩,
  ⟨["zs", "spaceseparator"],
    ["W11.31.k51.h2Ba11l11Wz31"]⟩]

end Unicode
end CompileOnLoad
