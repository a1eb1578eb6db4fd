import CompileOnLoad.Unicode.Table

/-!
# Ages

The version of the standard that first assigned each character.
-/

namespace CompileOnLoad
namespace Unicode

def ages : List Table := [
  ⟨["1.1", "v11"],
    ["0sF4Uu1v27l11AMc2Q2I2413157111K1i117311111111IDC1Y21C1f19r122223S2822t1c1271d111c1A1",
     "9CR55N1E1311Q5JDE2e2251F1U2AdG31r12I253PG318222M171134211722239142152L7126422M171212",
     "1221154223B4117FC31711131M1712152A131321F15AH318222M1712242832238242134BH21633143211",
     "123233381345331491FCE318131N1A1547131472924AI218131N1A154713147271124AI218131N1G4623",
     "1491824An4w14Tb12112211216417131111221D132511162A22YEc1Ad1414w25a25o2cW3x45w26M262c1",
     "26281111111V2r11F1E261J23191l11NZ173RHBb1IUv1Qm1Dx2Lo7E11v3b4b1RBLh4Ls4Am2GK6s2n4414",
     "2S1Z11114311727EV3O1EXY2u1711q2462_26e14_21GW3T3a1SS3o1FC4l11t34Z32VXm6cjKwYGkn6o67C",
     "56P151112121i3X1jBGW22s1e1Ca14CL4A1J1443111d4211_22_2362626233717E3"]⟩,
  ⟨["2.0", "v20"],
    ["ni1H1DK1xf2e21X17R46111L3711Xt31lG1qwY1azAwYg22_..12_..12_..12_..12_..12_..12_..12_.",
     ".12_..12_..12_..12_..12_..1YWW4"]⟩,
  ⟨["2.1", "v21"],
    ["ib81lwt11"]⟩,
  ⟨["3.0", "v30"],
    ["sF4U82Ir35n11A5t29J1q3131111111U1C1Y21C1g1224y22y41e63Y3251F1g151E1U3Rr1n1nk121I3O19",
     "112731461118I3rB1h11N371131F21m1Y1151217346QcD71.111142711142d111142V111427111427171",
     "N1V1114271d11J6SZ1r2CsJ9T3n2l4z23AMF1A6u28g1by11O6.23o12r22e21d39j81v311Ug42fE8X11s2",
     "2kCW8Wi1Q1v2Cs6QCy1331XBOeIsj6goKja13I2G1C1311soL1xc13"]⟩,
  ⟨["3.1", "v31"],
    ["qV2wk_1W1me1V14CRr5c12c1ozo1s7Ad13q5YHr21d2122122241C1114121X21428171S141511371oA4Y9",
     "4o1WWAtsf1ffK_GZlXM1UW3"]⟩,
  ⟨["3.2", "v32"],
    ["WH1k91JDe32S1p42v122222n1G_A2XA1bg22dm1D17BN9KCD1312pc21654175D1_12o17o2Fe5Co7Ey31Uq",
     "1y8Kt4Au28M2w2C2A_6Ew2S4GW8WGxf13t2282_21m7Gn2Fn2FYlS2G1C131ghLx1nS13Gr12i11h72"]⟩,
  ⟨["4.0", "v40"],
    ["XH1I3t32.1Hm2853t45aG499W23r42F1j13T3qD1u51Z2111e41q23D1Z21x11X48X62.u21IAc8T3C4C413",
     "g125h3W1WOi3dN2c71pK2k91q82q38E2_Y1Elu12n11h12k24d54Z32V1Wk6W2z.h11f22tDC1Q1J121F2EY",
     "1x3534j139WIU11c42c1m22AsQ6211i1123121Wso1t2gB1_XhOm7"]⟩,
  ⟨["4.1", "v41"],
    ["tHBs85.44s72g51Y13Z21I1w16n7UlG1m21dF1l11fV2d9211g81.11.11d11V1V1V1F1d11N2VQcl1g16Q6",
     "A42W1S22iQu2nK217n15T4r11m21F1aKByH1b32IB5Gk87dQ6i7l11l1X1h3Ej1As191GN97171717171717",
     "17X1O42YTGk51dfRMaw1Nf7i1aoKg3sPAcPh2rGa14Egn141258131R434989dzn1c2_Y12"]⟩,
  ⟨["5.0", "v50"],
    ["YIEh93nA1g16G4c51bGx1WC212YR2D2jm3i24j1dI7p12iN4z22r11tICgM1q84fQ754y9D74.qU452_8u1e",
     "aOQ51Wt5lRn4Z3D4ith1IuY12"]⟩,
  ⟨["5.1", "v51"],
    ["mR422t21t51i4GY75B5W15k9InF2_61Z11k61T2i31i31Q282K8z5161T2C637hF2X3133j2151217346QW2",
     "42gW21rMh13Cc2u13F3p1hASr54w26aB1h41_21r14qe11LA34e81V4hP54f135u831346YBW1O42JyN1Y5K",
     "ukR8yf1i9KW12I8SZ452h3k35W4b29Cc1q2B1W5t19E2A24a_K3fRCq1k1Y4T3n1lo1Q51f.n11ss7i14a3"]⟩,
  ⟨["5.2", "v52"],
    ["af12wMk12FX61j2161Z12W41vk14X64y55a25o26WG1sJ9mHc2q52k11b2.11T2B6A6EYHZ1g81uL3t43s11",
     "_I1rL2T34A1J114Ot21zV5s81D2h37.91oW1CqhR8ae1m1WDu2u9Ac5Sa3T3k21B42W4S4Z2O5W7k12AszAN",
     "4n1lp83ok3M19w52aAW1W4s13T2R58W4f2tGVXGY2_v7lX1ncl1B5V21B1112131358171P11221A421l31F",
     "Y1E9tbj1rX4"]⟩,
  ⟨["6.0", "v60"],
    ["cf12u71_11WFS21x62J162R5wF6nD1G1J1zH4f22YS2XZ2q184yF1uK8S1lPBwM1J114T142S1Z11114392q",
     "13O1E1E2Wj11E1uX13bbT2h9212EAm21cO626269717ZaKG_X5k24UmyLvHdkH2_aGF2E2F1Fm211B111213",
     "1358171A6911221A421Ah2Q12l19L2k5X1F61c23KCb115LHF.1111s5143_1IOp451G1311111113162411",
     "241C4Bm1c2w1q3i_l1_6"]⟩,
  ⟨["6.1", "v61"],
    ["li11q31xK11Bt1RnF1jV2dF151l13hr23C6W88h14qs2111af12p1151u12g6AmiS1dr18Z11o72M1j22cNN",
     "tvJ2mw3u162mu1P7A6r11Ey1f27Acb1u18AsXMb2Bl1GHWpV41R1211211A1411116141111113121121111",
     "11111121124171414111A1H53151Hq12uJ2qU4y51G1311111113162411241"]⟩,
  ⟨["6.2", "v62"],
    ["wb81"]⟩,
  ⟨["6.3", "v63"],
    ["ym11fo64"]⟩,
  ⟨["7.0", "v70"],
    [".R1eD8z22s31xK1B6i21u3171.J1p11i21.31a7AXe28aH2nCFvH2j7FbM3sP7bO1iY13AQ2W12Y13C18gJ7",
     "rYU6s7CB322b21eFVz34m5m142XsK7zQ2J1.9SZ11m1h1bCe18q1B1m4t99MA8u7.189mEW1W1d14Cf4I74C",
     "7lc11m6d1s21C16KBI1h1o3x15A7318222M17121529222391572735h8e28Ac5s12Is1b2BAcIp2C1WEv1s",
     "Z2g1g6C51hkHV1A42W3U26Ac2AA171L5JmZKh35D397A28ywAb62Ge.11W1ML2qGC91c21MCb11545CH7d21",
     "11s5142.1247TI1f11s2c22Dm1c2AGD34i4r2h1C4u18A6e18U"]⟩,
  ⟨["8.0", "v80"],
    ["pb22k11rG1WB1a81rq1126Wc31h62Wp24z_S9es11m71Y16aA2YJ4Cm2kpK2mr2J1255y522G2k1WKp1Dp17",
     "6fc14E5W5711141F1Bs21l21vJKY9Q3F4GvY31c7a6yr7dItyY1Btm1iKF51FzZ63k22l25a18.71h25p72h",
     "41.H9d35x11.ol1Yq5"]⟩,
  ⟨["9.0", "v90"],
    ["sb28MFzS1k614317N3du39oB1.l14ao22fhU1s81dcM2XPa14a1Yg31XEw21111YGDpi191j11EAT3W12M1E",
     "fvK1Vj.5JpNjeL71H271215rc2h25A42xX2Ik41_P1f11i92X13YH618812C1C4Fc1D"]⟩,
  ⟨["10.0", "v100"],
    ["WZ2BnC2y76WG1w12wz31_74bM1.P1o_11oJ5aN1drRLYwO3ms5e28q12N15zI7121i13112198AdqK1WXGz8",
     "n2iCaxF6jZ12Y12dGCJ18812P1IDc16u1Nfcr1nf7"]⟩,
  ⟨["11.0", "v110"],
    ["Wh11d11c31jG3p61g91t31jC1.31p.21tW1h123wt33MP4FhI5WN1xrR5.z1182aA2qfO2I1tLe18AcEe18g",
     "1pB1s33qF1Y91xL1b7y1XJ1YM6121b112167As9PdwJx2og65ktIK_37ud6a2wZ11fk11x64qB3S5243114O",
     "BDA72a1PW3E"]⟩,
  ⟨["12.0", "v120"],
    ["tZ31kG121211641717221D1.n31ks31r11lI1ghU625.S2uZPNeZ11uI1dN82k12B.42wf1o1D1mX59iuE64",
     "1l19w22kW66ugA3H4uyBj13E2A42mBw151ho11rTz1kX11eh11a11b7CX93l11n1191f1632A63823m1q2S4",
     "4353D6"]⟩,
  ⟨["12.1", "v121"],
    [".tC1"]⟩,
  ⟨["13.0", "v130"],
    ["_b2AjK1kD1y31zf32sc41uL3eR5s.6AmnKDg_14g12r11xP4mnL1Zd3g11322_7SxB1c42gK152_a1721281",
     "21U122C9Aso11pXK1B2Xu6ZFg19aWP3z23z11ef12Z12pD2w21b3142g1263T1e51E4FJ7793D7f1p41t1b1",
     "Azsg17YfMhw4"]⟩,
  ⟨["14.0", "v140"],
    ["zm11oIV1268L1IBfR1W11.31ln217191l71nLEz31m12xJ1bM1kx21l11pFB.iS3W_12E21115O3j_K1zBG.",
     "31k12mx1B1F17121B1F1712ZE61g119rz1Qc76i21sl11c47fRGmc5Z3zpEl21AcfH41712W94zk7k12N9q3",
     "bH2re3VnRVnf1714121F_s33m81eC1o21k52i14A483H36887d.g12rY44"]⟩,
  ⟨["15.0", "v150"],
    ["pd31wE1kXW23.P3_b2AsVH1f13Src519TycV1Y11gh8KnY36b8_1X11WY1g1Yl41t4345v21xK3F2a13B311",
     "E2A2C1E2WYl11sWNWZ4"]⟩]

end Unicode
end CompileOnLoad
