import RoutePlan.Text.CharSet
import RoutePlan.Text.Runs

/-! # Age

The version of Unicode that added a character. A version stands for all characters that it knows,
so the age is kept as the place of the version among all versions.
-/

namespace RoutePlan.Text.Age

/-- The versions that added characters, in order. -/
def versions : List String :=
  ["1.1", "2.0", "2.1", "3.0", "3.1", "3.2", "4.0", "4.1", "5.0", "5.1", "5.2", "6.0", "6.1",
    "6.2", "6.3", "7.0", "8.0", "9.0", "10.0", "11.0", "12.0", "12.1", "13.0", "14.0", "15.0",
    "15.1", "16.0"]

def runs : String := String.join [
  "a502d4a30d8fgd18g3h11i14a89d5g2a47da10d5g17a70d9fg8h5g3a2df13j4a2j2B2ai3apB4a7BaBa20Ba44ja7d",
  "f2adadadada18e2fg5h4da12da66da12da41jd2f2d4a53f2a2f2a2f2ia28d2a8h2a2i6f16i4j16k2l2p8Ba38B2a7",
  "ta39tadB2p2mBb17hb13a10ia9bh3B8a27B4ta5B11g4mpj5hag9j5aoxhala26j5a19d3g3h6la14f2a72d2a5da15d",
  "a30g2a10d5gd14Bd30g3d27B2g3h30j18d49fB14i59B2t3k46B2k15Bl28B2lBs11B5x31Bx2B5Ax8mpm11p6q2xr8w",
  "10x11tr15qm27pka3ga53l2a18kla5kl2a25j2l5pk2i2hi2pa3Ba8B2a2B2a22Ba7BaB3a4B2aga7B2a2B2a3hB8aB4",
  "a2Ba5B2a21ks2tB2gagBa6B4a2B2a22Ba7Ba2Ba2Ba2B2aBa5B4a2B2a3B3jB7a4BaB7a15jtB10a3Ba7gaBa3Ba22Ba",
  "7Ba2Ba5B2a10Ba3Ba3B2aB15ag3B2a10mgB7qs6Ba3Ba8B2a2B2a22Ba7Ba2Bga4B2a8jB2a2B2a3B7wa2B4a2Ba3j2B",
  "2a11gl6B10a2Ba6B3a3Ba4B3a2BaBa2B3a2B3a3B3a8ha3B4a5B3a3Ba4B2jB6aB14ha12g8B5pa3ta8Ba3Ba23Ba10p",
  "a5B2xja7Ba3Ba4B7a2Bj2qB2xB2a2j2B2a10B7uj8rpa2ta8Ba3Ba23Ba10Ba5B2g2a7Ba3Ba4B7a2B6xaBa2i2B2a10",
  "Bi2yB12spa2wa8Ba3Ba23la16ls2ja6jBa3Ba4lrB4r3ar7qa2j2B2a10j6r3j7Bwd2Bd18B3d24Bd9BdB2d7B3dB4d6",
  "BdBd8B6p10B2d3B12a58B4a29B37a2BaBua2uaBuau6a4ua7ua3BaBau2a2ua13ua3B2a5BaBa6yBa10B2a2m2B32b72",
  "Bb33dj2B4b27l4b6dbBb21d3b7dbd3Bd15Bjdh2j3k4l2B37d34jd5jd2jd7j3d4j6d26j64k4j2a38BmB5mB2a39f2h",
  "2ahm3a90k5a68k5a82k6d7hd63hdBd4B2d7BdBd4B2d39hdBd4B2d31hdBd4B2d7BdBd4B2d7hd7Bd23hd31hdBd4B2d",
  "7hd39hd19B2l2h2d28B3h26B6d85qB2q6B2kd630k9d29B3d81p8B7f13xf7xB9xf23B9f20B12f13Bf3Bf2B12d93gB",
  "2d10B6g10B6d15xd10B6d88tB7d42jB5k70B10g29p2Bg12B4g12B4gB3g42B2g5B11h42k2B4h26B6h10kB3h2g32h2",
  "8B2h2k63Bk29B2k11B6k10B6k14B2p15w2x14B49i76xBA2i45x2Aj43m3j12m6l52B8l4j56B3j15B3j51r9A2B5t43",
  "B2t3m8B8k35m4sp2uB5g108h88i7j28p15s4xrlki2a155bj4a90j6a22B2a6B2a38B2a6B2a8BaBaBaBa31B2a53Ba1",
  "5Ba14B2a6Ba19B2a3Ba9Ba47da23fd6f5g2h2fh7f5jBo4a7fB2a27Bh5l8B3a11bcd3f2h4k3lnp3qsxB15a18d2f7h",
  "i4jB15a57d2ghf15hi2jk3a48dij4kq2B4a91d9f12a242f14ada121dfd30f52g2h11i12kl11p7r4sa37d2A3B22a1",
  "1B21a139f20ga150f10a80d8f8a20g2f2hda86d2f12h2f10g8h11jk2g2h16ij10k3j4k10lk19lkl4k24pa4la4l2a",
  "28la35lala4l3aka7l2a7f14a31l3a24la14lh7i4mjml2f28j4f16d256f512g14h6i7j5i4j41p3j5k5p26B2p32Bw",
  "p34t3p12up8st25q4t15uh47xh47xi13j3kj3i4j6k2h107k7m2B5h45BmB5mB2h54m2B7hlB14lh23B9h7Bh7Bh7Bh7",
  "Bh7Bh7Bh7Bh7Bj32h24j4h2j19km10p7r2s5t5uw3x11B34d26Bd89B12d214B26d12z4a56d3f3daBa84f2B2a6f2a9",
  "4fB5a40jstBa94Ba16d24l3w5h16j20A2B9zf16a29g2Ba36k12gf15a28g2ha50f15a12g4a47va119g4a99g2a31gd",
  "6582w10g64a20902h22j8k8mq9s21t5w13x3d1165B3d18f2d16fd12fd3fdB9k48j300B20j32l2j18m8j28p6qmk88",
  "B8h23i4j5i2j107l2ql2m2p12l10mp3rtp2q6t2u6x2u5w4A3B2x2BxBx5A3B21x3w2pm2lj5h44wB3k10B6i56B8j69",
  "rB8j12B6k28q2t2j84B11jk29B3k78Bk11B4k2p31Bj55B9j14B2j10B2j4k28p4k67B24k5m23B10l6B2l6B2l6B9l7",
  "Bl7Bp48q4p2u2w4B4q80k46B2k10B6b11172B12k23B4k49B4b2048a6702m2f59k3B2h106B38a7B12a5B5da25Ba5B",
  "aBa2Ba2Ba108l16xB16a365x16a64B2a54B7xe32a12fgx2f16h10B6a4j3p7q2a21f2g2a10Ba19Ba4B4a3faBa135B",
  "2aBa94f2a94B3a6B2a6B2a6B2a3B3a7Ba7B10d3ca3g12Bg26Bg19Bg2Bg15B2g14B34g123B5g3B4g45B3g9h75p2r2",
  "Bj12wB3pB47j46B130j29B3j49B15p28B4e31pe4B9s3e27B5p43B5g30Bgh36B4h14B42e38g2e38g80B2g10B6r36B",
  "4r36B4p40B8p52B11px11Bx15Bx7Bx2Bx11Bx15Bx7Bx2B3A52B12p311B9p22B10p8B24x6Bx42Bx9B69g6B2gBg44B",
  "g2B3gB2gk22Bk9p63B8p9B48q19Bq2B5q5i26k2B3ij26B5jB64m56B4q2m2q16B2q46h4Bh2B5h8Bh3Bh27t2B2h3B4",
  "h9tB7h9B7k32p32B32p39B4p12B9k54B3k29B2k27B5k8p18B7p4B12p7B80k73B55q51B13q51B7q6t40B8t10B6A38",
  "B3A29B8A2B208k31Bw42Bw3B2w2B16A3B55Ay3t40B8t42B22x26B38w28B20u23B9l78B4l30x6B9pk66xB10tB2m25",
  "B7m10B6m53Bm14t3wB8p39B9m73q4pw2m10pq5Bp20B11p18Bp43ry3B62q7BqBq4Bq15Bq11B6p59B5p10B6qp3Bp8B",
  "2p2B2p22Bp7Bp2Bp5Btp9B2p2B2p3B2qB6pB5p7B2p7B3p5B11A10BAB2ABA38BA10BAB2ABA4BA10BA2B8A2B29r90w",
  "rBrtuw2B30p72B8p10B166p54B2p18q20B34p69B11p10B6r13B19m56uxB6m10B6A20B28q26tB2q15B4q16x7B185t",
  "60B100p83B12pw7B2wB2w8Bw2Bw30Bw2B2w12B9w10B70u8B2u46B2u11B27s72B8s52u2s23ts5B13x16p57B7y10B1",
  "82A34B14A10B6r9Br45Br14B10r29B3r32B2r22Br14B73s7Bs2Bs44B3sBs2Bs9B8s10B6t6Bt2Bt37Bt2Bt6B7t10B",
  "310t25B7y17By41B3y28AB85wB15u50B13ui879p42qB102i99p12Bi4pB11q196B2636x99B13k1071yu9y29B10A39",
  "95B5q583B6841A58B1734l569B7p31Bp10B4p2x79Bx10B6p30B2p6B10p70B10p10Bp7Bp21B5p19B432A58B198t91",
  "B101m69u6B4um47u9B7m17B64rsu2wB11w2B14r6125t5u6B8r755w483B41Aw9B8935x4Bx7Bx2Bl2s285x4B15yB29",
  "u3B2yB14u4B8s396B2308p107B5p13B3p9B7p10B2p8B3932A250B6A436B76x46B2x23B9x116B60e246B10e39B2je",
  "180q11x2B21h70B122y20B12t20B12g87B9i18t7B135e85Be71Be2B2eB2e2B2e4Be12BeBe4ge2Be65Be4B2e8Be7B",
  "e28Be4Be5BeB3e7Be338h2B2e290i2B2e50q652B15q5Bq15B1104x31B6y6B213r7Br17B2r7Br2Br5B5y62B33yB11",
  "2u45B3u14B2u10B4u2B320x31B17u58B5uB464y42B214A43B4AB480x7Bx4Bx2Bx15Bp197B2p16B41r75uB4r10B4r",
  "2B785t68B76u61B194m4Bm27Bm2BmB2mBm10Bm4BmBmB6mB4mBmBmBm3Bm2BmB2mBmBmBmBmBm2BmB2m4Bm7Bm4Bm4Bm",
  "Bm10Bm17B5m3Bm5Bm17B52m2B270j44B4j100B12l15B2l14pBl15Bl15p22B10k11p2w3k31tlkl11klkl2kl3kl3k5",
  "l8kl7kl10m2uw3l9klk2l2kl10k4l2kl10r18wB56l26kl2B13k34l9rB4k9B7l2B14s6B154l33p12q3l6pl70pq2l2",
  "0p12l37pl5p4q5p12l17p7q8l63plpl182pl4p2ql62p2m4p7q5l24p18rp41rp86l5ml16ml3mlmlmlml3ml6m2l4ml",
  "m2l4ml12p2q2l11p48l70p10qr2s2uw2B4yx3p13B3p4r3s2tuw2B3l116y3B4y5p85t4yB6u12B4xB15p12B4p56B8p",
  "10B6p40B8p30B2w2A10B4A2B62s12wu3q9r6sr8s8rs2r12ur12st3r15s13t5uwt4w2xtut4q5r13s6t11w2u6w3u2t",
  "10u6qt2u8wxu3s23t25u84B12t14B2u4wy3u3x2B3u3w4y2AB5Au6w19x4y3w7x4y3Ayw3x3AB7y2w7x3y2AB2Ax8yAB",
  "6x7y2B7w147Bw55A37w10B1028b2e42711w7x2B32k4149x4yB6l222B2q5762B14s7473B15z622B2466e542B1504b",
  "2w4939B5y4192B56398b2B65534b2B65534b2B65534b2B65534b2B65534b2B65534b2B65534b2B65534b2B65534b",
  "2B65534b2BeB30e96B128g240B65038b131074"]

def table : Runs := .ofString runs

/-- The place of the version that added a character. The characters that no version has added come
after all versions. -/
def of (c : Char) : Nat := table.valueAt c.toNat

/-- The letter `v` and the digits of a version's number. -/
def shortName (version : String) : String :=
  String.ofList ('v' :: version.toList.filter (· != '.'))

/-- The characters that a version knows, by the number of the version or by its short name. -/
def upTo? (name : String) : Option CharSet :=
  (versions.findIdx? fun v => name == v || name == shortName v).map fun last c => of c ≤ last

end RoutePlan.Text.Age
