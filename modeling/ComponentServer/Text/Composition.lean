import ComponentServer.Text.RangeTable

/-!
Data for the composed form of text: which characters combine with the one before them, in what
order they stand, and which two characters make a third one. Only characters in small letters and
plain forms are covered, and the syllables of Hangul, which follow a rule, are not in the table.
-/

namespace ComponentServer.Composition

/-- A word of the written table is the second character, `:`, and pairs of a first character and
the character that the two make. -/
def pairWords : String :=
  "300:61.E0,65.E8,69.EC,6E.1F9,6F.F2,75.F9 300:77.1E81,79.1EF3,E2.1EA7,EA.1EC1,F4.1ED3,FC.1DC
    300:103.1EB1,113.1E15,14D.1E51,1A1.1EDD,1B0.1EEB,3B1.1F70
    300:3B5.1F72,3B7.1F74,3B9.1F76,3BF.1F78,3C5.1F7A,3C9.1F7C
    300:3CA.1FD2,3CB.1FE2,435.450,438.45D,1F00.1F02,1F01.1F03
    300:1F10.1F12,1F11.1F13,1F20.1F22,1F21.1F23,1F30.1F32,1F31.1F33
    300:1F40.1F42,1F41.1F43,1F50.1F52,1F51.1F53,1F60.1F62,1F61.1F63
    301:61.E1,63.107,65.E9,67.1F5,69.ED,6B.1E31 301:6C.13A,6D.1E3F,6E.144,6F.F3,70.1E55,72.155
    301:73.15B,75.FA,77.1E83,79.FD,7A.17A,E2.1EA5
    301:E5.1FB,E6.1FD,E7.1E09,EA.1EBF,EF.1E2F,F4.1ED1
    301:F5.1E4D,F8.1FF,FC.1D8,103.1EAF,113.1E17,14D.1E53
    301:169.1E79,1A1.1EDB,1B0.1EE9,3B1.3AC,3B5.3AD,3B7.3AE
    301:3B9.3AF,3BF.3CC,3C5.3CD,3C9.3CE,3CA.390,3CB.3B0
    301:433.453,43A.45C,1F00.1F04,1F01.1F05,1F10.1F14,1F11.1F15
    301:1F20.1F24,1F21.1F25,1F30.1F34,1F31.1F35,1F40.1F44,1F41.1F45
    301:1F50.1F54,1F51.1F55,1F60.1F64,1F61.1F65 302:61.E2,63.109,65.EA,67.11D,68.125,69.EE
    302:6A.135,6F.F4,73.15D,75.FB,77.175,79.177 302:7A.1E91,1EA1.1EAD,1EB9.1EC7,1ECD.1ED9
    303:61.E3,65.1EBD,69.129,6E.F1,6F.F5,75.169
    303:76.1E7D,79.1EF9,E2.1EAB,EA.1EC5,F4.1ED7,103.1EB5 303:1A1.1EE1,1B0.1EEF
    304:61.101,65.113,67.1E21,69.12B,6F.14D,75.16B 304:79.233,E4.1DF,E6.1E3,F5.22D,F6.22B,FC.1D6
    304:1EB.1ED,227.1E1,22F.231,3B1.1FB1,3B9.1FD1,3C5.1FE1 304:438.4E3,443.4EF,1E37.1E39,1E5B.1E5D
    306:61.103,65.115,67.11F,69.12D,6F.14F,75.16D
    306:229.1E1D,3B1.1FB0,3B9.1FD0,3C5.1FE0,430.4D1,435.4D7 306:436.4C2,438.439,443.45E,1EA1.1EB7
    307:61.227,62.1E03,63.10B,64.1E0B,65.117,66.1E1F
    307:67.121,68.1E23,6D.1E41,6E.1E45,6F.22F,70.1E57
    307:72.1E59,73.1E61,74.1E6B,77.1E87,78.1E8B,79.1E8F
    307:7A.17C,15B.1E65,161.1E67,1E63.1E69,105D2.105C9,105DA.105E4
    308:61.E4,65.EB,68.1E27,69.EF,6F.F6,74.1E97 308:75.FC,77.1E85,78.1E8D,79.FF,F5.1E4F,16B.1E7B
    308:3B9.3CA,3C5.3CB,430.4D3,435.451,436.4DD,437.4DF
    308:438.4E5,43E.4E7,443.4F1,447.4F5,44B.4F9,44D.4ED 308:456.457,4D9.4DB,4E9.4EB
    309:61.1EA3,65.1EBB,69.1EC9,6F.1ECF,75.1EE7,79.1EF7
    309:E2.1EA9,EA.1EC3,F4.1ED5,103.1EB3,1A1.1EDF,1B0.1EED 30A:61.E5,75.16F,77.1E98,79.1E99
    30B:6F.151,75.171,443.4F3 30C:61.1CE,63.10D,64.10F,65.11B,67.1E7,68.21F
    30C:69.1D0,6A.1F0,6B.1E9,6C.13E,6E.148,6F.1D2 30C:72.159,73.161,74.165,75.1D4,7A.17E,FC.1DA
    30C:292.1EF 30F:61.201,65.205,69.209,6F.20D,72.211,75.215 30F:475.477
    311:61.203,65.207,69.20B,6F.20F,72.213,75.217
    313:3B1.1F00,3B5.1F10,3B7.1F20,3B9.1F30,3BF.1F40,3C1.1FE4 313:3C5.1F50,3C9.1F60
    314:3B1.1F01,3B5.1F11,3B7.1F21,3B9.1F31,3BF.1F41,3C1.1FE5 314:3C5.1F51,3C9.1F61
    31B:6F.1A1,75.1B0 323:61.1EA1,62.1E05,64.1E0D,65.1EB9,68.1E25,69.1ECB
    323:6B.1E33,6C.1E37,6D.1E43,6E.1E47,6F.1ECD,72.1E5B
    323:73.1E63,74.1E6D,75.1EE5,76.1E7F,77.1E89,79.1EF5 323:7A.1E93,1A1.1EE3,1B0.1EF1 324:75.1E73
    325:61.1E01 326:73.219,74.21B 327:63.E7,64.1E11,65.229,67.123,68.1E29,6B.137
    327:6C.13C,6E.146,72.157,73.15F,74.163 328:61.105,65.119,69.12F,6F.1EB,75.173
    32D:64.1E13,65.1E19,6C.1E3D,6E.1E4B,74.1E71,75.1E77 32E:68.1E2B 330:65.1E1B,69.1E2D,75.1E75
    331:62.1E07,64.1E0F,68.1E96,6B.1E35,6C.1E3B,6E.1E49 331:72.1E5F,74.1E6F,7A.1E95
    338:3C.226E,3D.2260,3E.226F,2190.219A,2192.219B,2194.21AE
    338:21D0.21CD,21D2.21CF,21D4.21CE,2203.2204,2208.2209,220B.220C
    338:2223.2224,2225.2226,223C.2241,2243.2244,2245.2247,2248.2249
    338:224D.226D,2261.2262,2264.2270,2265.2271,2272.2274,2273.2275
    338:2276.2278,2277.2279,227A.2280,227B.2281,227C.22E0,227D.22E1
    338:2282.2284,2283.2285,2286.2288,2287.2289,2291.22E2,2292.22E3
    338:22A2.22AC,22A8.22AD,22A9.22AE,22AB.22AF,22B2.22EA,22B3.22EB 338:22B4.22EC,22B5.22ED
    342:3B1.1FB6,3B7.1FC6,3B9.1FD6,3C5.1FE6,3C9.1FF6,3CA.1FD7
    342:3CB.1FE7,1F00.1F06,1F01.1F07,1F20.1F26,1F21.1F27,1F30.1F36
    342:1F31.1F37,1F50.1F56,1F51.1F57,1F60.1F66,1F61.1F67 653:627.622
    654:627.623,648.624,64A.626,6C1.6C2,6D2.6D3,6D5.6C0 655:627.625 93C:928.929,930.931,933.934
    9BE:9C7.9CB 9D7:9C7.9CC B3E:B47.B4B B56:B47.B48 B57:B47.B4C BBE:BC6.BCA,BC7.BCB
    BD7:B92.B94,BC6.BCC C56:C46.C48 CC2:CC6.CCA CD5:CBF.CC0,CC6.CC7,CCA.CCB CD6:CC6.CC8
    D3E:D46.D4A,D47.D4B D57:D46.D4C DCA:DD9.DDA,DDC.DDD DCF:DD9.DDC DDF:DD9.DDE 102E:1025.1026
    1B35:1B05.1B06,1B07.1B08,1B09.1B0A,1B0B.1B0C,1B0D.1B0E,1B11.1B12
    1B35:1B3A.1B3B,1B3C.1B3D,1B3E.1B40,1B3F.1B41,1B42.1B43
    3099:3046.3094,304B.304C,304D.304E,304F.3050,3051.3052,3053.3054
    3099:3055.3056,3057.3058,3059.305A,305B.305C,305D.305E,305F.3060
    3099:3061.3062,3064.3065,3066.3067,3068.3069,306F.3070,3072.3073
    3099:3075.3076,3078.3079,307B.307C,309D.309E,30A6.30F4,30AB.30AC
    3099:30AD.30AE,30AF.30B0,30B1.30B2,30B3.30B4,30B5.30B6,30B7.30B8
    3099:30B9.30BA,30BB.30BC,30BD.30BE,30BF.30C0,30C1.30C2,30C4.30C5
    3099:30C6.30C7,30C8.30C9,30CF.30D0,30D2.30D3,30D5.30D6,30D8.30D9
    3099:30DB.30DC,30EF.30F7,30F0.30F8,30F1.30F9,30F2.30FA,30FD.30FE
    309A:306F.3071,3072.3074,3075.3077,3078.307A,307B.307D,30CF.30D1
    309A:30D2.30D4,30D5.30D7,30D8.30DA,30DB.30DD 110BA:11099.1109A,1109B.1109C,110A5.110AB
    11127:11131.1112E,11132.1112F 1133E:11347.1134B 11357:11347.1134C 113B8:113C2.113C7
    113BB:11384.11385 113C2:1138B.1138E,113C2.113C5 113C9:11382.11383,11390.11391,113C2.113C8
    114B0:114B9.114BC 114BA:114B9.114BB 114BD:114B9.114BE 115AF:115B8.115BA,115B9.115BB
    11930:11935.11938 1611E:1611E.16121 1611F:1611E.16123,16121.16126,16122.16127,16129.16124
    16120:1611E.16125,16121.16128 16129:1611E.16122 16D67:16D63.16D69,16D67.16D68,16D69.16D6A"

/-- A pair of characters and the one they make, as code points. -/
structure Pair where
  first : Nat
  second : Nat
  whole : Nat
deriving DecidableEq, Repr

def readPairs (word : Text) : List Pair :=
  match Text.splitAt ':' word with
  | [second, firsts] => (Text.splitAt ',' firsts).filterMap fun entry =>
    match (Text.splitAt '.' entry).map RangeTable.number with
    | [first, whole] => some ⟨first, RangeTable.number second, whole⟩
    | _ => none
  | _ => []

def pairs : List Pair := (RangeTable.words pairWords).flatMap readPairs

/-- A word of the written table is a class, `:`, and a range of characters in it. -/
def classWords : String :=
  "1:334-338 1:1CD4 1:1CE2-1CE8 1:20D2-20D3 1:20D8-20DA 1:20E5-20E6 1:20EA-20EB 1:10A39
    1:16AF0-16AF4 1:1BC9E 1:1D167-1D169 6:16FF0-16FF1 7:93C 7:9BC 7:A3C 7:ABC 7:B3C 7:C3C 7:CBC
    7:1037 7:1B34 7:1BE6 7:1C37 7:A9B3 7:110BA 7:11173 7:111CA 7:11236 7:112E9 7:1133B-1133C
    7:11446 7:114C3 7:115C0 7:116B7 7:1183A 7:11943 7:11D42 7:1E94A 8:3099-309A 9:94D 9:9CD 9:A4D
    9:ACD 9:B4D 9:BCD 9:C4D 9:CCD 9:D3B-D3C 9:D4D 9:DCA 9:E3A 9:EBA 9:F84 9:1039-103A 9:1714-1715
    9:1734 9:17D2 9:1A60 9:1B44 9:1BAA-1BAB 9:1BF2-1BF3 9:2D7F 9:A806 9:A82C 9:A8C4 9:A953 9:A9C0
    9:AAF6 9:ABED 9:10A3F 9:11046 9:11070 9:1107F 9:110B9 9:11133-11134 9:111C0 9:11235 9:112EA
    9:1134D 9:113CE-113D0 9:11442 9:114C2 9:115BF 9:1163F 9:116B6 9:1172B 9:11839 9:1193D-1193E
    9:119E0 9:11A34 9:11A47 9:11A99 9:11C3F 9:11D44-11D45 9:11D97 9:11F41-11F42 9:1612F A:5B0
    B:5B1 C:5B2 D:5B3 E:5B4 F:5B5 10:5B6 11:5B7 12:5B8 12:5C7 13:5B9-5BA 14:5BB 15:5BC 16:5BD
    17:5BF 18:5C1 19:5C2 1A:FB1E 1B:64B 1B:8F0 1C:64C 1C:8F1 1D:64D 1D:8F2 1E:618 1E:64E 1F:619
    1F:64F 20:61A 20:650 21:651 22:652 23:670 24:711 54:C55 5B:C56 67:E38-E39 6B:E48-E4B
    76:EB8-EB9 7A:EC8-ECB 81:F71 82:F72 82:F7A-F7D 82:F80 84:F74 CA:321-322 CA:327-328 CA:1DD0
    D6:1DCE D8:31B D8:F39 D8:1D165-1D166 D8:1D16E-1D172 DA:1DFA DA:302A DC:316-319 DC:31C-320
    DC:323-326 DC:329-333 DC:339-33C DC:347-349 DC:34D-34E DC:353-356 DC:359-35A DC:591 DC:596
    DC:59B DC:5A2-5A7 DC:5AA DC:5C5 DC:655-656 DC:65C DC:65F DC:6E3 DC:6EA DC:6ED DC:731 DC:734
    DC:737-739 DC:73B-73C DC:73E DC:742 DC:744 DC:746 DC:748 DC:7F2 DC:7FD DC:859-85B DC:899-89B
    DC:8CF-8D3 DC:8E3 DC:8E6 DC:8E9 DC:8ED-8EF DC:8F6 DC:8F9-8FA DC:952 DC:F18-F19 DC:F35 DC:F37
    DC:FC6 DC:108D DC:193B DC:1A18 DC:1A7F DC:1AB5-1ABA DC:1ABD DC:1ABF-1AC0 DC:1AC3-1AC4 DC:1ACA
    DC:1B6C DC:1CD5-1CD9 DC:1CDC-1CDF DC:1CED DC:1DC2 DC:1DCA DC:1DCF DC:1DF9 DC:1DFD DC:1DFF
    DC:20E8 DC:20EC-20EF DC:A92B-A92D DC:AAB4 DC:FE27-FE2D DC:101FD DC:102E0 DC:10A0D DC:10A3A
    DC:10AE6 DC:10EFD-10EFF DC:10F46-10F47 DC:10F4B DC:10F4D-10F50 DC:10F83 DC:10F85
    DC:1D17B-1D182 DC:1D18A-1D18B DC:1E4EE DC:1E5EF DC:1E8D0-1E8D6 DE:59A DE:5AD DE:1939 DE:302D
    E0:302E-302F E2:1D16D E4:5AE E4:18A9 E4:1DF7-1DF8 E4:302B E6:300-314 E6:33D-346 E6:34A-34C
    E6:350-352 E6:357 E6:35B E6:363-36F E6:483-487 E6:592-595 E6:597-599 E6:59C-5A1 E6:5A8-5A9
    E6:5AB-5AC E6:5AF E6:5C4 E6:610-617 E6:653-654 E6:657-65B E6:65D-65E E6:6D6-6DC E6:6DF-6E2
    E6:6E4 E6:6E7-6E8 E6:6EB-6EC E6:730 E6:732-733 E6:735-736 E6:73A E6:73D E6:73F-741 E6:743
    E6:745 E6:747 E6:749-74A E6:7EB-7F1 E6:7F3 E6:816-819 E6:81B-823 E6:825-827 E6:829-82D
    E6:897-898 E6:89C-89F E6:8CA-8CE E6:8D4-8E1 E6:8E4-8E5 E6:8E7-8E8 E6:8EA-8EC E6:8F3-8F5
    E6:8F7-8F8 E6:8FB-8FF E6:951 E6:953-954 E6:9FE E6:F82-F83 E6:F86-F87 E6:135D-135F E6:17DD
    E6:193A E6:1A17 E6:1A75-1A7C E6:1AB0-1AB4 E6:1ABB-1ABC E6:1AC1-1AC2 E6:1AC5-1AC9 E6:1ACB-1ACE
    E6:1B6B E6:1B6D-1B73 E6:1CD0-1CD2 E6:1CDA-1CDB E6:1CE0 E6:1CF4 E6:1CF8-1CF9 E6:1DC0-1DC1
    E6:1DC3-1DC9 E6:1DCB-1DCC E6:1DD1-1DF5 E6:1DFB E6:1DFE E6:20D0-20D1 E6:20D4-20D7 E6:20DB-20DC
    E6:20E1 E6:20E7 E6:20E9 E6:20F0 E6:2CEF-2CF1 E6:2DE0-2DFF E6:A66F E6:A674-A67D E6:A69E-A69F
    E6:A6F0-A6F1 E6:A8E0-A8F1 E6:AAB0 E6:AAB2-AAB3 E6:AAB7-AAB8 E6:AABE-AABF E6:AAC1 E6:FE20-FE26
    E6:FE2E-FE2F E6:10376-1037A E6:10A0F E6:10A38 E6:10AE5 E6:10D24-10D27 E6:10D69-10D6D
    E6:10EAB-10EAC E6:10F48-10F4A E6:10F4C E6:10F82 E6:10F84 E6:11100-11102 E6:11366-11374
    E6:1145E E6:16B30-16B36 E6:1D185-1D189 E6:1D1AA-1D1AD E6:1D242-1D244 E6:1E000-1E08F
    E6:1E130-1E136 E6:1E2AE E6:1E2EC-1E2EF E6:1E4EF E6:1E5EE E6:1E944-1E949 E8:315 E8:31A E8:358
    E8:1DF6 E8:302C E8:1E4EC-1E4ED E9:35C E9:35F E9:362 E9:1DFC EA:35D-35E EA:360-361 EA:1DCD"

/-- Ranges of combining characters with their classes. -/
def classes : List (CodeRange × Nat) :=
  (RangeTable.words classWords).filterMap fun word =>
    match Text.splitAt ':' word with
    | [number, range] => some (RangeTable.range range, RangeTable.number number)
    | _ => none

/-- The class of a combining character; characters that do not combine, or stay where they are, have
class zero. -/
def classOf (c : Char) : Nat :=
  ((classes.find? (·.1.contains c.toNat)).map Prod.snd).getD 0

end ComponentServer.Composition
