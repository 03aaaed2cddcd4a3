import Possession.Unicode.Permitted

/-!
# Composed characters

In the composed form marks stand in the order of their classes, and whatever can be one character is
one: taking a text apart, ordering the marks and composing it again changes nothing.
-/

namespace Possession.Unicode

/-! ## Classes of marks -/

def viramaClass : Nat := 9

def classes : List (Nat × Ranges) :=
  [(1, "0334-0338 1CD4 1CE2-1CE8 20D2-20D3 20D8-20DA 20E5-20E6 20EA-20EB 10A39 16AF0-16AF4 1BC9E
      1D167-1D169"),
    (6, "16FF0-16FF1"),
    (7, "093C 09BC 0A3C 0ABC 0B3C 0C3C 0CBC 1037 1B34 1BE6 1C37 A9B3 110BA 11173 111CA 11236 112E9
      1133B-1133C 11446 114C3 115C0 116B7 1183A 11943 11D42 1E94A"),
    (8, "3099-309A"),
    (9, "094D 09CD 0A4D 0ACD 0B4D 0BCD 0C4D 0CCD 0D3B-0D3C 0D4D 0DCA 0E3A 0EBA 0F84 1039-103A
      1714-1715 1734 17D2 1A60 1B44 1BAA-1BAB 1BF2-1BF3 2D7F A806 A82C A8C4 A953 A9C0 AAF6 ABED
      10A3F 11046 11070 1107F 110B9 11133-11134 111C0 11235 112EA 1134D 113CE-113D0 11442 114C2
      115BF 1163F 116B6 1172B 11839 1193D-1193E 119E0 11A34 11A47 11A99 11C3F 11D44-11D45 11D97
      11F41-11F42 1612F"),
    (10, "05B0"),
    (11, "05B1"),
    (12, "05B2"),
    (13, "05B3"),
    (14, "05B4"),
    (15, "05B5"),
    (16, "05B6"),
    (17, "05B7"),
    (18, "05B8 05C7"),
    (19, "05B9-05BA"),
    (20, "05BB"),
    (21, "05BC"),
    (22, "05BD"),
    (23, "05BF"),
    (24, "05C1"),
    (25, "05C2"),
    (26, "FB1E"),
    (27, "064B 08F0"),
    (28, "064C 08F1"),
    (29, "064D 08F2"),
    (30, "0618 064E"),
    (31, "0619 064F"),
    (32, "061A 0650"),
    (33, "0651"),
    (34, "0652"),
    (35, "0670"),
    (36, "0711"),
    (84, "0C55"),
    (91, "0C56"),
    (103, "0E38-0E39"),
    (107, "0E48-0E4B"),
    (118, "0EB8-0EB9"),
    (122, "0EC8-0ECB"),
    (129, "0F71"),
    (130, "0F72 0F7A-0F7D 0F80"),
    (132, "0F74"),
    (202, "0321-0322 0327-0328 1DD0"),
    (214, "1DCE"),
    (216, "031B 0F39 1D165-1D166 1D16E-1D172"),
    (218, "1DFA 302A"),
    (220, "0316-0319 031C-0320 0323-0326 0329-0333 0339-033C 0347-0349 034D-034E 0353-0356 0359-035A
      0591 0596 059B 05A2-05A7 05AA 05C5 0655-0656 065C 065F 06E3 06EA 06ED 0731 0734 0737-0739
      073B-073C 073E 0742 0744 0746 0748 07F2 07FD 0859-085B 0899-089B 08CF-08D3 08E3 08E6 08E9
      08ED-08EF 08F6 08F9-08FA 0952 0F18-0F19 0F35 0F37 0FC6 108D 193B 1A18 1A7F 1AB5-1ABA 1ABD
      1ABF-1AC0 1AC3-1AC4 1ACA 1ADD 1AE6 1B6C 1CD5-1CD9 1CDC-1CDF 1CED 1DC2 1DCA 1DCF 1DF9 1DFD
      1DFF 20E8 20EC-20EF A92B-A92D AAB4 FE27-FE2D 101FD 102E0 10A0D 10A3A 10AE6 10EFA-10EFB
      10EFD-10EFF 10F46-10F47 10F4B 10F4D-10F50 10F83 10F85 1D17B-1D182 1D18A-1D18B 1E4EE 1E5EF
      1E8D0-1E8D6"),
    (222, "059A 05AD 1939 302D"),
    (224, "302E-302F"),
    (226, "1D16D"),
    (228, "05AE 18A9 1DF7-1DF8 302B"),
    (230, "0300-0314 033D-0346 034A-034C 0350-0352 0357 035B 0363-036F 0483-0487 0592-0595 0597-0599
      059C-05A1 05A8-05A9 05AB-05AC 05AF 05C4 0610-0617 0653-0654 0657-065B 065D-065E 06D6-06DC
      06DF-06E2 06E4 06E7-06E8 06EB-06EC 0730 0732-0733 0735-0736 073A 073D 073F-0741 0743 0745
      0747 0749-074A 07EB-07F1 07F3 0816-0819 081B-0823 0825-0827 0829-082D 0897-0898 089C-089F
      08CA-08CE 08D4-08E1 08E4-08E5 08E7-08E8 08EA-08EC 08F3-08F5 08F7-08F8 08FB-08FF 0951
      0953-0954 09FE 0F82-0F83 0F86-0F87 135D-135F 17DD 193A 1A17 1A75-1A7C 1AB0-1AB4 1ABB-1ABC
      1AC1-1AC2 1AC5-1AC9 1ACB-1ADC 1AE0-1AE5 1AE7-1AEA 1B6B 1B6D-1B73 1CD0-1CD2 1CDA-1CDB 1CE0
      1CF4 1CF8-1CF9 1DC0-1DC1 1DC3-1DC9 1DCB-1DCC 1DD1-1DF5 1DFB 1DFE 20D0-20D1 20D4-20D7
      20DB-20DC 20E1 20E7 20E9 20F0 2CEF-2CF1 2DE0-2DFF A66F A674-A67D A69E-A69F A6F0-A6F1
      A8E0-A8F1 AAB0 AAB2-AAB3 AAB7-AAB8 AABE-AABF AAC1 FE20-FE26 FE2E-FE2F 10376-1037A 10A0F
      10A38 10AE5 10D24-10D27 10D69-10D6D 10EAB-10EAC 10F48-10F4A 10F4C 10F82 10F84 11100-11102
      11366-11374 1145E 16B30-16B36 1D185-1D189 1D1AA-1D1AD 1D242-1D244 1E000-1E08F 1E130-1E136
      1E2AE 1E2EC-1E2EF 1E4EF 1E5EE 1E6E3 1E6E6 1E6EE-1E6EF 1E6F5 1E944-1E949"),
    (232, "0315 031A 0358 1DF6 302C 1E4EC-1E4ED"),
    (233, "035C 035F 0362 1DFC"),
    (234, "035D-035E 0360-0361 1AEB 1DCD")].map
    fun (combining, text) => (combining, Ranges.ofText text)

/-- The class of a character; zero for all that are not reordered. -/
def combiningClass (c : Char) : Nat :=
  ((classes.find? fun (_, marks) => marks.contains c).map Prod.fst).getD 0

/-! ## Compositions -/

/-- A character that stands for two. -/
structure Composition where
  whole : Nat
  /-- The first one of its parts, which may be composed itself. -/
  first : Nat
  second : Nat
  deriving DecidableEq, Repr

/-- The composition that a word of the table stands for: the whole, an equals sign, and the parts
with a plus sign between them. -/
def readComposition? (word : List Char) : Option Composition := do
  let (whole, parts) ← Text.cut? '=' word
  let (first, second) ← Text.cut? '+' parts
  return ⟨← readCode? whole, ← readCode? first, ← readCode? second⟩

/-- The compositions of permitted characters, except for syllables of Hangul. -/
def compositions : List Composition :=
  (readWords
    "00E0=0061+0300 00E1=0061+0301 00E2=0061+0302 00E3=0061+0303 00E4=0061+0308 00E5=0061+030A
      00E7=0063+0327 00E8=0065+0300 00E9=0065+0301 00EA=0065+0302 00EB=0065+0308 00EC=0069+0300
      00ED=0069+0301 00EE=0069+0302 00EF=0069+0308 00F1=006E+0303 00F2=006F+0300 00F3=006F+0301
      00F4=006F+0302 00F5=006F+0303 00F6=006F+0308 00F9=0075+0300 00FA=0075+0301 00FB=0075+0302
      00FC=0075+0308 00FD=0079+0301 00FF=0079+0308 0101=0061+0304 0103=0061+0306 0105=0061+0328
      0107=0063+0301 0109=0063+0302 010B=0063+0307 010D=0063+030C 010F=0064+030C 0113=0065+0304
      0115=0065+0306 0117=0065+0307 0119=0065+0328 011B=0065+030C 011D=0067+0302 011F=0067+0306
      0121=0067+0307 0123=0067+0327 0125=0068+0302 0129=0069+0303 012B=0069+0304 012D=0069+0306
      012F=0069+0328 0135=006A+0302 0137=006B+0327 013A=006C+0301 013C=006C+0327 013E=006C+030C
      0144=006E+0301 0146=006E+0327 0148=006E+030C 014D=006F+0304 014F=006F+0306 0151=006F+030B
      0155=0072+0301 0157=0072+0327 0159=0072+030C 015B=0073+0301 015D=0073+0302 015F=0073+0327
      0161=0073+030C 0163=0074+0327 0165=0074+030C 0169=0075+0303 016B=0075+0304 016D=0075+0306
      016F=0075+030A 0171=0075+030B 0173=0075+0328 0175=0077+0302 0177=0079+0302 017A=007A+0301
      017C=007A+0307 017E=007A+030C 01A1=006F+031B 01B0=0075+031B 01CE=0061+030C 01D0=0069+030C
      01D2=006F+030C 01D4=0075+030C 01D6=00FC+0304 01D8=00FC+0301 01DA=00FC+030C 01DC=00FC+0300
      01DF=00E4+0304 01E1=0227+0304 01E3=00E6+0304 01E7=0067+030C 01E9=006B+030C 01EB=006F+0328
      01ED=01EB+0304 01EF=0292+030C 01F0=006A+030C 01F5=0067+0301 01F9=006E+0300 01FB=00E5+0301
      01FD=00E6+0301 01FF=00F8+0301 0201=0061+030F 0203=0061+0311 0205=0065+030F 0207=0065+0311
      0209=0069+030F 020B=0069+0311 020D=006F+030F 020F=006F+0311 0211=0072+030F 0213=0072+0311
      0215=0075+030F 0217=0075+0311 0219=0073+0326 021B=0074+0326 021F=0068+030C 0227=0061+0307
      0229=0065+0327 022B=00F6+0304 022D=00F5+0304 022F=006F+0307 0231=022F+0304 0233=0079+0304
      0390=03CA+0301 03AC=03B1+0301 03AD=03B5+0301 03AE=03B7+0301 03AF=03B9+0301 03B0=03CB+0301
      03CA=03B9+0308 03CB=03C5+0308 03CC=03BF+0301 03CD=03C5+0301 03CE=03C9+0301 0439=0438+0306
      0450=0435+0300 0451=0435+0308 0453=0433+0301 0457=0456+0308 045C=043A+0301 045D=0438+0300
      045E=0443+0306 0477=0475+030F 04C2=0436+0306 04D1=0430+0306 04D3=0430+0308 04D7=0435+0306
      04DB=04D9+0308 04DD=0436+0308 04DF=0437+0308 04E3=0438+0304 04E5=0438+0308 04E7=043E+0308
      04EB=04E9+0308 04ED=044D+0308 04EF=0443+0304 04F1=0443+0308 04F3=0443+030B 04F5=0447+0308
      04F9=044B+0308 0622=0627+0653 0623=0627+0654 0624=0648+0654 0625=0627+0655 0626=064A+0654
      06C0=06D5+0654 06C2=06C1+0654 06D3=06D2+0654 0929=0928+093C 0931=0930+093C 0934=0933+093C
      09CB=09C7+09BE 09CC=09C7+09D7 0B48=0B47+0B56 0B4B=0B47+0B3E 0B4C=0B47+0B57 0B94=0B92+0BD7
      0BCA=0BC6+0BBE 0BCB=0BC7+0BBE 0BCC=0BC6+0BD7 0C48=0C46+0C56 0CC0=0CBF+0CD5 0CC7=0CC6+0CD5
      0CC8=0CC6+0CD6 0CCA=0CC6+0CC2 0CCB=0CCA+0CD5 0D4A=0D46+0D3E 0D4B=0D47+0D3E 0D4C=0D46+0D57
      0DDA=0DD9+0DCA 0DDC=0DD9+0DCF 0DDD=0DDC+0DCA 0DDE=0DD9+0DDF 1026=1025+102E 1B06=1B05+1B35
      1B08=1B07+1B35 1B0A=1B09+1B35 1B0C=1B0B+1B35 1B0E=1B0D+1B35 1B12=1B11+1B35 1B3B=1B3A+1B35
      1B3D=1B3C+1B35 1B40=1B3E+1B35 1B41=1B3F+1B35 1B43=1B42+1B35 1E01=0061+0325 1E03=0062+0307
      1E05=0062+0323 1E07=0062+0331 1E09=00E7+0301 1E0B=0064+0307 1E0D=0064+0323 1E0F=0064+0331
      1E11=0064+0327 1E13=0064+032D 1E15=0113+0300 1E17=0113+0301 1E19=0065+032D 1E1B=0065+0330
      1E1D=0229+0306 1E1F=0066+0307 1E21=0067+0304 1E23=0068+0307 1E25=0068+0323 1E27=0068+0308
      1E29=0068+0327 1E2B=0068+032E 1E2D=0069+0330 1E2F=00EF+0301 1E31=006B+0301 1E33=006B+0323
      1E35=006B+0331 1E37=006C+0323 1E39=1E37+0304 1E3B=006C+0331 1E3D=006C+032D 1E3F=006D+0301
      1E41=006D+0307 1E43=006D+0323 1E45=006E+0307 1E47=006E+0323 1E49=006E+0331 1E4B=006E+032D
      1E4D=00F5+0301 1E4F=00F5+0308 1E51=014D+0300 1E53=014D+0301 1E55=0070+0301 1E57=0070+0307
      1E59=0072+0307 1E5B=0072+0323 1E5D=1E5B+0304 1E5F=0072+0331 1E61=0073+0307 1E63=0073+0323
      1E65=015B+0307 1E67=0161+0307 1E69=1E63+0307 1E6B=0074+0307 1E6D=0074+0323 1E6F=0074+0331
      1E71=0074+032D 1E73=0075+0324 1E75=0075+0330 1E77=0075+032D 1E79=0169+0301 1E7B=016B+0308
      1E7D=0076+0303 1E7F=0076+0323 1E81=0077+0300 1E83=0077+0301 1E85=0077+0308 1E87=0077+0307
      1E89=0077+0323 1E8B=0078+0307 1E8D=0078+0308 1E8F=0079+0307 1E91=007A+0302 1E93=007A+0323
      1E95=007A+0331 1E96=0068+0331 1E97=0074+0308 1E98=0077+030A 1E99=0079+030A 1EA1=0061+0323
      1EA3=0061+0309 1EA5=00E2+0301 1EA7=00E2+0300 1EA9=00E2+0309 1EAB=00E2+0303 1EAD=1EA1+0302
      1EAF=0103+0301 1EB1=0103+0300 1EB3=0103+0309 1EB5=0103+0303 1EB7=1EA1+0306 1EB9=0065+0323
      1EBB=0065+0309 1EBD=0065+0303 1EBF=00EA+0301 1EC1=00EA+0300 1EC3=00EA+0309 1EC5=00EA+0303
      1EC7=1EB9+0302 1EC9=0069+0309 1ECB=0069+0323 1ECD=006F+0323 1ECF=006F+0309 1ED1=00F4+0301
      1ED3=00F4+0300 1ED5=00F4+0309 1ED7=00F4+0303 1ED9=1ECD+0302 1EDB=01A1+0301 1EDD=01A1+0300
      1EDF=01A1+0309 1EE1=01A1+0303 1EE3=01A1+0323 1EE5=0075+0323 1EE7=0075+0309 1EE9=01B0+0301
      1EEB=01B0+0300 1EED=01B0+0309 1EEF=01B0+0303 1EF1=01B0+0323 1EF3=0079+0300 1EF5=0079+0323
      1EF7=0079+0309 1EF9=0079+0303 1F00=03B1+0313 1F01=03B1+0314 1F02=1F00+0300 1F03=1F01+0300
      1F04=1F00+0301 1F05=1F01+0301 1F06=1F00+0342 1F07=1F01+0342 1F10=03B5+0313 1F11=03B5+0314
      1F12=1F10+0300 1F13=1F11+0300 1F14=1F10+0301 1F15=1F11+0301 1F20=03B7+0313 1F21=03B7+0314
      1F22=1F20+0300 1F23=1F21+0300 1F24=1F20+0301 1F25=1F21+0301 1F26=1F20+0342 1F27=1F21+0342
      1F30=03B9+0313 1F31=03B9+0314 1F32=1F30+0300 1F33=1F31+0300 1F34=1F30+0301 1F35=1F31+0301
      1F36=1F30+0342 1F37=1F31+0342 1F40=03BF+0313 1F41=03BF+0314 1F42=1F40+0300 1F43=1F41+0300
      1F44=1F40+0301 1F45=1F41+0301 1F50=03C5+0313 1F51=03C5+0314 1F52=1F50+0300 1F53=1F51+0300
      1F54=1F50+0301 1F55=1F51+0301 1F56=1F50+0342 1F57=1F51+0342 1F60=03C9+0313 1F61=03C9+0314
      1F62=1F60+0300 1F63=1F61+0300 1F64=1F60+0301 1F65=1F61+0301 1F66=1F60+0342 1F67=1F61+0342
      1F70=03B1+0300 1F72=03B5+0300 1F74=03B7+0300 1F76=03B9+0300 1F78=03BF+0300 1F7A=03C5+0300
      1F7C=03C9+0300 1FB0=03B1+0306 1FB1=03B1+0304 1FB6=03B1+0342 1FC6=03B7+0342 1FD0=03B9+0306
      1FD1=03B9+0304 1FD2=03CA+0300 1FD6=03B9+0342 1FD7=03CA+0342 1FE0=03C5+0306 1FE1=03C5+0304
      1FE2=03CB+0300 1FE4=03C1+0313 1FE5=03C1+0314 1FE6=03C5+0342 1FE7=03CB+0342 1FF6=03C9+0342
      219A=2190+0338 219B=2192+0338 21AE=2194+0338 21CD=21D0+0338 21CE=21D4+0338 21CF=21D2+0338
      2204=2203+0338 2209=2208+0338 220C=220B+0338 2224=2223+0338 2226=2225+0338 2241=223C+0338
      2244=2243+0338 2247=2245+0338 2249=2248+0338 2260=003D+0338 2262=2261+0338 226D=224D+0338
      226E=003C+0338 226F=003E+0338 2270=2264+0338 2271=2265+0338 2274=2272+0338 2275=2273+0338
      2278=2276+0338 2279=2277+0338 2280=227A+0338 2281=227B+0338 2284=2282+0338 2285=2283+0338
      2288=2286+0338 2289=2287+0338 22AC=22A2+0338 22AD=22A8+0338 22AE=22A9+0338 22AF=22AB+0338
      22E0=227C+0338 22E1=227D+0338 22E2=2291+0338 22E3=2292+0338 22EA=22B2+0338 22EB=22B3+0338
      22EC=22B4+0338 22ED=22B5+0338 304C=304B+3099 304E=304D+3099 3050=304F+3099 3052=3051+3099
      3054=3053+3099 3056=3055+3099 3058=3057+3099 305A=3059+3099 305C=305B+3099 305E=305D+3099
      3060=305F+3099 3062=3061+3099 3065=3064+3099 3067=3066+3099 3069=3068+3099 3070=306F+3099
      3071=306F+309A 3073=3072+3099 3074=3072+309A 3076=3075+3099 3077=3075+309A 3079=3078+3099
      307A=3078+309A 307C=307B+3099 307D=307B+309A 3094=3046+3099 309E=309D+3099 30AC=30AB+3099
      30AE=30AD+3099 30B0=30AF+3099 30B2=30B1+3099 30B4=30B3+3099 30B6=30B5+3099 30B8=30B7+3099
      30BA=30B9+3099 30BC=30BB+3099 30BE=30BD+3099 30C0=30BF+3099 30C2=30C1+3099 30C5=30C4+3099
      30C7=30C6+3099 30C9=30C8+3099 30D0=30CF+3099 30D1=30CF+309A 30D3=30D2+3099 30D4=30D2+309A
      30D6=30D5+3099 30D7=30D5+309A 30D9=30D8+3099 30DA=30D8+309A 30DC=30DB+3099 30DD=30DB+309A
      30F4=30A6+3099 30F7=30EF+3099 30F8=30F0+3099 30F9=30F1+3099 30FA=30F2+3099 30FE=30FD+3099
      105C9=105D2+0307 105E4=105DA+0307 1109A=11099+110BA 1109C=1109B+110BA 110AB=110A5+110BA
      1112E=11131+11127 1112F=11132+11127 1134B=11347+1133E 1134C=11347+11357 11383=11382+113C9
      11385=11384+113BB 1138E=1138B+113C2 11391=11390+113C9 113C5=113C2+113C2 113C7=113C2+113B8
      113C8=113C2+113C9 114BB=114B9+114BA 114BC=114B9+114B0 114BE=114B9+114BD 115BA=115B8+115AF
      115BB=115B9+115AF 11938=11935+11930 16121=1611E+1611E 16122=1611E+16129 16123=1611E+1611F
      16124=16129+1611F 16125=1611E+16120 16126=16121+1611F 16127=16122+1611F 16128=16121+16120
      16D68=16D67+16D67 16D69=16D63+16D67 16D6A=16D69+16D67").filterMap readComposition?

/-! ## Hangul

A syllable is a leading consonant, a vowel and possibly a trailing consonant; the syllables are
numbered in this order.
-/

/-- The first of 19 leading consonants. -/
def firstLeading : Nat := 0x1100

/-- The first of 21 vowels. -/
def firstVowel : Nat := 0x1161

/-- The number before the first of 27 trailing consonants. -/
def noTrailing : Nat := 0x11A7

def firstSyllable : Nat := 0xAC00

/-- The number of syllables with a given leading consonant. -/
def syllablesPerLeading : Nat := 588

/-- The number of syllables with a given leading consonant and vowel. -/
def syllablesPerVowel : Nat := 28

/-- The number of a syllable among all syllables. -/
def syllableIndex? (code : Nat) : Option Nat :=
  if firstSyllable ≤ code ∧ code < firstSyllable + 19 * syllablesPerLeading then
    some (code - firstSyllable)
  else none

def syllableParts (index : Nat) : List Nat :=
  let trailing := index % syllablesPerVowel
  [firstLeading + index / syllablesPerLeading,
    firstVowel + index % syllablesPerLeading / syllablesPerVowel] ++
    (if trailing = 0 then [] else [noTrailing + trailing])

/-- The syllable that two characters make up: a leading consonant and a vowel, or a syllable without
a trailing consonant and one. -/
def composeSyllable? (first second : Nat) : Option Nat :=
  if firstLeading ≤ first ∧ first < firstLeading + 19 ∧ firstVowel ≤ second ∧
      second < firstVowel + 21 then
    some (firstSyllable + (first - firstLeading) * syllablesPerLeading +
      (second - firstVowel) * syllablesPerVowel)
  else
    match syllableIndex? first with
    | none => none
    | some index =>
      if index % syllablesPerVowel = 0 ∧ noTrailing < second ∧
          second < noTrailing + syllablesPerVowel then
        some (first + (second - noTrailing))
      else none

/-! ## Normal form -/

/-- The number of times that the first part of a composition can be composed again. -/
def deepest : Nat := 4

/-- A character taken apart. The first argument bounds how often. -/
def takeApart : Nat → Nat → List Nat
  | 0, code => [code]
  | times + 1, code =>
    match syllableIndex? code with
    | some index => syllableParts index
    | none =>
      match compositions.find? (·.whole == code) with
      | some composition => takeApart times composition.first ++ [composition.second]
      | none => [code]

def classOf (code : Nat) : Nat := combiningClass (Char.ofNat code)

/-- Puts a character in front of an ordered text, behind the marks of lower classes. -/
def insertMark (code : Nat) : List Nat → List Nat
  | [] => [code]
  | next :: rest =>
    if 0 < classOf next ∧ classOf next < classOf code then next :: insertMark code rest
    else code :: next :: rest

/-- The text with the marks after each character in the order of their classes. -/
def orderMarks (codes : List Nat) : List Nat := codes.foldr insertMark []

def compose? (first second : Nat) : Option Nat :=
  match composeSyllable? first second with
  | some syllable => some syllable
  | none =>
    (compositions.find? fun composition =>
      composition.first == first && composition.second == second).map Composition.whole

structure Composing where
  /-- What is finished, last character first. -/
  done : List Nat
  /-- The character that the next marks may combine with. -/
  base : Option Nat
  /-- The marks after it that did not combine, last one first. -/
  pending : List Nat

/-- Everything that has been read, last character first. -/
def Composing.all (state : Composing) : List Nat :=
  state.pending ++ state.base.toList ++ state.done

/-- Reads one more character. It combines with the base unless a mark of the same or a higher class
stands between them. -/
def Composing.read (state : Composing) (code : Nat) : Composing :=
  let combined :=
    if (state.pending.head?.map classOf).all (· < classOf code) then
      state.base.bind (compose? · code)
    else none
  match combined with
  | some whole => { state with base := some whole }
  | none =>
    if classOf code = 0 then ⟨state.all, some code, []⟩
    else { state with pending := code :: state.pending }

def composed (codes : List Nat) : List Nat :=
  let apart := orderMarks (codes.flatMap (takeApart deepest))
  (apart.foldl Composing.read ⟨[], none, []⟩).all.reverse

def isComposed (text : List Char) : Bool :=
  let codes := text.map Char.toNat
  composed codes == codes

end Possession.Unicode
