import ConceptQuery.Unicode.RangeText

/-!
# Boundary classes

Text segmentation (Unicode Standard Annex 29) sorts every code point into a class for each kind
of boundary: the Grapheme_Cluster_Break, Sentence_Break and Word_Break properties. A
`BoundaryClass` holds the long name of a class, its short aliases and its code points as range
text. The tables are those of Unicode 16.0, the version the pattern language follows; the class
`Other`, of every code point not listed, is left out.
-/

namespace ConceptQuery.Unicode

/-- A class of a boundary property: its names and its code points. -/
structure BoundaryClass where
  /-- The long name, such as `Extend`. -/
  name : String
  /-- The short aliases, such as `EX`. -/
  aliases : List String
  /-- The code points of the class, as range text. -/
  rangeText : String

/-- The classes of the Grapheme_Cluster_Break property. -/
def graphemeClusterBreakClasses : List BoundaryClass := [
  ⟨"CR", [],
    "000D"⟩,
  ⟨"Control", ["CN"],
    String.intercalate " " [
      "0000..0009 000B..000C 000E..001F 007F..009F 00AD 061C 180E 200B 200E..200F 2028..202E",
      "2060..206F FEFF FFF0..FFFB 13430..1343F 1BCA0..1BCA3 1D173..1D17A E0000..E001F",
      "E0080..E00FF E01F0..E0FFF"]⟩,
  ⟨"Extend", ["EX"],
    String.intercalate " " [
      "0300..036F 0483..0489 0591..05BD 05BF 05C1..05C2 05C4..05C5 05C7 0610..061A 064B..065F",
      "0670 06D6..06DC 06DF..06E4 06E7..06E8 06EA..06ED 0711 0730..074A 07A6..07B0 07EB..07F3",
      "07FD 0816..0819 081B..0823 0825..0827 0829..082D 0859..085B 0897..089F 08CA..08E1",
      "08E3..0902 093A 093C 0941..0948 094D 0951..0957 0962..0963 0981 09BC 09BE 09C1..09C4",
      "09CD 09D7 09E2..09E3 09FE 0A01..0A02 0A3C 0A41..0A42 0A47..0A48 0A4B..0A4D 0A51",
      "0A70..0A71 0A75 0A81..0A82 0ABC 0AC1..0AC5 0AC7..0AC8 0ACD 0AE2..0AE3 0AFA..0AFF 0B01",
      "0B3C 0B3E..0B3F 0B41..0B44 0B4D 0B55..0B57 0B62..0B63 0B82 0BBE 0BC0 0BCD 0BD7 0C00 0C04",
      "0C3C 0C3E..0C40 0C46..0C48 0C4A..0C4D 0C55..0C56 0C62..0C63 0C81 0CBC 0CBF..0CC0 0CC2",
      "0CC6..0CC8 0CCA..0CCD 0CD5..0CD6 0CE2..0CE3 0D00..0D01 0D3B..0D3C 0D3E 0D41..0D44 0D4D",
      "0D57 0D62..0D63 0D81 0DCA 0DCF 0DD2..0DD4 0DD6 0DDF 0E31 0E34..0E3A 0E47..0E4E 0EB1",
      "0EB4..0EBC 0EC8..0ECE 0F18..0F19 0F35 0F37 0F39 0F71..0F7E 0F80..0F84 0F86..0F87",
      "0F8D..0F97 0F99..0FBC 0FC6 102D..1030 1032..1037 1039..103A 103D..103E 1058..1059",
      "105E..1060 1071..1074 1082 1085..1086 108D 109D 135D..135F 1712..1715 1732..1734",
      "1752..1753 1772..1773 17B4..17B5 17B7..17BD 17C6 17C9..17D3 17DD 180B..180D 180F",
      "1885..1886 18A9 1920..1922 1927..1928 1932 1939..193B 1A17..1A18 1A1B 1A56 1A58..1A5E",
      "1A60 1A62 1A65..1A6C 1A73..1A7C 1A7F 1AB0..1ACE 1B00..1B03 1B34..1B3D 1B42..1B44",
      "1B6B..1B73 1B80..1B81 1BA2..1BA5 1BA8..1BAD 1BE6 1BE8..1BE9 1BED 1BEF..1BF3 1C2C..1C33",
      "1C36..1C37 1CD0..1CD2 1CD4..1CE0 1CE2..1CE8 1CED 1CF4 1CF8..1CF9 1DC0..1DFF 200C",
      "20D0..20F0 2CEF..2CF1 2D7F 2DE0..2DFF 302A..302F 3099..309A A66F..A672 A674..A67D",
      "A69E..A69F A6F0..A6F1 A802 A806 A80B A825..A826 A82C A8C4..A8C5 A8E0..A8F1 A8FF",
      "A926..A92D A947..A951 A953 A980..A982 A9B3 A9B6..A9B9 A9BC..A9BD A9C0 A9E5 AA29..AA2E",
      "AA31..AA32 AA35..AA36 AA43 AA4C AA7C AAB0 AAB2..AAB4 AAB7..AAB8 AABE..AABF AAC1",
      "AAEC..AAED AAF6 ABE5 ABE8 ABED FB1E FE00..FE0F FE20..FE2F FF9E..FF9F 101FD 102E0",
      "10376..1037A 10A01..10A03 10A05..10A06 10A0C..10A0F 10A38..10A3A 10A3F 10AE5..10AE6",
      "10D24..10D27 10D69..10D6D 10EAB..10EAC 10EFC..10EFF 10F46..10F50 10F82..10F85 11001",
      "11038..11046 11070 11073..11074 1107F..11081 110B3..110B6 110B9..110BA 110C2",
      "11100..11102 11127..1112B 1112D..11134 11173 11180..11181 111B6..111BE 111C0",
      "111C9..111CC 111CF 1122F..11231 11234..11237 1123E 11241 112DF 112E3..112EA 11300..11301",
      "1133B..1133C 1133E 11340 1134D 11357 11366..1136C 11370..11374 113B8 113BB..113C0 113C2",
      "113C5 113C7..113C9 113CE..113D0 113D2 113E1..113E2 11438..1143F 11442..11444 11446 1145E",
      "114B0 114B3..114B8 114BA 114BD 114BF..114C0 114C2..114C3 115AF 115B2..115B5 115BC..115BD",
      "115BF..115C0 115DC..115DD 11633..1163A 1163D 1163F..11640 116AB 116AD 116B0..116B7 1171D",
      "1171F 11722..11725 11727..1172B 1182F..11837 11839..1183A 11930 1193B..1193E 11943",
      "119D4..119D7 119DA..119DB 119E0 11A01..11A0A 11A33..11A38 11A3B..11A3E 11A47",
      "11A51..11A56 11A59..11A5B 11A8A..11A96 11A98..11A99 11C30..11C36 11C38..11C3D 11C3F",
      "11C92..11CA7 11CAA..11CB0 11CB2..11CB3 11CB5..11CB6 11D31..11D36 11D3A 11D3C..11D3D",
      "11D3F..11D45 11D47 11D90..11D91 11D95 11D97 11EF3..11EF4 11F00..11F01 11F36..11F3A",
      "11F40..11F42 11F5A 13440 13447..13455 1611E..16129 1612D..1612F 16AF0..16AF4",
      "16B30..16B36 16F4F 16F8F..16F92 16FE4 16FF0..16FF1 1BC9D..1BC9E 1CF00..1CF2D",
      "1CF30..1CF46 1D165..1D169 1D16D..1D172 1D17B..1D182 1D185..1D18B 1D1AA..1D1AD",
      "1D242..1D244 1DA00..1DA36 1DA3B..1DA6C 1DA75 1DA84 1DA9B..1DA9F 1DAA1..1DAAF",
      "1E000..1E006 1E008..1E018 1E01B..1E021 1E023..1E024 1E026..1E02A 1E08F 1E130..1E136",
      "1E2AE 1E2EC..1E2EF 1E4EC..1E4EF 1E5EE..1E5EF 1E8D0..1E8D6 1E944..1E94A 1F3FB..1F3FF",
      "E0020..E007F E0100..E01EF"]⟩,
  ⟨"L", [],
    "1100..115F A960..A97C"⟩,
  ⟨"LF", [],
    "000A"⟩,
  ⟨"LV", [],
    String.intercalate " " [
      "AC00 AC1C AC38 AC54 AC70 AC8C ACA8 ACC4 ACE0 ACFC AD18 AD34 AD50 AD6C AD88 ADA4 ADC0",
      "ADDC ADF8 AE14 AE30 AE4C AE68 AE84 AEA0 AEBC AED8 AEF4 AF10 AF2C AF48 AF64 AF80 AF9C",
      "AFB8 AFD4 AFF0 B00C B028 B044 B060 B07C B098 B0B4 B0D0 B0EC B108 B124 B140 B15C B178",
      "B194 B1B0 B1CC B1E8 B204 B220 B23C B258 B274 B290 B2AC B2C8 B2E4 B300 B31C B338 B354",
      "B370 B38C B3A8 B3C4 B3E0 B3FC B418 B434 B450 B46C B488 B4A4 B4C0 B4DC B4F8 B514 B530",
      "B54C B568 B584 B5A0 B5BC B5D8 B5F4 B610 B62C B648 B664 B680 B69C B6B8 B6D4 B6F0 B70C",
      "B728 B744 B760 B77C B798 B7B4 B7D0 B7EC B808 B824 B840 B85C B878 B894 B8B0 B8CC B8E8",
      "B904 B920 B93C B958 B974 B990 B9AC B9C8 B9E4 BA00 BA1C BA38 BA54 BA70 BA8C BAA8 BAC4",
      "BAE0 BAFC BB18 BB34 BB50 BB6C BB88 BBA4 BBC0 BBDC BBF8 BC14 BC30 BC4C BC68 BC84 BCA0",
      "BCBC BCD8 BCF4 BD10 BD2C BD48 BD64 BD80 BD9C BDB8 BDD4 BDF0 BE0C BE28 BE44 BE60 BE7C",
      "BE98 BEB4 BED0 BEEC BF08 BF24 BF40 BF5C BF78 BF94 BFB0 BFCC BFE8 C004 C020 C03C C058",
      "C074 C090 C0AC C0C8 C0E4 C100 C11C C138 C154 C170 C18C C1A8 C1C4 C1E0 C1FC C218 C234",
      "C250 C26C C288 C2A4 C2C0 C2DC C2F8 C314 C330 C34C C368 C384 C3A0 C3BC C3D8 C3F4 C410",
      "C42C C448 C464 C480 C49C C4B8 C4D4 C4F0 C50C C528 C544 C560 C57C C598 C5B4 C5D0 C5EC",
      "C608 C624 C640 C65C C678 C694 C6B0 C6CC C6E8 C704 C720 C73C C758 C774 C790 C7AC C7C8",
      "C7E4 C800 C81C C838 C854 C870 C88C C8A8 C8C4 C8E0 C8FC C918 C934 C950 C96C C988 C9A4",
      "C9C0 C9DC C9F8 CA14 CA30 CA4C CA68 CA84 CAA0 CABC CAD8 CAF4 CB10 CB2C CB48 CB64 CB80",
      "CB9C CBB8 CBD4 CBF0 CC0C CC28 CC44 CC60 CC7C CC98 CCB4 CCD0 CCEC CD08 CD24 CD40 CD5C",
      "CD78 CD94 CDB0 CDCC CDE8 CE04 CE20 CE3C CE58 CE74 CE90 CEAC CEC8 CEE4 CF00 CF1C CF38",
      "CF54 CF70 CF8C CFA8 CFC4 CFE0 CFFC D018 D034 D050 D06C D088 D0A4 D0C0 D0DC D0F8 D114",
      "D130 D14C D168 D184 D1A0 D1BC D1D8 D1F4 D210 D22C D248 D264 D280 D29C D2B8 D2D4 D2F0",
      "D30C D328 D344 D360 D37C D398 D3B4 D3D0 D3EC D408 D424 D440 D45C D478 D494 D4B0 D4CC",
      "D4E8 D504 D520 D53C D558 D574 D590 D5AC D5C8 D5E4 D600 D61C D638 D654 D670 D68C D6A8",
      "D6C4 D6E0 D6FC D718 D734 D750 D76C D788"]⟩,
  ⟨"LVT", [],
    String.intercalate " " [
      "AC01..AC1B AC1D..AC37 AC39..AC53 AC55..AC6F AC71..AC8B AC8D..ACA7 ACA9..ACC3 ACC5..ACDF",
      "ACE1..ACFB ACFD..AD17 AD19..AD33 AD35..AD4F AD51..AD6B AD6D..AD87 AD89..ADA3 ADA5..ADBF",
      "ADC1..ADDB ADDD..ADF7 ADF9..AE13 AE15..AE2F AE31..AE4B AE4D..AE67 AE69..AE83 AE85..AE9F",
      "AEA1..AEBB AEBD..AED7 AED9..AEF3 AEF5..AF0F AF11..AF2B AF2D..AF47 AF49..AF63 AF65..AF7F",
      "AF81..AF9B AF9D..AFB7 AFB9..AFD3 AFD5..AFEF AFF1..B00B B00D..B027 B029..B043 B045..B05F",
      "B061..B07B B07D..B097 B099..B0B3 B0B5..B0CF B0D1..B0EB B0ED..B107 B109..B123 B125..B13F",
      "B141..B15B B15D..B177 B179..B193 B195..B1AF B1B1..B1CB B1CD..B1E7 B1E9..B203 B205..B21F",
      "B221..B23B B23D..B257 B259..B273 B275..B28F B291..B2AB B2AD..B2C7 B2C9..B2E3 B2E5..B2FF",
      "B301..B31B B31D..B337 B339..B353 B355..B36F B371..B38B B38D..B3A7 B3A9..B3C3 B3C5..B3DF",
      "B3E1..B3FB B3FD..B417 B419..B433 B435..B44F B451..B46B B46D..B487 B489..B4A3 B4A5..B4BF",
      "B4C1..B4DB B4DD..B4F7 B4F9..B513 B515..B52F B531..B54B B54D..B567 B569..B583 B585..B59F",
      "B5A1..B5BB B5BD..B5D7 B5D9..B5F3 B5F5..B60F B611..B62B B62D..B647 B649..B663 B665..B67F",
      "B681..B69B B69D..B6B7 B6B9..B6D3 B6D5..B6EF B6F1..B70B B70D..B727 B729..B743 B745..B75F",
      "B761..B77B B77D..B797 B799..B7B3 B7B5..B7CF B7D1..B7EB B7ED..B807 B809..B823 B825..B83F",
      "B841..B85B B85D..B877 B879..B893 B895..B8AF B8B1..B8CB B8CD..B8E7 B8E9..B903 B905..B91F",
      "B921..B93B B93D..B957 B959..B973 B975..B98F B991..B9AB B9AD..B9C7 B9C9..B9E3 B9E5..B9FF",
      "BA01..BA1B BA1D..BA37 BA39..BA53 BA55..BA6F BA71..BA8B BA8D..BAA7 BAA9..BAC3 BAC5..BADF",
      "BAE1..BAFB BAFD..BB17 BB19..BB33 BB35..BB4F BB51..BB6B BB6D..BB87 BB89..BBA3 BBA5..BBBF",
      "BBC1..BBDB BBDD..BBF7 BBF9..BC13 BC15..BC2F BC31..BC4B BC4D..BC67 BC69..BC83 BC85..BC9F",
      "BCA1..BCBB BCBD..BCD7 BCD9..BCF3 BCF5..BD0F BD11..BD2B BD2D..BD47 BD49..BD63 BD65..BD7F",
      "BD81..BD9B BD9D..BDB7 BDB9..BDD3 BDD5..BDEF BDF1..BE0B BE0D..BE27 BE29..BE43 BE45..BE5F",
      "BE61..BE7B BE7D..BE97 BE99..BEB3 BEB5..BECF BED1..BEEB BEED..BF07 BF09..BF23 BF25..BF3F",
      "BF41..BF5B BF5D..BF77 BF79..BF93 BF95..BFAF BFB1..BFCB BFCD..BFE7 BFE9..C003 C005..C01F",
      "C021..C03B C03D..C057 C059..C073 C075..C08F C091..C0AB C0AD..C0C7 C0C9..C0E3 C0E5..C0FF",
      "C101..C11B C11D..C137 C139..C153 C155..C16F C171..C18B C18D..C1A7 C1A9..C1C3 C1C5..C1DF",
      "C1E1..C1FB C1FD..C217 C219..C233 C235..C24F C251..C26B C26D..C287 C289..C2A3 C2A5..C2BF",
      "C2C1..C2DB C2DD..C2F7 C2F9..C313 C315..C32F C331..C34B C34D..C367 C369..C383 C385..C39F",
      "C3A1..C3BB C3BD..C3D7 C3D9..C3F3 C3F5..C40F C411..C42B C42D..C447 C449..C463 C465..C47F",
      "C481..C49B C49D..C4B7 C4B9..C4D3 C4D5..C4EF C4F1..C50B C50D..C527 C529..C543 C545..C55F",
      "C561..C57B C57D..C597 C599..C5B3 C5B5..C5CF C5D1..C5EB C5ED..C607 C609..C623 C625..C63F",
      "C641..C65B C65D..C677 C679..C693 C695..C6AF C6B1..C6CB C6CD..C6E7 C6E9..C703 C705..C71F",
      "C721..C73B C73D..C757 C759..C773 C775..C78F C791..C7AB C7AD..C7C7 C7C9..C7E3 C7E5..C7FF",
      "C801..C81B C81D..C837 C839..C853 C855..C86F C871..C88B C88D..C8A7 C8A9..C8C3 C8C5..C8DF",
      "C8E1..C8FB C8FD..C917 C919..C933 C935..C94F C951..C96B C96D..C987 C989..C9A3 C9A5..C9BF",
      "C9C1..C9DB C9DD..C9F7 C9F9..CA13 CA15..CA2F CA31..CA4B CA4D..CA67 CA69..CA83 CA85..CA9F",
      "CAA1..CABB CABD..CAD7 CAD9..CAF3 CAF5..CB0F CB11..CB2B CB2D..CB47 CB49..CB63 CB65..CB7F",
      "CB81..CB9B CB9D..CBB7 CBB9..CBD3 CBD5..CBEF CBF1..CC0B CC0D..CC27 CC29..CC43 CC45..CC5F",
      "CC61..CC7B CC7D..CC97 CC99..CCB3 CCB5..CCCF CCD1..CCEB CCED..CD07 CD09..CD23 CD25..CD3F",
      "CD41..CD5B CD5D..CD77 CD79..CD93 CD95..CDAF CDB1..CDCB CDCD..CDE7 CDE9..CE03 CE05..CE1F",
      "CE21..CE3B CE3D..CE57 CE59..CE73 CE75..CE8F CE91..CEAB CEAD..CEC7 CEC9..CEE3 CEE5..CEFF",
      "CF01..CF1B CF1D..CF37 CF39..CF53 CF55..CF6F CF71..CF8B CF8D..CFA7 CFA9..CFC3 CFC5..CFDF",
      "CFE1..CFFB CFFD..D017 D019..D033 D035..D04F D051..D06B D06D..D087 D089..D0A3 D0A5..D0BF",
      "D0C1..D0DB D0DD..D0F7 D0F9..D113 D115..D12F D131..D14B D14D..D167 D169..D183 D185..D19F",
      "D1A1..D1BB D1BD..D1D7 D1D9..D1F3 D1F5..D20F D211..D22B D22D..D247 D249..D263 D265..D27F",
      "D281..D29B D29D..D2B7 D2B9..D2D3 D2D5..D2EF D2F1..D30B D30D..D327 D329..D343 D345..D35F",
      "D361..D37B D37D..D397 D399..D3B3 D3B5..D3CF D3D1..D3EB D3ED..D407 D409..D423 D425..D43F",
      "D441..D45B D45D..D477 D479..D493 D495..D4AF D4B1..D4CB D4CD..D4E7 D4E9..D503 D505..D51F",
      "D521..D53B D53D..D557 D559..D573 D575..D58F D591..D5AB D5AD..D5C7 D5C9..D5E3 D5E5..D5FF",
      "D601..D61B D61D..D637 D639..D653 D655..D66F D671..D68B D68D..D6A7 D6A9..D6C3 D6C5..D6DF",
      "D6E1..D6FB D6FD..D717 D719..D733 D735..D74F D751..D76B D76D..D787 D789..D7A3"]⟩,
  ⟨"Prepend", ["PP"],
    String.intercalate " " [
      "0600..0605 06DD 070F 0890..0891 08E2 0D4E 110BD 110CD 111C2..111C3 113D1 1193F 11941",
      "11A3A 11A84..11A89 11D46 11F02"]⟩,
  ⟨"Regional_Indicator", ["RI"],
    "1F1E6..1F1FF"⟩,
  ⟨"SpacingMark", ["SM"],
    String.intercalate " " [
      "0903 093B 093E..0940 0949..094C 094E..094F 0982..0983 09BF..09C0 09C7..09C8 09CB..09CC",
      "0A03 0A3E..0A40 0A83 0ABE..0AC0 0AC9 0ACB..0ACC 0B02..0B03 0B40 0B47..0B48 0B4B..0B4C",
      "0BBF 0BC1..0BC2 0BC6..0BC8 0BCA..0BCC 0C01..0C03 0C41..0C44 0C82..0C83 0CBE 0CC1",
      "0CC3..0CC4 0CF3 0D02..0D03 0D3F..0D40 0D46..0D48 0D4A..0D4C 0D82..0D83 0DD0..0DD1",
      "0DD8..0DDE 0DF2..0DF3 0E33 0EB3 0F3E..0F3F 0F7F 1031 103B..103C 1056..1057 1084 17B6",
      "17BE..17C5 17C7..17C8 1923..1926 1929..192B 1930..1931 1933..1938 1A19..1A1A 1A55 1A57",
      "1A6D..1A72 1B04 1B3E..1B41 1B82 1BA1 1BA6..1BA7 1BE7 1BEA..1BEC 1BEE 1C24..1C2B",
      "1C34..1C35 1CE1 1CF7 A823..A824 A827 A880..A881 A8B4..A8C3 A952 A983 A9B4..A9B5",
      "A9BA..A9BB A9BE..A9BF AA2F..AA30 AA33..AA34 AA4D AAEB AAEE..AAEF AAF5 ABE3..ABE4",
      "ABE6..ABE7 ABE9..ABEA ABEC 11000 11002 11082 110B0..110B2 110B7..110B8 1112C",
      "11145..11146 11182 111B3..111B5 111BF 111CE 1122C..1122E 11232..11233 112E0..112E2",
      "11302..11303 1133F 11341..11344 11347..11348 1134B..1134C 11362..11363 113B9..113BA",
      "113CA 113CC..113CD 11435..11437 11440..11441 11445 114B1..114B2 114B9 114BB..114BC 114BE",
      "114C1 115B0..115B1 115B8..115BB 115BE 11630..11632 1163B..1163C 1163E 116AC 116AE..116AF",
      "1171E 11726 1182C..1182E 11838 11931..11935 11937..11938 11940 11942 119D1..119D3",
      "119DC..119DF 119E4 11A39 11A57..11A58 11A97 11C2F 11C3E 11CA9 11CB1 11CB4 11D8A..11D8E",
      "11D93..11D94 11D96 11EF5..11EF6 11F03 11F34..11F35 11F3E..11F3F 1612A..1612C",
      "16F51..16F87"]⟩,
  ⟨"T", [],
    "11A8..11FF D7CB..D7FB"⟩,
  ⟨"V", [],
    "1160..11A7 D7B0..D7C6"⟩,
  ⟨"ZWJ", [],
    "200D"⟩]

/-- The classes of the Sentence_Break property. -/
def sentenceBreakClasses : List BoundaryClass := [
  ⟨"ATerm", ["AT"],
    "002E 2024 FE52 FF0E"⟩,
  ⟨"CR", [],
    "000D"⟩,
  ⟨"Close", ["CL"],
    String.intercalate " " [
      "0022 0027..0029 005B 005D 007B 007D 00AB 00BB 0F3A..0F3D 169B..169C 2018..201F",
      "2039..203A 2045..2046 207D..207E 208D..208E 2308..230B 2329..232A 275B..2760 2768..2775",
      "27C5..27C6 27E6..27EF 2983..2998 29D8..29DB 29FC..29FD 2E00..2E0D 2E1C..2E1D 2E20..2E29",
      "2E42 2E55..2E5C 3008..3011 3014..301B 301D..301F FD3E..FD3F FE17..FE18 FE35..FE44",
      "FE47..FE48 FE59..FE5E FF08..FF09 FF3B FF3D FF5B FF5D FF5F..FF60 FF62..FF63 1F676..1F678"]⟩,
  ⟨"Extend", ["EX"],
    String.intercalate " " [
      "0300..036F 0483..0489 0591..05BD 05BF 05C1..05C2 05C4..05C5 05C7 0610..061A 064B..065F",
      "0670 06D6..06DC 06DF..06E4 06E7..06E8 06EA..06ED 0711 0730..074A 07A6..07B0 07EB..07F3",
      "07FD 0816..0819 081B..0823 0825..0827 0829..082D 0859..085B 0897..089F 08CA..08E1",
      "08E3..0903 093A..093C 093E..094F 0951..0957 0962..0963 0981..0983 09BC 09BE..09C4",
      "09C7..09C8 09CB..09CD 09D7 09E2..09E3 09FE 0A01..0A03 0A3C 0A3E..0A42 0A47..0A48",
      "0A4B..0A4D 0A51 0A70..0A71 0A75 0A81..0A83 0ABC 0ABE..0AC5 0AC7..0AC9 0ACB..0ACD",
      "0AE2..0AE3 0AFA..0AFF 0B01..0B03 0B3C 0B3E..0B44 0B47..0B48 0B4B..0B4D 0B55..0B57",
      "0B62..0B63 0B82 0BBE..0BC2 0BC6..0BC8 0BCA..0BCD 0BD7 0C00..0C04 0C3C 0C3E..0C44",
      "0C46..0C48 0C4A..0C4D 0C55..0C56 0C62..0C63 0C81..0C83 0CBC 0CBE..0CC4 0CC6..0CC8",
      "0CCA..0CCD 0CD5..0CD6 0CE2..0CE3 0CF3 0D00..0D03 0D3B..0D3C 0D3E..0D44 0D46..0D48",
      "0D4A..0D4D 0D57 0D62..0D63 0D81..0D83 0DCA 0DCF..0DD4 0DD6 0DD8..0DDF 0DF2..0DF3 0E31",
      "0E34..0E3A 0E47..0E4E 0EB1 0EB4..0EBC 0EC8..0ECE 0F18..0F19 0F35 0F37 0F39 0F3E..0F3F",
      "0F71..0F84 0F86..0F87 0F8D..0F97 0F99..0FBC 0FC6 102B..103E 1056..1059 105E..1060",
      "1062..1064 1067..106D 1071..1074 1082..108D 108F 109A..109D 135D..135F 1712..1715",
      "1732..1734 1752..1753 1772..1773 17B4..17D3 17DD 180B..180D 180F 1885..1886 18A9",
      "1920..192B 1930..193B 1A17..1A1B 1A55..1A5E 1A60..1A7C 1A7F 1AB0..1ACE 1B00..1B04",
      "1B34..1B44 1B6B..1B73 1B80..1B82 1BA1..1BAD 1BE6..1BF3 1C24..1C37 1CD0..1CD2 1CD4..1CE8",
      "1CED 1CF4 1CF7..1CF9 1DC0..1DFF 200C..200D 20D0..20F0 2CEF..2CF1 2D7F 2DE0..2DFF",
      "302A..302F 3099..309A A66F..A672 A674..A67D A69E..A69F A6F0..A6F1 A802 A806 A80B",
      "A823..A827 A82C A880..A881 A8B4..A8C5 A8E0..A8F1 A8FF A926..A92D A947..A953 A980..A983",
      "A9B3..A9C0 A9E5 AA29..AA36 AA43 AA4C..AA4D AA7B..AA7D AAB0 AAB2..AAB4 AAB7..AAB8",
      "AABE..AABF AAC1 AAEB..AAEF AAF5..AAF6 ABE3..ABEA ABEC..ABED FB1E FE00..FE0F FE20..FE2F",
      "FF9E..FF9F 101FD 102E0 10376..1037A 10A01..10A03 10A05..10A06 10A0C..10A0F 10A38..10A3A",
      "10A3F 10AE5..10AE6 10D24..10D27 10D69..10D6D 10EAB..10EAC 10EFC..10EFF 10F46..10F50",
      "10F82..10F85 11000..11002 11038..11046 11070 11073..11074 1107F..11082 110B0..110BA",
      "110C2 11100..11102 11127..11134 11145..11146 11173 11180..11182 111B3..111C0",
      "111C9..111CC 111CE..111CF 1122C..11237 1123E 11241 112DF..112EA 11300..11303",
      "1133B..1133C 1133E..11344 11347..11348 1134B..1134D 11357 11362..11363 11366..1136C",
      "11370..11374 113B8..113C0 113C2 113C5 113C7..113CA 113CC..113D0 113D2 113E1..113E2",
      "11435..11446 1145E 114B0..114C3 115AF..115B5 115B8..115C0 115DC..115DD 11630..11640",
      "116AB..116B7 1171D..1172B 1182C..1183A 11930..11935 11937..11938 1193B..1193E 11940",
      "11942..11943 119D1..119D7 119DA..119E0 119E4 11A01..11A0A 11A33..11A39 11A3B..11A3E",
      "11A47 11A51..11A5B 11A8A..11A99 11C2F..11C36 11C38..11C3F 11C92..11CA7 11CA9..11CB6",
      "11D31..11D36 11D3A 11D3C..11D3D 11D3F..11D45 11D47 11D8A..11D8E 11D90..11D91",
      "11D93..11D97 11EF3..11EF6 11F00..11F01 11F03 11F34..11F3A 11F3E..11F42 11F5A 13440",
      "13447..13455 1611E..1612F 16AF0..16AF4 16B30..16B36 16F4F 16F51..16F87 16F8F..16F92",
      "16FE4 16FF0..16FF1 1BC9D..1BC9E 1CF00..1CF2D 1CF30..1CF46 1D165..1D169 1D16D..1D172",
      "1D17B..1D182 1D185..1D18B 1D1AA..1D1AD 1D242..1D244 1DA00..1DA36 1DA3B..1DA6C 1DA75",
      "1DA84 1DA9B..1DA9F 1DAA1..1DAAF 1E000..1E006 1E008..1E018 1E01B..1E021 1E023..1E024",
      "1E026..1E02A 1E08F 1E130..1E136 1E2AE 1E2EC..1E2EF 1E4EC..1E4EF 1E5EE..1E5EF",
      "1E8D0..1E8D6 1E944..1E94A E0020..E007F E0100..E01EF"]⟩,
  ⟨"Format", ["FO"],
    String.intercalate " " [
      "00AD 0600..0605 061C 06DD 070F 0890..0891 08E2 180E 200B 200E..200F 202A..202E",
      "2060..2064 2066..206F FEFF FFF9..FFFB 110BD 110CD 13430..1343F 1BCA0..1BCA3 1D173..1D17A",
      "E0001"]⟩,
  ⟨"LF", [],
    "000A"⟩,
  ⟨"Lower", ["LO"],
    String.intercalate " " [
      "0061..007A 00AA 00B5 00BA 00DF..00F6 00F8..00FF 0101 0103 0105 0107 0109 010B 010D 010F",
      "0111 0113 0115 0117 0119 011B 011D 011F 0121 0123 0125 0127 0129 012B 012D 012F 0131",
      "0133 0135 0137..0138 013A 013C 013E 0140 0142 0144 0146 0148..0149 014B 014D 014F 0151",
      "0153 0155 0157 0159 015B 015D 015F 0161 0163 0165 0167 0169 016B 016D 016F 0171 0173",
      "0175 0177 017A 017C 017E..0180 0183 0185 0188 018C..018D 0192 0195 0199..019B 019E 01A1",
      "01A3 01A5 01A8 01AA..01AB 01AD 01B0 01B4 01B6 01B9..01BA 01BD..01BF 01C6 01C9 01CC 01CE",
      "01D0 01D2 01D4 01D6 01D8 01DA 01DC..01DD 01DF 01E1 01E3 01E5 01E7 01E9 01EB 01ED",
      "01EF..01F0 01F3 01F5 01F9 01FB 01FD 01FF 0201 0203 0205 0207 0209 020B 020D 020F 0211",
      "0213 0215 0217 0219 021B 021D 021F 0221 0223 0225 0227 0229 022B 022D 022F 0231",
      "0233..0239 023C 023F..0240 0242 0247 0249 024B 024D 024F..0293 0295..02B8 02C0..02C1",
      "02E0..02E4 0371 0373 0377 037A..037D 0390 03AC..03CE 03D0..03D1 03D5..03D7 03D9 03DB",
      "03DD 03DF 03E1 03E3 03E5 03E7 03E9 03EB 03ED 03EF..03F3 03F5 03F8 03FB..03FC 0430..045F",
      "0461 0463 0465 0467 0469 046B 046D 046F 0471 0473 0475 0477 0479 047B 047D 047F 0481",
      "048B 048D 048F 0491 0493 0495 0497 0499 049B 049D 049F 04A1 04A3 04A5 04A7 04A9 04AB",
      "04AD 04AF 04B1 04B3 04B5 04B7 04B9 04BB 04BD 04BF 04C2 04C4 04C6 04C8 04CA 04CC",
      "04CE..04CF 04D1 04D3 04D5 04D7 04D9 04DB 04DD 04DF 04E1 04E3 04E5 04E7 04E9 04EB 04ED",
      "04EF 04F1 04F3 04F5 04F7 04F9 04FB 04FD 04FF 0501 0503 0505 0507 0509 050B 050D 050F",
      "0511 0513 0515 0517 0519 051B 051D 051F 0521 0523 0525 0527 0529 052B 052D 052F",
      "0560..0588 10FC 13F8..13FD 1C80..1C88 1C8A 1D00..1DBF 1E01 1E03 1E05 1E07 1E09 1E0B 1E0D",
      "1E0F 1E11 1E13 1E15 1E17 1E19 1E1B 1E1D 1E1F 1E21 1E23 1E25 1E27 1E29 1E2B 1E2D 1E2F",
      "1E31 1E33 1E35 1E37 1E39 1E3B 1E3D 1E3F 1E41 1E43 1E45 1E47 1E49 1E4B 1E4D 1E4F 1E51",
      "1E53 1E55 1E57 1E59 1E5B 1E5D 1E5F 1E61 1E63 1E65 1E67 1E69 1E6B 1E6D 1E6F 1E71 1E73",
      "1E75 1E77 1E79 1E7B 1E7D 1E7F 1E81 1E83 1E85 1E87 1E89 1E8B 1E8D 1E8F 1E91 1E93",
      "1E95..1E9D 1E9F 1EA1 1EA3 1EA5 1EA7 1EA9 1EAB 1EAD 1EAF 1EB1 1EB3 1EB5 1EB7 1EB9 1EBB",
      "1EBD 1EBF 1EC1 1EC3 1EC5 1EC7 1EC9 1ECB 1ECD 1ECF 1ED1 1ED3 1ED5 1ED7 1ED9 1EDB 1EDD",
      "1EDF 1EE1 1EE3 1EE5 1EE7 1EE9 1EEB 1EED 1EEF 1EF1 1EF3 1EF5 1EF7 1EF9 1EFB 1EFD",
      "1EFF..1F07 1F10..1F15 1F20..1F27 1F30..1F37 1F40..1F45 1F50..1F57 1F60..1F67 1F70..1F7D",
      "1F80..1F87 1F90..1F97 1FA0..1FA7 1FB0..1FB4 1FB6..1FB7 1FBE 1FC2..1FC4 1FC6..1FC7",
      "1FD0..1FD3 1FD6..1FD7 1FE0..1FE7 1FF2..1FF4 1FF6..1FF7 2071 207F 2090..209C 210A",
      "210E..210F 2113 212F 2134 2139 213C..213D 2146..2149 214E 2170..217F 2184 24D0..24E9",
      "2C30..2C5F 2C61 2C65..2C66 2C68 2C6A 2C6C 2C71 2C73..2C74 2C76..2C7D 2C81 2C83 2C85 2C87",
      "2C89 2C8B 2C8D 2C8F 2C91 2C93 2C95 2C97 2C99 2C9B 2C9D 2C9F 2CA1 2CA3 2CA5 2CA7 2CA9",
      "2CAB 2CAD 2CAF 2CB1 2CB3 2CB5 2CB7 2CB9 2CBB 2CBD 2CBF 2CC1 2CC3 2CC5 2CC7 2CC9 2CCB",
      "2CCD 2CCF 2CD1 2CD3 2CD5 2CD7 2CD9 2CDB 2CDD 2CDF 2CE1 2CE3..2CE4 2CEC 2CEE 2CF3",
      "2D00..2D25 2D27 2D2D A641 A643 A645 A647 A649 A64B A64D A64F A651 A653 A655 A657 A659",
      "A65B A65D A65F A661 A663 A665 A667 A669 A66B A66D A681 A683 A685 A687 A689 A68B A68D",
      "A68F A691 A693 A695 A697 A699 A69B..A69D A723 A725 A727 A729 A72B A72D A72F..A731 A733",
      "A735 A737 A739 A73B A73D A73F A741 A743 A745 A747 A749 A74B A74D A74F A751 A753 A755",
      "A757 A759 A75B A75D A75F A761 A763 A765 A767 A769 A76B A76D A76F..A778 A77A A77C A77F",
      "A781 A783 A785 A787 A78C A78E A791 A793..A795 A797 A799 A79B A79D A79F A7A1 A7A3 A7A5",
      "A7A7 A7A9 A7AF A7B5 A7B7 A7B9 A7BB A7BD A7BF A7C1 A7C3 A7C8 A7CA A7CD A7D1 A7D3 A7D5",
      "A7D7 A7D9 A7DB A7F2..A7F4 A7F6 A7F8..A7FA AB30..AB5A AB5C..AB69 AB70..ABBF FB00..FB06",
      "FB13..FB17 FF41..FF5A 10428..1044F 104D8..104FB 10597..105A1 105A3..105B1 105B3..105B9",
      "105BB..105BC 10780 10783..10785 10787..107B0 107B2..107BA 10CC0..10CF2 10D70..10D85",
      "118C0..118DF 16E60..16E7F 1D41A..1D433 1D44E..1D454 1D456..1D467 1D482..1D49B",
      "1D4B6..1D4B9 1D4BB 1D4BD..1D4C3 1D4C5..1D4CF 1D4EA..1D503 1D51E..1D537 1D552..1D56B",
      "1D586..1D59F 1D5BA..1D5D3 1D5EE..1D607 1D622..1D63B 1D656..1D66F 1D68A..1D6A5",
      "1D6C2..1D6DA 1D6DC..1D6E1 1D6FC..1D714 1D716..1D71B 1D736..1D74E 1D750..1D755",
      "1D770..1D788 1D78A..1D78F 1D7AA..1D7C2 1D7C4..1D7C9 1D7CB 1DF00..1DF09 1DF0B..1DF1E",
      "1DF25..1DF2A 1E030..1E06D 1E922..1E943"]⟩,
  ⟨"Numeric", ["NU"],
    String.intercalate " " [
      "0030..0039 0660..0669 066B..066C 06F0..06F9 07C0..07C9 0966..096F 09E6..09EF 0A66..0A6F",
      "0AE6..0AEF 0B66..0B6F 0BE6..0BEF 0C66..0C6F 0CE6..0CEF 0D66..0D6F 0DE6..0DEF 0E50..0E59",
      "0ED0..0ED9 0F20..0F29 1040..1049 1090..1099 17E0..17E9 1810..1819 1946..194F 19D0..19D9",
      "1A80..1A89 1A90..1A99 1B50..1B59 1BB0..1BB9 1C40..1C49 1C50..1C59 A620..A629 A8D0..A8D9",
      "A900..A909 A9D0..A9D9 A9F0..A9F9 AA50..AA59 ABF0..ABF9 FF10..FF19 104A0..104A9",
      "10D30..10D39 10D40..10D49 11066..1106F 110F0..110F9 11136..1113F 111D0..111D9",
      "112F0..112F9 11450..11459 114D0..114D9 11650..11659 116C0..116C9 116D0..116E3",
      "11730..11739 118E0..118E9 11950..11959 11BF0..11BF9 11C50..11C59 11D50..11D59",
      "11DA0..11DA9 11F50..11F59 16130..16139 16A60..16A69 16AC0..16AC9 16B50..16B59",
      "16D70..16D79 1CCF0..1CCF9 1D7CE..1D7FF 1E140..1E149 1E2F0..1E2F9 1E4F0..1E4F9",
      "1E5F1..1E5FA 1E950..1E959 1FBF0..1FBF9"]⟩,
  ⟨"OLetter", ["LE"],
    String.intercalate " " [
      "01BB 01C0..01C3 0294 02B9..02BF 02C6..02D1 02EC 02EE 0374 0559 05D0..05EA 05EF..05F3",
      "0620..064A 066E..066F 0671..06D3 06D5 06E5..06E6 06EE..06EF 06FA..06FC 06FF 0710",
      "0712..072F 074D..07A5 07B1 07CA..07EA 07F4..07F5 07FA 0800..0815 081A 0824 0828",
      "0840..0858 0860..086A 0870..0887 0889..088E 08A0..08C9 0904..0939 093D 0950 0958..0961",
      "0971..0980 0985..098C 098F..0990 0993..09A8 09AA..09B0 09B2 09B6..09B9 09BD 09CE",
      "09DC..09DD 09DF..09E1 09F0..09F1 09FC 0A05..0A0A 0A0F..0A10 0A13..0A28 0A2A..0A30",
      "0A32..0A33 0A35..0A36 0A38..0A39 0A59..0A5C 0A5E 0A72..0A74 0A85..0A8D 0A8F..0A91",
      "0A93..0AA8 0AAA..0AB0 0AB2..0AB3 0AB5..0AB9 0ABD 0AD0 0AE0..0AE1 0AF9 0B05..0B0C",
      "0B0F..0B10 0B13..0B28 0B2A..0B30 0B32..0B33 0B35..0B39 0B3D 0B5C..0B5D 0B5F..0B61 0B71",
      "0B83 0B85..0B8A 0B8E..0B90 0B92..0B95 0B99..0B9A 0B9C 0B9E..0B9F 0BA3..0BA4 0BA8..0BAA",
      "0BAE..0BB9 0BD0 0C05..0C0C 0C0E..0C10 0C12..0C28 0C2A..0C39 0C3D 0C58..0C5A 0C5D",
      "0C60..0C61 0C80 0C85..0C8C 0C8E..0C90 0C92..0CA8 0CAA..0CB3 0CB5..0CB9 0CBD 0CDD..0CDE",
      "0CE0..0CE1 0CF1..0CF2 0D04..0D0C 0D0E..0D10 0D12..0D3A 0D3D 0D4E 0D54..0D56 0D5F..0D61",
      "0D7A..0D7F 0D85..0D96 0D9A..0DB1 0DB3..0DBB 0DBD 0DC0..0DC6 0E01..0E30 0E32..0E33",
      "0E40..0E46 0E81..0E82 0E84 0E86..0E8A 0E8C..0EA3 0EA5 0EA7..0EB0 0EB2..0EB3 0EBD",
      "0EC0..0EC4 0EC6 0EDC..0EDF 0F00 0F40..0F47 0F49..0F6C 0F88..0F8C 1000..102A 103F",
      "1050..1055 105A..105D 1061 1065..1066 106E..1070 1075..1081 108E 10D0..10FA 10FD..1248",
      "124A..124D 1250..1256 1258 125A..125D 1260..1288 128A..128D 1290..12B0 12B2..12B5",
      "12B8..12BE 12C0 12C2..12C5 12C8..12D6 12D8..1310 1312..1315 1318..135A 1380..138F",
      "1401..166C 166F..167F 1681..169A 16A0..16EA 16EE..16F8 1700..1711 171F..1731 1740..1751",
      "1760..176C 176E..1770 1780..17B3 17D7 17DC 1820..1878 1880..1884 1887..18A8 18AA",
      "18B0..18F5 1900..191E 1950..196D 1970..1974 1980..19AB 19B0..19C9 1A00..1A16 1A20..1A54",
      "1AA7 1B05..1B33 1B45..1B4C 1B83..1BA0 1BAE..1BAF 1BBA..1BE5 1C00..1C23 1C4D..1C4F",
      "1C5A..1C7D 1C90..1CBA 1CBD..1CBF 1CE9..1CEC 1CEE..1CF3 1CF5..1CF6 1CFA 2135..2138",
      "2180..2182 2185..2188 2D30..2D67 2D6F 2D80..2D96 2DA0..2DA6 2DA8..2DAE 2DB0..2DB6",
      "2DB8..2DBE 2DC0..2DC6 2DC8..2DCE 2DD0..2DD6 2DD8..2DDE 2E2F 3005..3007 3021..3029",
      "3031..3035 3038..303C 3041..3096 309D..309F 30A1..30FA 30FC..30FF 3105..312F 3131..318E",
      "31A0..31BF 31F0..31FF 3400..4DBF 4E00..A48C A4D0..A4FD A500..A60C A610..A61F A62A..A62B",
      "A66E A67F A6A0..A6EF A717..A71F A788 A78F A7F7 A7FB..A801 A803..A805 A807..A80A",
      "A80C..A822 A840..A873 A882..A8B3 A8F2..A8F7 A8FB A8FD..A8FE A90A..A925 A930..A946",
      "A960..A97C A984..A9B2 A9CF A9E0..A9E4 A9E6..A9EF A9FA..A9FE AA00..AA28 AA40..AA42",
      "AA44..AA4B AA60..AA76 AA7A AA7E..AAAF AAB1 AAB5..AAB6 AAB9..AABD AAC0 AAC2 AADB..AADD",
      "AAE0..AAEA AAF2..AAF4 AB01..AB06 AB09..AB0E AB11..AB16 AB20..AB26 AB28..AB2E ABC0..ABE2",
      "AC00..D7A3 D7B0..D7C6 D7CB..D7FB F900..FA6D FA70..FAD9 FB1D FB1F..FB28 FB2A..FB36",
      "FB38..FB3C FB3E FB40..FB41 FB43..FB44 FB46..FBB1 FBD3..FD3D FD50..FD8F FD92..FDC7",
      "FDF0..FDFB FE70..FE74 FE76..FEFC FF66..FF9D FFA0..FFBE FFC2..FFC7 FFCA..FFCF FFD2..FFD7",
      "FFDA..FFDC 10000..1000B 1000D..10026 10028..1003A 1003C..1003D 1003F..1004D 10050..1005D",
      "10080..100FA 10140..10174 10280..1029C 102A0..102D0 10300..1031F 1032D..1034A",
      "10350..10375 10380..1039D 103A0..103C3 103C8..103CF 103D1..103D5 10450..1049D",
      "10500..10527 10530..10563 105C0..105F3 10600..10736 10740..10755 10760..10767",
      "10781..10782 10800..10805 10808 1080A..10835 10837..10838 1083C 1083F..10855",
      "10860..10876 10880..1089E 108E0..108F2 108F4..108F5 10900..10915 10920..10939",
      "10980..109B7 109BE..109BF 10A00 10A10..10A13 10A15..10A17 10A19..10A35 10A60..10A7C",
      "10A80..10A9C 10AC0..10AC7 10AC9..10AE4 10B00..10B35 10B40..10B55 10B60..10B72",
      "10B80..10B91 10C00..10C48 10D00..10D23 10D4A..10D4F 10D6F 10E80..10EA9 10EB0..10EB1",
      "10EC2..10EC4 10F00..10F1C 10F27 10F30..10F45 10F70..10F81 10FB0..10FC4 10FE0..10FF6",
      "11003..11037 11071..11072 11075 11083..110AF 110D0..110E8 11103..11126 11144 11147",
      "11150..11172 11176 11183..111B2 111C1..111C4 111DA 111DC 11200..11211 11213..1122B",
      "1123F..11240 11280..11286 11288 1128A..1128D 1128F..1129D 1129F..112A8 112B0..112DE",
      "11305..1130C 1130F..11310 11313..11328 1132A..11330 11332..11333 11335..11339 1133D",
      "11350 1135D..11361 11380..11389 1138B 1138E 11390..113B5 113B7 113D1 113D3 11400..11434",
      "11447..1144A 1145F..11461 11480..114AF 114C4..114C5 114C7 11580..115AE 115D8..115DB",
      "11600..1162F 11644 11680..116AA 116B8 11700..1171A 11740..11746 11800..1182B",
      "118FF..11906 11909 1190C..11913 11915..11916 11918..1192F 1193F 11941 119A0..119A7",
      "119AA..119D0 119E1 119E3 11A00 11A0B..11A32 11A3A 11A50 11A5C..11A89 11A9D 11AB0..11AF8",
      "11BC0..11BE0 11C00..11C08 11C0A..11C2E 11C40 11C72..11C8F 11D00..11D06 11D08..11D09",
      "11D0B..11D30 11D46 11D60..11D65 11D67..11D68 11D6A..11D89 11D98 11EE0..11EF2 11F02",
      "11F04..11F10 11F12..11F33 11FB0 12000..12399 12400..1246E 12480..12543 12F90..12FF0",
      "13000..1342F 13441..13446 13460..143FA 14400..14646 16100..1611D 16800..16A38",
      "16A40..16A5E 16A70..16ABE 16AD0..16AED 16B00..16B2F 16B40..16B43 16B63..16B77",
      "16B7D..16B8F 16D40..16D6C 16F00..16F4A 16F50 16F93..16F9F 16FE0..16FE1 16FE3",
      "17000..187F7 18800..18CD5 18D00..18D08 1AFF0..1AFF3 1AFF5..1AFFB 1AFFD..1AFFE",
      "1B000..1B122 1B132 1B150..1B152 1B155 1B164..1B167 1B170..1B2FB 1BC00..1BC6A",
      "1BC70..1BC7C 1BC80..1BC88 1BC90..1BC99 1DF0A 1E100..1E12C 1E137..1E13D 1E14E",
      "1E290..1E2AD 1E2C0..1E2EB 1E4D0..1E4EB 1E5D0..1E5ED 1E5F0 1E7E0..1E7E6 1E7E8..1E7EB",
      "1E7ED..1E7EE 1E7F0..1E7FE 1E800..1E8C4 1E94B 1EE00..1EE03 1EE05..1EE1F 1EE21..1EE22",
      "1EE24 1EE27 1EE29..1EE32 1EE34..1EE37 1EE39 1EE3B 1EE42 1EE47 1EE49 1EE4B 1EE4D..1EE4F",
      "1EE51..1EE52 1EE54 1EE57 1EE59 1EE5B 1EE5D 1EE5F 1EE61..1EE62 1EE64 1EE67..1EE6A",
      "1EE6C..1EE72 1EE74..1EE77 1EE79..1EE7C 1EE7E 1EE80..1EE89 1EE8B..1EE9B 1EEA1..1EEA3",
      "1EEA5..1EEA9 1EEAB..1EEBB 20000..2A6DF 2A700..2B739 2B740..2B81D 2B820..2CEA1",
      "2CEB0..2EBE0 2EBF0..2EE5D 2F800..2FA1D 30000..3134A 31350..323AF"]⟩,
  ⟨"SContinue", ["SC"],
    String.intercalate " " [
      "002C..002D 003A 055D 060C..060D 07F8 1802 1808 2013..2014 3001 FE10..FE11 FE13",
      "FE31..FE32 FE50..FE51 FE55 FE58 FE63 FF0C..FF0D FF1A FF64"]⟩,
  ⟨"STerm", ["ST"],
    String.intercalate " " [
      "0021 003F 0589 061D..061F 06D4 0700..0702 07F9 0837 0839 083D..083E 0964..0965",
      "104A..104B 1362 1367..1368 166E 1735..1736 1803 1809 1944..1945 1AA8..1AAB 1B4E..1B4F",
      "1B5A..1B5B 1B5E..1B5F 1B7D..1B7F 1C3B..1C3C 1C7E..1C7F 203C..203D 2047..2049 2E2E 2E3C",
      "2E53..2E54 3002 A4FF A60E..A60F A6F3 A6F7 A876..A877 A8CE..A8CF A92F A9C8..A9C9",
      "AA5D..AA5F AAF0..AAF1 ABEB FE56..FE57 FF01 FF1F FF61 10A56..10A57 10F55..10F59",
      "10F86..10F89 11047..11048 110BE..110C1 11141..11143 111C5..111C6 111CD 111DE..111DF",
      "11238..11239 1123B..1123C 112A9 113D4..113D5 1144B..1144C 115C2..115C3 115C9..115D7",
      "11641..11642 1173C..1173E 11944 11946 11A42..11A43 11A9B..11A9C 11C41..11C42",
      "11EF7..11EF8 11F43..11F44 16A6E..16A6F 16AF5 16B37..16B38 16B44 16D6E..16D6F 16E98 1BC9F",
      "1DA88"]⟩,
  ⟨"Sep", ["SE"],
    "0085 2028..2029"⟩,
  ⟨"Sp", ["SP"],
    "0009 000B..000C 0020 00A0 1680 2000..200A 202F 205F 3000"⟩,
  ⟨"Upper", ["UP"],
    String.intercalate " " [
      "0041..005A 00C0..00D6 00D8..00DE 0100 0102 0104 0106 0108 010A 010C 010E 0110 0112 0114",
      "0116 0118 011A 011C 011E 0120 0122 0124 0126 0128 012A 012C 012E 0130 0132 0134 0136",
      "0139 013B 013D 013F 0141 0143 0145 0147 014A 014C 014E 0150 0152 0154 0156 0158 015A",
      "015C 015E 0160 0162 0164 0166 0168 016A 016C 016E 0170 0172 0174 0176 0178..0179 017B",
      "017D 0181..0182 0184 0186..0187 0189..018B 018E..0191 0193..0194 0196..0198 019C..019D",
      "019F..01A0 01A2 01A4 01A6..01A7 01A9 01AC 01AE..01AF 01B1..01B3 01B5 01B7..01B8 01BC",
      "01C4..01C5 01C7..01C8 01CA..01CB 01CD 01CF 01D1 01D3 01D5 01D7 01D9 01DB 01DE 01E0 01E2",
      "01E4 01E6 01E8 01EA 01EC 01EE 01F1..01F2 01F4 01F6..01F8 01FA 01FC 01FE 0200 0202 0204",
      "0206 0208 020A 020C 020E 0210 0212 0214 0216 0218 021A 021C 021E 0220 0222 0224 0226",
      "0228 022A 022C 022E 0230 0232 023A..023B 023D..023E 0241 0243..0246 0248 024A 024C 024E",
      "0370 0372 0376 037F 0386 0388..038A 038C 038E..038F 0391..03A1 03A3..03AB 03CF",
      "03D2..03D4 03D8 03DA 03DC 03DE 03E0 03E2 03E4 03E6 03E8 03EA 03EC 03EE 03F4 03F7",
      "03F9..03FA 03FD..042F 0460 0462 0464 0466 0468 046A 046C 046E 0470 0472 0474 0476 0478",
      "047A 047C 047E 0480 048A 048C 048E 0490 0492 0494 0496 0498 049A 049C 049E 04A0 04A2",
      "04A4 04A6 04A8 04AA 04AC 04AE 04B0 04B2 04B4 04B6 04B8 04BA 04BC 04BE 04C0..04C1 04C3",
      "04C5 04C7 04C9 04CB 04CD 04D0 04D2 04D4 04D6 04D8 04DA 04DC 04DE 04E0 04E2 04E4 04E6",
      "04E8 04EA 04EC 04EE 04F0 04F2 04F4 04F6 04F8 04FA 04FC 04FE 0500 0502 0504 0506 0508",
      "050A 050C 050E 0510 0512 0514 0516 0518 051A 051C 051E 0520 0522 0524 0526 0528 052A",
      "052C 052E 0531..0556 10A0..10C5 10C7 10CD 13A0..13F5 1C89 1E00 1E02 1E04 1E06 1E08 1E0A",
      "1E0C 1E0E 1E10 1E12 1E14 1E16 1E18 1E1A 1E1C 1E1E 1E20 1E22 1E24 1E26 1E28 1E2A 1E2C",
      "1E2E 1E30 1E32 1E34 1E36 1E38 1E3A 1E3C 1E3E 1E40 1E42 1E44 1E46 1E48 1E4A 1E4C 1E4E",
      "1E50 1E52 1E54 1E56 1E58 1E5A 1E5C 1E5E 1E60 1E62 1E64 1E66 1E68 1E6A 1E6C 1E6E 1E70",
      "1E72 1E74 1E76 1E78 1E7A 1E7C 1E7E 1E80 1E82 1E84 1E86 1E88 1E8A 1E8C 1E8E 1E90 1E92",
      "1E94 1E9E 1EA0 1EA2 1EA4 1EA6 1EA8 1EAA 1EAC 1EAE 1EB0 1EB2 1EB4 1EB6 1EB8 1EBA 1EBC",
      "1EBE 1EC0 1EC2 1EC4 1EC6 1EC8 1ECA 1ECC 1ECE 1ED0 1ED2 1ED4 1ED6 1ED8 1EDA 1EDC 1EDE",
      "1EE0 1EE2 1EE4 1EE6 1EE8 1EEA 1EEC 1EEE 1EF0 1EF2 1EF4 1EF6 1EF8 1EFA 1EFC 1EFE",
      "1F08..1F0F 1F18..1F1D 1F28..1F2F 1F38..1F3F 1F48..1F4D 1F59 1F5B 1F5D 1F5F 1F68..1F6F",
      "1F88..1F8F 1F98..1F9F 1FA8..1FAF 1FB8..1FBC 1FC8..1FCC 1FD8..1FDB 1FE8..1FEC 1FF8..1FFC",
      "2102 2107 210B..210D 2110..2112 2115 2119..211D 2124 2126 2128 212A..212D 2130..2133",
      "213E..213F 2145 2160..216F 2183 24B6..24CF 2C00..2C2F 2C60 2C62..2C64 2C67 2C69 2C6B",
      "2C6D..2C70 2C72 2C75 2C7E..2C80 2C82 2C84 2C86 2C88 2C8A 2C8C 2C8E 2C90 2C92 2C94 2C96",
      "2C98 2C9A 2C9C 2C9E 2CA0 2CA2 2CA4 2CA6 2CA8 2CAA 2CAC 2CAE 2CB0 2CB2 2CB4 2CB6 2CB8",
      "2CBA 2CBC 2CBE 2CC0 2CC2 2CC4 2CC6 2CC8 2CCA 2CCC 2CCE 2CD0 2CD2 2CD4 2CD6 2CD8 2CDA",
      "2CDC 2CDE 2CE0 2CE2 2CEB 2CED 2CF2 A640 A642 A644 A646 A648 A64A A64C A64E A650 A652",
      "A654 A656 A658 A65A A65C A65E A660 A662 A664 A666 A668 A66A A66C A680 A682 A684 A686",
      "A688 A68A A68C A68E A690 A692 A694 A696 A698 A69A A722 A724 A726 A728 A72A A72C A72E",
      "A732 A734 A736 A738 A73A A73C A73E A740 A742 A744 A746 A748 A74A A74C A74E A750 A752",
      "A754 A756 A758 A75A A75C A75E A760 A762 A764 A766 A768 A76A A76C A76E A779 A77B",
      "A77D..A77E A780 A782 A784 A786 A78B A78D A790 A792 A796 A798 A79A A79C A79E A7A0 A7A2",
      "A7A4 A7A6 A7A8 A7AA..A7AE A7B0..A7B4 A7B6 A7B8 A7BA A7BC A7BE A7C0 A7C2 A7C4..A7C7 A7C9",
      "A7CB..A7CC A7D0 A7D6 A7D8 A7DA A7DC A7F5 FF21..FF3A 10400..10427 104B0..104D3",
      "10570..1057A 1057C..1058A 1058C..10592 10594..10595 10C80..10CB2 10D50..10D65",
      "118A0..118BF 16E40..16E5F 1D400..1D419 1D434..1D44D 1D468..1D481 1D49C 1D49E..1D49F",
      "1D4A2 1D4A5..1D4A6 1D4A9..1D4AC 1D4AE..1D4B5 1D4D0..1D4E9 1D504..1D505 1D507..1D50A",
      "1D50D..1D514 1D516..1D51C 1D538..1D539 1D53B..1D53E 1D540..1D544 1D546 1D54A..1D550",
      "1D56C..1D585 1D5A0..1D5B9 1D5D4..1D5ED 1D608..1D621 1D63C..1D655 1D670..1D689",
      "1D6A8..1D6C0 1D6E2..1D6FA 1D71C..1D734 1D756..1D76E 1D790..1D7A8 1D7CA 1E900..1E921",
      "1F130..1F149 1F150..1F169 1F170..1F189"]⟩]

/-- The classes of the Word_Break property. -/
def wordBreakClasses : List BoundaryClass := [
  ⟨"ALetter", ["LE"],
    String.intercalate " " [
      "0041..005A 0061..007A 00AA 00B5 00BA 00C0..00D6 00D8..00F6 00F8..02D7 02DE..02FF",
      "0370..0374 0376..0377 037A..037D 037F 0386 0388..038A 038C 038E..03A1 03A3..03F5",
      "03F7..0481 048A..052F 0531..0556 0559..055C 055E 0560..0588 058A 05F3 0620..064A",
      "066E..066F 0671..06D3 06D5 06E5..06E6 06EE..06EF 06FA..06FC 06FF 0710 0712..072F",
      "074D..07A5 07B1 07CA..07EA 07F4..07F5 07FA 0800..0815 081A 0824 0828 0840..0858",
      "0860..086A 0870..0887 0889..088E 08A0..08C9 0904..0939 093D 0950 0958..0961 0971..0980",
      "0985..098C 098F..0990 0993..09A8 09AA..09B0 09B2 09B6..09B9 09BD 09CE 09DC..09DD",
      "09DF..09E1 09F0..09F1 09FC 0A05..0A0A 0A0F..0A10 0A13..0A28 0A2A..0A30 0A32..0A33",
      "0A35..0A36 0A38..0A39 0A59..0A5C 0A5E 0A72..0A74 0A85..0A8D 0A8F..0A91 0A93..0AA8",
      "0AAA..0AB0 0AB2..0AB3 0AB5..0AB9 0ABD 0AD0 0AE0..0AE1 0AF9 0B05..0B0C 0B0F..0B10",
      "0B13..0B28 0B2A..0B30 0B32..0B33 0B35..0B39 0B3D 0B5C..0B5D 0B5F..0B61 0B71 0B83",
      "0B85..0B8A 0B8E..0B90 0B92..0B95 0B99..0B9A 0B9C 0B9E..0B9F 0BA3..0BA4 0BA8..0BAA",
      "0BAE..0BB9 0BD0 0C05..0C0C 0C0E..0C10 0C12..0C28 0C2A..0C39 0C3D 0C58..0C5A 0C5D",
      "0C60..0C61 0C80 0C85..0C8C 0C8E..0C90 0C92..0CA8 0CAA..0CB3 0CB5..0CB9 0CBD 0CDD..0CDE",
      "0CE0..0CE1 0CF1..0CF2 0D04..0D0C 0D0E..0D10 0D12..0D3A 0D3D 0D4E 0D54..0D56 0D5F..0D61",
      "0D7A..0D7F 0D85..0D96 0D9A..0DB1 0DB3..0DBB 0DBD 0DC0..0DC6 0F00 0F40..0F47 0F49..0F6C",
      "0F88..0F8C 10A0..10C5 10C7 10CD 10D0..10FA 10FC..1248 124A..124D 1250..1256 1258",
      "125A..125D 1260..1288 128A..128D 1290..12B0 12B2..12B5 12B8..12BE 12C0 12C2..12C5",
      "12C8..12D6 12D8..1310 1312..1315 1318..135A 1380..138F 13A0..13F5 13F8..13FD 1401..166C",
      "166F..167F 1681..169A 16A0..16EA 16EE..16F8 1700..1711 171F..1731 1740..1751 1760..176C",
      "176E..1770 1820..1878 1880..1884 1887..18A8 18AA 18B0..18F5 1900..191E 1A00..1A16",
      "1B05..1B33 1B45..1B4C 1B83..1BA0 1BAE..1BAF 1BBA..1BE5 1C00..1C23 1C4D..1C4F 1C5A..1C7D",
      "1C80..1C8A 1C90..1CBA 1CBD..1CBF 1CE9..1CEC 1CEE..1CF3 1CF5..1CF6 1CFA 1D00..1DBF",
      "1E00..1F15 1F18..1F1D 1F20..1F45 1F48..1F4D 1F50..1F57 1F59 1F5B 1F5D 1F5F..1F7D",
      "1F80..1FB4 1FB6..1FBC 1FBE 1FC2..1FC4 1FC6..1FCC 1FD0..1FD3 1FD6..1FDB 1FE0..1FEC",
      "1FF2..1FF4 1FF6..1FFC 2071 207F 2090..209C 2102 2107 210A..2113 2115 2119..211D 2124",
      "2126 2128 212A..212D 212F..2139 213C..213F 2145..2149 214E 2160..2188 24B6..24E9",
      "2C00..2CE4 2CEB..2CEE 2CF2..2CF3 2D00..2D25 2D27 2D2D 2D30..2D67 2D6F 2D80..2D96",
      "2DA0..2DA6 2DA8..2DAE 2DB0..2DB6 2DB8..2DBE 2DC0..2DC6 2DC8..2DCE 2DD0..2DD6 2DD8..2DDE",
      "2E2F 3005 303B..303C 3105..312F 3131..318E 31A0..31BF A000..A48C A4D0..A4FD A500..A60C",
      "A610..A61F A62A..A62B A640..A66E A67F..A69D A6A0..A6EF A708..A7CD A7D0..A7D1 A7D3",
      "A7D5..A7DC A7F2..A801 A803..A805 A807..A80A A80C..A822 A840..A873 A882..A8B3 A8F2..A8F7",
      "A8FB A8FD..A8FE A90A..A925 A930..A946 A960..A97C A984..A9B2 A9CF AA00..AA28 AA40..AA42",
      "AA44..AA4B AAE0..AAEA AAF2..AAF4 AB01..AB06 AB09..AB0E AB11..AB16 AB20..AB26 AB28..AB2E",
      "AB30..AB69 AB70..ABE2 AC00..D7A3 D7B0..D7C6 D7CB..D7FB FB00..FB06 FB13..FB17 FB50..FBB1",
      "FBD3..FD3D FD50..FD8F FD92..FDC7 FDF0..FDFB FE70..FE74 FE76..FEFC FF21..FF3A FF41..FF5A",
      "FFA0..FFBE FFC2..FFC7 FFCA..FFCF FFD2..FFD7 FFDA..FFDC 10000..1000B 1000D..10026",
      "10028..1003A 1003C..1003D 1003F..1004D 10050..1005D 10080..100FA 10140..10174",
      "10280..1029C 102A0..102D0 10300..1031F 1032D..1034A 10350..10375 10380..1039D",
      "103A0..103C3 103C8..103CF 103D1..103D5 10400..1049D 104B0..104D3 104D8..104FB",
      "10500..10527 10530..10563 10570..1057A 1057C..1058A 1058C..10592 10594..10595",
      "10597..105A1 105A3..105B1 105B3..105B9 105BB..105BC 105C0..105F3 10600..10736",
      "10740..10755 10760..10767 10780..10785 10787..107B0 107B2..107BA 10800..10805 10808",
      "1080A..10835 10837..10838 1083C 1083F..10855 10860..10876 10880..1089E 108E0..108F2",
      "108F4..108F5 10900..10915 10920..10939 10980..109B7 109BE..109BF 10A00 10A10..10A13",
      "10A15..10A17 10A19..10A35 10A60..10A7C 10A80..10A9C 10AC0..10AC7 10AC9..10AE4",
      "10B00..10B35 10B40..10B55 10B60..10B72 10B80..10B91 10C00..10C48 10C80..10CB2",
      "10CC0..10CF2 10D00..10D23 10D4A..10D65 10D6F..10D85 10E80..10EA9 10EB0..10EB1",
      "10EC2..10EC4 10F00..10F1C 10F27 10F30..10F45 10F70..10F81 10FB0..10FC4 10FE0..10FF6",
      "11003..11037 11071..11072 11075 11083..110AF 110D0..110E8 11103..11126 11144 11147",
      "11150..11172 11176 11183..111B2 111C1..111C4 111DA 111DC 11200..11211 11213..1122B",
      "1123F..11240 11280..11286 11288 1128A..1128D 1128F..1129D 1129F..112A8 112B0..112DE",
      "11305..1130C 1130F..11310 11313..11328 1132A..11330 11332..11333 11335..11339 1133D",
      "11350 1135D..11361 11380..11389 1138B 1138E 11390..113B5 113B7 113D1 113D3 11400..11434",
      "11447..1144A 1145F..11461 11480..114AF 114C4..114C5 114C7 11580..115AE 115D8..115DB",
      "11600..1162F 11644 11680..116AA 116B8 11800..1182B 118A0..118DF 118FF..11906 11909",
      "1190C..11913 11915..11916 11918..1192F 1193F 11941 119A0..119A7 119AA..119D0 119E1 119E3",
      "11A00 11A0B..11A32 11A3A 11A50 11A5C..11A89 11A9D 11AB0..11AF8 11BC0..11BE0 11C00..11C08",
      "11C0A..11C2E 11C40 11C72..11C8F 11D00..11D06 11D08..11D09 11D0B..11D30 11D46",
      "11D60..11D65 11D67..11D68 11D6A..11D89 11D98 11EE0..11EF2 11F02 11F04..11F10",
      "11F12..11F33 11FB0 12000..12399 12400..1246E 12480..12543 12F90..12FF0 13000..1342F",
      "13441..13446 13460..143FA 14400..14646 16100..1611D 16800..16A38 16A40..16A5E",
      "16A70..16ABE 16AD0..16AED 16B00..16B2F 16B40..16B43 16B63..16B77 16B7D..16B8F",
      "16D40..16D6C 16E40..16E7F 16F00..16F4A 16F50 16F93..16F9F 16FE0..16FE1 16FE3",
      "1BC00..1BC6A 1BC70..1BC7C 1BC80..1BC88 1BC90..1BC99 1D400..1D454 1D456..1D49C",
      "1D49E..1D49F 1D4A2 1D4A5..1D4A6 1D4A9..1D4AC 1D4AE..1D4B9 1D4BB 1D4BD..1D4C3",
      "1D4C5..1D505 1D507..1D50A 1D50D..1D514 1D516..1D51C 1D51E..1D539 1D53B..1D53E",
      "1D540..1D544 1D546 1D54A..1D550 1D552..1D6A5 1D6A8..1D6C0 1D6C2..1D6DA 1D6DC..1D6FA",
      "1D6FC..1D714 1D716..1D734 1D736..1D74E 1D750..1D76E 1D770..1D788 1D78A..1D7A8",
      "1D7AA..1D7C2 1D7C4..1D7CB 1DF00..1DF1E 1DF25..1DF2A 1E030..1E06D 1E100..1E12C",
      "1E137..1E13D 1E14E 1E290..1E2AD 1E2C0..1E2EB 1E4D0..1E4EB 1E5D0..1E5ED 1E5F0",
      "1E7E0..1E7E6 1E7E8..1E7EB 1E7ED..1E7EE 1E7F0..1E7FE 1E800..1E8C4 1E900..1E943 1E94B",
      "1EE00..1EE03 1EE05..1EE1F 1EE21..1EE22 1EE24 1EE27 1EE29..1EE32 1EE34..1EE37 1EE39 1EE3B",
      "1EE42 1EE47 1EE49 1EE4B 1EE4D..1EE4F 1EE51..1EE52 1EE54 1EE57 1EE59 1EE5B 1EE5D 1EE5F",
      "1EE61..1EE62 1EE64 1EE67..1EE6A 1EE6C..1EE72 1EE74..1EE77 1EE79..1EE7C 1EE7E",
      "1EE80..1EE89 1EE8B..1EE9B 1EEA1..1EEA3 1EEA5..1EEA9 1EEAB..1EEBB 1F130..1F149",
      "1F150..1F169 1F170..1F189"]⟩,
  ⟨"CR", [],
    "000D"⟩,
  ⟨"Double_Quote", ["DQ"],
    "0022"⟩,
  ⟨"Extend", [],
    String.intercalate " " [
      "0300..036F 0483..0489 0591..05BD 05BF 05C1..05C2 05C4..05C5 05C7 0610..061A 064B..065F",
      "0670 06D6..06DC 06DF..06E4 06E7..06E8 06EA..06ED 0711 0730..074A 07A6..07B0 07EB..07F3",
      "07FD 0816..0819 081B..0823 0825..0827 0829..082D 0859..085B 0897..089F 08CA..08E1",
      "08E3..0903 093A..093C 093E..094F 0951..0957 0962..0963 0981..0983 09BC 09BE..09C4",
      "09C7..09C8 09CB..09CD 09D7 09E2..09E3 09FE 0A01..0A03 0A3C 0A3E..0A42 0A47..0A48",
      "0A4B..0A4D 0A51 0A70..0A71 0A75 0A81..0A83 0ABC 0ABE..0AC5 0AC7..0AC9 0ACB..0ACD",
      "0AE2..0AE3 0AFA..0AFF 0B01..0B03 0B3C 0B3E..0B44 0B47..0B48 0B4B..0B4D 0B55..0B57",
      "0B62..0B63 0B82 0BBE..0BC2 0BC6..0BC8 0BCA..0BCD 0BD7 0C00..0C04 0C3C 0C3E..0C44",
      "0C46..0C48 0C4A..0C4D 0C55..0C56 0C62..0C63 0C81..0C83 0CBC 0CBE..0CC4 0CC6..0CC8",
      "0CCA..0CCD 0CD5..0CD6 0CE2..0CE3 0CF3 0D00..0D03 0D3B..0D3C 0D3E..0D44 0D46..0D48",
      "0D4A..0D4D 0D57 0D62..0D63 0D81..0D83 0DCA 0DCF..0DD4 0DD6 0DD8..0DDF 0DF2..0DF3 0E31",
      "0E34..0E3A 0E47..0E4E 0EB1 0EB4..0EBC 0EC8..0ECE 0F18..0F19 0F35 0F37 0F39 0F3E..0F3F",
      "0F71..0F84 0F86..0F87 0F8D..0F97 0F99..0FBC 0FC6 102B..103E 1056..1059 105E..1060",
      "1062..1064 1067..106D 1071..1074 1082..108D 108F 109A..109D 135D..135F 1712..1715",
      "1732..1734 1752..1753 1772..1773 17B4..17D3 17DD 180B..180D 180F 1885..1886 18A9",
      "1920..192B 1930..193B 1A17..1A1B 1A55..1A5E 1A60..1A7C 1A7F 1AB0..1ACE 1B00..1B04",
      "1B34..1B44 1B6B..1B73 1B80..1B82 1BA1..1BAD 1BE6..1BF3 1C24..1C37 1CD0..1CD2 1CD4..1CE8",
      "1CED 1CF4 1CF7..1CF9 1DC0..1DFF 200C 20D0..20F0 2CEF..2CF1 2D7F 2DE0..2DFF 302A..302F",
      "3099..309A A66F..A672 A674..A67D A69E..A69F A6F0..A6F1 A802 A806 A80B A823..A827 A82C",
      "A880..A881 A8B4..A8C5 A8E0..A8F1 A8FF A926..A92D A947..A953 A980..A983 A9B3..A9C0 A9E5",
      "AA29..AA36 AA43 AA4C..AA4D AA7B..AA7D AAB0 AAB2..AAB4 AAB7..AAB8 AABE..AABF AAC1",
      "AAEB..AAEF AAF5..AAF6 ABE3..ABEA ABEC..ABED FB1E FE00..FE0F FE20..FE2F FF9E..FF9F 101FD",
      "102E0 10376..1037A 10A01..10A03 10A05..10A06 10A0C..10A0F 10A38..10A3A 10A3F",
      "10AE5..10AE6 10D24..10D27 10D69..10D6D 10EAB..10EAC 10EFC..10EFF 10F46..10F50",
      "10F82..10F85 11000..11002 11038..11046 11070 11073..11074 1107F..11082 110B0..110BA",
      "110C2 11100..11102 11127..11134 11145..11146 11173 11180..11182 111B3..111C0",
      "111C9..111CC 111CE..111CF 1122C..11237 1123E 11241 112DF..112EA 11300..11303",
      "1133B..1133C 1133E..11344 11347..11348 1134B..1134D 11357 11362..11363 11366..1136C",
      "11370..11374 113B8..113C0 113C2 113C5 113C7..113CA 113CC..113D0 113D2 113E1..113E2",
      "11435..11446 1145E 114B0..114C3 115AF..115B5 115B8..115C0 115DC..115DD 11630..11640",
      "116AB..116B7 1171D..1172B 1182C..1183A 11930..11935 11937..11938 1193B..1193E 11940",
      "11942..11943 119D1..119D7 119DA..119E0 119E4 11A01..11A0A 11A33..11A39 11A3B..11A3E",
      "11A47 11A51..11A5B 11A8A..11A99 11C2F..11C36 11C38..11C3F 11C92..11CA7 11CA9..11CB6",
      "11D31..11D36 11D3A 11D3C..11D3D 11D3F..11D45 11D47 11D8A..11D8E 11D90..11D91",
      "11D93..11D97 11EF3..11EF6 11F00..11F01 11F03 11F34..11F3A 11F3E..11F42 11F5A 13440",
      "13447..13455 1611E..1612F 16AF0..16AF4 16B30..16B36 16F4F 16F51..16F87 16F8F..16F92",
      "16FE4 16FF0..16FF1 1BC9D..1BC9E 1CF00..1CF2D 1CF30..1CF46 1D165..1D169 1D16D..1D172",
      "1D17B..1D182 1D185..1D18B 1D1AA..1D1AD 1D242..1D244 1DA00..1DA36 1DA3B..1DA6C 1DA75",
      "1DA84 1DA9B..1DA9F 1DAA1..1DAAF 1E000..1E006 1E008..1E018 1E01B..1E021 1E023..1E024",
      "1E026..1E02A 1E08F 1E130..1E136 1E2AE 1E2EC..1E2EF 1E4EC..1E4EF 1E5EE..1E5EF",
      "1E8D0..1E8D6 1E944..1E94A 1F3FB..1F3FF E0020..E007F E0100..E01EF"]⟩,
  ⟨"ExtendNumLet", ["EX"],
    "005F 202F 203F..2040 2054 FE33..FE34 FE4D..FE4F FF3F"⟩,
  ⟨"Format", ["FO"],
    String.intercalate " " [
      "00AD 0600..0605 061C 06DD 070F 0890..0891 08E2 180E 200E..200F 202A..202E 2060..2064",
      "2066..206F FEFF FFF9..FFFB 110BD 110CD 13430..1343F 1BCA0..1BCA3 1D173..1D17A E0001"]⟩,
  ⟨"Hebrew_Letter", ["HL"],
    String.intercalate " " [
      "05D0..05EA 05EF..05F2 FB1D FB1F..FB28 FB2A..FB36 FB38..FB3C FB3E FB40..FB41 FB43..FB44",
      "FB46..FB4F"]⟩,
  ⟨"Katakana", ["KA"],
    String.intercalate " " [
      "3031..3035 309B..309C 30A0..30FA 30FC..30FF 31F0..31FF 32D0..32FE 3300..3357 FF66..FF9D",
      "1AFF0..1AFF3 1AFF5..1AFFB 1AFFD..1AFFE 1B000 1B120..1B122 1B155 1B164..1B167"]⟩,
  ⟨"LF", [],
    "000A"⟩,
  ⟨"MidLetter", ["ML"],
    "003A 00B7 0387 055F 05F4 2027 FE13 FE55 FF1A"⟩,
  ⟨"MidNum", ["MN"],
    "002C 003B 037E 0589 060C..060D 066C 07F8 2044 FE10 FE14 FE50 FE54 FF0C FF1B"⟩,
  ⟨"MidNumLet", ["MB"],
    "002E 2018..2019 2024 FE52 FF07 FF0E"⟩,
  ⟨"Newline", ["NL"],
    "000B..000C 0085 2028..2029"⟩,
  ⟨"Numeric", ["NU"],
    String.intercalate " " [
      "0030..0039 0660..0669 066B 06F0..06F9 07C0..07C9 0966..096F 09E6..09EF 0A66..0A6F",
      "0AE6..0AEF 0B66..0B6F 0BE6..0BEF 0C66..0C6F 0CE6..0CEF 0D66..0D6F 0DE6..0DEF 0E50..0E59",
      "0ED0..0ED9 0F20..0F29 1040..1049 1090..1099 17E0..17E9 1810..1819 1946..194F 19D0..19D9",
      "1A80..1A89 1A90..1A99 1B50..1B59 1BB0..1BB9 1C40..1C49 1C50..1C59 A620..A629 A8D0..A8D9",
      "A900..A909 A9D0..A9D9 A9F0..A9F9 AA50..AA59 ABF0..ABF9 FF10..FF19 104A0..104A9",
      "10D30..10D39 10D40..10D49 11066..1106F 110F0..110F9 11136..1113F 111D0..111D9",
      "112F0..112F9 11450..11459 114D0..114D9 11650..11659 116C0..116C9 116D0..116E3",
      "11730..11739 118E0..118E9 11950..11959 11BF0..11BF9 11C50..11C59 11D50..11D59",
      "11DA0..11DA9 11F50..11F59 16130..16139 16A60..16A69 16AC0..16AC9 16B50..16B59",
      "16D70..16D79 1CCF0..1CCF9 1D7CE..1D7FF 1E140..1E149 1E2F0..1E2F9 1E4F0..1E4F9",
      "1E5F1..1E5FA 1E950..1E959 1FBF0..1FBF9"]⟩,
  ⟨"Regional_Indicator", ["RI"],
    "1F1E6..1F1FF"⟩,
  ⟨"Single_Quote", ["SQ"],
    "0027"⟩,
  ⟨"WSegSpace", [],
    "0020 1680 2000..2006 2008..200A 205F 3000"⟩,
  ⟨"ZWJ", [],
    "200D"⟩]

end ConceptQuery.Unicode
