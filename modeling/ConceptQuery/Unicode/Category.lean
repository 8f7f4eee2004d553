import ConceptQuery.Unicode.RangeText

/-!
# General categories

Every code point of Unicode belongs to one of thirty general categories: five kinds of letters,
three of marks, three of numbers, seven of punctuation, four of symbols, three of separators and
five others (controls, format characters, surrogates, private use and unassigned code points).
`GeneralCategory.rangeText` lists the code points of each as range text. These are the categories
of Unicode 16.0, the version the pattern language follows; surrogates are no characters, so their
category is empty here.
-/

namespace ConceptQuery.Unicode

/-- The general categories of Unicode. -/
inductive GeneralCategory where
  /-- Uppercase Letter (Lu). -/
  | lu
  /-- Lowercase Letter (Ll). -/
  | ll
  /-- Titlecase Letter (Lt). -/
  | lt
  /-- Modifier Letter (Lm). -/
  | lm
  /-- Other Letter (Lo). -/
  | lo
  /-- Nonspacing Mark (Mn). -/
  | mn
  /-- Spacing Mark (Mc). -/
  | mc
  /-- Enclosing Mark (Me). -/
  | me
  /-- Decimal Number (Nd). -/
  | nd
  /-- Letter Number (Nl). -/
  | nl
  /-- Other Number (No). -/
  | no
  /-- Connector Punctuation (Pc). -/
  | pc
  /-- Dash Punctuation (Pd). -/
  | pd
  /-- Open Punctuation (Ps). -/
  | ps
  /-- Close Punctuation (Pe). -/
  | pe
  /-- Initial Punctuation (Pi). -/
  | pi
  /-- Final Punctuation (Pf). -/
  | pf
  /-- Other Punctuation (Po). -/
  | po
  /-- Math Symbol (Sm). -/
  | sm
  /-- Currency Symbol (Sc). -/
  | sc
  /-- Modifier Symbol (Sk). -/
  | sk
  /-- Other Symbol (So). -/
  | so
  /-- Space Separator (Zs). -/
  | zs
  /-- Line Separator (Zl). -/
  | zl
  /-- Paragraph Separator (Zp). -/
  | zp
  /-- Control (Cc). -/
  | cc
  /-- Format (Cf). -/
  | cf
  /-- Surrogate (Cs). -/
  | cs
  /-- Private Use (Co). -/
  | co
  /-- Unassigned (Cn). -/
  | cn
deriving Repr, DecidableEq

namespace GeneralCategory

/-- All general categories, in the order of the character database. -/
def all : List GeneralCategory :=
  [.lu, .ll, .lt, .lm, .lo, .mn, .mc, .me, .nd, .nl, .no, .pc, .pd, .ps, .pe, .pi, .pf, .po, .sm, .sc, .sk, .so, .zs, .zl, .zp, .cc, .cf, .cs, .co, .cn]

/-- The two-letter name of a category. -/
def shortName : GeneralCategory → String
  | .lu => "Lu"
  | .ll => "Ll"
  | .lt => "Lt"
  | .lm => "Lm"
  | .lo => "Lo"
  | .mn => "Mn"
  | .mc => "Mc"
  | .me => "Me"
  | .nd => "Nd"
  | .nl => "Nl"
  | .no => "No"
  | .pc => "Pc"
  | .pd => "Pd"
  | .ps => "Ps"
  | .pe => "Pe"
  | .pi => "Pi"
  | .pf => "Pf"
  | .po => "Po"
  | .sm => "Sm"
  | .sc => "Sc"
  | .sk => "Sk"
  | .so => "So"
  | .zs => "Zs"
  | .zl => "Zl"
  | .zp => "Zp"
  | .cc => "Cc"
  | .cf => "Cf"
  | .cs => "Cs"
  | .co => "Co"
  | .cn => "Cn"

/-- The long name of a category. -/
def longName : GeneralCategory → String
  | .lu => "Uppercase_Letter"
  | .ll => "Lowercase_Letter"
  | .lt => "Titlecase_Letter"
  | .lm => "Modifier_Letter"
  | .lo => "Other_Letter"
  | .mn => "Nonspacing_Mark"
  | .mc => "Spacing_Mark"
  | .me => "Enclosing_Mark"
  | .nd => "Decimal_Number"
  | .nl => "Letter_Number"
  | .no => "Other_Number"
  | .pc => "Connector_Punctuation"
  | .pd => "Dash_Punctuation"
  | .ps => "Open_Punctuation"
  | .pe => "Close_Punctuation"
  | .pi => "Initial_Punctuation"
  | .pf => "Final_Punctuation"
  | .po => "Other_Punctuation"
  | .sm => "Math_Symbol"
  | .sc => "Currency_Symbol"
  | .sk => "Modifier_Symbol"
  | .so => "Other_Symbol"
  | .zs => "Space_Separator"
  | .zl => "Line_Separator"
  | .zp => "Paragraph_Separator"
  | .cc => "Control"
  | .cf => "Format"
  | .cs => "Surrogate"
  | .co => "Private_Use"
  | .cn => "Unassigned"

/-- The code points of a category, as range text. -/
def rangeText : GeneralCategory → String
  | .lu =>
    String.intercalate " " [
      "0041..005A 00C0..00D6 00D8..00DE 0100 0102 0104 0106 0108 010A 010C 010E 0110 0112 0114",
      "0116 0118 011A 011C 011E 0120 0122 0124 0126 0128 012A 012C 012E 0130 0132 0134 0136",
      "0139 013B 013D 013F 0141 0143 0145 0147 014A 014C 014E 0150 0152 0154 0156 0158 015A",
      "015C 015E 0160 0162 0164 0166 0168 016A 016C 016E 0170 0172 0174 0176 0178..0179 017B",
      "017D 0181..0182 0184 0186..0187 0189..018B 018E..0191 0193..0194 0196..0198 019C..019D",
      "019F..01A0 01A2 01A4 01A6..01A7 01A9 01AC 01AE..01AF 01B1..01B3 01B5 01B7..01B8 01BC",
      "01C4 01C7 01CA 01CD 01CF 01D1 01D3 01D5 01D7 01D9 01DB 01DE 01E0 01E2 01E4 01E6 01E8",
      "01EA 01EC 01EE 01F1 01F4 01F6..01F8 01FA 01FC 01FE 0200 0202 0204 0206 0208 020A 020C",
      "020E 0210 0212 0214 0216 0218 021A 021C 021E 0220 0222 0224 0226 0228 022A 022C 022E",
      "0230 0232 023A..023B 023D..023E 0241 0243..0246 0248 024A 024C 024E 0370 0372 0376 037F",
      "0386 0388..038A 038C 038E..038F 0391..03A1 03A3..03AB 03CF 03D2..03D4 03D8 03DA 03DC",
      "03DE 03E0 03E2 03E4 03E6 03E8 03EA 03EC 03EE 03F4 03F7 03F9..03FA 03FD..042F 0460 0462",
      "0464 0466 0468 046A 046C 046E 0470 0472 0474 0476 0478 047A 047C 047E 0480 048A 048C",
      "048E 0490 0492 0494 0496 0498 049A 049C 049E 04A0 04A2 04A4 04A6 04A8 04AA 04AC 04AE",
      "04B0 04B2 04B4 04B6 04B8 04BA 04BC 04BE 04C0..04C1 04C3 04C5 04C7 04C9 04CB 04CD 04D0",
      "04D2 04D4 04D6 04D8 04DA 04DC 04DE 04E0 04E2 04E4 04E6 04E8 04EA 04EC 04EE 04F0 04F2",
      "04F4 04F6 04F8 04FA 04FC 04FE 0500 0502 0504 0506 0508 050A 050C 050E 0510 0512 0514",
      "0516 0518 051A 051C 051E 0520 0522 0524 0526 0528 052A 052C 052E 0531..0556 10A0..10C5",
      "10C7 10CD 13A0..13F5 1C89 1C90..1CBA 1CBD..1CBF 1E00 1E02 1E04 1E06 1E08 1E0A 1E0C 1E0E",
      "1E10 1E12 1E14 1E16 1E18 1E1A 1E1C 1E1E 1E20 1E22 1E24 1E26 1E28 1E2A 1E2C 1E2E 1E30",
      "1E32 1E34 1E36 1E38 1E3A 1E3C 1E3E 1E40 1E42 1E44 1E46 1E48 1E4A 1E4C 1E4E 1E50 1E52",
      "1E54 1E56 1E58 1E5A 1E5C 1E5E 1E60 1E62 1E64 1E66 1E68 1E6A 1E6C 1E6E 1E70 1E72 1E74",
      "1E76 1E78 1E7A 1E7C 1E7E 1E80 1E82 1E84 1E86 1E88 1E8A 1E8C 1E8E 1E90 1E92 1E94 1E9E",
      "1EA0 1EA2 1EA4 1EA6 1EA8 1EAA 1EAC 1EAE 1EB0 1EB2 1EB4 1EB6 1EB8 1EBA 1EBC 1EBE 1EC0",
      "1EC2 1EC4 1EC6 1EC8 1ECA 1ECC 1ECE 1ED0 1ED2 1ED4 1ED6 1ED8 1EDA 1EDC 1EDE 1EE0 1EE2",
      "1EE4 1EE6 1EE8 1EEA 1EEC 1EEE 1EF0 1EF2 1EF4 1EF6 1EF8 1EFA 1EFC 1EFE 1F08..1F0F",
      "1F18..1F1D 1F28..1F2F 1F38..1F3F 1F48..1F4D 1F59 1F5B 1F5D 1F5F 1F68..1F6F 1FB8..1FBB",
      "1FC8..1FCB 1FD8..1FDB 1FE8..1FEC 1FF8..1FFB 2102 2107 210B..210D 2110..2112 2115",
      "2119..211D 2124 2126 2128 212A..212D 2130..2133 213E..213F 2145 2183 2C00..2C2F 2C60",
      "2C62..2C64 2C67 2C69 2C6B 2C6D..2C70 2C72 2C75 2C7E..2C80 2C82 2C84 2C86 2C88 2C8A 2C8C",
      "2C8E 2C90 2C92 2C94 2C96 2C98 2C9A 2C9C 2C9E 2CA0 2CA2 2CA4 2CA6 2CA8 2CAA 2CAC 2CAE",
      "2CB0 2CB2 2CB4 2CB6 2CB8 2CBA 2CBC 2CBE 2CC0 2CC2 2CC4 2CC6 2CC8 2CCA 2CCC 2CCE 2CD0",
      "2CD2 2CD4 2CD6 2CD8 2CDA 2CDC 2CDE 2CE0 2CE2 2CEB 2CED 2CF2 A640 A642 A644 A646 A648",
      "A64A A64C A64E A650 A652 A654 A656 A658 A65A A65C A65E A660 A662 A664 A666 A668 A66A",
      "A66C A680 A682 A684 A686 A688 A68A A68C A68E A690 A692 A694 A696 A698 A69A A722 A724",
      "A726 A728 A72A A72C A72E A732 A734 A736 A738 A73A A73C A73E A740 A742 A744 A746 A748",
      "A74A A74C A74E A750 A752 A754 A756 A758 A75A A75C A75E A760 A762 A764 A766 A768 A76A",
      "A76C A76E A779 A77B A77D..A77E A780 A782 A784 A786 A78B A78D A790 A792 A796 A798 A79A",
      "A79C A79E A7A0 A7A2 A7A4 A7A6 A7A8 A7AA..A7AE A7B0..A7B4 A7B6 A7B8 A7BA A7BC A7BE A7C0",
      "A7C2 A7C4..A7C7 A7C9 A7CB..A7CC A7D0 A7D6 A7D8 A7DA A7DC A7F5 FF21..FF3A 10400..10427",
      "104B0..104D3 10570..1057A 1057C..1058A 1058C..10592 10594..10595 10C80..10CB2",
      "10D50..10D65 118A0..118BF 16E40..16E5F 1D400..1D419 1D434..1D44D 1D468..1D481 1D49C",
      "1D49E..1D49F 1D4A2 1D4A5..1D4A6 1D4A9..1D4AC 1D4AE..1D4B5 1D4D0..1D4E9 1D504..1D505",
      "1D507..1D50A 1D50D..1D514 1D516..1D51C 1D538..1D539 1D53B..1D53E 1D540..1D544 1D546",
      "1D54A..1D550 1D56C..1D585 1D5A0..1D5B9 1D5D4..1D5ED 1D608..1D621 1D63C..1D655",
      "1D670..1D689 1D6A8..1D6C0 1D6E2..1D6FA 1D71C..1D734 1D756..1D76E 1D790..1D7A8 1D7CA",
      "1E900..1E921"]
  | .ll =>
    String.intercalate " " [
      "0061..007A 00B5 00DF..00F6 00F8..00FF 0101 0103 0105 0107 0109 010B 010D 010F 0111 0113",
      "0115 0117 0119 011B 011D 011F 0121 0123 0125 0127 0129 012B 012D 012F 0131 0133 0135",
      "0137..0138 013A 013C 013E 0140 0142 0144 0146 0148..0149 014B 014D 014F 0151 0153 0155",
      "0157 0159 015B 015D 015F 0161 0163 0165 0167 0169 016B 016D 016F 0171 0173 0175 0177",
      "017A 017C 017E..0180 0183 0185 0188 018C..018D 0192 0195 0199..019B 019E 01A1 01A3 01A5",
      "01A8 01AA..01AB 01AD 01B0 01B4 01B6 01B9..01BA 01BD..01BF 01C6 01C9 01CC 01CE 01D0 01D2",
      "01D4 01D6 01D8 01DA 01DC..01DD 01DF 01E1 01E3 01E5 01E7 01E9 01EB 01ED 01EF..01F0 01F3",
      "01F5 01F9 01FB 01FD 01FF 0201 0203 0205 0207 0209 020B 020D 020F 0211 0213 0215 0217",
      "0219 021B 021D 021F 0221 0223 0225 0227 0229 022B 022D 022F 0231 0233..0239 023C",
      "023F..0240 0242 0247 0249 024B 024D 024F..0293 0296..02AF 0371 0373 0377 037B..037D 0390",
      "03AC..03CE 03D0..03D1 03D5..03D7 03D9 03DB 03DD 03DF 03E1 03E3 03E5 03E7 03E9 03EB 03ED",
      "03EF..03F3 03F5 03F8 03FB..03FC 0430..045F 0461 0463 0465 0467 0469 046B 046D 046F 0471",
      "0473 0475 0477 0479 047B 047D 047F 0481 048B 048D 048F 0491 0493 0495 0497 0499 049B",
      "049D 049F 04A1 04A3 04A5 04A7 04A9 04AB 04AD 04AF 04B1 04B3 04B5 04B7 04B9 04BB 04BD",
      "04BF 04C2 04C4 04C6 04C8 04CA 04CC 04CE..04CF 04D1 04D3 04D5 04D7 04D9 04DB 04DD 04DF",
      "04E1 04E3 04E5 04E7 04E9 04EB 04ED 04EF 04F1 04F3 04F5 04F7 04F9 04FB 04FD 04FF 0501",
      "0503 0505 0507 0509 050B 050D 050F 0511 0513 0515 0517 0519 051B 051D 051F 0521 0523",
      "0525 0527 0529 052B 052D 052F 0560..0588 10D0..10FA 10FD..10FF 13F8..13FD 1C80..1C88",
      "1C8A 1D00..1D2B 1D6B..1D77 1D79..1D9A 1E01 1E03 1E05 1E07 1E09 1E0B 1E0D 1E0F 1E11 1E13",
      "1E15 1E17 1E19 1E1B 1E1D 1E1F 1E21 1E23 1E25 1E27 1E29 1E2B 1E2D 1E2F 1E31 1E33 1E35",
      "1E37 1E39 1E3B 1E3D 1E3F 1E41 1E43 1E45 1E47 1E49 1E4B 1E4D 1E4F 1E51 1E53 1E55 1E57",
      "1E59 1E5B 1E5D 1E5F 1E61 1E63 1E65 1E67 1E69 1E6B 1E6D 1E6F 1E71 1E73 1E75 1E77 1E79",
      "1E7B 1E7D 1E7F 1E81 1E83 1E85 1E87 1E89 1E8B 1E8D 1E8F 1E91 1E93 1E95..1E9D 1E9F 1EA1",
      "1EA3 1EA5 1EA7 1EA9 1EAB 1EAD 1EAF 1EB1 1EB3 1EB5 1EB7 1EB9 1EBB 1EBD 1EBF 1EC1 1EC3",
      "1EC5 1EC7 1EC9 1ECB 1ECD 1ECF 1ED1 1ED3 1ED5 1ED7 1ED9 1EDB 1EDD 1EDF 1EE1 1EE3 1EE5",
      "1EE7 1EE9 1EEB 1EED 1EEF 1EF1 1EF3 1EF5 1EF7 1EF9 1EFB 1EFD 1EFF..1F07 1F10..1F15",
      "1F20..1F27 1F30..1F37 1F40..1F45 1F50..1F57 1F60..1F67 1F70..1F7D 1F80..1F87 1F90..1F97",
      "1FA0..1FA7 1FB0..1FB4 1FB6..1FB7 1FBE 1FC2..1FC4 1FC6..1FC7 1FD0..1FD3 1FD6..1FD7",
      "1FE0..1FE7 1FF2..1FF4 1FF6..1FF7 210A 210E..210F 2113 212F 2134 2139 213C..213D",
      "2146..2149 214E 2184 2C30..2C5F 2C61 2C65..2C66 2C68 2C6A 2C6C 2C71 2C73..2C74",
      "2C76..2C7B 2C81 2C83 2C85 2C87 2C89 2C8B 2C8D 2C8F 2C91 2C93 2C95 2C97 2C99 2C9B 2C9D",
      "2C9F 2CA1 2CA3 2CA5 2CA7 2CA9 2CAB 2CAD 2CAF 2CB1 2CB3 2CB5 2CB7 2CB9 2CBB 2CBD 2CBF",
      "2CC1 2CC3 2CC5 2CC7 2CC9 2CCB 2CCD 2CCF 2CD1 2CD3 2CD5 2CD7 2CD9 2CDB 2CDD 2CDF 2CE1",
      "2CE3..2CE4 2CEC 2CEE 2CF3 2D00..2D25 2D27 2D2D A641 A643 A645 A647 A649 A64B A64D A64F",
      "A651 A653 A655 A657 A659 A65B A65D A65F A661 A663 A665 A667 A669 A66B A66D A681 A683",
      "A685 A687 A689 A68B A68D A68F A691 A693 A695 A697 A699 A69B A723 A725 A727 A729 A72B",
      "A72D A72F..A731 A733 A735 A737 A739 A73B A73D A73F A741 A743 A745 A747 A749 A74B A74D",
      "A74F A751 A753 A755 A757 A759 A75B A75D A75F A761 A763 A765 A767 A769 A76B A76D A76F",
      "A771..A778 A77A A77C A77F A781 A783 A785 A787 A78C A78E A791 A793..A795 A797 A799 A79B",
      "A79D A79F A7A1 A7A3 A7A5 A7A7 A7A9 A7AF A7B5 A7B7 A7B9 A7BB A7BD A7BF A7C1 A7C3 A7C8",
      "A7CA A7CD A7D1 A7D3 A7D5 A7D7 A7D9 A7DB A7F6 A7FA AB30..AB5A AB60..AB68 AB70..ABBF",
      "FB00..FB06 FB13..FB17 FF41..FF5A 10428..1044F 104D8..104FB 10597..105A1 105A3..105B1",
      "105B3..105B9 105BB..105BC 10CC0..10CF2 10D70..10D85 118C0..118DF 16E60..16E7F",
      "1D41A..1D433 1D44E..1D454 1D456..1D467 1D482..1D49B 1D4B6..1D4B9 1D4BB 1D4BD..1D4C3",
      "1D4C5..1D4CF 1D4EA..1D503 1D51E..1D537 1D552..1D56B 1D586..1D59F 1D5BA..1D5D3",
      "1D5EE..1D607 1D622..1D63B 1D656..1D66F 1D68A..1D6A5 1D6C2..1D6DA 1D6DC..1D6E1",
      "1D6FC..1D714 1D716..1D71B 1D736..1D74E 1D750..1D755 1D770..1D788 1D78A..1D78F",
      "1D7AA..1D7C2 1D7C4..1D7C9 1D7CB 1DF00..1DF09 1DF0B..1DF1E 1DF25..1DF2A 1E922..1E943"]
  | .lt =>
    "01C5 01C8 01CB 01F2 1F88..1F8F 1F98..1F9F 1FA8..1FAF 1FBC 1FCC 1FFC"
  | .lm =>
    String.intercalate " " [
      "02B0..02C1 02C6..02D1 02E0..02E4 02EC 02EE 0374 037A 0559 0640 06E5..06E6 07F4..07F5",
      "07FA 081A 0824 0828 08C9 0971 0E46 0EC6 10FC 17D7 1843 1AA7 1C78..1C7D 1D2C..1D6A 1D78",
      "1D9B..1DBF 2071 207F 2090..209C 2C7C..2C7D 2D6F 2E2F 3005 3031..3035 303B 309D..309E",
      "30FC..30FE A015 A4F8..A4FD A60C A67F A69C..A69D A717..A71F A770 A788 A7F2..A7F4",
      "A7F8..A7F9 A9CF A9E6 AA70 AADD AAF3..AAF4 AB5C..AB5F AB69 FF70 FF9E..FF9F 10780..10785",
      "10787..107B0 107B2..107BA 10D4E 10D6F 16B40..16B43 16D40..16D42 16D6B..16D6C",
      "16F93..16F9F 16FE0..16FE1 16FE3 1AFF0..1AFF3 1AFF5..1AFFB 1AFFD..1AFFE 1E030..1E06D",
      "1E137..1E13D 1E4EB 1E94B"]
  | .lo =>
    String.intercalate " " [
      "00AA 00BA 01BB 01C0..01C3 0294..0295 05D0..05EA 05EF..05F2 0620..063F 0641..064A",
      "066E..066F 0671..06D3 06D5 06EE..06EF 06FA..06FC 06FF 0710 0712..072F 074D..07A5 07B1",
      "07CA..07EA 0800..0815 0840..0858 0860..086A 0870..0887 0889..088E 08A0..08C8 0904..0939",
      "093D 0950 0958..0961 0972..0980 0985..098C 098F..0990 0993..09A8 09AA..09B0 09B2",
      "09B6..09B9 09BD 09CE 09DC..09DD 09DF..09E1 09F0..09F1 09FC 0A05..0A0A 0A0F..0A10",
      "0A13..0A28 0A2A..0A30 0A32..0A33 0A35..0A36 0A38..0A39 0A59..0A5C 0A5E 0A72..0A74",
      "0A85..0A8D 0A8F..0A91 0A93..0AA8 0AAA..0AB0 0AB2..0AB3 0AB5..0AB9 0ABD 0AD0 0AE0..0AE1",
      "0AF9 0B05..0B0C 0B0F..0B10 0B13..0B28 0B2A..0B30 0B32..0B33 0B35..0B39 0B3D 0B5C..0B5D",
      "0B5F..0B61 0B71 0B83 0B85..0B8A 0B8E..0B90 0B92..0B95 0B99..0B9A 0B9C 0B9E..0B9F",
      "0BA3..0BA4 0BA8..0BAA 0BAE..0BB9 0BD0 0C05..0C0C 0C0E..0C10 0C12..0C28 0C2A..0C39 0C3D",
      "0C58..0C5A 0C5D 0C60..0C61 0C80 0C85..0C8C 0C8E..0C90 0C92..0CA8 0CAA..0CB3 0CB5..0CB9",
      "0CBD 0CDD..0CDE 0CE0..0CE1 0CF1..0CF2 0D04..0D0C 0D0E..0D10 0D12..0D3A 0D3D 0D4E",
      "0D54..0D56 0D5F..0D61 0D7A..0D7F 0D85..0D96 0D9A..0DB1 0DB3..0DBB 0DBD 0DC0..0DC6",
      "0E01..0E30 0E32..0E33 0E40..0E45 0E81..0E82 0E84 0E86..0E8A 0E8C..0EA3 0EA5 0EA7..0EB0",
      "0EB2..0EB3 0EBD 0EC0..0EC4 0EDC..0EDF 0F00 0F40..0F47 0F49..0F6C 0F88..0F8C 1000..102A",
      "103F 1050..1055 105A..105D 1061 1065..1066 106E..1070 1075..1081 108E 1100..1248",
      "124A..124D 1250..1256 1258 125A..125D 1260..1288 128A..128D 1290..12B0 12B2..12B5",
      "12B8..12BE 12C0 12C2..12C5 12C8..12D6 12D8..1310 1312..1315 1318..135A 1380..138F",
      "1401..166C 166F..167F 1681..169A 16A0..16EA 16F1..16F8 1700..1711 171F..1731 1740..1751",
      "1760..176C 176E..1770 1780..17B3 17DC 1820..1842 1844..1878 1880..1884 1887..18A8 18AA",
      "18B0..18F5 1900..191E 1950..196D 1970..1974 1980..19AB 19B0..19C9 1A00..1A16 1A20..1A54",
      "1B05..1B33 1B45..1B4C 1B83..1BA0 1BAE..1BAF 1BBA..1BE5 1C00..1C23 1C4D..1C4F 1C5A..1C77",
      "1CE9..1CEC 1CEE..1CF3 1CF5..1CF6 1CFA 2135..2138 2D30..2D67 2D80..2D96 2DA0..2DA6",
      "2DA8..2DAE 2DB0..2DB6 2DB8..2DBE 2DC0..2DC6 2DC8..2DCE 2DD0..2DD6 2DD8..2DDE 3006 303C",
      "3041..3096 309F 30A1..30FA 30FF 3105..312F 3131..318E 31A0..31BF 31F0..31FF 3400..4DBF",
      "4E00..A014 A016..A48C A4D0..A4F7 A500..A60B A610..A61F A62A..A62B A66E A6A0..A6E5 A78F",
      "A7F7 A7FB..A801 A803..A805 A807..A80A A80C..A822 A840..A873 A882..A8B3 A8F2..A8F7 A8FB",
      "A8FD..A8FE A90A..A925 A930..A946 A960..A97C A984..A9B2 A9E0..A9E4 A9E7..A9EF A9FA..A9FE",
      "AA00..AA28 AA40..AA42 AA44..AA4B AA60..AA6F AA71..AA76 AA7A AA7E..AAAF AAB1 AAB5..AAB6",
      "AAB9..AABD AAC0 AAC2 AADB..AADC AAE0..AAEA AAF2 AB01..AB06 AB09..AB0E AB11..AB16",
      "AB20..AB26 AB28..AB2E ABC0..ABE2 AC00..D7A3 D7B0..D7C6 D7CB..D7FB F900..FA6D FA70..FAD9",
      "FB1D FB1F..FB28 FB2A..FB36 FB38..FB3C FB3E FB40..FB41 FB43..FB44 FB46..FBB1 FBD3..FD3D",
      "FD50..FD8F FD92..FDC7 FDF0..FDFB FE70..FE74 FE76..FEFC FF66..FF6F FF71..FF9D FFA0..FFBE",
      "FFC2..FFC7 FFCA..FFCF FFD2..FFD7 FFDA..FFDC 10000..1000B 1000D..10026 10028..1003A",
      "1003C..1003D 1003F..1004D 10050..1005D 10080..100FA 10280..1029C 102A0..102D0",
      "10300..1031F 1032D..10340 10342..10349 10350..10375 10380..1039D 103A0..103C3",
      "103C8..103CF 10450..1049D 10500..10527 10530..10563 105C0..105F3 10600..10736",
      "10740..10755 10760..10767 10800..10805 10808 1080A..10835 10837..10838 1083C",
      "1083F..10855 10860..10876 10880..1089E 108E0..108F2 108F4..108F5 10900..10915",
      "10920..10939 10980..109B7 109BE..109BF 10A00 10A10..10A13 10A15..10A17 10A19..10A35",
      "10A60..10A7C 10A80..10A9C 10AC0..10AC7 10AC9..10AE4 10B00..10B35 10B40..10B55",
      "10B60..10B72 10B80..10B91 10C00..10C48 10D00..10D23 10D4A..10D4D 10D4F 10E80..10EA9",
      "10EB0..10EB1 10EC2..10EC4 10F00..10F1C 10F27 10F30..10F45 10F70..10F81 10FB0..10FC4",
      "10FE0..10FF6 11003..11037 11071..11072 11075 11083..110AF 110D0..110E8 11103..11126",
      "11144 11147 11150..11172 11176 11183..111B2 111C1..111C4 111DA 111DC 11200..11211",
      "11213..1122B 1123F..11240 11280..11286 11288 1128A..1128D 1128F..1129D 1129F..112A8",
      "112B0..112DE 11305..1130C 1130F..11310 11313..11328 1132A..11330 11332..11333",
      "11335..11339 1133D 11350 1135D..11361 11380..11389 1138B 1138E 11390..113B5 113B7 113D1",
      "113D3 11400..11434 11447..1144A 1145F..11461 11480..114AF 114C4..114C5 114C7",
      "11580..115AE 115D8..115DB 11600..1162F 11644 11680..116AA 116B8 11700..1171A",
      "11740..11746 11800..1182B 118FF..11906 11909 1190C..11913 11915..11916 11918..1192F",
      "1193F 11941 119A0..119A7 119AA..119D0 119E1 119E3 11A00 11A0B..11A32 11A3A 11A50",
      "11A5C..11A89 11A9D 11AB0..11AF8 11BC0..11BE0 11C00..11C08 11C0A..11C2E 11C40",
      "11C72..11C8F 11D00..11D06 11D08..11D09 11D0B..11D30 11D46 11D60..11D65 11D67..11D68",
      "11D6A..11D89 11D98 11EE0..11EF2 11F02 11F04..11F10 11F12..11F33 11FB0 12000..12399",
      "12480..12543 12F90..12FF0 13000..1342F 13441..13446 13460..143FA 14400..14646",
      "16100..1611D 16800..16A38 16A40..16A5E 16A70..16ABE 16AD0..16AED 16B00..16B2F",
      "16B63..16B77 16B7D..16B8F 16D43..16D6A 16F00..16F4A 16F50 17000..187F7 18800..18CD5",
      "18D00..18D08 1B000..1B122 1B132 1B150..1B152 1B155 1B164..1B167 1B170..1B2FB",
      "1BC00..1BC6A 1BC70..1BC7C 1BC80..1BC88 1BC90..1BC99 1DF0A 1E100..1E12C 1E14E",
      "1E290..1E2AD 1E2C0..1E2EB 1E4D0..1E4EA 1E5D0..1E5ED 1E5F0 1E7E0..1E7E6 1E7E8..1E7EB",
      "1E7ED..1E7EE 1E7F0..1E7FE 1E800..1E8C4 1EE00..1EE03 1EE05..1EE1F 1EE21..1EE22 1EE24",
      "1EE27 1EE29..1EE32 1EE34..1EE37 1EE39 1EE3B 1EE42 1EE47 1EE49 1EE4B 1EE4D..1EE4F",
      "1EE51..1EE52 1EE54 1EE57 1EE59 1EE5B 1EE5D 1EE5F 1EE61..1EE62 1EE64 1EE67..1EE6A",
      "1EE6C..1EE72 1EE74..1EE77 1EE79..1EE7C 1EE7E 1EE80..1EE89 1EE8B..1EE9B 1EEA1..1EEA3",
      "1EEA5..1EEA9 1EEAB..1EEBB 20000..2A6DF 2A700..2B739 2B740..2B81D 2B820..2CEA1",
      "2CEB0..2EBE0 2EBF0..2EE5D 2F800..2FA1D 30000..3134A 31350..323AF"]
  | .mn =>
    String.intercalate " " [
      "0300..036F 0483..0487 0591..05BD 05BF 05C1..05C2 05C4..05C5 05C7 0610..061A 064B..065F",
      "0670 06D6..06DC 06DF..06E4 06E7..06E8 06EA..06ED 0711 0730..074A 07A6..07B0 07EB..07F3",
      "07FD 0816..0819 081B..0823 0825..0827 0829..082D 0859..085B 0897..089F 08CA..08E1",
      "08E3..0902 093A 093C 0941..0948 094D 0951..0957 0962..0963 0981 09BC 09C1..09C4 09CD",
      "09E2..09E3 09FE 0A01..0A02 0A3C 0A41..0A42 0A47..0A48 0A4B..0A4D 0A51 0A70..0A71 0A75",
      "0A81..0A82 0ABC 0AC1..0AC5 0AC7..0AC8 0ACD 0AE2..0AE3 0AFA..0AFF 0B01 0B3C 0B3F",
      "0B41..0B44 0B4D 0B55..0B56 0B62..0B63 0B82 0BC0 0BCD 0C00 0C04 0C3C 0C3E..0C40",
      "0C46..0C48 0C4A..0C4D 0C55..0C56 0C62..0C63 0C81 0CBC 0CBF 0CC6 0CCC..0CCD 0CE2..0CE3",
      "0D00..0D01 0D3B..0D3C 0D41..0D44 0D4D 0D62..0D63 0D81 0DCA 0DD2..0DD4 0DD6 0E31",
      "0E34..0E3A 0E47..0E4E 0EB1 0EB4..0EBC 0EC8..0ECE 0F18..0F19 0F35 0F37 0F39 0F71..0F7E",
      "0F80..0F84 0F86..0F87 0F8D..0F97 0F99..0FBC 0FC6 102D..1030 1032..1037 1039..103A",
      "103D..103E 1058..1059 105E..1060 1071..1074 1082 1085..1086 108D 109D 135D..135F",
      "1712..1714 1732..1733 1752..1753 1772..1773 17B4..17B5 17B7..17BD 17C6 17C9..17D3 17DD",
      "180B..180D 180F 1885..1886 18A9 1920..1922 1927..1928 1932 1939..193B 1A17..1A18 1A1B",
      "1A56 1A58..1A5E 1A60 1A62 1A65..1A6C 1A73..1A7C 1A7F 1AB0..1ABD 1ABF..1ACE 1B00..1B03",
      "1B34 1B36..1B3A 1B3C 1B42 1B6B..1B73 1B80..1B81 1BA2..1BA5 1BA8..1BA9 1BAB..1BAD 1BE6",
      "1BE8..1BE9 1BED 1BEF..1BF1 1C2C..1C33 1C36..1C37 1CD0..1CD2 1CD4..1CE0 1CE2..1CE8 1CED",
      "1CF4 1CF8..1CF9 1DC0..1DFF 20D0..20DC 20E1 20E5..20F0 2CEF..2CF1 2D7F 2DE0..2DFF",
      "302A..302D 3099..309A A66F A674..A67D A69E..A69F A6F0..A6F1 A802 A806 A80B A825..A826",
      "A82C A8C4..A8C5 A8E0..A8F1 A8FF A926..A92D A947..A951 A980..A982 A9B3 A9B6..A9B9",
      "A9BC..A9BD A9E5 AA29..AA2E AA31..AA32 AA35..AA36 AA43 AA4C AA7C AAB0 AAB2..AAB4",
      "AAB7..AAB8 AABE..AABF AAC1 AAEC..AAED AAF6 ABE5 ABE8 ABED FB1E FE00..FE0F FE20..FE2F",
      "101FD 102E0 10376..1037A 10A01..10A03 10A05..10A06 10A0C..10A0F 10A38..10A3A 10A3F",
      "10AE5..10AE6 10D24..10D27 10D69..10D6D 10EAB..10EAC 10EFC..10EFF 10F46..10F50",
      "10F82..10F85 11001 11038..11046 11070 11073..11074 1107F..11081 110B3..110B6",
      "110B9..110BA 110C2 11100..11102 11127..1112B 1112D..11134 11173 11180..11181",
      "111B6..111BE 111C9..111CC 111CF 1122F..11231 11234 11236..11237 1123E 11241 112DF",
      "112E3..112EA 11300..11301 1133B..1133C 11340 11366..1136C 11370..11374 113BB..113C0",
      "113CE 113D0 113D2 113E1..113E2 11438..1143F 11442..11444 11446 1145E 114B3..114B8 114BA",
      "114BF..114C0 114C2..114C3 115B2..115B5 115BC..115BD 115BF..115C0 115DC..115DD",
      "11633..1163A 1163D 1163F..11640 116AB 116AD 116B0..116B5 116B7 1171D 1171F 11722..11725",
      "11727..1172B 1182F..11837 11839..1183A 1193B..1193C 1193E 11943 119D4..119D7",
      "119DA..119DB 119E0 11A01..11A0A 11A33..11A38 11A3B..11A3E 11A47 11A51..11A56",
      "11A59..11A5B 11A8A..11A96 11A98..11A99 11C30..11C36 11C38..11C3D 11C3F 11C92..11CA7",
      "11CAA..11CB0 11CB2..11CB3 11CB5..11CB6 11D31..11D36 11D3A 11D3C..11D3D 11D3F..11D45",
      "11D47 11D90..11D91 11D95 11D97 11EF3..11EF4 11F00..11F01 11F36..11F3A 11F40 11F42 11F5A",
      "13440 13447..13455 1611E..16129 1612D..1612F 16AF0..16AF4 16B30..16B36 16F4F",
      "16F8F..16F92 16FE4 1BC9D..1BC9E 1CF00..1CF2D 1CF30..1CF46 1D167..1D169 1D17B..1D182",
      "1D185..1D18B 1D1AA..1D1AD 1D242..1D244 1DA00..1DA36 1DA3B..1DA6C 1DA75 1DA84",
      "1DA9B..1DA9F 1DAA1..1DAAF 1E000..1E006 1E008..1E018 1E01B..1E021 1E023..1E024",
      "1E026..1E02A 1E08F 1E130..1E136 1E2AE 1E2EC..1E2EF 1E4EC..1E4EF 1E5EE..1E5EF",
      "1E8D0..1E8D6 1E944..1E94A E0100..E01EF"]
  | .mc =>
    String.intercalate " " [
      "0903 093B 093E..0940 0949..094C 094E..094F 0982..0983 09BE..09C0 09C7..09C8 09CB..09CC",
      "09D7 0A03 0A3E..0A40 0A83 0ABE..0AC0 0AC9 0ACB..0ACC 0B02..0B03 0B3E 0B40 0B47..0B48",
      "0B4B..0B4C 0B57 0BBE..0BBF 0BC1..0BC2 0BC6..0BC8 0BCA..0BCC 0BD7 0C01..0C03 0C41..0C44",
      "0C82..0C83 0CBE 0CC0..0CC4 0CC7..0CC8 0CCA..0CCB 0CD5..0CD6 0CF3 0D02..0D03 0D3E..0D40",
      "0D46..0D48 0D4A..0D4C 0D57 0D82..0D83 0DCF..0DD1 0DD8..0DDF 0DF2..0DF3 0F3E..0F3F 0F7F",
      "102B..102C 1031 1038 103B..103C 1056..1057 1062..1064 1067..106D 1083..1084 1087..108C",
      "108F 109A..109C 1715 1734 17B6 17BE..17C5 17C7..17C8 1923..1926 1929..192B 1930..1931",
      "1933..1938 1A19..1A1A 1A55 1A57 1A61 1A63..1A64 1A6D..1A72 1B04 1B35 1B3B 1B3D..1B41",
      "1B43..1B44 1B82 1BA1 1BA6..1BA7 1BAA 1BE7 1BEA..1BEC 1BEE 1BF2..1BF3 1C24..1C2B",
      "1C34..1C35 1CE1 1CF7 302E..302F A823..A824 A827 A880..A881 A8B4..A8C3 A952..A953 A983",
      "A9B4..A9B5 A9BA..A9BB A9BE..A9C0 AA2F..AA30 AA33..AA34 AA4D AA7B AA7D AAEB AAEE..AAEF",
      "AAF5 ABE3..ABE4 ABE6..ABE7 ABE9..ABEA ABEC 11000 11002 11082 110B0..110B2 110B7..110B8",
      "1112C 11145..11146 11182 111B3..111B5 111BF..111C0 111CE 1122C..1122E 11232..11233 11235",
      "112E0..112E2 11302..11303 1133E..1133F 11341..11344 11347..11348 1134B..1134D 11357",
      "11362..11363 113B8..113BA 113C2 113C5 113C7..113CA 113CC..113CD 113CF 11435..11437",
      "11440..11441 11445 114B0..114B2 114B9 114BB..114BE 114C1 115AF..115B1 115B8..115BB 115BE",
      "11630..11632 1163B..1163C 1163E 116AC 116AE..116AF 116B6 1171E 11720..11721 11726",
      "1182C..1182E 11838 11930..11935 11937..11938 1193D 11940 11942 119D1..119D3 119DC..119DF",
      "119E4 11A39 11A57..11A58 11A97 11C2F 11C3E 11CA9 11CB1 11CB4 11D8A..11D8E 11D93..11D94",
      "11D96 11EF5..11EF6 11F03 11F34..11F35 11F3E..11F3F 11F41 1612A..1612C 16F51..16F87",
      "16FF0..16FF1 1D165..1D166 1D16D..1D172"]
  | .me =>
    "0488..0489 1ABE 20DD..20E0 20E2..20E4 A670..A672"
  | .nd =>
    String.intercalate " " [
      "0030..0039 0660..0669 06F0..06F9 07C0..07C9 0966..096F 09E6..09EF 0A66..0A6F 0AE6..0AEF",
      "0B66..0B6F 0BE6..0BEF 0C66..0C6F 0CE6..0CEF 0D66..0D6F 0DE6..0DEF 0E50..0E59 0ED0..0ED9",
      "0F20..0F29 1040..1049 1090..1099 17E0..17E9 1810..1819 1946..194F 19D0..19D9 1A80..1A89",
      "1A90..1A99 1B50..1B59 1BB0..1BB9 1C40..1C49 1C50..1C59 A620..A629 A8D0..A8D9 A900..A909",
      "A9D0..A9D9 A9F0..A9F9 AA50..AA59 ABF0..ABF9 FF10..FF19 104A0..104A9 10D30..10D39",
      "10D40..10D49 11066..1106F 110F0..110F9 11136..1113F 111D0..111D9 112F0..112F9",
      "11450..11459 114D0..114D9 11650..11659 116C0..116C9 116D0..116E3 11730..11739",
      "118E0..118E9 11950..11959 11BF0..11BF9 11C50..11C59 11D50..11D59 11DA0..11DA9",
      "11F50..11F59 16130..16139 16A60..16A69 16AC0..16AC9 16B50..16B59 16D70..16D79",
      "1CCF0..1CCF9 1D7CE..1D7FF 1E140..1E149 1E2F0..1E2F9 1E4F0..1E4F9 1E5F1..1E5FA",
      "1E950..1E959 1FBF0..1FBF9"]
  | .nl =>
    String.intercalate " " [
      "16EE..16F0 2160..2182 2185..2188 3007 3021..3029 3038..303A A6E6..A6EF 10140..10174",
      "10341 1034A 103D1..103D5 12400..1246E"]
  | .no =>
    String.intercalate " " [
      "00B2..00B3 00B9 00BC..00BE 09F4..09F9 0B72..0B77 0BF0..0BF2 0C78..0C7E 0D58..0D5E",
      "0D70..0D78 0F2A..0F33 1369..137C 17F0..17F9 19DA 2070 2074..2079 2080..2089 2150..215F",
      "2189 2460..249B 24EA..24FF 2776..2793 2CFD 3192..3195 3220..3229 3248..324F 3251..325F",
      "3280..3289 32B1..32BF A830..A835 10107..10133 10175..10178 1018A..1018B 102E1..102FB",
      "10320..10323 10858..1085F 10879..1087F 108A7..108AF 108FB..108FF 10916..1091B",
      "109BC..109BD 109C0..109CF 109D2..109FF 10A40..10A48 10A7D..10A7E 10A9D..10A9F",
      "10AEB..10AEF 10B58..10B5F 10B78..10B7F 10BA9..10BAF 10CFA..10CFF 10E60..10E7E",
      "10F1D..10F26 10F51..10F54 10FC5..10FCB 11052..11065 111E1..111F4 1173A..1173B",
      "118EA..118F2 11C5A..11C6C 11FC0..11FD4 16B5B..16B61 16E80..16E96 1D2C0..1D2D3",
      "1D2E0..1D2F3 1D360..1D378 1E8C7..1E8CF 1EC71..1ECAB 1ECAD..1ECAF 1ECB1..1ECB4",
      "1ED01..1ED2D 1ED2F..1ED3D 1F100..1F10C"]
  | .pc =>
    "005F 203F..2040 2054 FE33..FE34 FE4D..FE4F FF3F"
  | .pd =>
    String.intercalate " " [
      "002D 058A 05BE 1400 1806 2010..2015 2E17 2E1A 2E3A..2E3B 2E40 2E5D 301C 3030 30A0",
      "FE31..FE32 FE58 FE63 FF0D 10D6E 10EAD"]
  | .ps =>
    String.intercalate " " [
      "0028 005B 007B 0F3A 0F3C 169B 201A 201E 2045 207D 208D 2308 230A 2329 2768 276A 276C",
      "276E 2770 2772 2774 27C5 27E6 27E8 27EA 27EC 27EE 2983 2985 2987 2989 298B 298D 298F",
      "2991 2993 2995 2997 29D8 29DA 29FC 2E22 2E24 2E26 2E28 2E42 2E55 2E57 2E59 2E5B 3008",
      "300A 300C 300E 3010 3014 3016 3018 301A 301D FD3F FE17 FE35 FE37 FE39 FE3B FE3D FE3F",
      "FE41 FE43 FE47 FE59 FE5B FE5D FF08 FF3B FF5B FF5F FF62"]
  | .pe =>
    String.intercalate " " [
      "0029 005D 007D 0F3B 0F3D 169C 2046 207E 208E 2309 230B 232A 2769 276B 276D 276F 2771",
      "2773 2775 27C6 27E7 27E9 27EB 27ED 27EF 2984 2986 2988 298A 298C 298E 2990 2992 2994",
      "2996 2998 29D9 29DB 29FD 2E23 2E25 2E27 2E29 2E56 2E58 2E5A 2E5C 3009 300B 300D 300F",
      "3011 3015 3017 3019 301B 301E..301F FD3E FE18 FE36 FE38 FE3A FE3C FE3E FE40 FE42 FE44",
      "FE48 FE5A FE5C FE5E FF09 FF3D FF5D FF60 FF63"]
  | .pi =>
    "00AB 2018 201B..201C 201F 2039 2E02 2E04 2E09 2E0C 2E1C 2E20"
  | .pf =>
    "00BB 2019 201D 203A 2E03 2E05 2E0A 2E0D 2E1D 2E21"
  | .po =>
    String.intercalate " " [
      "0021..0023 0025..0027 002A 002C 002E..002F 003A..003B 003F..0040 005C 00A1 00A7",
      "00B6..00B7 00BF 037E 0387 055A..055F 0589 05C0 05C3 05C6 05F3..05F4 0609..060A",
      "060C..060D 061B 061D..061F 066A..066D 06D4 0700..070D 07F7..07F9 0830..083E 085E",
      "0964..0965 0970 09FD 0A76 0AF0 0C77 0C84 0DF4 0E4F 0E5A..0E5B 0F04..0F12 0F14 0F85",
      "0FD0..0FD4 0FD9..0FDA 104A..104F 10FB 1360..1368 166E 16EB..16ED 1735..1736 17D4..17D6",
      "17D8..17DA 1800..1805 1807..180A 1944..1945 1A1E..1A1F 1AA0..1AA6 1AA8..1AAD 1B4E..1B4F",
      "1B5A..1B60 1B7D..1B7F 1BFC..1BFF 1C3B..1C3F 1C7E..1C7F 1CC0..1CC7 1CD3 2016..2017",
      "2020..2027 2030..2038 203B..203E 2041..2043 2047..2051 2053 2055..205E 2CF9..2CFC",
      "2CFE..2CFF 2D70 2E00..2E01 2E06..2E08 2E0B 2E0E..2E16 2E18..2E19 2E1B 2E1E..2E1F",
      "2E2A..2E2E 2E30..2E39 2E3C..2E3F 2E41 2E43..2E4F 2E52..2E54 3001..3003 303D 30FB",
      "A4FE..A4FF A60D..A60F A673 A67E A6F2..A6F7 A874..A877 A8CE..A8CF A8F8..A8FA A8FC",
      "A92E..A92F A95F A9C1..A9CD A9DE..A9DF AA5C..AA5F AADE..AADF AAF0..AAF1 ABEB FE10..FE16",
      "FE19 FE30 FE45..FE46 FE49..FE4C FE50..FE52 FE54..FE57 FE5F..FE61 FE68 FE6A..FE6B",
      "FF01..FF03 FF05..FF07 FF0A FF0C FF0E..FF0F FF1A..FF1B FF1F..FF20 FF3C FF61 FF64..FF65",
      "10100..10102 1039F 103D0 1056F 10857 1091F 1093F 10A50..10A58 10A7F 10AF0..10AF6",
      "10B39..10B3F 10B99..10B9C 10F55..10F59 10F86..10F89 11047..1104D 110BB..110BC",
      "110BE..110C1 11140..11143 11174..11175 111C5..111C8 111CD 111DB 111DD..111DF",
      "11238..1123D 112A9 113D4..113D5 113D7..113D8 1144B..1144F 1145A..1145B 1145D 114C6",
      "115C1..115D7 11641..11643 11660..1166C 116B9 1173C..1173E 1183B 11944..11946 119E2",
      "11A3F..11A46 11A9A..11A9C 11A9E..11AA2 11B00..11B09 11BE1 11C41..11C45 11C70..11C71",
      "11EF7..11EF8 11F43..11F4F 11FFF 12470..12474 12FF1..12FF2 16A6E..16A6F 16AF5",
      "16B37..16B3B 16B44 16D6D..16D6F 16E97..16E9A 16FE2 1BC9F 1DA87..1DA8B 1E5FF 1E95E..1E95F"]
  | .sm =>
    String.intercalate " " [
      "002B 003C..003E 007C 007E 00AC 00B1 00D7 00F7 03F6 0606..0608 2044 2052 207A..207C",
      "208A..208C 2118 2140..2144 214B 2190..2194 219A..219B 21A0 21A3 21A6 21AE 21CE..21CF",
      "21D2 21D4 21F4..22FF 2320..2321 237C 239B..23B3 23DC..23E1 25B7 25C1 25F8..25FF 266F",
      "27C0..27C4 27C7..27E5 27F0..27FF 2900..2982 2999..29D7 29DC..29FB 29FE..2AFF 2B30..2B44",
      "2B47..2B4C FB29 FE62 FE64..FE66 FF0B FF1C..FF1E FF5C FF5E FFE2 FFE9..FFEC 10D8E..10D8F",
      "1D6C1 1D6DB 1D6FB 1D715 1D735 1D74F 1D76F 1D789 1D7A9 1D7C3 1EEF0..1EEF1"]
  | .sc =>
    String.intercalate " " [
      "0024 00A2..00A5 058F 060B 07FE..07FF 09F2..09F3 09FB 0AF1 0BF9 0E3F 17DB 20A0..20C0 A838",
      "FDFC FE69 FF04 FFE0..FFE1 FFE5..FFE6 11FDD..11FE0 1E2FF 1ECB0"]
  | .sk =>
    String.intercalate " " [
      "005E 0060 00A8 00AF 00B4 00B8 02C2..02C5 02D2..02DF 02E5..02EB 02ED 02EF..02FF 0375",
      "0384..0385 0888 1FBD 1FBF..1FC1 1FCD..1FCF 1FDD..1FDF 1FED..1FEF 1FFD..1FFE 309B..309C",
      "A700..A716 A720..A721 A789..A78A AB5B AB6A..AB6B FBB2..FBC2 FF3E FF40 FFE3 1F3FB..1F3FF"]
  | .so =>
    String.intercalate " " [
      "00A6 00A9 00AE 00B0 0482 058D..058E 060E..060F 06DE 06E9 06FD..06FE 07F6 09FA 0B70",
      "0BF3..0BF8 0BFA 0C7F 0D4F 0D79 0F01..0F03 0F13 0F15..0F17 0F1A..0F1F 0F34 0F36 0F38",
      "0FBE..0FC5 0FC7..0FCC 0FCE..0FCF 0FD5..0FD8 109E..109F 1390..1399 166D 1940 19DE..19FF",
      "1B61..1B6A 1B74..1B7C 2100..2101 2103..2106 2108..2109 2114 2116..2117 211E..2123 2125",
      "2127 2129 212E 213A..213B 214A 214C..214D 214F 218A..218B 2195..2199 219C..219F",
      "21A1..21A2 21A4..21A5 21A7..21AD 21AF..21CD 21D0..21D1 21D3 21D5..21F3 2300..2307",
      "230C..231F 2322..2328 232B..237B 237D..239A 23B4..23DB 23E2..2429 2440..244A 249C..24E9",
      "2500..25B6 25B8..25C0 25C2..25F7 2600..266E 2670..2767 2794..27BF 2800..28FF 2B00..2B2F",
      "2B45..2B46 2B4D..2B73 2B76..2B95 2B97..2BFF 2CE5..2CEA 2E50..2E51 2E80..2E99 2E9B..2EF3",
      "2F00..2FD5 2FF0..2FFF 3004 3012..3013 3020 3036..3037 303E..303F 3190..3191 3196..319F",
      "31C0..31E5 31EF 3200..321E 322A..3247 3250 3260..327F 328A..32B0 32C0..33FF 4DC0..4DFF",
      "A490..A4C6 A828..A82B A836..A837 A839 AA77..AA79 FD40..FD4F FDCF FDFD..FDFF FFE4 FFE8",
      "FFED..FFEE FFFC..FFFD 10137..1013F 10179..10189 1018C..1018E 10190..1019C 101A0",
      "101D0..101FC 10877..10878 10AC8 1173F 11FD5..11FDC 11FE1..11FF1 16B3C..16B3F 16B45 1BC9C",
      "1CC00..1CCEF 1CCFA..1CCFC 1CD00..1CEB3 1CF50..1CFC3 1D000..1D0F5 1D100..1D126",
      "1D129..1D164 1D16A..1D16C 1D183..1D184 1D18C..1D1A9 1D1AE..1D1EA 1D200..1D241 1D245",
      "1D300..1D356 1D800..1D9FF 1DA37..1DA3A 1DA6D..1DA74 1DA76..1DA83 1DA85..1DA86 1E14F",
      "1ECAC 1ED2E 1F000..1F02B 1F030..1F093 1F0A0..1F0AE 1F0B1..1F0BF 1F0C1..1F0CF",
      "1F0D1..1F0F5 1F10D..1F1AD 1F1E6..1F202 1F210..1F23B 1F240..1F248 1F250..1F251",
      "1F260..1F265 1F300..1F3FA 1F400..1F6D7 1F6DC..1F6EC 1F6F0..1F6FC 1F700..1F776",
      "1F77B..1F7D9 1F7E0..1F7EB 1F7F0 1F800..1F80B 1F810..1F847 1F850..1F859 1F860..1F887",
      "1F890..1F8AD 1F8B0..1F8BB 1F8C0..1F8C1 1F900..1FA53 1FA60..1FA6D 1FA70..1FA7C",
      "1FA80..1FA89 1FA8F..1FAC6 1FACE..1FADC 1FADF..1FAE9 1FAF0..1FAF8 1FB00..1FB92",
      "1FB94..1FBEF"]
  | .zs =>
    "0020 00A0 1680 2000..200A 202F 205F 3000"
  | .zl =>
    "2028"
  | .zp =>
    "2029"
  | .cc =>
    "0000..001F 007F..009F"
  | .cf =>
    String.intercalate " " [
      "00AD 0600..0605 061C 06DD 070F 0890..0891 08E2 180E 200B..200F 202A..202E 2060..2064",
      "2066..206F FEFF FFF9..FFFB 110BD 110CD 13430..1343F 1BCA0..1BCA3 1D173..1D17A E0001",
      "E0020..E007F"]
  | .cs => ""
  | .co =>
    "E000..F8FF F0000..FFFFD 100000..10FFFD"
  | .cn =>
    String.intercalate " " [
      "0378..0379 0380..0383 038B 038D 03A2 0530 0557..0558 058B..058C 0590 05C8..05CF",
      "05EB..05EE 05F5..05FF 070E 074B..074C 07B2..07BF 07FB..07FC 082E..082F 083F 085C..085D",
      "085F 086B..086F 088F 0892..0896 0984 098D..098E 0991..0992 09A9 09B1 09B3..09B5",
      "09BA..09BB 09C5..09C6 09C9..09CA 09CF..09D6 09D8..09DB 09DE 09E4..09E5 09FF..0A00 0A04",
      "0A0B..0A0E 0A11..0A12 0A29 0A31 0A34 0A37 0A3A..0A3B 0A3D 0A43..0A46 0A49..0A4A",
      "0A4E..0A50 0A52..0A58 0A5D 0A5F..0A65 0A77..0A80 0A84 0A8E 0A92 0AA9 0AB1 0AB4",
      "0ABA..0ABB 0AC6 0ACA 0ACE..0ACF 0AD1..0ADF 0AE4..0AE5 0AF2..0AF8 0B00 0B04 0B0D..0B0E",
      "0B11..0B12 0B29 0B31 0B34 0B3A..0B3B 0B45..0B46 0B49..0B4A 0B4E..0B54 0B58..0B5B 0B5E",
      "0B64..0B65 0B78..0B81 0B84 0B8B..0B8D 0B91 0B96..0B98 0B9B 0B9D 0BA0..0BA2 0BA5..0BA7",
      "0BAB..0BAD 0BBA..0BBD 0BC3..0BC5 0BC9 0BCE..0BCF 0BD1..0BD6 0BD8..0BE5 0BFB..0BFF 0C0D",
      "0C11 0C29 0C3A..0C3B 0C45 0C49 0C4E..0C54 0C57 0C5B..0C5C 0C5E..0C5F 0C64..0C65",
      "0C70..0C76 0C8D 0C91 0CA9 0CB4 0CBA..0CBB 0CC5 0CC9 0CCE..0CD4 0CD7..0CDC 0CDF",
      "0CE4..0CE5 0CF0 0CF4..0CFF 0D0D 0D11 0D45 0D49 0D50..0D53 0D64..0D65 0D80 0D84",
      "0D97..0D99 0DB2 0DBC 0DBE..0DBF 0DC7..0DC9 0DCB..0DCE 0DD5 0DD7 0DE0..0DE5 0DF0..0DF1",
      "0DF5..0E00 0E3B..0E3E 0E5C..0E80 0E83 0E85 0E8B 0EA4 0EA6 0EBE..0EBF 0EC5 0EC7 0ECF",
      "0EDA..0EDB 0EE0..0EFF 0F48 0F6D..0F70 0F98 0FBD 0FCD 0FDB..0FFF 10C6 10C8..10CC",
      "10CE..10CF 1249 124E..124F 1257 1259 125E..125F 1289 128E..128F 12B1 12B6..12B7 12BF",
      "12C1 12C6..12C7 12D7 1311 1316..1317 135B..135C 137D..137F 139A..139F 13F6..13F7",
      "13FE..13FF 169D..169F 16F9..16FF 1716..171E 1737..173F 1754..175F 176D 1771 1774..177F",
      "17DE..17DF 17EA..17EF 17FA..17FF 181A..181F 1879..187F 18AB..18AF 18F6..18FF 191F",
      "192C..192F 193C..193F 1941..1943 196E..196F 1975..197F 19AC..19AF 19CA..19CF 19DB..19DD",
      "1A1C..1A1D 1A5F 1A7D..1A7E 1A8A..1A8F 1A9A..1A9F 1AAE..1AAF 1ACF..1AFF 1B4D 1BF4..1BFB",
      "1C38..1C3A 1C4A..1C4C 1C8B..1C8F 1CBB..1CBC 1CC8..1CCF 1CFB..1CFF 1F16..1F17 1F1E..1F1F",
      "1F46..1F47 1F4E..1F4F 1F58 1F5A 1F5C 1F5E 1F7E..1F7F 1FB5 1FC5 1FD4..1FD5 1FDC",
      "1FF0..1FF1 1FF5 1FFF 2065 2072..2073 208F 209D..209F 20C1..20CF 20F1..20FF 218C..218F",
      "242A..243F 244B..245F 2B74..2B75 2B96 2CF4..2CF8 2D26 2D28..2D2C 2D2E..2D2F 2D68..2D6E",
      "2D71..2D7E 2D97..2D9F 2DA7 2DAF 2DB7 2DBF 2DC7 2DCF 2DD7 2DDF 2E5E..2E7F 2E9A 2EF4..2EFF",
      "2FD6..2FEF 3040 3097..3098 3100..3104 3130 318F 31E6..31EE 321F A48D..A48F A4C7..A4CF",
      "A62C..A63F A6F8..A6FF A7CE..A7CF A7D2 A7D4 A7DD..A7F1 A82D..A82F A83A..A83F A878..A87F",
      "A8C6..A8CD A8DA..A8DF A954..A95E A97D..A97F A9CE A9DA..A9DD A9FF AA37..AA3F AA4E..AA4F",
      "AA5A..AA5B AAC3..AADA AAF7..AB00 AB07..AB08 AB0F..AB10 AB17..AB1F AB27 AB2F AB6C..AB6F",
      "ABEE..ABEF ABFA..ABFF D7A4..D7AF D7C7..D7CA D7FC..D7FF FA6E..FA6F FADA..FAFF FB07..FB12",
      "FB18..FB1C FB37 FB3D FB3F FB42 FB45 FBC3..FBD2 FD90..FD91 FDC8..FDCE FDD0..FDEF",
      "FE1A..FE1F FE53 FE67 FE6C..FE6F FE75 FEFD..FEFE FF00 FFBF..FFC1 FFC8..FFC9 FFD0..FFD1",
      "FFD8..FFD9 FFDD..FFDF FFE7 FFEF..FFF8 FFFE..FFFF 1000C 10027 1003B 1003E 1004E..1004F",
      "1005E..1007F 100FB..100FF 10103..10106 10134..10136 1018F 1019D..1019F 101A1..101CF",
      "101FE..1027F 1029D..1029F 102D1..102DF 102FC..102FF 10324..1032C 1034B..1034F",
      "1037B..1037F 1039E 103C4..103C7 103D6..103FF 1049E..1049F 104AA..104AF 104D4..104D7",
      "104FC..104FF 10528..1052F 10564..1056E 1057B 1058B 10593 10596 105A2 105B2 105BA",
      "105BD..105BF 105F4..105FF 10737..1073F 10756..1075F 10768..1077F 10786 107B1",
      "107BB..107FF 10806..10807 10809 10836 10839..1083B 1083D..1083E 10856 1089F..108A6",
      "108B0..108DF 108F3 108F6..108FA 1091C..1091E 1093A..1093E 10940..1097F 109B8..109BB",
      "109D0..109D1 10A04 10A07..10A0B 10A14 10A18 10A36..10A37 10A3B..10A3E 10A49..10A4F",
      "10A59..10A5F 10AA0..10ABF 10AE7..10AEA 10AF7..10AFF 10B36..10B38 10B56..10B57",
      "10B73..10B77 10B92..10B98 10B9D..10BA8 10BB0..10BFF 10C49..10C7F 10CB3..10CBF",
      "10CF3..10CF9 10D28..10D2F 10D3A..10D3F 10D66..10D68 10D86..10D8D 10D90..10E5F 10E7F",
      "10EAA 10EAE..10EAF 10EB2..10EC1 10EC5..10EFB 10F28..10F2F 10F5A..10F6F 10F8A..10FAF",
      "10FCC..10FDF 10FF7..10FFF 1104E..11051 11076..1107E 110C3..110CC 110CE..110CF",
      "110E9..110EF 110FA..110FF 11135 11148..1114F 11177..1117F 111E0 111F5..111FF 11212",
      "11242..1127F 11287 11289 1128E 1129E 112AA..112AF 112EB..112EF 112FA..112FF 11304",
      "1130D..1130E 11311..11312 11329 11331 11334 1133A 11345..11346 11349..1134A 1134E..1134F",
      "11351..11356 11358..1135C 11364..11365 1136D..1136F 11375..1137F 1138A 1138C..1138D",
      "1138F 113B6 113C1 113C3..113C4 113C6 113CB 113D6 113D9..113E0 113E3..113FF 1145C",
      "11462..1147F 114C8..114CF 114DA..1157F 115B6..115B7 115DE..115FF 11645..1164F",
      "1165A..1165F 1166D..1167F 116BA..116BF 116CA..116CF 116E4..116FF 1171B..1171C",
      "1172C..1172F 11747..117FF 1183C..1189F 118F3..118FE 11907..11908 1190A..1190B 11914",
      "11917 11936 11939..1193A 11947..1194F 1195A..1199F 119A8..119A9 119D8..119D9",
      "119E5..119FF 11A48..11A4F 11AA3..11AAF 11AF9..11AFF 11B0A..11BBF 11BE2..11BEF",
      "11BFA..11BFF 11C09 11C37 11C46..11C4F 11C6D..11C6F 11C90..11C91 11CA8 11CB7..11CFF 11D07",
      "11D0A 11D37..11D39 11D3B 11D3E 11D48..11D4F 11D5A..11D5F 11D66 11D69 11D8F 11D92",
      "11D99..11D9F 11DAA..11EDF 11EF9..11EFF 11F11 11F3B..11F3D 11F5B..11FAF 11FB1..11FBF",
      "11FF2..11FFE 1239A..123FF 1246F 12475..1247F 12544..12F8F 12FF3..12FFF 13456..1345F",
      "143FB..143FF 14647..160FF 1613A..167FF 16A39..16A3F 16A5F 16A6A..16A6D 16ABF",
      "16ACA..16ACF 16AEE..16AEF 16AF6..16AFF 16B46..16B4F 16B5A 16B62 16B78..16B7C",
      "16B90..16D3F 16D7A..16E3F 16E9B..16EFF 16F4B..16F4E 16F88..16F8E 16FA0..16FDF",
      "16FE5..16FEF 16FF2..16FFF 187F8..187FF 18CD6..18CFF 18D09..1AFEF 1AFF4 1AFFC 1AFFF",
      "1B123..1B131 1B133..1B14F 1B153..1B154 1B156..1B163 1B168..1B16F 1B2FC..1BBFF",
      "1BC6B..1BC6F 1BC7D..1BC7F 1BC89..1BC8F 1BC9A..1BC9B 1BCA4..1CBFF 1CCFD..1CCFF",
      "1CEB4..1CEFF 1CF2E..1CF2F 1CF47..1CF4F 1CFC4..1CFFF 1D0F6..1D0FF 1D127..1D128",
      "1D1EB..1D1FF 1D246..1D2BF 1D2D4..1D2DF 1D2F4..1D2FF 1D357..1D35F 1D379..1D3FF 1D455",
      "1D49D 1D4A0..1D4A1 1D4A3..1D4A4 1D4A7..1D4A8 1D4AD 1D4BA 1D4BC 1D4C4 1D506 1D50B..1D50C",
      "1D515 1D51D 1D53A 1D53F 1D545 1D547..1D549 1D551 1D6A6..1D6A7 1D7CC..1D7CD 1DA8C..1DA9A",
      "1DAA0 1DAB0..1DEFF 1DF1F..1DF24 1DF2B..1DFFF 1E007 1E019..1E01A 1E022 1E025 1E02B..1E02F",
      "1E06E..1E08E 1E090..1E0FF 1E12D..1E12F 1E13E..1E13F 1E14A..1E14D 1E150..1E28F",
      "1E2AF..1E2BF 1E2FA..1E2FE 1E300..1E4CF 1E4FA..1E5CF 1E5FB..1E5FE 1E600..1E7DF 1E7E7",
      "1E7EC 1E7EF 1E7FF 1E8C5..1E8C6 1E8D7..1E8FF 1E94C..1E94F 1E95A..1E95D 1E960..1EC70",
      "1ECB5..1ED00 1ED3E..1EDFF 1EE04 1EE20 1EE23 1EE25..1EE26 1EE28 1EE33 1EE38 1EE3A",
      "1EE3C..1EE41 1EE43..1EE46 1EE48 1EE4A 1EE4C 1EE50 1EE53 1EE55..1EE56 1EE58 1EE5A 1EE5C",
      "1EE5E 1EE60 1EE63 1EE65..1EE66 1EE6B 1EE73 1EE78 1EE7D 1EE7F 1EE8A 1EE9C..1EEA0 1EEA4",
      "1EEAA 1EEBC..1EEEF 1EEF2..1EFFF 1F02C..1F02F 1F094..1F09F 1F0AF..1F0B0 1F0C0 1F0D0",
      "1F0F6..1F0FF 1F1AE..1F1E5 1F203..1F20F 1F23C..1F23F 1F249..1F24F 1F252..1F25F",
      "1F266..1F2FF 1F6D8..1F6DB 1F6ED..1F6EF 1F6FD..1F6FF 1F777..1F77A 1F7DA..1F7DF",
      "1F7EC..1F7EF 1F7F1..1F7FF 1F80C..1F80F 1F848..1F84F 1F85A..1F85F 1F888..1F88F",
      "1F8AE..1F8AF 1F8BC..1F8BF 1F8C2..1F8FF 1FA54..1FA5F 1FA6E..1FA6F 1FA7D..1FA7F",
      "1FA8A..1FA8E 1FAC7..1FACD 1FADD..1FADE 1FAEA..1FAEF 1FAF9..1FAFF 1FB93 1FBFA..1FFFF",
      "2A6E0..2A6FF 2B73A..2B73F 2B81E..2B81F 2CEA2..2CEAF 2EBE1..2EBEF 2EE5E..2F7FF",
      "2FA1E..2FFFF 3134B..3134F 323B0..E0000 E0002..E001F E0080..E00FF E01F0..EFFFF",
      "FFFFE..FFFFF 10FFFE..10FFFF"]

end GeneralCategory

end ConceptQuery.Unicode
