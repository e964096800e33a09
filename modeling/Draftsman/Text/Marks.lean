/-
Marks, which belong to the character before them.

A mark without a width of its own is written over or under that character, and
other marks stand beside it.  Marks of different classes do not touch each other,
so their order does not matter; the class of a character that is no such mark is 0.
-/
import Draftsman.Text.Chart

namespace Draftsman.Text

/-- The marks without a width of their own: the general categories Mn and Me. -/
def nonspacingMarks : Ranges := .ofLines
  ["300:33F 342 346:34E 350:36F 483:489 591:5BD 5BF 5C1:5C2 5C4:5C5 5C7 610:61A 64B:65F 670",
    "6D6:6DC 6DF:6E4 6E7:6E8 6EA:6ED 711 730:74A 7A6:7B0 7EB:7F3 7FD 816:819 81B:823 825:827",
    "829:82D 859:85B 897:89F 8CA:8E1 8E3:902 93A 93C 941:948 94D 951:957 962:963 981 9BC",
    "9C1:9C4 9CD 9E2:9E3 9FE A01:A02 A3C A41:A42 A47:A48 A4B:A4D A51 A70:A71 A75 A81:A82 ABC",
    "AC1:AC5 AC7:AC8 ACD AE2:AE3 AFA:AFF B01 B3C B3F B41:B44 B4D B55:B56 B62:B63 B82 BC0 BCD",
    "C00 C04 C3C C3E:C40 C46:C48 C4A:C4D C55:C56 C62:C63 C81 CBC CBF CC6 CCC:CCD CE2:CE3",
    "D00:D01 D3B:D3C D41:D44 D4D D62:D63 D81 DCA DD2:DD4 DD6 E31 E34:E3A E47:E4E EB1 EB4:EBC",
    "EC8:ECE F18:F19 F35 F37 F39 F71:F72 F74 F7A:F7E F80 F82:F84 F86:F87 F8D:F92 F94:F97",
    "F99:F9C F9E:FA1 FA3:FA6 FA8:FAB FAD:FB8 FBA:FBC FC6 102D:1030 1032:1037 1039:103A",
    "103D:103E 1058:1059 105E:1060 1071:1074 1082 1085:1086 108D 109D 135D:135F 1712:1714",
    "1732:1733 1752:1753 1772:1773 17B7:17BD 17C6 17C9:17D3 17DD 1885:1886 18A9 1920:1922",
    "1927:1928 1932 1939:193B 1A17:1A18 1A1B 1A56 1A58:1A5E 1A60 1A62 1A65:1A6C 1A73:1A7C 1A7F",
    "1AB0:1ADD 1AE0:1AEB 1B00:1B03 1B34 1B36:1B3A 1B3C 1B42 1B6B:1B73 1B80:1B81 1BA2:1BA5",
    "1BA8:1BA9 1BAB:1BAD 1BE6 1BE8:1BE9 1BED 1BEF:1BF1 1C2C:1C33 1C36:1C37 1CD0:1CD2 1CD4:1CE0",
    "1CE2:1CE8 1CED 1CF4 1CF8:1CF9 1DC0:1DFF 20D0:20F0 2CEF:2CF1 2D7F 2DE0:2DFF 302A:302D",
    "3099:309A A66F:A672 A674:A67D A69E:A69F A6F0:A6F1 A802 A806 A80B A825:A826 A82C A8C4:A8C5",
    "A8E0:A8F1 A8FF A926:A92D A947:A951 A980:A982 A9B3 A9B6:A9B9 A9BC:A9BD A9E5 AA29:AA2E",
    "AA31:AA32 AA35:AA36 AA43 AA4C AA7C AAB0 AAB2:AAB4 AAB7:AAB8 AABE:AABF AAC1 AAEC:AAED AAF6",
    "ABE5 ABE8 ABED FB1E FE20:FE2F 101FD 102E0 10376:1037A 10A01:10A03 10A05:10A06 10A0C:10A0F",
    "10A38:10A3A 10A3F 10AE5:10AE6 10D24:10D27 10D69:10D6D 10EAB:10EAC 10EFA:10EFF 10F46:10F50",
    "10F82:10F85 11001 11038:11046 11070 11073:11074 1107F:11081 110B3:110B6 110B9:110BA 110C2",
    "11100:11102 11127:1112B 1112D:11134 11173 11180:11181 111B6:111BE 111C9:111CC 111CF",
    "1122F:11231 11234 11236:11237 1123E 11241 112DF 112E3:112EA 11300:11301 1133B:1133C 11340",
    "11366:1136C 11370:11374 113BB:113C0 113CE 113D0 113D2 113E1:113E2 11438:1143F 11442:11444",
    "11446 1145E 114B3:114B8 114BA 114BF:114C0 114C2:114C3 115B2:115B5 115BC:115BD 115BF:115C0",
    "115DC:115DD 11633:1163A 1163D 1163F:11640 116AB 116AD 116B0:116B5 116B7 1171D:1171F",
    "11722:11725 11727:1172B 1182F:11837 11839:1183A 1193B:1193C 1193E 11943 119D4:119D7",
    "119DA:119DB 119E0 11A01:11A0A 11A33:11A38 11A3B:11A3E 11A47 11A51:11A56 11A59:11A5B",
    "11A8A:11A96 11A98:11A99 11B60 11B62:11B64 11B66 11C30:11C36 11C38:11C3D 11C3F 11C92:11CA7",
    "11CAA:11CB0 11CB2:11CB3 11CB5:11CB6 11D31:11D36 11D3A 11D3C:11D3D 11D3F:11D45 11D47",
    "11D90:11D91 11D95 11D97 11EF3:11EF4 11F00:11F01 11F36:11F3A 11F40 11F42 11F5A 13440",
    "13447:13455 1611E:16129 1612D:1612F 16AF0:16AF4 16B30:16B36 16F4F 16F8F:16F92 16FE4",
    "1BC9D:1BC9E 1CF00:1CF2D 1CF30:1CF46 1D167:1D169 1D17B:1D182 1D185:1D18B 1D1AA:1D1AD",
    "1D242:1D244 1DA00:1DA36 1DA3B:1DA6C 1DA75 1DA84 1DA9B:1DA9F 1DAA1:1DAAF 1E000:1E006",
    "1E008:1E018 1E01B:1E021 1E023:1E024 1E026:1E02A 1E08F 1E130:1E136 1E2AE 1E2EC:1E2EF",
    "1E4EC:1E4EF 1E5EE:1E5EF 1E6E3 1E6E6 1E6EE:1E6EF 1E6F5 1E8D0:1E8D6 1E944:1E94A"]

/-- The marks that have a width: the general category Mc. -/
def spacingMarks : Ranges := .ofLines
  ["903 93B 93E:940 949:94C 94E:94F 982:983 9BE:9C0 9C7:9C8 9CB:9CC 9D7 A03 A3E:A40 A83",
    "ABE:AC0 AC9 ACB:ACC B02:B03 B3E B40 B47:B48 B4B:B4C B57 BBE:BBF BC1:BC2 BC6:BC8 BCA:BCC",
    "BD7 C01:C03 C41:C44 C82:C83 CBE CC0:CC4 CC7:CC8 CCA:CCB CD5:CD6 CF3 D02:D03 D3E:D40",
    "D46:D48 D4A:D4C D57 D82:D83 DCF:DD1 DD8:DDF DF2:DF3 F3E:F3F F7F 102B:102C 1031 1038",
    "103B:103C 1056:1057 1062:1064 1067:106D 1083:1084 1087:108C 108F 109A:109C 1715 1734 17B6",
    "17BE:17C5 17C7:17C8 1923:1926 1929:192B 1930:1931 1933:1938 1A19:1A1A 1A55 1A57 1A61",
    "1A63:1A64 1A6D:1A72 1B04 1B35 1B3B 1B3D:1B41 1B43:1B44 1B82 1BA1 1BA6:1BA7 1BAA 1BE7",
    "1BEA:1BEC 1BEE 1BF2:1BF3 1C24:1C2B 1C34:1C35 1CE1 1CF7 302E:302F A823:A824 A827 A880:A881",
    "A8B4:A8C3 A952:A953 A983 A9B4:A9B5 A9BA:A9BB A9BE:A9C0 AA2F:AA30 AA33:AA34 AA4D AA7B AA7D",
    "AAEB AAEE:AAEF AAF5 ABE3:ABE4 ABE6:ABE7 ABE9:ABEA ABEC 11000 11002 11082 110B0:110B2",
    "110B7:110B8 1112C 11145:11146 11182 111B3:111B5 111BF:111C0 111CE 1122C:1122E 11232:11233",
    "11235 112E0:112E2 11302:11303 1133E:1133F 11341:11344 11347:11348 1134B:1134D 11357",
    "11362:11363 113B8:113BA 113C2 113C5 113C7:113CA 113CC:113CD 113CF 11435:11437 11440:11441",
    "11445 114B0:114B2 114B9 114BB:114BE 114C1 115AF:115B1 115B8:115BB 115BE 11630:11632",
    "1163B:1163C 1163E 116AC 116AE:116AF 116B6 11720:11721 11726 1182C:1182E 11838 11930:11935",
    "11937:11938 1193D 11940 11942 119D1:119D3 119DC:119DF 119E4 11A39 11A57:11A58 11A97 11B61",
    "11B65 11B67 11C2F 11C3E 11CA9 11CB1 11CB4 11D8A:11D8E 11D93:11D94 11D96 11EF5:11EF6 11F03",
    "11F34:11F35 11F3E:11F3F 11F41 1612A:1612C 16F51:16F87 16FF0:16FF1 1D165:1D166 1D16D:1D172"]

/-- Whether a character is a mark. -/
def isMark (c : Char) : Bool := nonspacingMarks.covers c || spacingMarks.covers c

/-- The classes of marks: each row is a range of code points and their class. -/
def markClasses : List (List Nat) := chartRows
  ["300:314:E6 315:315:E8 316:319:DC 31A:31A:E8 31B:31B:D8 31C:320:DC 321:322:CA 323:326:DC",
    "327:328:CA 329:333:DC 334:338:1 339:33C:DC 33D:344:E6 345:345:F0 346:346:E6 347:349:DC",
    "34A:34C:E6 34D:34E:DC 350:352:E6 353:356:DC 357:357:E6 358:358:E8 359:35A:DC 35B:35B:E6",
    "35C:35C:E9 35D:35E:EA 35F:35F:E9 360:361:EA 362:362:E9 363:36F:E6 483:487:E6 591:591:DC",
    "592:595:E6 596:596:DC 597:599:E6 59A:59A:DE 59B:59B:DC 59C:5A1:E6 5A2:5A7:DC 5A8:5A9:E6",
    "5AA:5AA:DC 5AB:5AC:E6 5AD:5AD:DE 5AE:5AE:E4 5AF:5AF:E6 5B0:5B0:A 5B1:5B1:B 5B2:5B2:C",
    "5B3:5B3:D 5B4:5B4:E 5B5:5B5:F 5B6:5B6:10 5B7:5B7:11 5B8:5B8:12 5B9:5BA:13 5BB:5BB:14",
    "5BC:5BC:15 5BD:5BD:16 5BF:5BF:17 5C1:5C1:18 5C2:5C2:19 5C4:5C4:E6 5C5:5C5:DC 5C7:5C7:12",
    "610:617:E6 618:618:1E 619:619:1F 61A:61A:20 64B:64B:1B 64C:64C:1C 64D:64D:1D 64E:64E:1E",
    "64F:64F:1F 650:650:20 651:651:21 652:652:22 653:654:E6 655:656:DC 657:65B:E6 65C:65C:DC",
    "65D:65E:E6 65F:65F:DC 670:670:23 6D6:6DC:E6 6DF:6E2:E6 6E3:6E3:DC 6E4:6E4:E6 6E7:6E8:E6",
    "6EA:6EA:DC 6EB:6EC:E6 6ED:6ED:DC 711:711:24 730:730:E6 731:731:DC 732:733:E6 734:734:DC",
    "735:736:E6 737:739:DC 73A:73A:E6 73B:73C:DC 73D:73D:E6 73E:73E:DC 73F:741:E6 742:742:DC",
    "743:743:E6 744:744:DC 745:745:E6 746:746:DC 747:747:E6 748:748:DC 749:74A:E6 7EB:7F1:E6",
    "7F2:7F2:DC 7F3:7F3:E6 7FD:7FD:DC 816:819:E6 81B:823:E6 825:827:E6 829:82D:E6 859:85B:DC",
    "898:898:E6 899:89B:DC 89C:89F:E6 8CA:8CE:E6 8CF:8D3:DC 8D4:8E1:E6 8E3:8E3:DC 8E4:8E5:E6",
    "8E6:8E6:DC 8E7:8E8:E6 8E9:8E9:DC 8EA:8EC:E6 8ED:8EF:DC 8F0:8F0:1B 8F1:8F1:1C 8F2:8F2:1D",
    "8F3:8F5:E6 8F6:8F6:DC 8F7:8F8:E6 8F9:8FA:DC 8FB:8FF:E6 93C:93C:7 94D:94D:9 951:951:E6",
    "952:952:DC 953:954:E6 9BC:9BC:7 9CD:9CD:9 9FE:9FE:E6 A3C:A3C:7 A4D:A4D:9 ABC:ABC:7",
    "ACD:ACD:9 B3C:B3C:7 B4D:B4D:9 BCD:BCD:9 C3C:C3C:7 C4D:C4D:9 C55:C55:54 C56:C56:5B",
    "CBC:CBC:7 CCD:CCD:9 D3B:D3C:9 D4D:D4D:9 DCA:DCA:9 E38:E39:67 E3A:E3A:9 E48:E4B:6B",
    "EB8:EB9:76 EBA:EBA:9 EC8:ECB:7A F18:F19:DC F35:F35:DC F37:F37:DC F39:F39:D8 F71:F71:81",
    "F72:F72:82 F74:F74:84 F7A:F7D:82 F80:F80:82 F82:F83:E6 F84:F84:9 F86:F87:E6 FC6:FC6:DC",
    "1037:1037:7 1039:103A:9 108D:108D:DC 135D:135F:E6 1714:1715:9 1734:1734:9 17D2:17D2:9",
    "17DD:17DD:E6 18A9:18A9:E4 1939:1939:DE 193A:193A:E6 193B:193B:DC 1A17:1A17:E6 1A18:1A18:DC",
    "1A60:1A60:9 1A75:1A7C:E6 1A7F:1A7F:DC 1AB0:1AB4:E6 1AB5:1ABA:DC 1ABB:1ABC:E6 1ABD:1ABD:DC",
    "1ABF:1AC0:DC 1AC1:1AC2:E6 1AC3:1AC4:DC 1AC5:1AC9:E6 1ACA:1ACA:DC 1ACB:1ACE:E6 1B34:1B34:7",
    "1B44:1B44:9 1B6B:1B6B:E6 1B6C:1B6C:DC 1B6D:1B73:E6 1BAA:1BAB:9 1BE6:1BE6:7 1BF2:1BF3:9",
    "1C37:1C37:7 1CD0:1CD2:E6 1CD4:1CD4:1 1CD5:1CD9:DC 1CDA:1CDB:E6 1CDC:1CDF:DC 1CE0:1CE0:E6",
    "1CE2:1CE8:1 1CED:1CED:DC 1CF4:1CF4:E6 1CF8:1CF9:E6 1DC0:1DC1:E6 1DC2:1DC2:DC 1DC3:1DC9:E6",
    "1DCA:1DCA:DC 1DCB:1DCC:E6 1DCD:1DCD:EA 1DCE:1DCE:D6 1DCF:1DCF:DC 1DD0:1DD0:CA 1DD1:1DF5:E6",
    "1DF6:1DF6:E8 1DF7:1DF8:E4 1DF9:1DF9:DC 1DFA:1DFA:DA 1DFB:1DFB:E6 1DFC:1DFC:E9 1DFD:1DFD:DC",
    "1DFE:1DFE:E6 1DFF:1DFF:DC 20D0:20D1:E6 20D2:20D3:1 20D4:20D7:E6 20D8:20DA:1 20DB:20DC:E6",
    "20E1:20E1:E6 20E5:20E6:1 20E7:20E7:E6 20E8:20E8:DC 20E9:20E9:E6 20EA:20EB:1 20EC:20EF:DC",
    "20F0:20F0:E6 2CEF:2CF1:E6 2D7F:2D7F:9 2DE0:2DFF:E6 302A:302A:DA 302B:302B:E4 302C:302C:E8",
    "302D:302D:DE 302E:302F:E0 3099:309A:8 A66F:A66F:E6 A674:A67D:E6 A69E:A69F:E6 A6F0:A6F1:E6",
    "A806:A806:9 A82C:A82C:9 A8C4:A8C4:9 A8E0:A8F1:E6 A92B:A92D:DC A953:A953:9 A9B3:A9B3:7",
    "A9C0:A9C0:9 AAB0:AAB0:E6 AAB2:AAB3:E6 AAB4:AAB4:DC AAB7:AAB8:E6 AABE:AABF:E6 AAC1:AAC1:E6",
    "AAF6:AAF6:9 ABED:ABED:9 FB1E:FB1E:1A FE20:FE26:E6 FE27:FE2D:DC FE2E:FE2F:E6 101FD:101FD:DC",
    "102E0:102E0:DC 10376:1037A:E6 10A0D:10A0D:DC 10A0F:10A0F:E6 10A38:10A38:E6 10A39:10A39:1",
    "10A3A:10A3A:DC 10A3F:10A3F:9 10AE5:10AE5:E6 10AE6:10AE6:DC 10D24:10D27:E6 10EAB:10EAC:E6",
    "10EFD:10EFF:DC 10F46:10F47:DC 10F48:10F4A:E6 10F4B:10F4B:DC 10F4C:10F4C:E6 10F4D:10F50:DC",
    "10F82:10F82:E6 10F83:10F83:DC 10F84:10F84:E6 10F85:10F85:DC 11046:11046:9 11070:11070:9",
    "1107F:1107F:9 110B9:110B9:9 110BA:110BA:7 11100:11102:E6 11133:11134:9 11173:11173:7",
    "111C0:111C0:9 111CA:111CA:7 11235:11235:9 11236:11236:7 112E9:112E9:7 112EA:112EA:9",
    "1133B:1133C:7 1134D:1134D:9 11366:1136C:E6 11370:11374:E6 113CE:113D0:9 11442:11442:9",
    "11446:11446:7 1145E:1145E:E6 114C2:114C2:9 114C3:114C3:7 115BF:115BF:9 115C0:115C0:7",
    "1163F:1163F:9 116B6:116B6:9 116B7:116B7:7 1172B:1172B:9 11839:11839:9 1183A:1183A:7",
    "1193D:1193E:9 11943:11943:7 119E0:119E0:9 11A34:11A34:9 11A47:11A47:9 11A99:11A99:9",
    "11C3F:11C3F:9 11D42:11D42:7 11D44:11D45:9 11D97:11D97:9 11F41:11F42:9 1612F:1612F:9",
    "16AF0:16AF4:1 16B30:16B36:E6 16FF0:16FF1:6 1BC9E:1BC9E:1 1D165:1D166:D8 1D167:1D169:1",
    "1D16D:1D16D:E2 1D16E:1D172:D8 1D17B:1D182:DC 1D185:1D189:E6 1D18A:1D18B:DC 1D1AA:1D1AD:E6",
    "1D242:1D244:E6 1E000:1E006:E6 1E008:1E018:E6 1E01B:1E021:E6 1E023:1E024:E6 1E026:1E02A:E6",
    "1E08F:1E08F:E6 1E130:1E136:E6 1E2AE:1E2AE:E6 1E2EC:1E2EF:E6 1E4EC:1E4ED:E8 1E4EE:1E4EE:DC",
    "1E4EF:1E4EF:E6 1E8D0:1E8D6:DC 1E944:1E949:E6 1E94A:1E94A:7"]

/-- The class of a mark, and 0 for every character that is not a mark with a class. -/
def markClass (c : Char) : Nat :=
  let found := markClasses.findSome? fun row =>
    match row with
    | [first, last, value] => if first ≤ c.toNat ∧ c.toNat ≤ last then some value else none
    | _ => none
  found.getD 0

/-- The class of the marks that take a letter's own vowel away. -/
def vowelKiller : Nat := 9

end Draftsman.Text
