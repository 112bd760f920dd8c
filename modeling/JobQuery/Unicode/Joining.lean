import JobQuery.Unicode.Table

/-!
# Joining types

How each code point joins its neighbours in cursive scripts (Unicode 17), as the rule for
the zero-width non-joiner uses it: a non-joiner is allowed between a character joining to
the left (or both ways) and one joining to the right (or both ways), with transparent
characters between.
-/

namespace JobQuery.Unicode

/-- A joining type. -/
inductive JoiningType where
  /-- Not joining. -/
  | U
  /-- Join causing. -/
  | C
  /-- Dual joining. -/
  | D
  /-- Left joining. -/
  | L
  /-- Right joining. -/
  | R
  /-- Transparent. -/
  | T
  deriving Repr, BEq, DecidableEq, Inhabited

/-- The types in the order the table numbers them. -/
def JoiningType.all : List JoiningType := [.U, .C, .D, .L, .R, .T]

/-- The table of joining types: `start:type` with types numbered as in `JoiningType.all`. -/
def joiningText : String :=
  " ".intercalate [
    "0:0 AD:5 AE:0 300:5 370:0 483:5 48A:0 591:5 5BE:0 5BF:5 5C0:0 5C1:5 5C3:0 5C4:5 5C6:0 5C7:5",
    "5C8:0 610:5 61B:0 61C:5 61D:0 620:2 621:0 622:4 626:2 627:4 628:2 629:4 62A:2 62F:4 633:2",
    "640:1 641:2 648:4 649:2 64B:5 660:0 66E:2 670:5 671:4 674:0 675:4 678:2 688:4 69A:2 6C0:4",
    "6C1:2 6C3:4 6CC:2 6CD:4 6CE:2 6CF:4 6D0:2 6D2:4 6D4:0 6D5:4 6D6:5 6DD:0 6DF:5 6E5:0 6E7:5",
    "6E9:0 6EA:5 6EE:4 6F0:0 6FA:2 6FD:0 6FF:2 700:0 70F:5 710:4 711:5 712:2 715:4 71A:2 71E:4",
    "71F:2 728:4 729:2 72A:4 72B:2 72C:4 72D:2 72F:4 730:5 74B:0 74D:4 74E:2 759:4 75C:2 76B:4",
    "76D:2 771:4 772:2 773:4 775:2 778:4 77A:2 780:0 7A6:5 7B1:0 7CA:2 7EB:5 7F4:0 7FA:1 7FB:0",
    "7FD:5 7FE:0 816:5 81A:0 81B:5 824:0 825:5 828:0 829:5 82E:0 840:4 841:2 846:4 848:2 849:4",
    "84A:2 854:4 855:2 856:4 859:5 85C:0 860:2 861:0 862:2 866:0 867:4 868:2 869:4 86B:0 870:4",
    "883:1 886:2 887:0 889:2 88E:4 88F:2 890:0 897:5 8A0:2 8AA:4 8AD:0 8AE:4 8AF:2 8B1:4 8B3:2",
    "8B9:4 8BA:2 8C9:0 8CA:5 8E2:0 8E3:5 903:0 93A:5 93B:0 93C:5 93D:0 941:5 949:0 94D:5 94E:0",
    "951:5 958:0 962:5 964:0 981:5 982:0 9BC:5 9BD:0 9C1:5 9C5:0 9CD:5 9CE:0 9E2:5 9E4:0 9FE:5",
    "9FF:0 A01:5 A03:0 A3C:5 A3D:0 A41:5 A43:0 A47:5 A49:0 A4B:5 A4E:0 A51:5 A52:0 A70:5 A72:0",
    "A75:5 A76:0 A81:5 A83:0 ABC:5 ABD:0 AC1:5 AC6:0 AC7:5 AC9:0 ACD:5 ACE:0 AE2:5 AE4:0 AFA:5",
    "B00:0 B01:5 B02:0 B3C:5 B3D:0 B3F:5 B40:0 B41:5 B45:0 B4D:5 B4E:0 B55:5 B57:0 B62:5 B64:0",
    "B82:5 B83:0 BC0:5 BC1:0 BCD:5 BCE:0 C00:5 C01:0 C04:5 C05:0 C3C:5 C3D:0 C3E:5 C41:0 C46:5",
    "C49:0 C4A:5 C4E:0 C55:5 C57:0 C62:5 C64:0 C81:5 C82:0 CBC:5 CBD:0 CBF:5 CC0:0 CC6:5 CC7:0",
    "CCC:5 CCE:0 CE2:5 CE4:0 D00:5 D02:0 D3B:5 D3D:0 D41:5 D45:0 D4D:5 D4E:0 D62:5 D64:0 D81:5",
    "D82:0 DCA:5 DCB:0 DD2:5 DD5:0 DD6:5 DD7:0 E31:5 E32:0 E34:5 E3B:0 E47:5 E4F:0 EB1:5 EB2:0",
    "EB4:5 EBD:0 EC8:5 ECF:0 F18:5 F1A:0 F35:5 F36:0 F37:5 F38:0 F39:5 F3A:0 F71:5 F7F:0 F80:5",
    "F85:0 F86:5 F88:0 F8D:5 F98:0 F99:5 FBD:0 FC6:5 FC7:0 102D:5 1031:0 1032:5 1038:0 1039:5",
    "103B:0 103D:5 103F:0 1058:5 105A:0 105E:5 1061:0 1071:5 1075:0 1082:5 1083:0 1085:5 1087:0",
    "108D:5 108E:0 109D:5 109E:0 135D:5 1360:0 1712:5 1715:0 1732:5 1734:0 1752:5 1754:0 1772:5",
    "1774:0 17B4:5 17B6:0 17B7:5 17BE:0 17C6:5 17C7:0 17C9:5 17D4:0 17DD:5 17DE:0 1807:2 1808:0",
    "180A:1 180B:5 180E:0 180F:5 1810:0 1820:2 1879:0 1885:5 1887:2 18A9:5 18AA:2 18AB:0 1920:5",
    "1923:0 1927:5 1929:0 1932:5 1933:0 1939:5 193C:0 1A17:5 1A19:0 1A1B:5 1A1C:0 1A56:5 1A57:0",
    "1A58:5 1A5F:0 1A60:5 1A61:0 1A62:5 1A63:0 1A65:5 1A6D:0 1A73:5 1A7D:0 1A7F:5 1A80:0 1AB0:5",
    "1ADE:0 1AE0:5 1AEC:0 1B00:5 1B04:0 1B34:5 1B35:0 1B36:5 1B3B:0 1B3C:5 1B3D:0 1B42:5 1B43:0",
    "1B6B:5 1B74:0 1B80:5 1B82:0 1BA2:5 1BA6:0 1BA8:5 1BAA:0 1BAB:5 1BAE:0 1BE6:5 1BE7:0 1BE8:5",
    "1BEA:0 1BED:5 1BEE:0 1BEF:5 1BF2:0 1C2C:5 1C34:0 1C36:5 1C38:0 1CD0:5 1CD3:0 1CD4:5 1CE1:0",
    "1CE2:5 1CE9:0 1CED:5 1CEE:0 1CF4:5 1CF5:0 1CF8:5 1CFA:0 1DC0:5 1E00:0 200B:5 200C:0 200D:1",
    "200E:5 2010:0 202A:5 202F:0 2060:5 2065:0 206A:5 2070:0 20D0:5 20F1:0 2CEF:5 2CF2:0 2D7F:5",
    "2D80:0 2DE0:5 2E00:0 302A:5 302E:0 3099:5 309B:0 A66F:5 A673:0 A674:5 A67E:0 A69E:5 A6A0:0",
    "A6F0:5 A6F2:0 A802:5 A803:0 A806:5 A807:0 A80B:5 A80C:0 A825:5 A827:0 A82C:5 A82D:0 A840:2",
    "A872:3 A873:0 A8C4:5 A8C6:0 A8E0:5 A8F2:0 A8FF:5 A900:0 A926:5 A92E:0 A947:5 A952:0 A980:5",
    "A983:0 A9B3:5 A9B4:0 A9B6:5 A9BA:0 A9BC:5 A9BE:0 A9E5:5 A9E6:0 AA29:5 AA2F:0 AA31:5 AA33:0",
    "AA35:5 AA37:0 AA43:5 AA44:0 AA4C:5 AA4D:0 AA7C:5 AA7D:0 AAB0:5 AAB1:0 AAB2:5 AAB5:0 AAB7:5",
    "AAB9:0 AABE:5 AAC0:0 AAC1:5 AAC2:0 AAEC:5 AAEE:0 AAF6:5 AAF7:0 ABE5:5 ABE6:0 ABE8:5 ABE9:0",
    "ABED:5 ABEE:0 FB1E:5 FB1F:0 FE00:5 FE10:0 FE20:5 FE30:0 FEFF:5 FF00:0 FFF9:5 FFFC:0 101FD:5",
    "101FE:0 102E0:5 102E1:0 10376:5 1037B:0 10A01:5 10A04:0 10A05:5 10A07:0 10A0C:5 10A10:0",
    "10A38:5 10A3B:0 10A3F:5 10A40:0 10AC0:2 10AC5:4 10AC6:0 10AC7:4 10AC8:0 10AC9:4 10ACB:0",
    "10ACD:3 10ACE:4 10AD3:2 10AD7:3 10AD8:2 10ADD:4 10ADE:2 10AE1:4 10AE2:0 10AE4:4 10AE5:5",
    "10AE7:0 10AEB:2 10AEF:4 10AF0:0 10B80:2 10B81:4 10B82:2 10B83:4 10B86:2 10B89:4 10B8A:2",
    "10B8C:4 10B8D:2 10B8E:4 10B90:2 10B91:4 10B92:0 10BA9:4 10BAD:2 10BAF:0 10D00:3 10D01:2",
    "10D22:4 10D23:2 10D24:5 10D28:0 10D69:5 10D6E:0 10EAB:5 10EAD:0 10EC2:4 10EC3:2 10EC5:0",
    "10EC6:2 10EC8:0 10EFA:5 10F00:0 10F30:2 10F33:4 10F34:2 10F45:0 10F46:5 10F51:2 10F54:4",
    "10F55:0 10F70:2 10F74:4 10F76:2 10F82:5 10F86:0 10FB0:2 10FB1:0 10FB2:2 10FB4:4 10FB7:0",
    "10FB8:2 10FB9:4 10FBB:2 10FBD:4 10FBE:2 10FC0:0 10FC1:2 10FC2:4 10FC4:2 10FC5:0 10FC9:4",
    "10FCA:2 10FCB:3 10FCC:0 11001:5 11002:0 11038:5 11047:0 11070:5 11071:0 11073:5 11075:0",
    "1107F:5 11082:0 110B3:5 110B7:0 110B9:5 110BB:0 110C2:5 110C3:0 11100:5 11103:0 11127:5",
    "1112C:0 1112D:5 11135:0 11173:5 11174:0 11180:5 11182:0 111B6:5 111BF:0 111C9:5 111CD:0",
    "111CF:5 111D0:0 1122F:5 11232:0 11234:5 11235:0 11236:5 11238:0 1123E:5 1123F:0 11241:5",
    "11242:0 112DF:5 112E0:0 112E3:5 112EB:0 11300:5 11302:0 1133B:5 1133D:0 11340:5 11341:0",
    "11366:5 1136D:0 11370:5 11375:0 113BB:5 113C1:0 113CE:5 113CF:0 113D0:5 113D1:0 113D2:5",
    "113D3:0 113E1:5 113E3:0 11438:5 11440:0 11442:5 11445:0 11446:5 11447:0 1145E:5 1145F:0",
    "114B3:5 114B9:0 114BA:5 114BB:0 114BF:5 114C1:0 114C2:5 114C4:0 115B2:5 115B6:0 115BC:5",
    "115BE:0 115BF:5 115C1:0 115DC:5 115DE:0 11633:5 1163B:0 1163D:5 1163E:0 1163F:5 11641:0",
    "116AB:5 116AC:0 116AD:5 116AE:0 116B0:5 116B6:0 116B7:5 116B8:0 1171D:5 1171E:0 1171F:5",
    "11720:0 11722:5 11726:0 11727:5 1172C:0 1182F:5 11838:0 11839:5 1183B:0 1193B:5 1193D:0",
    "1193E:5 1193F:0 11943:5 11944:0 119D4:5 119D8:0 119DA:5 119DC:0 119E0:5 119E1:0 11A01:5",
    "11A0B:0 11A33:5 11A39:0 11A3B:5 11A3F:0 11A47:5 11A48:0 11A51:5 11A57:0 11A59:5 11A5C:0",
    "11A8A:5 11A97:0 11A98:5 11A9A:0 11B60:5 11B61:0 11B62:5 11B65:0 11B66:5 11B67:0 11C30:5",
    "11C37:0 11C38:5 11C3E:0 11C3F:5 11C40:0 11C92:5 11CA8:0 11CAA:5 11CB1:0 11CB2:5 11CB4:0",
    "11CB5:5 11CB7:0 11D31:5 11D37:0 11D3A:5 11D3B:0 11D3C:5 11D3E:0 11D3F:5 11D46:0 11D47:5",
    "11D48:0 11D90:5 11D92:0 11D95:5 11D96:0 11D97:5 11D98:0 11EF3:5 11EF5:0 11F00:5 11F02:0",
    "11F36:5 11F3B:0 11F40:5 11F41:0 11F42:5 11F43:0 11F5A:5 11F5B:0 13430:5 13441:0 13447:5",
    "13456:0 1611E:5 1612A:0 1612D:5 16130:0 16AF0:5 16AF5:0 16B30:5 16B37:0 16F4F:5 16F50:0",
    "16F8F:5 16F93:0 16FE4:5 16FE5:0 1BC9D:5 1BC9F:0 1BCA0:5 1BCA4:0 1CF00:5 1CF2E:0 1CF30:5",
    "1CF47:0 1D167:5 1D16A:0 1D173:5 1D183:0 1D185:5 1D18C:0 1D1AA:5 1D1AE:0 1D242:5 1D245:0",
    "1DA00:5 1DA37:0 1DA3B:5 1DA6D:0 1DA75:5 1DA76:0 1DA84:5 1DA85:0 1DA9B:5 1DAA0:0 1DAA1:5",
    "1DAB0:0 1E000:5 1E007:0 1E008:5 1E019:0 1E01B:5 1E022:0 1E023:5 1E025:0 1E026:5 1E02B:0",
    "1E08F:5 1E090:0 1E130:5 1E137:0 1E2AE:5 1E2AF:0 1E2EC:5 1E2F0:0 1E4EC:5 1E4F0:0 1E5EE:5",
    "1E5F0:0 1E6E3:5 1E6E4:0 1E6E6:5 1E6E7:0 1E6EE:5 1E6F0:0 1E6F5:5 1E6F6:0 1E8D0:5 1E8D7:0",
    "1E900:2 1E944:5 1E94C:0 E0001:5 E0002:0 E0020:5 E0080:0 E0100:5 E01F0:0"]

/-- The joining type table, read. -/
def joiningTable : RangeTable := RangeTable.ofText joiningText

/-- The joining type of a character. -/
def joiningType (c : Char) : JoiningType :=
  JoiningType.all.getD (joiningTable.get c.toNat) .U

end JobQuery.Unicode
