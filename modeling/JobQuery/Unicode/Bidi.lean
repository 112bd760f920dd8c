import JobQuery.Unicode.Table

/-!
# Bidirectional classes

The bidirectional class of every code point (Unicode 17), as the rules for right-to-left
labels of domain names use them. Unassigned code points have the class of the block they
lie in (right-to-left in the Hebrew, Arabic and other right-to-left blocks, left-to-right
elsewhere).
-/

namespace JobQuery.Unicode

/-- A bidirectional class. -/
inductive BidiClass where
  | L | R | AL | EN | ES | ET | AN | CS | NSM | BN | B | S | WS | ON
  | LRE | LRO | RLE | RLO | PDF | LRI | RLI | FSI | PDI
  deriving Repr, BEq, DecidableEq, Inhabited

/-- The classes in the order the table numbers them. -/
def BidiClass.all : List BidiClass :=
  [.L, .R, .AL, .EN, .ES, .ET, .AN, .CS, .NSM, .BN, .B, .S, .WS, .ON,
   .LRE, .LRO, .RLE, .RLO, .PDF, .LRI, .RLI, .FSI, .PDI]

/-- The table of classes: `start:class` with classes numbered as in `BidiClass.all`. -/
def bidiText : String :=
  " ".intercalate [
    "0:9 9:B A:A B:B C:C D:A E:9 1C:A 1F:B 20:C 21:D 23:5 26:D 2B:4 2C:7 2D:4 2E:7 30:3 3A:7 3B:D",
    "41:0 5B:D 61:0 7B:D 7F:9 85:A 86:9 A0:7 A1:D A2:5 A6:D AA:0 AB:D AD:9 AE:D B0:5 B2:3 B4:D",
    "B5:0 B6:D B9:3 BA:0 BB:D C0:0 D7:D D8:0 F7:D F8:0 2B9:D 2BB:0 2C2:D 2D0:0 2D2:D 2E0:0 2E5:D",
    "2EE:0 2EF:D 300:8 370:0 374:D 376:0 37E:D 37F:0 384:D 386:0 387:D 388:0 3F6:D 3F7:0 483:8",
    "48A:0 58A:D 58B:0 58D:D 58F:5 590:1 591:8 5BE:1 5BF:8 5C0:1 5C1:8 5C3:1 5C4:8 5C6:1 5C7:8",
    "5C8:1 600:6 606:D 608:2 609:5 60B:2 60C:7 60D:2 60E:D 610:8 61B:2 64B:8 660:6 66A:5 66B:6",
    "66D:2 670:8 671:2 6D6:8 6DD:6 6DE:D 6DF:8 6E5:2 6E7:8 6E9:D 6EA:8 6EE:2 6F0:3 6FA:2 711:8",
    "712:2 730:8 74B:2 7A6:8 7B1:2 7C0:1 7EB:8 7F4:1 7F6:D 7FA:1 7FD:8 7FE:1 816:8 81A:1 81B:8",
    "824:1 825:8 828:1 829:8 82E:1 859:8 85C:1 860:2 890:6 892:2 897:8 8A0:2 8CA:8 8E2:6 8E3:8",
    "903:0 93A:8 93B:0 93C:8 93D:0 941:8 949:0 94D:8 94E:0 951:8 958:0 962:8 964:0 981:8 982:0",
    "9BC:8 9BD:0 9C1:8 9C5:0 9CD:8 9CE:0 9E2:8 9E4:0 9F2:5 9F4:0 9FB:5 9FC:0 9FE:8 9FF:0 A01:8",
    "A03:0 A3C:8 A3D:0 A41:8 A43:0 A47:8 A49:0 A4B:8 A4E:0 A51:8 A52:0 A70:8 A72:0 A75:8 A76:0",
    "A81:8 A83:0 ABC:8 ABD:0 AC1:8 AC6:0 AC7:8 AC9:0 ACD:8 ACE:0 AE2:8 AE4:0 AF1:5 AF2:0 AFA:8",
    "B00:0 B01:8 B02:0 B3C:8 B3D:0 B3F:8 B40:0 B41:8 B45:0 B4D:8 B4E:0 B55:8 B57:0 B62:8 B64:0",
    "B82:8 B83:0 BC0:8 BC1:0 BCD:8 BCE:0 BF3:D BF9:5 BFA:D BFB:0 C00:8 C01:0 C04:8 C05:0 C3C:8",
    "C3D:0 C3E:8 C41:0 C46:8 C49:0 C4A:8 C4E:0 C55:8 C57:0 C62:8 C64:0 C78:D C7F:0 C81:8 C82:0",
    "CBC:8 CBD:0 CCC:8 CCE:0 CE2:8 CE4:0 D00:8 D02:0 D3B:8 D3D:0 D41:8 D45:0 D4D:8 D4E:0 D62:8",
    "D64:0 D81:8 D82:0 DCA:8 DCB:0 DD2:8 DD5:0 DD6:8 DD7:0 E31:8 E32:0 E34:8 E3B:0 E3F:5 E40:0",
    "E47:8 E4F:0 EB1:8 EB2:0 EB4:8 EBD:0 EC8:8 ECF:0 F18:8 F1A:0 F35:8 F36:0 F37:8 F38:0 F39:8",
    "F3A:D F3E:0 F71:8 F7F:0 F80:8 F85:0 F86:8 F88:0 F8D:8 F98:0 F99:8 FBD:0 FC6:8 FC7:0 102D:8",
    "1031:0 1032:8 1038:0 1039:8 103B:0 103D:8 103F:0 1058:8 105A:0 105E:8 1061:0 1071:8 1075:0",
    "1082:8 1083:0 1085:8 1087:0 108D:8 108E:0 109D:8 109E:0 135D:8 1360:0 1390:D 139A:0 1400:D",
    "1401:0 1680:C 1681:0 169B:D 169D:0 1712:8 1715:0 1732:8 1734:0 1752:8 1754:0 1772:8 1774:0",
    "17B4:8 17B6:0 17B7:8 17BE:0 17C6:8 17C7:0 17C9:8 17D4:0 17DB:5 17DC:0 17DD:8 17DE:0 17F0:D",
    "17FA:0 1800:D 180B:8 180E:9 180F:8 1810:0 1885:8 1887:0 18A9:8 18AA:0 1920:8 1923:0 1927:8",
    "1929:0 1932:8 1933:0 1939:8 193C:0 1940:D 1941:0 1944:D 1946:0 19DE:D 1A00:0 1A17:8 1A19:0",
    "1A1B:8 1A1C:0 1A56:8 1A57:0 1A58:8 1A5F:0 1A60:8 1A61:0 1A62:8 1A63:0 1A65:8 1A6D:0 1A73:8",
    "1A7D:0 1A7F:8 1A80:0 1AB0:8 1ADE:0 1AE0:8 1AEC:0 1B00:8 1B04:0 1B34:8 1B35:0 1B36:8 1B3B:0",
    "1B3C:8 1B3D:0 1B42:8 1B43:0 1B6B:8 1B74:0 1B80:8 1B82:0 1BA2:8 1BA6:0 1BA8:8 1BAA:0 1BAB:8",
    "1BAE:0 1BE6:8 1BE7:0 1BE8:8 1BEA:0 1BED:8 1BEE:0 1BEF:8 1BF2:0 1C2C:8 1C34:0 1C36:8 1C38:0",
    "1CD0:8 1CD3:0 1CD4:8 1CE1:0 1CE2:8 1CE9:0 1CED:8 1CEE:0 1CF4:8 1CF5:0 1CF8:8 1CFA:0 1DC0:8",
    "1E00:0 1FBD:D 1FBE:0 1FBF:D 1FC2:0 1FCD:D 1FD0:0 1FDD:D 1FE0:0 1FED:D 1FF0:0 1FFD:D 1FFF:0",
    "2000:C 200B:9 200E:0 200F:1 2010:D 2028:C 2029:A 202A:E 202B:10 202C:12 202D:F 202E:11 202F:7",
    "2030:5 2035:D 2044:7 2045:D 205F:C 2060:9 2066:13 2067:14 2068:15 2069:16 206A:9 2070:3",
    "2071:0 2074:3 207A:4 207C:D 207F:0 2080:3 208A:4 208C:D 208F:0 20A0:5 20D0:8 20F1:0 2100:D",
    "2102:0 2103:D 2107:0 2108:D 210A:0 2114:D 2115:0 2116:D 2119:0 211E:D 2124:0 2125:D 2126:0",
    "2127:D 2128:0 2129:D 212A:0 212E:5 212F:0 213A:D 213C:0 2140:D 2145:0 214A:D 214E:0 2150:D",
    "2160:0 2189:D 218C:0 2190:D 2212:4 2213:5 2214:D 2336:0 237B:D 2395:0 2396:D 2427:0 2440:D",
    "244B:0 2460:D 2488:3 249C:0 24EA:D 26AC:0 26AD:D 2800:0 2900:D 2B74:0 2B76:D 2B96:0 2B97:D",
    "2C00:0 2CE5:D 2CEB:0 2CEF:8 2CF2:0 2CF9:D 2D00:0 2D7F:8 2D80:0 2DE0:8 2E00:D 2E5E:0 2E80:D",
    "2E9A:0 2E9B:D 2EF4:0 2F00:D 2FD6:0 2FF0:D 2FFC:0 3000:C 3001:D 3005:0 3008:D 3021:0 302A:8",
    "302E:0 3030:D 3031:0 3036:D 3038:0 303D:D 3040:0 3099:8 309B:D 309D:0 30A0:D 30A1:0 30FB:D",
    "30FC:0 31C0:D 31E4:0 321D:D 321F:0 3250:D 3260:0 327C:D 327F:0 32B1:D 32C0:0 32CC:D 32D0:0",
    "3377:D 337B:0 33DE:D 33E0:0 33FF:D 3400:0 4DC0:D 4E00:0 A490:D A4C7:0 A60D:D A610:0 A66F:8",
    "A673:D A674:8 A67E:D A680:0 A69E:8 A6A0:0 A6F0:8 A6F2:0 A700:D A722:0 A788:D A789:0 A802:8",
    "A803:0 A806:8 A807:0 A80B:8 A80C:0 A825:8 A827:0 A828:D A82C:8 A82D:0 A838:5 A83A:0 A874:D",
    "A878:0 A8C4:8 A8C6:0 A8E0:8 A8F2:0 A8FF:8 A900:0 A926:8 A92E:0 A947:8 A952:0 A980:8 A983:0",
    "A9B3:8 A9B4:0 A9B6:8 A9BA:0 A9BC:8 A9BE:0 A9E5:8 A9E6:0 AA29:8 AA2F:0 AA31:8 AA33:0 AA35:8",
    "AA37:0 AA43:8 AA44:0 AA4C:8 AA4D:0 AA7C:8 AA7D:0 AAB0:8 AAB1:0 AAB2:8 AAB5:0 AAB7:8 AAB9:0",
    "AABE:8 AAC0:0 AAC1:8 AAC2:0 AAEC:8 AAEE:0 AAF6:8 AAF7:0 AB6A:D AB6C:0 ABE5:8 ABE6:0 ABE8:8",
    "ABE9:0 ABED:8 ABEE:0 FB1D:1 FB1E:8 FB1F:1 FB29:4 FB2A:1 FB50:2 FD3E:D FD50:2 FDCF:D FDD0:9",
    "FDF0:2 FDFD:D FE00:8 FE10:D FE1A:0 FE20:8 FE30:D FE50:7 FE51:D FE52:7 FE53:0 FE54:D FE55:7",
    "FE56:D FE5F:5 FE60:D FE62:4 FE64:D FE67:0 FE68:D FE69:5 FE6B:D FE6C:0 FE70:2 FEFF:9 FF00:0",
    "FF01:D FF03:5 FF06:D FF0B:4 FF0C:7 FF0D:4 FF0E:7 FF10:3 FF1A:7 FF1B:D FF21:0 FF3B:D FF41:0",
    "FF5B:D FF66:0 FFE0:5 FFE2:D FFE5:5 FFE7:0 FFE8:D FFEF:0 FFF0:9 FFF9:D FFFE:9 10000:0 10101:D",
    "10102:0 10140:D 1018D:0 10190:D 1019D:0 101A0:D 101A1:0 101FD:8 101FE:0 102E0:8 102E1:3",
    "102FC:0 10376:8 1037B:0 10800:1 1091F:D 10920:1 10A01:8 10A04:1 10A05:8 10A07:1 10A0C:8",
    "10A10:1 10A38:8 10A3B:1 10A3F:8 10A40:1 10AE5:8 10AE7:1 10B39:D 10B40:1 10D00:2 10D24:8",
    "10D28:2 10D30:6 10D3A:2 10D40:6 10D4A:1 10D69:8 10D6E:1 10E60:6 10E7F:1 10EAB:8 10EAD:1",
    "10EC0:2 10EFA:8 10F00:1 10F30:2 10F46:8 10F51:2 10F70:1 10F82:8 10F86:1 11000:0 11001:8",
    "11002:0 11038:8 11047:0 11052:D 11066:0 11070:8 11071:0 11073:8 11075:0 1107F:8 11082:0",
    "110B3:8 110B7:0 110B9:8 110BB:0 110C2:8 110C3:0 11100:8 11103:0 11127:8 1112C:0 1112D:8",
    "11135:0 11173:8 11174:0 11180:8 11182:0 111B6:8 111BF:0 111C9:8 111CD:0 111CF:8 111D0:0",
    "1122F:8 11232:0 11234:8 11235:0 11236:8 11238:0 1123E:8 1123F:0 11241:8 11242:0 112DF:8",
    "112E0:0 112E3:8 112EB:0 11300:8 11302:0 1133B:8 1133D:0 11340:8 11341:0 11366:8 1136D:0",
    "11370:8 11375:0 113BB:8 113C1:0 113CE:8 113CF:0 113D0:8 113D1:0 113D2:8 113D3:0 113E1:8",
    "113E3:0 11438:8 11440:0 11442:8 11445:0 11446:8 11447:0 1145E:8 1145F:0 114B3:8 114B9:0",
    "114BA:8 114BB:0 114BF:8 114C1:0 114C2:8 114C4:0 115B2:8 115B6:0 115BC:8 115BE:0 115BF:8",
    "115C1:0 115DC:8 115DE:0 11633:8 1163B:0 1163D:8 1163E:0 1163F:8 11641:0 11660:D 1166D:0",
    "116AB:8 116AC:0 116AD:8 116AE:0 116B0:8 116B6:0 116B7:8 116B8:0 1171D:8 11720:0 11722:8",
    "11726:0 11727:8 1172C:0 1182F:8 11838:0 11839:8 1183B:0 1193B:8 1193D:0 1193E:8 1193F:0",
    "11943:8 11944:0 119D4:8 119D8:0 119DA:8 119DC:0 119E0:8 119E1:0 11A01:8 11A07:0 11A09:8",
    "11A0B:0 11A33:8 11A39:0 11A3B:8 11A3F:0 11A47:8 11A48:0 11A51:8 11A57:0 11A59:8 11A5C:0",
    "11A8A:8 11A97:0 11A98:8 11A9A:0 11B60:8 11B61:0 11B62:8 11B65:0 11B66:8 11B67:0 11C30:8",
    "11C37:0 11C38:8 11C3E:0 11C92:8 11CA8:0 11CAA:8 11CB1:0 11CB2:8 11CB4:0 11CB5:8 11CB7:0",
    "11D31:8 11D37:0 11D3A:8 11D3B:0 11D3C:8 11D3E:0 11D3F:8 11D46:0 11D47:8 11D48:0 11D90:8",
    "11D92:0 11D95:8 11D96:0 11D97:8 11D98:0 11EF3:8 11EF5:0 11F00:8 11F02:0 11F36:8 11F3B:0",
    "11F40:8 11F41:0 11F42:8 11F43:0 11F5A:8 11F5B:0 11FD5:D 11FDD:5 11FE1:D 11FF2:0 13440:8",
    "13441:0 13447:8 13456:0 1611E:8 1612A:0 1612D:8 16130:0 16AF0:8 16AF5:0 16B30:8 16B37:0",
    "16F4F:8 16F50:0 16F8F:8 16F93:0 16FE2:D 16FE3:0 16FE4:8 16FE5:0 1BC9D:8 1BC9F:0 1BCA0:9",
    "1BCA4:0 1CF00:8 1CF2E:0 1CF30:8 1CF47:0 1D167:8 1D16A:0 1D173:9 1D17B:8 1D183:0 1D185:8",
    "1D18C:0 1D1AA:8 1D1AE:0 1D1E9:D 1D1EB:0 1D200:D 1D242:8 1D245:D 1D246:0 1D300:D 1D357:0",
    "1D6DB:D 1D6DC:0 1D715:D 1D716:0 1D74F:D 1D750:0 1D789:D 1D78A:0 1D7C3:D 1D7C4:0 1D7CE:3",
    "1D800:0 1DA00:8 1DA37:0 1DA3B:8 1DA6D:0 1DA75:8 1DA76:0 1DA84:8 1DA85:0 1DA9B:8 1DAA0:0",
    "1DAA1:8 1DAB0:0 1E000:8 1E007:0 1E008:8 1E019:0 1E01B:8 1E022:0 1E023:8 1E025:0 1E026:8",
    "1E02B:0 1E08F:8 1E090:0 1E130:8 1E137:0 1E2AE:8 1E2AF:0 1E2EC:8 1E2F0:0 1E2FF:5 1E300:0",
    "1E4EC:8 1E4F0:0 1E5EE:8 1E5F0:0 1E6E3:8 1E6E4:0 1E6E6:8 1E6E7:0 1E6EE:8 1E6F0:0 1E6F5:8",
    "1E6F6:0 1E800:1 1E8D0:8 1E8D7:1 1E944:8 1E94B:1 1EC70:2 1ECC0:1 1ED00:2 1ED50:1 1EE00:2",
    "1EEF0:D 1EEF2:2 1EF00:1 1F000:D 1F02C:0 1F030:D 1F094:0 1F0A0:D 1F0AF:0 1F0B1:D 1F0C0:0",
    "1F0C1:D 1F0D0:0 1F0D1:D 1F0F6:0 1F100:3 1F10B:D 1F110:0 1F12F:D 1F130:0 1F16A:D 1F170:0",
    "1F1AD:D 1F1AE:0 1F260:D 1F266:0 1F300:D 1F6D8:0 1F6DC:D 1F6ED:0 1F6F0:D 1F6FD:0 1F700:D",
    "1F777:0 1F77B:D 1F7DA:0 1F7E0:D 1F7EC:0 1F7F0:D 1F7F1:0 1F800:D 1F80C:0 1F810:D 1F848:0",
    "1F850:D 1F85A:0 1F860:D 1F888:0 1F890:D 1F8AE:0 1F8B0:D 1F8B2:0 1F900:D 1FA54:0 1FA60:D",
    "1FA6E:0 1FA70:D 1FA7D:0 1FA80:D 1FA89:0 1FA90:D 1FABE:0 1FABF:D 1FAC6:0 1FACE:D 1FADC:0",
    "1FAE0:D 1FAE9:0 1FAF0:D 1FAF9:0 1FB00:D 1FB93:0 1FB94:D 1FBCB:0 1FBF0:3 1FBFA:0 1FFFE:9",
    "20000:0 2FFFE:9 30000:0 3FFFE:9 40000:0 4FFFE:9 50000:0 5FFFE:9 60000:0 6FFFE:9 70000:0",
    "7FFFE:9 80000:0 8FFFE:9 90000:0 9FFFE:9 A0000:0 AFFFE:9 B0000:0 BFFFE:9 C0000:0 CFFFE:9",
    "D0000:0 DFFFE:9 E0100:8 E01F0:9 E1000:0 EFFFE:9 F0000:0 FFFFE:9 100000:0 10FFFE:9"]

/-- The class table, read. -/
def bidiTable : RangeTable := RangeTable.ofText bidiText

/-- The bidirectional class of a character. -/
def bidiClass (c : Char) : BidiClass :=
  BidiClass.all.getD (bidiTable.get c.toNat) .L

/-- Whether a bidirectional class makes a name a right-to-left one. -/
def BidiClass.isRightToLeft (b : BidiClass) : Bool := b == .R || b == .AL || b == .AN

/-- The classes allowed in a left-to-right label. -/
def BidiClass.inLeftToRight (b : BidiClass) : Bool :=
  b == .L || b == .EN || b == .ES || b == .CS || b == .ET || b == .ON || b == .BN || b == .NSM

/-- The classes allowed in a right-to-left label. -/
def BidiClass.inRightToLeft (b : BidiClass) : Bool :=
  b == .R || b == .AL || b == .AN || b == .EN || b == .ES || b == .CS || b == .ET ||
    b == .ON || b == .BN || b == .NSM

end JobQuery.Unicode
