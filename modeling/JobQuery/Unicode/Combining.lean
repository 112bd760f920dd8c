import JobQuery.Unicode.Table

/-!
# Marks and combining classes

Which code points are marks (general category `Mn`, `Mc` or `Me`: a label may not start
with one), and the canonical combining class of every code point (zero for starters;
normalization reorders marks by it, and the virama class `9` licenses a following joiner).
-/

namespace JobQuery.Unicode

/-- The table of marks: `start:1` opens a run of marks, `start:0` a run of others. -/
def markText : String :=
  " ".intercalate [
    "0:0 300:1 370:0 483:1 48A:0 591:1 5BE:0 5BF:1 5C0:0 5C1:1 5C3:0 5C4:1 5C6:0 5C7:1 5C8:0 610:1",
    "61B:0 64B:1 660:0 670:1 671:0 6D6:1 6DD:0 6DF:1 6E5:0 6E7:1 6E9:0 6EA:1 6EE:0 711:1 712:0",
    "730:1 74B:0 7A6:1 7B1:0 7EB:1 7F4:0 7FD:1 7FE:0 816:1 81A:0 81B:1 824:0 825:1 828:0 829:1",
    "82E:0 859:1 85C:0 897:1 8A0:0 8CA:1 8E2:0 8E3:1 904:0 93A:1 93D:0 93E:1 950:0 951:1 958:0",
    "962:1 964:0 981:1 984:0 9BC:1 9BD:0 9BE:1 9C5:0 9C7:1 9C9:0 9CB:1 9CE:0 9D7:1 9D8:0 9E2:1",
    "9E4:0 9FE:1 9FF:0 A01:1 A04:0 A3C:1 A3D:0 A3E:1 A43:0 A47:1 A49:0 A4B:1 A4E:0 A51:1 A52:0",
    "A70:1 A72:0 A75:1 A76:0 A81:1 A84:0 ABC:1 ABD:0 ABE:1 AC6:0 AC7:1 ACA:0 ACB:1 ACE:0 AE2:1",
    "AE4:0 AFA:1 B00:0 B01:1 B04:0 B3C:1 B3D:0 B3E:1 B45:0 B47:1 B49:0 B4B:1 B4E:0 B55:1 B58:0",
    "B62:1 B64:0 B82:1 B83:0 BBE:1 BC3:0 BC6:1 BC9:0 BCA:1 BCE:0 BD7:1 BD8:0 C00:1 C05:0 C3C:1",
    "C3D:0 C3E:1 C45:0 C46:1 C49:0 C4A:1 C4E:0 C55:1 C57:0 C62:1 C64:0 C81:1 C84:0 CBC:1 CBD:0",
    "CBE:1 CC5:0 CC6:1 CC9:0 CCA:1 CCE:0 CD5:1 CD7:0 CE2:1 CE4:0 CF3:1 CF4:0 D00:1 D04:0 D3B:1",
    "D3D:0 D3E:1 D45:0 D46:1 D49:0 D4A:1 D4E:0 D57:1 D58:0 D62:1 D64:0 D81:1 D84:0 DCA:1 DCB:0",
    "DCF:1 DD5:0 DD6:1 DD7:0 DD8:1 DE0:0 DF2:1 DF4:0 E31:1 E32:0 E34:1 E3B:0 E47:1 E4F:0 EB1:1",
    "EB2:0 EB4:1 EBD:0 EC8:1 ECF:0 F18:1 F1A:0 F35:1 F36:0 F37:1 F38:0 F39:1 F3A:0 F3E:1 F40:0",
    "F71:1 F85:0 F86:1 F88:0 F8D:1 F98:0 F99:1 FBD:0 FC6:1 FC7:0 102B:1 103F:0 1056:1 105A:0",
    "105E:1 1061:0 1062:1 1065:0 1067:1 106E:0 1071:1 1075:0 1082:1 108E:0 108F:1 1090:0 109A:1",
    "109E:0 135D:1 1360:0 1712:1 1716:0 1732:1 1735:0 1752:1 1754:0 1772:1 1774:0 17B4:1 17D4:0",
    "17DD:1 17DE:0 180B:1 180E:0 180F:1 1810:0 1885:1 1887:0 18A9:1 18AA:0 1920:1 192C:0 1930:1",
    "193C:0 1A17:1 1A1C:0 1A55:1 1A5F:0 1A60:1 1A7D:0 1A7F:1 1A80:0 1AB0:1 1ADE:0 1AE0:1 1AEC:0",
    "1B00:1 1B05:0 1B34:1 1B45:0 1B6B:1 1B74:0 1B80:1 1B83:0 1BA1:1 1BAE:0 1BE6:1 1BF4:0 1C24:1",
    "1C38:0 1CD0:1 1CD3:0 1CD4:1 1CE9:0 1CED:1 1CEE:0 1CF4:1 1CF5:0 1CF7:1 1CFA:0 1DC0:1 1E00:0",
    "20D0:1 20F1:0 2CEF:1 2CF2:0 2D7F:1 2D80:0 2DE0:1 2E00:0 302A:1 3030:0 3099:1 309B:0 A66F:1",
    "A673:0 A674:1 A67E:0 A69E:1 A6A0:0 A6F0:1 A6F2:0 A802:1 A803:0 A806:1 A807:0 A80B:1 A80C:0",
    "A823:1 A828:0 A82C:1 A82D:0 A880:1 A882:0 A8B4:1 A8C6:0 A8E0:1 A8F2:0 A8FF:1 A900:0 A926:1",
    "A92E:0 A947:1 A954:0 A980:1 A984:0 A9B3:1 A9C1:0 A9E5:1 A9E6:0 AA29:1 AA37:0 AA43:1 AA44:0",
    "AA4C:1 AA4E:0 AA7B:1 AA7E:0 AAB0:1 AAB1:0 AAB2:1 AAB5:0 AAB7:1 AAB9:0 AABE:1 AAC0:0 AAC1:1",
    "AAC2:0 AAEB:1 AAF0:0 AAF5:1 AAF7:0 ABE3:1 ABEB:0 ABEC:1 ABEE:0 FB1E:1 FB1F:0 FE00:1 FE10:0",
    "FE20:1 FE30:0 101FD:1 101FE:0 102E0:1 102E1:0 10376:1 1037B:0 10A01:1 10A04:0 10A05:1 10A07:0",
    "10A0C:1 10A10:0 10A38:1 10A3B:0 10A3F:1 10A40:0 10AE5:1 10AE7:0 10D24:1 10D28:0 10D69:1",
    "10D6E:0 10EAB:1 10EAD:0 10EFA:1 10F00:0 10F46:1 10F51:0 10F82:1 10F86:0 11000:1 11003:0",
    "11038:1 11047:0 11070:1 11071:0 11073:1 11075:0 1107F:1 11083:0 110B0:1 110BB:0 110C2:1",
    "110C3:0 11100:1 11103:0 11127:1 11135:0 11145:1 11147:0 11173:1 11174:0 11180:1 11183:0",
    "111B3:1 111C1:0 111C9:1 111CD:0 111CE:1 111D0:0 1122C:1 11238:0 1123E:1 1123F:0 11241:1",
    "11242:0 112DF:1 112EB:0 11300:1 11304:0 1133B:1 1133D:0 1133E:1 11345:0 11347:1 11349:0",
    "1134B:1 1134E:0 11357:1 11358:0 11362:1 11364:0 11366:1 1136D:0 11370:1 11375:0 113B8:1",
    "113C1:0 113C2:1 113C3:0 113C5:1 113C6:0 113C7:1 113CB:0 113CC:1 113D1:0 113D2:1 113D3:0",
    "113E1:1 113E3:0 11435:1 11447:0 1145E:1 1145F:0 114B0:1 114C4:0 115AF:1 115B6:0 115B8:1",
    "115C1:0 115DC:1 115DE:0 11630:1 11641:0 116AB:1 116B8:0 1171D:1 1172C:0 1182C:1 1183B:0",
    "11930:1 11936:0 11937:1 11939:0 1193B:1 1193F:0 11940:1 11941:0 11942:1 11944:0 119D1:1",
    "119D8:0 119DA:1 119E1:0 119E4:1 119E5:0 11A01:1 11A0B:0 11A33:1 11A3A:0 11A3B:1 11A3F:0",
    "11A47:1 11A48:0 11A51:1 11A5C:0 11A8A:1 11A9A:0 11B60:1 11B68:0 11C2F:1 11C37:0 11C38:1",
    "11C40:0 11C92:1 11CA8:0 11CA9:1 11CB7:0 11D31:1 11D37:0 11D3A:1 11D3B:0 11D3C:1 11D3E:0",
    "11D3F:1 11D46:0 11D47:1 11D48:0 11D8A:1 11D8F:0 11D90:1 11D92:0 11D93:1 11D98:0 11EF3:1",
    "11EF7:0 11F00:1 11F02:0 11F03:1 11F04:0 11F34:1 11F3B:0 11F3E:1 11F43:0 11F5A:1 11F5B:0",
    "13440:1 13441:0 13447:1 13456:0 1611E:1 16130:0 16AF0:1 16AF5:0 16B30:1 16B37:0 16F4F:1",
    "16F50:0 16F51:1 16F88:0 16F8F:1 16F93:0 16FE4:1 16FE5:0 16FF0:1 16FF2:0 1BC9D:1 1BC9F:0",
    "1CF00:1 1CF2E:0 1CF30:1 1CF47:0 1D165:1 1D16A:0 1D16D:1 1D173:0 1D17B:1 1D183:0 1D185:1",
    "1D18C:0 1D1AA:1 1D1AE:0 1D242:1 1D245:0 1DA00:1 1DA37:0 1DA3B:1 1DA6D:0 1DA75:1 1DA76:0",
    "1DA84:1 1DA85:0 1DA9B:1 1DAA0:0 1DAA1:1 1DAB0:0 1E000:1 1E007:0 1E008:1 1E019:0 1E01B:1",
    "1E022:0 1E023:1 1E025:0 1E026:1 1E02B:0 1E08F:1 1E090:0 1E130:1 1E137:0 1E2AE:1 1E2AF:0",
    "1E2EC:1 1E2F0:0 1E4EC:1 1E4F0:0 1E5EE:1 1E5F0:0 1E6E3:1 1E6E4:0 1E6E6:1 1E6E7:0 1E6EE:1",
    "1E6F0:0 1E6F5:1 1E6F6:0 1E8D0:1 1E8D7:0 1E944:1 1E94B:0 E0100:1 E01F0:0"]

/-- The mark table, read. -/
def markTable : RangeTable := RangeTable.ofText markText

/-- Whether a character is a mark. -/
def isMark (c : Char) : Bool := markTable.get c.toNat == 1

/-- The table of canonical combining classes: `start:class`, the class in hex. -/
def combiningText : String :=
  " ".intercalate [
    "0:0 300:E6 315:E8 316:DC 31A:E8 31B:D8 31C:DC 321:CA 323:DC 327:CA 329:DC 334:1 339:DC 33D:E6",
    "345:F0 346:E6 347:DC 34A:E6 34D:DC 34F:0 350:E6 353:DC 357:E6 358:E8 359:DC 35B:E6 35C:E9",
    "35D:EA 35F:E9 360:EA 362:E9 363:E6 370:0 483:E6 488:0 591:DC 592:E6 596:DC 597:E6 59A:DE",
    "59B:DC 59C:E6 5A2:DC 5A8:E6 5AA:DC 5AB:E6 5AD:DE 5AE:E4 5AF:E6 5B0:A 5B1:B 5B2:C 5B3:D 5B4:E",
    "5B5:F 5B6:10 5B7:11 5B8:12 5B9:13 5BB:14 5BC:15 5BD:16 5BE:0 5BF:17 5C0:0 5C1:18 5C2:19 5C3:0",
    "5C4:E6 5C5:DC 5C6:0 5C7:12 5C8:0 610:E6 618:1E 619:1F 61A:20 61B:0 64B:1B 64C:1C 64D:1D",
    "64E:1E 64F:1F 650:20 651:21 652:22 653:E6 655:DC 657:E6 65C:DC 65D:E6 65F:DC 660:0 670:23",
    "671:0 6D6:E6 6DD:0 6DF:E6 6E3:DC 6E4:E6 6E5:0 6E7:E6 6E9:0 6EA:DC 6EB:E6 6ED:DC 6EE:0 711:24",
    "712:0 730:E6 731:DC 732:E6 734:DC 735:E6 737:DC 73A:E6 73B:DC 73D:E6 73E:DC 73F:E6 742:DC",
    "743:E6 744:DC 745:E6 746:DC 747:E6 748:DC 749:E6 74B:0 7EB:E6 7F2:DC 7F3:E6 7F4:0 7FD:DC",
    "7FE:0 816:E6 81A:0 81B:E6 824:0 825:E6 828:0 829:E6 82E:0 859:DC 85C:0 897:E6 899:DC 89C:E6",
    "8A0:0 8CA:E6 8CF:DC 8D4:E6 8E2:0 8E3:DC 8E4:E6 8E6:DC 8E7:E6 8E9:DC 8EA:E6 8ED:DC 8F0:1B",
    "8F1:1C 8F2:1D 8F3:E6 8F6:DC 8F7:E6 8F9:DC 8FB:E6 900:0 93C:7 93D:0 94D:9 94E:0 951:E6 952:DC",
    "953:E6 955:0 9BC:7 9BD:0 9CD:9 9CE:0 9FE:E6 9FF:0 A3C:7 A3D:0 A4D:9 A4E:0 ABC:7 ABD:0 ACD:9",
    "ACE:0 B3C:7 B3D:0 B4D:9 B4E:0 BCD:9 BCE:0 C3C:7 C3D:0 C4D:9 C4E:0 C55:54 C56:5B C57:0 CBC:7",
    "CBD:0 CCD:9 CCE:0 D3B:9 D3D:0 D4D:9 D4E:0 DCA:9 DCB:0 E38:67 E3A:9 E3B:0 E48:6B E4C:0 EB8:76",
    "EBA:9 EBB:0 EC8:7A ECC:0 F18:DC F1A:0 F35:DC F36:0 F37:DC F38:0 F39:D8 F3A:0 F71:81 F72:82",
    "F73:0 F74:84 F75:0 F7A:82 F7E:0 F80:82 F81:0 F82:E6 F84:9 F85:0 F86:E6 F88:0 FC6:DC FC7:0",
    "1037:7 1038:0 1039:9 103B:0 108D:DC 108E:0 135D:E6 1360:0 1714:9 1716:0 1734:9 1735:0 17D2:9",
    "17D3:0 17DD:E6 17DE:0 18A9:E4 18AA:0 1939:DE 193A:E6 193B:DC 193C:0 1A17:E6 1A18:DC 1A19:0",
    "1A60:9 1A61:0 1A75:E6 1A7D:0 1A7F:DC 1A80:0 1AB0:E6 1AB5:DC 1ABB:E6 1ABD:DC 1ABE:0 1ABF:DC",
    "1AC1:E6 1AC3:DC 1AC5:E6 1ACA:DC 1ACB:E6 1ADD:DC 1ADE:0 1AE0:E6 1AE6:DC 1AE7:E6 1AEB:EA 1AEC:0",
    "1B34:7 1B35:0 1B44:9 1B45:0 1B6B:E6 1B6C:DC 1B6D:E6 1B74:0 1BAA:9 1BAC:0 1BE6:7 1BE7:0 1BF2:9",
    "1BF4:0 1C37:7 1C38:0 1CD0:E6 1CD3:0 1CD4:1 1CD5:DC 1CDA:E6 1CDC:DC 1CE0:E6 1CE1:0 1CE2:1",
    "1CE9:0 1CED:DC 1CEE:0 1CF4:E6 1CF5:0 1CF8:E6 1CFA:0 1DC0:E6 1DC2:DC 1DC3:E6 1DCA:DC 1DCB:E6",
    "1DCD:EA 1DCE:D6 1DCF:DC 1DD0:CA 1DD1:E6 1DF6:E8 1DF7:E4 1DF9:DC 1DFA:DA 1DFB:E6 1DFC:E9",
    "1DFD:DC 1DFE:E6 1DFF:DC 1E00:0 20D0:E6 20D2:1 20D4:E6 20D8:1 20DB:E6 20DD:0 20E1:E6 20E2:0",
    "20E5:1 20E7:E6 20E8:DC 20E9:E6 20EA:1 20EC:DC 20F0:E6 20F1:0 2CEF:E6 2CF2:0 2D7F:9 2D80:0",
    "2DE0:E6 2E00:0 302A:DA 302B:E4 302C:E8 302D:DE 302E:E0 3030:0 3099:8 309B:0 A66F:E6 A670:0",
    "A674:E6 A67E:0 A69E:E6 A6A0:0 A6F0:E6 A6F2:0 A806:9 A807:0 A82C:9 A82D:0 A8C4:9 A8C5:0",
    "A8E0:E6 A8F2:0 A92B:DC A92E:0 A953:9 A954:0 A9B3:7 A9B4:0 A9C0:9 A9C1:0 AAB0:E6 AAB1:0",
    "AAB2:E6 AAB4:DC AAB5:0 AAB7:E6 AAB9:0 AABE:E6 AAC0:0 AAC1:E6 AAC2:0 AAF6:9 AAF7:0 ABED:9",
    "ABEE:0 FB1E:1A FB1F:0 FE20:E6 FE27:DC FE2E:E6 FE30:0 101FD:DC 101FE:0 102E0:DC 102E1:0",
    "10376:E6 1037B:0 10A0D:DC 10A0E:0 10A0F:E6 10A10:0 10A38:E6 10A39:1 10A3A:DC 10A3B:0 10A3F:9",
    "10A40:0 10AE5:E6 10AE6:DC 10AE7:0 10D24:E6 10D28:0 10D69:E6 10D6E:0 10EAB:E6 10EAD:0 10EFA:DC",
    "10EFC:0 10EFD:DC 10F00:0 10F46:DC 10F48:E6 10F4B:DC 10F4C:E6 10F4D:DC 10F51:0 10F82:E6",
    "10F83:DC 10F84:E6 10F85:DC 10F86:0 11046:9 11047:0 11070:9 11071:0 1107F:9 11080:0 110B9:9",
    "110BA:7 110BB:0 11100:E6 11103:0 11133:9 11135:0 11173:7 11174:0 111C0:9 111C1:0 111CA:7",
    "111CB:0 11235:9 11236:7 11237:0 112E9:7 112EA:9 112EB:0 1133B:7 1133D:0 1134D:9 1134E:0",
    "11366:E6 1136D:0 11370:E6 11375:0 113CE:9 113D1:0 11442:9 11443:0 11446:7 11447:0 1145E:E6",
    "1145F:0 114C2:9 114C3:7 114C4:0 115BF:9 115C0:7 115C1:0 1163F:9 11640:0 116B6:9 116B7:7",
    "116B8:0 1172B:9 1172C:0 11839:9 1183A:7 1183B:0 1193D:9 1193F:0 11943:7 11944:0 119E0:9",
    "119E1:0 11A34:9 11A35:0 11A47:9 11A48:0 11A99:9 11A9A:0 11C3F:9 11C40:0 11D42:7 11D43:0",
    "11D44:9 11D46:0 11D97:9 11D98:0 11F41:9 11F43:0 1612F:9 16130:0 16AF0:1 16AF5:0 16B30:E6",
    "16B37:0 16FF0:6 16FF2:0 1BC9E:1 1BC9F:0 1D165:D8 1D167:1 1D16A:0 1D16D:E2 1D16E:D8 1D173:0",
    "1D17B:DC 1D183:0 1D185:E6 1D18A:DC 1D18C:0 1D1AA:E6 1D1AE:0 1D242:E6 1D245:0 1E000:E6 1E007:0",
    "1E008:E6 1E019:0 1E01B:E6 1E022:0 1E023:E6 1E025:0 1E026:E6 1E02B:0 1E08F:E6 1E090:0 1E130:E6",
    "1E137:0 1E2AE:E6 1E2AF:0 1E2EC:E6 1E2F0:0 1E4EC:E8 1E4EE:DC 1E4EF:E6 1E4F0:0 1E5EE:E6",
    "1E5EF:DC 1E5F0:0 1E6E3:E6 1E6E4:0 1E6E6:E6 1E6E7:0 1E6EE:E6 1E6F0:0 1E6F5:E6 1E6F6:0 1E8D0:DC",
    "1E8D7:0 1E944:E6 1E94A:7 1E94B:0"]

/-- The combining class table, read. -/
def combiningTable : RangeTable := RangeTable.ofText combiningText

/-- The canonical combining class of a code point. -/
def combiningClass (n : Nat) : Nat := combiningTable.get n

/-- The combining class of viramas. -/
def viramaClass : Nat := 9

end JobQuery.Unicode
