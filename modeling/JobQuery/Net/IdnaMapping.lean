import JobQuery.Unicode.Table

/-!
# The IDNA mapping table

What domain processing does with each code point (Unicode 17): keep it (*valid*), replace it
by other code points (*mapped*: upper case to lower case, compatibility forms to their
plain forms), keep it although older processing replaced it (*deviation*: `ß`, final
sigma, the zero-width joiners), drop it (*ignored*: the soft hyphen, variation selectors),
or refuse it (*disallowed*: controls, unassigned code points and other characters no domain
may hold).

The table's text lists the ranges by their first code point: `start:v`, `start:d`,
`start:i`, `start:x`, or `start:m:c1,c2,...` for a mapping to `c1 c2 ...`; a range runs up
to the next start, and every code point of a mapped range maps to the same code points.
-/

namespace JobQuery.Net

open Unicode

/-- What domain processing does with a code point. -/
inductive IdnaStatus where
  | valid
  | mapped (replacement : List Nat)
  | deviation
  | ignored
  | disallowed
  deriving Repr, BEq, Inhabited

/-- The ranges of the mapping table. -/
def idnaMappingText : String :=
  " ".intercalate [
    "0:v 1:v 2:v 3:v 4:v 5:v 6:v 7:v 8:v 9:v A:v B:v C:v D:v E:v F:v 10:v 11:v 12:v 13:v 14:v 15:v",
    "16:v 17:v 18:v 19:v 1A:v 1B:v 1C:v 1D:v 1E:v 1F:v 20:v 21:v 22:v 23:v 24:v 25:v 26:v 27:v",
    "28:v 29:v 2A:v 2B:v 2C:v 2D:v 2E:v 2F:v 30:v 31:v 32:v 33:v 34:v 35:v 36:v 37:v 38:v 39:v",
    "3A:v 3B:v 3C:v 3D:v 3E:v 3F:v 40:v 41:m:61 42:m:62 43:m:63 44:m:64 45:m:65 46:m:66 47:m:67",
    "48:m:68 49:m:69 4A:m:6A 4B:m:6B 4C:m:6C 4D:m:6D 4E:m:6E 4F:m:6F 50:m:70 51:m:71 52:m:72",
    "53:m:73 54:m:74 55:m:75 56:m:76 57:m:77 58:m:78 59:m:79 5A:m:7A 5B:v 5C:v 5D:v 5E:v 5F:v 60:v",
    "61:v 62:v 63:v 64:v 65:v 66:v 67:v 68:v 69:v 6A:v 6B:v 6C:v 6D:v 6E:v 6F:v 70:v 71:v 72:v",
    "73:v 74:v 75:v 76:v 77:v 78:v 79:v 7A:v 7B:v 7C:v 7D:v 7E:v 7F:v 80:x 81:x 82:x 83:x 84:x",
    "85:x 86:x 87:x 88:x 89:x 8A:x 8B:x 8C:x 8D:x 8E:x 8F:x 90:x 91:x 92:x 93:x 94:x 95:x 96:x",
    "97:x 98:x 99:x 9A:x 9B:x 9C:x 9D:x 9E:x 9F:x A0:m:20 A1:v A2:v A3:v A4:v A5:v A6:v A7:v",
    "A8:m:20,308 A9:v AA:m:61 AB:v AC:v AD:i AE:v AF:m:20,304 B0:v B1:v B2:m:32 B3:m:33",
    "B4:m:20,301 B5:m:3BC B6:v B7:v B8:m:20,327 B9:m:31 BA:m:6F BB:v BC:m:31,2044,34",
    "BD:m:31,2044,32 BE:m:33,2044,34 BF:v C0:m:E0 C1:m:E1 C2:m:E2 C3:m:E3 C4:m:E4 C5:m:E5 C6:m:E6",
    "C7:m:E7 C8:m:E8 C9:m:E9 CA:m:EA CB:m:EB CC:m:EC CD:m:ED CE:m:EE CF:m:EF D0:m:F0 D1:m:F1",
    "D2:m:F2 D3:m:F3 D4:m:F4 D5:m:F5 D6:m:F6 D7:v D8:m:F8 D9:m:F9 DA:m:FA DB:m:FB DC:m:FC DD:m:FD",
    "DE:m:FE DF:d E0:v E1:v E2:v E3:v E4:v E5:v E6:v E7:v E8:v E9:v EA:v EB:v EC:v ED:v EE:v EF:v",
    "F0:v F1:v F2:v F3:v F4:v F5:v F6:v F7:v F8:v F9:v FA:v FB:v FC:v FD:v FE:v FF:v 100:m:101",
    "101:v 102:m:103 103:v 104:m:105 105:v 106:m:107 107:v 108:m:109 109:v 10A:m:10B 10B:v",
    "10C:m:10D 10D:v 10E:m:10F 10F:v 110:m:111 111:v 112:m:113 113:v 114:m:115 115:v 116:m:117",
    "117:v 118:m:119 119:v 11A:m:11B 11B:v 11C:m:11D 11D:v 11E:m:11F 11F:v 120:m:121 121:v",
    "122:m:123 123:v 124:m:125 125:v 126:m:127 127:v 128:m:129 129:v 12A:m:12B 12B:v 12C:m:12D",
    "12D:v 12E:m:12F 12F:v 130:m:69,307 131:v 132:m:69,6A 134:m:135 135:v 136:m:137 137:v",
    "139:m:13A 13A:v 13B:m:13C 13C:v 13D:m:13E 13E:v 13F:m:6C,B7 141:m:142 142:v 143:m:144 144:v",
    "145:m:146 146:v 147:m:148 148:v 149:m:2BC,6E 14A:m:14B 14B:v 14C:m:14D 14D:v 14E:m:14F 14F:v",
    "150:m:151 151:v 152:m:153 153:v 154:m:155 155:v 156:m:157 157:v 158:m:159 159:v 15A:m:15B",
    "15B:v 15C:m:15D 15D:v 15E:m:15F 15F:v 160:m:161 161:v 162:m:163 163:v 164:m:165 165:v",
    "166:m:167 167:v 168:m:169 169:v 16A:m:16B 16B:v 16C:m:16D 16D:v 16E:m:16F 16F:v 170:m:171",
    "171:v 172:m:173 173:v 174:m:175 175:v 176:m:177 177:v 178:m:FF 179:m:17A 17A:v 17B:m:17C",
    "17C:v 17D:m:17E 17E:v 17F:m:73 180:v 181:m:253 182:m:183 183:v 184:m:185 185:v 186:m:254",
    "187:m:188 188:v 189:m:256 18A:m:257 18B:m:18C 18C:v 18E:m:1DD 18F:m:259 190:m:25B 191:m:192",
    "192:v 193:m:260 194:m:263 195:v 196:m:269 197:m:268 198:m:199 199:v 19C:m:26F 19D:m:272 19E:v",
    "19F:m:275 1A0:m:1A1 1A1:v 1A2:m:1A3 1A3:v 1A4:m:1A5 1A5:v 1A6:m:280 1A7:m:1A8 1A8:v 1A9:m:283",
    "1AA:v 1AC:m:1AD 1AD:v 1AE:m:288 1AF:m:1B0 1B0:v 1B1:m:28A 1B2:m:28B 1B3:m:1B4 1B4:v 1B5:m:1B6",
    "1B6:v 1B7:m:292 1B8:m:1B9 1B9:v 1BC:m:1BD 1BD:v 1C4:m:64,17E 1C7:m:6C,6A 1CA:m:6E,6A",
    "1CD:m:1CE 1CE:v 1CF:m:1D0 1D0:v 1D1:m:1D2 1D2:v 1D3:m:1D4 1D4:v 1D5:m:1D6 1D6:v 1D7:m:1D8",
    "1D8:v 1D9:m:1DA 1DA:v 1DB:m:1DC 1DC:v 1DE:m:1DF 1DF:v 1E0:m:1E1 1E1:v 1E2:m:1E3 1E3:v",
    "1E4:m:1E5 1E5:v 1E6:m:1E7 1E7:v 1E8:m:1E9 1E9:v 1EA:m:1EB 1EB:v 1EC:m:1ED 1ED:v 1EE:m:1EF",
    "1EF:v 1F1:m:64,7A 1F4:m:1F5 1F5:v 1F6:m:195 1F7:m:1BF 1F8:m:1F9 1F9:v 1FA:m:1FB 1FB:v",
    "1FC:m:1FD 1FD:v 1FE:m:1FF 1FF:v 200:m:201 201:v 202:m:203 203:v 204:m:205 205:v 206:m:207",
    "207:v 208:m:209 209:v 20A:m:20B 20B:v 20C:m:20D 20D:v 20E:m:20F 20F:v 210:m:211 211:v",
    "212:m:213 213:v 214:m:215 215:v 216:m:217 217:v 218:m:219 219:v 21A:m:21B 21B:v 21C:m:21D",
    "21D:v 21E:m:21F 21F:v 220:m:19E 221:v 222:m:223 223:v 224:m:225 225:v 226:m:227 227:v",
    "228:m:229 229:v 22A:m:22B 22B:v 22C:m:22D 22D:v 22E:m:22F 22F:v 230:m:231 231:v 232:m:233",
    "233:v 23A:m:2C65 23B:m:23C 23C:v 23D:m:19A 23E:m:2C66 23F:v 241:m:242 242:v 243:m:180",
    "244:m:289 245:m:28C 246:m:247 247:v 248:m:249 249:v 24A:m:24B 24B:v 24C:m:24D 24D:v 24E:m:24F",
    "24F:v 2B0:m:68 2B1:m:266 2B2:m:6A 2B3:m:72 2B4:m:279 2B5:m:27B 2B6:m:281 2B7:m:77 2B8:m:79",
    "2B9:v 2D8:m:20,306 2D9:m:20,307 2DA:m:20,30A 2DB:m:20,328 2DC:m:20,303 2DD:m:20,30B 2DE:v",
    "2E0:m:263 2E1:m:6C 2E2:m:73 2E3:m:78 2E4:m:295 2E5:v 340:m:300 341:m:301 342:v 343:m:313",
    "344:m:308,301 345:m:3B9 346:v 34F:i 350:v 370:m:371 371:v 372:m:373 373:v 374:m:2B9 375:v",
    "376:m:377 377:v 378:x 37A:m:20,3B9 37B:v 37E:m:3B 37F:m:3F3 380:x 384:m:20,301",
    "385:m:20,308,301 386:m:3AC 387:m:B7 388:m:3AD 389:m:3AE 38A:m:3AF 38B:x 38C:m:3CC 38D:x",
    "38E:m:3CD 38F:m:3CE 390:v 391:m:3B1 392:m:3B2 393:m:3B3 394:m:3B4 395:m:3B5 396:m:3B6",
    "397:m:3B7 398:m:3B8 399:m:3B9 39A:m:3BA 39B:m:3BB 39C:m:3BC 39D:m:3BD 39E:m:3BE 39F:m:3BF",
    "3A0:m:3C0 3A1:m:3C1 3A2:x 3A3:m:3C3 3A4:m:3C4 3A5:m:3C5 3A6:m:3C6 3A7:m:3C7 3A8:m:3C8",
    "3A9:m:3C9 3AA:m:3CA 3AB:m:3CB 3AC:v 3C2:d 3C3:v 3CF:m:3D7 3D0:m:3B2 3D1:m:3B8 3D2:m:3C5",
    "3D3:m:3CD 3D4:m:3CB 3D5:m:3C6 3D6:m:3C0 3D7:v 3D8:m:3D9 3D9:v 3DA:m:3DB 3DB:v 3DC:m:3DD 3DD:v",
    "3DE:m:3DF 3DF:v 3E0:m:3E1 3E1:v 3E2:m:3E3 3E3:v 3E4:m:3E5 3E5:v 3E6:m:3E7 3E7:v 3E8:m:3E9",
    "3E9:v 3EA:m:3EB 3EB:v 3EC:m:3ED 3ED:v 3EE:m:3EF 3EF:v 3F0:m:3BA 3F1:m:3C1 3F2:m:3C3 3F3:v",
    "3F4:m:3B8 3F5:m:3B5 3F6:v 3F7:m:3F8 3F8:v 3F9:m:3C3 3FA:m:3FB 3FB:v 3FD:m:37B 3FE:m:37C",
    "3FF:m:37D 400:m:450 401:m:451 402:m:452 403:m:453 404:m:454 405:m:455 406:m:456 407:m:457",
    "408:m:458 409:m:459 40A:m:45A 40B:m:45B 40C:m:45C 40D:m:45D 40E:m:45E 40F:m:45F 410:m:430",
    "411:m:431 412:m:432 413:m:433 414:m:434 415:m:435 416:m:436 417:m:437 418:m:438 419:m:439",
    "41A:m:43A 41B:m:43B 41C:m:43C 41D:m:43D 41E:m:43E 41F:m:43F 420:m:440 421:m:441 422:m:442",
    "423:m:443 424:m:444 425:m:445 426:m:446 427:m:447 428:m:448 429:m:449 42A:m:44A 42B:m:44B",
    "42C:m:44C 42D:m:44D 42E:m:44E 42F:m:44F 430:v 460:m:461 461:v 462:m:463 463:v 464:m:465 465:v",
    "466:m:467 467:v 468:m:469 469:v 46A:m:46B 46B:v 46C:m:46D 46D:v 46E:m:46F 46F:v 470:m:471",
    "471:v 472:m:473 473:v 474:m:475 475:v 476:m:477 477:v 478:m:479 479:v 47A:m:47B 47B:v",
    "47C:m:47D 47D:v 47E:m:47F 47F:v 480:m:481 481:v 48A:m:48B 48B:v 48C:m:48D 48D:v 48E:m:48F",
    "48F:v 490:m:491 491:v 492:m:493 493:v 494:m:495 495:v 496:m:497 497:v 498:m:499 499:v",
    "49A:m:49B 49B:v 49C:m:49D 49D:v 49E:m:49F 49F:v 4A0:m:4A1 4A1:v 4A2:m:4A3 4A3:v 4A4:m:4A5",
    "4A5:v 4A6:m:4A7 4A7:v 4A8:m:4A9 4A9:v 4AA:m:4AB 4AB:v 4AC:m:4AD 4AD:v 4AE:m:4AF 4AF:v",
    "4B0:m:4B1 4B1:v 4B2:m:4B3 4B3:v 4B4:m:4B5 4B5:v 4B6:m:4B7 4B7:v 4B8:m:4B9 4B9:v 4BA:m:4BB",
    "4BB:v 4BC:m:4BD 4BD:v 4BE:m:4BF 4BF:v 4C0:m:4CF 4C1:m:4C2 4C2:v 4C3:m:4C4 4C4:v 4C5:m:4C6",
    "4C6:v 4C7:m:4C8 4C8:v 4C9:m:4CA 4CA:v 4CB:m:4CC 4CC:v 4CD:m:4CE 4CE:v 4D0:m:4D1 4D1:v",
    "4D2:m:4D3 4D3:v 4D4:m:4D5 4D5:v 4D6:m:4D7 4D7:v 4D8:m:4D9 4D9:v 4DA:m:4DB 4DB:v 4DC:m:4DD",
    "4DD:v 4DE:m:4DF 4DF:v 4E0:m:4E1 4E1:v 4E2:m:4E3 4E3:v 4E4:m:4E5 4E5:v 4E6:m:4E7 4E7:v",
    "4E8:m:4E9 4E9:v 4EA:m:4EB 4EB:v 4EC:m:4ED 4ED:v 4EE:m:4EF 4EF:v 4F0:m:4F1 4F1:v 4F2:m:4F3",
    "4F3:v 4F4:m:4F5 4F5:v 4F6:m:4F7 4F7:v 4F8:m:4F9 4F9:v 4FA:m:4FB 4FB:v 4FC:m:4FD 4FD:v",
    "4FE:m:4FF 4FF:v 500:m:501 501:v 502:m:503 503:v 504:m:505 505:v 506:m:507 507:v 508:m:509",
    "509:v 50A:m:50B 50B:v 50C:m:50D 50D:v 50E:m:50F 50F:v 510:m:511 511:v 512:m:513 513:v",
    "514:m:515 515:v 516:m:517 517:v 518:m:519 519:v 51A:m:51B 51B:v 51C:m:51D 51D:v 51E:m:51F",
    "51F:v 520:m:521 521:v 522:m:523 523:v 524:m:525 525:v 526:m:527 527:v 528:m:529 529:v",
    "52A:m:52B 52B:v 52C:m:52D 52D:v 52E:m:52F 52F:v 530:x 531:m:561 532:m:562 533:m:563 534:m:564",
    "535:m:565 536:m:566 537:m:567 538:m:568 539:m:569 53A:m:56A 53B:m:56B 53C:m:56C 53D:m:56D",
    "53E:m:56E 53F:m:56F 540:m:570 541:m:571 542:m:572 543:m:573 544:m:574 545:m:575 546:m:576",
    "547:m:577 548:m:578 549:m:579 54A:m:57A 54B:m:57B 54C:m:57C 54D:m:57D 54E:m:57E 54F:m:57F",
    "550:m:580 551:m:581 552:m:582 553:m:583 554:m:584 555:m:585 556:m:586 557:x 559:v",
    "587:m:565,582 588:v 58B:x 58D:v 590:x 591:v 5C8:x 5D0:v 5EB:x 5EF:v 5F5:x 606:v 61C:x 61D:v",
    "675:m:627,674 676:m:648,674 677:m:6C7,674 678:m:64A,674 679:v 6DD:x 6DE:v 70E:x 710:v 74B:x",
    "74D:v 7B2:x 7C0:v 7FB:x 7FD:v 82E:x 830:v 83F:x 840:v 85C:x 85E:v 85F:x 860:v 86B:x 870:v",
    "890:x 897:v 8E2:x 8E3:v 958:m:915,93C 959:m:916,93C 95A:m:917,93C 95B:m:91C,93C 95C:m:921,93C",
    "95D:m:922,93C 95E:m:92B,93C 95F:m:92F,93C 960:v 984:x 985:v 98D:x 98F:v 991:x 993:v 9A9:x",
    "9AA:v 9B1:x 9B2:v 9B3:x 9B6:v 9BA:x 9BC:v 9C5:x 9C7:v 9C9:x 9CB:v 9CF:x 9D7:v 9D8:x",
    "9DC:m:9A1,9BC 9DD:m:9A2,9BC 9DE:x 9DF:m:9AF,9BC 9E0:v 9E4:x 9E6:v 9FF:x A01:v A04:x A05:v",
    "A0B:x A0F:v A11:x A13:v A29:x A2A:v A31:x A32:v A33:m:A32,A3C A34:x A35:v A36:m:A38,A3C A37:x",
    "A38:v A3A:x A3C:v A3D:x A3E:v A43:x A47:v A49:x A4B:v A4E:x A51:v A52:x A59:m:A16,A3C",
    "A5A:m:A17,A3C A5B:m:A1C,A3C A5C:v A5D:x A5E:m:A2B,A3C A5F:x A66:v A77:x A81:v A84:x A85:v",
    "A8E:x A8F:v A92:x A93:v AA9:x AAA:v AB1:x AB2:v AB4:x AB5:v ABA:x ABC:v AC6:x AC7:v ACA:x",
    "ACB:v ACE:x AD0:v AD1:x AE0:v AE4:x AE6:v AF2:x AF9:v B00:x B01:v B04:x B05:v B0D:x B0F:v",
    "B11:x B13:v B29:x B2A:v B31:x B32:v B34:x B35:v B3A:x B3C:v B45:x B47:v B49:x B4B:v B4E:x",
    "B55:v B58:x B5C:m:B21,B3C B5D:m:B22,B3C B5E:x B5F:v B64:x B66:v B78:x B82:v B84:x B85:v B8B:x",
    "B8E:v B91:x B92:v B96:x B99:v B9B:x B9C:v B9D:x B9E:v BA0:x BA3:v BA5:x BA8:v BAB:x BAE:v",
    "BBA:x BBE:v BC3:x BC6:v BC9:x BCA:v BCE:x BD0:v BD1:x BD7:v BD8:x BE6:v BFB:x C00:v C0D:x",
    "C0E:v C11:x C12:v C29:x C2A:v C3A:x C3C:v C45:x C46:v C49:x C4A:v C4E:x C55:v C57:x C58:v",
    "C5B:x C5C:v C5E:x C60:v C64:x C66:v C70:x C77:v C8D:x C8E:v C91:x C92:v CA9:x CAA:v CB4:x",
    "CB5:v CBA:x CBC:v CC5:x CC6:v CC9:x CCA:v CCE:x CD5:v CD7:x CDC:v CDF:x CE0:v CE4:x CE6:v",
    "CF0:x CF1:v CF4:x D00:v D0D:x D0E:v D11:x D12:v D45:x D46:v D49:x D4A:v D50:x D54:v D64:x",
    "D66:v D80:x D81:v D84:x D85:v D97:x D9A:v DB2:x DB3:v DBC:x DBD:v DBE:x DC0:v DC7:x DCA:v",
    "DCB:x DCF:v DD5:x DD6:v DD7:x DD8:v DE0:x DE6:v DF0:x DF2:v DF5:x E01:v E33:m:E4D,E32 E34:v",
    "E3B:x E3F:v E5C:x E81:v E83:x E84:v E85:x E86:v E8B:x E8C:v EA4:x EA5:v EA6:x EA7:v",
    "EB3:m:ECD,EB2 EB4:v EBE:x EC0:v EC5:x EC6:v EC7:x EC8:v ECF:x ED0:v EDA:x EDC:m:EAB,E99",
    "EDD:m:EAB,EA1 EDE:v EE0:x F00:v F0C:m:F0B F0D:v F43:m:F42,FB7 F44:v F48:x F49:v F4D:m:F4C,FB7",
    "F4E:v F52:m:F51,FB7 F53:v F57:m:F56,FB7 F58:v F5C:m:F5B,FB7 F5D:v F69:m:F40,FB5 F6A:v F6D:x",
    "F71:v F73:m:F71,F72 F74:v F75:m:F71,F74 F76:m:FB2,F80 F77:m:FB2,F71,F80 F78:m:FB3,F80",
    "F79:m:FB3,F71,F80 F7A:v F81:m:F71,F80 F82:v F93:m:F92,FB7 F94:v F98:x F99:v F9D:m:F9C,FB7",
    "F9E:v FA2:m:FA1,FB7 FA3:v FA7:m:FA6,FB7 FA8:v FAC:m:FAB,FB7 FAD:v FB9:m:F90,FB5 FBA:v FBD:x",
    "FBE:v FCD:x FCE:v FDB:x 1000:v 10A0:m:2D00 10A1:m:2D01 10A2:m:2D02 10A3:m:2D03 10A4:m:2D04",
    "10A5:m:2D05 10A6:m:2D06 10A7:m:2D07 10A8:m:2D08 10A9:m:2D09 10AA:m:2D0A 10AB:m:2D0B",
    "10AC:m:2D0C 10AD:m:2D0D 10AE:m:2D0E 10AF:m:2D0F 10B0:m:2D10 10B1:m:2D11 10B2:m:2D12",
    "10B3:m:2D13 10B4:m:2D14 10B5:m:2D15 10B6:m:2D16 10B7:m:2D17 10B8:m:2D18 10B9:m:2D19",
    "10BA:m:2D1A 10BB:m:2D1B 10BC:m:2D1C 10BD:m:2D1D 10BE:m:2D1E 10BF:m:2D1F 10C0:m:2D20",
    "10C1:m:2D21 10C2:m:2D22 10C3:m:2D23 10C4:m:2D24 10C5:m:2D25 10C6:x 10C7:m:2D27 10C8:x",
    "10CD:m:2D2D 10CE:x 10D0:v 10FC:m:10DC 10FD:v 115F:i 1161:v 1249:x 124A:v 124E:x 1250:v 1257:x",
    "1258:v 1259:x 125A:v 125E:x 1260:v 1289:x 128A:v 128E:x 1290:v 12B1:x 12B2:v 12B6:x 12B8:v",
    "12BF:x 12C0:v 12C1:x 12C2:v 12C6:x 12C8:v 12D7:x 12D8:v 1311:x 1312:v 1316:x 1318:v 135B:x",
    "135D:v 137D:x 1380:v 139A:x 13A0:v 13F6:x 13F8:m:13F0 13F9:m:13F1 13FA:m:13F2 13FB:m:13F3",
    "13FC:m:13F4 13FD:m:13F5 13FE:x 1400:v 1680:x 1681:v 169D:x 16A0:v 16F9:x 1700:v 1716:x 171F:v",
    "1737:x 1740:v 1754:x 1760:v 176D:x 176E:v 1771:x 1772:v 1774:x 1780:v 17B4:i 17B6:v 17DE:x",
    "17E0:v 17EA:x 17F0:v 17FA:x 1800:v 180B:i 1810:v 181A:x 1820:v 1879:x 1880:v 18AB:x 18B0:v",
    "18F6:x 1900:v 191F:x 1920:v 192C:x 1930:v 193C:x 1940:v 1941:x 1944:v 196E:x 1970:v 1975:x",
    "1980:v 19AC:x 19B0:v 19CA:x 19D0:v 19DB:x 19DE:v 1A1C:x 1A1E:v 1A5F:x 1A60:v 1A7D:x 1A7F:v",
    "1A8A:x 1A90:v 1A9A:x 1AA0:v 1AAE:x 1AB0:v 1ADE:x 1AE0:v 1AEC:x 1B00:v 1B4D:x 1B4E:v 1BF4:x",
    "1BFC:v 1C38:x 1C3B:v 1C4A:x 1C4D:v 1C80:m:432 1C81:m:434 1C82:m:43E 1C83:m:441 1C84:m:442",
    "1C86:m:44A 1C87:m:463 1C88:m:A64B 1C89:m:1C8A 1C8A:v 1C8B:x 1C90:m:10D0 1C91:m:10D1",
    "1C92:m:10D2 1C93:m:10D3 1C94:m:10D4 1C95:m:10D5 1C96:m:10D6 1C97:m:10D7 1C98:m:10D8",
    "1C99:m:10D9 1C9A:m:10DA 1C9B:m:10DB 1C9C:m:10DC 1C9D:m:10DD 1C9E:m:10DE 1C9F:m:10DF",
    "1CA0:m:10E0 1CA1:m:10E1 1CA2:m:10E2 1CA3:m:10E3 1CA4:m:10E4 1CA5:m:10E5 1CA6:m:10E6",
    "1CA7:m:10E7 1CA8:m:10E8 1CA9:m:10E9 1CAA:m:10EA 1CAB:m:10EB 1CAC:m:10EC 1CAD:m:10ED",
    "1CAE:m:10EE 1CAF:m:10EF 1CB0:m:10F0 1CB1:m:10F1 1CB2:m:10F2 1CB3:m:10F3 1CB4:m:10F4",
    "1CB5:m:10F5 1CB6:m:10F6 1CB7:m:10F7 1CB8:m:10F8 1CB9:m:10F9 1CBA:m:10FA 1CBB:x 1CBD:m:10FD",
    "1CBE:m:10FE 1CBF:m:10FF 1CC0:v 1CC8:x 1CD0:v 1CFB:x 1D00:v 1D2C:m:61 1D2D:m:E6 1D2E:m:62",
    "1D2F:v 1D30:m:64 1D31:m:65 1D32:m:1DD 1D33:m:67 1D34:m:68 1D35:m:69 1D36:m:6A 1D37:m:6B",
    "1D38:m:6C 1D39:m:6D 1D3A:m:6E 1D3B:v 1D3C:m:6F 1D3D:m:223 1D3E:m:70 1D3F:m:72 1D40:m:74",
    "1D41:m:75 1D42:m:77 1D43:m:61 1D44:m:250 1D45:m:251 1D46:m:1D02 1D47:m:62 1D48:m:64 1D49:m:65",
    "1D4A:m:259 1D4B:m:25B 1D4C:m:25C 1D4D:m:67 1D4E:v 1D4F:m:6B 1D50:m:6D 1D51:m:14B 1D52:m:6F",
    "1D53:m:254 1D54:m:1D16 1D55:m:1D17 1D56:m:70 1D57:m:74 1D58:m:75 1D59:m:1D1D 1D5A:m:26F",
    "1D5B:m:76 1D5C:m:1D25 1D5D:m:3B2 1D5E:m:3B3 1D5F:m:3B4 1D60:m:3C6 1D61:m:3C7 1D62:m:69",
    "1D63:m:72 1D64:m:75 1D65:m:76 1D66:m:3B2 1D67:m:3B3 1D68:m:3C1 1D69:m:3C6 1D6A:m:3C7 1D6B:v",
    "1D78:m:43D 1D79:v 1D9B:m:252 1D9C:m:63 1D9D:m:255 1D9E:m:F0 1D9F:m:25C 1DA0:m:66 1DA1:m:25F",
    "1DA2:m:261 1DA3:m:265 1DA4:m:268 1DA5:m:269 1DA6:m:26A 1DA7:m:1D7B 1DA8:m:29D 1DA9:m:26D",
    "1DAA:m:1D85 1DAB:m:29F 1DAC:m:271 1DAD:m:270 1DAE:m:272 1DAF:m:273 1DB0:m:274 1DB1:m:275",
    "1DB2:m:278 1DB3:m:282 1DB4:m:283 1DB5:m:1AB 1DB6:m:289 1DB7:m:28A 1DB8:m:1D1C 1DB9:m:28B",
    "1DBA:m:28C 1DBB:m:7A 1DBC:m:290 1DBD:m:291 1DBE:m:292 1DBF:m:3B8 1DC0:v 1E00:m:1E01 1E01:v",
    "1E02:m:1E03 1E03:v 1E04:m:1E05 1E05:v 1E06:m:1E07 1E07:v 1E08:m:1E09 1E09:v 1E0A:m:1E0B",
    "1E0B:v 1E0C:m:1E0D 1E0D:v 1E0E:m:1E0F 1E0F:v 1E10:m:1E11 1E11:v 1E12:m:1E13 1E13:v",
    "1E14:m:1E15 1E15:v 1E16:m:1E17 1E17:v 1E18:m:1E19 1E19:v 1E1A:m:1E1B 1E1B:v 1E1C:m:1E1D",
    "1E1D:v 1E1E:m:1E1F 1E1F:v 1E20:m:1E21 1E21:v 1E22:m:1E23 1E23:v 1E24:m:1E25 1E25:v",
    "1E26:m:1E27 1E27:v 1E28:m:1E29 1E29:v 1E2A:m:1E2B 1E2B:v 1E2C:m:1E2D 1E2D:v 1E2E:m:1E2F",
    "1E2F:v 1E30:m:1E31 1E31:v 1E32:m:1E33 1E33:v 1E34:m:1E35 1E35:v 1E36:m:1E37 1E37:v",
    "1E38:m:1E39 1E39:v 1E3A:m:1E3B 1E3B:v 1E3C:m:1E3D 1E3D:v 1E3E:m:1E3F 1E3F:v 1E40:m:1E41",
    "1E41:v 1E42:m:1E43 1E43:v 1E44:m:1E45 1E45:v 1E46:m:1E47 1E47:v 1E48:m:1E49 1E49:v",
    "1E4A:m:1E4B 1E4B:v 1E4C:m:1E4D 1E4D:v 1E4E:m:1E4F 1E4F:v 1E50:m:1E51 1E51:v 1E52:m:1E53",
    "1E53:v 1E54:m:1E55 1E55:v 1E56:m:1E57 1E57:v 1E58:m:1E59 1E59:v 1E5A:m:1E5B 1E5B:v",
    "1E5C:m:1E5D 1E5D:v 1E5E:m:1E5F 1E5F:v 1E60:m:1E61 1E61:v 1E62:m:1E63 1E63:v 1E64:m:1E65",
    "1E65:v 1E66:m:1E67 1E67:v 1E68:m:1E69 1E69:v 1E6A:m:1E6B 1E6B:v 1E6C:m:1E6D 1E6D:v",
    "1E6E:m:1E6F 1E6F:v 1E70:m:1E71 1E71:v 1E72:m:1E73 1E73:v 1E74:m:1E75 1E75:v 1E76:m:1E77",
    "1E77:v 1E78:m:1E79 1E79:v 1E7A:m:1E7B 1E7B:v 1E7C:m:1E7D 1E7D:v 1E7E:m:1E7F 1E7F:v",
    "1E80:m:1E81 1E81:v 1E82:m:1E83 1E83:v 1E84:m:1E85 1E85:v 1E86:m:1E87 1E87:v 1E88:m:1E89",
    "1E89:v 1E8A:m:1E8B 1E8B:v 1E8C:m:1E8D 1E8D:v 1E8E:m:1E8F 1E8F:v 1E90:m:1E91 1E91:v",
    "1E92:m:1E93 1E93:v 1E94:m:1E95 1E95:v 1E9A:m:61,2BE 1E9B:m:1E61 1E9C:v 1E9E:m:DF 1E9F:v",
    "1EA0:m:1EA1 1EA1:v 1EA2:m:1EA3 1EA3:v 1EA4:m:1EA5 1EA5:v 1EA6:m:1EA7 1EA7:v 1EA8:m:1EA9",
    "1EA9:v 1EAA:m:1EAB 1EAB:v 1EAC:m:1EAD 1EAD:v 1EAE:m:1EAF 1EAF:v 1EB0:m:1EB1 1EB1:v",
    "1EB2:m:1EB3 1EB3:v 1EB4:m:1EB5 1EB5:v 1EB6:m:1EB7 1EB7:v 1EB8:m:1EB9 1EB9:v 1EBA:m:1EBB",
    "1EBB:v 1EBC:m:1EBD 1EBD:v 1EBE:m:1EBF 1EBF:v 1EC0:m:1EC1 1EC1:v 1EC2:m:1EC3 1EC3:v",
    "1EC4:m:1EC5 1EC5:v 1EC6:m:1EC7 1EC7:v 1EC8:m:1EC9 1EC9:v 1ECA:m:1ECB 1ECB:v 1ECC:m:1ECD",
    "1ECD:v 1ECE:m:1ECF 1ECF:v 1ED0:m:1ED1 1ED1:v 1ED2:m:1ED3 1ED3:v 1ED4:m:1ED5 1ED5:v",
    "1ED6:m:1ED7 1ED7:v 1ED8:m:1ED9 1ED9:v 1EDA:m:1EDB 1EDB:v 1EDC:m:1EDD 1EDD:v 1EDE:m:1EDF",
    "1EDF:v 1EE0:m:1EE1 1EE1:v 1EE2:m:1EE3 1EE3:v 1EE4:m:1EE5 1EE5:v 1EE6:m:1EE7 1EE7:v",
    "1EE8:m:1EE9 1EE9:v 1EEA:m:1EEB 1EEB:v 1EEC:m:1EED 1EED:v 1EEE:m:1EEF 1EEF:v 1EF0:m:1EF1",
    "1EF1:v 1EF2:m:1EF3 1EF3:v 1EF4:m:1EF5 1EF5:v 1EF6:m:1EF7 1EF7:v 1EF8:m:1EF9 1EF9:v",
    "1EFA:m:1EFB 1EFB:v 1EFC:m:1EFD 1EFD:v 1EFE:m:1EFF 1EFF:v 1F08:m:1F00 1F09:m:1F01 1F0A:m:1F02",
    "1F0B:m:1F03 1F0C:m:1F04 1F0D:m:1F05 1F0E:m:1F06 1F0F:m:1F07 1F10:v 1F16:x 1F18:m:1F10",
    "1F19:m:1F11 1F1A:m:1F12 1F1B:m:1F13 1F1C:m:1F14 1F1D:m:1F15 1F1E:x 1F20:v 1F28:m:1F20",
    "1F29:m:1F21 1F2A:m:1F22 1F2B:m:1F23 1F2C:m:1F24 1F2D:m:1F25 1F2E:m:1F26 1F2F:m:1F27 1F30:v",
    "1F38:m:1F30 1F39:m:1F31 1F3A:m:1F32 1F3B:m:1F33 1F3C:m:1F34 1F3D:m:1F35 1F3E:m:1F36",
    "1F3F:m:1F37 1F40:v 1F46:x 1F48:m:1F40 1F49:m:1F41 1F4A:m:1F42 1F4B:m:1F43 1F4C:m:1F44",
    "1F4D:m:1F45 1F4E:x 1F50:v 1F58:x 1F59:m:1F51 1F5A:x 1F5B:m:1F53 1F5C:x 1F5D:m:1F55 1F5E:x",
    "1F5F:m:1F57 1F60:v 1F68:m:1F60 1F69:m:1F61 1F6A:m:1F62 1F6B:m:1F63 1F6C:m:1F64 1F6D:m:1F65",
    "1F6E:m:1F66 1F6F:m:1F67 1F70:v 1F71:m:3AC 1F72:v 1F73:m:3AD 1F74:v 1F75:m:3AE 1F76:v",
    "1F77:m:3AF 1F78:v 1F79:m:3CC 1F7A:v 1F7B:m:3CD 1F7C:v 1F7D:m:3CE 1F7E:x 1F80:m:1F00,3B9",
    "1F81:m:1F01,3B9 1F82:m:1F02,3B9 1F83:m:1F03,3B9 1F84:m:1F04,3B9 1F85:m:1F05,3B9",
    "1F86:m:1F06,3B9 1F87:m:1F07,3B9 1F88:m:1F00,3B9 1F89:m:1F01,3B9 1F8A:m:1F02,3B9",
    "1F8B:m:1F03,3B9 1F8C:m:1F04,3B9 1F8D:m:1F05,3B9 1F8E:m:1F06,3B9 1F8F:m:1F07,3B9",
    "1F90:m:1F20,3B9 1F91:m:1F21,3B9 1F92:m:1F22,3B9 1F93:m:1F23,3B9 1F94:m:1F24,3B9",
    "1F95:m:1F25,3B9 1F96:m:1F26,3B9 1F97:m:1F27,3B9 1F98:m:1F20,3B9 1F99:m:1F21,3B9",
    "1F9A:m:1F22,3B9 1F9B:m:1F23,3B9 1F9C:m:1F24,3B9 1F9D:m:1F25,3B9 1F9E:m:1F26,3B9",
    "1F9F:m:1F27,3B9 1FA0:m:1F60,3B9 1FA1:m:1F61,3B9 1FA2:m:1F62,3B9 1FA3:m:1F63,3B9",
    "1FA4:m:1F64,3B9 1FA5:m:1F65,3B9 1FA6:m:1F66,3B9 1FA7:m:1F67,3B9 1FA8:m:1F60,3B9",
    "1FA9:m:1F61,3B9 1FAA:m:1F62,3B9 1FAB:m:1F63,3B9 1FAC:m:1F64,3B9 1FAD:m:1F65,3B9",
    "1FAE:m:1F66,3B9 1FAF:m:1F67,3B9 1FB0:v 1FB2:m:1F70,3B9 1FB3:m:3B1,3B9 1FB4:m:3AC,3B9 1FB5:x",
    "1FB6:v 1FB7:m:1FB6,3B9 1FB8:m:1FB0 1FB9:m:1FB1 1FBA:m:1F70 1FBB:m:3AC 1FBC:m:3B1,3B9",
    "1FBD:m:20,313 1FBE:m:3B9 1FBF:m:20,313 1FC0:m:20,342 1FC1:m:20,308,342 1FC2:m:1F74,3B9",
    "1FC3:m:3B7,3B9 1FC4:m:3AE,3B9 1FC5:x 1FC6:v 1FC7:m:1FC6,3B9 1FC8:m:1F72 1FC9:m:3AD",
    "1FCA:m:1F74 1FCB:m:3AE 1FCC:m:3B7,3B9 1FCD:m:20,313,300 1FCE:m:20,313,301 1FCF:m:20,313,342",
    "1FD0:v 1FD3:m:390 1FD4:x 1FD6:v 1FD8:m:1FD0 1FD9:m:1FD1 1FDA:m:1F76 1FDB:m:3AF 1FDC:x",
    "1FDD:m:20,314,300 1FDE:m:20,314,301 1FDF:m:20,314,342 1FE0:v 1FE3:m:3B0 1FE4:v 1FE8:m:1FE0",
    "1FE9:m:1FE1 1FEA:m:1F7A 1FEB:m:3CD 1FEC:m:1FE5 1FED:m:20,308,300 1FEE:m:20,308,301 1FEF:m:60",
    "1FF0:x 1FF2:m:1F7C,3B9 1FF3:m:3C9,3B9 1FF4:m:3CE,3B9 1FF5:x 1FF6:v 1FF7:m:1FF6,3B9",
    "1FF8:m:1F78 1FF9:m:3CC 1FFA:m:1F7C 1FFB:m:3CE 1FFC:m:3C9,3B9 1FFD:m:20,301 1FFE:m:20,314",
    "1FFF:x 2000:m:20 200B:i 200C:d 200E:x 2010:v 2011:m:2010 2012:v 2017:m:20,333 2018:v 2024:x",
    "2027:v 2028:x 202F:m:20 2030:v 2033:m:2032,2032 2034:m:2032,2032,2032 2035:v 2036:m:2035,2035",
    "2037:m:2035,2035,2035 2038:v 203C:m:21,21 203D:v 203E:m:20,305 203F:v 2047:m:3F,3F",
    "2048:m:3F,21 2049:m:21,3F 204A:v 2057:m:2032,2032,2032,2032 2058:v 205F:m:20 2060:i 2065:x",
    "206A:i 2070:m:30 2071:m:69 2072:x 2074:m:34 2075:m:35 2076:m:36 2077:m:37 2078:m:38 2079:m:39",
    "207A:m:2B 207B:m:2212 207C:m:3D 207D:m:28 207E:m:29 207F:m:6E 2080:m:30 2081:m:31 2082:m:32",
    "2083:m:33 2084:m:34 2085:m:35 2086:m:36 2087:m:37 2088:m:38 2089:m:39 208A:m:2B 208B:m:2212",
    "208C:m:3D 208D:m:28 208E:m:29 208F:x 2090:m:61 2091:m:65 2092:m:6F 2093:m:78 2094:m:259",
    "2095:m:68 2096:m:6B 2097:m:6C 2098:m:6D 2099:m:6E 209A:m:70 209B:m:73 209C:m:74 209D:x 20A0:v",
    "20A8:m:72,73 20A9:v 20C2:x 20D0:v 20F1:x 2100:m:61,2F,63 2101:m:61,2F,73 2102:m:63",
    "2103:m:B0,63 2104:v 2105:m:63,2F,6F 2106:m:63,2F,75 2107:m:25B 2108:v 2109:m:B0,66 210A:m:67",
    "210B:m:68 210F:m:127 2110:m:69 2112:m:6C 2114:v 2115:m:6E 2116:m:6E,6F 2117:v 2119:m:70",
    "211A:m:71 211B:m:72 211E:v 2120:m:73,6D 2121:m:74,65,6C 2122:m:74,6D 2123:v 2124:m:7A 2125:v",
    "2126:m:3C9 2127:v 2128:m:7A 2129:v 212A:m:6B 212B:m:E5 212C:m:62 212D:m:63 212E:v 212F:m:65",
    "2131:m:66 2132:m:214E 2133:m:6D 2134:m:6F 2135:m:5D0 2136:m:5D1 2137:m:5D2 2138:m:5D3",
    "2139:m:69 213A:v 213B:m:66,61,78 213C:m:3C0 213D:m:3B3 213F:m:3C0 2140:m:2211 2141:v",
    "2145:m:64 2147:m:65 2148:m:69 2149:m:6A 214A:v 2150:m:31,2044,37 2151:m:31,2044,39",
    "2152:m:31,2044,31,30 2153:m:31,2044,33 2154:m:32,2044,33 2155:m:31,2044,35 2156:m:32,2044,35",
    "2157:m:33,2044,35 2158:m:34,2044,35 2159:m:31,2044,36 215A:m:35,2044,36 215B:m:31,2044,38",
    "215C:m:33,2044,38 215D:m:35,2044,38 215E:m:37,2044,38 215F:m:31,2044 2160:m:69 2161:m:69,69",
    "2162:m:69,69,69 2163:m:69,76 2164:m:76 2165:m:76,69 2166:m:76,69,69 2167:m:76,69,69,69",
    "2168:m:69,78 2169:m:78 216A:m:78,69 216B:m:78,69,69 216C:m:6C 216D:m:63 216E:m:64 216F:m:6D",
    "2170:m:69 2171:m:69,69 2172:m:69,69,69 2173:m:69,76 2174:m:76 2175:m:76,69 2176:m:76,69,69",
    "2177:m:76,69,69,69 2178:m:69,78 2179:m:78 217A:m:78,69 217B:m:78,69,69 217C:m:6C 217D:m:63",
    "217E:m:64 217F:m:6D 2180:v 2183:m:2184 2184:v 2189:m:30,2044,33 218A:v 218C:x 2190:v",
    "222C:m:222B,222B 222D:m:222B,222B,222B 222E:v 222F:m:222E,222E 2230:m:222E,222E,222E 2231:v",
    "2329:m:3008 232A:m:3009 232B:v 242A:x 2440:v 244B:x 2460:m:31 2461:m:32 2462:m:33 2463:m:34",
    "2464:m:35 2465:m:36 2466:m:37 2467:m:38 2468:m:39 2469:m:31,30 246A:m:31,31 246B:m:31,32",
    "246C:m:31,33 246D:m:31,34 246E:m:31,35 246F:m:31,36 2470:m:31,37 2471:m:31,38 2472:m:31,39",
    "2473:m:32,30 2474:m:28,31,29 2475:m:28,32,29 2476:m:28,33,29 2477:m:28,34,29 2478:m:28,35,29",
    "2479:m:28,36,29 247A:m:28,37,29 247B:m:28,38,29 247C:m:28,39,29 247D:m:28,31,30,29",
    "247E:m:28,31,31,29 247F:m:28,31,32,29 2480:m:28,31,33,29 2481:m:28,31,34,29",
    "2482:m:28,31,35,29 2483:m:28,31,36,29 2484:m:28,31,37,29 2485:m:28,31,38,29",
    "2486:m:28,31,39,29 2487:m:28,32,30,29 2488:x 249C:m:28,61,29 249D:m:28,62,29 249E:m:28,63,29",
    "249F:m:28,64,29 24A0:m:28,65,29 24A1:m:28,66,29 24A2:m:28,67,29 24A3:m:28,68,29",
    "24A4:m:28,69,29 24A5:m:28,6A,29 24A6:m:28,6B,29 24A7:m:28,6C,29 24A8:m:28,6D,29",
    "24A9:m:28,6E,29 24AA:m:28,6F,29 24AB:m:28,70,29 24AC:m:28,71,29 24AD:m:28,72,29",
    "24AE:m:28,73,29 24AF:m:28,74,29 24B0:m:28,75,29 24B1:m:28,76,29 24B2:m:28,77,29",
    "24B3:m:28,78,29 24B4:m:28,79,29 24B5:m:28,7A,29 24B6:m:61 24B7:m:62 24B8:m:63 24B9:m:64",
    "24BA:m:65 24BB:m:66 24BC:m:67 24BD:m:68 24BE:m:69 24BF:m:6A 24C0:m:6B 24C1:m:6C 24C2:m:6D",
    "24C3:m:6E 24C4:m:6F 24C5:m:70 24C6:m:71 24C7:m:72 24C8:m:73 24C9:m:74 24CA:m:75 24CB:m:76",
    "24CC:m:77 24CD:m:78 24CE:m:79 24CF:m:7A 24D0:m:61 24D1:m:62 24D2:m:63 24D3:m:64 24D4:m:65",
    "24D5:m:66 24D6:m:67 24D7:m:68 24D8:m:69 24D9:m:6A 24DA:m:6B 24DB:m:6C 24DC:m:6D 24DD:m:6E",
    "24DE:m:6F 24DF:m:70 24E0:m:71 24E1:m:72 24E2:m:73 24E3:m:74 24E4:m:75 24E5:m:76 24E6:m:77",
    "24E7:m:78 24E8:m:79 24E9:m:7A 24EA:m:30 24EB:v 2A0C:m:222B,222B,222B,222B 2A0D:v",
    "2A74:m:3A,3A,3D 2A75:m:3D,3D 2A76:m:3D,3D,3D 2A77:v 2ADC:m:2ADD,338 2ADD:v 2B74:x 2B76:v",
    "2C00:m:2C30 2C01:m:2C31 2C02:m:2C32 2C03:m:2C33 2C04:m:2C34 2C05:m:2C35 2C06:m:2C36",
    "2C07:m:2C37 2C08:m:2C38 2C09:m:2C39 2C0A:m:2C3A 2C0B:m:2C3B 2C0C:m:2C3C 2C0D:m:2C3D",
    "2C0E:m:2C3E 2C0F:m:2C3F 2C10:m:2C40 2C11:m:2C41 2C12:m:2C42 2C13:m:2C43 2C14:m:2C44",
    "2C15:m:2C45 2C16:m:2C46 2C17:m:2C47 2C18:m:2C48 2C19:m:2C49 2C1A:m:2C4A 2C1B:m:2C4B",
    "2C1C:m:2C4C 2C1D:m:2C4D 2C1E:m:2C4E 2C1F:m:2C4F 2C20:m:2C50 2C21:m:2C51 2C22:m:2C52",
    "2C23:m:2C53 2C24:m:2C54 2C25:m:2C55 2C26:m:2C56 2C27:m:2C57 2C28:m:2C58 2C29:m:2C59",
    "2C2A:m:2C5A 2C2B:m:2C5B 2C2C:m:2C5C 2C2D:m:2C5D 2C2E:m:2C5E 2C2F:m:2C5F 2C30:v 2C60:m:2C61",
    "2C61:v 2C62:m:26B 2C63:m:1D7D 2C64:m:27D 2C65:v 2C67:m:2C68 2C68:v 2C69:m:2C6A 2C6A:v",
    "2C6B:m:2C6C 2C6C:v 2C6D:m:251 2C6E:m:271 2C6F:m:250 2C70:m:252 2C71:v 2C72:m:2C73 2C73:v",
    "2C75:m:2C76 2C76:v 2C7C:m:6A 2C7D:m:76 2C7E:m:23F 2C7F:m:240 2C80:m:2C81 2C81:v 2C82:m:2C83",
    "2C83:v 2C84:m:2C85 2C85:v 2C86:m:2C87 2C87:v 2C88:m:2C89 2C89:v 2C8A:m:2C8B 2C8B:v",
    "2C8C:m:2C8D 2C8D:v 2C8E:m:2C8F 2C8F:v 2C90:m:2C91 2C91:v 2C92:m:2C93 2C93:v 2C94:m:2C95",
    "2C95:v 2C96:m:2C97 2C97:v 2C98:m:2C99 2C99:v 2C9A:m:2C9B 2C9B:v 2C9C:m:2C9D 2C9D:v",
    "2C9E:m:2C9F 2C9F:v 2CA0:m:2CA1 2CA1:v 2CA2:m:2CA3 2CA3:v 2CA4:m:2CA5 2CA5:v 2CA6:m:2CA7",
    "2CA7:v 2CA8:m:2CA9 2CA9:v 2CAA:m:2CAB 2CAB:v 2CAC:m:2CAD 2CAD:v 2CAE:m:2CAF 2CAF:v",
    "2CB0:m:2CB1 2CB1:v 2CB2:m:2CB3 2CB3:v 2CB4:m:2CB5 2CB5:v 2CB6:m:2CB7 2CB7:v 2CB8:m:2CB9",
    "2CB9:v 2CBA:m:2CBB 2CBB:v 2CBC:m:2CBD 2CBD:v 2CBE:m:2CBF 2CBF:v 2CC0:m:2CC1 2CC1:v",
    "2CC2:m:2CC3 2CC3:v 2CC4:m:2CC5 2CC5:v 2CC6:m:2CC7 2CC7:v 2CC8:m:2CC9 2CC9:v 2CCA:m:2CCB",
    "2CCB:v 2CCC:m:2CCD 2CCD:v 2CCE:m:2CCF 2CCF:v 2CD0:m:2CD1 2CD1:v 2CD2:m:2CD3 2CD3:v",
    "2CD4:m:2CD5 2CD5:v 2CD6:m:2CD7 2CD7:v 2CD8:m:2CD9 2CD9:v 2CDA:m:2CDB 2CDB:v 2CDC:m:2CDD",
    "2CDD:v 2CDE:m:2CDF 2CDF:v 2CE0:m:2CE1 2CE1:v 2CE2:m:2CE3 2CE3:v 2CEB:m:2CEC 2CEC:v",
    "2CED:m:2CEE 2CEE:v 2CF2:m:2CF3 2CF3:v 2CF4:x 2CF9:v 2D26:x 2D27:v 2D28:x 2D2D:v 2D2E:x 2D30:v",
    "2D68:x 2D6F:m:2D61 2D70:v 2D71:x 2D7F:v 2D97:x 2DA0:v 2DA7:x 2DA8:v 2DAF:x 2DB0:v 2DB7:x",
    "2DB8:v 2DBF:x 2DC0:v 2DC7:x 2DC8:v 2DCF:x 2DD0:v 2DD7:x 2DD8:v 2DDF:x 2DE0:v 2E5E:x 2E80:v",
    "2E9A:x 2E9B:v 2E9F:m:6BCD 2EA0:v 2EF3:m:9F9F 2EF4:x 2F00:m:4E00 2F01:m:4E28 2F02:m:4E36",
    "2F03:m:4E3F 2F04:m:4E59 2F05:m:4E85 2F06:m:4E8C 2F07:m:4EA0 2F08:m:4EBA 2F09:m:513F",
    "2F0A:m:5165 2F0B:m:516B 2F0C:m:5182 2F0D:m:5196 2F0E:m:51AB 2F0F:m:51E0 2F10:m:51F5",
    "2F11:m:5200 2F12:m:529B 2F13:m:52F9 2F14:m:5315 2F15:m:531A 2F16:m:5338 2F17:m:5341",
    "2F18:m:535C 2F19:m:5369 2F1A:m:5382 2F1B:m:53B6 2F1C:m:53C8 2F1D:m:53E3 2F1E:m:56D7",
    "2F1F:m:571F 2F20:m:58EB 2F21:m:5902 2F22:m:590A 2F23:m:5915 2F24:m:5927 2F25:m:5973",
    "2F26:m:5B50 2F27:m:5B80 2F28:m:5BF8 2F29:m:5C0F 2F2A:m:5C22 2F2B:m:5C38 2F2C:m:5C6E",
    "2F2D:m:5C71 2F2E:m:5DDB 2F2F:m:5DE5 2F30:m:5DF1 2F31:m:5DFE 2F32:m:5E72 2F33:m:5E7A",
    "2F34:m:5E7F 2F35:m:5EF4 2F36:m:5EFE 2F37:m:5F0B 2F38:m:5F13 2F39:m:5F50 2F3A:m:5F61",
    "2F3B:m:5F73 2F3C:m:5FC3 2F3D:m:6208 2F3E:m:6236 2F3F:m:624B 2F40:m:652F 2F41:m:6534",
    "2F42:m:6587 2F43:m:6597 2F44:m:65A4 2F45:m:65B9 2F46:m:65E0 2F47:m:65E5 2F48:m:66F0",
    "2F49:m:6708 2F4A:m:6728 2F4B:m:6B20 2F4C:m:6B62 2F4D:m:6B79 2F4E:m:6BB3 2F4F:m:6BCB",
    "2F50:m:6BD4 2F51:m:6BDB 2F52:m:6C0F 2F53:m:6C14 2F54:m:6C34 2F55:m:706B 2F56:m:722A",
    "2F57:m:7236 2F58:m:723B 2F59:m:723F 2F5A:m:7247 2F5B:m:7259 2F5C:m:725B 2F5D:m:72AC",
    "2F5E:m:7384 2F5F:m:7389 2F60:m:74DC 2F61:m:74E6 2F62:m:7518 2F63:m:751F 2F64:m:7528",
    "2F65:m:7530 2F66:m:758B 2F67:m:7592 2F68:m:7676 2F69:m:767D 2F6A:m:76AE 2F6B:m:76BF",
    "2F6C:m:76EE 2F6D:m:77DB 2F6E:m:77E2 2F6F:m:77F3 2F70:m:793A 2F71:m:79B8 2F72:m:79BE",
    "2F73:m:7A74 2F74:m:7ACB 2F75:m:7AF9 2F76:m:7C73 2F77:m:7CF8 2F78:m:7F36 2F79:m:7F51",
    "2F7A:m:7F8A 2F7B:m:7FBD 2F7C:m:8001 2F7D:m:800C 2F7E:m:8012 2F7F:m:8033 2F80:m:807F",
    "2F81:m:8089 2F82:m:81E3 2F83:m:81EA 2F84:m:81F3 2F85:m:81FC 2F86:m:820C 2F87:m:821B",
    "2F88:m:821F 2F89:m:826E 2F8A:m:8272 2F8B:m:8278 2F8C:m:864D 2F8D:m:866B 2F8E:m:8840",
    "2F8F:m:884C 2F90:m:8863 2F91:m:897E 2F92:m:898B 2F93:m:89D2 2F94:m:8A00 2F95:m:8C37",
    "2F96:m:8C46 2F97:m:8C55 2F98:m:8C78 2F99:m:8C9D 2F9A:m:8D64 2F9B:m:8D70 2F9C:m:8DB3",
    "2F9D:m:8EAB 2F9E:m:8ECA 2F9F:m:8F9B 2FA0:m:8FB0 2FA1:m:8FB5 2FA2:m:9091 2FA3:m:9149",
    "2FA4:m:91C6 2FA5:m:91CC 2FA6:m:91D1 2FA7:m:9577 2FA8:m:9580 2FA9:m:961C 2FAA:m:96B6",
    "2FAB:m:96B9 2FAC:m:96E8 2FAD:m:9751 2FAE:m:975E 2FAF:m:9762 2FB0:m:9769 2FB1:m:97CB",
    "2FB2:m:97ED 2FB3:m:97F3 2FB4:m:9801 2FB5:m:98A8 2FB6:m:98DB 2FB7:m:98DF 2FB8:m:9996",
    "2FB9:m:9999 2FBA:m:99AC 2FBB:m:9AA8 2FBC:m:9AD8 2FBD:m:9ADF 2FBE:m:9B25 2FBF:m:9B2F",
    "2FC0:m:9B32 2FC1:m:9B3C 2FC2:m:9B5A 2FC3:m:9CE5 2FC4:m:9E75 2FC5:m:9E7F 2FC6:m:9EA5",
    "2FC7:m:9EBB 2FC8:m:9EC3 2FC9:m:9ECD 2FCA:m:9ED1 2FCB:m:9EF9 2FCC:m:9EFD 2FCD:m:9F0E",
    "2FCE:m:9F13 2FCF:m:9F20 2FD0:m:9F3B 2FD1:m:9F4A 2FD2:m:9F52 2FD3:m:9F8D 2FD4:m:9F9C",
    "2FD5:m:9FA0 2FD6:x 3000:m:20 3001:v 3002:m:2E 3003:v 3036:m:3012 3037:v 3038:m:5341",
    "3039:m:5344 303A:m:5345 303B:v 3040:x 3041:v 3097:x 3099:v 309B:m:20,3099 309C:m:20,309A",
    "309D:v 309F:m:3088,308A 30A0:v 30FF:m:30B3,30C8 3100:x 3105:v 3130:x 3131:m:1100 3132:m:1101",
    "3133:m:11AA 3134:m:1102 3135:m:11AC 3136:m:11AD 3137:m:1103 3138:m:1104 3139:m:1105",
    "313A:m:11B0 313B:m:11B1 313C:m:11B2 313D:m:11B3 313E:m:11B4 313F:m:11B5 3140:m:111A",
    "3141:m:1106 3142:m:1107 3143:m:1108 3144:m:1121 3145:m:1109 3146:m:110A 3147:m:110B",
    "3148:m:110C 3149:m:110D 314A:m:110E 314B:m:110F 314C:m:1110 314D:m:1111 314E:m:1112",
    "314F:m:1161 3150:m:1162 3151:m:1163 3152:m:1164 3153:m:1165 3154:m:1166 3155:m:1167",
    "3156:m:1168 3157:m:1169 3158:m:116A 3159:m:116B 315A:m:116C 315B:m:116D 315C:m:116E",
    "315D:m:116F 315E:m:1170 315F:m:1171 3160:m:1172 3161:m:1173 3162:m:1174 3163:m:1175 3164:i",
    "3165:m:1114 3166:m:1115 3167:m:11C7 3168:m:11C8 3169:m:11CC 316A:m:11CE 316B:m:11D3",
    "316C:m:11D7 316D:m:11D9 316E:m:111C 316F:m:11DD 3170:m:11DF 3171:m:111D 3172:m:111E",
    "3173:m:1120 3174:m:1122 3175:m:1123 3176:m:1127 3177:m:1129 3178:m:112B 3179:m:112C",
    "317A:m:112D 317B:m:112E 317C:m:112F 317D:m:1132 317E:m:1136 317F:m:1140 3180:m:1147",
    "3181:m:114C 3182:m:11F1 3183:m:11F2 3184:m:1157 3185:m:1158 3186:m:1159 3187:m:1184",
    "3188:m:1185 3189:m:1188 318A:m:1191 318B:m:1192 318C:m:1194 318D:m:119E 318E:m:11A1 318F:x",
    "3190:v 3192:m:4E00 3193:m:4E8C 3194:m:4E09 3195:m:56DB 3196:m:4E0A 3197:m:4E2D 3198:m:4E0B",
    "3199:m:7532 319A:m:4E59 319B:m:4E19 319C:m:4E01 319D:m:5929 319E:m:5730 319F:m:4EBA 31A0:v",
    "31E6:x 31F0:v 3200:m:28,1100,29 3201:m:28,1102,29 3202:m:28,1103,29 3203:m:28,1105,29",
    "3204:m:28,1106,29 3205:m:28,1107,29 3206:m:28,1109,29 3207:m:28,110B,29 3208:m:28,110C,29",
    "3209:m:28,110E,29 320A:m:28,110F,29 320B:m:28,1110,29 320C:m:28,1111,29 320D:m:28,1112,29",
    "320E:m:28,AC00,29 320F:m:28,B098,29 3210:m:28,B2E4,29 3211:m:28,B77C,29 3212:m:28,B9C8,29",
    "3213:m:28,BC14,29 3214:m:28,C0AC,29 3215:m:28,C544,29 3216:m:28,C790,29 3217:m:28,CC28,29",
    "3218:m:28,CE74,29 3219:m:28,D0C0,29 321A:m:28,D30C,29 321B:m:28,D558,29 321C:m:28,C8FC,29",
    "321D:m:28,C624,C804,29 321E:m:28,C624,D6C4,29 321F:x 3220:m:28,4E00,29 3221:m:28,4E8C,29",
    "3222:m:28,4E09,29 3223:m:28,56DB,29 3224:m:28,4E94,29 3225:m:28,516D,29 3226:m:28,4E03,29",
    "3227:m:28,516B,29 3228:m:28,4E5D,29 3229:m:28,5341,29 322A:m:28,6708,29 322B:m:28,706B,29",
    "322C:m:28,6C34,29 322D:m:28,6728,29 322E:m:28,91D1,29 322F:m:28,571F,29 3230:m:28,65E5,29",
    "3231:m:28,682A,29 3232:m:28,6709,29 3233:m:28,793E,29 3234:m:28,540D,29 3235:m:28,7279,29",
    "3236:m:28,8CA1,29 3237:m:28,795D,29 3238:m:28,52B4,29 3239:m:28,4EE3,29 323A:m:28,547C,29",
    "323B:m:28,5B66,29 323C:m:28,76E3,29 323D:m:28,4F01,29 323E:m:28,8CC7,29 323F:m:28,5354,29",
    "3240:m:28,796D,29 3241:m:28,4F11,29 3242:m:28,81EA,29 3243:m:28,81F3,29 3244:m:554F",
    "3245:m:5E7C 3246:m:6587 3247:m:7B8F 3248:v 3250:m:70,74,65 3251:m:32,31 3252:m:32,32",
    "3253:m:32,33 3254:m:32,34 3255:m:32,35 3256:m:32,36 3257:m:32,37 3258:m:32,38 3259:m:32,39",
    "325A:m:33,30 325B:m:33,31 325C:m:33,32 325D:m:33,33 325E:m:33,34 325F:m:33,35 3260:m:1100",
    "3261:m:1102 3262:m:1103 3263:m:1105 3264:m:1106 3265:m:1107 3266:m:1109 3267:m:110B",
    "3268:m:110C 3269:m:110E 326A:m:110F 326B:m:1110 326C:m:1111 326D:m:1112 326E:m:AC00",
    "326F:m:B098 3270:m:B2E4 3271:m:B77C 3272:m:B9C8 3273:m:BC14 3274:m:C0AC 3275:m:C544",
    "3276:m:C790 3277:m:CC28 3278:m:CE74 3279:m:D0C0 327A:m:D30C 327B:m:D558 327C:m:CC38,ACE0",
    "327D:m:C8FC,C758 327E:m:C6B0 327F:v 3280:m:4E00 3281:m:4E8C 3282:m:4E09 3283:m:56DB",
    "3284:m:4E94 3285:m:516D 3286:m:4E03 3287:m:516B 3288:m:4E5D 3289:m:5341 328A:m:6708",
    "328B:m:706B 328C:m:6C34 328D:m:6728 328E:m:91D1 328F:m:571F 3290:m:65E5 3291:m:682A",
    "3292:m:6709 3293:m:793E 3294:m:540D 3295:m:7279 3296:m:8CA1 3297:m:795D 3298:m:52B4",
    "3299:m:79D8 329A:m:7537 329B:m:5973 329C:m:9069 329D:m:512A 329E:m:5370 329F:m:6CE8",
    "32A0:m:9805 32A1:m:4F11 32A2:m:5199 32A3:m:6B63 32A4:m:4E0A 32A5:m:4E2D 32A6:m:4E0B",
    "32A7:m:5DE6 32A8:m:53F3 32A9:m:533B 32AA:m:5B97 32AB:m:5B66 32AC:m:76E3 32AD:m:4F01",
    "32AE:m:8CC7 32AF:m:5354 32B0:m:591C 32B1:m:33,36 32B2:m:33,37 32B3:m:33,38 32B4:m:33,39",
    "32B5:m:34,30 32B6:m:34,31 32B7:m:34,32 32B8:m:34,33 32B9:m:34,34 32BA:m:34,35 32BB:m:34,36",
    "32BC:m:34,37 32BD:m:34,38 32BE:m:34,39 32BF:m:35,30 32C0:m:31,6708 32C1:m:32,6708",
    "32C2:m:33,6708 32C3:m:34,6708 32C4:m:35,6708 32C5:m:36,6708 32C6:m:37,6708 32C7:m:38,6708",
    "32C8:m:39,6708 32C9:m:31,30,6708 32CA:m:31,31,6708 32CB:m:31,32,6708 32CC:m:68,67",
    "32CD:m:65,72,67 32CE:m:65,76 32CF:m:6C,74,64 32D0:m:30A2 32D1:m:30A4 32D2:m:30A6 32D3:m:30A8",
    "32D4:m:30AA 32D5:m:30AB 32D6:m:30AD 32D7:m:30AF 32D8:m:30B1 32D9:m:30B3 32DA:m:30B5",
    "32DB:m:30B7 32DC:m:30B9 32DD:m:30BB 32DE:m:30BD 32DF:m:30BF 32E0:m:30C1 32E1:m:30C4",
    "32E2:m:30C6 32E3:m:30C8 32E4:m:30CA 32E5:m:30CB 32E6:m:30CC 32E7:m:30CD 32E8:m:30CE",
    "32E9:m:30CF 32EA:m:30D2 32EB:m:30D5 32EC:m:30D8 32ED:m:30DB 32EE:m:30DE 32EF:m:30DF",
    "32F0:m:30E0 32F1:m:30E1 32F2:m:30E2 32F3:m:30E4 32F4:m:30E6 32F5:m:30E8 32F6:m:30E9",
    "32F7:m:30EA 32F8:m:30EB 32F9:m:30EC 32FA:m:30ED 32FB:m:30EF 32FC:m:30F0 32FD:m:30F1",
    "32FE:m:30F2 32FF:m:4EE4,548C 3300:m:30A2,30D1,30FC,30C8 3301:m:30A2,30EB,30D5,30A1",
    "3302:m:30A2,30F3,30DA,30A2 3303:m:30A2,30FC,30EB 3304:m:30A4,30CB,30F3,30B0",
    "3305:m:30A4,30F3,30C1 3306:m:30A6,30A9,30F3 3307:m:30A8,30B9,30AF,30FC,30C9",
    "3308:m:30A8,30FC,30AB,30FC 3309:m:30AA,30F3,30B9 330A:m:30AA,30FC,30E0 330B:m:30AB,30A4,30EA",
    "330C:m:30AB,30E9,30C3,30C8 330D:m:30AB,30ED,30EA,30FC 330E:m:30AC,30ED,30F3",
    "330F:m:30AC,30F3,30DE 3310:m:30AE,30AC 3311:m:30AE,30CB,30FC 3312:m:30AD,30E5,30EA,30FC",
    "3313:m:30AE,30EB,30C0,30FC 3314:m:30AD,30ED 3315:m:30AD,30ED,30B0,30E9,30E0",
    "3316:m:30AD,30ED,30E1,30FC,30C8,30EB 3317:m:30AD,30ED,30EF,30C3,30C8 3318:m:30B0,30E9,30E0",
    "3319:m:30B0,30E9,30E0,30C8,30F3 331A:m:30AF,30EB,30BC,30A4,30ED 331B:m:30AF,30ED,30FC,30CD",
    "331C:m:30B1,30FC,30B9 331D:m:30B3,30EB,30CA 331E:m:30B3,30FC,30DD 331F:m:30B5,30A4,30AF,30EB",
    "3320:m:30B5,30F3,30C1,30FC,30E0 3321:m:30B7,30EA,30F3,30B0 3322:m:30BB,30F3,30C1",
    "3323:m:30BB,30F3,30C8 3324:m:30C0,30FC,30B9 3325:m:30C7,30B7 3326:m:30C9,30EB",
    "3327:m:30C8,30F3 3328:m:30CA,30CE 3329:m:30CE,30C3,30C8 332A:m:30CF,30A4,30C4",
    "332B:m:30D1,30FC,30BB,30F3,30C8 332C:m:30D1,30FC,30C4 332D:m:30D0,30FC,30EC,30EB",
    "332E:m:30D4,30A2,30B9,30C8,30EB 332F:m:30D4,30AF,30EB 3330:m:30D4,30B3 3331:m:30D3,30EB",
    "3332:m:30D5,30A1,30E9,30C3,30C9 3333:m:30D5,30A3,30FC,30C8 3334:m:30D6,30C3,30B7,30A7,30EB",
    "3335:m:30D5,30E9,30F3 3336:m:30D8,30AF,30BF,30FC,30EB 3337:m:30DA,30BD 3338:m:30DA,30CB,30D2",
    "3339:m:30D8,30EB,30C4 333A:m:30DA,30F3,30B9 333B:m:30DA,30FC,30B8 333C:m:30D9,30FC,30BF",
    "333D:m:30DD,30A4,30F3,30C8 333E:m:30DC,30EB,30C8 333F:m:30DB,30F3 3340:m:30DD,30F3,30C9",
    "3341:m:30DB,30FC,30EB 3342:m:30DB,30FC,30F3 3343:m:30DE,30A4,30AF,30ED 3344:m:30DE,30A4,30EB",
    "3345:m:30DE,30C3,30CF 3346:m:30DE,30EB,30AF 3347:m:30DE,30F3,30B7,30E7,30F3",
    "3348:m:30DF,30AF,30ED,30F3 3349:m:30DF,30EA 334A:m:30DF,30EA,30D0,30FC,30EB 334B:m:30E1,30AC",
    "334C:m:30E1,30AC,30C8,30F3 334D:m:30E1,30FC,30C8,30EB 334E:m:30E4,30FC,30C9",
    "334F:m:30E4,30FC,30EB 3350:m:30E6,30A2,30F3 3351:m:30EA,30C3,30C8,30EB 3352:m:30EA,30E9",
    "3353:m:30EB,30D4,30FC 3354:m:30EB,30FC,30D6,30EB 3355:m:30EC,30E0",
    "3356:m:30EC,30F3,30C8,30B2,30F3 3357:m:30EF,30C3,30C8 3358:m:30,70B9 3359:m:31,70B9",
    "335A:m:32,70B9 335B:m:33,70B9 335C:m:34,70B9 335D:m:35,70B9 335E:m:36,70B9 335F:m:37,70B9",
    "3360:m:38,70B9 3361:m:39,70B9 3362:m:31,30,70B9 3363:m:31,31,70B9 3364:m:31,32,70B9",
    "3365:m:31,33,70B9 3366:m:31,34,70B9 3367:m:31,35,70B9 3368:m:31,36,70B9 3369:m:31,37,70B9",
    "336A:m:31,38,70B9 336B:m:31,39,70B9 336C:m:32,30,70B9 336D:m:32,31,70B9 336E:m:32,32,70B9",
    "336F:m:32,33,70B9 3370:m:32,34,70B9 3371:m:68,70,61 3372:m:64,61 3373:m:61,75 3374:m:62,61,72",
    "3375:m:6F,76 3376:m:70,63 3377:m:64,6D 3378:m:64,6D,32 3379:m:64,6D,33 337A:m:69,75",
    "337B:m:5E73,6210 337C:m:662D,548C 337D:m:5927,6B63 337E:m:660E,6CBB",
    "337F:m:682A,5F0F,4F1A,793E 3380:m:70,61 3381:m:6E,61 3382:m:3BC,61 3383:m:6D,61 3384:m:6B,61",
    "3385:m:6B,62 3386:m:6D,62 3387:m:67,62 3388:m:63,61,6C 3389:m:6B,63,61,6C 338A:m:70,66",
    "338B:m:6E,66 338C:m:3BC,66 338D:m:3BC,67 338E:m:6D,67 338F:m:6B,67 3390:m:68,7A",
    "3391:m:6B,68,7A 3392:m:6D,68,7A 3393:m:67,68,7A 3394:m:74,68,7A 3395:m:3BC,6C 3396:m:6D,6C",
    "3397:m:64,6C 3398:m:6B,6C 3399:m:66,6D 339A:m:6E,6D 339B:m:3BC,6D 339C:m:6D,6D 339D:m:63,6D",
    "339E:m:6B,6D 339F:m:6D,6D,32 33A0:m:63,6D,32 33A1:m:6D,32 33A2:m:6B,6D,32 33A3:m:6D,6D,33",
    "33A4:m:63,6D,33 33A5:m:6D,33 33A6:m:6B,6D,33 33A7:m:6D,2215,73 33A8:m:6D,2215,73,32",
    "33A9:m:70,61 33AA:m:6B,70,61 33AB:m:6D,70,61 33AC:m:67,70,61 33AD:m:72,61,64",
    "33AE:m:72,61,64,2215,73 33AF:m:72,61,64,2215,73,32 33B0:m:70,73 33B1:m:6E,73 33B2:m:3BC,73",
    "33B3:m:6D,73 33B4:m:70,76 33B5:m:6E,76 33B6:m:3BC,76 33B7:m:6D,76 33B8:m:6B,76 33B9:m:6D,76",
    "33BA:m:70,77 33BB:m:6E,77 33BC:m:3BC,77 33BD:m:6D,77 33BE:m:6B,77 33BF:m:6D,77 33C0:m:6B,3C9",
    "33C1:m:6D,3C9 33C2:x 33C3:m:62,71 33C4:m:63,63 33C5:m:63,64 33C6:m:63,2215,6B,67 33C7:x",
    "33C8:m:64,62 33C9:m:67,79 33CA:m:68,61 33CB:m:68,70 33CC:m:69,6E 33CD:m:6B,6B 33CE:m:6B,6D",
    "33CF:m:6B,74 33D0:m:6C,6D 33D1:m:6C,6E 33D2:m:6C,6F,67 33D3:m:6C,78 33D4:m:6D,62",
    "33D5:m:6D,69,6C 33D6:m:6D,6F,6C 33D7:m:70,68 33D8:x 33D9:m:70,70,6D 33DA:m:70,72 33DB:m:73,72",
    "33DC:m:73,76 33DD:m:77,62 33DE:m:76,2215,6D 33DF:m:61,2215,6D 33E0:m:31,65E5 33E1:m:32,65E5",
    "33E2:m:33,65E5 33E3:m:34,65E5 33E4:m:35,65E5 33E5:m:36,65E5 33E6:m:37,65E5 33E7:m:38,65E5",
    "33E8:m:39,65E5 33E9:m:31,30,65E5 33EA:m:31,31,65E5 33EB:m:31,32,65E5 33EC:m:31,33,65E5",
    "33ED:m:31,34,65E5 33EE:m:31,35,65E5 33EF:m:31,36,65E5 33F0:m:31,37,65E5 33F1:m:31,38,65E5",
    "33F2:m:31,39,65E5 33F3:m:32,30,65E5 33F4:m:32,31,65E5 33F5:m:32,32,65E5 33F6:m:32,33,65E5",
    "33F7:m:32,34,65E5 33F8:m:32,35,65E5 33F9:m:32,36,65E5 33FA:m:32,37,65E5 33FB:m:32,38,65E5",
    "33FC:m:32,39,65E5 33FD:m:33,30,65E5 33FE:m:33,31,65E5 33FF:m:67,61,6C 3400:v A48D:x A490:v",
    "A4C7:x A4D0:v A62C:x A640:m:A641 A641:v A642:m:A643 A643:v A644:m:A645 A645:v A646:m:A647",
    "A647:v A648:m:A649 A649:v A64A:m:A64B A64B:v A64C:m:A64D A64D:v A64E:m:A64F A64F:v",
    "A650:m:A651 A651:v A652:m:A653 A653:v A654:m:A655 A655:v A656:m:A657 A657:v A658:m:A659",
    "A659:v A65A:m:A65B A65B:v A65C:m:A65D A65D:v A65E:m:A65F A65F:v A660:m:A661 A661:v",
    "A662:m:A663 A663:v A664:m:A665 A665:v A666:m:A667 A667:v A668:m:A669 A669:v A66A:m:A66B",
    "A66B:v A66C:m:A66D A66D:v A680:m:A681 A681:v A682:m:A683 A683:v A684:m:A685 A685:v",
    "A686:m:A687 A687:v A688:m:A689 A689:v A68A:m:A68B A68B:v A68C:m:A68D A68D:v A68E:m:A68F",
    "A68F:v A690:m:A691 A691:v A692:m:A693 A693:v A694:m:A695 A695:v A696:m:A697 A697:v",
    "A698:m:A699 A699:v A69A:m:A69B A69B:v A69C:m:44A A69D:m:44C A69E:v A6F8:x A700:v A722:m:A723",
    "A723:v A724:m:A725 A725:v A726:m:A727 A727:v A728:m:A729 A729:v A72A:m:A72B A72B:v",
    "A72C:m:A72D A72D:v A72E:m:A72F A72F:v A732:m:A733 A733:v A734:m:A735 A735:v A736:m:A737",
    "A737:v A738:m:A739 A739:v A73A:m:A73B A73B:v A73C:m:A73D A73D:v A73E:m:A73F A73F:v",
    "A740:m:A741 A741:v A742:m:A743 A743:v A744:m:A745 A745:v A746:m:A747 A747:v A748:m:A749",
    "A749:v A74A:m:A74B A74B:v A74C:m:A74D A74D:v A74E:m:A74F A74F:v A750:m:A751 A751:v",
    "A752:m:A753 A753:v A754:m:A755 A755:v A756:m:A757 A757:v A758:m:A759 A759:v A75A:m:A75B",
    "A75B:v A75C:m:A75D A75D:v A75E:m:A75F A75F:v A760:m:A761 A761:v A762:m:A763 A763:v",
    "A764:m:A765 A765:v A766:m:A767 A767:v A768:m:A769 A769:v A76A:m:A76B A76B:v A76C:m:A76D",
    "A76D:v A76E:m:A76F A76F:v A770:m:A76F A771:v A779:m:A77A A77A:v A77B:m:A77C A77C:v",
    "A77D:m:1D79 A77E:m:A77F A77F:v A780:m:A781 A781:v A782:m:A783 A783:v A784:m:A785 A785:v",
    "A786:m:A787 A787:v A78B:m:A78C A78C:v A78D:m:265 A78E:v A790:m:A791 A791:v A792:m:A793 A793:v",
    "A796:m:A797 A797:v A798:m:A799 A799:v A79A:m:A79B A79B:v A79C:m:A79D A79D:v A79E:m:A79F",
    "A79F:v A7A0:m:A7A1 A7A1:v A7A2:m:A7A3 A7A3:v A7A4:m:A7A5 A7A5:v A7A6:m:A7A7 A7A7:v",
    "A7A8:m:A7A9 A7A9:v A7AA:m:266 A7AB:m:25C A7AC:m:261 A7AD:m:26C A7AE:m:26A A7AF:v A7B0:m:29E",
    "A7B1:m:287 A7B2:m:29D A7B3:m:AB53 A7B4:m:A7B5 A7B5:v A7B6:m:A7B7 A7B7:v A7B8:m:A7B9 A7B9:v",
    "A7BA:m:A7BB A7BB:v A7BC:m:A7BD A7BD:v A7BE:m:A7BF A7BF:v A7C0:m:A7C1 A7C1:v A7C2:m:A7C3",
    "A7C3:v A7C4:m:A794 A7C5:m:282 A7C6:m:1D8E A7C7:m:A7C8 A7C8:v A7C9:m:A7CA A7CA:v A7CB:m:264",
    "A7CC:m:A7CD A7CD:v A7CE:m:A7CF A7CF:v A7D0:m:A7D1 A7D1:v A7D2:m:A7D3 A7D3:v A7D4:m:A7D5",
    "A7D5:v A7D6:m:A7D7 A7D7:v A7D8:m:A7D9 A7D9:v A7DA:m:A7DB A7DB:v A7DC:m:19B A7DD:x A7F1:m:73",
    "A7F2:m:63 A7F3:m:66 A7F4:m:71 A7F5:m:A7F6 A7F6:v A7F8:m:127 A7F9:m:153 A7FA:v A82D:x A830:v",
    "A83A:x A840:v A878:x A880:v A8C6:x A8CE:v A8DA:x A8E0:v A954:x A95F:v A97D:x A980:v A9CE:x",
    "A9CF:v A9DA:x A9DE:v A9FF:x AA00:v AA37:x AA40:v AA4E:x AA50:v AA5A:x AA5C:v AAC3:x AADB:v",
    "AAF7:x AB01:v AB07:x AB09:v AB0F:x AB11:v AB17:x AB20:v AB27:x AB28:v AB2F:x AB30:v",
    "AB5C:m:A727 AB5D:m:AB37 AB5E:m:26B AB5F:m:AB52 AB60:v AB69:m:28D AB6A:v AB6C:x AB70:m:13A0",
    "AB71:m:13A1 AB72:m:13A2 AB73:m:13A3 AB74:m:13A4 AB75:m:13A5 AB76:m:13A6 AB77:m:13A7",
    "AB78:m:13A8 AB79:m:13A9 AB7A:m:13AA AB7B:m:13AB AB7C:m:13AC AB7D:m:13AD AB7E:m:13AE",
    "AB7F:m:13AF AB80:m:13B0 AB81:m:13B1 AB82:m:13B2 AB83:m:13B3 AB84:m:13B4 AB85:m:13B5",
    "AB86:m:13B6 AB87:m:13B7 AB88:m:13B8 AB89:m:13B9 AB8A:m:13BA AB8B:m:13BB AB8C:m:13BC",
    "AB8D:m:13BD AB8E:m:13BE AB8F:m:13BF AB90:m:13C0 AB91:m:13C1 AB92:m:13C2 AB93:m:13C3",
    "AB94:m:13C4 AB95:m:13C5 AB96:m:13C6 AB97:m:13C7 AB98:m:13C8 AB99:m:13C9 AB9A:m:13CA",
    "AB9B:m:13CB AB9C:m:13CC AB9D:m:13CD AB9E:m:13CE AB9F:m:13CF ABA0:m:13D0 ABA1:m:13D1",
    "ABA2:m:13D2 ABA3:m:13D3 ABA4:m:13D4 ABA5:m:13D5 ABA6:m:13D6 ABA7:m:13D7 ABA8:m:13D8",
    "ABA9:m:13D9 ABAA:m:13DA ABAB:m:13DB ABAC:m:13DC ABAD:m:13DD ABAE:m:13DE ABAF:m:13DF",
    "ABB0:m:13E0 ABB1:m:13E1 ABB2:m:13E2 ABB3:m:13E3 ABB4:m:13E4 ABB5:m:13E5 ABB6:m:13E6",
    "ABB7:m:13E7 ABB8:m:13E8 ABB9:m:13E9 ABBA:m:13EA ABBB:m:13EB ABBC:m:13EC ABBD:m:13ED",
    "ABBE:m:13EE ABBF:m:13EF ABC0:v ABEE:x ABF0:v ABFA:x AC00:v D7A4:x D7B0:v D7C7:x D7CB:v D7FC:x",
    "F900:m:8C48 F901:m:66F4 F902:m:8ECA F903:m:8CC8 F904:m:6ED1 F905:m:4E32 F906:m:53E5",
    "F907:m:9F9C F909:m:5951 F90A:m:91D1 F90B:m:5587 F90C:m:5948 F90D:m:61F6 F90E:m:7669",
    "F90F:m:7F85 F910:m:863F F911:m:87BA F912:m:88F8 F913:m:908F F914:m:6A02 F915:m:6D1B",
    "F916:m:70D9 F917:m:73DE F918:m:843D F919:m:916A F91A:m:99F1 F91B:m:4E82 F91C:m:5375",
    "F91D:m:6B04 F91E:m:721B F91F:m:862D F920:m:9E1E F921:m:5D50 F922:m:6FEB F923:m:85CD",
    "F924:m:8964 F925:m:62C9 F926:m:81D8 F927:m:881F F928:m:5ECA F929:m:6717 F92A:m:6D6A",
    "F92B:m:72FC F92C:m:90CE F92D:m:4F86 F92E:m:51B7 F92F:m:52DE F930:m:64C4 F931:m:6AD3",
    "F932:m:7210 F933:m:76E7 F934:m:8001 F935:m:8606 F936:m:865C F937:m:8DEF F938:m:9732",
    "F939:m:9B6F F93A:m:9DFA F93B:m:788C F93C:m:797F F93D:m:7DA0 F93E:m:83C9 F93F:m:9304",
    "F940:m:9E7F F941:m:8AD6 F942:m:58DF F943:m:5F04 F944:m:7C60 F945:m:807E F946:m:7262",
    "F947:m:78CA F948:m:8CC2 F949:m:96F7 F94A:m:58D8 F94B:m:5C62 F94C:m:6A13 F94D:m:6DDA",
    "F94E:m:6F0F F94F:m:7D2F F950:m:7E37 F951:m:964B F952:m:52D2 F953:m:808B F954:m:51DC",
    "F955:m:51CC F956:m:7A1C F957:m:7DBE F958:m:83F1 F959:m:9675 F95A:m:8B80 F95B:m:62CF",
    "F95C:m:6A02 F95D:m:8AFE F95E:m:4E39 F95F:m:5BE7 F960:m:6012 F961:m:7387 F962:m:7570",
    "F963:m:5317 F964:m:78FB F965:m:4FBF F966:m:5FA9 F967:m:4E0D F968:m:6CCC F969:m:6578",
    "F96A:m:7D22 F96B:m:53C3 F96C:m:585E F96D:m:7701 F96E:m:8449 F96F:m:8AAA F970:m:6BBA",
    "F971:m:8FB0 F972:m:6C88 F973:m:62FE F974:m:82E5 F975:m:63A0 F976:m:7565 F977:m:4EAE",
    "F978:m:5169 F979:m:51C9 F97A:m:6881 F97B:m:7CE7 F97C:m:826F F97D:m:8AD2 F97E:m:91CF",
    "F97F:m:52F5 F980:m:5442 F981:m:5973 F982:m:5EEC F983:m:65C5 F984:m:6FFE F985:m:792A",
    "F986:m:95AD F987:m:9A6A F988:m:9E97 F989:m:9ECE F98A:m:529B F98B:m:66C6 F98C:m:6B77",
    "F98D:m:8F62 F98E:m:5E74 F98F:m:6190 F990:m:6200 F991:m:649A F992:m:6F23 F993:m:7149",
    "F994:m:7489 F995:m:79CA F996:m:7DF4 F997:m:806F F998:m:8F26 F999:m:84EE F99A:m:9023",
    "F99B:m:934A F99C:m:5217 F99D:m:52A3 F99E:m:54BD F99F:m:70C8 F9A0:m:88C2 F9A1:m:8AAA",
    "F9A2:m:5EC9 F9A3:m:5FF5 F9A4:m:637B F9A5:m:6BAE F9A6:m:7C3E F9A7:m:7375 F9A8:m:4EE4",
    "F9A9:m:56F9 F9AA:m:5BE7 F9AB:m:5DBA F9AC:m:601C F9AD:m:73B2 F9AE:m:7469 F9AF:m:7F9A",
    "F9B0:m:8046 F9B1:m:9234 F9B2:m:96F6 F9B3:m:9748 F9B4:m:9818 F9B5:m:4F8B F9B6:m:79AE",
    "F9B7:m:91B4 F9B8:m:96B8 F9B9:m:60E1 F9BA:m:4E86 F9BB:m:50DA F9BC:m:5BEE F9BD:m:5C3F",
    "F9BE:m:6599 F9BF:m:6A02 F9C0:m:71CE F9C1:m:7642 F9C2:m:84FC F9C3:m:907C F9C4:m:9F8D",
    "F9C5:m:6688 F9C6:m:962E F9C7:m:5289 F9C8:m:677B F9C9:m:67F3 F9CA:m:6D41 F9CB:m:6E9C",
    "F9CC:m:7409 F9CD:m:7559 F9CE:m:786B F9CF:m:7D10 F9D0:m:985E F9D1:m:516D F9D2:m:622E",
    "F9D3:m:9678 F9D4:m:502B F9D5:m:5D19 F9D6:m:6DEA F9D7:m:8F2A F9D8:m:5F8B F9D9:m:6144",
    "F9DA:m:6817 F9DB:m:7387 F9DC:m:9686 F9DD:m:5229 F9DE:m:540F F9DF:m:5C65 F9E0:m:6613",
    "F9E1:m:674E F9E2:m:68A8 F9E3:m:6CE5 F9E4:m:7406 F9E5:m:75E2 F9E6:m:7F79 F9E7:m:88CF",
    "F9E8:m:88E1 F9E9:m:91CC F9EA:m:96E2 F9EB:m:533F F9EC:m:6EBA F9ED:m:541D F9EE:m:71D0",
    "F9EF:m:7498 F9F0:m:85FA F9F1:m:96A3 F9F2:m:9C57 F9F3:m:9E9F F9F4:m:6797 F9F5:m:6DCB",
    "F9F6:m:81E8 F9F7:m:7ACB F9F8:m:7B20 F9F9:m:7C92 F9FA:m:72C0 F9FB:m:7099 F9FC:m:8B58",
    "F9FD:m:4EC0 F9FE:m:8336 F9FF:m:523A FA00:m:5207 FA01:m:5EA6 FA02:m:62D3 FA03:m:7CD6",
    "FA04:m:5B85 FA05:m:6D1E FA06:m:66B4 FA07:m:8F3B FA08:m:884C FA09:m:964D FA0A:m:898B",
    "FA0B:m:5ED3 FA0C:m:5140 FA0D:m:55C0 FA0E:v FA10:m:585A FA11:v FA12:m:6674 FA13:v FA15:m:51DE",
    "FA16:m:732A FA17:m:76CA FA18:m:793C FA19:m:795E FA1A:m:7965 FA1B:m:798F FA1C:m:9756",
    "FA1D:m:7CBE FA1E:m:7FBD FA1F:v FA20:m:8612 FA21:v FA22:m:8AF8 FA23:v FA25:m:9038 FA26:m:90FD",
    "FA27:v FA2A:m:98EF FA2B:m:98FC FA2C:m:9928 FA2D:m:9DB4 FA2E:m:90DE FA2F:m:96B7 FA30:m:4FAE",
    "FA31:m:50E7 FA32:m:514D FA33:m:52C9 FA34:m:52E4 FA35:m:5351 FA36:m:559D FA37:m:5606",
    "FA38:m:5668 FA39:m:5840 FA3A:m:58A8 FA3B:m:5C64 FA3C:m:5C6E FA3D:m:6094 FA3E:m:6168",
    "FA3F:m:618E FA40:m:61F2 FA41:m:654F FA42:m:65E2 FA43:m:6691 FA44:m:6885 FA45:m:6D77",
    "FA46:m:6E1A FA47:m:6F22 FA48:m:716E FA49:m:722B FA4A:m:7422 FA4B:m:7891 FA4C:m:793E",
    "FA4D:m:7949 FA4E:m:7948 FA4F:m:7950 FA50:m:7956 FA51:m:795D FA52:m:798D FA53:m:798E",
    "FA54:m:7A40 FA55:m:7A81 FA56:m:7BC0 FA57:m:7DF4 FA58:m:7E09 FA59:m:7E41 FA5A:m:7F72",
    "FA5B:m:8005 FA5C:m:81ED FA5D:m:8279 FA5F:m:8457 FA60:m:8910 FA61:m:8996 FA62:m:8B01",
    "FA63:m:8B39 FA64:m:8CD3 FA65:m:8D08 FA66:m:8FB6 FA67:m:9038 FA68:m:96E3 FA69:m:97FF",
    "FA6A:m:983B FA6B:m:6075 FA6C:m:242EE FA6D:m:8218 FA6E:x FA70:m:4E26 FA71:m:51B5 FA72:m:5168",
    "FA73:m:4F80 FA74:m:5145 FA75:m:5180 FA76:m:52C7 FA77:m:52FA FA78:m:559D FA79:m:5555",
    "FA7A:m:5599 FA7B:m:55E2 FA7C:m:585A FA7D:m:58B3 FA7E:m:5944 FA7F:m:5954 FA80:m:5A62",
    "FA81:m:5B28 FA82:m:5ED2 FA83:m:5ED9 FA84:m:5F69 FA85:m:5FAD FA86:m:60D8 FA87:m:614E",
    "FA88:m:6108 FA89:m:618E FA8A:m:6160 FA8B:m:61F2 FA8C:m:6234 FA8D:m:63C4 FA8E:m:641C",
    "FA8F:m:6452 FA90:m:6556 FA91:m:6674 FA92:m:6717 FA93:m:671B FA94:m:6756 FA95:m:6B79",
    "FA96:m:6BBA FA97:m:6D41 FA98:m:6EDB FA99:m:6ECB FA9A:m:6F22 FA9B:m:701E FA9C:m:716E",
    "FA9D:m:77A7 FA9E:m:7235 FA9F:m:72AF FAA0:m:732A FAA1:m:7471 FAA2:m:7506 FAA3:m:753B",
    "FAA4:m:761D FAA5:m:761F FAA6:m:76CA FAA7:m:76DB FAA8:m:76F4 FAA9:m:774A FAAA:m:7740",
    "FAAB:m:78CC FAAC:m:7AB1 FAAD:m:7BC0 FAAE:m:7C7B FAAF:m:7D5B FAB0:m:7DF4 FAB1:m:7F3E",
    "FAB2:m:8005 FAB3:m:8352 FAB4:m:83EF FAB5:m:8779 FAB6:m:8941 FAB7:m:8986 FAB8:m:8996",
    "FAB9:m:8ABF FABA:m:8AF8 FABB:m:8ACB FABC:m:8B01 FABD:m:8AFE FABE:m:8AED FABF:m:8B39",
    "FAC0:m:8B8A FAC1:m:8D08 FAC2:m:8F38 FAC3:m:9072 FAC4:m:9199 FAC5:m:9276 FAC6:m:967C",
    "FAC7:m:96E3 FAC8:m:9756 FAC9:m:97DB FACA:m:97FF FACB:m:980B FACC:m:983B FACD:m:9B12",
    "FACE:m:9F9C FACF:m:2284A FAD0:m:22844 FAD1:m:233D5 FAD2:m:3B9D FAD3:m:4018 FAD4:m:4039",
    "FAD5:m:25249 FAD6:m:25CD0 FAD7:m:27ED3 FAD8:m:9F43 FAD9:m:9F8E FADA:x FB00:m:66,66",
    "FB01:m:66,69 FB02:m:66,6C FB03:m:66,66,69 FB04:m:66,66,6C FB05:m:73,74 FB07:x FB13:m:574,576",
    "FB14:m:574,565 FB15:m:574,56B FB16:m:57E,576 FB17:m:574,56D FB18:x FB1D:m:5D9,5B4 FB1E:v",
    "FB1F:m:5F2,5B7 FB20:m:5E2 FB21:m:5D0 FB22:m:5D3 FB23:m:5D4 FB24:m:5DB FB25:m:5DC FB26:m:5DD",
    "FB27:m:5E8 FB28:m:5EA FB29:m:2B FB2A:m:5E9,5C1 FB2B:m:5E9,5C2 FB2C:m:5E9,5BC,5C1",
    "FB2D:m:5E9,5BC,5C2 FB2E:m:5D0,5B7 FB2F:m:5D0,5B8 FB30:m:5D0,5BC FB31:m:5D1,5BC FB32:m:5D2,5BC",
    "FB33:m:5D3,5BC FB34:m:5D4,5BC FB35:m:5D5,5BC FB36:m:5D6,5BC FB37:x FB38:m:5D8,5BC",
    "FB39:m:5D9,5BC FB3A:m:5DA,5BC FB3B:m:5DB,5BC FB3C:m:5DC,5BC FB3D:x FB3E:m:5DE,5BC FB3F:x",
    "FB40:m:5E0,5BC FB41:m:5E1,5BC FB42:x FB43:m:5E3,5BC FB44:m:5E4,5BC FB45:x FB46:m:5E6,5BC",
    "FB47:m:5E7,5BC FB48:m:5E8,5BC FB49:m:5E9,5BC FB4A:m:5EA,5BC FB4B:m:5D5,5B9 FB4C:m:5D1,5BF",
    "FB4D:m:5DB,5BF FB4E:m:5E4,5BF FB4F:m:5D0,5DC FB50:m:671 FB52:m:67B FB56:m:67E FB5A:m:680",
    "FB5E:m:67A FB62:m:67F FB66:m:679 FB6A:m:6A4 FB6E:m:6A6 FB72:m:684 FB76:m:683 FB7A:m:686",
    "FB7E:m:687 FB82:m:68D FB84:m:68C FB86:m:68E FB88:m:688 FB8A:m:698 FB8C:m:691 FB8E:m:6A9",
    "FB92:m:6AF FB96:m:6B3 FB9A:m:6B1 FB9E:m:6BA FBA0:m:6BB FBA4:m:6C0 FBA6:m:6C1 FBAA:m:6BE",
    "FBAE:m:6D2 FBB0:m:6D3 FBB2:v FBD3:m:6AD FBD7:m:6C7 FBD9:m:6C6 FBDB:m:6C8 FBDD:m:6C7,674",
    "FBDE:m:6CB FBE0:m:6C5 FBE2:m:6C9 FBE4:m:6D0 FBE8:m:649 FBEA:m:626,627 FBEC:m:626,6D5",
    "FBEE:m:626,648 FBF0:m:626,6C7 FBF2:m:626,6C6 FBF4:m:626,6C8 FBF6:m:626,6D0 FBF9:m:626,649",
    "FBFC:m:6CC FC00:m:626,62C FC01:m:626,62D FC02:m:626,645 FC03:m:626,649 FC04:m:626,64A",
    "FC05:m:628,62C FC06:m:628,62D FC07:m:628,62E FC08:m:628,645 FC09:m:628,649 FC0A:m:628,64A",
    "FC0B:m:62A,62C FC0C:m:62A,62D FC0D:m:62A,62E FC0E:m:62A,645 FC0F:m:62A,649 FC10:m:62A,64A",
    "FC11:m:62B,62C FC12:m:62B,645 FC13:m:62B,649 FC14:m:62B,64A FC15:m:62C,62D FC16:m:62C,645",
    "FC17:m:62D,62C FC18:m:62D,645 FC19:m:62E,62C FC1A:m:62E,62D FC1B:m:62E,645 FC1C:m:633,62C",
    "FC1D:m:633,62D FC1E:m:633,62E FC1F:m:633,645 FC20:m:635,62D FC21:m:635,645 FC22:m:636,62C",
    "FC23:m:636,62D FC24:m:636,62E FC25:m:636,645 FC26:m:637,62D FC27:m:637,645 FC28:m:638,645",
    "FC29:m:639,62C FC2A:m:639,645 FC2B:m:63A,62C FC2C:m:63A,645 FC2D:m:641,62C FC2E:m:641,62D",
    "FC2F:m:641,62E FC30:m:641,645 FC31:m:641,649 FC32:m:641,64A FC33:m:642,62D FC34:m:642,645",
    "FC35:m:642,649 FC36:m:642,64A FC37:m:643,627 FC38:m:643,62C FC39:m:643,62D FC3A:m:643,62E",
    "FC3B:m:643,644 FC3C:m:643,645 FC3D:m:643,649 FC3E:m:643,64A FC3F:m:644,62C FC40:m:644,62D",
    "FC41:m:644,62E FC42:m:644,645 FC43:m:644,649 FC44:m:644,64A FC45:m:645,62C FC46:m:645,62D",
    "FC47:m:645,62E FC48:m:645,645 FC49:m:645,649 FC4A:m:645,64A FC4B:m:646,62C FC4C:m:646,62D",
    "FC4D:m:646,62E FC4E:m:646,645 FC4F:m:646,649 FC50:m:646,64A FC51:m:647,62C FC52:m:647,645",
    "FC53:m:647,649 FC54:m:647,64A FC55:m:64A,62C FC56:m:64A,62D FC57:m:64A,62E FC58:m:64A,645",
    "FC59:m:64A,649 FC5A:m:64A,64A FC5B:m:630,670 FC5C:m:631,670 FC5D:m:649,670 FC5E:m:20,64C,651",
    "FC5F:m:20,64D,651 FC60:m:20,64E,651 FC61:m:20,64F,651 FC62:m:20,650,651 FC63:m:20,651,670",
    "FC64:m:626,631 FC65:m:626,632 FC66:m:626,645 FC67:m:626,646 FC68:m:626,649 FC69:m:626,64A",
    "FC6A:m:628,631 FC6B:m:628,632 FC6C:m:628,645 FC6D:m:628,646 FC6E:m:628,649 FC6F:m:628,64A",
    "FC70:m:62A,631 FC71:m:62A,632 FC72:m:62A,645 FC73:m:62A,646 FC74:m:62A,649 FC75:m:62A,64A",
    "FC76:m:62B,631 FC77:m:62B,632 FC78:m:62B,645 FC79:m:62B,646 FC7A:m:62B,649 FC7B:m:62B,64A",
    "FC7C:m:641,649 FC7D:m:641,64A FC7E:m:642,649 FC7F:m:642,64A FC80:m:643,627 FC81:m:643,644",
    "FC82:m:643,645 FC83:m:643,649 FC84:m:643,64A FC85:m:644,645 FC86:m:644,649 FC87:m:644,64A",
    "FC88:m:645,627 FC89:m:645,645 FC8A:m:646,631 FC8B:m:646,632 FC8C:m:646,645 FC8D:m:646,646",
    "FC8E:m:646,649 FC8F:m:646,64A FC90:m:649,670 FC91:m:64A,631 FC92:m:64A,632 FC93:m:64A,645",
    "FC94:m:64A,646 FC95:m:64A,649 FC96:m:64A,64A FC97:m:626,62C FC98:m:626,62D FC99:m:626,62E",
    "FC9A:m:626,645 FC9B:m:626,647 FC9C:m:628,62C FC9D:m:628,62D FC9E:m:628,62E FC9F:m:628,645",
    "FCA0:m:628,647 FCA1:m:62A,62C FCA2:m:62A,62D FCA3:m:62A,62E FCA4:m:62A,645 FCA5:m:62A,647",
    "FCA6:m:62B,645 FCA7:m:62C,62D FCA8:m:62C,645 FCA9:m:62D,62C FCAA:m:62D,645 FCAB:m:62E,62C",
    "FCAC:m:62E,645 FCAD:m:633,62C FCAE:m:633,62D FCAF:m:633,62E FCB0:m:633,645 FCB1:m:635,62D",
    "FCB2:m:635,62E FCB3:m:635,645 FCB4:m:636,62C FCB5:m:636,62D FCB6:m:636,62E FCB7:m:636,645",
    "FCB8:m:637,62D FCB9:m:638,645 FCBA:m:639,62C FCBB:m:639,645 FCBC:m:63A,62C FCBD:m:63A,645",
    "FCBE:m:641,62C FCBF:m:641,62D FCC0:m:641,62E FCC1:m:641,645 FCC2:m:642,62D FCC3:m:642,645",
    "FCC4:m:643,62C FCC5:m:643,62D FCC6:m:643,62E FCC7:m:643,644 FCC8:m:643,645 FCC9:m:644,62C",
    "FCCA:m:644,62D FCCB:m:644,62E FCCC:m:644,645 FCCD:m:644,647 FCCE:m:645,62C FCCF:m:645,62D",
    "FCD0:m:645,62E FCD1:m:645,645 FCD2:m:646,62C FCD3:m:646,62D FCD4:m:646,62E FCD5:m:646,645",
    "FCD6:m:646,647 FCD7:m:647,62C FCD8:m:647,645 FCD9:m:647,670 FCDA:m:64A,62C FCDB:m:64A,62D",
    "FCDC:m:64A,62E FCDD:m:64A,645 FCDE:m:64A,647 FCDF:m:626,645 FCE0:m:626,647 FCE1:m:628,645",
    "FCE2:m:628,647 FCE3:m:62A,645 FCE4:m:62A,647 FCE5:m:62B,645 FCE6:m:62B,647 FCE7:m:633,645",
    "FCE8:m:633,647 FCE9:m:634,645 FCEA:m:634,647 FCEB:m:643,644 FCEC:m:643,645 FCED:m:644,645",
    "FCEE:m:646,645 FCEF:m:646,647 FCF0:m:64A,645 FCF1:m:64A,647 FCF2:m:640,64E,651",
    "FCF3:m:640,64F,651 FCF4:m:640,650,651 FCF5:m:637,649 FCF6:m:637,64A FCF7:m:639,649",
    "FCF8:m:639,64A FCF9:m:63A,649 FCFA:m:63A,64A FCFB:m:633,649 FCFC:m:633,64A FCFD:m:634,649",
    "FCFE:m:634,64A FCFF:m:62D,649 FD00:m:62D,64A FD01:m:62C,649 FD02:m:62C,64A FD03:m:62E,649",
    "FD04:m:62E,64A FD05:m:635,649 FD06:m:635,64A FD07:m:636,649 FD08:m:636,64A FD09:m:634,62C",
    "FD0A:m:634,62D FD0B:m:634,62E FD0C:m:634,645 FD0D:m:634,631 FD0E:m:633,631 FD0F:m:635,631",
    "FD10:m:636,631 FD11:m:637,649 FD12:m:637,64A FD13:m:639,649 FD14:m:639,64A FD15:m:63A,649",
    "FD16:m:63A,64A FD17:m:633,649 FD18:m:633,64A FD19:m:634,649 FD1A:m:634,64A FD1B:m:62D,649",
    "FD1C:m:62D,64A FD1D:m:62C,649 FD1E:m:62C,64A FD1F:m:62E,649 FD20:m:62E,64A FD21:m:635,649",
    "FD22:m:635,64A FD23:m:636,649 FD24:m:636,64A FD25:m:634,62C FD26:m:634,62D FD27:m:634,62E",
    "FD28:m:634,645 FD29:m:634,631 FD2A:m:633,631 FD2B:m:635,631 FD2C:m:636,631 FD2D:m:634,62C",
    "FD2E:m:634,62D FD2F:m:634,62E FD30:m:634,645 FD31:m:633,647 FD32:m:634,647 FD33:m:637,645",
    "FD34:m:633,62C FD35:m:633,62D FD36:m:633,62E FD37:m:634,62C FD38:m:634,62D FD39:m:634,62E",
    "FD3A:m:637,645 FD3B:m:638,645 FD3C:m:627,64B FD3E:v FD50:m:62A,62C,645 FD51:m:62A,62D,62C",
    "FD53:m:62A,62D,645 FD54:m:62A,62E,645 FD55:m:62A,645,62C FD56:m:62A,645,62D",
    "FD57:m:62A,645,62E FD58:m:62C,645,62D FD5A:m:62D,645,64A FD5B:m:62D,645,649",
    "FD5C:m:633,62D,62C FD5D:m:633,62C,62D FD5E:m:633,62C,649 FD5F:m:633,645,62D",
    "FD61:m:633,645,62C FD62:m:633,645,645 FD64:m:635,62D,62D FD66:m:635,645,645",
    "FD67:m:634,62D,645 FD69:m:634,62C,64A FD6A:m:634,645,62E FD6C:m:634,645,645",
    "FD6E:m:636,62D,649 FD6F:m:636,62E,645 FD71:m:637,645,62D FD73:m:637,645,645",
    "FD74:m:637,645,64A FD75:m:639,62C,645 FD76:m:639,645,645 FD78:m:639,645,649",
    "FD79:m:63A,645,645 FD7A:m:63A,645,64A FD7B:m:63A,645,649 FD7C:m:641,62E,645",
    "FD7E:m:642,645,62D FD7F:m:642,645,645 FD80:m:644,62D,645 FD81:m:644,62D,64A",
    "FD82:m:644,62D,649 FD83:m:644,62C,62C FD85:m:644,62E,645 FD87:m:644,645,62D",
    "FD89:m:645,62D,62C FD8A:m:645,62D,645 FD8B:m:645,62D,64A FD8C:m:645,62C,62D",
    "FD8D:m:645,62C,645 FD8E:m:645,62E,62C FD8F:m:645,62E,645 FD90:v FD92:m:645,62C,62E",
    "FD93:m:647,645,62C FD94:m:647,645,645 FD95:m:646,62D,645 FD96:m:646,62D,649",
    "FD97:m:646,62C,645 FD99:m:646,62C,649 FD9A:m:646,645,64A FD9B:m:646,645,649",
    "FD9C:m:64A,645,645 FD9E:m:628,62E,64A FD9F:m:62A,62C,64A FDA0:m:62A,62C,649",
    "FDA1:m:62A,62E,64A FDA2:m:62A,62E,649 FDA3:m:62A,645,64A FDA4:m:62A,645,649",
    "FDA5:m:62C,645,64A FDA6:m:62C,62D,649 FDA7:m:62C,645,649 FDA8:m:633,62E,649",
    "FDA9:m:635,62D,64A FDAA:m:634,62D,64A FDAB:m:636,62D,64A FDAC:m:644,62C,64A",
    "FDAD:m:644,645,64A FDAE:m:64A,62D,64A FDAF:m:64A,62C,64A FDB0:m:64A,645,64A",
    "FDB1:m:645,645,64A FDB2:m:642,645,64A FDB3:m:646,62D,64A FDB4:m:642,645,62D",
    "FDB5:m:644,62D,645 FDB6:m:639,645,64A FDB7:m:643,645,64A FDB8:m:646,62C,62D",
    "FDB9:m:645,62E,64A FDBA:m:644,62C,645 FDBB:m:643,645,645 FDBC:m:644,62C,645",
    "FDBD:m:646,62C,62D FDBE:m:62C,62D,64A FDBF:m:62D,62C,64A FDC0:m:645,62C,64A",
    "FDC1:m:641,645,64A FDC2:m:628,62D,64A FDC3:m:643,645,645 FDC4:m:639,62C,645",
    "FDC5:m:635,645,645 FDC6:m:633,62E,64A FDC7:m:646,62C,64A FDC8:v FDD0:x FDF0:m:635,644,6D2",
    "FDF1:m:642,644,6D2 FDF2:m:627,644,644,647 FDF3:m:627,643,628,631 FDF4:m:645,62D,645,62F",
    "FDF5:m:635,644,639,645 FDF6:m:631,633,648,644 FDF7:m:639,644,64A,647 FDF8:m:648,633,644,645",
    "FDF9:m:635,644,649",
    "FDFA:m:635,644,649,20,627,644,644,647,20,639,644,64A,647,20,648,633,644,645",
    "FDFB:m:62C,644,20,62C,644,627,644,647 FDFC:m:631,6CC,627,644 FDFD:v FE00:i FE10:m:2C",
    "FE11:m:3001 FE12:x FE13:m:3A FE14:m:3B FE15:m:21 FE16:m:3F FE17:m:3016 FE18:m:3017 FE19:x",
    "FE20:v FE30:x FE31:m:2014 FE32:m:2013 FE33:m:5F FE35:m:28 FE36:m:29 FE37:m:7B FE38:m:7D",
    "FE39:m:3014 FE3A:m:3015 FE3B:m:3010 FE3C:m:3011 FE3D:m:300A FE3E:m:300B FE3F:m:3008",
    "FE40:m:3009 FE41:m:300C FE42:m:300D FE43:m:300E FE44:m:300F FE45:v FE47:m:5B FE48:m:5D",
    "FE49:m:20,305 FE4D:m:5F FE50:m:2C FE51:m:3001 FE52:x FE54:m:3B FE55:m:3A FE56:m:3F FE57:m:21",
    "FE58:m:2014 FE59:m:28 FE5A:m:29 FE5B:m:7B FE5C:m:7D FE5D:m:3014 FE5E:m:3015 FE5F:m:23",
    "FE60:m:26 FE61:m:2A FE62:m:2B FE63:m:2D FE64:m:3C FE65:m:3E FE66:m:3D FE67:x FE68:m:5C",
    "FE69:m:24 FE6A:m:25 FE6B:m:40 FE6C:x FE70:m:20,64B FE71:m:640,64B FE72:m:20,64C FE73:v",
    "FE74:m:20,64D FE75:x FE76:m:20,64E FE77:m:640,64E FE78:m:20,64F FE79:m:640,64F FE7A:m:20,650",
    "FE7B:m:640,650 FE7C:m:20,651 FE7D:m:640,651 FE7E:m:20,652 FE7F:m:640,652 FE80:m:621",
    "FE81:m:622 FE83:m:623 FE85:m:624 FE87:m:625 FE89:m:626 FE8D:m:627 FE8F:m:628 FE93:m:629",
    "FE95:m:62A FE99:m:62B FE9D:m:62C FEA1:m:62D FEA5:m:62E FEA9:m:62F FEAB:m:630 FEAD:m:631",
    "FEAF:m:632 FEB1:m:633 FEB5:m:634 FEB9:m:635 FEBD:m:636 FEC1:m:637 FEC5:m:638 FEC9:m:639",
    "FECD:m:63A FED1:m:641 FED5:m:642 FED9:m:643 FEDD:m:644 FEE1:m:645 FEE5:m:646 FEE9:m:647",
    "FEED:m:648 FEEF:m:649 FEF1:m:64A FEF5:m:644,622 FEF7:m:644,623 FEF9:m:644,625 FEFB:m:644,627",
    "FEFD:x FEFF:i FF00:x FF01:m:21 FF02:m:22 FF03:m:23 FF04:m:24 FF05:m:25 FF06:m:26 FF07:m:27",
    "FF08:m:28 FF09:m:29 FF0A:m:2A FF0B:m:2B FF0C:m:2C FF0D:m:2D FF0E:m:2E FF0F:m:2F FF10:m:30",
    "FF11:m:31 FF12:m:32 FF13:m:33 FF14:m:34 FF15:m:35 FF16:m:36 FF17:m:37 FF18:m:38 FF19:m:39",
    "FF1A:m:3A FF1B:m:3B FF1C:m:3C FF1D:m:3D FF1E:m:3E FF1F:m:3F FF20:m:40 FF21:m:61 FF22:m:62",
    "FF23:m:63 FF24:m:64 FF25:m:65 FF26:m:66 FF27:m:67 FF28:m:68 FF29:m:69 FF2A:m:6A FF2B:m:6B",
    "FF2C:m:6C FF2D:m:6D FF2E:m:6E FF2F:m:6F FF30:m:70 FF31:m:71 FF32:m:72 FF33:m:73 FF34:m:74",
    "FF35:m:75 FF36:m:76 FF37:m:77 FF38:m:78 FF39:m:79 FF3A:m:7A FF3B:m:5B FF3C:m:5C FF3D:m:5D",
    "FF3E:m:5E FF3F:m:5F FF40:m:60 FF41:m:61 FF42:m:62 FF43:m:63 FF44:m:64 FF45:m:65 FF46:m:66",
    "FF47:m:67 FF48:m:68 FF49:m:69 FF4A:m:6A FF4B:m:6B FF4C:m:6C FF4D:m:6D FF4E:m:6E FF4F:m:6F",
    "FF50:m:70 FF51:m:71 FF52:m:72 FF53:m:73 FF54:m:74 FF55:m:75 FF56:m:76 FF57:m:77 FF58:m:78",
    "FF59:m:79 FF5A:m:7A FF5B:m:7B FF5C:m:7C FF5D:m:7D FF5E:m:7E FF5F:m:2985 FF60:m:2986 FF61:m:2E",
    "FF62:m:300C FF63:m:300D FF64:m:3001 FF65:m:30FB FF66:m:30F2 FF67:m:30A1 FF68:m:30A3",
    "FF69:m:30A5 FF6A:m:30A7 FF6B:m:30A9 FF6C:m:30E3 FF6D:m:30E5 FF6E:m:30E7 FF6F:m:30C3",
    "FF70:m:30FC FF71:m:30A2 FF72:m:30A4 FF73:m:30A6 FF74:m:30A8 FF75:m:30AA FF76:m:30AB",
    "FF77:m:30AD FF78:m:30AF FF79:m:30B1 FF7A:m:30B3 FF7B:m:30B5 FF7C:m:30B7 FF7D:m:30B9",
    "FF7E:m:30BB FF7F:m:30BD FF80:m:30BF FF81:m:30C1 FF82:m:30C4 FF83:m:30C6 FF84:m:30C8",
    "FF85:m:30CA FF86:m:30CB FF87:m:30CC FF88:m:30CD FF89:m:30CE FF8A:m:30CF FF8B:m:30D2",
    "FF8C:m:30D5 FF8D:m:30D8 FF8E:m:30DB FF8F:m:30DE FF90:m:30DF FF91:m:30E0 FF92:m:30E1",
    "FF93:m:30E2 FF94:m:30E4 FF95:m:30E6 FF96:m:30E8 FF97:m:30E9 FF98:m:30EA FF99:m:30EB",
    "FF9A:m:30EC FF9B:m:30ED FF9C:m:30EF FF9D:m:30F3 FF9E:m:3099 FF9F:m:309A FFA0:i FFA1:m:1100",
    "FFA2:m:1101 FFA3:m:11AA FFA4:m:1102 FFA5:m:11AC FFA6:m:11AD FFA7:m:1103 FFA8:m:1104",
    "FFA9:m:1105 FFAA:m:11B0 FFAB:m:11B1 FFAC:m:11B2 FFAD:m:11B3 FFAE:m:11B4 FFAF:m:11B5",
    "FFB0:m:111A FFB1:m:1106 FFB2:m:1107 FFB3:m:1108 FFB4:m:1121 FFB5:m:1109 FFB6:m:110A",
    "FFB7:m:110B FFB8:m:110C FFB9:m:110D FFBA:m:110E FFBB:m:110F FFBC:m:1110 FFBD:m:1111",
    "FFBE:m:1112 FFBF:x FFC2:m:1161 FFC3:m:1162 FFC4:m:1163 FFC5:m:1164 FFC6:m:1165 FFC7:m:1166",
    "FFC8:x FFCA:m:1167 FFCB:m:1168 FFCC:m:1169 FFCD:m:116A FFCE:m:116B FFCF:m:116C FFD0:x",
    "FFD2:m:116D FFD3:m:116E FFD4:m:116F FFD5:m:1170 FFD6:m:1171 FFD7:m:1172 FFD8:x FFDA:m:1173",
    "FFDB:m:1174 FFDC:m:1175 FFDD:x FFE0:m:A2 FFE1:m:A3 FFE2:m:AC FFE3:m:20,304 FFE4:m:A6",
    "FFE5:m:A5 FFE6:m:20A9 FFE7:x FFE8:m:2502 FFE9:m:2190 FFEA:m:2191 FFEB:m:2192 FFEC:m:2193",
    "FFED:m:25A0 FFEE:m:25CB FFEF:x 10000:v 1000C:x 1000D:v 10027:x 10028:v 1003B:x 1003C:v",
    "1003E:x 1003F:v 1004E:x 10050:v 1005E:x 10080:v 100FB:x 10100:v 10103:x 10107:v 10134:x",
    "10137:v 1018F:x 10190:v 1019D:x 101A0:v 101A1:x 101D0:v 101FE:x 10280:v 1029D:x 102A0:v",
    "102D1:x 102E0:v 102FC:x 10300:v 10324:x 1032D:v 1034B:x 10350:v 1037B:x 10380:v 1039E:x",
    "1039F:v 103C4:x 103C8:v 103D6:x 10400:m:10428 10401:m:10429 10402:m:1042A 10403:m:1042B",
    "10404:m:1042C 10405:m:1042D 10406:m:1042E 10407:m:1042F 10408:m:10430 10409:m:10431",
    "1040A:m:10432 1040B:m:10433 1040C:m:10434 1040D:m:10435 1040E:m:10436 1040F:m:10437",
    "10410:m:10438 10411:m:10439 10412:m:1043A 10413:m:1043B 10414:m:1043C 10415:m:1043D",
    "10416:m:1043E 10417:m:1043F 10418:m:10440 10419:m:10441 1041A:m:10442 1041B:m:10443",
    "1041C:m:10444 1041D:m:10445 1041E:m:10446 1041F:m:10447 10420:m:10448 10421:m:10449",
    "10422:m:1044A 10423:m:1044B 10424:m:1044C 10425:m:1044D 10426:m:1044E 10427:m:1044F 10428:v",
    "1049E:x 104A0:v 104AA:x 104B0:m:104D8 104B1:m:104D9 104B2:m:104DA 104B3:m:104DB 104B4:m:104DC",
    "104B5:m:104DD 104B6:m:104DE 104B7:m:104DF 104B8:m:104E0 104B9:m:104E1 104BA:m:104E2",
    "104BB:m:104E3 104BC:m:104E4 104BD:m:104E5 104BE:m:104E6 104BF:m:104E7 104C0:m:104E8",
    "104C1:m:104E9 104C2:m:104EA 104C3:m:104EB 104C4:m:104EC 104C5:m:104ED 104C6:m:104EE",
    "104C7:m:104EF 104C8:m:104F0 104C9:m:104F1 104CA:m:104F2 104CB:m:104F3 104CC:m:104F4",
    "104CD:m:104F5 104CE:m:104F6 104CF:m:104F7 104D0:m:104F8 104D1:m:104F9 104D2:m:104FA",
    "104D3:m:104FB 104D4:x 104D8:v 104FC:x 10500:v 10528:x 10530:v 10564:x 1056F:v 10570:m:10597",
    "10571:m:10598 10572:m:10599 10573:m:1059A 10574:m:1059B 10575:m:1059C 10576:m:1059D",
    "10577:m:1059E 10578:m:1059F 10579:m:105A0 1057A:m:105A1 1057B:x 1057C:m:105A3 1057D:m:105A4",
    "1057E:m:105A5 1057F:m:105A6 10580:m:105A7 10581:m:105A8 10582:m:105A9 10583:m:105AA",
    "10584:m:105AB 10585:m:105AC 10586:m:105AD 10587:m:105AE 10588:m:105AF 10589:m:105B0",
    "1058A:m:105B1 1058B:x 1058C:m:105B3 1058D:m:105B4 1058E:m:105B5 1058F:m:105B6 10590:m:105B7",
    "10591:m:105B8 10592:m:105B9 10593:x 10594:m:105BB 10595:m:105BC 10596:x 10597:v 105A2:x",
    "105A3:v 105B2:x 105B3:v 105BA:x 105BB:v 105BD:x 105C0:v 105F4:x 10600:v 10737:x 10740:v",
    "10756:x 10760:v 10768:x 10780:v 10781:m:2D0 10782:m:2D1 10783:m:E6 10784:m:299 10785:m:253",
    "10786:x 10787:m:2A3 10788:m:AB66 10789:m:2A5 1078A:m:2A4 1078B:m:256 1078C:m:257 1078D:m:1D91",
    "1078E:m:258 1078F:m:25E 10790:m:2A9 10791:m:264 10792:m:262 10793:m:260 10794:m:29B",
    "10795:m:127 10796:m:29C 10797:m:267 10798:m:284 10799:m:2AA 1079A:m:2AB 1079B:m:26C",
    "1079C:m:1DF04 1079D:m:A78E 1079E:m:26E 1079F:m:1DF05 107A0:m:28E 107A1:m:1DF06 107A2:m:F8",
    "107A3:m:276 107A4:m:277 107A5:m:71 107A6:m:27A 107A7:m:1DF08 107A8:m:27D 107A9:m:27E",
    "107AA:m:280 107AB:m:2A8 107AC:m:2A6 107AD:m:AB67 107AE:m:2A7 107AF:m:288 107B0:m:2C71 107B1:x",
    "107B2:m:28F 107B3:m:2A1 107B4:m:2A2 107B5:m:298 107B6:m:1C0 107B7:m:1C1 107B8:m:1C2",
    "107B9:m:1DF0A 107BA:m:1DF1E 107BB:x 10800:v 10806:x 10808:v 10809:x 1080A:v 10836:x 10837:v",
    "10839:x 1083C:v 1083D:x 1083F:v 10856:x 10857:v 1089F:x 108A7:v 108B0:x 108E0:v 108F3:x",
    "108F4:v 108F6:x 108FB:v 1091C:x 1091F:v 1093A:x 1093F:v 1095A:x 10980:v 109B8:x 109BC:v",
    "109D0:x 109D2:v 10A04:x 10A05:v 10A07:x 10A0C:v 10A14:x 10A15:v 10A18:x 10A19:v 10A36:x",
    "10A38:v 10A3B:x 10A3F:v 10A49:x 10A50:v 10A59:x 10A60:v 10AA0:x 10AC0:v 10AE7:x 10AEB:v",
    "10AF7:x 10B00:v 10B36:x 10B39:v 10B56:x 10B58:v 10B73:x 10B78:v 10B92:x 10B99:v 10B9D:x",
    "10BA9:v 10BB0:x 10C00:v 10C49:x 10C80:m:10CC0 10C81:m:10CC1 10C82:m:10CC2 10C83:m:10CC3",
    "10C84:m:10CC4 10C85:m:10CC5 10C86:m:10CC6 10C87:m:10CC7 10C88:m:10CC8 10C89:m:10CC9",
    "10C8A:m:10CCA 10C8B:m:10CCB 10C8C:m:10CCC 10C8D:m:10CCD 10C8E:m:10CCE 10C8F:m:10CCF",
    "10C90:m:10CD0 10C91:m:10CD1 10C92:m:10CD2 10C93:m:10CD3 10C94:m:10CD4 10C95:m:10CD5",
    "10C96:m:10CD6 10C97:m:10CD7 10C98:m:10CD8 10C99:m:10CD9 10C9A:m:10CDA 10C9B:m:10CDB",
    "10C9C:m:10CDC 10C9D:m:10CDD 10C9E:m:10CDE 10C9F:m:10CDF 10CA0:m:10CE0 10CA1:m:10CE1",
    "10CA2:m:10CE2 10CA3:m:10CE3 10CA4:m:10CE4 10CA5:m:10CE5 10CA6:m:10CE6 10CA7:m:10CE7",
    "10CA8:m:10CE8 10CA9:m:10CE9 10CAA:m:10CEA 10CAB:m:10CEB 10CAC:m:10CEC 10CAD:m:10CED",
    "10CAE:m:10CEE 10CAF:m:10CEF 10CB0:m:10CF0 10CB1:m:10CF1 10CB2:m:10CF2 10CB3:x 10CC0:v 10CF3:x",
    "10CFA:v 10D28:x 10D30:v 10D3A:x 10D40:v 10D50:m:10D70 10D51:m:10D71 10D52:m:10D72",
    "10D53:m:10D73 10D54:m:10D74 10D55:m:10D75 10D56:m:10D76 10D57:m:10D77 10D58:m:10D78",
    "10D59:m:10D79 10D5A:m:10D7A 10D5B:m:10D7B 10D5C:m:10D7C 10D5D:m:10D7D 10D5E:m:10D7E",
    "10D5F:m:10D7F 10D60:m:10D80 10D61:m:10D81 10D62:m:10D82 10D63:m:10D83 10D64:m:10D84",
    "10D65:m:10D85 10D66:x 10D69:v 10D86:x 10D8E:v 10D90:x 10E60:v 10E7F:x 10E80:v 10EAA:x 10EAB:v",
    "10EAE:x 10EB0:v 10EB2:x 10EC2:v 10EC8:x 10ED0:v 10ED9:x 10EFA:v 10F28:x 10F30:v 10F5A:x",
    "10F70:v 10F8A:x 10FB0:v 10FCC:x 10FE0:v 10FF7:x 11000:v 1104E:x 11052:v 11076:x 1107F:v",
    "110BD:x 110BE:v 110C3:x 110D0:v 110E9:x 110F0:v 110FA:x 11100:v 11135:x 11136:v 11148:x",
    "11150:v 11177:x 11180:v 111E0:x 111E1:v 111F5:x 11200:v 11212:x 11213:v 11242:x 11280:v",
    "11287:x 11288:v 11289:x 1128A:v 1128E:x 1128F:v 1129E:x 1129F:v 112AA:x 112B0:v 112EB:x",
    "112F0:v 112FA:x 11300:v 11304:x 11305:v 1130D:x 1130F:v 11311:x 11313:v 11329:x 1132A:v",
    "11331:x 11332:v 11334:x 11335:v 1133A:x 1133B:v 11345:x 11347:v 11349:x 1134B:v 1134E:x",
    "11350:v 11351:x 11357:v 11358:x 1135D:v 11364:x 11366:v 1136D:x 11370:v 11375:x 11380:v",
    "1138A:x 1138B:v 1138C:x 1138E:v 1138F:x 11390:v 113B6:x 113B7:v 113C1:x 113C2:v 113C3:x",
    "113C5:v 113C6:x 113C7:v 113CB:x 113CC:v 113D6:x 113D7:v 113D9:x 113E1:v 113E3:x 11400:v",
    "1145C:x 1145D:v 11462:x 11480:v 114C8:x 114D0:v 114DA:x 11580:v 115B6:x 115B8:v 115DE:x",
    "11600:v 11645:x 11650:v 1165A:x 11660:v 1166D:x 11680:v 116BA:x 116C0:v 116CA:x 116D0:v",
    "116E4:x 11700:v 1171B:x 1171D:v 1172C:x 11730:v 11747:x 11800:v 1183C:x 118A0:m:118C0",
    "118A1:m:118C1 118A2:m:118C2 118A3:m:118C3 118A4:m:118C4 118A5:m:118C5 118A6:m:118C6",
    "118A7:m:118C7 118A8:m:118C8 118A9:m:118C9 118AA:m:118CA 118AB:m:118CB 118AC:m:118CC",
    "118AD:m:118CD 118AE:m:118CE 118AF:m:118CF 118B0:m:118D0 118B1:m:118D1 118B2:m:118D2",
    "118B3:m:118D3 118B4:m:118D4 118B5:m:118D5 118B6:m:118D6 118B7:m:118D7 118B8:m:118D8",
    "118B9:m:118D9 118BA:m:118DA 118BB:m:118DB 118BC:m:118DC 118BD:m:118DD 118BE:m:118DE",
    "118BF:m:118DF 118C0:v 118F3:x 118FF:v 11907:x 11909:v 1190A:x 1190C:v 11914:x 11915:v 11917:x",
    "11918:v 11936:x 11937:v 11939:x 1193B:v 11947:x 11950:v 1195A:x 119A0:v 119A8:x 119AA:v",
    "119D8:x 119DA:v 119E5:x 11A00:v 11A48:x 11A50:v 11AA3:x 11AB0:v 11AF9:x 11B00:v 11B0A:x",
    "11B60:v 11B68:x 11BC0:v 11BE2:x 11BF0:v 11BFA:x 11C00:v 11C09:x 11C0A:v 11C37:x 11C38:v",
    "11C46:x 11C50:v 11C6D:x 11C70:v 11C90:x 11C92:v 11CA8:x 11CA9:v 11CB7:x 11D00:v 11D07:x",
    "11D08:v 11D0A:x 11D0B:v 11D37:x 11D3A:v 11D3B:x 11D3C:v 11D3E:x 11D3F:v 11D48:x 11D50:v",
    "11D5A:x 11D60:v 11D66:x 11D67:v 11D69:x 11D6A:v 11D8F:x 11D90:v 11D92:x 11D93:v 11D99:x",
    "11DA0:v 11DAA:x 11DB0:v 11DDC:x 11DE0:v 11DEA:x 11EE0:v 11EF9:x 11F00:v 11F11:x 11F12:v",
    "11F3B:x 11F3E:v 11F5B:x 11FB0:v 11FB1:x 11FC0:v 11FF2:x 11FFF:v 1239A:x 12400:v 1246F:x",
    "12470:v 12475:x 12480:v 12544:x 12F90:v 12FF3:x 13000:v 13430:x 13440:v 13456:x 13460:v",
    "143FB:x 14400:v 14647:x 16100:v 1613A:x 16800:v 16A39:x 16A40:v 16A5F:x 16A60:v 16A6A:x",
    "16A6E:v 16ABF:x 16AC0:v 16ACA:x 16AD0:v 16AEE:x 16AF0:v 16AF6:x 16B00:v 16B46:x 16B50:v",
    "16B5A:x 16B5B:v 16B62:x 16B63:v 16B78:x 16B7D:v 16B90:x 16D40:v 16D7A:x 16E40:m:16E60",
    "16E41:m:16E61 16E42:m:16E62 16E43:m:16E63 16E44:m:16E64 16E45:m:16E65 16E46:m:16E66",
    "16E47:m:16E67 16E48:m:16E68 16E49:m:16E69 16E4A:m:16E6A 16E4B:m:16E6B 16E4C:m:16E6C",
    "16E4D:m:16E6D 16E4E:m:16E6E 16E4F:m:16E6F 16E50:m:16E70 16E51:m:16E71 16E52:m:16E72",
    "16E53:m:16E73 16E54:m:16E74 16E55:m:16E75 16E56:m:16E76 16E57:m:16E77 16E58:m:16E78",
    "16E59:m:16E79 16E5A:m:16E7A 16E5B:m:16E7B 16E5C:m:16E7C 16E5D:m:16E7D 16E5E:m:16E7E",
    "16E5F:m:16E7F 16E60:v 16E9B:x 16EA0:m:16EBB 16EA1:m:16EBC 16EA2:m:16EBD 16EA3:m:16EBE",
    "16EA4:m:16EBF 16EA5:m:16EC0 16EA6:m:16EC1 16EA7:m:16EC2 16EA8:m:16EC3 16EA9:m:16EC4",
    "16EAA:m:16EC5 16EAB:m:16EC6 16EAC:m:16EC7 16EAD:m:16EC8 16EAE:m:16EC9 16EAF:m:16ECA",
    "16EB0:m:16ECB 16EB1:m:16ECC 16EB2:m:16ECD 16EB3:m:16ECE 16EB4:m:16ECF 16EB5:m:16ED0",
    "16EB6:m:16ED1 16EB7:m:16ED2 16EB8:m:16ED3 16EB9:x 16EBB:v 16ED4:x 16F00:v 16F4B:x 16F4F:v",
    "16F88:x 16F8F:v 16FA0:x 16FE0:v 16FE5:x 16FF0:v 16FF7:x 17000:v 18CD6:x 18CFF:v 18D1F:x",
    "18D80:v 18DF3:x 1AFF0:v 1AFF4:x 1AFF5:v 1AFFC:x 1AFFD:v 1AFFF:x 1B000:v 1B123:x 1B132:v",
    "1B133:x 1B150:v 1B153:x 1B155:v 1B156:x 1B164:v 1B168:x 1B170:v 1B2FC:x 1BC00:v 1BC6B:x",
    "1BC70:v 1BC7D:x 1BC80:v 1BC89:x 1BC90:v 1BC9A:x 1BC9C:v 1BCA0:i 1BCA4:x 1CC00:v 1CCD6:m:61",
    "1CCD7:m:62 1CCD8:m:63 1CCD9:m:64 1CCDA:m:65 1CCDB:m:66 1CCDC:m:67 1CCDD:m:68 1CCDE:m:69",
    "1CCDF:m:6A 1CCE0:m:6B 1CCE1:m:6C 1CCE2:m:6D 1CCE3:m:6E 1CCE4:m:6F 1CCE5:m:70 1CCE6:m:71",
    "1CCE7:m:72 1CCE8:m:73 1CCE9:m:74 1CCEA:m:75 1CCEB:m:76 1CCEC:m:77 1CCED:m:78 1CCEE:m:79",
    "1CCEF:m:7A 1CCF0:m:30 1CCF1:m:31 1CCF2:m:32 1CCF3:m:33 1CCF4:m:34 1CCF5:m:35 1CCF6:m:36",
    "1CCF7:m:37 1CCF8:m:38 1CCF9:m:39 1CCFA:v 1CCFD:x 1CD00:v 1CEB4:x 1CEBA:v 1CED1:x 1CEE0:v",
    "1CEF1:x 1CF00:v 1CF2E:x 1CF30:v 1CF47:x 1CF50:v 1CFC4:x 1D000:v 1D0F6:x 1D100:v 1D127:x",
    "1D129:v 1D15E:m:1D157,1D165 1D15F:m:1D158,1D165 1D160:m:1D158,1D165,1D16E",
    "1D161:m:1D158,1D165,1D16F 1D162:m:1D158,1D165,1D170 1D163:m:1D158,1D165,1D171",
    "1D164:m:1D158,1D165,1D172 1D165:v 1D173:i 1D17B:v 1D1BB:m:1D1B9,1D165 1D1BC:m:1D1BA,1D165",
    "1D1BD:m:1D1B9,1D165,1D16E 1D1BE:m:1D1BA,1D165,1D16E 1D1BF:m:1D1B9,1D165,1D16F",
    "1D1C0:m:1D1BA,1D165,1D16F 1D1C1:v 1D1EB:x 1D200:v 1D246:x 1D2C0:v 1D2D4:x 1D2E0:v 1D2F4:x",
    "1D300:v 1D357:x 1D360:v 1D379:x 1D400:m:61 1D401:m:62 1D402:m:63 1D403:m:64 1D404:m:65",
    "1D405:m:66 1D406:m:67 1D407:m:68 1D408:m:69 1D409:m:6A 1D40A:m:6B 1D40B:m:6C 1D40C:m:6D",
    "1D40D:m:6E 1D40E:m:6F 1D40F:m:70 1D410:m:71 1D411:m:72 1D412:m:73 1D413:m:74 1D414:m:75",
    "1D415:m:76 1D416:m:77 1D417:m:78 1D418:m:79 1D419:m:7A 1D41A:m:61 1D41B:m:62 1D41C:m:63",
    "1D41D:m:64 1D41E:m:65 1D41F:m:66 1D420:m:67 1D421:m:68 1D422:m:69 1D423:m:6A 1D424:m:6B",
    "1D425:m:6C 1D426:m:6D 1D427:m:6E 1D428:m:6F 1D429:m:70 1D42A:m:71 1D42B:m:72 1D42C:m:73",
    "1D42D:m:74 1D42E:m:75 1D42F:m:76 1D430:m:77 1D431:m:78 1D432:m:79 1D433:m:7A 1D434:m:61",
    "1D435:m:62 1D436:m:63 1D437:m:64 1D438:m:65 1D439:m:66 1D43A:m:67 1D43B:m:68 1D43C:m:69",
    "1D43D:m:6A 1D43E:m:6B 1D43F:m:6C 1D440:m:6D 1D441:m:6E 1D442:m:6F 1D443:m:70 1D444:m:71",
    "1D445:m:72 1D446:m:73 1D447:m:74 1D448:m:75 1D449:m:76 1D44A:m:77 1D44B:m:78 1D44C:m:79",
    "1D44D:m:7A 1D44E:m:61 1D44F:m:62 1D450:m:63 1D451:m:64 1D452:m:65 1D453:m:66 1D454:m:67",
    "1D455:x 1D456:m:69 1D457:m:6A 1D458:m:6B 1D459:m:6C 1D45A:m:6D 1D45B:m:6E 1D45C:m:6F",
    "1D45D:m:70 1D45E:m:71 1D45F:m:72 1D460:m:73 1D461:m:74 1D462:m:75 1D463:m:76 1D464:m:77",
    "1D465:m:78 1D466:m:79 1D467:m:7A 1D468:m:61 1D469:m:62 1D46A:m:63 1D46B:m:64 1D46C:m:65",
    "1D46D:m:66 1D46E:m:67 1D46F:m:68 1D470:m:69 1D471:m:6A 1D472:m:6B 1D473:m:6C 1D474:m:6D",
    "1D475:m:6E 1D476:m:6F 1D477:m:70 1D478:m:71 1D479:m:72 1D47A:m:73 1D47B:m:74 1D47C:m:75",
    "1D47D:m:76 1D47E:m:77 1D47F:m:78 1D480:m:79 1D481:m:7A 1D482:m:61 1D483:m:62 1D484:m:63",
    "1D485:m:64 1D486:m:65 1D487:m:66 1D488:m:67 1D489:m:68 1D48A:m:69 1D48B:m:6A 1D48C:m:6B",
    "1D48D:m:6C 1D48E:m:6D 1D48F:m:6E 1D490:m:6F 1D491:m:70 1D492:m:71 1D493:m:72 1D494:m:73",
    "1D495:m:74 1D496:m:75 1D497:m:76 1D498:m:77 1D499:m:78 1D49A:m:79 1D49B:m:7A 1D49C:m:61",
    "1D49D:x 1D49E:m:63 1D49F:m:64 1D4A0:x 1D4A2:m:67 1D4A3:x 1D4A5:m:6A 1D4A6:m:6B 1D4A7:x",
    "1D4A9:m:6E 1D4AA:m:6F 1D4AB:m:70 1D4AC:m:71 1D4AD:x 1D4AE:m:73 1D4AF:m:74 1D4B0:m:75",
    "1D4B1:m:76 1D4B2:m:77 1D4B3:m:78 1D4B4:m:79 1D4B5:m:7A 1D4B6:m:61 1D4B7:m:62 1D4B8:m:63",
    "1D4B9:m:64 1D4BA:x 1D4BB:m:66 1D4BC:x 1D4BD:m:68 1D4BE:m:69 1D4BF:m:6A 1D4C0:m:6B 1D4C1:m:6C",
    "1D4C2:m:6D 1D4C3:m:6E 1D4C4:x 1D4C5:m:70 1D4C6:m:71 1D4C7:m:72 1D4C8:m:73 1D4C9:m:74",
    "1D4CA:m:75 1D4CB:m:76 1D4CC:m:77 1D4CD:m:78 1D4CE:m:79 1D4CF:m:7A 1D4D0:m:61 1D4D1:m:62",
    "1D4D2:m:63 1D4D3:m:64 1D4D4:m:65 1D4D5:m:66 1D4D6:m:67 1D4D7:m:68 1D4D8:m:69 1D4D9:m:6A",
    "1D4DA:m:6B 1D4DB:m:6C 1D4DC:m:6D 1D4DD:m:6E 1D4DE:m:6F 1D4DF:m:70 1D4E0:m:71 1D4E1:m:72",
    "1D4E2:m:73 1D4E3:m:74 1D4E4:m:75 1D4E5:m:76 1D4E6:m:77 1D4E7:m:78 1D4E8:m:79 1D4E9:m:7A",
    "1D4EA:m:61 1D4EB:m:62 1D4EC:m:63 1D4ED:m:64 1D4EE:m:65 1D4EF:m:66 1D4F0:m:67 1D4F1:m:68",
    "1D4F2:m:69 1D4F3:m:6A 1D4F4:m:6B 1D4F5:m:6C 1D4F6:m:6D 1D4F7:m:6E 1D4F8:m:6F 1D4F9:m:70",
    "1D4FA:m:71 1D4FB:m:72 1D4FC:m:73 1D4FD:m:74 1D4FE:m:75 1D4FF:m:76 1D500:m:77 1D501:m:78",
    "1D502:m:79 1D503:m:7A 1D504:m:61 1D505:m:62 1D506:x 1D507:m:64 1D508:m:65 1D509:m:66",
    "1D50A:m:67 1D50B:x 1D50D:m:6A 1D50E:m:6B 1D50F:m:6C 1D510:m:6D 1D511:m:6E 1D512:m:6F",
    "1D513:m:70 1D514:m:71 1D515:x 1D516:m:73 1D517:m:74 1D518:m:75 1D519:m:76 1D51A:m:77",
    "1D51B:m:78 1D51C:m:79 1D51D:x 1D51E:m:61 1D51F:m:62 1D520:m:63 1D521:m:64 1D522:m:65",
    "1D523:m:66 1D524:m:67 1D525:m:68 1D526:m:69 1D527:m:6A 1D528:m:6B 1D529:m:6C 1D52A:m:6D",
    "1D52B:m:6E 1D52C:m:6F 1D52D:m:70 1D52E:m:71 1D52F:m:72 1D530:m:73 1D531:m:74 1D532:m:75",
    "1D533:m:76 1D534:m:77 1D535:m:78 1D536:m:79 1D537:m:7A 1D538:m:61 1D539:m:62 1D53A:x",
    "1D53B:m:64 1D53C:m:65 1D53D:m:66 1D53E:m:67 1D53F:x 1D540:m:69 1D541:m:6A 1D542:m:6B",
    "1D543:m:6C 1D544:m:6D 1D545:x 1D546:m:6F 1D547:x 1D54A:m:73 1D54B:m:74 1D54C:m:75 1D54D:m:76",
    "1D54E:m:77 1D54F:m:78 1D550:m:79 1D551:x 1D552:m:61 1D553:m:62 1D554:m:63 1D555:m:64",
    "1D556:m:65 1D557:m:66 1D558:m:67 1D559:m:68 1D55A:m:69 1D55B:m:6A 1D55C:m:6B 1D55D:m:6C",
    "1D55E:m:6D 1D55F:m:6E 1D560:m:6F 1D561:m:70 1D562:m:71 1D563:m:72 1D564:m:73 1D565:m:74",
    "1D566:m:75 1D567:m:76 1D568:m:77 1D569:m:78 1D56A:m:79 1D56B:m:7A 1D56C:m:61 1D56D:m:62",
    "1D56E:m:63 1D56F:m:64 1D570:m:65 1D571:m:66 1D572:m:67 1D573:m:68 1D574:m:69 1D575:m:6A",
    "1D576:m:6B 1D577:m:6C 1D578:m:6D 1D579:m:6E 1D57A:m:6F 1D57B:m:70 1D57C:m:71 1D57D:m:72",
    "1D57E:m:73 1D57F:m:74 1D580:m:75 1D581:m:76 1D582:m:77 1D583:m:78 1D584:m:79 1D585:m:7A",
    "1D586:m:61 1D587:m:62 1D588:m:63 1D589:m:64 1D58A:m:65 1D58B:m:66 1D58C:m:67 1D58D:m:68",
    "1D58E:m:69 1D58F:m:6A 1D590:m:6B 1D591:m:6C 1D592:m:6D 1D593:m:6E 1D594:m:6F 1D595:m:70",
    "1D596:m:71 1D597:m:72 1D598:m:73 1D599:m:74 1D59A:m:75 1D59B:m:76 1D59C:m:77 1D59D:m:78",
    "1D59E:m:79 1D59F:m:7A 1D5A0:m:61 1D5A1:m:62 1D5A2:m:63 1D5A3:m:64 1D5A4:m:65 1D5A5:m:66",
    "1D5A6:m:67 1D5A7:m:68 1D5A8:m:69 1D5A9:m:6A 1D5AA:m:6B 1D5AB:m:6C 1D5AC:m:6D 1D5AD:m:6E",
    "1D5AE:m:6F 1D5AF:m:70 1D5B0:m:71 1D5B1:m:72 1D5B2:m:73 1D5B3:m:74 1D5B4:m:75 1D5B5:m:76",
    "1D5B6:m:77 1D5B7:m:78 1D5B8:m:79 1D5B9:m:7A 1D5BA:m:61 1D5BB:m:62 1D5BC:m:63 1D5BD:m:64",
    "1D5BE:m:65 1D5BF:m:66 1D5C0:m:67 1D5C1:m:68 1D5C2:m:69 1D5C3:m:6A 1D5C4:m:6B 1D5C5:m:6C",
    "1D5C6:m:6D 1D5C7:m:6E 1D5C8:m:6F 1D5C9:m:70 1D5CA:m:71 1D5CB:m:72 1D5CC:m:73 1D5CD:m:74",
    "1D5CE:m:75 1D5CF:m:76 1D5D0:m:77 1D5D1:m:78 1D5D2:m:79 1D5D3:m:7A 1D5D4:m:61 1D5D5:m:62",
    "1D5D6:m:63 1D5D7:m:64 1D5D8:m:65 1D5D9:m:66 1D5DA:m:67 1D5DB:m:68 1D5DC:m:69 1D5DD:m:6A",
    "1D5DE:m:6B 1D5DF:m:6C 1D5E0:m:6D 1D5E1:m:6E 1D5E2:m:6F 1D5E3:m:70 1D5E4:m:71 1D5E5:m:72",
    "1D5E6:m:73 1D5E7:m:74 1D5E8:m:75 1D5E9:m:76 1D5EA:m:77 1D5EB:m:78 1D5EC:m:79 1D5ED:m:7A",
    "1D5EE:m:61 1D5EF:m:62 1D5F0:m:63 1D5F1:m:64 1D5F2:m:65 1D5F3:m:66 1D5F4:m:67 1D5F5:m:68",
    "1D5F6:m:69 1D5F7:m:6A 1D5F8:m:6B 1D5F9:m:6C 1D5FA:m:6D 1D5FB:m:6E 1D5FC:m:6F 1D5FD:m:70",
    "1D5FE:m:71 1D5FF:m:72 1D600:m:73 1D601:m:74 1D602:m:75 1D603:m:76 1D604:m:77 1D605:m:78",
    "1D606:m:79 1D607:m:7A 1D608:m:61 1D609:m:62 1D60A:m:63 1D60B:m:64 1D60C:m:65 1D60D:m:66",
    "1D60E:m:67 1D60F:m:68 1D610:m:69 1D611:m:6A 1D612:m:6B 1D613:m:6C 1D614:m:6D 1D615:m:6E",
    "1D616:m:6F 1D617:m:70 1D618:m:71 1D619:m:72 1D61A:m:73 1D61B:m:74 1D61C:m:75 1D61D:m:76",
    "1D61E:m:77 1D61F:m:78 1D620:m:79 1D621:m:7A 1D622:m:61 1D623:m:62 1D624:m:63 1D625:m:64",
    "1D626:m:65 1D627:m:66 1D628:m:67 1D629:m:68 1D62A:m:69 1D62B:m:6A 1D62C:m:6B 1D62D:m:6C",
    "1D62E:m:6D 1D62F:m:6E 1D630:m:6F 1D631:m:70 1D632:m:71 1D633:m:72 1D634:m:73 1D635:m:74",
    "1D636:m:75 1D637:m:76 1D638:m:77 1D639:m:78 1D63A:m:79 1D63B:m:7A 1D63C:m:61 1D63D:m:62",
    "1D63E:m:63 1D63F:m:64 1D640:m:65 1D641:m:66 1D642:m:67 1D643:m:68 1D644:m:69 1D645:m:6A",
    "1D646:m:6B 1D647:m:6C 1D648:m:6D 1D649:m:6E 1D64A:m:6F 1D64B:m:70 1D64C:m:71 1D64D:m:72",
    "1D64E:m:73 1D64F:m:74 1D650:m:75 1D651:m:76 1D652:m:77 1D653:m:78 1D654:m:79 1D655:m:7A",
    "1D656:m:61 1D657:m:62 1D658:m:63 1D659:m:64 1D65A:m:65 1D65B:m:66 1D65C:m:67 1D65D:m:68",
    "1D65E:m:69 1D65F:m:6A 1D660:m:6B 1D661:m:6C 1D662:m:6D 1D663:m:6E 1D664:m:6F 1D665:m:70",
    "1D666:m:71 1D667:m:72 1D668:m:73 1D669:m:74 1D66A:m:75 1D66B:m:76 1D66C:m:77 1D66D:m:78",
    "1D66E:m:79 1D66F:m:7A 1D670:m:61 1D671:m:62 1D672:m:63 1D673:m:64 1D674:m:65 1D675:m:66",
    "1D676:m:67 1D677:m:68 1D678:m:69 1D679:m:6A 1D67A:m:6B 1D67B:m:6C 1D67C:m:6D 1D67D:m:6E",
    "1D67E:m:6F 1D67F:m:70 1D680:m:71 1D681:m:72 1D682:m:73 1D683:m:74 1D684:m:75 1D685:m:76",
    "1D686:m:77 1D687:m:78 1D688:m:79 1D689:m:7A 1D68A:m:61 1D68B:m:62 1D68C:m:63 1D68D:m:64",
    "1D68E:m:65 1D68F:m:66 1D690:m:67 1D691:m:68 1D692:m:69 1D693:m:6A 1D694:m:6B 1D695:m:6C",
    "1D696:m:6D 1D697:m:6E 1D698:m:6F 1D699:m:70 1D69A:m:71 1D69B:m:72 1D69C:m:73 1D69D:m:74",
    "1D69E:m:75 1D69F:m:76 1D6A0:m:77 1D6A1:m:78 1D6A2:m:79 1D6A3:m:7A 1D6A4:m:131 1D6A5:m:237",
    "1D6A6:x 1D6A8:m:3B1 1D6A9:m:3B2 1D6AA:m:3B3 1D6AB:m:3B4 1D6AC:m:3B5 1D6AD:m:3B6 1D6AE:m:3B7",
    "1D6AF:m:3B8 1D6B0:m:3B9 1D6B1:m:3BA 1D6B2:m:3BB 1D6B3:m:3BC 1D6B4:m:3BD 1D6B5:m:3BE",
    "1D6B6:m:3BF 1D6B7:m:3C0 1D6B8:m:3C1 1D6B9:m:3B8 1D6BA:m:3C3 1D6BB:m:3C4 1D6BC:m:3C5",
    "1D6BD:m:3C6 1D6BE:m:3C7 1D6BF:m:3C8 1D6C0:m:3C9 1D6C1:m:2207 1D6C2:m:3B1 1D6C3:m:3B2",
    "1D6C4:m:3B3 1D6C5:m:3B4 1D6C6:m:3B5 1D6C7:m:3B6 1D6C8:m:3B7 1D6C9:m:3B8 1D6CA:m:3B9",
    "1D6CB:m:3BA 1D6CC:m:3BB 1D6CD:m:3BC 1D6CE:m:3BD 1D6CF:m:3BE 1D6D0:m:3BF 1D6D1:m:3C0",
    "1D6D2:m:3C1 1D6D3:m:3C3 1D6D5:m:3C4 1D6D6:m:3C5 1D6D7:m:3C6 1D6D8:m:3C7 1D6D9:m:3C8",
    "1D6DA:m:3C9 1D6DB:m:2202 1D6DC:m:3B5 1D6DD:m:3B8 1D6DE:m:3BA 1D6DF:m:3C6 1D6E0:m:3C1",
    "1D6E1:m:3C0 1D6E2:m:3B1 1D6E3:m:3B2 1D6E4:m:3B3 1D6E5:m:3B4 1D6E6:m:3B5 1D6E7:m:3B6",
    "1D6E8:m:3B7 1D6E9:m:3B8 1D6EA:m:3B9 1D6EB:m:3BA 1D6EC:m:3BB 1D6ED:m:3BC 1D6EE:m:3BD",
    "1D6EF:m:3BE 1D6F0:m:3BF 1D6F1:m:3C0 1D6F2:m:3C1 1D6F3:m:3B8 1D6F4:m:3C3 1D6F5:m:3C4",
    "1D6F6:m:3C5 1D6F7:m:3C6 1D6F8:m:3C7 1D6F9:m:3C8 1D6FA:m:3C9 1D6FB:m:2207 1D6FC:m:3B1",
    "1D6FD:m:3B2 1D6FE:m:3B3 1D6FF:m:3B4 1D700:m:3B5 1D701:m:3B6 1D702:m:3B7 1D703:m:3B8",
    "1D704:m:3B9 1D705:m:3BA 1D706:m:3BB 1D707:m:3BC 1D708:m:3BD 1D709:m:3BE 1D70A:m:3BF",
    "1D70B:m:3C0 1D70C:m:3C1 1D70D:m:3C3 1D70F:m:3C4 1D710:m:3C5 1D711:m:3C6 1D712:m:3C7",
    "1D713:m:3C8 1D714:m:3C9 1D715:m:2202 1D716:m:3B5 1D717:m:3B8 1D718:m:3BA 1D719:m:3C6",
    "1D71A:m:3C1 1D71B:m:3C0 1D71C:m:3B1 1D71D:m:3B2 1D71E:m:3B3 1D71F:m:3B4 1D720:m:3B5",
    "1D721:m:3B6 1D722:m:3B7 1D723:m:3B8 1D724:m:3B9 1D725:m:3BA 1D726:m:3BB 1D727:m:3BC",
    "1D728:m:3BD 1D729:m:3BE 1D72A:m:3BF 1D72B:m:3C0 1D72C:m:3C1 1D72D:m:3B8 1D72E:m:3C3",
    "1D72F:m:3C4 1D730:m:3C5 1D731:m:3C6 1D732:m:3C7 1D733:m:3C8 1D734:m:3C9 1D735:m:2207",
    "1D736:m:3B1 1D737:m:3B2 1D738:m:3B3 1D739:m:3B4 1D73A:m:3B5 1D73B:m:3B6 1D73C:m:3B7",
    "1D73D:m:3B8 1D73E:m:3B9 1D73F:m:3BA 1D740:m:3BB 1D741:m:3BC 1D742:m:3BD 1D743:m:3BE",
    "1D744:m:3BF 1D745:m:3C0 1D746:m:3C1 1D747:m:3C3 1D749:m:3C4 1D74A:m:3C5 1D74B:m:3C6",
    "1D74C:m:3C7 1D74D:m:3C8 1D74E:m:3C9 1D74F:m:2202 1D750:m:3B5 1D751:m:3B8 1D752:m:3BA",
    "1D753:m:3C6 1D754:m:3C1 1D755:m:3C0 1D756:m:3B1 1D757:m:3B2 1D758:m:3B3 1D759:m:3B4",
    "1D75A:m:3B5 1D75B:m:3B6 1D75C:m:3B7 1D75D:m:3B8 1D75E:m:3B9 1D75F:m:3BA 1D760:m:3BB",
    "1D761:m:3BC 1D762:m:3BD 1D763:m:3BE 1D764:m:3BF 1D765:m:3C0 1D766:m:3C1 1D767:m:3B8",
    "1D768:m:3C3 1D769:m:3C4 1D76A:m:3C5 1D76B:m:3C6 1D76C:m:3C7 1D76D:m:3C8 1D76E:m:3C9",
    "1D76F:m:2207 1D770:m:3B1 1D771:m:3B2 1D772:m:3B3 1D773:m:3B4 1D774:m:3B5 1D775:m:3B6",
    "1D776:m:3B7 1D777:m:3B8 1D778:m:3B9 1D779:m:3BA 1D77A:m:3BB 1D77B:m:3BC 1D77C:m:3BD",
    "1D77D:m:3BE 1D77E:m:3BF 1D77F:m:3C0 1D780:m:3C1 1D781:m:3C3 1D783:m:3C4 1D784:m:3C5",
    "1D785:m:3C6 1D786:m:3C7 1D787:m:3C8 1D788:m:3C9 1D789:m:2202 1D78A:m:3B5 1D78B:m:3B8",
    "1D78C:m:3BA 1D78D:m:3C6 1D78E:m:3C1 1D78F:m:3C0 1D790:m:3B1 1D791:m:3B2 1D792:m:3B3",
    "1D793:m:3B4 1D794:m:3B5 1D795:m:3B6 1D796:m:3B7 1D797:m:3B8 1D798:m:3B9 1D799:m:3BA",
    "1D79A:m:3BB 1D79B:m:3BC 1D79C:m:3BD 1D79D:m:3BE 1D79E:m:3BF 1D79F:m:3C0 1D7A0:m:3C1",
    "1D7A1:m:3B8 1D7A2:m:3C3 1D7A3:m:3C4 1D7A4:m:3C5 1D7A5:m:3C6 1D7A6:m:3C7 1D7A7:m:3C8",
    "1D7A8:m:3C9 1D7A9:m:2207 1D7AA:m:3B1 1D7AB:m:3B2 1D7AC:m:3B3 1D7AD:m:3B4 1D7AE:m:3B5",
    "1D7AF:m:3B6 1D7B0:m:3B7 1D7B1:m:3B8 1D7B2:m:3B9 1D7B3:m:3BA 1D7B4:m:3BB 1D7B5:m:3BC",
    "1D7B6:m:3BD 1D7B7:m:3BE 1D7B8:m:3BF 1D7B9:m:3C0 1D7BA:m:3C1 1D7BB:m:3C3 1D7BD:m:3C4",
    "1D7BE:m:3C5 1D7BF:m:3C6 1D7C0:m:3C7 1D7C1:m:3C8 1D7C2:m:3C9 1D7C3:m:2202 1D7C4:m:3B5",
    "1D7C5:m:3B8 1D7C6:m:3BA 1D7C7:m:3C6 1D7C8:m:3C1 1D7C9:m:3C0 1D7CA:m:3DD 1D7CC:x 1D7CE:m:30",
    "1D7CF:m:31 1D7D0:m:32 1D7D1:m:33 1D7D2:m:34 1D7D3:m:35 1D7D4:m:36 1D7D5:m:37 1D7D6:m:38",
    "1D7D7:m:39 1D7D8:m:30 1D7D9:m:31 1D7DA:m:32 1D7DB:m:33 1D7DC:m:34 1D7DD:m:35 1D7DE:m:36",
    "1D7DF:m:37 1D7E0:m:38 1D7E1:m:39 1D7E2:m:30 1D7E3:m:31 1D7E4:m:32 1D7E5:m:33 1D7E6:m:34",
    "1D7E7:m:35 1D7E8:m:36 1D7E9:m:37 1D7EA:m:38 1D7EB:m:39 1D7EC:m:30 1D7ED:m:31 1D7EE:m:32",
    "1D7EF:m:33 1D7F0:m:34 1D7F1:m:35 1D7F2:m:36 1D7F3:m:37 1D7F4:m:38 1D7F5:m:39 1D7F6:m:30",
    "1D7F7:m:31 1D7F8:m:32 1D7F9:m:33 1D7FA:m:34 1D7FB:m:35 1D7FC:m:36 1D7FD:m:37 1D7FE:m:38",
    "1D7FF:m:39 1D800:v 1DA8C:x 1DA9B:v 1DAA0:x 1DAA1:v 1DAB0:x 1DF00:v 1DF1F:x 1DF25:v 1DF2B:x",
    "1E000:v 1E007:x 1E008:v 1E019:x 1E01B:v 1E022:x 1E023:v 1E025:x 1E026:v 1E02B:x 1E030:m:430",
    "1E031:m:431 1E032:m:432 1E033:m:433 1E034:m:434 1E035:m:435 1E036:m:436 1E037:m:437",
    "1E038:m:438 1E039:m:43A 1E03A:m:43B 1E03B:m:43C 1E03C:m:43E 1E03D:m:43F 1E03E:m:440",
    "1E03F:m:441 1E040:m:442 1E041:m:443 1E042:m:444 1E043:m:445 1E044:m:446 1E045:m:447",
    "1E046:m:448 1E047:m:44B 1E048:m:44D 1E049:m:44E 1E04A:m:A689 1E04B:m:4D9 1E04C:m:456",
    "1E04D:m:458 1E04E:m:4E9 1E04F:m:4AF 1E050:m:4CF 1E051:m:430 1E052:m:431 1E053:m:432",
    "1E054:m:433 1E055:m:434 1E056:m:435 1E057:m:436 1E058:m:437 1E059:m:438 1E05A:m:43A",
    "1E05B:m:43B 1E05C:m:43E 1E05D:m:43F 1E05E:m:441 1E05F:m:443 1E060:m:444 1E061:m:445",
    "1E062:m:446 1E063:m:447 1E064:m:448 1E065:m:44A 1E066:m:44B 1E067:m:491 1E068:m:456",
    "1E069:m:455 1E06A:m:45F 1E06B:m:4AB 1E06C:m:A651 1E06D:m:4B1 1E06E:x 1E08F:v 1E090:x 1E100:v",
    "1E12D:x 1E130:v 1E13E:x 1E140:v 1E14A:x 1E14E:v 1E150:x 1E290:v 1E2AF:x 1E2C0:v 1E2FA:x",
    "1E2FF:v 1E300:x 1E4D0:v 1E4FA:x 1E5D0:v 1E5FB:x 1E5FF:v 1E600:x 1E6C0:v 1E6DF:x 1E6E0:v",
    "1E6F6:x 1E6FE:v 1E700:x 1E7E0:v 1E7E7:x 1E7E8:v 1E7EC:x 1E7ED:v 1E7EF:x 1E7F0:v 1E7FF:x",
    "1E800:v 1E8C5:x 1E8C7:v 1E8D7:x 1E900:m:1E922 1E901:m:1E923 1E902:m:1E924 1E903:m:1E925",
    "1E904:m:1E926 1E905:m:1E927 1E906:m:1E928 1E907:m:1E929 1E908:m:1E92A 1E909:m:1E92B",
    "1E90A:m:1E92C 1E90B:m:1E92D 1E90C:m:1E92E 1E90D:m:1E92F 1E90E:m:1E930 1E90F:m:1E931",
    "1E910:m:1E932 1E911:m:1E933 1E912:m:1E934 1E913:m:1E935 1E914:m:1E936 1E915:m:1E937",
    "1E916:m:1E938 1E917:m:1E939 1E918:m:1E93A 1E919:m:1E93B 1E91A:m:1E93C 1E91B:m:1E93D",
    "1E91C:m:1E93E 1E91D:m:1E93F 1E91E:m:1E940 1E91F:m:1E941 1E920:m:1E942 1E921:m:1E943 1E922:v",
    "1E94C:x 1E950:v 1E95A:x 1E95E:v 1E960:x 1EC71:v 1ECB5:x 1ED01:v 1ED3E:x 1EE00:m:627",
    "1EE01:m:628 1EE02:m:62C 1EE03:m:62F 1EE04:x 1EE05:m:648 1EE06:m:632 1EE07:m:62D 1EE08:m:637",
    "1EE09:m:64A 1EE0A:m:643 1EE0B:m:644 1EE0C:m:645 1EE0D:m:646 1EE0E:m:633 1EE0F:m:639",
    "1EE10:m:641 1EE11:m:635 1EE12:m:642 1EE13:m:631 1EE14:m:634 1EE15:m:62A 1EE16:m:62B",
    "1EE17:m:62E 1EE18:m:630 1EE19:m:636 1EE1A:m:638 1EE1B:m:63A 1EE1C:m:66E 1EE1D:m:6BA",
    "1EE1E:m:6A1 1EE1F:m:66F 1EE20:x 1EE21:m:628 1EE22:m:62C 1EE23:x 1EE24:m:647 1EE25:x",
    "1EE27:m:62D 1EE28:x 1EE29:m:64A 1EE2A:m:643 1EE2B:m:644 1EE2C:m:645 1EE2D:m:646 1EE2E:m:633",
    "1EE2F:m:639 1EE30:m:641 1EE31:m:635 1EE32:m:642 1EE33:x 1EE34:m:634 1EE35:m:62A 1EE36:m:62B",
    "1EE37:m:62E 1EE38:x 1EE39:m:636 1EE3A:x 1EE3B:m:63A 1EE3C:x 1EE42:m:62C 1EE43:x 1EE47:m:62D",
    "1EE48:x 1EE49:m:64A 1EE4A:x 1EE4B:m:644 1EE4C:x 1EE4D:m:646 1EE4E:m:633 1EE4F:m:639 1EE50:x",
    "1EE51:m:635 1EE52:m:642 1EE53:x 1EE54:m:634 1EE55:x 1EE57:m:62E 1EE58:x 1EE59:m:636 1EE5A:x",
    "1EE5B:m:63A 1EE5C:x 1EE5D:m:6BA 1EE5E:x 1EE5F:m:66F 1EE60:x 1EE61:m:628 1EE62:m:62C 1EE63:x",
    "1EE64:m:647 1EE65:x 1EE67:m:62D 1EE68:m:637 1EE69:m:64A 1EE6A:m:643 1EE6B:x 1EE6C:m:645",
    "1EE6D:m:646 1EE6E:m:633 1EE6F:m:639 1EE70:m:641 1EE71:m:635 1EE72:m:642 1EE73:x 1EE74:m:634",
    "1EE75:m:62A 1EE76:m:62B 1EE77:m:62E 1EE78:x 1EE79:m:636 1EE7A:m:638 1EE7B:m:63A 1EE7C:m:66E",
    "1EE7D:x 1EE7E:m:6A1 1EE7F:x 1EE80:m:627 1EE81:m:628 1EE82:m:62C 1EE83:m:62F 1EE84:m:647",
    "1EE85:m:648 1EE86:m:632 1EE87:m:62D 1EE88:m:637 1EE89:m:64A 1EE8A:x 1EE8B:m:644 1EE8C:m:645",
    "1EE8D:m:646 1EE8E:m:633 1EE8F:m:639 1EE90:m:641 1EE91:m:635 1EE92:m:642 1EE93:m:631",
    "1EE94:m:634 1EE95:m:62A 1EE96:m:62B 1EE97:m:62E 1EE98:m:630 1EE99:m:636 1EE9A:m:638",
    "1EE9B:m:63A 1EE9C:x 1EEA1:m:628 1EEA2:m:62C 1EEA3:m:62F 1EEA4:x 1EEA5:m:648 1EEA6:m:632",
    "1EEA7:m:62D 1EEA8:m:637 1EEA9:m:64A 1EEAA:x 1EEAB:m:644 1EEAC:m:645 1EEAD:m:646 1EEAE:m:633",
    "1EEAF:m:639 1EEB0:m:641 1EEB1:m:635 1EEB2:m:642 1EEB3:m:631 1EEB4:m:634 1EEB5:m:62A",
    "1EEB6:m:62B 1EEB7:m:62E 1EEB8:m:630 1EEB9:m:636 1EEBA:m:638 1EEBB:m:63A 1EEBC:x 1EEF0:v",
    "1EEF2:x 1F000:v 1F02C:x 1F030:v 1F094:x 1F0A0:v 1F0AF:x 1F0B1:v 1F0C0:x 1F0C1:v 1F0D0:x",
    "1F0D1:v 1F0F6:x 1F101:m:30,2C 1F102:m:31,2C 1F103:m:32,2C 1F104:m:33,2C 1F105:m:34,2C",
    "1F106:m:35,2C 1F107:m:36,2C 1F108:m:37,2C 1F109:m:38,2C 1F10A:m:39,2C 1F10B:v",
    "1F110:m:28,61,29 1F111:m:28,62,29 1F112:m:28,63,29 1F113:m:28,64,29 1F114:m:28,65,29",
    "1F115:m:28,66,29 1F116:m:28,67,29 1F117:m:28,68,29 1F118:m:28,69,29 1F119:m:28,6A,29",
    "1F11A:m:28,6B,29 1F11B:m:28,6C,29 1F11C:m:28,6D,29 1F11D:m:28,6E,29 1F11E:m:28,6F,29",
    "1F11F:m:28,70,29 1F120:m:28,71,29 1F121:m:28,72,29 1F122:m:28,73,29 1F123:m:28,74,29",
    "1F124:m:28,75,29 1F125:m:28,76,29 1F126:m:28,77,29 1F127:m:28,78,29 1F128:m:28,79,29",
    "1F129:m:28,7A,29 1F12A:m:3014,73,3015 1F12B:m:63 1F12C:m:72 1F12D:m:63,64 1F12E:m:77,7A",
    "1F12F:v 1F130:m:61 1F131:m:62 1F132:m:63 1F133:m:64 1F134:m:65 1F135:m:66 1F136:m:67",
    "1F137:m:68 1F138:m:69 1F139:m:6A 1F13A:m:6B 1F13B:m:6C 1F13C:m:6D 1F13D:m:6E 1F13E:m:6F",
    "1F13F:m:70 1F140:m:71 1F141:m:72 1F142:m:73 1F143:m:74 1F144:m:75 1F145:m:76 1F146:m:77",
    "1F147:m:78 1F148:m:79 1F149:m:7A 1F14A:m:68,76 1F14B:m:6D,76 1F14C:m:73,64 1F14D:m:73,73",
    "1F14E:m:70,70,76 1F14F:m:77,63 1F150:v 1F16A:m:6D,63 1F16B:m:6D,64 1F16C:m:6D,72 1F16D:v",
    "1F190:m:64,6A 1F191:v 1F1AE:x 1F1E6:v 1F200:m:307B,304B 1F201:m:30B3,30B3 1F202:m:30B5",
    "1F203:x 1F210:m:624B 1F211:m:5B57 1F212:m:53CC 1F213:m:30C7 1F214:m:4E8C 1F215:m:591A",
    "1F216:m:89E3 1F217:m:5929 1F218:m:4EA4 1F219:m:6620 1F21A:m:7121 1F21B:m:6599 1F21C:m:524D",
    "1F21D:m:5F8C 1F21E:m:518D 1F21F:m:65B0 1F220:m:521D 1F221:m:7D42 1F222:m:751F 1F223:m:8CA9",
    "1F224:m:58F0 1F225:m:5439 1F226:m:6F14 1F227:m:6295 1F228:m:6355 1F229:m:4E00 1F22A:m:4E09",
    "1F22B:m:904A 1F22C:m:5DE6 1F22D:m:4E2D 1F22E:m:53F3 1F22F:m:6307 1F230:m:8D70 1F231:m:6253",
    "1F232:m:7981 1F233:m:7A7A 1F234:m:5408 1F235:m:6E80 1F236:m:6709 1F237:m:6708 1F238:m:7533",
    "1F239:m:5272 1F23A:m:55B6 1F23B:m:914D 1F23C:x 1F240:m:3014,672C,3015 1F241:m:3014,4E09,3015",
    "1F242:m:3014,4E8C,3015 1F243:m:3014,5B89,3015 1F244:m:3014,70B9,3015 1F245:m:3014,6253,3015",
    "1F246:m:3014,76D7,3015 1F247:m:3014,52DD,3015 1F248:m:3014,6557,3015 1F249:x 1F250:m:5F97",
    "1F251:m:53EF 1F252:x 1F260:v 1F266:x 1F300:v 1F6D9:x 1F6DC:v 1F6ED:x 1F6F0:v 1F6FD:x 1F700:v",
    "1F7DA:x 1F7E0:v 1F7EC:x 1F7F0:v 1F7F1:x 1F800:v 1F80C:x 1F810:v 1F848:x 1F850:v 1F85A:x",
    "1F860:v 1F888:x 1F890:v 1F8AE:x 1F8B0:v 1F8BC:x 1F8C0:v 1F8C2:x 1F8D0:v 1F8D9:x 1F900:v",
    "1FA58:x 1FA60:v 1FA6E:x 1FA70:v 1FA7D:x 1FA80:v 1FA8B:x 1FA8E:v 1FAC7:x 1FAC8:v 1FAC9:x",
    "1FACD:v 1FADD:x 1FADF:v 1FAEB:x 1FAEF:v 1FAF9:x 1FB00:v 1FB93:x 1FB94:v 1FBF0:m:30 1FBF1:m:31",
    "1FBF2:m:32 1FBF3:m:33 1FBF4:m:34 1FBF5:m:35 1FBF6:m:36 1FBF7:m:37 1FBF8:m:38 1FBF9:m:39",
    "1FBFA:v 1FBFB:x 20000:v 2A6E0:x 2A700:v 2B81E:x 2B820:v 2CEAE:x 2CEB0:v 2EBE1:x 2EBF0:v",
    "2EE5E:x 2F800:m:4E3D 2F801:m:4E38 2F802:m:4E41 2F803:m:20122 2F804:m:4F60 2F805:m:4FAE",
    "2F806:m:4FBB 2F807:m:5002 2F808:m:507A 2F809:m:5099 2F80A:m:50E7 2F80B:m:50CF 2F80C:m:349E",
    "2F80D:m:2063A 2F80E:m:514D 2F80F:m:5154 2F810:m:5164 2F811:m:5177 2F812:m:2051C 2F813:m:34B9",
    "2F814:m:5167 2F815:m:518D 2F816:m:2054B 2F817:m:5197 2F818:m:51A4 2F819:m:4ECC 2F81A:m:51AC",
    "2F81B:m:51B5 2F81C:m:291DF 2F81D:m:51F5 2F81E:m:5203 2F81F:m:34DF 2F820:m:523B 2F821:m:5246",
    "2F822:m:5272 2F823:m:5277 2F824:m:3515 2F825:m:52C7 2F826:m:52C9 2F827:m:52E4 2F828:m:52FA",
    "2F829:m:5305 2F82A:m:5306 2F82B:m:5317 2F82C:m:5349 2F82D:m:5351 2F82E:m:535A 2F82F:m:5373",
    "2F830:m:537D 2F831:m:537F 2F834:m:20A2C 2F835:m:7070 2F836:m:53CA 2F837:m:53DF 2F838:m:20B63",
    "2F839:m:53EB 2F83A:m:53F1 2F83B:m:5406 2F83C:m:549E 2F83D:m:5438 2F83E:m:5448 2F83F:m:5468",
    "2F840:m:54A2 2F841:m:54F6 2F842:m:5510 2F843:m:5553 2F844:m:5563 2F845:m:5584 2F847:m:5599",
    "2F848:m:55AB 2F849:m:55B3 2F84A:m:55C2 2F84B:m:5716 2F84C:m:5606 2F84D:m:5717 2F84E:m:5651",
    "2F84F:m:5674 2F850:m:5207 2F851:m:58EE 2F852:m:57CE 2F853:m:57F4 2F854:m:580D 2F855:m:578B",
    "2F856:m:5832 2F857:m:5831 2F858:m:58AC 2F859:m:214E4 2F85A:m:58F2 2F85B:m:58F7 2F85C:m:5906",
    "2F85D:m:591A 2F85E:m:5922 2F85F:m:5962 2F860:m:216A8 2F861:m:216EA 2F862:m:59EC 2F863:m:5A1B",
    "2F864:m:5A27 2F865:m:59D8 2F866:m:5A66 2F867:m:36EE 2F868:m:36FC 2F869:m:5B08 2F86A:m:5B3E",
    "2F86C:m:219C8 2F86D:m:5BC3 2F86E:m:5BD8 2F86F:m:5BE7 2F870:m:5BF3 2F871:m:21B18 2F872:m:5BFF",
    "2F873:m:5C06 2F874:m:5F53 2F875:m:5C22 2F876:m:3781 2F877:m:5C60 2F878:m:5C6E 2F879:m:5CC0",
    "2F87A:m:5C8D 2F87B:m:21DE4 2F87C:m:5D43 2F87D:m:21DE6 2F87E:m:5D6E 2F87F:m:5D6B 2F880:m:5D7C",
    "2F881:m:5DE1 2F882:m:5DE2 2F883:m:382F 2F884:m:5DFD 2F885:m:5E28 2F886:m:5E3D 2F887:m:5E69",
    "2F888:m:3862 2F889:m:22183 2F88A:m:387C 2F88B:m:5EB0 2F88C:m:5EB3 2F88D:m:5EB6 2F88E:m:5ECA",
    "2F88F:m:2A392 2F890:m:5EFE 2F891:m:22331 2F893:m:8201 2F894:m:5F22 2F896:m:38C7 2F897:m:232B8",
    "2F898:m:261DA 2F899:m:5F62 2F89A:m:5F6B 2F89B:m:38E3 2F89C:m:5F9A 2F89D:m:5FCD 2F89E:m:5FD7",
    "2F89F:m:5FF9 2F8A0:m:6081 2F8A1:m:393A 2F8A2:m:391C 2F8A3:m:6094 2F8A4:m:226D4 2F8A5:m:60C7",
    "2F8A6:m:6148 2F8A7:m:614C 2F8A8:m:614E 2F8A9:m:614C 2F8AA:m:617A 2F8AB:m:618E 2F8AC:m:61B2",
    "2F8AD:m:61A4 2F8AE:m:61AF 2F8AF:m:61DE 2F8B0:m:61F2 2F8B1:m:61F6 2F8B2:m:6210 2F8B3:m:621B",
    "2F8B4:m:625D 2F8B5:m:62B1 2F8B6:m:62D4 2F8B7:m:6350 2F8B8:m:22B0C 2F8B9:m:633D 2F8BA:m:62FC",
    "2F8BB:m:6368 2F8BC:m:6383 2F8BD:m:63E4 2F8BE:m:22BF1 2F8BF:m:6422 2F8C0:m:63C5 2F8C1:m:63A9",
    "2F8C2:m:3A2E 2F8C3:m:6469 2F8C4:m:647E 2F8C5:m:649D 2F8C6:m:6477 2F8C7:m:3A6C 2F8C8:m:654F",
    "2F8C9:m:656C 2F8CA:m:2300A 2F8CB:m:65E3 2F8CC:m:66F8 2F8CD:m:6649 2F8CE:m:3B19 2F8CF:m:6691",
    "2F8D0:m:3B08 2F8D1:m:3AE4 2F8D2:m:5192 2F8D3:m:5195 2F8D4:m:6700 2F8D5:m:669C 2F8D6:m:80AD",
    "2F8D7:m:43D9 2F8D8:m:6717 2F8D9:m:671B 2F8DA:m:6721 2F8DB:m:675E 2F8DC:m:6753 2F8DD:m:233C3",
    "2F8DE:m:3B49 2F8DF:m:67FA 2F8E0:m:6785 2F8E1:m:6852 2F8E2:m:6885 2F8E3:m:2346D 2F8E4:m:688E",
    "2F8E5:m:681F 2F8E6:m:6914 2F8E7:m:3B9D 2F8E8:m:6942 2F8E9:m:69A3 2F8EA:m:69EA 2F8EB:m:6AA8",
    "2F8EC:m:236A3 2F8ED:m:6ADB 2F8EE:m:3C18 2F8EF:m:6B21 2F8F0:m:238A7 2F8F1:m:6B54 2F8F2:m:3C4E",
    "2F8F3:m:6B72 2F8F4:m:6B9F 2F8F5:m:6BBA 2F8F6:m:6BBB 2F8F7:m:23A8D 2F8F8:m:21D0B 2F8F9:m:23AFA",
    "2F8FA:m:6C4E 2F8FB:m:23CBC 2F8FC:m:6CBF 2F8FD:m:6CCD 2F8FE:m:6C67 2F8FF:m:6D16 2F900:m:6D3E",
    "2F901:m:6D77 2F902:m:6D41 2F903:m:6D69 2F904:m:6D78 2F905:m:6D85 2F906:m:23D1E 2F907:m:6D34",
    "2F908:m:6E2F 2F909:m:6E6E 2F90A:m:3D33 2F90B:m:6ECB 2F90C:m:6EC7 2F90D:m:23ED1 2F90E:m:6DF9",
    "2F90F:m:6F6E 2F910:m:23F5E 2F911:m:23F8E 2F912:m:6FC6 2F913:m:7039 2F914:m:701E 2F915:m:701B",
    "2F916:m:3D96 2F917:m:704A 2F918:m:707D 2F919:m:7077 2F91A:m:70AD 2F91B:m:20525 2F91C:m:7145",
    "2F91D:m:24263 2F91E:m:719C 2F91F:m:243AB 2F920:m:7228 2F921:m:7235 2F922:m:7250 2F923:m:24608",
    "2F924:m:7280 2F925:m:7295 2F926:m:24735 2F927:m:24814 2F928:m:737A 2F929:m:738B 2F92A:m:3EAC",
    "2F92B:m:73A5 2F92C:m:3EB8 2F92E:m:7447 2F92F:m:745C 2F930:m:7471 2F931:m:7485 2F932:m:74CA",
    "2F933:m:3F1B 2F934:m:7524 2F935:m:24C36 2F936:m:753E 2F937:m:24C92 2F938:m:7570 2F939:m:2219F",
    "2F93A:m:7610 2F93B:m:24FA1 2F93C:m:24FB8 2F93D:m:25044 2F93E:m:3FFC 2F93F:m:4008 2F940:m:76F4",
    "2F941:m:250F3 2F942:m:250F2 2F943:m:25119 2F944:m:25133 2F945:m:771E 2F946:m:771F",
    "2F948:m:774A 2F949:m:4039 2F94A:m:778B 2F94B:m:4046 2F94C:m:4096 2F94D:m:2541D 2F94E:m:784E",
    "2F94F:m:788C 2F950:m:78CC 2F951:m:40E3 2F952:m:25626 2F953:m:7956 2F954:m:2569A 2F955:m:256C5",
    "2F956:m:798F 2F957:m:79EB 2F958:m:412F 2F959:m:7A40 2F95A:m:7A4A 2F95B:m:7A4F 2F95C:m:2597C",
    "2F95D:m:25AA7 2F95F:m:7AEE 2F960:m:4202 2F961:m:25BAB 2F962:m:7BC6 2F963:m:7BC9 2F964:m:4227",
    "2F965:m:25C80 2F966:m:7CD2 2F967:m:42A0 2F968:m:7CE8 2F969:m:7CE3 2F96A:m:7D00 2F96B:m:25F86",
    "2F96C:m:7D63 2F96D:m:4301 2F96E:m:7DC7 2F96F:m:7E02 2F970:m:7E45 2F971:m:4334 2F972:m:26228",
    "2F973:m:26247 2F974:m:4359 2F975:m:262D9 2F976:m:7F7A 2F977:m:2633E 2F978:m:7F95 2F979:m:7FFA",
    "2F97A:m:8005 2F97B:m:264DA 2F97C:m:26523 2F97D:m:8060 2F97E:m:265A8 2F97F:m:8070",
    "2F980:m:2335F 2F981:m:43D5 2F982:m:80B2 2F983:m:8103 2F984:m:440B 2F985:m:813E 2F986:m:5AB5",
    "2F987:m:267A7 2F988:m:267B5 2F989:m:23393 2F98A:m:2339C 2F98B:m:8201 2F98C:m:8204",
    "2F98D:m:8F9E 2F98E:m:446B 2F98F:m:8291 2F990:m:828B 2F991:m:829D 2F992:m:52B3 2F993:m:82B1",
    "2F994:m:82B3 2F995:m:82BD 2F996:m:82E6 2F997:m:26B3C 2F998:m:82E5 2F999:m:831D 2F99A:m:8363",
    "2F99B:m:83AD 2F99C:m:8323 2F99D:m:83BD 2F99E:m:83E7 2F99F:m:8457 2F9A0:m:8353 2F9A1:m:83CA",
    "2F9A2:m:83CC 2F9A3:m:83DC 2F9A4:m:26C36 2F9A5:m:26D6B 2F9A6:m:26CD5 2F9A7:m:452B 2F9A8:m:84F1",
    "2F9A9:m:84F3 2F9AA:m:8516 2F9AB:m:273CA 2F9AC:m:8564 2F9AD:m:26F2C 2F9AE:m:455D 2F9AF:m:4561",
    "2F9B0:m:26FB1 2F9B1:m:270D2 2F9B2:m:456B 2F9B3:m:8650 2F9B4:m:865C 2F9B5:m:8667 2F9B6:m:8669",
    "2F9B7:m:86A9 2F9B8:m:8688 2F9B9:m:870E 2F9BA:m:86E2 2F9BB:m:8779 2F9BC:m:8728 2F9BD:m:876B",
    "2F9BE:m:8786 2F9BF:m:45D7 2F9C0:m:87E1 2F9C1:m:8801 2F9C2:m:45F9 2F9C3:m:8860 2F9C4:m:8863",
    "2F9C5:m:27667 2F9C6:m:88D7 2F9C7:m:88DE 2F9C8:m:4635 2F9C9:m:88FA 2F9CA:m:34BB 2F9CB:m:278AE",
    "2F9CC:m:27966 2F9CD:m:46BE 2F9CE:m:46C7 2F9CF:m:8AA0 2F9D0:m:8AED 2F9D1:m:8B8A 2F9D2:m:8C55",
    "2F9D3:m:27CA8 2F9D4:m:8CAB 2F9D5:m:8CC1 2F9D6:m:8D1B 2F9D7:m:8D77 2F9D8:m:27F2F 2F9D9:m:20804",
    "2F9DA:m:8DCB 2F9DB:m:8DBC 2F9DC:m:8DF0 2F9DD:m:208DE 2F9DE:m:8ED4 2F9DF:m:8F38 2F9E0:m:285D2",
    "2F9E1:m:285ED 2F9E2:m:9094 2F9E3:m:90F1 2F9E4:m:9111 2F9E5:m:2872E 2F9E6:m:911B 2F9E7:m:9238",
    "2F9E8:m:92D7 2F9E9:m:92D8 2F9EA:m:927C 2F9EB:m:93F9 2F9EC:m:9415 2F9ED:m:28BFA 2F9EE:m:958B",
    "2F9EF:m:4995 2F9F0:m:95B7 2F9F1:m:28D77 2F9F2:m:49E6 2F9F3:m:96C3 2F9F4:m:5DB2 2F9F5:m:9723",
    "2F9F6:m:29145 2F9F7:m:2921A 2F9F8:m:4A6E 2F9F9:m:4A76 2F9FA:m:97E0 2F9FB:m:2940A 2F9FC:m:4AB2",
    "2F9FD:m:29496 2F9FE:m:980B 2FA00:m:9829 2FA01:m:295B6 2FA02:m:98E2 2FA03:m:4B33 2FA04:m:9929",
    "2FA05:m:99A7 2FA06:m:99C2 2FA07:m:99FE 2FA08:m:4BCE 2FA09:m:29B30 2FA0A:m:9B12 2FA0B:m:9C40",
    "2FA0C:m:9CFD 2FA0D:m:4CCE 2FA0E:m:4CED 2FA0F:m:9D67 2FA10:m:2A0CE 2FA11:m:4CF8 2FA12:m:2A105",
    "2FA13:m:2A20E 2FA14:m:2A291 2FA15:m:9EBB 2FA16:m:4D56 2FA17:m:9EF9 2FA18:m:9EFE 2FA19:m:9F05",
    "2FA1A:m:9F0F 2FA1B:m:9F16 2FA1C:m:9F3B 2FA1D:m:2A600 2FA1E:x 30000:v 3134B:x 31350:v 3347A:x",
    "E0100:i E01F0:x"]

/-- The status of a token of the table's text. -/
def IdnaStatus.ofToken : List String → Option (Nat × IdnaStatus)
  | [s, "v"] => some (readHex s, .valid)
  | [s, "d"] => some (readHex s, .deviation)
  | [s, "i"] => some (readHex s, .ignored)
  | [s, "x"] => some (readHex s, .disallowed)
  | [s, "m", r] => some (readHex s, .mapped (readHexList r))
  | _ => none

/-- The mapping table, read: the starts of its ranges and their statuses. -/
def idnaMapping : Array Nat × Array IdnaStatus :=
  let entries := (tokens idnaMappingText).filterMap IdnaStatus.ofToken
  ((entries.map Prod.fst).toArray, (entries.map Prod.snd).toArray)

/-- The status of a code point. -/
def idnaStatus (n : Nat) : IdnaStatus :=
  let (starts, statuses) := idnaMapping
  let k := countAtMost starts n (starts.size + 1) 0 starts.size
  if k == 0 then .disallowed else statuses.getD (k - 1) .disallowed

end JobQuery.Net
