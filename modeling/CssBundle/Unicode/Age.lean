import CssBundle.Unicode.Table

/-!
# Ages

The age of a code point is the version of Unicode that assigned it (Age). Versions are numbered
by their place in `ageNames`; the number one past the last stands for the code points no version
up to Unicode 16 has assigned. Asking for an age asks for every code point assigned by that
version or an earlier one, so the age of a version is a whole prefix of the numbers.
-/

namespace CssBundle.Unicode

def ageNames : Array String := #[
  "1.1", "2.0", "2.1", "3.0", "3.1", "3.2", "4.0", "4.1", "5.0", "5.1", "5.2", "6.0", "6.1",
  "6.2", "6.3", "7.0", "8.0", "9.0", "10.0", "11.0", "12.0", "12.1", "13.0", "14.0", "15.0",
  "15.1", "16.0"]

def unassignedAge : Nat := ageNames.size

/-- The names of a version as a property value, normalized: `3.0` and `V3_0`. -/
def ageAliases : List (String × Nat) :=
  (List.range ageNames.size).flatMap fun i =>
    let name := ageNames.getD i ""
    [(name, i), ("v" ++ String.ofList (name.toList.filter (· != '.')), i)]
def ageRunsText1 : String :=
  "0:0 1F6:3 1FA:0 218:3 220:5 221:6 222:3 234:6 237:7 242:8 250:0 2A9:3 2AE:6 2B0:0 2DF:3 " ++
  "2E0:0 2EA:3 2EF:6 300:0 346:3 34F:5 350:6 358:7 35D:6 360:0 362:3 363:5 370:9 374:0 376:9 " ++
  "378:1B 37A:0 37B:8 37E:0 37F:F 380:1B 384:0 38B:1B 38C:0 38D:1B 38E:0 3A2:1B 3A3:0 3CF:9 " ++
  "3D0:0 3D7:3 3D8:5 3DA:0 3DB:3 3DC:0 3DD:3 3DE:0 3DF:3 3E0:0 3E1:3 3E2:0 3F4:4 3F6:5 3F7:6 " ++
  "3FC:7 400:3 401:0 40D:3 40E:0 450:3 451:0 45D:3 45E:0 487:9 488:3 48A:5 48C:3 490:0 4C5:5 " ++
  "4C7:0 4C9:5 4CB:0 4CD:5 4CF:8 4D0:0 4EC:3 4EE:0 4F6:7 4F8:0 4FA:8 500:5 510:8 514:9 524:A " ++
  "526:B 528:F 530:1B 531:0 557:1B 559:0 560:13 561:0 588:13 589:0 58A:3 58B:1B 58D:F 58F:C " ++
  "590:1B 591:1 5A2:7 5A3:1 5B0:0 5BA:8 5BB:0 5C4:1 5C5:7 5C8:1B 5D0:0 5EB:1B 5EF:13 5F0:0 " ++
  "5F5:1B 600:6 604:C 605:F 606:9 60B:7 60C:0 60D:6 616:9 61B:0 61C:E 61D:17 61E:7 61F:0 620:B " ++
  "621:0 63B:9 640:0 653:3 656:6 659:7 65F:B 660:0 66E:5 670:0 6B8:3 6BA:0 6BF:3 6C0:0 6CF:3 " ++
  "6D0:0 6EE:6 6F0:0 6FA:3 6FF:6 700:3 70E:1B 70F:3 72D:6 730:3 74B:1B 74D:6 750:7 76E:9 780:3 " ++
  "7B1:5 7B2:1B 7C0:8 7FB:1B 7FD:13 800:A 82E:1B 830:A 83F:1B 840:B 85C:1B 85E:B 85F:1B 860:12 " ++
  "86B:1B 870:17 88F:1B 890:17 892:1B 897:1A 898:17 8A0:C 8A1:F 8A2:C 8AD:F 8B3:10 8B5:17 " ++
  "8B6:11 8BE:16 8C8:17 8D3:13 8D4:11 8E3:10 8E4:C 8FF:F 900:A 901:0 904:6 905:0 93A:B 93C:0 " ++
  "94E:A 94F:B 950:0 955:A 956:B 958:0 971:9 973:B 978:F 979:A 97B:8 97D:7 97E:8 980:F 981:0 " ++
  "984:1B 985:0 98D:1B 98F:0 991:1B 993:0 9A9:1B 9AA:0 9B1:1B 9B2:0 9B3:1B 9B6:0 9BA:1B 9BC:0 " ++
  "9BD:6 9BE:0 9C5:1B 9C7:0 9C9:1B 9CB:0 9CE:7 9CF:1B 9D7:0 9D8:1B 9DC:0 9DE:1B 9DF:0 9E4:1B " ++
  "9E6:0 9FB:A 9FC:12 9FE:13 9FF:1B A01:6 A02:0 A03:6 A04:1B A05:0 A0B:1B A0F:0 A11:1B A13:0 " ++
  "A29:1B A2A:0 A31:1B A32:0 A34:1B A35:0 A37:1B A38:0 A3A:1B A3C:0 A3D:1B A3E:0 A43:1B A47:0 " ++
  "A49:1B A4B:0 A4E:1B A51:9 A52:1B A59:0 A5D:1B A5E:0 A5F:1B A66:0 A75:9 A76:13 A77:1B A81:0 " ++
  "A84:1B A85:0 A8C:6 A8D:0 A8E:1B A8F:0 A92:1B A93:0 AA9:1B AAA:0 AB1:1B AB2:0 AB4:1B AB5:0 " ++
  "ABA:1B ABC:0 AC6:1B AC7:0 ACA:1B ACB:0 ACE:1B AD0:0 AD1:1B AE0:0 AE1:6 AE4:1B AE6:0 AF0:C " ++
  "AF1:6 AF2:1B AF9:10 AFA:12 B00:1B B01:0 B04:1B B05:0 B0D:1B B0F:0 B11:1B B13:0 B29:1B B2A:0 " ++
  "B31:1B B32:0 B34:1B B35:6 B36:0 B3A:1B B3C:0 B44:9 B45:1B B47:0 B49:1B B4B:0 B4E:1B B55:16 " ++
  "B56:0 B58:1B B5C:0 B5E:1B B5F:0 B62:9 B64:1B B66:0 B71:6 B72:B B78:1B B82:0 B84:1B B85:0 " ++
  "B8B:1B B8E:0 B91:1B B92:0 B96:1B B99:0 B9B:1B B9C:0 B9D:1B B9E:0 BA0:1B BA3:0 BA5:1B BA8:0 " ++
  "BAB:1B BAE:0 BB6:7 BB7:0 BBA:1B BBE:0 BC3:1B BC6:0 BC9:1B BCA:0 BCE:1B BD0:9 BD1:1B BD7:0 " ++
  "BD8:1B BE6:7 BE7:0 BF3:6 BFB:1B C00:F C01:0 C04:13 C05:0 C0D:1B C0E:0 C11:1B C12:0 C29:1B " ++
  "C2A:0 C34:F C35:0 C3A:1B C3C:17 C3D:9 C3E:0 C45:1B C46:0 C49:1B C4A:0 C4E:1B C55:0 C57:1B " ++
  "C58:9 C5A:10 C5B:1B C5D:17 C5E:1B C60:0 C62:9 C64:1B C66:0 C70:1B C77:14 C78:9 C80:11 C81:F " ++
  "C82:0 C84:13 C85:0 C8D:1B C8E:0 C91:1B C92:0 CA9:1B CAA:0 CB4:1B CB5:0 CBA:1B CBC:6 CBE:0 " ++
  "CC5:1B CC6:0 CC9:1B CCA:0 CCE:1B CD5:0 CD7:1B CDD:17 CDE:0 CDF:1B CE0:0 CE2:8 CE4:1B CE6:0 " ++
  "CF0:1B CF1:8 CF3:18 CF4:1B D00:12 D01:F D02:0 D04:16 D05:0 D0D:1B D0E:0 D11:1B D12:0 D29:B " ++
  "D2A:0 D3A:B D3B:12 D3D:9 D3E:0 D44:9 D45:1B D46:0 D49:1B D4A:0 D4E:B D4F:11 D50:1B D54:11 " ++
  "D57:0 D58:11 D5F:10 D60:0 D62:9 D64:1B D66:0 D70:9 D76:11 D79:9 D80:1B D81:16 D82:3 D84:1B " ++
  "D85:3 D97:1B D9A:3 DB2:1B DB3:3 DBC:1B DBD:3 DBE:1B DC0:3 DC7:1B DCA:3 DCB:1B DCF:3 DD5:1B " ++
  "DD6:3 DD7:1B DD8:3 DE0:1B DE6:F DF0:1B DF2:3 DF5:1B E01:0 E3B:1B E3F:0 E5C:1B E81:0 E83:1B " ++
  "E84:0 E85:1B E86:14 E87:0 E89:14 E8A:0 E8B:1B E8C:14 E8D:0 E8E:14 E94:0 E98:14 E99:0 EA0:14 " ++
  "EA1:0 EA4:1B EA5:0 EA6:1B EA7:0 EA8:14 EAA:0 EAC:14 EAD:0 EBA:14 EBB:0 EBE:1B EC0:0 EC5:1B " ++
  "EC6:0 EC7:1B EC8:0 ECE:18 ECF:1B ED0:0 EDA:1B EDC:0 EDE:C EE0:1B F00:1 F48:1B F49:1 F6A:3 " ++
  "F6B:9 F6D:1B F71:1 F8C:B F90:1 F96:3 F97:1 F98:1B F99:1 FAE:3 FB1:1 FB8:3 FB9:1 FBA:3 FBD:1B " ++
  "FBE:3 FCD:1B FCE:9 FCF:3 FD0:7 FD2:9 FD5:A FD9:B FDB:1B 1000:3 1022:9 1023:3 1028:9 1029:3 " ++
  "102B:9 102C:3 1033:9 1036:3 103A:9 1040:3 105A:9 109A:A 109E:9 10A0:0 10C6:1B 10C7:C 10C8:1B " ++
  "10CD:C 10CE:1B 10D0:0 10F7:5 10F9:7 10FB:0 10FC:7 10FD:C 1100:0 115A:A 115F:0 11A3:A 11A8:0 " ++
  "11FA:A 1200:3 1207:7 1208:3 1247:7 1248:3 1249:1B 124A:3 124E:1B 1250:3 1257:1B 1258:3 " ++
  "1259:1B 125A:3 125E:1B 1260:3 1287:7 1288:3 1289:1B 128A:3 128E:1B 1290:3 12AF:7 12B0:3 " ++
  "12B1:1B 12B2:3 12B6:1B 12B8:3 12BF:1B 12C0:3 12C1:1B 12C2:3 12C6:1B 12C8:3 12CF:7 12D0:3 " ++
  "12D7:1B 12D8:3 12EF:7 12F0:3 130F:7 1310:3 1311:1B 1312:3 1316:1B 1318:3 131F:7 1320:3 " ++
  "1347:7 1348:3 135B:1B 135D:B 135F:7 1361:3 137D:1B 1380:7 139A:1B 13A0:3 13F5:10 13F6:1B " ++
  "13F8:10 13FE:1B 1400:A 1401:3 1677:A 1680:3 169D:1B 16A0:3 16F1:F 16F9:1B 1700:5 170D:17 " ++
  "170E:5 1715:17 1716:1B 171F:17 1720:5 1737:1B 1740:5 1754:1B 1760:5 176D:1B 176E:5 1771:1B " ++
  "1772:5 1774:1B 1780:3 17DD:6 17DE:1B 17E0:3 17EA:1B 17F0:6 17FA:1B 1800:3 180F:17 1810:3 " ++
  "181A:1B 1820:3 1878:13 1879:1B 1880:3 18AA:9 18AB:1B 18B0:A 18F6:1B 1900:6 191D:F 191F:1B " ++
  "1920:6 192C:1B 1930:6 193C:1B 1940:6 1941:1B 1944:6 196E:1B 1970:6 1975:1B 1980:7 19AA:A " ++
  "19AC:1B 19B0:7 19CA:1B 19D0:7 19DA:A 19DB:1B 19DE:7 19E0:6 1A00:7 1A1C:1B 1A1E:7 1A20:A " ++
  "1A5F:1B 1A60:A 1A7D:1B 1A7F:A 1A8A:1B 1A90:A 1A9A:1B 1AA0:A 1AAE:1B 1AB0:F 1ABF:16 1AC1:17 " ++
  "1ACF:1B 1B00:8 1B4C:17 1B4D:1B 1B4E:1A 1B50:8 1B7D:17 1B7F:1A 1B80:9 1BAB:C 1BAE:9 1BBA:C " ++
  "1BC0:B 1BF4:1B 1BFC:B 1C00:9 1C38:1B 1C3B:9 1C4A:1B 1C4D:9 1C80:11 1C89:1A 1C8B:1B 1C90:13 " ++
  "1CBB:1B 1CBD:13 1CC0:C 1CC8:1B 1CD0:A 1CF3:C 1CF7:12 1CF8:F 1CFA:14 1CFB:1B 1D00:6 1D6C:7 " ++
  "1DC4:8 1DCB:9 1DE7:F 1DF6:12 1DFA:17 1DFB:11 1DFC:B 1DFD:A 1DFE:8 1E00:0 1E9B:1 1E9C:9 " ++
  "1EA0:0 1EFA:9 1F00:0 1F16:1B 1F18:0 1F1E:1B 1F20:0 1F46:1B 1F48:0 1F4E:1B 1F50:0 1F58:1B " ++
  "1F59:0 1F5A:1B 1F5B:0 1F5C:1B 1F5D:0 1F5E:1B 1F5F:0 1F7E:1B 1F80:0 1FB5:1B 1FB6:0 1FC5:1B " ++
  "1FC6:0 1FD4:1B 1FD6:0 1FDC:1B 1FDD:0 1FF0:1B 1FF2:0 1FF5:1B 1FF6:0 1FFF:1B 2000:0 202F:3 " ++
  "2030:0 2047:5 2048:3 204E:5 2053:6 2055:7 2057:5 2058:7 205F:5 2064:9 2065:1B 2066:E 206A:0 " ++
  "2071:5 2072:1B 2074:0 208F:1B 2090:7 2095:B 209D:1B 20A0:0 20AB:1 20AC:2 20AD:3 20B0:5 " ++
  "20B2:7 20B6:A 20B9:B 20BA:D 20BB:F 20BE:10 20BF:12 20C0:17 20C1:1B 20D0:0 20E2:3 20E4:5 " ++
  "20EB:7 20EC:8 20F0:9 20F1:1B 2100:0 2139:3 213B:6 213C:7 213D:5 214C:7 214D:8 214F:9 2150:A " ++
  "2153:0 2183:3 2184:8 2185:9 2189:A 218A:10 218C:1B 2190:0 21EB:3 21F4:5 2200:0 22F2:5 2300:0 " ++
  "2301:3 2302:0 237B:3 237C:5 237D:3 239B:5 23CF:6 23D1:7 23DC:8 23E8:A 23E9:B 23F4:F 23FB:11 " ++
  "23FF:12 2400:0 2425:3 2427:1A 242A:1B 2440:0 244B:1B 2460:0 24EB:5 24FF:6 2500:0 2596:5 " ++
  "25A0:0 25F0:3 25F8:5 2600:0 2614:6 2616:5 2618:7 2619:3 261A:0 2670:3 2672:5 267E:7 2680:5 " ++
  "268A:6 2692:7 269D:9 269E:A 26A0:6 26A2:7 26B2:8 26B3:9 26BD:A 26C0:9 26C4:A 26CE:B 26CF:A " ++
  "26E2:B 26E3:A 26E4:B 26E8:A 2700:F 2701:0 2705:B 2706:0 270A:B 270C:0 2728:B 2729:0 274C:B " ++
  "274D:0 274E:B 274F:0 2753:B 2756:0 2757:A 2758:0 275F:B 2761:0 2768:5 2776:0 2795:B 2798:0 " ++
  "27B0:B 27B1:0 27BF:B 27C0:7 27C7:8 27CB:C 27CC:9 27CD:C 27CE:B 27D0:5 27EC:9 27F0:5 2800:3 " ++
  "2900:5 2B00:6 2B0E:7 2B14:8 2B1B:9 2B20:8 2B24:9 2B4D:F 2B50:9 2B55:A 2B5A:F 2B74:1B 2B76:F " ++
  "2B96:1B 2B97:16 2B98:F 2BBA:13 2BBD:F 2BC9:14 2BCA:F 2BD2:12 2BD3:13 2BEC:10 2BF0:13 2BFF:14 " ++
  "2C00:7 2C2F:17 2C30:7 2C5F:17 2C60:8 2C6D:9 2C70:A 2C71:9 2C74:8 2C78:9 2C7E:A 2C80:7 2CEB:A " ++
  "2CF2:C 2CF4:1B 2CF9:7 2D26:1B 2D27:C 2D28:1B 2D2D:C 2D2E:1B 2D30:7 2D66:C 2D68:1B 2D6F:7 " ++
  "2D70:B 2D71:1B 2D7F:B 2D80:7 2D97:1B 2DA0:7 2DA7:1B 2DA8:7 2DAF:1B 2DB0:7 2DB7:1B 2DB8:7 " ++
  "2DBF:1B 2DC0:7 2DC7:1B 2DC8:7 2DCF:1B 2DD0:7 2DD7:1B 2DD8:7 2DDF:1B 2DE0:9 2E00:7 2E18:9 " ++
  "2E1C:7 2E1E:9 2E31:A 2E32:C 2E3C:F 2E43:11 2E45:12 2E4A:13 2E4F:14 2E50:16 2E53:17 2E5E:1B " ++
  "2E80:3 2E9A:1B 2E9B:3 2EF4:1B 2F00:3 2FD6:1B 2FF0:3 2FFC:19 3000:0 3038:3 303B:5 303E:3 " ++
  "303F:0 3040:1B 3041:0 3095:5 3097:1B 3099:0 309F:5 30A1:0 30FF:5 3100:1B 3105:0 312D:9 " ++
  "312E:12 312F:13 3130:1B 3131:0 318F:1B 3190:0 31A0:3 31B8:B 31BB:16 31C0:7 31D0:9 31E4:1A " ++
  "31E6:1B 31EF:19 31F0:5 3200:0 321D:6 321F:1B 3220:0 3244:A 3250:6 3251:5 3260:0 327C:6 " ++
  "327E:7 327F:0 32B1:5 32C0:0 32CC:6 32D0:0 32FF:15 3300:0 3377:6 337B:0 33DE:6 33E0:0 33FF:6 " ++
  "3400:3 4DB6:16 4DC0:6 4E00:0 9FA6:7 9FBC:9 9FC4:A 9FCC:C 9FCD:10 9FD6:12 9FEB:13 9FF0:16 " ++
  "9FFD:17 A000:3 A48D:1B A490:3 A4A2:5 A4A4:3 A4B4:5 A4B5:3 A4C1:5 A4C2:3 A4C5:5 A4C6:3 " ++
  "A4C7:1B A4D0:A A500:9 A62C:1B A640:9 A660:B A662:9 A674:C A67C:9 A698:F A69E:10 A69F:C " ++
  "A6A0:A A6F8:1B A700:7 A717:8 A71B:9 A720:8 A722:9 A78D:B A78F:10 A790:B A792:C A794:F A7A0:B " ++
  "A7AA:C A7AB:F A7AE:11 A7AF:13 A7B0:F A7B2:10 A7B8:13 A7BA:14 A7C0:17 A7C2:14 A7C7:16 A7CB:1A " ++
  "A7CE:1B A7D0:17 A7D2:1B A7D3:17 A7D4:1B A7D5:17 A7DA:1A A7DD:1B A7F2:17 A7F5:16 A7F7:F " ++
  "A7F8:C A7FA:B A7FB:9 A800:7 A82C:16 A82D:1B A830:A A83A:1B A840:8 A878:1B A880:9 A8C5:11 " ++
  "A8C6:1B A8CE:9 A8DA:1B A8E0:A A8FC:10 A8FE:13 A900:9 A954:1B A95F:9 A960:A A97D:1B A980:A " ++
  "A9CE:1B A9CF:A A9DA:1B A9DE:A A9E0:F A9FF:1B AA00:9 AA37:1B AA40:9 AA4E:1B AA50:9 AA5A:1B " ++
  "AA5C:9 AA60:A AA7C:F AA80:A AAC3:1B AADB:A AAE0:C AAF7:1B AB01:B AB07:1B AB09:B AB0F:1B " ++
  "AB11:B AB17:1B AB20:B AB27:1B AB28:B AB2F:1B AB30:F AB60:10 AB64:F AB66:14 AB68:16 AB6C:1B " ++
  "AB70:10 ABC0:A ABEE:1B ABF0:A ABFA:1B AC00:1 D7A4:1B D7B0:A D7C7:1B D7CB:A D7FC:1B D800:1 " ++
  "E000:0 FA2E:C FA30:5 FA6B:A FA6E:1B FA70:7 FADA:1B FB00:0 FB07:1B FB13:0 FB18:1B FB1D:3 " ++
  "FB1E:0 FB37:1B FB38:0 FB3D:1B FB3E:0 FB3F:1B FB40:0 FB42:1B FB43:0 FB45:1B FB46:0 FBB2:B " ++
  "FBC2:17 FBC3:1B FBD3:0 FD40:17 FD50:0 FD90:1B FD92:0 FDC8:1B FDCF:17 FDD0:4 FDF0:0 FDFC:5 " ++
  "FDFD:6 FDFE:17 FE00:5 FE10:7 FE1A:1B FE20:0 FE24:9 FE27:F FE2E:10 FE30:0 FE45:5 FE47:6 " ++
  "FE49:0 FE53:1B FE54:0 FE67:1B FE68:0 FE6C:1B FE70:0 FE73:5 FE74:0 FE75:1B FE76:0 FEFD:1B " ++
  "FEFF:0 FF00:1B FF01:0 FF5F:5 FF61:0 FFBF:1B FFC2:0 FFC8:1B FFCA:0 FFD0:1B FFD2:0 FFD8:1B " ++
  "FFDA:0 FFDD:1B FFE0:0 FFE7:1B FFE8:0 FFEF:1B FFF9:3 FFFC:2 FFFD:0 10000:6 1000C:1B 1000D:6 " ++
  "10027:1B 10028:6 1003B:1B 1003C:6 1003E:1B 1003F:6 1004E:1B 10050:6 1005E:1B 10080:6 " ++
  "100FB:1B 10100:6 10103:1B 10107:6 10134:1B 10137:6 10140:7 1018B:F 1018D:11 1018F:1B 10190:9 " ++
  "1019C:16 1019D:1B 101A0:F 101A1:1B 101D0:9 101FE:1B 10280:9 1029D:1B 102A0:9 102D1:1B " ++
  "102E0:F 102FC:1B 10300:4 1031F:F 10320:4 10324:1B 1032D:12 10330:4 1034B:1B 10350:F 1037B:1B " ++
  "10380:6 1039E:1B 1039F:6 103A0:7 103C4:1B 103C8:7 103D6:1B 10400:4 10426:6 10428:4 1044E:6 " ++
  "1049E:1B 104A0:6 104AA:1B 104B0:11 104D4:1B 104D8:11 104FC:1B 10500:F 10528:1B 10530:F " ++
  "10564:1B 1056F:F 10570:17 1057B:1B 1057C:17 1058B:1B 1058C:17 10593:1B 10594:17 10596:1B " ++
  "10597:17 105A2:1B 105A3:17 105B2:1B 105B3:17 105BA:1B 105BB:17 105BD:1B 105C0:1A 105F4:1B " ++
  "10600:F 10737:1B 10740:F 10756:1B 10760:F 10768:1B 10780:17 10786:1B 10787:17 107B1:1B " ++
  "107B2:17 107BB:1B 10800:6 10806:1B 10808:6 10809:1B 1080A:6 10836:1B 10837:6 10839:1B " ++
  "1083C:6 1083D:1B 1083F:6 10840:A 10856:1B 10857:A 10860:F 1089F:1B 108A7:F 108B0:1B 108E0:10 " ++
  "108F3:1B 108F4:10 108F6:1B 108FB:10 10900:8 1091A:A 1091C:1B 1091F:8 10920:9 1093A:1B " ++
  "1093F:9 10940:1B 10980:C 109B8:1B 109BC:10 109BE:C 109C0:10 109D0:1B 109D2:10 10A00:7 " ++
  "10A04:1B 10A05:7 10A07:1B 10A0C:7 10A14:1B 10A15:7 10A18:1B 10A19:7 10A34:13 10A36:1B "

def ageRunsText2 : String :=
  "10A38:7 10A3B:1B 10A3F:7 10A48:13 10A49:1B 10A50:7 10A59:1B 10A60:A 10A80:F 10AA0:1B 10AC0:F " ++
  "10AE7:1B 10AEB:F 10AF7:1B 10B00:A 10B36:1B 10B39:A 10B56:1B 10B58:A 10B73:1B 10B78:A 10B80:F " ++
  "10B92:1B 10B99:F 10B9D:1B 10BA9:F 10BB0:1B 10C00:A 10C49:1B 10C80:10 10CB3:1B 10CC0:10 " ++
  "10CF3:1B 10CFA:10 10D00:13 10D28:1B 10D30:13 10D3A:1B 10D40:1A 10D66:1B 10D69:1A 10D86:1B " ++
  "10D8E:1A 10D90:1B 10E60:A 10E7F:1B 10E80:16 10EAA:1B 10EAB:16 10EAE:1B 10EB0:16 10EB2:1B " ++
  "10EC2:1A 10EC5:1B 10EFC:1A 10EFD:18 10F00:13 10F28:1B 10F30:13 10F5A:1B 10F70:17 10F8A:1B " ++
  "10FB0:16 10FCC:1B 10FE0:14 10FF7:1B 11000:B 1104E:1B 11052:B 11070:17 11076:1B 1107F:F " ++
  "11080:A 110C2:17 110C3:1B 110CD:13 110CE:1B 110D0:C 110E9:1B 110F0:C 110FA:1B 11100:C " ++
  "11135:1B 11136:C 11144:13 11147:16 11148:1B 11150:F 11177:1B 11180:C 111C9:10 111CD:F " ++
  "111CE:16 111D0:C 111DA:F 111DB:10 111E0:1B 111E1:F 111F5:1B 11200:F 11212:1B 11213:F " ++
  "1123E:11 1123F:18 11242:1B 11280:10 11287:1B 11288:10 11289:1B 1128A:10 1128E:1B 1128F:10 " ++
  "1129E:1B 1129F:10 112AA:1B 112B0:F 112EB:1B 112F0:F 112FA:1B 11300:10 11301:F 11304:1B " ++
  "11305:F 1130D:1B 1130F:F 11311:1B 11313:F 11329:1B 1132A:F 11331:1B 11332:F 11334:1B 11335:F " ++
  "1133A:1B 1133B:13 1133C:F 11345:1B 11347:F 11349:1B 1134B:F 1134E:1B 11350:10 11351:1B " ++
  "11357:F 11358:1B 1135D:F 11364:1B 11366:F 1136D:1B 11370:F 11375:1B 11380:1A 1138A:1B " ++
  "1138B:1A 1138C:1B 1138E:1A 1138F:1B 11390:1A 113B6:1B 113B7:1A 113C1:1B 113C2:1A 113C3:1B " ++
  "113C5:1A 113C6:1B 113C7:1A 113CB:1B 113CC:1A 113D6:1B 113D7:1A 113D9:1B 113E1:1A 113E3:1B " ++
  "11400:11 1145A:16 1145B:11 1145C:1B 1145D:11 1145E:13 1145F:14 11460:16 11462:1B 11480:F " ++
  "114C8:1B 114D0:F 114DA:1B 11580:F 115B6:1B 115B8:F 115CA:10 115DE:1B 11600:F 11645:1B " ++
  "11650:F 1165A:1B 11660:11 1166D:1B 11680:C 116B8:14 116B9:17 116BA:1B 116C0:C 116CA:1B " ++
  "116D0:1A 116E4:1B 11700:10 1171A:13 1171B:1B 1171D:10 1172C:1B 11730:10 11740:17 11747:1B " ++
  "11800:13 1183C:1B 118A0:F 118F3:1B 118FF:F 11900:16 11907:1B 11909:16 1190A:1B 1190C:16 " ++
  "11914:1B 11915:16 11917:1B 11918:16 11936:1B 11937:16 11939:1B 1193B:16 11947:1B 11950:16 " ++
  "1195A:1B 119A0:14 119A8:1B 119AA:14 119D8:1B 119DA:14 119E5:1B 11A00:12 11A48:1B 11A50:12 " ++
  "11A84:14 11A86:12 11A9D:13 11A9E:12 11AA3:1B 11AB0:17 11AC0:F 11AF9:1B 11B00:18 11B0A:1B " ++
  "11BC0:1A 11BE2:1B 11BF0:1A 11BFA:1B 11C00:11 11C09:1B 11C0A:11 11C37:1B 11C38:11 11C46:1B " ++
  "11C50:11 11C6D:1B 11C70:11 11C90:1B 11C92:11 11CA8:1B 11CA9:11 11CB7:1B 11D00:12 11D07:1B " ++
  "11D08:12 11D0A:1B 11D0B:12 11D37:1B 11D3A:12 11D3B:1B 11D3C:12 11D3E:1B 11D3F:12 11D48:1B " ++
  "11D50:12 11D5A:1B 11D60:13 11D66:1B 11D67:13 11D69:1B 11D6A:13 11D8F:1B 11D90:13 11D92:1B " ++
  "11D93:13 11D99:1B 11DA0:13 11DAA:1B 11EE0:13 11EF9:1B 11F00:18 11F11:1B 11F12:18 11F3B:1B " ++
  "11F3E:18 11F5A:1A 11F5B:1B 11FB0:16 11FB1:1B 11FC0:14 11FF2:1B 11FFF:14 12000:8 1236F:F " ++
  "12399:10 1239A:1B 12400:8 12463:F 1246F:1B 12470:8 12474:F 12475:1B 12480:10 12544:1B " ++
  "12F90:17 12FF3:1B 13000:A 1342F:18 13430:14 13439:18 13456:1B 13460:1A 143FB:1B 14400:10 " ++
  "14647:1B 16100:1A 1613A:1B 16800:B 16A39:1B 16A40:F 16A5F:1B 16A60:F 16A6A:1B 16A6E:F " ++
  "16A70:17 16ABF:1B 16AC0:17 16ACA:1B 16AD0:F 16AEE:1B 16AF0:F 16AF6:1B 16B00:F 16B46:1B " ++
  "16B50:F 16B5A:1B 16B5B:F 16B62:1B 16B63:F 16B78:1B 16B7D:F 16B90:1B 16D40:1A 16D7A:1B " ++
  "16E40:13 16E9B:1B 16F00:C 16F45:14 16F4B:1B 16F4F:14 16F50:C 16F7F:14 16F88:1B 16F8F:C " ++
  "16FA0:1B 16FE0:11 16FE1:12 16FE2:14 16FE4:16 16FE5:1B 16FF0:16 16FF2:1B 17000:11 187ED:13 " ++
  "187F2:14 187F8:1B 18800:11 18AF3:16 18CD6:1B 18CFF:1A 18D00:16 18D09:1B 1AFF0:17 1AFF4:1B " ++
  "1AFF5:17 1AFFC:1B 1AFFD:17 1AFFF:1B 1B000:B 1B002:12 1B11F:17 1B123:1B 1B132:18 1B133:1B " ++
  "1B150:14 1B153:1B 1B155:18 1B156:1B 1B164:14 1B168:1B 1B170:12 1B2FC:1B 1BC00:F 1BC6B:1B " ++
  "1BC70:F 1BC7D:1B 1BC80:F 1BC89:1B 1BC90:F 1BC9A:1B 1BC9C:F 1BCA4:1B 1CC00:1A 1CCFA:1B " ++
  "1CD00:1A 1CEB4:1B 1CF00:17 1CF2E:1B 1CF30:17 1CF47:1B 1CF50:17 1CFC4:1B 1D000:4 1D0F6:1B " ++
  "1D100:4 1D127:1B 1D129:9 1D12A:4 1D1DE:10 1D1E9:17 1D1EB:1B 1D200:7 1D246:1B 1D2C0:18 " ++
  "1D2D4:1B 1D2E0:13 1D2F4:1B 1D300:6 1D357:1B 1D360:8 1D372:13 1D379:1B 1D400:4 1D455:1B " ++
  "1D456:4 1D49D:1B 1D49E:4 1D4A0:1B 1D4A2:4 1D4A3:1B 1D4A5:4 1D4A7:1B 1D4A9:4 1D4AD:1B 1D4AE:4 " ++
  "1D4BA:1B 1D4BB:4 1D4BC:1B 1D4BD:4 1D4C1:6 1D4C2:4 1D4C4:1B 1D4C5:4 1D506:1B 1D507:4 1D50B:1B " ++
  "1D50D:4 1D515:1B 1D516:4 1D51D:1B 1D51E:4 1D53A:1B 1D53B:4 1D53F:1B 1D540:4 1D545:1B 1D546:4 " ++
  "1D547:1B 1D54A:4 1D551:1B 1D552:4 1D6A4:7 1D6A6:1B 1D6A8:4 1D7CA:8 1D7CC:1B 1D7CE:4 1D800:10 " ++
  "1DA8C:1B 1DA9B:10 1DAA0:1B 1DAA1:10 1DAB0:1B 1DF00:17 1DF1F:1B 1DF25:18 1DF2B:1B 1E000:11 " ++
  "1E007:1B 1E008:11 1E019:1B 1E01B:11 1E022:1B 1E023:11 1E025:1B 1E026:11 1E02B:1B 1E030:18 " ++
  "1E06E:1B 1E08F:18 1E090:1B 1E100:14 1E12D:1B 1E130:14 1E13E:1B 1E140:14 1E14A:1B 1E14E:14 " ++
  "1E150:1B 1E290:17 1E2AF:1B 1E2C0:14 1E2FA:1B 1E2FF:14 1E300:1B 1E4D0:18 1E4FA:1B 1E5D0:1A " ++
  "1E5FB:1B 1E5FF:1A 1E600:1B 1E7E0:17 1E7E7:1B 1E7E8:17 1E7EC:1B 1E7ED:17 1E7EF:1B 1E7F0:17 " ++
  "1E7FF:1B 1E800:F 1E8C5:1B 1E8C7:F 1E8D7:1B 1E900:11 1E94B:14 1E94C:1B 1E950:11 1E95A:1B " ++
  "1E95E:11 1E960:1B 1EC71:13 1ECB5:1B 1ED01:14 1ED3E:1B 1EE00:C 1EE04:1B 1EE05:C 1EE20:1B " ++
  "1EE21:C 1EE23:1B 1EE24:C 1EE25:1B 1EE27:C 1EE28:1B 1EE29:C 1EE33:1B 1EE34:C 1EE38:1B 1EE39:C " ++
  "1EE3A:1B 1EE3B:C 1EE3C:1B 1EE42:C 1EE43:1B 1EE47:C 1EE48:1B 1EE49:C 1EE4A:1B 1EE4B:C " ++
  "1EE4C:1B 1EE4D:C 1EE50:1B 1EE51:C 1EE53:1B 1EE54:C 1EE55:1B 1EE57:C 1EE58:1B 1EE59:C " ++
  "1EE5A:1B 1EE5B:C 1EE5C:1B 1EE5D:C 1EE5E:1B 1EE5F:C 1EE60:1B 1EE61:C 1EE63:1B 1EE64:C " ++
  "1EE65:1B 1EE67:C 1EE6B:1B 1EE6C:C 1EE73:1B 1EE74:C 1EE78:1B 1EE79:C 1EE7D:1B 1EE7E:C " ++
  "1EE7F:1B 1EE80:C 1EE8A:1B 1EE8B:C 1EE9C:1B 1EEA1:C 1EEA4:1B 1EEA5:C 1EEAA:1B 1EEAB:C " ++
  "1EEBC:1B 1EEF0:C 1EEF2:1B 1F000:9 1F02C:1B 1F030:9 1F094:1B 1F0A0:B 1F0AF:1B 1F0B1:B 1F0BF:F " ++
  "1F0C0:1B 1F0C1:B 1F0D0:1B 1F0D1:B 1F0E0:F 1F0F6:1B 1F100:A 1F10B:F 1F10D:16 1F110:A 1F12F:13 " ++
  "1F130:B 1F131:A 1F132:B 1F13D:A 1F13E:B 1F13F:A 1F140:B 1F142:A 1F143:B 1F146:A 1F147:B " ++
  "1F14A:A 1F14F:B 1F157:A 1F158:B 1F15F:A 1F160:B 1F16A:C 1F16C:14 1F16D:16 1F170:B 1F179:A " ++
  "1F17A:B 1F17B:A 1F17D:B 1F17F:A 1F180:B 1F18A:A 1F18E:B 1F190:A 1F191:B 1F19B:11 1F1AD:16 " ++
  "1F1AE:1B 1F1E6:B 1F200:A 1F201:B 1F203:1B 1F210:A 1F232:B 1F23B:11 1F23C:1B 1F240:A 1F249:1B " ++
  "1F250:B 1F252:1B 1F260:12 1F266:1B 1F300:B 1F321:F 1F32D:10 1F330:B 1F336:F 1F337:B 1F37D:F " ++
  "1F37E:10 1F380:B 1F394:F 1F3A0:B 1F3C5:F 1F3C6:B 1F3CB:F 1F3CF:10 1F3D4:F 1F3E0:B 1F3F1:F " ++
  "1F3F8:10 1F400:B 1F43F:F 1F440:B 1F441:F 1F442:B 1F4F8:F 1F4F9:B 1F4FD:F 1F4FF:10 1F500:B " ++
  "1F53E:F 1F540:C 1F544:F 1F54B:10 1F550:B 1F568:F 1F57A:11 1F57B:F 1F5A4:11 1F5A5:F 1F5FB:B " ++
  "1F600:C 1F601:B 1F611:C 1F612:B 1F615:C 1F616:B 1F617:C 1F618:B 1F619:C 1F61A:B 1F61B:C " ++
  "1F61C:B 1F61F:C 1F620:B 1F626:C 1F628:B 1F62C:C 1F62D:B 1F62E:C 1F630:B 1F634:C 1F635:B " ++
  "1F641:F 1F643:10 1F645:B 1F650:F 1F680:B 1F6C6:F 1F6D0:10 1F6D1:11 1F6D3:12 1F6D5:14 " ++
  "1F6D6:16 1F6D8:1B 1F6DC:18 1F6DD:17 1F6E0:F 1F6ED:1B 1F6F0:F 1F6F4:11 1F6F7:12 1F6F9:13 " ++
  "1F6FA:14 1F6FB:16 1F6FD:1B 1F700:B 1F774:18 1F777:1B 1F77B:18 1F780:F 1F7D5:13 1F7D9:18 " ++
  "1F7DA:1B 1F7E0:14 1F7EC:1B 1F7F0:17 1F7F1:1B 1F800:F 1F80C:1B 1F810:F 1F848:1B 1F850:F " ++
  "1F85A:1B 1F860:F 1F888:1B 1F890:F 1F8AE:1B 1F8B0:16 1F8B2:1A 1F8BC:1B 1F8C0:1A 1F8C2:1B " ++
  "1F900:12 1F90C:16 1F90D:14 1F910:10 1F919:11 1F91F:12 1F920:11 1F928:12 1F930:11 1F931:12 " ++
  "1F933:11 1F93F:14 1F940:11 1F94C:12 1F94D:13 1F950:11 1F95F:12 1F96C:13 1F971:14 1F972:16 " ++
  "1F973:13 1F977:16 1F979:17 1F97A:13 1F97B:14 1F97C:13 1F980:10 1F985:11 1F992:12 1F998:13 " ++
  "1F9A3:16 1F9A5:14 1F9AB:16 1F9AE:14 1F9B0:13 1F9BA:14 1F9C0:10 1F9C1:13 1F9C3:14 1F9CB:16 " ++
  "1F9CC:17 1F9CD:14 1F9D0:12 1F9E7:13 1FA00:14 1FA54:1B 1FA60:13 1FA6E:1B 1FA70:14 1FA74:16 " ++
  "1FA75:18 1FA78:14 1FA7B:17 1FA7D:1B 1FA80:14 1FA83:16 1FA87:18 1FA89:1A 1FA8A:1B 1FA8F:1A " ++
  "1FA90:14 1FA96:16 1FAA9:17 1FAAD:18 1FAB0:16 1FAB7:17 1FABB:18 1FABE:1A 1FABF:18 1FAC0:16 " ++
  "1FAC3:17 1FAC6:1A 1FAC7:1B 1FACE:18 1FAD0:16 1FAD7:17 1FADA:18 1FADC:1A 1FADD:1B 1FADF:1A " ++
  "1FAE0:17 1FAE8:18 1FAE9:1A 1FAEA:1B 1FAF0:17 1FAF7:18 1FAF9:1B 1FB00:16 1FB93:1B 1FB94:16 " ++
  "1FBCB:1A 1FBF0:16 1FBFA:1B 1FFFE:1 20000:4 2A6D7:16 2A6DE:17 2A6E0:1B 2A700:A " ++
  "2B735:17 2B739:18 2B73A:1B 2B740:B 2B81E:1B 2B820:10 2CEA2:1B 2CEB0:12 2EBE1:1B 2EBF0:19 " ++
  "2EE5E:1B 2F800:4 2FA1E:1B 2FFFE:1 30000:16 3134B:1B 31350:18 323B0:1B 3FFFE:1 40000:1B " ++
  "4FFFE:1 50000:1B 5FFFE:1 60000:1B 6FFFE:1 70000:1B 7FFFE:1 80000:1B 8FFFE:1 90000:1B 9FFFE:1 " ++
  "A0000:1B AFFFE:1 B0000:1B BFFFE:1 C0000:1B CFFFE:1 D0000:1B DFFFE:1 E0000:1B E0001:4 " ++
  "E0002:1B E0020:4 E0080:1B E0100:6 E01F0:1B EFFFE:1"

def ageRuns : Array (Nat × Nat) := readPairs <|
  (ageRunsText1 ++ ageRunsText2)

def ageOf (n : Nat) : Nat :=
  runValue ageRuns n unassignedAge

/-- The code points assigned by the version numbered `index` or an earlier one, as sorted
ranges. -/
def agedRanges (index : Nat) : Array (Nat × Nat) :=
  runsWhere ageRuns (· ≤ index)

end CssBundle.Unicode
