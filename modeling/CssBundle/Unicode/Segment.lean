import CssBundle.Unicode.Table

/-!
# Break properties

Text is cut into graphemes, words and sentences by rules over three properties of code points:
Grapheme_Cluster_Break, Word_Break and Sentence_Break. Each gives a code point one value of a
short list (`ALetter`, `Numeric`, `Extend`, ...) or none, which the rules read as `Other`. The
values are numbered by their place in the list of names of their property, and the number one
past the last stands for `Other`, which has no table of its own (Unicode 16).
-/

namespace CssBundle.Unicode

def graphemeBreakNames : Array String := #[
  "CR", "Control", "Extend", "L", "LF", "LV", "LVT", "Prepend", "Regional_Indicator",
  "SpacingMark", "T", "V", "ZWJ"]

/-- The names and abbreviations of the values of Grapheme_Cluster_Break, normalized, with their
numbers. -/
def graphemeBreakAliases : List (String × Nat) := [
  ("cn", 1),
  ("control", 1),
  ("cr", 0),
  ("ex", 2),
  ("extend", 2),
  ("l", 3),
  ("lf", 4),
  ("lv", 5),
  ("lvt", 6),
  ("pp", 7),
  ("prepend", 7),
  ("regionalindicator", 8),
  ("ri", 8),
  ("sm", 9),
  ("spacingmark", 9),
  ("t", 10),
  ("v", 11),
  ("zwj", 12)]

def graphemeBreakRunsText1 : String :=
  ("0:1 A:4 B:1 D:0 E:1 20:D 7F:1 A0:D AD:1 AE:D 300:2 370:D 483:2 48A:D 591:2 5BE:D 5BF:2 " ++
  "5C0:D 5C1:2 5C3:D 5C4:2 5C6:D 5C7:2 5C8:D 600:7 606:D 610:2 61B:D 61C:1 61D:D 64B:2 " ++
  "660:D 670:2 671:D 6D6:2 6DD:7 6DE:D 6DF:2 6E5:D 6E7:2 6E9:D 6EA:2 6EE:D 70F:7 710:D " ++
  "711:2 712:D 730:2 74B:D 7A6:2 7B1:D 7EB:2 7F4:D 7FD:2 7FE:D 816:2 81A:D 81B:2 824:D " ++
  "825:2 828:D 829:2 82E:D 859:2 85C:D 890:7 892:D 897:2 8A0:D 8CA:2 8E2:7 8E3:2 903:9 " ++
  "904:D 93A:2 93B:9 93C:2 93D:D 93E:9 941:2 949:9 94D:2 94E:9 950:D 951:2 958:D 962:2 " ++
  "964:D 981:2 982:9 984:D 9BC:2 9BD:D 9BE:2 9BF:9 9C1:2 9C5:D 9C7:9 9C9:D 9CB:9 9CD:2 " ++
  "9CE:D 9D7:2 9D8:D 9E2:2 9E4:D 9FE:2 9FF:D A01:2 A03:9 A04:D A3C:2 A3D:D A3E:9 A41:2 " ++
  "A43:D A47:2 A49:D A4B:2 A4E:D A51:2 A52:D A70:2 A72:D A75:2 A76:D A81:2 A83:9 A84:D " ++
  "ABC:2 ABD:D ABE:9 AC1:2 AC6:D AC7:2 AC9:9 ACA:D ACB:9 ACD:2 ACE:D AE2:2 AE4:D AFA:2 " ++
  "B00:D B01:2 B02:9 B04:D B3C:2 B3D:D B3E:2 B40:9 B41:2 B45:D B47:9 B49:D B4B:9 B4D:2 " ++
  "B4E:D B55:2 B58:D B62:2 B64:D B82:2 B83:D BBE:2 BBF:9 BC0:2 BC1:9 BC3:D BC6:9 BC9:D " ++
  "BCA:9 BCD:2 BCE:D BD7:2 BD8:D C00:2 C01:9 C04:2 C05:D C3C:2 C3D:D C3E:2 C41:9 C45:D " ++
  "C46:2 C49:D C4A:2 C4E:D C55:2 C57:D C62:2 C64:D C81:2 C82:9 C84:D CBC:2 CBD:D CBE:9 " ++
  "CBF:2 CC1:9 CC2:2 CC3:9 CC5:D CC6:2 CC9:D CCA:2 CCE:D CD5:2 CD7:D CE2:2 CE4:D CF3:9 " ++
  "CF4:D D00:2 D02:9 D04:D D3B:2 D3D:D D3E:2 D3F:9 D41:2 D45:D D46:9 D49:D D4A:9 D4D:2 " ++
  "D4E:7 D4F:D D57:2 D58:D D62:2 D64:D D81:2 D82:9 D84:D DCA:2 DCB:D DCF:2 DD0:9 DD2:2 " ++
  "DD5:D DD6:2 DD7:D DD8:9 DDF:2 DE0:D DF2:9 DF4:D E31:2 E32:D E33:9 E34:2 E3B:D E47:2 " ++
  "E4F:D EB1:2 EB2:D EB3:9 EB4:2 EBD:D EC8:2 ECF:D F18:2 F1A:D F35:2 F36:D F37:2 F38:D " ++
  "F39:2 F3A:D F3E:9 F40:D F71:2 F7F:9 F80:2 F85:D F86:2 F88:D F8D:2 F98:D F99:2 FBD:D " ++
  "FC6:2 FC7:D 102D:2 1031:9 1032:2 1038:D 1039:2 103B:9 103D:2 103F:D 1056:9 1058:2 " ++
  "105A:D 105E:2 1061:D 1071:2 1075:D 1082:2 1083:D 1084:9 1085:2 1087:D 108D:2 108E:D " ++
  "109D:2 109E:D 1100:3 1160:B 11A8:A 1200:D 135D:2 1360:D 1712:2 1716:D 1732:2 1735:D " ++
  "1752:2 1754:D 1772:2 1774:D 17B4:2 17B6:9 17B7:2 17BE:9 17C6:2 17C7:9 17C9:2 17D4:D " ++
  "17DD:2 17DE:D 180B:2 180E:1 180F:2 1810:D 1885:2 1887:D 18A9:2 18AA:D 1920:2 1923:9 " ++
  "1927:2 1929:9 192C:D 1930:9 1932:2 1933:9 1939:2 193C:D 1A17:2 1A19:9 1A1B:2 1A1C:D " ++
  "1A55:9 1A56:2 1A57:9 1A58:2 1A5F:D 1A60:2 1A61:D 1A62:2 1A63:D 1A65:2 1A6D:9 1A73:2 " ++
  "1A7D:D 1A7F:2 1A80:D 1AB0:2 1ACF:D 1B00:2 1B04:9 1B05:D 1B34:2 1B3E:9 1B42:2 1B45:D " ++
  "1B6B:2 1B74:D 1B80:2 1B82:9 1B83:D 1BA1:9 1BA2:2 1BA6:9 1BA8:2 1BAE:D 1BE6:2 1BE7:9 " ++
  "1BE8:2 1BEA:9 1BED:2 1BEE:9 1BEF:2 1BF4:D 1C24:9 1C2C:2 1C34:9 1C36:2 1C38:D 1CD0:2 " ++
  "1CD3:D 1CD4:2 1CE1:9 1CE2:2 1CE9:D 1CED:2 1CEE:D 1CF4:2 1CF5:D 1CF7:9 1CF8:2 1CFA:D " ++
  "1DC0:2 1E00:D 200B:1 200C:2 200D:C 200E:1 2010:D 2028:1 202F:D 2060:1 2070:D 20D0:2 " ++
  "20F1:D 2CEF:2 2CF2:D 2D7F:2 2D80:D 2DE0:2 2E00:D 302A:2 3030:D 3099:2 309B:D A66F:2 " ++
  "A673:D A674:2 A67E:D A69E:2 A6A0:D A6F0:2 A6F2:D A802:2 A803:D A806:2 A807:D A80B:2 " ++
  "A80C:D A823:9 A825:2 A827:9 A828:D A82C:2 A82D:D A880:9 A882:D A8B4:9 A8C4:2 A8C6:D " ++
  "A8E0:2 A8F2:D A8FF:2 A900:D A926:2 A92E:D A947:2 A952:9 A953:2 A954:D A960:3 A97D:D " ++
  "A980:2 A983:9 A984:D A9B3:2 A9B4:9 A9B6:2 A9BA:9 A9BC:2 A9BE:9 A9C0:2 A9C1:D A9E5:2 " ++
  "A9E6:D AA29:2 AA2F:9 AA31:2 AA33:9 AA35:2 AA37:D AA43:2 AA44:D AA4C:2 AA4D:9 AA4E:D " ++
  "AA7C:2 AA7D:D AAB0:2 AAB1:D AAB2:2 AAB5:D AAB7:2 AAB9:D AABE:2 AAC0:D AAC1:2 AAC2:D " ++
  "AAEB:9 AAEC:2 AAEE:9 AAF0:D AAF5:9 AAF6:2 AAF7:D ABE3:9 ABE5:2 ABE6:9 ABE8:2 ABE9:9 " ++
  "ABEB:D ABEC:9 ABED:2 ABEE:D AC00:5 AC01:6 AC1C:5 AC1D:6 AC38:5 AC39:6 AC54:5 AC55:6 " ++
  "AC70:5 AC71:6 AC8C:5 AC8D:6 ACA8:5 ACA9:6 ACC4:5 ACC5:6 ACE0:5 ACE1:6 ACFC:5 ACFD:6 " ++
  "AD18:5 AD19:6 AD34:5 AD35:6 AD50:5 AD51:6 AD6C:5 AD6D:6 AD88:5 AD89:6 ADA4:5 ADA5:6 " ++
  "ADC0:5 ADC1:6 ADDC:5 ADDD:6 ADF8:5 ADF9:6 AE14:5 AE15:6 AE30:5 AE31:6 AE4C:5 AE4D:6 " ++
  "AE68:5 AE69:6 AE84:5 AE85:6 AEA0:5 AEA1:6 AEBC:5 AEBD:6 AED8:5 AED9:6 AEF4:5 AEF5:6 " ++
  "AF10:5 AF11:6 AF2C:5 AF2D:6 AF48:5 AF49:6 AF64:5 AF65:6 AF80:5 AF81:6 AF9C:5 AF9D:6 " ++
  "AFB8:5 AFB9:6 AFD4:5 AFD5:6 AFF0:5 AFF1:6 B00C:5 B00D:6 B028:5 B029:6 B044:5 B045:6 " ++
  "B060:5 B061:6 B07C:5 B07D:6 B098:5 B099:6 B0B4:5 B0B5:6 B0D0:5 B0D1:6 B0EC:5 B0ED:6 " ++
  "B108:5 B109:6 B124:5 B125:6 B140:5 B141:6 B15C:5 B15D:6 B178:5 B179:6 B194:5 B195:6 " ++
  "B1B0:5 B1B1:6 B1CC:5 B1CD:6 B1E8:5 B1E9:6 B204:5 B205:6 B220:5 B221:6 B23C:5 B23D:6 " ++
  "B258:5 B259:6 B274:5 B275:6 B290:5 B291:6 B2AC:5 B2AD:6 B2C8:5 B2C9:6 B2E4:5 B2E5:6 " ++
  "B300:5 B301:6 B31C:5 B31D:6 B338:5 B339:6 B354:5 B355:6 B370:5 B371:6 B38C:5 B38D:6 " ++
  "B3A8:5 B3A9:6 B3C4:5 B3C5:6 B3E0:5 B3E1:6 B3FC:5 B3FD:6 B418:5 B419:6 B434:5 B435:6 " ++
  "B450:5 B451:6 B46C:5 B46D:6 B488:5 B489:6 B4A4:5 B4A5:6 B4C0:5 B4C1:6 B4DC:5 B4DD:6 " ++
  "B4F8:5 B4F9:6 B514:5 B515:6 B530:5 B531:6 B54C:5 B54D:6 B568:5 B569:6 B584:5 B585:6 " ++
  "B5A0:5 B5A1:6 B5BC:5 B5BD:6 B5D8:5 B5D9:6 B5F4:5 B5F5:6 B610:5 B611:6 B62C:5 B62D:6 " ++
  "B648:5 B649:6 B664:5 B665:6 B680:5 B681:6 B69C:5 B69D:6 B6B8:5 B6B9:6 B6D4:5 B6D5:6 " ++
  "B6F0:5 B6F1:6 B70C:5 B70D:6 B728:5 B729:6 B744:5 B745:6 B760:5 B761:6 B77C:5 B77D:6 " ++
  "B798:5 B799:6 B7B4:5 B7B5:6 B7D0:5 B7D1:6 B7EC:5 B7ED:6 B808:5 B809:6 B824:5 B825:6 " ++
  "B840:5 B841:6 B85C:5 B85D:6 B878:5 B879:6 B894:5 B895:6 B8B0:5 B8B1:6 B8CC:5 B8CD:6 " ++
  "B8E8:5 B8E9:6 B904:5 B905:6 B920:5 B921:6 B93C:5 B93D:6 B958:5 B959:6 B974:5 B975:6 " ++
  "B990:5 B991:6 B9AC:5 B9AD:6 B9C8:5 B9C9:6 B9E4:5 B9E5:6 BA00:5 BA01:6 BA1C:5 BA1D:6 " ++
  "BA38:5 BA39:6 BA54:5 BA55:6 BA70:5 BA71:6 BA8C:5 BA8D:6 BAA8:5 BAA9:6 BAC4:5 BAC5:6 " ++
  "BAE0:5 BAE1:6 BAFC:5 BAFD:6 BB18:5 BB19:6 BB34:5 BB35:6 BB50:5 BB51:6 BB6C:5 BB6D:6 " ++
  "BB88:5 BB89:6 BBA4:5 BBA5:6 BBC0:5 BBC1:6 BBDC:5 BBDD:6 BBF8:5 BBF9:6 BC14:5 BC15:6 " ++
  "BC30:5 BC31:6 BC4C:5 BC4D:6 BC68:5 BC69:6 BC84:5 BC85:6 BCA0:5 BCA1:6 BCBC:5 BCBD:6 " ++
  "BCD8:5 BCD9:6 BCF4:5 BCF5:6 BD10:5 BD11:6 BD2C:5 BD2D:6 BD48:5 BD49:6 BD64:5 BD65:6 " ++
  "BD80:5 BD81:6 BD9C:5 BD9D:6 BDB8:5 BDB9:6 BDD4:5 BDD5:6 BDF0:5 BDF1:6 BE0C:5 BE0D:6 " ++
  "BE28:5 BE29:6 BE44:5 BE45:6 BE60:5 BE61:6 BE7C:5 BE7D:6 BE98:5 BE99:6 BEB4:5 BEB5:6 " ++
  "BED0:5 BED1:6 BEEC:5 BEED:6 BF08:5 BF09:6 BF24:5 BF25:6 BF40:5 BF41:6 BF5C:5 BF5D:6 " ++
  "BF78:5 BF79:6 BF94:5 BF95:6 BFB0:5 BFB1:6 BFCC:5 BFCD:6 BFE8:5 BFE9:6 C004:5 C005:6 " ++
  "C020:5 C021:6 C03C:5 C03D:6 C058:5 C059:6 C074:5 C075:6 C090:5 C091:6 C0AC:5 C0AD:6 " ++
  "C0C8:5 C0C9:6 C0E4:5 C0E5:6 C100:5 C101:6 C11C:5 C11D:6 C138:5 C139:6 C154:5 C155:6 " ++
  "C170:5 C171:6 C18C:5 C18D:6 C1A8:5 C1A9:6 C1C4:5 C1C5:6 C1E0:5 C1E1:6 C1FC:5 C1FD:6 " ++
  "C218:5 C219:6 C234:5 C235:6 C250:5 C251:6 C26C:5 C26D:6 C288:5 C289:6 C2A4:5 C2A5:6 " ++
  "C2C0:5 C2C1:6 C2DC:5 C2DD:6 C2F8:5 C2F9:6 C314:5 C315:6 C330:5 C331:6 C34C:5 C34D:6 " ++
  "C368:5 C369:6 C384:5 C385:6 C3A0:5 C3A1:6 C3BC:5 C3BD:6 C3D8:5 C3D9:6 C3F4:5 C3F5:6 " ++
  "C410:5 C411:6 C42C:5 C42D:6 C448:5 C449:6 C464:5 C465:6 C480:5 C481:6 C49C:5 C49D:6 " ++
  "C4B8:5 C4B9:6 C4D4:5 C4D5:6 C4F0:5 C4F1:6 C50C:5 C50D:6 C528:5 C529:6 C544:5 C545:6 " ++
  "C560:5 C561:6 C57C:5 C57D:6 C598:5 C599:6 C5B4:5 C5B5:6 C5D0:5 C5D1:6 C5EC:5 C5ED:6 " ++
  "C608:5 C609:6 C624:5 C625:6 C640:5 C641:6 C65C:5 C65D:6 C678:5 C679:6 C694:5 C695:6 " ++
  "C6B0:5 C6B1:6 C6CC:5 C6CD:6 C6E8:5 C6E9:6 C704:5 C705:6 C720:5 C721:6 C73C:5 C73D:6 " ++
  "C758:5 C759:6 C774:5 C775:6 C790:5 C791:6 C7AC:5 C7AD:6 C7C8:5 C7C9:6 C7E4:5 C7E5:6 " ++
  "C800:5 C801:6 C81C:5 C81D:6 C838:5 C839:6 C854:5 C855:6 C870:5 C871:6 C88C:5 C88D:6 " ++
  "C8A8:5 C8A9:6 C8C4:5 C8C5:6 C8E0:5 C8E1:6 C8FC:5 C8FD:6 C918:5 C919:6 C934:5 C935:6 " ++
  "C950:5 C951:6 C96C:5 C96D:6 C988:5 C989:6 C9A4:5 C9A5:6 C9C0:5 C9C1:6 C9DC:5 C9DD:6 " ++
  "C9F8:5 C9F9:6 CA14:5 CA15:6 CA30:5 CA31:6 CA4C:5 CA4D:6 CA68:5 CA69:6 CA84:5 CA85:6 " ++
  "CAA0:5 CAA1:6 CABC:5 CABD:6 CAD8:5 CAD9:6 CAF4:5 CAF5:6 CB10:5 CB11:6 CB2C:5 CB2D:6 " ++
  "CB48:5 CB49:6 CB64:5 CB65:6 CB80:5 CB81:6 CB9C:5 CB9D:6 CBB8:5 CBB9:6 CBD4:5 CBD5:6 " ++
  "CBF0:5 CBF1:6 CC0C:5 CC0D:6 CC28:5 CC29:6 CC44:5 CC45:6 CC60:5 CC61:6 CC7C:5 CC7D:6 " ++
  "CC98:5 CC99:6 CCB4:5 CCB5:6 CCD0:5 CCD1:6 CCEC:5 CCED:6 CD08:5 CD09:6 CD24:5 CD25:6 " ++
  "CD40:5 CD41:6 CD5C:5 CD5D:6 CD78:5 CD79:6 CD94:5 CD95:6 CDB0:5 CDB1:6 CDCC:5 CDCD:6 " ++
  "CDE8:5 CDE9:6 CE04:5 CE05:6 CE20:5 CE21:6 CE3C:5 CE3D:6 CE58:5 CE59:6 CE74:5 CE75:6 " ++
  "CE90:5 CE91:6 CEAC:5 CEAD:6 CEC8:5 CEC9:6 CEE4:5 CEE5:6 CF00:5 CF01:6 CF1C:5 CF1D:6 " ++
  "CF38:5 CF39:6 CF54:5 CF55:6 CF70:5 CF71:6 CF8C:5 CF8D:6 CFA8:5 CFA9:6 CFC4:5 CFC5:6 " ++
  "CFE0:5 CFE1:6 CFFC:5 CFFD:6 D018:5 D019:6 D034:5 D035:6 D050:5 D051:6 D06C:5 D06D:6 " ++
  "D088:5 D089:6 D0A4:5 D0A5:6 D0C0:5 D0C1:6 D0DC:5 D0DD:6 D0F8:5 D0F9:6 D114:5 D115:6 " ++
  "D130:5 D131:6 D14C:5 D14D:6 D168:5 D169:6 D184:5 D185:6 D1A0:5 D1A1:6 D1BC:5 D1BD:6 " ++
  "D1D8:5 D1D9:6 D1F4:5 D1F5:6 D210:5 D211:6 D22C:5 D22D:6 D248:5 D249:6 D264:5 D265:6 " ++
  "D280:5 D281:6 D29C:5 D29D:6 D2B8:5 D2B9:6 D2D4:5 D2D5:6 D2F0:5 D2F1:6 D30C:5 D30D:6 " ++
  "D328:5 D329:6 D344:5 D345:6 D360:5 D361:6 D37C:5 D37D:6 D398:5 D399:6 D3B4:5 D3B5:6 " ++
  "D3D0:5 D3D1:6 D3EC:5 D3ED:6 D408:5 D409:6 D424:5 D425:6 D440:5 D441:6 D45C:5 D45D:6 " ++
  "D478:5 D479:6 D494:5 D495:6 D4B0:5 D4B1:6 D4CC:5 D4CD:6 D4E8:5 D4E9:6 D504:5 D505:6 " ++
  "D520:5 D521:6 D53C:5 D53D:6 D558:5 D559:6 D574:5 D575:6 D590:5 D591:6 D5AC:5 D5AD:6 " ++
  "D5C8:5 D5C9:6 D5E4:5 D5E5:6 D600:5 D601:6 D61C:5 D61D:6 D638:5 D639:6 D654:5 D655:6 " ++
  "D670:5 D671:6 D68C:5 D68D:6 D6A8:5 D6A9:6 D6C4:5 D6C5:6 D6E0:5 D6E1:6 D6FC:5 D6FD:6 " ++
  "D718:5 D719:6 D734:5 D735:6 D750:5 D751:6 D76C:5 D76D:6 D788:5 D789:6 D7A4:D D7B0:B " ++
  "D7C7:D D7CB:A D7FC:D FB1E:2 FB1F:D FE00:2 FE10:D FE20:2 FE30:D FEFF:1 FF00:D FF9E:2 " ++
  "FFA0:D FFF0:1 FFFC:D 101FD:2 101FE:D 102E0:2 102E1:D 10376:2 1037B:D 10A01:2 10A04:D " ++
  "10A05:2 10A07:D 10A0C:2 10A10:D 10A38:2 10A3B:D 10A3F:2 10A40:D 10AE5:2 10AE7:D 10D24:2 " ++
  "10D28:D 10D69:2 10D6E:D 10EAB:2 10EAD:D 10EFC:2 10F00:D 10F46:2 10F51:D 10F82:2 10F86:D " ++
  "11000:9 11001:2 11002:9 11003:D 11038:2 11047:D 11070:2 11071:D 11073:2 11075:D 1107F:2 " ++
  "11082:9 11083:D 110B0:9 110B3:2 110B7:9 110B9:2 110BB:D 110BD:7 110BE:D 110C2:2 110C3:D " ++
  "110CD:7 110CE:D 11100:2 11103:D 11127:2 1112C:9 1112D:2 11135:D 11145:9 11147:D 11173:2 " ++
  "11174:D 11180:2 11182:9 11183:D 111B3:9 111B6:2 111BF:9 111C0:2 111C1:D 111C2:7 111C4:D " ++
  "111C9:2 111CD:D 111CE:9 111CF:2 111D0:D 1122C:9 1122F:2 11232:9 11234:2 11238:D 1123E:2 " ++
  "1123F:D 11241:2 11242:D 112DF:2 112E0:9 112E3:2 112EB:D 11300:2 11302:9 11304:D 1133B:2 " ++
  "1133D:D 1133E:2 1133F:9 11340:2 11341:9 11345:D 11347:9 11349:D 1134B:9 1134D:2 1134E:D " ++
  "11357:2 11358:D 11362:9 11364:D 11366:2 1136D:D 11370:2 11375:D 113B8:2 113B9:9 113BB:2 " ++
  "113C1:D 113C2:2 113C3:D 113C5:2 113C6:D 113C7:2 113CA:9 113CB:D 113CC:9 113CE:2 113D1:7 ")

def graphemeBreakRunsText2 : String :=
  ("113D2:2 113D3:D 113E1:2 113E3:D 11435:9 11438:2 11440:9 11442:2 11445:9 11446:2 11447:D " ++
  "1145E:2 1145F:D 114B0:2 114B1:9 114B3:2 114B9:9 114BA:2 114BB:9 114BD:2 114BE:9 114BF:2 " ++
  "114C1:9 114C2:2 114C4:D 115AF:2 115B0:9 115B2:2 115B6:D 115B8:9 115BC:2 115BE:9 115BF:2 " ++
  "115C1:D 115DC:2 115DE:D 11630:9 11633:2 1163B:9 1163D:2 1163E:9 1163F:2 11641:D 116AB:2 " ++
  "116AC:9 116AD:2 116AE:9 116B0:2 116B8:D 1171D:2 1171E:9 1171F:2 11720:D 11722:2 11726:9 " ++
  "11727:2 1172C:D 1182C:9 1182F:2 11838:9 11839:2 1183B:D 11930:2 11931:9 11936:D 11937:9 " ++
  "11939:D 1193B:2 1193F:7 11940:9 11941:7 11942:9 11943:2 11944:D 119D1:9 119D4:2 119D8:D " ++
  "119DA:2 119DC:9 119E0:2 119E1:D 119E4:9 119E5:D 11A01:2 11A0B:D 11A33:2 11A39:9 11A3A:7 " ++
  "11A3B:2 11A3F:D 11A47:2 11A48:D 11A51:2 11A57:9 11A59:2 11A5C:D 11A84:7 11A8A:2 11A97:9 " ++
  "11A98:2 11A9A:D 11C2F:9 11C30:2 11C37:D 11C38:2 11C3E:9 11C3F:2 11C40:D 11C92:2 11CA8:D " ++
  "11CA9:9 11CAA:2 11CB1:9 11CB2:2 11CB4:9 11CB5:2 11CB7:D 11D31:2 11D37:D 11D3A:2 11D3B:D " ++
  "11D3C:2 11D3E:D 11D3F:2 11D46:7 11D47:2 11D48:D 11D8A:9 11D8F:D 11D90:2 11D92:D 11D93:9 " ++
  "11D95:2 11D96:9 11D97:2 11D98:D 11EF3:2 11EF5:9 11EF7:D 11F00:2 11F02:7 11F03:9 11F04:D " ++
  "11F34:9 11F36:2 11F3B:D 11F3E:9 11F40:2 11F43:D 11F5A:2 11F5B:D 13430:1 13440:2 13441:D " ++
  "13447:2 13456:D 1611E:2 1612A:9 1612D:2 16130:D 16AF0:2 16AF5:D 16B30:2 16B37:D 16D63:B " ++
  "16D64:D 16D67:B 16D6B:D 16F4F:2 16F50:D 16F51:9 16F88:D 16F8F:2 16F93:D 16FE4:2 16FE5:D " ++
  "16FF0:2 16FF2:D 1BC9D:2 1BC9F:D 1BCA0:1 1BCA4:D 1CF00:2 1CF2E:D 1CF30:2 1CF47:D 1D165:2 " ++
  "1D16A:D 1D16D:2 1D173:1 1D17B:2 1D183:D 1D185:2 1D18C:D 1D1AA:2 1D1AE:D 1D242:2 1D245:D " ++
  "1DA00:2 1DA37:D 1DA3B:2 1DA6D:D 1DA75:2 1DA76:D 1DA84:2 1DA85:D 1DA9B:2 1DAA0:D 1DAA1:2 " ++
  "1DAB0:D 1E000:2 1E007:D 1E008:2 1E019:D 1E01B:2 1E022:D 1E023:2 1E025:D 1E026:2 1E02B:D " ++
  "1E08F:2 1E090:D 1E130:2 1E137:D 1E2AE:2 1E2AF:D 1E2EC:2 1E2F0:D 1E4EC:2 1E4F0:D 1E5EE:2 " ++
  "1E5F0:D 1E8D0:2 1E8D7:D 1E944:2 1E94B:D 1F1E6:8 1F200:D 1F3FB:2 1F400:D E0000:1 E0020:2 " ++
  "E0080:1 E0100:2 E01F0:1 E1000:D")

/-- The Grapheme_Cluster_Break value of every code point, as runs of value numbers. -/
def graphemeBreakRuns : Array (Nat × Nat) := readPairs <|
  (graphemeBreakRunsText1 ++ graphemeBreakRunsText2)

def wordBreakNames : Array String := #[
  "ALetter", "CR", "Double_Quote", "Extend", "ExtendNumLet", "Format", "Hebrew_Letter",
  "Katakana", "LF", "MidLetter", "MidNum", "MidNumLet", "Newline", "Numeric",
  "Regional_Indicator", "Single_Quote", "WSegSpace", "ZWJ"]

/-- The names and abbreviations of the values of Word_Break, normalized, with their
numbers. -/
def wordBreakAliases : List (String × Nat) := [
  ("aletter", 0),
  ("cr", 1),
  ("doublequote", 2),
  ("dq", 2),
  ("ex", 4),
  ("extend", 3),
  ("extendnumlet", 4),
  ("fo", 5),
  ("format", 5),
  ("hebrewletter", 6),
  ("hl", 6),
  ("ka", 7),
  ("katakana", 7),
  ("le", 0),
  ("lf", 8),
  ("mb", 11),
  ("midletter", 9),
  ("midnum", 10),
  ("midnumlet", 11),
  ("ml", 9),
  ("mn", 10),
  ("newline", 12),
  ("nl", 12),
  ("nu", 13),
  ("numeric", 13),
  ("regionalindicator", 14),
  ("ri", 14),
  ("singlequote", 15),
  ("sq", 15),
  ("wsegspace", 16),
  ("zwj", 17)]

def wordBreakRunsText1 : String :=
  ("0:12 A:8 B:C D:1 E:12 20:10 21:12 22:2 23:12 27:F 28:12 2C:A 2D:12 2E:B 2F:12 30:D 3A:9 " ++
  "3B:A 3C:12 41:0 5B:12 5F:4 60:12 61:0 7B:12 85:C 86:12 AA:0 AB:12 AD:5 AE:12 B5:0 B6:12 " ++
  "B7:9 B8:12 BA:0 BB:12 C0:0 D7:12 D8:0 F7:12 F8:0 2D8:12 2DE:0 300:3 370:0 375:12 376:0 " ++
  "378:12 37A:0 37E:A 37F:0 380:12 386:0 387:9 388:0 38B:12 38C:0 38D:12 38E:0 3A2:12 " ++
  "3A3:0 3F6:12 3F7:0 482:12 483:3 48A:0 530:12 531:0 557:12 559:0 55D:12 55E:0 55F:9 " ++
  "560:0 589:A 58A:0 58B:12 591:3 5BE:12 5BF:3 5C0:12 5C1:3 5C3:12 5C4:3 5C6:12 5C7:3 " ++
  "5C8:12 5D0:6 5EB:12 5EF:6 5F3:0 5F4:9 5F5:12 600:D 606:12 60C:A 60E:12 610:3 61B:12 " ++
  "61C:5 61D:12 620:0 64B:3 660:D 66A:12 66B:D 66C:A 66D:12 66E:0 670:3 671:0 6D4:12 6D5:0 " ++
  "6D6:3 6DD:D 6DE:12 6DF:3 6E5:0 6E7:3 6E9:12 6EA:3 6EE:0 6F0:D 6FA:0 6FD:12 6FF:0 700:12 " ++
  "70F:0 711:3 712:0 730:3 74B:12 74D:0 7A6:3 7B1:0 7B2:12 7C0:D 7CA:0 7EB:3 7F4:0 7F6:12 " ++
  "7F8:A 7F9:12 7FA:0 7FB:12 7FD:3 7FE:12 800:0 816:3 81A:0 81B:3 824:0 825:3 828:0 829:3 " ++
  "82E:12 840:0 859:3 85C:12 860:0 86B:12 870:0 888:12 889:0 88F:12 890:D 892:12 897:3 " ++
  "8A0:0 8CA:3 8E2:D 8E3:3 904:0 93A:3 93D:0 93E:3 950:0 951:3 958:0 962:3 964:12 966:D " ++
  "970:12 971:0 981:3 984:12 985:0 98D:12 98F:0 991:12 993:0 9A9:12 9AA:0 9B1:12 9B2:0 " ++
  "9B3:12 9B6:0 9BA:12 9BC:3 9BD:0 9BE:3 9C5:12 9C7:3 9C9:12 9CB:3 9CE:0 9CF:12 9D7:3 " ++
  "9D8:12 9DC:0 9DE:12 9DF:0 9E2:3 9E4:12 9E6:D 9F0:0 9F2:12 9FC:0 9FD:12 9FE:3 9FF:12 " ++
  "A01:3 A04:12 A05:0 A0B:12 A0F:0 A11:12 A13:0 A29:12 A2A:0 A31:12 A32:0 A34:12 A35:0 " ++
  "A37:12 A38:0 A3A:12 A3C:3 A3D:12 A3E:3 A43:12 A47:3 A49:12 A4B:3 A4E:12 A51:3 A52:12 " ++
  "A59:0 A5D:12 A5E:0 A5F:12 A66:D A70:3 A72:0 A75:3 A76:12 A81:3 A84:12 A85:0 A8E:12 " ++
  "A8F:0 A92:12 A93:0 AA9:12 AAA:0 AB1:12 AB2:0 AB4:12 AB5:0 ABA:12 ABC:3 ABD:0 ABE:3 " ++
  "AC6:12 AC7:3 ACA:12 ACB:3 ACE:12 AD0:0 AD1:12 AE0:0 AE2:3 AE4:12 AE6:D AF0:12 AF9:0 " ++
  "AFA:3 B00:12 B01:3 B04:12 B05:0 B0D:12 B0F:0 B11:12 B13:0 B29:12 B2A:0 B31:12 B32:0 " ++
  "B34:12 B35:0 B3A:12 B3C:3 B3D:0 B3E:3 B45:12 B47:3 B49:12 B4B:3 B4E:12 B55:3 B58:12 " ++
  "B5C:0 B5E:12 B5F:0 B62:3 B64:12 B66:D B70:12 B71:0 B72:12 B82:3 B83:0 B84:12 B85:0 " ++
  "B8B:12 B8E:0 B91:12 B92:0 B96:12 B99:0 B9B:12 B9C:0 B9D:12 B9E:0 BA0:12 BA3:0 BA5:12 " ++
  "BA8:0 BAB:12 BAE:0 BBA:12 BBE:3 BC3:12 BC6:3 BC9:12 BCA:3 BCE:12 BD0:0 BD1:12 BD7:3 " ++
  "BD8:12 BE6:D BF0:12 C00:3 C05:0 C0D:12 C0E:0 C11:12 C12:0 C29:12 C2A:0 C3A:12 C3C:3 " ++
  "C3D:0 C3E:3 C45:12 C46:3 C49:12 C4A:3 C4E:12 C55:3 C57:12 C58:0 C5B:12 C5D:0 C5E:12 " ++
  "C60:0 C62:3 C64:12 C66:D C70:12 C80:0 C81:3 C84:12 C85:0 C8D:12 C8E:0 C91:12 C92:0 " ++
  "CA9:12 CAA:0 CB4:12 CB5:0 CBA:12 CBC:3 CBD:0 CBE:3 CC5:12 CC6:3 CC9:12 CCA:3 CCE:12 " ++
  "CD5:3 CD7:12 CDD:0 CDF:12 CE0:0 CE2:3 CE4:12 CE6:D CF0:12 CF1:0 CF3:3 CF4:12 D00:3 " ++
  "D04:0 D0D:12 D0E:0 D11:12 D12:0 D3B:3 D3D:0 D3E:3 D45:12 D46:3 D49:12 D4A:3 D4E:0 " ++
  "D4F:12 D54:0 D57:3 D58:12 D5F:0 D62:3 D64:12 D66:D D70:12 D7A:0 D80:12 D81:3 D84:12 " ++
  "D85:0 D97:12 D9A:0 DB2:12 DB3:0 DBC:12 DBD:0 DBE:12 DC0:0 DC7:12 DCA:3 DCB:12 DCF:3 " ++
  "DD5:12 DD6:3 DD7:12 DD8:3 DE0:12 DE6:D DF0:12 DF2:3 DF4:12 E31:3 E32:12 E34:3 E3B:12 " ++
  "E47:3 E4F:12 E50:D E5A:12 EB1:3 EB2:12 EB4:3 EBD:12 EC8:3 ECF:12 ED0:D EDA:12 F00:0 " ++
  "F01:12 F18:3 F1A:12 F20:D F2A:12 F35:3 F36:12 F37:3 F38:12 F39:3 F3A:12 F3E:3 F40:0 " ++
  "F48:12 F49:0 F6D:12 F71:3 F85:12 F86:3 F88:0 F8D:3 F98:12 F99:3 FBD:12 FC6:3 FC7:12 " ++
  "102B:3 103F:12 1040:D 104A:12 1056:3 105A:12 105E:3 1061:12 1062:3 1065:12 1067:3 " ++
  "106E:12 1071:3 1075:12 1082:3 108E:12 108F:3 1090:D 109A:3 109E:12 10A0:0 10C6:12 " ++
  "10C7:0 10C8:12 10CD:0 10CE:12 10D0:0 10FB:12 10FC:0 1249:12 124A:0 124E:12 1250:0 " ++
  "1257:12 1258:0 1259:12 125A:0 125E:12 1260:0 1289:12 128A:0 128E:12 1290:0 12B1:12 " ++
  "12B2:0 12B6:12 12B8:0 12BF:12 12C0:0 12C1:12 12C2:0 12C6:12 12C8:0 12D7:12 12D8:0 " ++
  "1311:12 1312:0 1316:12 1318:0 135B:12 135D:3 1360:12 1380:0 1390:12 13A0:0 13F6:12 " ++
  "13F8:0 13FE:12 1401:0 166D:12 166F:0 1680:10 1681:0 169B:12 16A0:0 16EB:12 16EE:0 " ++
  "16F9:12 1700:0 1712:3 1716:12 171F:0 1732:3 1735:12 1740:0 1752:3 1754:12 1760:0 " ++
  "176D:12 176E:0 1771:12 1772:3 1774:12 17B4:3 17D4:12 17DD:3 17DE:12 17E0:D 17EA:12 " ++
  "180B:3 180E:5 180F:3 1810:D 181A:12 1820:0 1879:12 1880:0 1885:3 1887:0 18A9:3 18AA:0 " ++
  "18AB:12 18B0:0 18F6:12 1900:0 191F:12 1920:3 192C:12 1930:3 193C:12 1946:D 1950:12 " ++
  "19D0:D 19DB:12 1A00:0 1A17:3 1A1C:12 1A55:3 1A5F:12 1A60:3 1A7D:12 1A7F:3 1A80:D " ++
  "1A8A:12 1A90:D 1A9A:12 1AB0:3 1ACF:12 1B00:3 1B05:0 1B34:3 1B45:0 1B4D:12 1B50:D " ++
  "1B5A:12 1B6B:3 1B74:12 1B80:3 1B83:0 1BA1:3 1BAE:0 1BB0:D 1BBA:0 1BE6:3 1BF4:12 1C00:0 " ++
  "1C24:3 1C38:12 1C40:D 1C4A:12 1C4D:0 1C50:D 1C5A:0 1C7E:12 1C80:0 1C8B:12 1C90:0 " ++
  "1CBB:12 1CBD:0 1CC0:12 1CD0:3 1CD3:12 1CD4:3 1CE9:0 1CED:3 1CEE:0 1CF4:3 1CF5:0 1CF7:3 " ++
  "1CFA:0 1CFB:12 1D00:0 1DC0:3 1E00:0 1F16:12 1F18:0 1F1E:12 1F20:0 1F46:12 1F48:0 " ++
  "1F4E:12 1F50:0 1F58:12 1F59:0 1F5A:12 1F5B:0 1F5C:12 1F5D:0 1F5E:12 1F5F:0 1F7E:12 " ++
  "1F80:0 1FB5:12 1FB6:0 1FBD:12 1FBE:0 1FBF:12 1FC2:0 1FC5:12 1FC6:0 1FCD:12 1FD0:0 " ++
  "1FD4:12 1FD6:0 1FDC:12 1FE0:0 1FED:12 1FF2:0 1FF5:12 1FF6:0 1FFD:12 2000:10 2007:12 " ++
  "2008:10 200B:12 200C:3 200D:11 200E:5 2010:12 2018:B 201A:12 2024:B 2025:12 2027:9 " ++
  "2028:C 202A:5 202F:4 2030:12 203F:4 2041:12 2044:A 2045:12 2054:4 2055:12 205F:10 " ++
  "2060:5 2065:12 2066:5 2070:12 2071:0 2072:12 207F:0 2080:12 2090:0 209D:12 20D0:3 " ++
  "20F1:12 2102:0 2103:12 2107:0 2108:12 210A:0 2114:12 2115:0 2116:12 2119:0 211E:12 " ++
  "2124:0 2125:12 2126:0 2127:12 2128:0 2129:12 212A:0 212E:12 212F:0 213A:12 213C:0 " ++
  "2140:12 2145:0 214A:12 214E:0 214F:12 2160:0 2189:12 24B6:0 24EA:12 2C00:0 2CE5:12 " ++
  "2CEB:0 2CEF:3 2CF2:0 2CF4:12 2D00:0 2D26:12 2D27:0 2D28:12 2D2D:0 2D2E:12 2D30:0 " ++
  "2D68:12 2D6F:0 2D70:12 2D7F:3 2D80:0 2D97:12 2DA0:0 2DA7:12 2DA8:0 2DAF:12 2DB0:0 " ++
  "2DB7:12 2DB8:0 2DBF:12 2DC0:0 2DC7:12 2DC8:0 2DCF:12 2DD0:0 2DD7:12 2DD8:0 2DDF:12 " ++
  "2DE0:3 2E00:12 2E2F:0 2E30:12 3000:10 3001:12 3005:0 3006:12 302A:3 3030:12 3031:7 " ++
  "3036:12 303B:0 303D:12 3099:3 309B:7 309D:12 30A0:7 30FB:12 30FC:7 3100:12 3105:0 " ++
  "3130:12 3131:0 318F:12 31A0:0 31C0:12 31F0:7 3200:12 32D0:7 32FF:12 3300:7 3358:12 " ++
  "A000:0 A48D:12 A4D0:0 A4FE:12 A500:0 A60D:12 A610:0 A620:D A62A:0 A62C:12 A640:0 A66F:3 " ++
  "A673:12 A674:3 A67E:12 A67F:0 A69E:3 A6A0:0 A6F0:3 A6F2:12 A708:0 A7CE:12 A7D0:0 " ++
  "A7D2:12 A7D3:0 A7D4:12 A7D5:0 A7DD:12 A7F2:0 A802:3 A803:0 A806:3 A807:0 A80B:3 A80C:0 " ++
  "A823:3 A828:12 A82C:3 A82D:12 A840:0 A874:12 A880:3 A882:0 A8B4:3 A8C6:12 A8D0:D " ++
  "A8DA:12 A8E0:3 A8F2:0 A8F8:12 A8FB:0 A8FC:12 A8FD:0 A8FF:3 A900:D A90A:0 A926:3 A92E:12 " ++
  "A930:0 A947:3 A954:12 A960:0 A97D:12 A980:3 A984:0 A9B3:3 A9C1:12 A9CF:0 A9D0:D A9DA:12 " ++
  "A9E5:3 A9E6:12 A9F0:D A9FA:12 AA00:0 AA29:3 AA37:12 AA40:0 AA43:3 AA44:0 AA4C:3 AA4E:12 " ++
  "AA50:D AA5A:12 AA7B:3 AA7E:12 AAB0:3 AAB1:12 AAB2:3 AAB5:12 AAB7:3 AAB9:12 AABE:3 " ++
  "AAC0:12 AAC1:3 AAC2:12 AAE0:0 AAEB:3 AAF0:12 AAF2:0 AAF5:3 AAF7:12 AB01:0 AB07:12 " ++
  "AB09:0 AB0F:12 AB11:0 AB17:12 AB20:0 AB27:12 AB28:0 AB2F:12 AB30:0 AB6A:12 AB70:0 " ++
  "ABE3:3 ABEB:12 ABEC:3 ABEE:12 ABF0:D ABFA:12 AC00:0 D7A4:12 D7B0:0 D7C7:12 D7CB:0 " ++
  "D7FC:12 FB00:0 FB07:12 FB13:0 FB18:12 FB1D:6 FB1E:3 FB1F:6 FB29:12 FB2A:6 FB37:12 " ++
  "FB38:6 FB3D:12 FB3E:6 FB3F:12 FB40:6 FB42:12 FB43:6 FB45:12 FB46:6 FB50:0 FBB2:12 " ++
  "FBD3:0 FD3E:12 FD50:0 FD90:12 FD92:0 FDC8:12 FDF0:0 FDFC:12 FE00:3 FE10:12 FE13:9 " ++
  "FE14:12 FE20:3 FE30:12 FE33:4 FE35:12 FE4D:4 FE50:A FE51:12 FE52:B FE53:12 FE54:A " ++
  "FE55:9 FE56:12 FE70:0 FE75:12 FE76:0 FEFD:12 FEFF:5 FF00:12 FF07:B FF08:12 FF0C:A " ++
  "FF0D:12 FF0E:B FF0F:12 FF10:D FF1A:9 FF1B:A FF1C:12 FF21:0 FF3B:12 FF3F:4 FF40:12 " ++
  "FF41:0 FF5B:12 FF66:7 FF9E:3 FFA0:0 FFBF:12 FFC2:0 FFC8:12 FFCA:0 FFD0:12 FFD2:0 " ++
  "FFD8:12 FFDA:0 FFDD:12 FFF9:5 FFFC:12 10000:0 1000C:12 1000D:0 10027:12 10028:0 " ++
  "1003B:12 1003C:0 1003E:12 1003F:0 1004E:12 10050:0 1005E:12 10080:0 100FB:12 10140:0 " ++
  "10175:12 101FD:3 101FE:12 10280:0 1029D:12 102A0:0 102D1:12 102E0:3 102E1:12 10300:0 " ++
  "10320:12 1032D:0 1034B:12 10350:0 10376:3 1037B:12 10380:0 1039E:12 103A0:0 103C4:12 " ++
  "103C8:0 103D0:12 103D1:0 103D6:12 10400:0 1049E:12 104A0:D 104AA:12 104B0:0 104D4:12 " ++
  "104D8:0 104FC:12 10500:0 10528:12 10530:0 10564:12 10570:0 1057B:12 1057C:0 1058B:12 " ++
  "1058C:0 10593:12 10594:0 10596:12 10597:0 105A2:12 105A3:0 105B2:12 105B3:0 105BA:12 " ++
  "105BB:0 105BD:12 105C0:0 105F4:12 10600:0 10737:12 10740:0 10756:12 10760:0 10768:12 " ++
  "10780:0 10786:12 10787:0 107B1:12 107B2:0 107BB:12 10800:0 10806:12 10808:0 10809:12 " ++
  "1080A:0 10836:12 10837:0 10839:12 1083C:0 1083D:12 1083F:0 10856:12 10860:0 10877:12 " ++
  "10880:0 1089F:12 108E0:0 108F3:12 108F4:0 108F6:12 10900:0 10916:12 10920:0 1093A:12 " ++
  "10980:0 109B8:12 109BE:0 109C0:12 10A00:0 10A01:3 10A04:12 10A05:3 10A07:12 10A0C:3 " ++
  "10A10:0 10A14:12 10A15:0 10A18:12 10A19:0 10A36:12 10A38:3 10A3B:12 10A3F:3 10A40:12 " ++
  "10A60:0 10A7D:12 10A80:0 10A9D:12 10AC0:0 10AC8:12 10AC9:0 10AE5:3 10AE7:12 10B00:0 " ++
  "10B36:12 10B40:0 10B56:12 10B60:0 10B73:12 10B80:0 10B92:12 10C00:0 10C49:12 10C80:0 " ++
  "10CB3:12 10CC0:0 10CF3:12 10D00:0 10D24:3 10D28:12 10D30:D 10D3A:12 10D40:D 10D4A:0 " ++
  "10D66:12 10D69:3 10D6E:12 10D6F:0 10D86:12 10E80:0 10EAA:12 10EAB:3 10EAD:12 10EB0:0 " ++
  "10EB2:12 10EC2:0 10EC5:12 10EFC:3 10F00:0 10F1D:12 10F27:0 10F28:12 10F30:0 10F46:3 " ++
  "10F51:12 10F70:0 10F82:3 10F86:12 10FB0:0 10FC5:12 10FE0:0 10FF7:12 11000:3 11003:0 " ++
  "11038:3 11047:12 11066:D 11070:3 11071:0 11073:3 11075:0 11076:12 1107F:3 11083:0 " ++
  "110B0:3 110BB:12 110BD:D 110BE:12 110C2:3 110C3:12 110CD:D 110CE:12 110D0:0 110E9:12 " ++
  "110F0:D 110FA:12 11100:3 11103:0 11127:3 11135:12 11136:D 11140:12 11144:0 11145:3 " ++
  "11147:0 11148:12 11150:0 11173:3 11174:12 11176:0 11177:12 11180:3 11183:0 111B3:3 " ++
  "111C1:0 111C5:12 111C9:3 111CD:12 111CE:3 111D0:D 111DA:0 111DB:12 111DC:0 111DD:12 " ++
  "11200:0 11212:12 11213:0 1122C:3 11238:12 1123E:3 1123F:0 11241:3 11242:12 11280:0 " ++
  "11287:12 11288:0 11289:12 1128A:0 1128E:12 1128F:0 1129E:12 1129F:0 112A9:12 112B0:0 " ++
  "112DF:3 112EB:12 112F0:D 112FA:12 11300:3 11304:12 11305:0 1130D:12 1130F:0 11311:12 " ++
  "11313:0 11329:12 1132A:0 11331:12 11332:0 11334:12 11335:0 1133A:12 1133B:3 1133D:0 " ++
  "1133E:3 11345:12 11347:3 11349:12 1134B:3 1134E:12 11350:0 11351:12 11357:3 11358:12 " ++
  "1135D:0 11362:3 11364:12 11366:3 1136D:12 11370:3 11375:12 11380:0 1138A:12 1138B:0 " ++
  "1138C:12 1138E:0 1138F:12 11390:0 113B6:12 113B7:0 113B8:3 113C1:12 113C2:3 113C3:12 " ++
  "113C5:3 113C6:12 113C7:3 113CB:12 113CC:3 113D1:0 113D2:3 113D3:0 113D4:12 113E1:3 ")

def wordBreakRunsText2 : String :=
  ("113E3:12 11400:0 11435:3 11447:0 1144B:12 11450:D 1145A:12 1145E:3 1145F:0 11462:12 " ++
  "11480:0 114B0:3 114C4:0 114C6:12 114C7:0 114C8:12 114D0:D 114DA:12 11580:0 115AF:3 " ++
  "115B6:12 115B8:3 115C1:12 115D8:0 115DC:3 115DE:12 11600:0 11630:3 11641:12 11644:0 " ++
  "11645:12 11650:D 1165A:12 11680:0 116AB:3 116B8:0 116B9:12 116C0:D 116CA:12 116D0:D " ++
  "116E4:12 1171D:3 1172C:12 11730:D 1173A:12 11800:0 1182C:3 1183B:12 118A0:0 118E0:D " ++
  "118EA:12 118FF:0 11907:12 11909:0 1190A:12 1190C:0 11914:12 11915:0 11917:12 11918:0 " ++
  "11930:3 11936:12 11937:3 11939:12 1193B:3 1193F:0 11940:3 11941:0 11942:3 11944:12 " ++
  "11950:D 1195A:12 119A0:0 119A8:12 119AA:0 119D1:3 119D8:12 119DA:3 119E1:0 119E2:12 " ++
  "119E3:0 119E4:3 119E5:12 11A00:0 11A01:3 11A0B:0 11A33:3 11A3A:0 11A3B:3 11A3F:12 " ++
  "11A47:3 11A48:12 11A50:0 11A51:3 11A5C:0 11A8A:3 11A9A:12 11A9D:0 11A9E:12 11AB0:0 " ++
  "11AF9:12 11BC0:0 11BE1:12 11BF0:D 11BFA:12 11C00:0 11C09:12 11C0A:0 11C2F:3 11C37:12 " ++
  "11C38:3 11C40:0 11C41:12 11C50:D 11C5A:12 11C72:0 11C90:12 11C92:3 11CA8:12 11CA9:3 " ++
  "11CB7:12 11D00:0 11D07:12 11D08:0 11D0A:12 11D0B:0 11D31:3 11D37:12 11D3A:3 11D3B:12 " ++
  "11D3C:3 11D3E:12 11D3F:3 11D46:0 11D47:3 11D48:12 11D50:D 11D5A:12 11D60:0 11D66:12 " ++
  "11D67:0 11D69:12 11D6A:0 11D8A:3 11D8F:12 11D90:3 11D92:12 11D93:3 11D98:0 11D99:12 " ++
  "11DA0:D 11DAA:12 11EE0:0 11EF3:3 11EF7:12 11F00:3 11F02:0 11F03:3 11F04:0 11F11:12 " ++
  "11F12:0 11F34:3 11F3B:12 11F3E:3 11F43:12 11F50:D 11F5A:3 11F5B:12 11FB0:0 11FB1:12 " ++
  "12000:0 1239A:12 12400:0 1246F:12 12480:0 12544:12 12F90:0 12FF1:12 13000:0 13430:5 " ++
  "13440:3 13441:0 13447:3 13456:12 13460:0 143FB:12 14400:0 14647:12 16100:0 1611E:3 " ++
  "16130:D 1613A:12 16800:0 16A39:12 16A40:0 16A5F:12 16A60:D 16A6A:12 16A70:0 16ABF:12 " ++
  "16AC0:D 16ACA:12 16AD0:0 16AEE:12 16AF0:3 16AF5:12 16B00:0 16B30:3 16B37:12 16B40:0 " ++
  "16B44:12 16B50:D 16B5A:12 16B63:0 16B78:12 16B7D:0 16B90:12 16D40:0 16D6D:12 16D70:D " ++
  "16D7A:12 16E40:0 16E80:12 16F00:0 16F4B:12 16F4F:3 16F50:0 16F51:3 16F88:12 16F8F:3 " ++
  "16F93:0 16FA0:12 16FE0:0 16FE2:12 16FE3:0 16FE4:3 16FE5:12 16FF0:3 16FF2:12 1AFF0:7 " ++
  "1AFF4:12 1AFF5:7 1AFFC:12 1AFFD:7 1AFFF:12 1B000:7 1B001:12 1B120:7 1B123:12 1B155:7 " ++
  "1B156:12 1B164:7 1B168:12 1BC00:0 1BC6B:12 1BC70:0 1BC7D:12 1BC80:0 1BC89:12 1BC90:0 " ++
  "1BC9A:12 1BC9D:3 1BC9F:12 1BCA0:5 1BCA4:12 1CCF0:D 1CCFA:12 1CF00:3 1CF2E:12 1CF30:3 " ++
  "1CF47:12 1D165:3 1D16A:12 1D16D:3 1D173:5 1D17B:3 1D183:12 1D185:3 1D18C:12 1D1AA:3 " ++
  "1D1AE:12 1D242:3 1D245:12 1D400:0 1D455:12 1D456:0 1D49D:12 1D49E:0 1D4A0:12 1D4A2:0 " ++
  "1D4A3:12 1D4A5:0 1D4A7:12 1D4A9:0 1D4AD:12 1D4AE:0 1D4BA:12 1D4BB:0 1D4BC:12 1D4BD:0 " ++
  "1D4C4:12 1D4C5:0 1D506:12 1D507:0 1D50B:12 1D50D:0 1D515:12 1D516:0 1D51D:12 1D51E:0 " ++
  "1D53A:12 1D53B:0 1D53F:12 1D540:0 1D545:12 1D546:0 1D547:12 1D54A:0 1D551:12 1D552:0 " ++
  "1D6A6:12 1D6A8:0 1D6C1:12 1D6C2:0 1D6DB:12 1D6DC:0 1D6FB:12 1D6FC:0 1D715:12 1D716:0 " ++
  "1D735:12 1D736:0 1D74F:12 1D750:0 1D76F:12 1D770:0 1D789:12 1D78A:0 1D7A9:12 1D7AA:0 " ++
  "1D7C3:12 1D7C4:0 1D7CC:12 1D7CE:D 1D800:12 1DA00:3 1DA37:12 1DA3B:3 1DA6D:12 1DA75:3 " ++
  "1DA76:12 1DA84:3 1DA85:12 1DA9B:3 1DAA0:12 1DAA1:3 1DAB0:12 1DF00:0 1DF1F:12 1DF25:0 " ++
  "1DF2B:12 1E000:3 1E007:12 1E008:3 1E019:12 1E01B:3 1E022:12 1E023:3 1E025:12 1E026:3 " ++
  "1E02B:12 1E030:0 1E06E:12 1E08F:3 1E090:12 1E100:0 1E12D:12 1E130:3 1E137:0 1E13E:12 " ++
  "1E140:D 1E14A:12 1E14E:0 1E14F:12 1E290:0 1E2AE:3 1E2AF:12 1E2C0:0 1E2EC:3 1E2F0:D " ++
  "1E2FA:12 1E4D0:0 1E4EC:3 1E4F0:D 1E4FA:12 1E5D0:0 1E5EE:3 1E5F0:0 1E5F1:D 1E5FB:12 " ++
  "1E7E0:0 1E7E7:12 1E7E8:0 1E7EC:12 1E7ED:0 1E7EF:12 1E7F0:0 1E7FF:12 1E800:0 1E8C5:12 " ++
  "1E8D0:3 1E8D7:12 1E900:0 1E944:3 1E94B:0 1E94C:12 1E950:D 1E95A:12 1EE00:0 1EE04:12 " ++
  "1EE05:0 1EE20:12 1EE21:0 1EE23:12 1EE24:0 1EE25:12 1EE27:0 1EE28:12 1EE29:0 1EE33:12 " ++
  "1EE34:0 1EE38:12 1EE39:0 1EE3A:12 1EE3B:0 1EE3C:12 1EE42:0 1EE43:12 1EE47:0 1EE48:12 " ++
  "1EE49:0 1EE4A:12 1EE4B:0 1EE4C:12 1EE4D:0 1EE50:12 1EE51:0 1EE53:12 1EE54:0 1EE55:12 " ++
  "1EE57:0 1EE58:12 1EE59:0 1EE5A:12 1EE5B:0 1EE5C:12 1EE5D:0 1EE5E:12 1EE5F:0 1EE60:12 " ++
  "1EE61:0 1EE63:12 1EE64:0 1EE65:12 1EE67:0 1EE6B:12 1EE6C:0 1EE73:12 1EE74:0 1EE78:12 " ++
  "1EE79:0 1EE7D:12 1EE7E:0 1EE7F:12 1EE80:0 1EE8A:12 1EE8B:0 1EE9C:12 1EEA1:0 1EEA4:12 " ++
  "1EEA5:0 1EEAA:12 1EEAB:0 1EEBC:12 1F130:0 1F14A:12 1F150:0 1F16A:12 1F170:0 1F18A:12 " ++
  "1F1E6:E 1F200:12 1F3FB:3 1F400:12 1FBF0:D 1FBFA:12 E0001:5 E0002:12 E0020:3 E0080:12 " ++
  "E0100:3 E01F0:12")

def wordBreakRuns : Array (Nat × Nat) := readPairs <|
  (wordBreakRunsText1 ++ wordBreakRunsText2)

def sentenceBreakNames : Array String := #[
  "ATerm", "CR", "Close", "Extend", "Format", "LF", "Lower", "Numeric", "OLetter", "SContinue",
  "STerm", "Sep", "Sp", "Upper"]

/-- The names and abbreviations of the values of Sentence_Break, normalized, with their
numbers. -/
def sentenceBreakAliases : List (String × Nat) := [
  ("at", 0),
  ("aterm", 0),
  ("cl", 2),
  ("close", 2),
  ("cr", 1),
  ("ex", 3),
  ("extend", 3),
  ("fo", 4),
  ("format", 4),
  ("le", 8),
  ("lf", 5),
  ("lo", 6),
  ("lower", 6),
  ("nu", 7),
  ("numeric", 7),
  ("oletter", 8),
  ("sc", 9),
  ("scontinue", 9),
  ("se", 11),
  ("sep", 11),
  ("sp", 12),
  ("st", 10),
  ("sterm", 10),
  ("up", 13),
  ("upper", 13)]

def sentenceBreakRunsText1 : String :=
  ("0:E 9:C A:5 B:C D:1 E:E 20:C 21:A 22:2 23:E 27:2 2A:E 2C:9 2E:0 2F:E 30:7 3A:9 3C:E " ++
  "3F:A 40:E 41:D 5B:2 5C:E 5D:2 5E:E 61:6 7B:2 7C:E 7D:2 7E:E 85:B 86:E A0:C A1:E AA:6 " ++
  "AB:2 AC:E AD:4 AE:E B5:6 B6:E BA:6 BB:2 BC:E C0:D D7:E D8:D DF:6 F7:E F8:6 100:D 101:6 " ++
  "102:D 103:6 104:D 105:6 106:D 107:6 108:D 109:6 10A:D 10B:6 10C:D 10D:6 10E:D 10F:6 " ++
  "110:D 111:6 112:D 113:6 114:D 115:6 116:D 117:6 118:D 119:6 11A:D 11B:6 11C:D 11D:6 " ++
  "11E:D 11F:6 120:D 121:6 122:D 123:6 124:D 125:6 126:D 127:6 128:D 129:6 12A:D 12B:6 " ++
  "12C:D 12D:6 12E:D 12F:6 130:D 131:6 132:D 133:6 134:D 135:6 136:D 137:6 139:D 13A:6 " ++
  "13B:D 13C:6 13D:D 13E:6 13F:D 140:6 141:D 142:6 143:D 144:6 145:D 146:6 147:D 148:6 " ++
  "14A:D 14B:6 14C:D 14D:6 14E:D 14F:6 150:D 151:6 152:D 153:6 154:D 155:6 156:D 157:6 " ++
  "158:D 159:6 15A:D 15B:6 15C:D 15D:6 15E:D 15F:6 160:D 161:6 162:D 163:6 164:D 165:6 " ++
  "166:D 167:6 168:D 169:6 16A:D 16B:6 16C:D 16D:6 16E:D 16F:6 170:D 171:6 172:D 173:6 " ++
  "174:D 175:6 176:D 177:6 178:D 17A:6 17B:D 17C:6 17D:D 17E:6 181:D 183:6 184:D 185:6 " ++
  "186:D 188:6 189:D 18C:6 18E:D 192:6 193:D 195:6 196:D 199:6 19C:D 19E:6 19F:D 1A1:6 " ++
  "1A2:D 1A3:6 1A4:D 1A5:6 1A6:D 1A8:6 1A9:D 1AA:6 1AC:D 1AD:6 1AE:D 1B0:6 1B1:D 1B4:6 " ++
  "1B5:D 1B6:6 1B7:D 1B9:6 1BB:8 1BC:D 1BD:6 1C0:8 1C4:D 1C6:6 1C7:D 1C9:6 1CA:D 1CC:6 " ++
  "1CD:D 1CE:6 1CF:D 1D0:6 1D1:D 1D2:6 1D3:D 1D4:6 1D5:D 1D6:6 1D7:D 1D8:6 1D9:D 1DA:6 " ++
  "1DB:D 1DC:6 1DE:D 1DF:6 1E0:D 1E1:6 1E2:D 1E3:6 1E4:D 1E5:6 1E6:D 1E7:6 1E8:D 1E9:6 " ++
  "1EA:D 1EB:6 1EC:D 1ED:6 1EE:D 1EF:6 1F1:D 1F3:6 1F4:D 1F5:6 1F6:D 1F9:6 1FA:D 1FB:6 " ++
  "1FC:D 1FD:6 1FE:D 1FF:6 200:D 201:6 202:D 203:6 204:D 205:6 206:D 207:6 208:D 209:6 " ++
  "20A:D 20B:6 20C:D 20D:6 20E:D 20F:6 210:D 211:6 212:D 213:6 214:D 215:6 216:D 217:6 " ++
  "218:D 219:6 21A:D 21B:6 21C:D 21D:6 21E:D 21F:6 220:D 221:6 222:D 223:6 224:D 225:6 " ++
  "226:D 227:6 228:D 229:6 22A:D 22B:6 22C:D 22D:6 22E:D 22F:6 230:D 231:6 232:D 233:6 " ++
  "23A:D 23C:6 23D:D 23F:6 241:D 242:6 243:D 247:6 248:D 249:6 24A:D 24B:6 24C:D 24D:6 " ++
  "24E:D 24F:6 294:8 295:6 2B9:8 2C0:6 2C2:E 2C6:8 2D2:E 2E0:6 2E5:E 2EC:8 2ED:E 2EE:8 " ++
  "2EF:E 300:3 370:D 371:6 372:D 373:6 374:8 375:E 376:D 377:6 378:E 37A:6 37E:9 37F:D " ++
  "380:E 386:D 387:E 388:D 38B:E 38C:D 38D:E 38E:D 390:6 391:D 3A2:E 3A3:D 3AC:6 3CF:D " ++
  "3D0:6 3D2:D 3D5:6 3D8:D 3D9:6 3DA:D 3DB:6 3DC:D 3DD:6 3DE:D 3DF:6 3E0:D 3E1:6 3E2:D " ++
  "3E3:6 3E4:D 3E5:6 3E6:D 3E7:6 3E8:D 3E9:6 3EA:D 3EB:6 3EC:D 3ED:6 3EE:D 3EF:6 3F4:D " ++
  "3F5:6 3F6:E 3F7:D 3F8:6 3F9:D 3FB:6 3FD:D 430:6 460:D 461:6 462:D 463:6 464:D 465:6 " ++
  "466:D 467:6 468:D 469:6 46A:D 46B:6 46C:D 46D:6 46E:D 46F:6 470:D 471:6 472:D 473:6 " ++
  "474:D 475:6 476:D 477:6 478:D 479:6 47A:D 47B:6 47C:D 47D:6 47E:D 47F:6 480:D 481:6 " ++
  "482:E 483:3 48A:D 48B:6 48C:D 48D:6 48E:D 48F:6 490:D 491:6 492:D 493:6 494:D 495:6 " ++
  "496:D 497:6 498:D 499:6 49A:D 49B:6 49C:D 49D:6 49E:D 49F:6 4A0:D 4A1:6 4A2:D 4A3:6 " ++
  "4A4:D 4A5:6 4A6:D 4A7:6 4A8:D 4A9:6 4AA:D 4AB:6 4AC:D 4AD:6 4AE:D 4AF:6 4B0:D 4B1:6 " ++
  "4B2:D 4B3:6 4B4:D 4B5:6 4B6:D 4B7:6 4B8:D 4B9:6 4BA:D 4BB:6 4BC:D 4BD:6 4BE:D 4BF:6 " ++
  "4C0:D 4C2:6 4C3:D 4C4:6 4C5:D 4C6:6 4C7:D 4C8:6 4C9:D 4CA:6 4CB:D 4CC:6 4CD:D 4CE:6 " ++
  "4D0:D 4D1:6 4D2:D 4D3:6 4D4:D 4D5:6 4D6:D 4D7:6 4D8:D 4D9:6 4DA:D 4DB:6 4DC:D 4DD:6 " ++
  "4DE:D 4DF:6 4E0:D 4E1:6 4E2:D 4E3:6 4E4:D 4E5:6 4E6:D 4E7:6 4E8:D 4E9:6 4EA:D 4EB:6 " ++
  "4EC:D 4ED:6 4EE:D 4EF:6 4F0:D 4F1:6 4F2:D 4F3:6 4F4:D 4F5:6 4F6:D 4F7:6 4F8:D 4F9:6 " ++
  "4FA:D 4FB:6 4FC:D 4FD:6 4FE:D 4FF:6 500:D 501:6 502:D 503:6 504:D 505:6 506:D 507:6 " ++
  "508:D 509:6 50A:D 50B:6 50C:D 50D:6 50E:D 50F:6 510:D 511:6 512:D 513:6 514:D 515:6 " ++
  "516:D 517:6 518:D 519:6 51A:D 51B:6 51C:D 51D:6 51E:D 51F:6 520:D 521:6 522:D 523:6 " ++
  "524:D 525:6 526:D 527:6 528:D 529:6 52A:D 52B:6 52C:D 52D:6 52E:D 52F:6 530:E 531:D " ++
  "557:E 559:8 55A:E 55D:9 55E:E 560:6 589:A 58A:E 591:3 5BE:E 5BF:3 5C0:E 5C1:3 5C3:E " ++
  "5C4:3 5C6:E 5C7:3 5C8:E 5D0:8 5EB:E 5EF:8 5F4:E 600:7 606:E 60C:9 60E:E 610:3 61B:E " ++
  "61C:4 61D:A 620:8 64B:3 660:7 66A:E 66B:7 66D:E 66E:8 670:3 671:8 6D4:A 6D5:8 6D6:3 " ++
  "6DD:7 6DE:E 6DF:3 6E5:8 6E7:3 6E9:E 6EA:3 6EE:8 6F0:7 6FA:8 6FD:E 6FF:8 700:A 703:E " ++
  "70F:4 710:8 711:3 712:8 730:3 74B:E 74D:8 7A6:3 7B1:8 7B2:E 7C0:7 7CA:8 7EB:3 7F4:8 " ++
  "7F6:E 7F8:9 7F9:A 7FA:8 7FB:E 7FD:3 7FE:E 800:8 816:3 81A:8 81B:3 824:8 825:3 828:8 " ++
  "829:3 82E:E 837:A 838:E 839:A 83A:E 83D:A 83F:E 840:8 859:3 85C:E 860:8 86B:E 870:8 " ++
  "888:E 889:8 88F:E 890:7 892:E 897:3 8A0:8 8CA:3 8E2:7 8E3:3 904:8 93A:3 93D:8 93E:3 " ++
  "950:8 951:3 958:8 962:3 964:A 966:7 970:E 971:8 981:3 984:E 985:8 98D:E 98F:8 991:E " ++
  "993:8 9A9:E 9AA:8 9B1:E 9B2:8 9B3:E 9B6:8 9BA:E 9BC:3 9BD:8 9BE:3 9C5:E 9C7:3 9C9:E " ++
  "9CB:3 9CE:8 9CF:E 9D7:3 9D8:E 9DC:8 9DE:E 9DF:8 9E2:3 9E4:E 9E6:7 9F0:8 9F2:E 9FC:8 " ++
  "9FD:E 9FE:3 9FF:E A01:3 A04:E A05:8 A0B:E A0F:8 A11:E A13:8 A29:E A2A:8 A31:E A32:8 " ++
  "A34:E A35:8 A37:E A38:8 A3A:E A3C:3 A3D:E A3E:3 A43:E A47:3 A49:E A4B:3 A4E:E A51:3 " ++
  "A52:E A59:8 A5D:E A5E:8 A5F:E A66:7 A70:3 A72:8 A75:3 A76:E A81:3 A84:E A85:8 A8E:E " ++
  "A8F:8 A92:E A93:8 AA9:E AAA:8 AB1:E AB2:8 AB4:E AB5:8 ABA:E ABC:3 ABD:8 ABE:3 AC6:E " ++
  "AC7:3 ACA:E ACB:3 ACE:E AD0:8 AD1:E AE0:8 AE2:3 AE4:E AE6:7 AF0:E AF9:8 AFA:3 B00:E " ++
  "B01:3 B04:E B05:8 B0D:E B0F:8 B11:E B13:8 B29:E B2A:8 B31:E B32:8 B34:E B35:8 B3A:E " ++
  "B3C:3 B3D:8 B3E:3 B45:E B47:3 B49:E B4B:3 B4E:E B55:3 B58:E B5C:8 B5E:E B5F:8 B62:3 " ++
  "B64:E B66:7 B70:E B71:8 B72:E B82:3 B83:8 B84:E B85:8 B8B:E B8E:8 B91:E B92:8 B96:E " ++
  "B99:8 B9B:E B9C:8 B9D:E B9E:8 BA0:E BA3:8 BA5:E BA8:8 BAB:E BAE:8 BBA:E BBE:3 BC3:E " ++
  "BC6:3 BC9:E BCA:3 BCE:E BD0:8 BD1:E BD7:3 BD8:E BE6:7 BF0:E C00:3 C05:8 C0D:E C0E:8 " ++
  "C11:E C12:8 C29:E C2A:8 C3A:E C3C:3 C3D:8 C3E:3 C45:E C46:3 C49:E C4A:3 C4E:E C55:3 " ++
  "C57:E C58:8 C5B:E C5D:8 C5E:E C60:8 C62:3 C64:E C66:7 C70:E C80:8 C81:3 C84:E C85:8 " ++
  "C8D:E C8E:8 C91:E C92:8 CA9:E CAA:8 CB4:E CB5:8 CBA:E CBC:3 CBD:8 CBE:3 CC5:E CC6:3 " ++
  "CC9:E CCA:3 CCE:E CD5:3 CD7:E CDD:8 CDF:E CE0:8 CE2:3 CE4:E CE6:7 CF0:E CF1:8 CF3:3 " ++
  "CF4:E D00:3 D04:8 D0D:E D0E:8 D11:E D12:8 D3B:3 D3D:8 D3E:3 D45:E D46:3 D49:E D4A:3 " ++
  "D4E:8 D4F:E D54:8 D57:3 D58:E D5F:8 D62:3 D64:E D66:7 D70:E D7A:8 D80:E D81:3 D84:E " ++
  "D85:8 D97:E D9A:8 DB2:E DB3:8 DBC:E DBD:8 DBE:E DC0:8 DC7:E DCA:3 DCB:E DCF:3 DD5:E " ++
  "DD6:3 DD7:E DD8:3 DE0:E DE6:7 DF0:E DF2:3 DF4:E E01:8 E31:3 E32:8 E34:3 E3B:E E40:8 " ++
  "E47:3 E4F:E E50:7 E5A:E E81:8 E83:E E84:8 E85:E E86:8 E8B:E E8C:8 EA4:E EA5:8 EA6:E " ++
  "EA7:8 EB1:3 EB2:8 EB4:3 EBD:8 EBE:E EC0:8 EC5:E EC6:8 EC7:E EC8:3 ECF:E ED0:7 EDA:E " ++
  "EDC:8 EE0:E F00:8 F01:E F18:3 F1A:E F20:7 F2A:E F35:3 F36:E F37:3 F38:E F39:3 F3A:2 " ++
  "F3E:3 F40:8 F48:E F49:8 F6D:E F71:3 F85:E F86:3 F88:8 F8D:3 F98:E F99:3 FBD:E FC6:3 " ++
  "FC7:E 1000:8 102B:3 103F:8 1040:7 104A:A 104C:E 1050:8 1056:3 105A:8 105E:3 1061:8 " ++
  "1062:3 1065:8 1067:3 106E:8 1071:3 1075:8 1082:3 108E:8 108F:3 1090:7 109A:3 109E:E " ++
  "10A0:D 10C6:E 10C7:D 10C8:E 10CD:D 10CE:E 10D0:8 10FB:E 10FC:6 10FD:8 1249:E 124A:8 " ++
  "124E:E 1250:8 1257:E 1258:8 1259:E 125A:8 125E:E 1260:8 1289:E 128A:8 128E:E 1290:8 " ++
  "12B1:E 12B2:8 12B6:E 12B8:8 12BF:E 12C0:8 12C1:E 12C2:8 12C6:E 12C8:8 12D7:E 12D8:8 " ++
  "1311:E 1312:8 1316:E 1318:8 135B:E 135D:3 1360:E 1362:A 1363:E 1367:A 1369:E 1380:8 " ++
  "1390:E 13A0:D 13F6:E 13F8:6 13FE:E 1401:8 166D:E 166E:A 166F:8 1680:C 1681:8 169B:2 " ++
  "169D:E 16A0:8 16EB:E 16EE:8 16F9:E 1700:8 1712:3 1716:E 171F:8 1732:3 1735:A 1737:E " ++
  "1740:8 1752:3 1754:E 1760:8 176D:E 176E:8 1771:E 1772:3 1774:E 1780:8 17B4:3 17D4:A " ++
  "17D6:E 17D7:8 17D8:E 17DC:8 17DD:3 17DE:E 17E0:7 17EA:E 1802:9 1803:A 1804:E 1808:9 " ++
  "1809:A 180A:E 180B:3 180E:4 180F:3 1810:7 181A:E 1820:8 1879:E 1880:8 1885:3 1887:8 " ++
  "18A9:3 18AA:8 18AB:E 18B0:8 18F6:E 1900:8 191F:E 1920:3 192C:E 1930:3 193C:E 1944:A " ++
  "1946:7 1950:8 196E:E 1970:8 1975:E 1980:8 19AC:E 19B0:8 19CA:E 19D0:7 19DB:E 1A00:8 " ++
  "1A17:3 1A1C:E 1A20:8 1A55:3 1A5F:E 1A60:3 1A7D:E 1A7F:3 1A80:7 1A8A:E 1A90:7 1A9A:E " ++
  "1AA7:8 1AA8:A 1AAC:E 1AB0:3 1ACF:E 1B00:3 1B05:8 1B34:3 1B45:8 1B4D:E 1B4E:A 1B50:7 " ++
  "1B5A:A 1B5C:E 1B5E:A 1B60:E 1B6B:3 1B74:E 1B7D:A 1B80:3 1B83:8 1BA1:3 1BAE:8 1BB0:7 " ++
  "1BBA:8 1BE6:3 1BF4:E 1C00:8 1C24:3 1C38:E 1C3B:A 1C3D:E 1C40:7 1C4A:E 1C4D:8 1C50:7 " ++
  "1C5A:8 1C7E:A 1C80:6 1C89:D 1C8A:6 1C8B:E 1C90:8 1CBB:E 1CBD:8 1CC0:E 1CD0:3 1CD3:E " ++
  "1CD4:3 1CE9:8 1CED:3 1CEE:8 1CF4:3 1CF5:8 1CF7:3 1CFA:8 1CFB:E 1D00:6 1DC0:3 1E00:D " ++
  "1E01:6 1E02:D 1E03:6 1E04:D 1E05:6 1E06:D 1E07:6 1E08:D 1E09:6 1E0A:D 1E0B:6 1E0C:D " ++
  "1E0D:6 1E0E:D 1E0F:6 1E10:D 1E11:6 1E12:D 1E13:6 1E14:D 1E15:6 1E16:D 1E17:6 1E18:D " ++
  "1E19:6 1E1A:D 1E1B:6 1E1C:D 1E1D:6 1E1E:D 1E1F:6 1E20:D 1E21:6 1E22:D 1E23:6 1E24:D " ++
  "1E25:6 1E26:D 1E27:6 1E28:D 1E29:6 1E2A:D 1E2B:6 1E2C:D 1E2D:6 1E2E:D 1E2F:6 1E30:D " ++
  "1E31:6 1E32:D 1E33:6 1E34:D 1E35:6 1E36:D 1E37:6 1E38:D 1E39:6 1E3A:D 1E3B:6 1E3C:D " ++
  "1E3D:6 1E3E:D 1E3F:6 1E40:D 1E41:6 1E42:D 1E43:6 1E44:D 1E45:6 1E46:D 1E47:6 1E48:D " ++
  "1E49:6 1E4A:D 1E4B:6 1E4C:D 1E4D:6 1E4E:D 1E4F:6 1E50:D 1E51:6 1E52:D 1E53:6 1E54:D " ++
  "1E55:6 1E56:D 1E57:6 1E58:D 1E59:6 1E5A:D 1E5B:6 1E5C:D 1E5D:6 1E5E:D 1E5F:6 1E60:D " ++
  "1E61:6 1E62:D 1E63:6 1E64:D 1E65:6 1E66:D 1E67:6 1E68:D 1E69:6 1E6A:D 1E6B:6 1E6C:D " ++
  "1E6D:6 1E6E:D 1E6F:6 1E70:D 1E71:6 1E72:D 1E73:6 1E74:D 1E75:6 1E76:D 1E77:6 1E78:D " ++
  "1E79:6 1E7A:D 1E7B:6 1E7C:D 1E7D:6 1E7E:D 1E7F:6 1E80:D 1E81:6 1E82:D 1E83:6 1E84:D " ++
  "1E85:6 1E86:D 1E87:6 1E88:D 1E89:6 1E8A:D 1E8B:6 1E8C:D 1E8D:6 1E8E:D 1E8F:6 1E90:D " ++
  "1E91:6 1E92:D 1E93:6 1E94:D 1E95:6 1E9E:D 1E9F:6 1EA0:D 1EA1:6 1EA2:D 1EA3:6 1EA4:D " ++
  "1EA5:6 1EA6:D 1EA7:6 1EA8:D 1EA9:6 1EAA:D 1EAB:6 1EAC:D 1EAD:6 1EAE:D 1EAF:6 1EB0:D " ++
  "1EB1:6 1EB2:D 1EB3:6 1EB4:D 1EB5:6 1EB6:D 1EB7:6 1EB8:D 1EB9:6 1EBA:D 1EBB:6 1EBC:D " ++
  "1EBD:6 1EBE:D 1EBF:6 1EC0:D 1EC1:6 1EC2:D 1EC3:6 1EC4:D 1EC5:6 1EC6:D 1EC7:6 1EC8:D " ++
  "1EC9:6 1ECA:D 1ECB:6 1ECC:D 1ECD:6 1ECE:D 1ECF:6 1ED0:D 1ED1:6 1ED2:D 1ED3:6 1ED4:D " ++
  "1ED5:6 1ED6:D 1ED7:6 1ED8:D 1ED9:6 1EDA:D 1EDB:6 1EDC:D 1EDD:6 1EDE:D 1EDF:6 1EE0:D " ++
  "1EE1:6 1EE2:D 1EE3:6 1EE4:D 1EE5:6 1EE6:D 1EE7:6 1EE8:D 1EE9:6 1EEA:D 1EEB:6 1EEC:D " ++
  "1EED:6 1EEE:D 1EEF:6 1EF0:D 1EF1:6 1EF2:D 1EF3:6 1EF4:D 1EF5:6 1EF6:D 1EF7:6 1EF8:D " ++
  "1EF9:6 1EFA:D 1EFB:6 1EFC:D 1EFD:6 1EFE:D 1EFF:6 1F08:D 1F10:6 1F16:E 1F18:D 1F1E:E " ++
  "1F20:6 1F28:D 1F30:6 1F38:D 1F40:6 1F46:E 1F48:D 1F4E:E 1F50:6 1F58:E 1F59:D 1F5A:E " ++
  "1F5B:D 1F5C:E 1F5D:D 1F5E:E 1F5F:D 1F60:6 1F68:D 1F70:6 1F7E:E 1F80:6 1F88:D 1F90:6 " ++
  "1F98:D 1FA0:6 1FA8:D 1FB0:6 1FB5:E 1FB6:6 1FB8:D 1FBD:E 1FBE:6 1FBF:E 1FC2:6 1FC5:E " ++
  "1FC6:6 1FC8:D 1FCD:E 1FD0:6 1FD4:E 1FD6:6 1FD8:D 1FDC:E 1FE0:6 1FE8:D 1FED:E 1FF2:6 ")

def sentenceBreakRunsText2 : String :=
  ("1FF5:E 1FF6:6 1FF8:D 1FFD:E 2000:C 200B:4 200C:3 200E:4 2010:E 2013:9 2015:E 2018:2 " ++
  "2020:E 2024:0 2025:E 2028:B 202A:4 202F:C 2030:E 2039:2 203B:E 203C:A 203E:E 2045:2 " ++
  "2047:A 204A:E 205F:C 2060:4 2065:E 2066:4 2070:E 2071:6 2072:E 207D:2 207F:6 2080:E " ++
  "208D:2 208F:E 2090:6 209D:E 20D0:3 20F1:E 2102:D 2103:E 2107:D 2108:E 210A:6 210B:D " ++
  "210E:6 2110:D 2113:6 2114:E 2115:D 2116:E 2119:D 211E:E 2124:D 2125:E 2126:D 2127:E " ++
  "2128:D 2129:E 212A:D 212E:E 212F:6 2130:D 2134:6 2135:8 2139:6 213A:E 213C:6 213E:D " ++
  "2140:E 2145:D 2146:6 214A:E 214E:6 214F:E 2160:D 2170:6 2180:8 2183:D 2184:6 2185:8 " ++
  "2189:E 2308:2 230C:E 2329:2 232B:E 24B6:D 24D0:6 24EA:E 275B:2 2761:E 2768:2 2776:E " ++
  "27C5:2 27C7:E 27E6:2 27F0:E 2983:2 2999:E 29D8:2 29DC:E 29FC:2 29FE:E 2C00:D 2C30:6 " ++
  "2C60:D 2C61:6 2C62:D 2C65:6 2C67:D 2C68:6 2C69:D 2C6A:6 2C6B:D 2C6C:6 2C6D:D 2C71:6 " ++
  "2C72:D 2C73:6 2C75:D 2C76:6 2C7E:D 2C81:6 2C82:D 2C83:6 2C84:D 2C85:6 2C86:D 2C87:6 " ++
  "2C88:D 2C89:6 2C8A:D 2C8B:6 2C8C:D 2C8D:6 2C8E:D 2C8F:6 2C90:D 2C91:6 2C92:D 2C93:6 " ++
  "2C94:D 2C95:6 2C96:D 2C97:6 2C98:D 2C99:6 2C9A:D 2C9B:6 2C9C:D 2C9D:6 2C9E:D 2C9F:6 " ++
  "2CA0:D 2CA1:6 2CA2:D 2CA3:6 2CA4:D 2CA5:6 2CA6:D 2CA7:6 2CA8:D 2CA9:6 2CAA:D 2CAB:6 " ++
  "2CAC:D 2CAD:6 2CAE:D 2CAF:6 2CB0:D 2CB1:6 2CB2:D 2CB3:6 2CB4:D 2CB5:6 2CB6:D 2CB7:6 " ++
  "2CB8:D 2CB9:6 2CBA:D 2CBB:6 2CBC:D 2CBD:6 2CBE:D 2CBF:6 2CC0:D 2CC1:6 2CC2:D 2CC3:6 " ++
  "2CC4:D 2CC5:6 2CC6:D 2CC7:6 2CC8:D 2CC9:6 2CCA:D 2CCB:6 2CCC:D 2CCD:6 2CCE:D 2CCF:6 " ++
  "2CD0:D 2CD1:6 2CD2:D 2CD3:6 2CD4:D 2CD5:6 2CD6:D 2CD7:6 2CD8:D 2CD9:6 2CDA:D 2CDB:6 " ++
  "2CDC:D 2CDD:6 2CDE:D 2CDF:6 2CE0:D 2CE1:6 2CE2:D 2CE3:6 2CE5:E 2CEB:D 2CEC:6 2CED:D " ++
  "2CEE:6 2CEF:3 2CF2:D 2CF3:6 2CF4:E 2CF9:A 2CFC:E 2D00:6 2D26:E 2D27:6 2D28:E 2D2D:6 " ++
  "2D2E:E 2D30:8 2D68:E 2D6F:8 2D70:E 2D7F:3 2D80:8 2D97:E 2DA0:8 2DA7:E 2DA8:8 2DAF:E " ++
  "2DB0:8 2DB7:E 2DB8:8 2DBF:E 2DC0:8 2DC7:E 2DC8:8 2DCF:E 2DD0:8 2DD7:E 2DD8:8 2DDF:E " ++
  "2DE0:3 2E00:2 2E0E:E 2E1C:2 2E1E:E 2E20:2 2E2A:E 2E2E:A 2E2F:8 2E30:E 2E3C:A 2E3D:E " ++
  "2E42:2 2E43:E 2E53:A 2E55:2 2E5D:E 3000:C 3001:9 3002:A 3003:E 3005:8 3008:2 3012:E " ++
  "3014:2 301C:E 301D:2 3020:E 3021:8 302A:3 3030:E 3031:8 3036:E 3038:8 303D:E 3041:8 " ++
  "3097:E 3099:3 309B:E 309D:8 30A0:E 30A1:8 30FB:E 30FC:8 3100:E 3105:8 3130:E 3131:8 " ++
  "318F:E 31A0:8 31C0:E 31F0:8 3200:E 3400:8 4DC0:E 4E00:8 A48D:E A4D0:8 A4FE:E A4FF:A " ++
  "A500:8 A60D:E A60E:A A610:8 A620:7 A62A:8 A62C:E A640:D A641:6 A642:D A643:6 A644:D " ++
  "A645:6 A646:D A647:6 A648:D A649:6 A64A:D A64B:6 A64C:D A64D:6 A64E:D A64F:6 A650:D " ++
  "A651:6 A652:D A653:6 A654:D A655:6 A656:D A657:6 A658:D A659:6 A65A:D A65B:6 A65C:D " ++
  "A65D:6 A65E:D A65F:6 A660:D A661:6 A662:D A663:6 A664:D A665:6 A666:D A667:6 A668:D " ++
  "A669:6 A66A:D A66B:6 A66C:D A66D:6 A66E:8 A66F:3 A673:E A674:3 A67E:E A67F:8 A680:D " ++
  "A681:6 A682:D A683:6 A684:D A685:6 A686:D A687:6 A688:D A689:6 A68A:D A68B:6 A68C:D " ++
  "A68D:6 A68E:D A68F:6 A690:D A691:6 A692:D A693:6 A694:D A695:6 A696:D A697:6 A698:D " ++
  "A699:6 A69A:D A69B:6 A69E:3 A6A0:8 A6F0:3 A6F2:E A6F3:A A6F4:E A6F7:A A6F8:E A717:8 " ++
  "A720:E A722:D A723:6 A724:D A725:6 A726:D A727:6 A728:D A729:6 A72A:D A72B:6 A72C:D " ++
  "A72D:6 A72E:D A72F:6 A732:D A733:6 A734:D A735:6 A736:D A737:6 A738:D A739:6 A73A:D " ++
  "A73B:6 A73C:D A73D:6 A73E:D A73F:6 A740:D A741:6 A742:D A743:6 A744:D A745:6 A746:D " ++
  "A747:6 A748:D A749:6 A74A:D A74B:6 A74C:D A74D:6 A74E:D A74F:6 A750:D A751:6 A752:D " ++
  "A753:6 A754:D A755:6 A756:D A757:6 A758:D A759:6 A75A:D A75B:6 A75C:D A75D:6 A75E:D " ++
  "A75F:6 A760:D A761:6 A762:D A763:6 A764:D A765:6 A766:D A767:6 A768:D A769:6 A76A:D " ++
  "A76B:6 A76C:D A76D:6 A76E:D A76F:6 A779:D A77A:6 A77B:D A77C:6 A77D:D A77F:6 A780:D " ++
  "A781:6 A782:D A783:6 A784:D A785:6 A786:D A787:6 A788:8 A789:E A78B:D A78C:6 A78D:D " ++
  "A78E:6 A78F:8 A790:D A791:6 A792:D A793:6 A796:D A797:6 A798:D A799:6 A79A:D A79B:6 " ++
  "A79C:D A79D:6 A79E:D A79F:6 A7A0:D A7A1:6 A7A2:D A7A3:6 A7A4:D A7A5:6 A7A6:D A7A7:6 " ++
  "A7A8:D A7A9:6 A7AA:D A7AF:6 A7B0:D A7B5:6 A7B6:D A7B7:6 A7B8:D A7B9:6 A7BA:D A7BB:6 " ++
  "A7BC:D A7BD:6 A7BE:D A7BF:6 A7C0:D A7C1:6 A7C2:D A7C3:6 A7C4:D A7C8:6 A7C9:D A7CA:6 " ++
  "A7CB:D A7CD:6 A7CE:E A7D0:D A7D1:6 A7D2:E A7D3:6 A7D4:E A7D5:6 A7D6:D A7D7:6 A7D8:D " ++
  "A7D9:6 A7DA:D A7DB:6 A7DC:D A7DD:E A7F2:6 A7F5:D A7F6:6 A7F7:8 A7F8:6 A7FB:8 A802:3 " ++
  "A803:8 A806:3 A807:8 A80B:3 A80C:8 A823:3 A828:E A82C:3 A82D:E A840:8 A874:E A876:A " ++
  "A878:E A880:3 A882:8 A8B4:3 A8C6:E A8CE:A A8D0:7 A8DA:E A8E0:3 A8F2:8 A8F8:E A8FB:8 " ++
  "A8FC:E A8FD:8 A8FF:3 A900:7 A90A:8 A926:3 A92E:E A92F:A A930:8 A947:3 A954:E A960:8 " ++
  "A97D:E A980:3 A984:8 A9B3:3 A9C1:E A9C8:A A9CA:E A9CF:8 A9D0:7 A9DA:E A9E0:8 A9E5:3 " ++
  "A9E6:8 A9F0:7 A9FA:8 A9FF:E AA00:8 AA29:3 AA37:E AA40:8 AA43:3 AA44:8 AA4C:3 AA4E:E " ++
  "AA50:7 AA5A:E AA5D:A AA60:8 AA77:E AA7A:8 AA7B:3 AA7E:8 AAB0:3 AAB1:8 AAB2:3 AAB5:8 " ++
  "AAB7:3 AAB9:8 AABE:3 AAC0:8 AAC1:3 AAC2:8 AAC3:E AADB:8 AADE:E AAE0:8 AAEB:3 AAF0:A " ++
  "AAF2:8 AAF5:3 AAF7:E AB01:8 AB07:E AB09:8 AB0F:E AB11:8 AB17:E AB20:8 AB27:E AB28:8 " ++
  "AB2F:E AB30:6 AB5B:E AB5C:6 AB6A:E AB70:6 ABC0:8 ABE3:3 ABEB:A ABEC:3 ABEE:E ABF0:7 " ++
  "ABFA:E AC00:8 D7A4:E D7B0:8 D7C7:E D7CB:8 D7FC:E F900:8 FA6E:E FA70:8 FADA:E FB00:6 " ++
  "FB07:E FB13:6 FB18:E FB1D:8 FB1E:3 FB1F:8 FB29:E FB2A:8 FB37:E FB38:8 FB3D:E FB3E:8 " ++
  "FB3F:E FB40:8 FB42:E FB43:8 FB45:E FB46:8 FBB2:E FBD3:8 FD3E:2 FD40:E FD50:8 FD90:E " ++
  "FD92:8 FDC8:E FDF0:8 FDFC:E FE00:3 FE10:9 FE12:A FE13:9 FE15:A FE17:2 FE19:E FE20:3 " ++
  "FE30:E FE31:9 FE33:E FE35:2 FE45:E FE47:2 FE49:E FE50:9 FE52:0 FE53:E FE54:9 FE56:A " ++
  "FE58:9 FE59:2 FE5F:E FE63:9 FE64:E FE70:8 FE75:E FE76:8 FEFD:E FEFF:4 FF00:E FF01:A " ++
  "FF02:E FF08:2 FF0A:E FF0C:9 FF0E:0 FF0F:E FF10:7 FF1A:9 FF1C:E FF1F:A FF20:E FF21:D " ++
  "FF3B:2 FF3C:E FF3D:2 FF3E:E FF41:6 FF5B:2 FF5C:E FF5D:2 FF5E:E FF5F:2 FF61:A FF62:2 " ++
  "FF64:9 FF65:E FF66:8 FF9E:3 FFA0:8 FFBF:E FFC2:8 FFC8:E FFCA:8 FFD0:E FFD2:8 FFD8:E " ++
  "FFDA:8 FFDD:E FFF9:4 FFFC:E 10000:8 1000C:E 1000D:8 10027:E 10028:8 1003B:E 1003C:8 " ++
  "1003E:E 1003F:8 1004E:E 10050:8 1005E:E 10080:8 100FB:E 10140:8 10175:E 101FD:3 101FE:E " ++
  "10280:8 1029D:E 102A0:8 102D1:E 102E0:3 102E1:E 10300:8 10320:E 1032D:8 1034B:E 10350:8 " ++
  "10376:3 1037B:E 10380:8 1039E:E 103A0:8 103C4:E 103C8:8 103D0:E 103D1:8 103D6:E 10400:D " ++
  "10428:6 10450:8 1049E:E 104A0:7 104AA:E 104B0:D 104D4:E 104D8:6 104FC:E 10500:8 10528:E " ++
  "10530:8 10564:E 10570:D 1057B:E 1057C:D 1058B:E 1058C:D 10593:E 10594:D 10596:E 10597:6 " ++
  "105A2:E 105A3:6 105B2:E 105B3:6 105BA:E 105BB:6 105BD:E 105C0:8 105F4:E 10600:8 10737:E " ++
  "10740:8 10756:E 10760:8 10768:E 10780:6 10781:8 10783:6 10786:E 10787:6 107B1:E 107B2:6 " ++
  "107BB:E 10800:8 10806:E 10808:8 10809:E 1080A:8 10836:E 10837:8 10839:E 1083C:8 1083D:E " ++
  "1083F:8 10856:E 10860:8 10877:E 10880:8 1089F:E 108E0:8 108F3:E 108F4:8 108F6:E 10900:8 " ++
  "10916:E 10920:8 1093A:E 10980:8 109B8:E 109BE:8 109C0:E 10A00:8 10A01:3 10A04:E 10A05:3 " ++
  "10A07:E 10A0C:3 10A10:8 10A14:E 10A15:8 10A18:E 10A19:8 10A36:E 10A38:3 10A3B:E 10A3F:3 " ++
  "10A40:E 10A56:A 10A58:E 10A60:8 10A7D:E 10A80:8 10A9D:E 10AC0:8 10AC8:E 10AC9:8 10AE5:3 " ++
  "10AE7:E 10B00:8 10B36:E 10B40:8 10B56:E 10B60:8 10B73:E 10B80:8 10B92:E 10C00:8 10C49:E " ++
  "10C80:D 10CB3:E 10CC0:6 10CF3:E 10D00:8 10D24:3 10D28:E 10D30:7 10D3A:E 10D40:7 10D4A:8 " ++
  "10D50:D 10D66:E 10D69:3 10D6E:E 10D6F:8 10D70:6 10D86:E 10E80:8 10EAA:E 10EAB:3 10EAD:E " ++
  "10EB0:8 10EB2:E 10EC2:8 10EC5:E 10EFC:3 10F00:8 10F1D:E 10F27:8 10F28:E 10F30:8 10F46:3 " ++
  "10F51:E 10F55:A 10F5A:E 10F70:8 10F82:3 10F86:A 10F8A:E 10FB0:8 10FC5:E 10FE0:8 10FF7:E " ++
  "11000:3 11003:8 11038:3 11047:A 11049:E 11066:7 11070:3 11071:8 11073:3 11075:8 11076:E " ++
  "1107F:3 11083:8 110B0:3 110BB:E 110BD:7 110BE:A 110C2:3 110C3:E 110CD:7 110CE:E 110D0:8 " ++
  "110E9:E 110F0:7 110FA:E 11100:3 11103:8 11127:3 11135:E 11136:7 11140:E 11141:A 11144:8 " ++
  "11145:3 11147:8 11148:E 11150:8 11173:3 11174:E 11176:8 11177:E 11180:3 11183:8 111B3:3 " ++
  "111C1:8 111C5:A 111C7:E 111C9:3 111CD:A 111CE:3 111D0:7 111DA:8 111DB:E 111DC:8 111DD:E " ++
  "111DE:A 111E0:E 11200:8 11212:E 11213:8 1122C:3 11238:A 1123A:E 1123B:A 1123D:E 1123E:3 " ++
  "1123F:8 11241:3 11242:E 11280:8 11287:E 11288:8 11289:E 1128A:8 1128E:E 1128F:8 1129E:E " ++
  "1129F:8 112A9:A 112AA:E 112B0:8 112DF:3 112EB:E 112F0:7 112FA:E 11300:3 11304:E 11305:8 " ++
  "1130D:E 1130F:8 11311:E 11313:8 11329:E 1132A:8 11331:E 11332:8 11334:E 11335:8 1133A:E " ++
  "1133B:3 1133D:8 1133E:3 11345:E 11347:3 11349:E 1134B:3 1134E:E 11350:8 11351:E 11357:3 " ++
  "11358:E 1135D:8 11362:3 11364:E 11366:3 1136D:E 11370:3 11375:E 11380:8 1138A:E 1138B:8 " ++
  "1138C:E 1138E:8 1138F:E 11390:8 113B6:E 113B7:8 113B8:3 113C1:E 113C2:3 113C3:E 113C5:3 " ++
  "113C6:E 113C7:3 113CB:E 113CC:3 113D1:8 113D2:3 113D3:8 113D4:A 113D6:E 113E1:3 113E3:E " ++
  "11400:8 11435:3 11447:8 1144B:A 1144D:E 11450:7 1145A:E 1145E:3 1145F:8 11462:E 11480:8 " ++
  "114B0:3 114C4:8 114C6:E 114C7:8 114C8:E 114D0:7 114DA:E 11580:8 115AF:3 115B6:E 115B8:3 " ++
  "115C1:E 115C2:A 115C4:E 115C9:A 115D8:8 115DC:3 115DE:E 11600:8 11630:3 11641:A 11643:E " ++
  "11644:8 11645:E 11650:7 1165A:E 11680:8 116AB:3 116B8:8 116B9:E 116C0:7 116CA:E 116D0:7 " ++
  "116E4:E 11700:8 1171B:E 1171D:3 1172C:E 11730:7 1173A:E 1173C:A 1173F:E 11740:8 11747:E " ++
  "11800:8 1182C:3 1183B:E 118A0:D 118C0:6 118E0:7 118EA:E 118FF:8 11907:E 11909:8 1190A:E " ++
  "1190C:8 11914:E 11915:8 11917:E 11918:8 11930:3 11936:E 11937:3 11939:E 1193B:3 1193F:8 " ++
  "11940:3 11941:8 11942:3 11944:A 11945:E 11946:A 11947:E 11950:7 1195A:E 119A0:8 119A8:E " ++
  "119AA:8 119D1:3 119D8:E 119DA:3 119E1:8 119E2:E 119E3:8 119E4:3 119E5:E 11A00:8 11A01:3 " ++
  "11A0B:8 11A33:3 11A3A:8 11A3B:3 11A3F:E 11A42:A 11A44:E 11A47:3 11A48:E 11A50:8 11A51:3 " ++
  "11A5C:8 11A8A:3 11A9A:E 11A9B:A 11A9D:8 11A9E:E 11AB0:8 11AF9:E 11BC0:8 11BE1:E 11BF0:7 " ++
  "11BFA:E 11C00:8 11C09:E 11C0A:8 11C2F:3 11C37:E 11C38:3 11C40:8 11C41:A 11C43:E 11C50:7 " ++
  "11C5A:E 11C72:8 11C90:E 11C92:3 11CA8:E 11CA9:3 11CB7:E 11D00:8 11D07:E 11D08:8 11D0A:E " ++
  "11D0B:8 11D31:3 11D37:E 11D3A:3 11D3B:E 11D3C:3 11D3E:E 11D3F:3 11D46:8 11D47:3 11D48:E " ++
  "11D50:7 11D5A:E 11D60:8 11D66:E 11D67:8 11D69:E 11D6A:8 11D8A:3 11D8F:E 11D90:3 11D92:E " ++
  "11D93:3 11D98:8 11D99:E 11DA0:7 11DAA:E 11EE0:8 11EF3:3 11EF7:A 11EF9:E 11F00:3 11F02:8 " ++
  "11F03:3 11F04:8 11F11:E 11F12:8 11F34:3 11F3B:E 11F3E:3 11F43:A 11F45:E 11F50:7 11F5A:3 " ++
  "11F5B:E 11FB0:8 11FB1:E 12000:8 1239A:E 12400:8 1246F:E 12480:8 12544:E 12F90:8 12FF1:E " ++
  "13000:8 13430:4 13440:3 13441:8 13447:3 13456:E 13460:8 143FB:E 14400:8 14647:E 16100:8 " ++
  "1611E:3 16130:7 1613A:E 16800:8 16A39:E 16A40:8 16A5F:E 16A60:7 16A6A:E 16A6E:A 16A70:8 " ++
  "16ABF:E 16AC0:7 16ACA:E 16AD0:8 16AEE:E 16AF0:3 16AF5:A 16AF6:E 16B00:8 16B30:3 16B37:A " ++
  "16B39:E 16B40:8 16B44:A 16B45:E 16B50:7 16B5A:E 16B63:8 16B78:E 16B7D:8 16B90:E 16D40:8 ")

def sentenceBreakRunsText3 : String :=
  ("16D6D:E 16D6E:A 16D70:7 16D7A:E 16E40:D 16E60:6 16E80:E 16E98:A 16E99:E 16F00:8 16F4B:E " ++
  "16F4F:3 16F50:8 16F51:3 16F88:E 16F8F:3 16F93:8 16FA0:E 16FE0:8 16FE2:E 16FE3:8 16FE4:3 " ++
  "16FE5:E 16FF0:3 16FF2:E 17000:8 187F8:E 18800:8 18CD6:E 18CFF:8 18D09:E 1AFF0:8 1AFF4:E " ++
  "1AFF5:8 1AFFC:E 1AFFD:8 1AFFF:E 1B000:8 1B123:E 1B132:8 1B133:E 1B150:8 1B153:E 1B155:8 " ++
  "1B156:E 1B164:8 1B168:E 1B170:8 1B2FC:E 1BC00:8 1BC6B:E 1BC70:8 1BC7D:E 1BC80:8 1BC89:E " ++
  "1BC90:8 1BC9A:E 1BC9D:3 1BC9F:A 1BCA0:4 1BCA4:E 1CCF0:7 1CCFA:E 1CF00:3 1CF2E:E 1CF30:3 " ++
  "1CF47:E 1D165:3 1D16A:E 1D16D:3 1D173:4 1D17B:3 1D183:E 1D185:3 1D18C:E 1D1AA:3 1D1AE:E " ++
  "1D242:3 1D245:E 1D400:D 1D41A:6 1D434:D 1D44E:6 1D455:E 1D456:6 1D468:D 1D482:6 1D49C:D " ++
  "1D49D:E 1D49E:D 1D4A0:E 1D4A2:D 1D4A3:E 1D4A5:D 1D4A7:E 1D4A9:D 1D4AD:E 1D4AE:D 1D4B6:6 " ++
  "1D4BA:E 1D4BB:6 1D4BC:E 1D4BD:6 1D4C4:E 1D4C5:6 1D4D0:D 1D4EA:6 1D504:D 1D506:E 1D507:D " ++
  "1D50B:E 1D50D:D 1D515:E 1D516:D 1D51D:E 1D51E:6 1D538:D 1D53A:E 1D53B:D 1D53F:E 1D540:D " ++
  "1D545:E 1D546:D 1D547:E 1D54A:D 1D551:E 1D552:6 1D56C:D 1D586:6 1D5A0:D 1D5BA:6 1D5D4:D " ++
  "1D5EE:6 1D608:D 1D622:6 1D63C:D 1D656:6 1D670:D 1D68A:6 1D6A6:E 1D6A8:D 1D6C1:E 1D6C2:6 " ++
  "1D6DB:E 1D6DC:6 1D6E2:D 1D6FB:E 1D6FC:6 1D715:E 1D716:6 1D71C:D 1D735:E 1D736:6 1D74F:E " ++
  "1D750:6 1D756:D 1D76F:E 1D770:6 1D789:E 1D78A:6 1D790:D 1D7A9:E 1D7AA:6 1D7C3:E 1D7C4:6 " ++
  "1D7CA:D 1D7CB:6 1D7CC:E 1D7CE:7 1D800:E 1DA00:3 1DA37:E 1DA3B:3 1DA6D:E 1DA75:3 1DA76:E " ++
  "1DA84:3 1DA85:E 1DA88:A 1DA89:E 1DA9B:3 1DAA0:E 1DAA1:3 1DAB0:E 1DF00:6 1DF0A:8 1DF0B:6 " ++
  "1DF1F:E 1DF25:6 1DF2B:E 1E000:3 1E007:E 1E008:3 1E019:E 1E01B:3 1E022:E 1E023:3 1E025:E " ++
  "1E026:3 1E02B:E 1E030:6 1E06E:E 1E08F:3 1E090:E 1E100:8 1E12D:E 1E130:3 1E137:8 1E13E:E " ++
  "1E140:7 1E14A:E 1E14E:8 1E14F:E 1E290:8 1E2AE:3 1E2AF:E 1E2C0:8 1E2EC:3 1E2F0:7 1E2FA:E " ++
  "1E4D0:8 1E4EC:3 1E4F0:7 1E4FA:E 1E5D0:8 1E5EE:3 1E5F0:8 1E5F1:7 1E5FB:E 1E7E0:8 1E7E7:E " ++
  "1E7E8:8 1E7EC:E 1E7ED:8 1E7EF:E 1E7F0:8 1E7FF:E 1E800:8 1E8C5:E 1E8D0:3 1E8D7:E 1E900:D " ++
  "1E922:6 1E944:3 1E94B:8 1E94C:E 1E950:7 1E95A:E 1EE00:8 1EE04:E 1EE05:8 1EE20:E 1EE21:8 " ++
  "1EE23:E 1EE24:8 1EE25:E 1EE27:8 1EE28:E 1EE29:8 1EE33:E 1EE34:8 1EE38:E 1EE39:8 1EE3A:E " ++
  "1EE3B:8 1EE3C:E 1EE42:8 1EE43:E 1EE47:8 1EE48:E 1EE49:8 1EE4A:E 1EE4B:8 1EE4C:E 1EE4D:8 " ++
  "1EE50:E 1EE51:8 1EE53:E 1EE54:8 1EE55:E 1EE57:8 1EE58:E 1EE59:8 1EE5A:E 1EE5B:8 1EE5C:E " ++
  "1EE5D:8 1EE5E:E 1EE5F:8 1EE60:E 1EE61:8 1EE63:E 1EE64:8 1EE65:E 1EE67:8 1EE6B:E 1EE6C:8 " ++
  "1EE73:E 1EE74:8 1EE78:E 1EE79:8 1EE7D:E 1EE7E:8 1EE7F:E 1EE80:8 1EE8A:E 1EE8B:8 1EE9C:E " ++
  "1EEA1:8 1EEA4:E 1EEA5:8 1EEAA:E 1EEAB:8 1EEBC:E 1F130:D 1F14A:E 1F150:D 1F16A:E 1F170:D " ++
  "1F18A:E 1F676:2 1F679:E 1FBF0:7 1FBFA:E 20000:8 2A6E0:E 2A700:8 2B73A:E 2B740:8 2B81E:E " ++
  "2B820:8 2CEA2:E 2CEB0:8 2EBE1:E 2EBF0:8 2EE5E:E 2F800:8 2FA1E:E 30000:8 3134B:E 31350:8 " ++
  "323B0:E E0001:4 E0002:E E0020:3 E0080:E E0100:3 E01F0:E")

def sentenceBreakRuns : Array (Nat × Nat) := readPairs <|
  (sentenceBreakRunsText1 ++ sentenceBreakRunsText2 ++ sentenceBreakRunsText3)

end CssBundle.Unicode
