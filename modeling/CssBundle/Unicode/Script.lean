import CssBundle.Unicode.Table

/-!
# Scripts

Every assigned code point belongs to one script (Script), `Common` for characters shared by
many and `Inherited` for marks that take the script of their base; a character also used by
some scripts other than its own lists them (Script_Extensions). Scripts are numbered by their
place in `scriptNames`; the number one past the last stands for the unassigned code points
(Unicode 16).
-/

namespace CssBundle.Unicode

def scriptNames : Array String := #[
  "Adlam", "Ahom", "Anatolian_Hieroglyphs", "Arabic", "Armenian", "Avestan", "Balinese",
  "Bamum", "Bassa_Vah", "Batak", "Bengali", "Bhaiksuki", "Bopomofo", "Brahmi", "Braille",
  "Buginese", "Buhid", "Canadian_Aboriginal", "Carian", "Caucasian_Albanian", "Chakma", "Cham",
  "Cherokee", "Chorasmian", "Common", "Coptic", "Cuneiform", "Cypriot", "Cypro_Minoan",
  "Cyrillic", "Deseret", "Devanagari", "Dives_Akuru", "Dogra", "Duployan",
  "Egyptian_Hieroglyphs", "Elbasan", "Elymaic", "Ethiopic", "Garay", "Georgian", "Glagolitic",
  "Gothic", "Grantha", "Greek", "Gujarati", "Gunjala_Gondi", "Gurmukhi", "Gurung_Khema", "Han",
  "Hangul", "Hanifi_Rohingya", "Hanunoo", "Hatran", "Hebrew", "Hiragana", "Imperial_Aramaic",
  "Inherited", "Inscriptional_Pahlavi", "Inscriptional_Parthian", "Javanese", "Kaithi",
  "Kannada", "Katakana", "Kawi", "Kayah_Li", "Kharoshthi", "Khitan_Small_Script", "Khmer",
  "Khojki", "Khudawadi", "Kirat_Rai", "Lao", "Latin", "Lepcha", "Limbu", "Linear_A", "Linear_B",
  "Lisu", "Lycian", "Lydian", "Mahajani", "Makasar", "Malayalam", "Mandaic", "Manichaean",
  "Marchen", "Masaram_Gondi", "Medefaidrin", "Meetei_Mayek", "Mende_Kikakui",
  "Meroitic_Cursive", "Meroitic_Hieroglyphs", "Miao", "Modi", "Mongolian", "Mro", "Multani",
  "Myanmar", "Nabataean", "Nag_Mundari", "Nandinagari", "New_Tai_Lue", "Newa", "Nko", "Nushu",
  "Nyiakeng_Puachue_Hmong", "Ogham", "Ol_Chiki", "Ol_Onal", "Old_Hungarian", "Old_Italic",
  "Old_North_Arabian", "Old_Permic", "Old_Persian", "Old_Sogdian", "Old_South_Arabian",
  "Old_Turkic", "Old_Uyghur", "Oriya", "Osage", "Osmanya", "Pahawh_Hmong", "Palmyrene",
  "Pau_Cin_Hau", "Phags_Pa", "Phoenician", "Psalter_Pahlavi", "Rejang", "Runic", "Samaritan",
  "Saurashtra", "Sharada", "Shavian", "Siddham", "SignWriting", "Sinhala", "Sogdian",
  "Sora_Sompeng", "Soyombo", "Sundanese", "Sunuwar", "Syloti_Nagri", "Syriac", "Tagalog",
  "Tagbanwa", "Tai_Le", "Tai_Tham", "Tai_Viet", "Takri", "Tamil", "Tangsa", "Tangut", "Telugu",
  "Thaana", "Thai", "Tibetan", "Tifinagh", "Tirhuta", "Todhri", "Toto", "Tulu_Tigalari",
  "Ugaritic", "Vai", "Vithkuqi", "Wancho", "Warang_Citi", "Yezidi", "Yi", "Zanabazar_Square"]

def unknownScript : Nat := scriptNames.size

/-- The names of the scripts and their abbreviations, normalized, with the scripts' numbers. -/
def scriptAliases : List (String × Nat) := [
  ("adlam", 0),
  ("adlm", 0),
  ("ahom", 1),
  ("anatolianhieroglyphs", 2),
  ("hluw", 2),
  ("arab", 3),
  ("arabic", 3),
  ("armenian", 4),
  ("armn", 4),
  ("avestan", 5),
  ("avst", 5),
  ("bali", 6),
  ("balinese", 6),
  ("bamu", 7),
  ("bamum", 7),
  ("bass", 8),
  ("bassavah", 8),
  ("batak", 9),
  ("batk", 9),
  ("beng", 10),
  ("bengali", 10),
  ("bhaiksuki", 11),
  ("bhks", 11),
  ("bopo", 12),
  ("bopomofo", 12),
  ("brah", 13),
  ("brahmi", 13),
  ("brai", 14),
  ("braille", 14),
  ("bugi", 15),
  ("buginese", 15),
  ("buhd", 16),
  ("buhid", 16),
  ("canadianaboriginal", 17),
  ("cans", 17),
  ("cari", 18),
  ("carian", 18),
  ("aghb", 19),
  ("caucasianalbanian", 19),
  ("cakm", 20),
  ("chakma", 20),
  ("cham", 21),
  ("cher", 22),
  ("cherokee", 22),
  ("chorasmian", 23),
  ("chrs", 23),
  ("common", 24),
  ("zyyy", 24),
  ("copt", 25),
  ("coptic", 25),
  ("qaac", 25),
  ("cuneiform", 26),
  ("xsux", 26),
  ("cprt", 27),
  ("cypriot", 27),
  ("cpmn", 28),
  ("cyprominoan", 28),
  ("cyrillic", 29),
  ("cyrl", 29),
  ("deseret", 30),
  ("dsrt", 30),
  ("deva", 31),
  ("devanagari", 31),
  ("diak", 32),
  ("divesakuru", 32),
  ("dogr", 33),
  ("dogra", 33),
  ("dupl", 34),
  ("duployan", 34),
  ("egyp", 35),
  ("egyptianhieroglyphs", 35),
  ("elba", 36),
  ("elbasan", 36),
  ("elym", 37),
  ("elymaic", 37),
  ("ethi", 38),
  ("ethiopic", 38),
  ("gara", 39),
  ("garay", 39),
  ("geor", 40),
  ("georgian", 40),
  ("glag", 41),
  ("glagolitic", 41),
  ("goth", 42),
  ("gothic", 42),
  ("gran", 43),
  ("grantha", 43),
  ("greek", 44),
  ("grek", 44),
  ("gujarati", 45),
  ("gujr", 45),
  ("gong", 46),
  ("gunjalagondi", 46),
  ("gurmukhi", 47),
  ("guru", 47),
  ("gukh", 48),
  ("gurungkhema", 48),
  ("han", 49),
  ("hani", 49),
  ("hang", 50),
  ("hangul", 50),
  ("hanifirohingya", 51),
  ("rohg", 51),
  ("hano", 52),
  ("hanunoo", 52),
  ("hatr", 53),
  ("hatran", 53),
  ("hebr", 54),
  ("hebrew", 54),
  ("hira", 55),
  ("hiragana", 55),
  ("armi", 56),
  ("imperialaramaic", 56),
  ("inherited", 57),
  ("qaai", 57),
  ("zinh", 57),
  ("inscriptionalpahlavi", 58),
  ("phli", 58),
  ("inscriptionalparthian", 59),
  ("prti", 59),
  ("java", 60),
  ("javanese", 60),
  ("kaithi", 61),
  ("kthi", 61),
  ("kannada", 62),
  ("knda", 62),
  ("kana", 63),
  ("katakana", 63),
  ("kawi", 64),
  ("kali", 65),
  ("kayahli", 65),
  ("khar", 66),
  ("kharoshthi", 66),
  ("khitansmallscript", 67),
  ("kits", 67),
  ("khmer", 68),
  ("khmr", 68),
  ("khoj", 69),
  ("khojki", 69),
  ("khudawadi", 70),
  ("sind", 70),
  ("kiratrai", 71),
  ("krai", 71),
  ("lao", 72),
  ("laoo", 72),
  ("latin", 73),
  ("latn", 73),
  ("lepc", 74),
  ("lepcha", 74),
  ("limb", 75),
  ("limbu", 75),
  ("lina", 76),
  ("lineara", 76),
  ("linb", 77),
  ("linearb", 77),
  ("lisu", 78),
  ("lyci", 79),
  ("lycian", 79),
  ("lydi", 80),
  ("lydian", 80),
  ("mahajani", 81),
  ("mahj", 81),
  ("maka", 82),
  ("makasar", 82),
  ("malayalam", 83),
  ("mlym", 83),
  ("mand", 84),
  ("mandaic", 84),
  ("mani", 85),
  ("manichaean", 85),
  ("marc", 86),
  ("marchen", 86),
  ("gonm", 87),
  ("masaramgondi", 87),
  ("medefaidrin", 88),
  ("medf", 88),
  ("meeteimayek", 89),
  ("mtei", 89),
  ("mend", 90),
  ("mendekikakui", 90),
  ("merc", 91),
  ("meroiticcursive", 91),
  ("mero", 92),
  ("meroitichieroglyphs", 92),
  ("miao", 93),
  ("plrd", 93),
  ("modi", 94),
  ("mong", 95),
  ("mongolian", 95),
  ("mro", 96),
  ("mroo", 96),
  ("mult", 97),
  ("multani", 97),
  ("myanmar", 98),
  ("mymr", 98),
  ("nabataean", 99),
  ("nbat", 99),
  ("nagm", 100),
  ("nagmundari", 100),
  ("nand", 101),
  ("nandinagari", 101),
  ("newtailue", 102),
  ("talu", 102),
  ("newa", 103),
  ("nko", 104),
  ("nkoo", 104),
  ("nshu", 105),
  ("nushu", 105),
  ("hmnp", 106),
  ("nyiakengpuachuehmong", 106),
  ("ogam", 107),
  ("ogham", 107),
  ("olchiki", 108),
  ("olck", 108),
  ("olonal", 109),
  ("onao", 109),
  ("hung", 110),
  ("oldhungarian", 110),
  ("ital", 111),
  ("olditalic", 111),
  ("narb", 112),
  ("oldnortharabian", 112),
  ("oldpermic", 113),
  ("perm", 113),
  ("oldpersian", 114),
  ("xpeo", 114),
  ("oldsogdian", 115),
  ("sogo", 115),
  ("oldsoutharabian", 116),
  ("sarb", 116),
  ("oldturkic", 117),
  ("orkh", 117),
  ("olduyghur", 118),
  ("ougr", 118),
  ("oriya", 119),
  ("orya", 119),
  ("osage", 120),
  ("osge", 120),
  ("osma", 121),
  ("osmanya", 121),
  ("hmng", 122),
  ("pahawhhmong", 122),
  ("palm", 123),
  ("palmyrene", 123),
  ("pauc", 124),
  ("paucinhau", 124),
  ("phag", 125),
  ("phagspa", 125),
  ("phnx", 126),
  ("phoenician", 126),
  ("phlp", 127),
  ("psalterpahlavi", 127),
  ("rejang", 128),
  ("rjng", 128),
  ("runic", 129),
  ("runr", 129),
  ("samaritan", 130),
  ("samr", 130),
  ("saur", 131),
  ("saurashtra", 131),
  ("sharada", 132),
  ("shrd", 132),
  ("shavian", 133),
  ("shaw", 133),
  ("sidd", 134),
  ("siddham", 134),
  ("sgnw", 135),
  ("signwriting", 135),
  ("sinh", 136),
  ("sinhala", 136),
  ("sogd", 137),
  ("sogdian", 137),
  ("sora", 138),
  ("sorasompeng", 138),
  ("soyo", 139),
  ("soyombo", 139),
  ("sund", 140),
  ("sundanese", 140),
  ("sunu", 141),
  ("sunuwar", 141),
  ("sylo", 142),
  ("sylotinagri", 142),
  ("syrc", 143),
  ("syriac", 143),
  ("tagalog", 144),
  ("tglg", 144),
  ("tagb", 145),
  ("tagbanwa", 145),
  ("taile", 146),
  ("tale", 146),
  ("lana", 147),
  ("taitham", 147),
  ("taiviet", 148),
  ("tavt", 148),
  ("takr", 149),
  ("takri", 149),
  ("tamil", 150),
  ("taml", 150),
  ("tangsa", 151),
  ("tnsa", 151),
  ("tang", 152),
  ("tangut", 152),
  ("telu", 153),
  ("telugu", 153),
  ("thaa", 154),
  ("thaana", 154),
  ("thai", 155),
  ("tibetan", 156),
  ("tibt", 156),
  ("tfng", 157),
  ("tifinagh", 157),
  ("tirh", 158),
  ("tirhuta", 158),
  ("todhri", 159),
  ("todr", 159),
  ("toto", 160),
  ("tulutigalari", 161),
  ("tutg", 161),
  ("ugar", 162),
  ("ugaritic", 162),
  ("vai", 163),
  ("vaii", 163),
  ("vith", 164),
  ("vithkuqi", 164),
  ("wancho", 165),
  ("wcho", 165),
  ("wara", 166),
  ("warangciti", 166),
  ("yezi", 167),
  ("yezidi", 167),
  ("yi", 168),
  ("yiii", 168),
  ("zanabazarsquare", 169),
  ("zanb", 169)]

def scriptRunsText1 : String :=
  "0:18 41:49 5B:18 61:49 7B:18 AA:49 AB:18 BA:49 BB:18 C0:49 D7:18 D8:49 F7:18 F8:49 2B9:18 " ++
  "2E0:49 2E5:18 2EA:C 2EC:18 300:39 370:2C 374:18 375:2C 378:AA 37A:2C 37E:18 37F:2C 380:AA " ++
  "384:2C 385:18 386:2C 387:18 388:2C 38B:AA 38C:2C 38D:AA 38E:2C 3A2:AA 3A3:2C 3E2:19 3F0:2C " ++
  "400:1D 485:39 487:1D 530:AA 531:4 557:AA 559:4 58B:AA 58D:4 590:AA 591:36 5C8:AA 5D0:36 " ++
  "5EB:AA 5EF:36 5F5:AA 600:3 605:18 606:3 60C:18 60D:3 61B:18 61C:3 61F:18 620:3 640:18 641:3 " ++
  "64B:39 656:3 670:39 671:3 6DD:18 6DE:3 700:8F 70E:AA 70F:8F 74B:AA 74D:8F 750:3 780:9A " ++
  "7B2:AA 7C0:68 7FB:AA 7FD:68 800:82 82E:AA 830:82 83F:AA 840:54 85C:AA 85E:54 85F:AA 860:8F " ++
  "86B:AA 870:3 88F:AA 890:3 892:AA 897:3 8E2:18 8E3:3 900:1F 951:39 955:1F 964:18 966:1F 980:A " ++
  "984:AA 985:A 98D:AA 98F:A 991:AA 993:A 9A9:AA 9AA:A 9B1:AA 9B2:A 9B3:AA 9B6:A 9BA:AA 9BC:A " ++
  "9C5:AA 9C7:A 9C9:AA 9CB:A 9CF:AA 9D7:A 9D8:AA 9DC:A 9DE:AA 9DF:A 9E4:AA 9E6:A 9FF:AA A01:2F " ++
  "A04:AA A05:2F A0B:AA A0F:2F A11:AA A13:2F A29:AA A2A:2F A31:AA A32:2F A34:AA A35:2F A37:AA " ++
  "A38:2F A3A:AA A3C:2F A3D:AA A3E:2F A43:AA A47:2F A49:AA A4B:2F A4E:AA A51:2F A52:AA A59:2F " ++
  "A5D:AA A5E:2F A5F:AA A66:2F A77:AA A81:2D A84:AA A85:2D A8E:AA A8F:2D A92:AA A93:2D AA9:AA " ++
  "AAA:2D AB1:AA AB2:2D AB4:AA AB5:2D ABA:AA ABC:2D AC6:AA AC7:2D ACA:AA ACB:2D ACE:AA AD0:2D " ++
  "AD1:AA AE0:2D AE4:AA AE6:2D AF2:AA AF9:2D B00:AA B01:77 B04:AA B05:77 B0D:AA B0F:77 B11:AA " ++
  "B13:77 B29:AA B2A:77 B31:AA B32:77 B34:AA B35:77 B3A:AA B3C:77 B45:AA B47:77 B49:AA B4B:77 " ++
  "B4E:AA B55:77 B58:AA B5C:77 B5E:AA B5F:77 B64:AA B66:77 B78:AA B82:96 B84:AA B85:96 B8B:AA " ++
  "B8E:96 B91:AA B92:96 B96:AA B99:96 B9B:AA B9C:96 B9D:AA B9E:96 BA0:AA BA3:96 BA5:AA BA8:96 " ++
  "BAB:AA BAE:96 BBA:AA BBE:96 BC3:AA BC6:96 BC9:AA BCA:96 BCE:AA BD0:96 BD1:AA BD7:96 BD8:AA " ++
  "BE6:96 BFB:AA C00:99 C0D:AA C0E:99 C11:AA C12:99 C29:AA C2A:99 C3A:AA C3C:99 C45:AA C46:99 " ++
  "C49:AA C4A:99 C4E:AA C55:99 C57:AA C58:99 C5B:AA C5D:99 C5E:AA C60:99 C64:AA C66:99 C70:AA " ++
  "C77:99 C80:3E C8D:AA C8E:3E C91:AA C92:3E CA9:AA CAA:3E CB4:AA CB5:3E CBA:AA CBC:3E CC5:AA " ++
  "CC6:3E CC9:AA CCA:3E CCE:AA CD5:3E CD7:AA CDD:3E CDF:AA CE0:3E CE4:AA CE6:3E CF0:AA CF1:3E " ++
  "CF4:AA D00:53 D0D:AA D0E:53 D11:AA D12:53 D45:AA D46:53 D49:AA D4A:53 D50:AA D54:53 D64:AA " ++
  "D66:53 D80:AA D81:88 D84:AA D85:88 D97:AA D9A:88 DB2:AA DB3:88 DBC:AA DBD:88 DBE:AA DC0:88 " ++
  "DC7:AA DCA:88 DCB:AA DCF:88 DD5:AA DD6:88 DD7:AA DD8:88 DE0:AA DE6:88 DF0:AA DF2:88 DF5:AA " ++
  "E01:9B E3B:AA E3F:18 E40:9B E5C:AA E81:48 E83:AA E84:48 E85:AA E86:48 E8B:AA E8C:48 EA4:AA " ++
  "EA5:48 EA6:AA EA7:48 EBE:AA EC0:48 EC5:AA EC6:48 EC7:AA EC8:48 ECF:AA ED0:48 EDA:AA EDC:48 " ++
  "EE0:AA F00:9C F48:AA F49:9C F6D:AA F71:9C F98:AA F99:9C FBD:AA FBE:9C FCD:AA FCE:9C FD5:18 " ++
  "FD9:9C FDB:AA 1000:62 10A0:28 10C6:AA 10C7:28 10C8:AA 10CD:28 10CE:AA 10D0:28 10FB:18 " ++
  "10FC:28 1100:32 1200:26 1249:AA 124A:26 124E:AA 1250:26 1257:AA 1258:26 1259:AA 125A:26 " ++
  "125E:AA 1260:26 1289:AA 128A:26 128E:AA 1290:26 12B1:AA 12B2:26 12B6:AA 12B8:26 12BF:AA " ++
  "12C0:26 12C1:AA 12C2:26 12C6:AA 12C8:26 12D7:AA 12D8:26 1311:AA 1312:26 1316:AA 1318:26 " ++
  "135B:AA 135D:26 137D:AA 1380:26 139A:AA 13A0:16 13F6:AA 13F8:16 13FE:AA 1400:11 1680:6B " ++
  "169D:AA 16A0:81 16EB:18 16EE:81 16F9:AA 1700:90 1716:AA 171F:90 1720:34 1735:18 1737:AA " ++
  "1740:10 1754:AA 1760:91 176D:AA 176E:91 1771:AA 1772:91 1774:AA 1780:44 17DE:AA 17E0:44 " ++
  "17EA:AA 17F0:44 17FA:AA 1800:5F 1802:18 1804:5F 1805:18 1806:5F 181A:AA 1820:5F 1879:AA " ++
  "1880:5F 18AB:AA 18B0:11 18F6:AA 1900:4B 191F:AA 1920:4B 192C:AA 1930:4B 193C:AA 1940:4B " ++
  "1941:AA 1944:4B 1950:92 196E:AA 1970:92 1975:AA 1980:66 19AC:AA 19B0:66 19CA:AA 19D0:66 " ++
  "19DB:AA 19DE:66 19E0:44 1A00:F 1A1C:AA 1A1E:F 1A20:93 1A5F:AA 1A60:93 1A7D:AA 1A7F:93 " ++
  "1A8A:AA 1A90:93 1A9A:AA 1AA0:93 1AAE:AA 1AB0:39 1ACF:AA 1B00:6 1B4D:AA 1B4E:6 1B80:8C 1BC0:9 " ++
  "1BF4:AA 1BFC:9 1C00:4A 1C38:AA 1C3B:4A 1C4A:AA 1C4D:4A 1C50:6C 1C80:1D 1C8B:AA 1C90:28 " ++
  "1CBB:AA 1CBD:28 1CC0:8C 1CC8:AA 1CD0:39 1CD3:18 1CD4:39 1CE1:18 1CE2:39 1CE9:18 1CED:39 " ++
  "1CEE:18 1CF4:39 1CF5:18 1CF8:39 1CFA:18 1CFB:AA 1D00:49 1D26:2C 1D2B:1D 1D2C:49 1D5D:2C " ++
  "1D62:49 1D66:2C 1D6B:49 1D78:1D 1D79:49 1DBF:2C 1DC0:39 1E00:49 1F00:2C 1F16:AA 1F18:2C " ++
  "1F1E:AA 1F20:2C 1F46:AA 1F48:2C 1F4E:AA 1F50:2C 1F58:AA 1F59:2C 1F5A:AA 1F5B:2C 1F5C:AA " ++
  "1F5D:2C 1F5E:AA 1F5F:2C 1F7E:AA 1F80:2C 1FB5:AA 1FB6:2C 1FC5:AA 1FC6:2C 1FD4:AA 1FD6:2C " ++
  "1FDC:AA 1FDD:2C 1FF0:AA 1FF2:2C 1FF5:AA 1FF6:2C 1FFF:AA 2000:18 200C:39 200E:18 2065:AA " ++
  "2066:18 2071:49 2072:AA 2074:18 207F:49 2080:18 208F:AA 2090:49 209D:AA 20A0:18 20C1:AA " ++
  "20D0:39 20F1:AA 2100:18 2126:2C 2127:18 212A:49 212C:18 2132:49 2133:18 214E:49 214F:18 " ++
  "2160:49 2189:18 218C:AA 2190:18 242A:AA 2440:18 244B:AA 2460:18 2800:E 2900:18 2B74:AA " ++
  "2B76:18 2B96:AA 2B97:18 2C00:29 2C60:49 2C80:19 2CF4:AA 2CF9:19 2D00:28 2D26:AA 2D27:28 " ++
  "2D28:AA 2D2D:28 2D2E:AA 2D30:9D 2D68:AA 2D6F:9D 2D71:AA 2D7F:9D 2D80:26 2D97:AA 2DA0:26 " ++
  "2DA7:AA 2DA8:26 2DAF:AA 2DB0:26 2DB7:AA 2DB8:26 2DBF:AA 2DC0:26 2DC7:AA 2DC8:26 2DCF:AA " ++
  "2DD0:26 2DD7:AA 2DD8:26 2DDF:AA 2DE0:1D 2E00:18 2E5E:AA 2E80:31 2E9A:AA 2E9B:31 2EF4:AA " ++
  "2F00:31 2FD6:AA 2FF0:18 3005:31 3006:18 3007:31 3008:18 3021:31 302A:39 302E:32 3030:18 " ++
  "3038:31 303C:18 3040:AA 3041:37 3097:AA 3099:39 309B:18 309D:37 30A0:18 30A1:3F 30FB:18 " ++
  "30FD:3F 3100:AA 3105:C 3130:AA 3131:32 318F:AA 3190:18 31A0:C 31C0:18 31E6:AA 31EF:18 " ++
  "31F0:3F 3200:32 321F:AA 3220:18 3260:32 327F:18 32D0:3F 32FF:18 3300:3F 3358:18 3400:31 " ++
  "4DC0:18 4E00:31 A000:A8 A48D:AA A490:A8 A4C7:AA A4D0:4E A500:A3 A62C:AA A640:1D A6A0:7 " ++
  "A6F8:AA A700:18 A722:49 A788:18 A78B:49 A7CE:AA A7D0:49 A7D2:AA A7D3:49 A7D4:AA A7D5:49 " ++
  "A7DD:AA A7F2:49 A800:8E A82D:AA A830:18 A83A:AA A840:7D A878:AA A880:83 A8C6:AA A8CE:83 " ++
  "A8DA:AA A8E0:1F A900:41 A92E:18 A92F:41 A930:80 A954:AA A95F:80 A960:32 A97D:AA A980:3C " ++
  "A9CE:AA A9CF:18 A9D0:3C A9DA:AA A9DE:3C A9E0:62 A9FF:AA AA00:15 AA37:AA AA40:15 AA4E:AA " ++
  "AA50:15 AA5A:AA AA5C:15 AA60:62 AA80:94 AAC3:AA AADB:94 AAE0:59 AAF7:AA AB01:26 AB07:AA " ++
  "AB09:26 AB0F:AA AB11:26 AB17:AA AB20:26 AB27:AA AB28:26 AB2F:AA AB30:49 AB5B:18 AB5C:49 " ++
  "AB65:2C AB66:49 AB6A:18 AB6C:AA AB70:16 ABC0:59 ABEE:AA ABF0:59 ABFA:AA AC00:32 D7A4:AA " ++
  "D7B0:32 D7C7:AA D7CB:32 D7FC:AA F900:31 FA6E:AA FA70:31 FADA:AA FB00:49 FB07:AA FB13:4 " ++
  "FB18:AA FB1D:36 FB37:AA FB38:36 FB3D:AA FB3E:36 FB3F:AA FB40:36 FB42:AA FB43:36 FB45:AA " ++
  "FB46:36 FB50:3 FBC3:AA FBD3:3 FD3E:18 FD40:3 FD90:AA FD92:3 FDC8:AA FDCF:3 FDD0:AA FDF0:3 " ++
  "FE00:39 FE10:18 FE1A:AA FE20:39 FE2E:1D FE30:18 FE53:AA FE54:18 FE67:AA FE68:18 FE6C:AA " ++
  "FE70:3 FE75:AA FE76:3 FEFD:AA FEFF:18 FF00:AA FF01:18 FF21:49 FF3B:18 FF41:49 FF5B:18 " ++
  "FF66:3F FF70:18 FF71:3F FF9E:18 FFA0:32 FFBF:AA FFC2:32 FFC8:AA FFCA:32 FFD0:AA FFD2:32 " ++
  "FFD8:AA FFDA:32 FFDD:AA FFE0:18 FFE7:AA FFE8:18 FFEF:AA FFF9:18 FFFE:AA 10000:4D 1000C:AA " ++
  "1000D:4D 10027:AA 10028:4D 1003B:AA 1003C:4D 1003E:AA 1003F:4D 1004E:AA 10050:4D 1005E:AA " ++
  "10080:4D 100FB:AA 10100:18 10103:AA 10107:18 10134:AA 10137:18 10140:2C 1018F:AA 10190:18 " ++
  "1019D:AA 101A0:2C 101A1:AA 101D0:18 101FD:39 101FE:AA 10280:4F 1029D:AA 102A0:12 102D1:AA " ++
  "102E0:39 102E1:18 102FC:AA 10300:6F 10324:AA 1032D:6F 10330:2A 1034B:AA 10350:71 1037B:AA " ++
  "10380:A2 1039E:AA 1039F:A2 103A0:72 103C4:AA 103C8:72 103D6:AA 10400:1E 10450:85 10480:79 " ++
  "1049E:AA 104A0:79 104AA:AA 104B0:78 104D4:AA 104D8:78 104FC:AA 10500:24 10528:AA 10530:13 " ++
  "10564:AA 1056F:13 10570:A4 1057B:AA 1057C:A4 1058B:AA 1058C:A4 10593:AA 10594:A4 10596:AA " ++
  "10597:A4 105A2:AA 105A3:A4 105B2:AA 105B3:A4 105BA:AA 105BB:A4 105BD:AA 105C0:9F 105F4:AA " ++
  "10600:4C 10737:AA 10740:4C 10756:AA 10760:4C 10768:AA 10780:49 10786:AA 10787:49 107B1:AA " ++
  "107B2:49 107BB:AA 10800:1B 10806:AA 10808:1B 10809:AA 1080A:1B 10836:AA 10837:1B 10839:AA " ++
  "1083C:1B 1083D:AA 1083F:1B 10840:38 10856:AA 10857:38 10860:7B 10880:63 1089F:AA 108A7:63 " ++
  "108B0:AA 108E0:35 108F3:AA 108F4:35 108F6:AA 108FB:35 10900:7E 1091C:AA 1091F:7E 10920:50 " ++
  "1093A:AA 1093F:50 10940:AA 10980:5C 109A0:5B 109B8:AA 109BC:5B 109D0:AA 109D2:5B 10A00:42 " ++
  "10A04:AA 10A05:42 10A07:AA 10A0C:42 10A14:AA 10A15:42 10A18:AA 10A19:42 10A36:AA 10A38:42 " ++
  "10A3B:AA 10A3F:42 10A49:AA 10A50:42 10A59:AA 10A60:74 10A80:70 10AA0:AA 10AC0:55 10AE7:AA " ++
  "10AEB:55 10AF7:AA 10B00:5 10B36:AA 10B39:5 10B40:3B 10B56:AA 10B58:3B 10B60:3A 10B73:AA " ++
  "10B78:3A 10B80:7F 10B92:AA 10B99:7F 10B9D:AA 10BA9:7F 10BB0:AA 10C00:75 10C49:AA 10C80:6E " ++
  "10CB3:AA 10CC0:6E 10CF3:AA 10CFA:6E 10D00:33 10D28:AA 10D30:33 10D3A:AA 10D40:27 10D66:AA " ++
  "10D69:27 10D86:AA 10D8E:27 10D90:AA 10E60:3 10E7F:AA 10E80:A7 10EAA:AA 10EAB:A7 10EAE:AA " ++
  "10EB0:A7 10EB2:AA 10EC2:3 10EC5:AA 10EFC:3 10F00:73 10F28:AA 10F30:89 10F5A:AA 10F70:76 " ++
  "10F8A:AA 10FB0:17 10FCC:AA 10FE0:25 10FF7:AA 11000:D 1104E:AA 11052:D 11076:AA 1107F:D " ++
  "11080:3D 110C3:AA 110CD:3D 110CE:AA 110D0:8A 110E9:AA 110F0:8A 110FA:AA 11100:14 11135:AA " ++
  "11136:14 11148:AA 11150:51 11177:AA 11180:84 111E0:AA 111E1:88 111F5:AA 11200:45 11212:AA " ++
  "11213:45 11242:AA 11280:61 11287:AA 11288:61 11289:AA 1128A:61 1128E:AA 1128F:61 1129E:AA " ++
  "1129F:61 112AA:AA 112B0:46 112EB:AA 112F0:46 112FA:AA 11300:2B 11304:AA 11305:2B 1130D:AA " ++
  "1130F:2B 11311:AA 11313:2B 11329:AA 1132A:2B 11331:AA 11332:2B 11334:AA 11335:2B 1133A:AA " ++
  "1133B:39 1133C:2B 11345:AA 11347:2B 11349:AA 1134B:2B 1134E:AA 11350:2B 11351:AA 11357:2B " ++
  "11358:AA 1135D:2B 11364:AA 11366:2B 1136D:AA 11370:2B 11375:AA 11380:A1 1138A:AA 1138B:A1 " ++
  "1138C:AA 1138E:A1 1138F:AA 11390:A1 113B6:AA 113B7:A1 113C1:AA 113C2:A1 113C3:AA 113C5:A1 " ++
  "113C6:AA 113C7:A1 113CB:AA 113CC:A1 113D6:AA 113D7:A1 113D9:AA 113E1:A1 113E3:AA 11400:67 " ++
  "1145C:AA 1145D:67 11462:AA 11480:9E 114C8:AA 114D0:9E 114DA:AA 11580:86 115B6:AA 115B8:86 " ++
  "115DE:AA 11600:5E 11645:AA 11650:5E 1165A:AA 11660:5F 1166D:AA 11680:95 116BA:AA 116C0:95 " ++
  "116CA:AA 116D0:62 116E4:AA 11700:1 1171B:AA 1171D:1 1172C:AA 11730:1 11747:AA 11800:21 " ++
  "1183C:AA 118A0:A6 118F3:AA 118FF:A6 11900:20 11907:AA 11909:20 1190A:AA 1190C:20 11914:AA " ++
  "11915:20 11917:AA 11918:20 11936:AA 11937:20 11939:AA 1193B:20 11947:AA 11950:20 1195A:AA " ++
  "119A0:65 119A8:AA 119AA:65 119D8:AA 119DA:65 119E5:AA 11A00:A9 11A48:AA 11A50:8B 11AA3:AA " ++
  "11AB0:11 11AC0:7C 11AF9:AA 11B00:1F 11B0A:AA 11BC0:8D 11BE2:AA 11BF0:8D 11BFA:AA 11C00:B " ++
  "11C09:AA 11C0A:B 11C37:AA 11C38:B 11C46:AA 11C50:B 11C6D:AA 11C70:56 11C90:AA 11C92:56 " ++
  "11CA8:AA 11CA9:56 11CB7:AA 11D00:57 11D07:AA 11D08:57 11D0A:AA 11D0B:57 11D37:AA 11D3A:57 " ++
  "11D3B:AA 11D3C:57 11D3E:AA 11D3F:57 11D48:AA 11D50:57 11D5A:AA 11D60:2E 11D66:AA 11D67:2E " ++
  "11D69:AA 11D6A:2E 11D8F:AA 11D90:2E 11D92:AA 11D93:2E 11D99:AA 11DA0:2E 11DAA:AA 11EE0:52 " ++
  "11EF9:AA 11F00:40 11F11:AA 11F12:40 11F3B:AA 11F3E:40 11F5B:AA 11FB0:4E 11FB1:AA 11FC0:96 " ++
  "11FF2:AA 11FFF:96 12000:1A 1239A:AA 12400:1A 1246F:AA 12470:1A 12475:AA 12480:1A 12544:AA " ++
  "12F90:1C 12FF3:AA 13000:23 13456:AA 13460:23 143FB:AA 14400:2 14647:AA 16100:30 1613A:AA " ++
  "16800:7 16A39:AA 16A40:60 16A5F:AA 16A60:60 16A6A:AA 16A6E:60 16A70:97 16ABF:AA 16AC0:97 " ++
  "16ACA:AA 16AD0:8 16AEE:AA 16AF0:8 16AF6:AA 16B00:7A 16B46:AA 16B50:7A 16B5A:AA 16B5B:7A "

def scriptRunsText2 : String :=
  "16B62:AA 16B63:7A 16B78:AA 16B7D:7A 16B90:AA 16D40:47 16D7A:AA 16E40:58 16E9B:AA 16F00:5D " ++
  "16F4B:AA 16F4F:5D 16F88:AA 16F8F:5D 16FA0:AA 16FE0:98 16FE1:69 16FE2:31 16FE4:43 16FE5:AA " ++
  "16FF0:31 16FF2:AA 17000:98 187F8:AA 18800:98 18B00:43 18CD6:AA 18CFF:43 18D00:98 18D09:AA " ++
  "1AFF0:3F 1AFF4:AA 1AFF5:3F 1AFFC:AA 1AFFD:3F 1AFFF:AA 1B000:3F 1B001:37 1B120:3F 1B123:AA " ++
  "1B132:37 1B133:AA 1B150:37 1B153:AA 1B155:3F 1B156:AA 1B164:3F 1B168:AA 1B170:69 1B2FC:AA " ++
  "1BC00:22 1BC6B:AA 1BC70:22 1BC7D:AA 1BC80:22 1BC89:AA 1BC90:22 1BC9A:AA 1BC9C:22 1BCA0:18 " ++
  "1BCA4:AA 1CC00:18 1CCFA:AA 1CD00:18 1CEB4:AA 1CF00:39 1CF2E:AA 1CF30:39 1CF47:AA 1CF50:18 " ++
  "1CFC4:AA 1D000:18 1D0F6:AA 1D100:18 1D127:AA 1D129:18 1D167:39 1D16A:18 1D17B:39 1D183:18 " ++
  "1D185:39 1D18C:18 1D1AA:39 1D1AE:18 1D1EB:AA 1D200:2C 1D246:AA 1D2C0:18 1D2D4:AA 1D2E0:18 " ++
  "1D2F4:AA 1D300:18 1D357:AA 1D360:18 1D379:AA 1D400:18 1D455:AA 1D456:18 1D49D:AA 1D49E:18 " ++
  "1D4A0:AA 1D4A2:18 1D4A3:AA 1D4A5:18 1D4A7:AA 1D4A9:18 1D4AD:AA 1D4AE:18 1D4BA:AA 1D4BB:18 " ++
  "1D4BC:AA 1D4BD:18 1D4C4:AA 1D4C5:18 1D506:AA 1D507:18 1D50B:AA 1D50D:18 1D515:AA 1D516:18 " ++
  "1D51D:AA 1D51E:18 1D53A:AA 1D53B:18 1D53F:AA 1D540:18 1D545:AA 1D546:18 1D547:AA 1D54A:18 " ++
  "1D551:AA 1D552:18 1D6A6:AA 1D6A8:18 1D7CC:AA 1D7CE:18 1D800:87 1DA8C:AA 1DA9B:87 1DAA0:AA " ++
  "1DAA1:87 1DAB0:AA 1DF00:49 1DF1F:AA 1DF25:49 1DF2B:AA 1E000:29 1E007:AA 1E008:29 1E019:AA " ++
  "1E01B:29 1E022:AA 1E023:29 1E025:AA 1E026:29 1E02B:AA 1E030:1D 1E06E:AA 1E08F:1D 1E090:AA " ++
  "1E100:6A 1E12D:AA 1E130:6A 1E13E:AA 1E140:6A 1E14A:AA 1E14E:6A 1E150:AA 1E290:A0 1E2AF:AA " ++
  "1E2C0:A5 1E2FA:AA 1E2FF:A5 1E300:AA 1E4D0:64 1E4FA:AA 1E5D0:6D 1E5FB:AA 1E5FF:6D 1E600:AA " ++
  "1E7E0:26 1E7E7:AA 1E7E8:26 1E7EC:AA 1E7ED:26 1E7EF:AA 1E7F0:26 1E7FF:AA 1E800:5A 1E8C5:AA " ++
  "1E8C7:5A 1E8D7:AA 1E900:0 1E94C:AA 1E950:0 1E95A:AA 1E95E:0 1E960:AA 1EC71:18 1ECB5:AA " ++
  "1ED01:18 1ED3E:AA 1EE00:3 1EE04:AA 1EE05:3 1EE20:AA 1EE21:3 1EE23:AA 1EE24:3 1EE25:AA " ++
  "1EE27:3 1EE28:AA 1EE29:3 1EE33:AA 1EE34:3 1EE38:AA 1EE39:3 1EE3A:AA 1EE3B:3 1EE3C:AA 1EE42:3 " ++
  "1EE43:AA 1EE47:3 1EE48:AA 1EE49:3 1EE4A:AA 1EE4B:3 1EE4C:AA 1EE4D:3 1EE50:AA 1EE51:3 " ++
  "1EE53:AA 1EE54:3 1EE55:AA 1EE57:3 1EE58:AA 1EE59:3 1EE5A:AA 1EE5B:3 1EE5C:AA 1EE5D:3 " ++
  "1EE5E:AA 1EE5F:3 1EE60:AA 1EE61:3 1EE63:AA 1EE64:3 1EE65:AA 1EE67:3 1EE6B:AA 1EE6C:3 " ++
  "1EE73:AA 1EE74:3 1EE78:AA 1EE79:3 1EE7D:AA 1EE7E:3 1EE7F:AA 1EE80:3 1EE8A:AA 1EE8B:3 " ++
  "1EE9C:AA 1EEA1:3 1EEA4:AA 1EEA5:3 1EEAA:AA 1EEAB:3 1EEBC:AA 1EEF0:3 1EEF2:AA 1F000:18 " ++
  "1F02C:AA 1F030:18 1F094:AA 1F0A0:18 1F0AF:AA 1F0B1:18 1F0C0:AA 1F0C1:18 1F0D0:AA 1F0D1:18 " ++
  "1F0F6:AA 1F100:18 1F1AE:AA 1F1E6:18 1F200:37 1F201:18 1F203:AA 1F210:18 1F23C:AA 1F240:18 " ++
  "1F249:AA 1F250:18 1F252:AA 1F260:18 1F266:AA 1F300:18 1F6D8:AA 1F6DC:18 1F6ED:AA 1F6F0:18 " ++
  "1F6FD:AA 1F700:18 1F777:AA 1F77B:18 1F7DA:AA 1F7E0:18 1F7EC:AA 1F7F0:18 1F7F1:AA 1F800:18 " ++
  "1F80C:AA 1F810:18 1F848:AA 1F850:18 1F85A:AA 1F860:18 1F888:AA 1F890:18 1F8AE:AA 1F8B0:18 " ++
  "1F8BC:AA 1F8C0:18 1F8C2:AA 1F900:18 1FA54:AA 1FA60:18 1FA6E:AA 1FA70:18 1FA7D:AA 1FA80:18 " ++
  "1FA8A:AA 1FA8F:18 1FAC7:AA 1FACE:18 1FADD:AA 1FADF:18 1FAEA:AA 1FAF0:18 1FAF9:AA 1FB00:18 " ++
  "1FB93:AA 1FB94:18 1FBFA:AA 20000:31 2A6E0:AA 2A700:31 2B73A:AA 2B740:31 2B81E:AA 2B820:31 " ++
  "2CEA2:AA 2CEB0:31 2EBE1:AA 2EBF0:31 2EE5E:AA 2F800:31 2FA1E:AA 30000:31 3134B:AA 31350:31 " ++
  "323B0:AA E0001:18 E0002:AA E0020:18 E0080:AA E0100:39 E01F0:AA"

def scriptRuns : Array (Nat × Nat) := readPairs <|
  (scriptRunsText1 ++ scriptRunsText2)

/-- The code points whose Script_Extensions is not just their script: each entry is the first
and last code point of a range, then the numbers of the scripts that use it. -/
def extensionRuns : Array (Array Nat) := readEntries <|
  ("B7-B7:5,12,19,22,24,28,29,2A,2C,2E,31,49,50,51,71,85 2BC-2BC:A,1D,1F,49,4E,9B,A0 " ++
  "2C7-2C7:C,49 2C9-2CB:C,49 2CD-2CD:49,4E 2D7-2D7:49,9B 2D9-2D9:C,49 " ++
  "300-300:16,19,1D,2C,49,71,8D,92 301-301:16,1D,2C,49,78,8D,92,9F 302-302:16,1D,49 " ++
  "303-303:29,49,8D,8F,9B 304-304:13,16,19,1D,2A,2C,49,78,8F,9F 305-305:19,24,29,2A,3F,49 " ++
  "306-306:1D,2C,49,71 307-307:19,22,36,49,71,8F,92,9F 308-308:4,1D,22,2A,2C,36,49,71,8F,92 " ++
  "309-309:49 30A-30A:22,49,8F 30B-30B:16,1D,49,78 30C-30C:16,49,92 30D-30D:49,8D 30E-30E:26,49 " ++
  "310-310:49,8D 311-311:1D,49,9F 313-313:2C,49,71,9F 320-320:49,8F 323-323:16,22,3F,49,8F " ++
  "324-324:16,22,49,8F 325-325:49,8F 32D-32D:49,8D,8F 32E-32E:49,8F 330-330:16,49,8F " ++
  "331-331:13,16,2A,49,8D,9B 342-342:2C 345-345:2C 358-358:49,78 35E-35E:13,49,9F 363-36F:49 " ++
  "374-375:19,2C 483-483:1D,71 484-484:1D,29 485-486:1D,49 487-487:1D,29 589-589:4,28,29 " ++
  "60C-60C:3,27,33,68,8F,9A,A7 61B-61B:3,27,33,68,8F,9A,A7 61C-61C:3,8F,9A " ++
  "61F-61F:0,3,27,33,68,8F,9A,A7 640-640:0,3,33,54,55,76,7F,89,8F 64B-655:3,8F 660-669:3,9A,A7 " ++
  "670-670:3,8F 6D4-6D4:3,33 951-951:A,1F,2B,2D,2F,3E,49,53,77,84,96,99,9E " ++
  "952-952:A,1F,2B,2D,2F,3E,49,53,77,96,99,9E " ++
  "964-964:A,1F,21,2B,2D,2E,2F,3E,46,51,53,57,65,6D,77,88,8E,95,96,99,9E " ++
  "965-965:A,1F,21,2B,2D,2E,2F,30,3E,46,4B,51,53,57,65,6D,77,88,8E,95,96,99,9E " ++
  "966-96F:1F,21,3D,51 9E6-9EF:A,14,8E A66-A6F:2F,61 AE6-AEF:2D,45 BE6-BF3:2B,96 " ++
  "CE6-CEF:3E,65,A1 1040-1049:14,62,92 10FB-10FB:28,29,49 16EB-16ED:81 1735-1736:10,34,90,91 " ++
  "1802-1803:5F,7D 1805-1805:5F,7D 1CD0-1CD0:A,1F,2B,3E 1CD1-1CD1:1F 1CD2-1CD2:A,1F,2B,3E " ++
  "1CD3-1CD3:1F,2B,3E 1CD4-1CD4:1F 1CD5-1CD6:A,1F 1CD7-1CD7:1F,84 1CD8-1CD8:A,1F " ++
  "1CD9-1CD9:1F,84 1CDA-1CDA:1F,3E,53,77,96,99 1CDB-1CDB:1F 1CDC-1CDD:1F,84 1CDE-1CDF:1F " ++
  "1CE0-1CE0:1F,84 1CE1-1CE1:A,1F 1CE2-1CE8:1F 1CE9-1CE9:1F,65 1CEA-1CEA:A,1F,84 1CEB-1CEC:1F " ++
  "1CED-1CED:A,1F,84 1CEE-1CF1:1F 1CF2-1CF2:A,1F,2B,3E,53,65,77,88,99,9E,A1 1CF3-1CF3:1F,2B " ++
  "1CF4-1CF4:1F,2B,3E,A1 1CF5-1CF6:A,1F 1CF7-1CF7:A 1CF8-1CF9:1F,2B 1CFA-1CFA:65 1DC0-1DC1:2C " ++
  "1DF8-1DF8:1D,49,8F 1DFA-1DFA:8F 202F-202F:49,5F,7D 204F-204F:0,3 205A-205A:12,28,29,4F,6E,75 " ++
  "205D-205D:12,2C,5C,6E 20F0-20F0:1F,2B,49 2E17-2E17:19,49 2E30-2E30:5,75 " ++
  "2E31-2E31:5,12,28,3D,50,6E,82 2E3C-2E3C:22 2E41-2E41:0,3,6E 2E43-2E43:1D,29 2FF0-2FFF:31,98 " ++
  "3001-3001:C,31,32,37,3F,5F,A8 3002-3002:C,31,32,37,3F,5F,7D,A8 3003-3003:C,31,32,37,3F " ++
  "3006-3006:31 3008-3009:C,31,32,37,3F,5F,9C,A8 300A-300B:C,31,32,37,3F,4E,5F,9C,A8 " ++
  "300C-3011:C,31,32,37,3F,A8 3013-3013:C,31,32,37,3F 3014-301B:C,31,32,37,3F,A8 " ++
  "301C-301F:C,31,32,37,3F 302A-302D:C,31 3030-3030:C,31,32,37,3F 3031-3035:37,3F " ++
  "3037-3037:C,31,32,37,3F 303C-303D:31,37,3F 303E-303F:31 3099-309C:37,3F 30A0-30A0:37,3F " ++
  "30FB-30FB:C,31,32,37,3F,A8 30FC-30FC:37,3F 3190-319F:31 31C0-31E5:31 31EF-31EF:31,98 " ++
  "3220-3247:31 3280-32B0:31 32C0-32CB:31 32FF-32FF:31 3358-3370:31 337B-337F:31 33E0-33FE:31 " ++
  "A66F-A66F:1D,29 A700-A707:31,49 A830-A832:1F,21,2D,2F,3D,3E,45,46,51,53,5E,65,84,95,9E,A1 " ++
  "A833-A835:1F,21,2D,2F,3D,3E,45,46,51,5E,65,84,95,9E,A1 " ++
  "A836-A837:1F,21,2D,2F,3D,45,46,51,5E,95,9E A838-A838:1F,21,2D,2F,3D,45,46,51,5E,84,95,9E " ++
  "A839-A839:1F,21,2D,2F,3D,45,46,51,5E,95,9E A8F1-A8F1:A,1F,A1 A8F3-A8F3:1F,96 " ++
  "A92E-A92E:41,49,62 A9CF-A9CF:F,3C FD3E-FD3F:3,68 FDF2-FDF2:3,9A FDFD-FDFD:3,9A " ++
  "FE45-FE46:C,31,32,37,3F FF61-FF65:C,31,32,37,3F,A8 FF70-FF70:37,3F FF9E-FF9F:37,3F " ++
  "10100-10101:1B,1C,4D 10102-10102:1B,4D 10107-10133:1B,4C,4D 10137-1013F:1B,4D " ++
  "102E0-102FB:3,19 10AF2-10AF2:55,76 11301-11301:2B,96 11303-11303:2B,96 1133B-1133C:2B,96 " ++
  "11FD0-11FD1:2B,96 11FD3-11FD3:2B,96 1BCA0-1BCA3:22 1D360-1D371:31 1F250-1F251:31")

def scriptOf (c : Char) : Nat :=
  runValue scriptRuns c.toNat unknownScript

/-- The scripts of a character's extension entry, searched between `lo` and `hi`. -/
def extensionsIn (n : Nat) (lo hi : Nat) : Option (List Nat) :=
  if _h : lo < hi then
    let mid := (lo + hi) / 2
    match extensionRuns[mid]? with
    | none => none
    | some e =>
      if n < e.getD 0 0 then extensionsIn n lo mid
      else if e.getD 1 0 < n then extensionsIn n (mid + 1) hi
      else some (e.toList.drop 2)
  else none
termination_by hi - lo

def scriptExtensionsOf (c : Char) : List Nat :=
  match extensionsIn c.toNat 0 extensionRuns.size with
  | some scripts => scripts
  | none => [scriptOf c]

end CssBundle.Unicode
