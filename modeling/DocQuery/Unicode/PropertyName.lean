/-!
# Names of Unicode properties

Names are compared without case, blanks, underscores, dashes and a leading "is". The tables list
the names in that loose form with what they stand for.
-/

namespace DocQuery.Unicode

/-- Whether a text starts with "is" in any case. -/
def hasIsPrefix : List Char → Bool
  | a :: b :: _ => (a == 'i' || a == 'I') && (b == 's' || b == 'S')
  | _ => false

/-- The loose form of a name. The loose form of "isc", a name of its own, keeps its start. -/
def looseName (name : String) : String :=
  let chars := name.toList
  let stripped := if hasIsPrefix chars then chars.drop 2 else chars
  let kept := stripped.filter fun c => c.toNat < 0x80 && c != ' ' && c != '_' && c != '-'
  let loose := String.ofList (kept.map Char.toLower)
  if hasIsPrefix chars && loose == "c" then "isc" else loose

/-- The binary properties by their names. -/
def binaryNames : List (String × String) := [
  ("ahex", "ASCII_Hex_Digit"), ("alpha", "Alphabetic"), ("alphabetic", "Alphabetic"),
  ("asciihexdigit", "ASCII_Hex_Digit"), ("bidic", "Bidi_Control"), ("bidicontrol", "Bidi_Control"),
  ("bidim", "Bidi_Mirrored"), ("bidimirrored", "Bidi_Mirrored"), ("cased", "Cased"),
  ("caseignorable", "Case_Ignorable"), ("changeswhencasefolded", "Changes_When_Casefolded"),
  ("changeswhencasemapped", "Changes_When_Casemapped"),
  ("changeswhenlowercased", "Changes_When_Lowercased"),
  ("changeswhentitlecased", "Changes_When_Titlecased"),
  ("changeswhenuppercased", "Changes_When_Uppercased"), ("ci", "Case_Ignorable"),
  ("cwcf", "Changes_When_Casefolded"), ("cwcm", "Changes_When_Casemapped"),
  ("cwl", "Changes_When_Lowercased"), ("cwt", "Changes_When_Titlecased"),
  ("cwu", "Changes_When_Uppercased"), ("dash", "Dash"),
  ("defaultignorablecodepoint", "Default_Ignorable_Code_Point"), ("dep", "Deprecated"),
  ("deprecated", "Deprecated"), ("di", "Default_Ignorable_Code_Point"), ("dia", "Diacritic"),
  ("diacritic", "Diacritic"), ("ebase", "Emoji_Modifier_Base"), ("ecomp", "Emoji_Component"),
  ("emod", "Emoji_Modifier"), ("emoji", "Emoji"), ("emojicomponent", "Emoji_Component"),
  ("emojimodifier", "Emoji_Modifier"), ("emojimodifierbase", "Emoji_Modifier_Base"),
  ("emojipresentation", "Emoji_Presentation"), ("epres", "Emoji_Presentation"), ("ext", "Extender"),
  ("extendedpictographic", "Extended_Pictographic"), ("extender", "Extender"),
  ("extpict", "Extended_Pictographic"), ("graphemebase", "Grapheme_Base"),
  ("graphemeextend", "Grapheme_Extend"), ("graphemelink", "Grapheme_Link"),
  ("grbase", "Grapheme_Base"), ("grext", "Grapheme_Extend"), ("grlink", "Grapheme_Link"),
  ("hex", "Hex_Digit"), ("hexdigit", "Hex_Digit"), ("hyphen", "Hyphen"), ("idc", "ID_Continue"),
  ("idcompatmathcontinue", "ID_Compat_Math_Continue"),
  ("idcompatmathstart", "ID_Compat_Math_Start"), ("idcontinue", "ID_Continue"),
  ("ideo", "Ideographic"), ("ideographic", "Ideographic"), ("ids", "ID_Start"),
  ("idsb", "IDS_Binary_Operator"), ("idsbinaryoperator", "IDS_Binary_Operator"),
  ("idst", "IDS_Trinary_Operator"), ("idstart", "ID_Start"),
  ("idstrinaryoperator", "IDS_Trinary_Operator"), ("idsu", "IDS_Unary_Operator"),
  ("idsunaryoperator", "IDS_Unary_Operator"), ("joinc", "Join_Control"),
  ("joincontrol", "Join_Control"), ("loe", "Logical_Order_Exception"),
  ("logicalorderexception", "Logical_Order_Exception"), ("lower", "Lowercase"),
  ("lowercase", "Lowercase"), ("math", "Math"), ("mcm", "Modifier_Combining_Mark"),
  ("modifiercombiningmark", "Modifier_Combining_Mark"), ("nchar", "Noncharacter_Code_Point"),
  ("noncharactercodepoint", "Noncharacter_Code_Point"), ("oalpha", "Other_Alphabetic"),
  ("odi", "Other_Default_Ignorable_Code_Point"), ("ogrext", "Other_Grapheme_Extend"),
  ("oidc", "Other_ID_Continue"), ("oids", "Other_ID_Start"), ("olower", "Other_Lowercase"),
  ("omath", "Other_Math"), ("otheralphabetic", "Other_Alphabetic"),
  ("otherdefaultignorablecodepoint", "Other_Default_Ignorable_Code_Point"),
  ("othergraphemeextend", "Other_Grapheme_Extend"), ("otheridcontinue", "Other_ID_Continue"),
  ("otheridstart", "Other_ID_Start"), ("otherlowercase", "Other_Lowercase"),
  ("othermath", "Other_Math"), ("otheruppercase", "Other_Uppercase"), ("oupper", "Other_Uppercase"),
  ("patsyn", "Pattern_Syntax"), ("patternsyntax", "Pattern_Syntax"),
  ("patternwhitespace", "Pattern_White_Space"), ("patws", "Pattern_White_Space"),
  ("pcm", "Prepended_Concatenation_Mark"),
  ("prependedconcatenationmark", "Prepended_Concatenation_Mark"), ("qmark", "Quotation_Mark"),
  ("quotationmark", "Quotation_Mark"), ("radical", "Radical"),
  ("regionalindicator", "Regional_Indicator"), ("ri", "Regional_Indicator"), ("sd", "Soft_Dotted"),
  ("sentenceterminal", "Sentence_Terminal"), ("softdotted", "Soft_Dotted"),
  ("space", "White_Space"), ("sterm", "Sentence_Terminal"), ("term", "Terminal_Punctuation"),
  ("terminalpunctuation", "Terminal_Punctuation"), ("uideo", "Unified_Ideograph"),
  ("unifiedideograph", "Unified_Ideograph"), ("upper", "Uppercase"), ("uppercase", "Uppercase"),
  ("variationselector", "Variation_Selector"), ("vs", "Variation_Selector"),
  ("whitespace", "White_Space"), ("wspace", "White_Space"), ("xidc", "XID_Continue"),
  ("xidcontinue", "XID_Continue"), ("xids", "XID_Start"), ("xidstart", "XID_Start")]

/-- The names of the properties for which there are no classes. -/
def otherPropertyNames : List String := [
  "bc", "bidiclass", "bidimirroringglyph", "bidipairedbracket", "bidipairedbrackettype", "blk",
  "block", "bmg", "bpb", "bpt", "canonicalcombiningclass", "casefolding", "ccc", "ce", "cf",
  "changeswhennfkccasefolded", "cjkaccountingnumeric", "cjkcompatibilityvariant", "cjkiicore",
  "cjkirggsource", "cjkirghsource", "cjkirgjsource", "cjkirgkpsource", "cjkirgksource",
  "cjkirgmsource", "cjkirgssource", "cjkirgtsource", "cjkirguksource", "cjkirgusource",
  "cjkirgvsource", "cjkothernumeric", "cjkprimarynumeric", "cjkrsunicode", "compex",
  "compositionexclusion", "cwkcf", "decompositionmapping", "decompositiontype", "dm", "dt", "ea",
  "eastasianwidth", "equideo", "equivalentunifiedideograph", "expandsonnfc", "expandsonnfd",
  "expandsonnfkc", "expandsonnfkd", "fcnfkc", "fcnfkcclosure", "fullcompositionexclusion",
  "hangulsyllabletype", "hst", "incb", "indicconjunctbreak", "indicpositionalcategory",
  "indicsyllabiccategory", "inpc", "insc", "isc", "jamoshortname", "jg", "joininggroup",
  "joiningtype", "jsn", "jt", "kaccountingnumeric", "kcompatibilityvariant", "kehcat", "kehdesc",
  "kehhg", "kehifao", "kehjsesh", "kehnomirror", "kehnorotate", "kiicore", "kirggsource",
  "kirghsource", "kirgjsource", "kirgkpsource", "kirgksource", "kirgmsource", "kirgssource",
  "kirgtsource", "kirguksource", "kirgusource", "kirgvsource", "kothernumeric", "kprimarynumeric",
  "krsunicode", "lb", "lc", "linebreak", "lowercasemapping", "na", "na1", "name", "namealias",
  "nfcqc", "nfcquickcheck", "nfdqc", "nfdquickcheck", "nfkccasefold", "nfkccf", "nfkcqc",
  "nfkcquickcheck", "nfkcscf", "nfkcsimplecasefold", "nfkdqc", "nfkdquickcheck", "nt",
  "numerictype", "numericvalue", "nv", "ocomment", "scf", "sfc", "simplecasefolding",
  "simplelowercasemapping", "simpletitlecasemapping", "simpleuppercasemapping", "slc", "stc", "suc",
  "tc", "titlecasemapping", "uc", "unicode1name", "unicoderadicalstroke", "uppercasemapping", "urs",
  "verticalorientation", "vo", "xonfc", "xonfd", "xonfkc", "xonfkd"]

/-- The general categories by their names, each with the categories it is made of. -/
def categoryNames : List (String × List String) := [
  ("c", ["Cc", "Cf", "Cn", "Co", "Cs"]), ("casedletter", ["Ll", "Lt", "Lu"]), ("cc", ["Cc"]),
  ("cf", ["Cf"]), ("closepunctuation", ["Pe"]), ("cn", ["Cn"]), ("cntrl", ["Cc"]), ("co", ["Co"]),
  ("combiningmark", ["Mc", "Me", "Mn"]), ("connectorpunctuation", ["Pc"]), ("control", ["Cc"]),
  ("currencysymbol", ["Sc"]), ("dashpunctuation", ["Pd"]), ("decimalnumber", ["Nd"]),
  ("digit", ["Nd"]), ("enclosingmark", ["Me"]), ("finalpunctuation", ["Pf"]), ("format", ["Cf"]),
  ("initialpunctuation", ["Pi"]), ("l", ["Ll", "Lm", "Lo", "Lt", "Lu"]),
  ("lc", ["Ll", "Lt", "Lu"]), ("letter", ["Ll", "Lm", "Lo", "Lt", "Lu"]),
  ("letternumber", ["Nl"]), ("lineseparator", ["Zl"]), ("ll", ["Ll"]), ("lm", ["Lm"]),
  ("lo", ["Lo"]), ("lowercaseletter", ["Ll"]), ("lt", ["Lt"]), ("lu", ["Lu"]),
  ("m", ["Mc", "Me", "Mn"]), ("mark", ["Mc", "Me", "Mn"]), ("mathsymbol", ["Sm"]), ("mc", ["Mc"]),
  ("me", ["Me"]), ("mn", ["Mn"]), ("modifierletter", ["Lm"]), ("modifiersymbol", ["Sk"]),
  ("n", ["Nd", "Nl", "No"]), ("nd", ["Nd"]), ("nl", ["Nl"]), ("no", ["No"]),
  ("nonspacingmark", ["Mn"]), ("number", ["Nd", "Nl", "No"]), ("openpunctuation", ["Ps"]),
  ("other", ["Cc", "Cf", "Cn", "Co", "Cs"]), ("otherletter", ["Lo"]), ("othernumber", ["No"]),
  ("otherpunctuation", ["Po"]), ("othersymbol", ["So"]),
  ("p", ["Pc", "Pd", "Pe", "Pf", "Pi", "Po", "Ps"]), ("paragraphseparator", ["Zp"]),
  ("pc", ["Pc"]), ("pd", ["Pd"]), ("pe", ["Pe"]), ("pf", ["Pf"]), ("pi", ["Pi"]), ("po", ["Po"]),
  ("privateuse", ["Co"]), ("ps", ["Ps"]), ("punct", ["Pc", "Pd", "Pe", "Pf", "Pi", "Po", "Ps"]),
  ("punctuation", ["Pc", "Pd", "Pe", "Pf", "Pi", "Po", "Ps"]), ("s", ["Sc", "Sk", "Sm", "So"]),
  ("sc", ["Sc"]), ("separator", ["Zl", "Zp", "Zs"]), ("sk", ["Sk"]), ("sm", ["Sm"]),
  ("so", ["So"]), ("spaceseparator", ["Zs"]), ("spacingmark", ["Mc"]),
  ("symbol", ["Sc", "Sk", "Sm", "So"]), ("titlecaseletter", ["Lt"]), ("unassigned", ["Cn"]),
  ("uppercaseletter", ["Lu"]), ("z", ["Zl", "Zp", "Zs"]), ("zl", ["Zl"]), ("zp", ["Zp"]),
  ("zs", ["Zs"])]

/-- The scripts by their names. -/
def scriptNames : List (String × String) := [
  ("adlam", "Adlam"), ("adlm", "Adlam"), ("aghb", "Caucasian_Albanian"), ("ahom", "Ahom"),
  ("anatolianhieroglyphs", "Anatolian_Hieroglyphs"), ("arab", "Arabic"), ("arabic", "Arabic"),
  ("armenian", "Armenian"), ("armi", "Imperial_Aramaic"), ("armn", "Armenian"),
  ("avestan", "Avestan"), ("avst", "Avestan"), ("bali", "Balinese"), ("balinese", "Balinese"),
  ("bamu", "Bamum"), ("bamum", "Bamum"), ("bass", "Bassa_Vah"), ("bassavah", "Bassa_Vah"),
  ("batak", "Batak"), ("batk", "Batak"), ("beng", "Bengali"), ("bengali", "Bengali"),
  ("bhaiksuki", "Bhaiksuki"), ("bhks", "Bhaiksuki"), ("bopo", "Bopomofo"), ("bopomofo", "Bopomofo"),
  ("brah", "Brahmi"), ("brahmi", "Brahmi"), ("brai", "Braille"), ("braille", "Braille"),
  ("bugi", "Buginese"), ("buginese", "Buginese"), ("buhd", "Buhid"), ("buhid", "Buhid"),
  ("cakm", "Chakma"), ("canadianaboriginal", "Canadian_Aboriginal"),
  ("cans", "Canadian_Aboriginal"), ("cari", "Carian"), ("carian", "Carian"),
  ("caucasianalbanian", "Caucasian_Albanian"), ("chakma", "Chakma"), ("cham", "Cham"),
  ("cher", "Cherokee"), ("cherokee", "Cherokee"), ("chorasmian", "Chorasmian"),
  ("chrs", "Chorasmian"), ("common", "Common"), ("copt", "Coptic"), ("coptic", "Coptic"),
  ("cpmn", "Cypro_Minoan"), ("cprt", "Cypriot"), ("cuneiform", "Cuneiform"), ("cypriot", "Cypriot"),
  ("cyprominoan", "Cypro_Minoan"), ("cyrillic", "Cyrillic"), ("cyrl", "Cyrillic"),
  ("deseret", "Deseret"), ("deva", "Devanagari"), ("devanagari", "Devanagari"),
  ("diak", "Dives_Akuru"), ("divesakuru", "Dives_Akuru"), ("dogr", "Dogra"), ("dogra", "Dogra"),
  ("dsrt", "Deseret"), ("dupl", "Duployan"), ("duployan", "Duployan"),
  ("egyp", "Egyptian_Hieroglyphs"), ("egyptianhieroglyphs", "Egyptian_Hieroglyphs"),
  ("elba", "Elbasan"), ("elbasan", "Elbasan"), ("elym", "Elymaic"), ("elymaic", "Elymaic"),
  ("ethi", "Ethiopic"), ("ethiopic", "Ethiopic"), ("gara", "Garay"), ("garay", "Garay"),
  ("geor", "Georgian"), ("georgian", "Georgian"), ("glag", "Glagolitic"),
  ("glagolitic", "Glagolitic"), ("gong", "Gunjala_Gondi"), ("gonm", "Masaram_Gondi"),
  ("goth", "Gothic"), ("gothic", "Gothic"), ("gran", "Grantha"), ("grantha", "Grantha"),
  ("greek", "Greek"), ("grek", "Greek"), ("gujarati", "Gujarati"), ("gujr", "Gujarati"),
  ("gukh", "Gurung_Khema"), ("gunjalagondi", "Gunjala_Gondi"), ("gurmukhi", "Gurmukhi"),
  ("guru", "Gurmukhi"), ("gurungkhema", "Gurung_Khema"), ("han", "Han"), ("hang", "Hangul"),
  ("hangul", "Hangul"), ("hani", "Han"), ("hanifirohingya", "Hanifi_Rohingya"), ("hano", "Hanunoo"),
  ("hanunoo", "Hanunoo"), ("hatr", "Hatran"), ("hatran", "Hatran"), ("hebr", "Hebrew"),
  ("hebrew", "Hebrew"), ("hira", "Hiragana"), ("hiragana", "Hiragana"),
  ("hluw", "Anatolian_Hieroglyphs"), ("hmng", "Pahawh_Hmong"), ("hmnp", "Nyiakeng_Puachue_Hmong"),
  ("hrkt", "Katakana_Or_Hiragana"), ("hung", "Old_Hungarian"),
  ("imperialaramaic", "Imperial_Aramaic"), ("inherited", "Inherited"),
  ("inscriptionalpahlavi", "Inscriptional_Pahlavi"),
  ("inscriptionalparthian", "Inscriptional_Parthian"), ("ital", "Old_Italic"), ("java", "Javanese"),
  ("javanese", "Javanese"), ("kaithi", "Kaithi"), ("kali", "Kayah_Li"), ("kana", "Katakana"),
  ("kannada", "Kannada"), ("katakana", "Katakana"), ("katakanaorhiragana", "Katakana_Or_Hiragana"),
  ("kawi", "Kawi"), ("kayahli", "Kayah_Li"), ("khar", "Kharoshthi"), ("kharoshthi", "Kharoshthi"),
  ("khitansmallscript", "Khitan_Small_Script"), ("khmer", "Khmer"), ("khmr", "Khmer"),
  ("khoj", "Khojki"), ("khojki", "Khojki"), ("khudawadi", "Khudawadi"), ("kiratrai", "Kirat_Rai"),
  ("kits", "Khitan_Small_Script"), ("knda", "Kannada"), ("krai", "Kirat_Rai"), ("kthi", "Kaithi"),
  ("lana", "Tai_Tham"), ("lao", "Lao"), ("laoo", "Lao"), ("latin", "Latin"), ("latn", "Latin"),
  ("lepc", "Lepcha"), ("lepcha", "Lepcha"), ("limb", "Limbu"), ("limbu", "Limbu"),
  ("lina", "Linear_A"), ("linb", "Linear_B"), ("lineara", "Linear_A"), ("linearb", "Linear_B"),
  ("lisu", "Lisu"), ("lyci", "Lycian"), ("lycian", "Lycian"), ("lydi", "Lydian"),
  ("lydian", "Lydian"), ("mahajani", "Mahajani"), ("mahj", "Mahajani"), ("maka", "Makasar"),
  ("makasar", "Makasar"), ("malayalam", "Malayalam"), ("mand", "Mandaic"), ("mandaic", "Mandaic"),
  ("mani", "Manichaean"), ("manichaean", "Manichaean"), ("marc", "Marchen"), ("marchen", "Marchen"),
  ("masaramgondi", "Masaram_Gondi"), ("medefaidrin", "Medefaidrin"), ("medf", "Medefaidrin"),
  ("meeteimayek", "Meetei_Mayek"), ("mend", "Mende_Kikakui"), ("mendekikakui", "Mende_Kikakui"),
  ("merc", "Meroitic_Cursive"), ("mero", "Meroitic_Hieroglyphs"),
  ("meroiticcursive", "Meroitic_Cursive"), ("meroitichieroglyphs", "Meroitic_Hieroglyphs"),
  ("miao", "Miao"), ("mlym", "Malayalam"), ("modi", "Modi"), ("mong", "Mongolian"),
  ("mongolian", "Mongolian"), ("mro", "Mro"), ("mroo", "Mro"), ("mtei", "Meetei_Mayek"),
  ("mult", "Multani"), ("multani", "Multani"), ("myanmar", "Myanmar"), ("mymr", "Myanmar"),
  ("nabataean", "Nabataean"), ("nagm", "Nag_Mundari"), ("nagmundari", "Nag_Mundari"),
  ("nand", "Nandinagari"), ("nandinagari", "Nandinagari"), ("narb", "Old_North_Arabian"),
  ("nbat", "Nabataean"), ("newa", "Newa"), ("newtailue", "New_Tai_Lue"), ("nko", "Nko"),
  ("nkoo", "Nko"), ("nshu", "Nushu"), ("nushu", "Nushu"),
  ("nyiakengpuachuehmong", "Nyiakeng_Puachue_Hmong"), ("ogam", "Ogham"), ("ogham", "Ogham"),
  ("olchiki", "Ol_Chiki"), ("olck", "Ol_Chiki"), ("oldhungarian", "Old_Hungarian"),
  ("olditalic", "Old_Italic"), ("oldnortharabian", "Old_North_Arabian"),
  ("oldpermic", "Old_Permic"), ("oldpersian", "Old_Persian"), ("oldsogdian", "Old_Sogdian"),
  ("oldsoutharabian", "Old_South_Arabian"), ("oldturkic", "Old_Turkic"),
  ("olduyghur", "Old_Uyghur"), ("olonal", "Ol_Onal"), ("onao", "Ol_Onal"), ("oriya", "Oriya"),
  ("orkh", "Old_Turkic"), ("orya", "Oriya"), ("osage", "Osage"), ("osge", "Osage"),
  ("osma", "Osmanya"), ("osmanya", "Osmanya"), ("ougr", "Old_Uyghur"),
  ("pahawhhmong", "Pahawh_Hmong"), ("palm", "Palmyrene"), ("palmyrene", "Palmyrene"),
  ("pauc", "Pau_Cin_Hau"), ("paucinhau", "Pau_Cin_Hau"), ("perm", "Old_Permic"),
  ("phag", "Phags_Pa"), ("phagspa", "Phags_Pa"), ("phli", "Inscriptional_Pahlavi"),
  ("phlp", "Psalter_Pahlavi"), ("phnx", "Phoenician"), ("phoenician", "Phoenician"),
  ("plrd", "Miao"), ("prti", "Inscriptional_Parthian"), ("psalterpahlavi", "Psalter_Pahlavi"),
  ("qaac", "Coptic"), ("qaai", "Inherited"), ("rejang", "Rejang"), ("rjng", "Rejang"),
  ("rohg", "Hanifi_Rohingya"), ("runic", "Runic"), ("runr", "Runic"), ("samaritan", "Samaritan"),
  ("samr", "Samaritan"), ("sarb", "Old_South_Arabian"), ("saur", "Saurashtra"),
  ("saurashtra", "Saurashtra"), ("sgnw", "SignWriting"), ("sharada", "Sharada"),
  ("shavian", "Shavian"), ("shaw", "Shavian"), ("shrd", "Sharada"), ("sidd", "Siddham"),
  ("siddham", "Siddham"), ("signwriting", "SignWriting"), ("sind", "Khudawadi"),
  ("sinh", "Sinhala"), ("sinhala", "Sinhala"), ("sogd", "Sogdian"), ("sogdian", "Sogdian"),
  ("sogo", "Old_Sogdian"), ("sora", "Sora_Sompeng"), ("sorasompeng", "Sora_Sompeng"),
  ("soyo", "Soyombo"), ("soyombo", "Soyombo"), ("sund", "Sundanese"), ("sundanese", "Sundanese"),
  ("sunu", "Sunuwar"), ("sunuwar", "Sunuwar"), ("sylo", "Syloti_Nagri"),
  ("sylotinagri", "Syloti_Nagri"), ("syrc", "Syriac"), ("syriac", "Syriac"), ("tagalog", "Tagalog"),
  ("tagb", "Tagbanwa"), ("tagbanwa", "Tagbanwa"), ("taile", "Tai_Le"), ("taitham", "Tai_Tham"),
  ("taiviet", "Tai_Viet"), ("takr", "Takri"), ("takri", "Takri"), ("tale", "Tai_Le"),
  ("talu", "New_Tai_Lue"), ("tamil", "Tamil"), ("taml", "Tamil"), ("tang", "Tangut"),
  ("tangsa", "Tangsa"), ("tangut", "Tangut"), ("tavt", "Tai_Viet"), ("telu", "Telugu"),
  ("telugu", "Telugu"), ("tfng", "Tifinagh"), ("tglg", "Tagalog"), ("thaa", "Thaana"),
  ("thaana", "Thaana"), ("thai", "Thai"), ("tibetan", "Tibetan"), ("tibt", "Tibetan"),
  ("tifinagh", "Tifinagh"), ("tirh", "Tirhuta"), ("tirhuta", "Tirhuta"), ("tnsa", "Tangsa"),
  ("todhri", "Todhri"), ("todr", "Todhri"), ("toto", "Toto"), ("tulutigalari", "Tulu_Tigalari"),
  ("tutg", "Tulu_Tigalari"), ("ugar", "Ugaritic"), ("ugaritic", "Ugaritic"), ("unknown", "Unknown"),
  ("vai", "Vai"), ("vaii", "Vai"), ("vith", "Vithkuqi"), ("vithkuqi", "Vithkuqi"),
  ("wancho", "Wancho"), ("wara", "Warang_Citi"), ("warangciti", "Warang_Citi"), ("wcho", "Wancho"),
  ("xpeo", "Old_Persian"), ("xsux", "Cuneiform"), ("yezi", "Yezidi"), ("yezidi", "Yezidi"),
  ("yi", "Yi"), ("yiii", "Yi"), ("zanabazarsquare", "Zanabazar_Square"),
  ("zanb", "Zanabazar_Square"), ("zinh", "Inherited"), ("zyyy", "Common"), ("zzzz", "Unknown")]

end DocQuery.Unicode
