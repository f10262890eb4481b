/-! # Scripts

A character belongs to one script; `common` holds what several scripts use, `inherited` what takes
the script of the character before it. -/
namespace Descent.Unicode

inductive Script where
  | adlam | ahom | anatolianHieroglyphs | arabic | armenian | avestan | balinese | bamum
  | bassaVah | batak | bengali | bhaiksuki | bopomofo | brahmi | braille | buginese | buhid
  | canadianAboriginal | carian | caucasianAlbanian | chakma | cham | cherokee | chorasmian
  | common | coptic | cuneiform | cypriot | cyproMinoan | cyrillic | deseret | devanagari
  | divesAkuru | dogra | duployan | egyptianHieroglyphs | elbasan | elymaic | ethiopic | garay
  | georgian | glagolitic | gothic | grantha | greek | gujarati | gunjalaGondi | gurmukhi
  | gurungKhema | han | hangul | hanifiRohingya | hanunoo | hatran | hebrew | hiragana
  | imperialAramaic | inherited | inscriptionalPahlavi | inscriptionalParthian | javanese | kaithi
  | kannada | katakana | kawi | kayahLi | kharoshthi | khitanSmallScript | khmer | khojki
  | khudawadi | kiratRai | lao | latin | lepcha | limbu | linearA | linearB | lisu | lycian
  | lydian | mahajani | makasar | malayalam | mandaic | manichaean | marchen | masaramGondi
  | medefaidrin | meeteiMayek | mendeKikakui | meroiticCursive | meroiticHieroglyphs | miao | modi
  | mongolian | mro | multani | myanmar | nabataean | nagMundari | nandinagari | newTaiLue | newa
  | nko | nushu | nyiakengPuachueHmong | ogham | olChiki | olOnal | oldHungarian | oldItalic
  | oldNorthArabian | oldPermic | oldPersian | oldSogdian | oldSouthArabian | oldTurkic
  | oldUyghur | oriya | osage | osmanya | pahawhHmong | palmyrene | pauCinHau | phagsPa
  | phoenician | psalterPahlavi | rejang | runic | samaritan | saurashtra | sharada | shavian
  | siddham | signWriting | sinhala | sogdian | soraSompeng | soyombo | sundanese | sunuwar
  | sylotiNagri | syriac | tagalog | tagbanwa | taiLe | taiTham | taiViet | takri | tamil | tangsa
  | tangut | telugu | thaana | thai | tibetan | tifinagh | tirhuta | todhri | toto | tuluTigalari
  | ugaritic | vai | vithkuqi | wancho | warangCiti | yezidi | yi | zanabazarSquare
deriving DecidableEq

namespace Script

def all : List Script := [
    adlam, ahom, anatolianHieroglyphs, arabic, armenian, avestan, balinese, bamum, bassaVah, batak,
    bengali, bhaiksuki, bopomofo, brahmi, braille, buginese, buhid, canadianAboriginal, carian,
    caucasianAlbanian, chakma, cham, cherokee, chorasmian, common, coptic, cuneiform, cypriot,
    cyproMinoan, cyrillic, deseret, devanagari, divesAkuru, dogra, duployan, egyptianHieroglyphs,
    elbasan, elymaic, ethiopic, garay, georgian, glagolitic, gothic, grantha, greek, gujarati,
    gunjalaGondi, gurmukhi, gurungKhema, han, hangul, hanifiRohingya, hanunoo, hatran, hebrew,
    hiragana, imperialAramaic, inherited, inscriptionalPahlavi, inscriptionalParthian, javanese,
    kaithi, kannada, katakana, kawi, kayahLi, kharoshthi, khitanSmallScript, khmer, khojki,
    khudawadi, kiratRai, lao, latin, lepcha, limbu, linearA, linearB, lisu, lycian, lydian,
    mahajani, makasar, malayalam, mandaic, manichaean, marchen, masaramGondi, medefaidrin,
    meeteiMayek, mendeKikakui, meroiticCursive, meroiticHieroglyphs, miao, modi, mongolian, mro,
    multani, myanmar, nabataean, nagMundari, nandinagari, newTaiLue, newa, nko, nushu,
    nyiakengPuachueHmong, ogham, olChiki, olOnal, oldHungarian, oldItalic, oldNorthArabian,
    oldPermic, oldPersian, oldSogdian, oldSouthArabian, oldTurkic, oldUyghur, oriya, osage,
    osmanya, pahawhHmong, palmyrene, pauCinHau, phagsPa, phoenician, psalterPahlavi, rejang, runic,
    samaritan, saurashtra, sharada, shavian, siddham, signWriting, sinhala, sogdian, soraSompeng,
    soyombo, sundanese, sunuwar, sylotiNagri, syriac, tagalog, tagbanwa, taiLe, taiTham, taiViet,
    takri, tamil, tangsa, tangut, telugu, thaana, thai, tibetan, tifinagh, tirhuta, todhri, toto,
    tuluTigalari, ugaritic, vai, vithkuqi, wancho, warangCiti, yezidi, yi, zanabazarSquare]

/-- The long name and the code of a script, without case, spaces, hyphens and underscores. -/
def names : Script → List String
  | adlam => ["adlam", "adlm"]
  | ahom => ["ahom"]
  | anatolianHieroglyphs => ["anatolianhieroglyphs", "hluw"]
  | arabic => ["arabic", "arab"]
  | armenian => ["armenian", "armn"]
  | avestan => ["avestan", "avst"]
  | balinese => ["balinese", "bali"]
  | bamum => ["bamum", "bamu"]
  | bassaVah => ["bassavah", "bass"]
  | batak => ["batak", "batk"]
  | bengali => ["bengali", "beng"]
  | bhaiksuki => ["bhaiksuki", "bhks"]
  | bopomofo => ["bopomofo", "bopo"]
  | brahmi => ["brahmi", "brah"]
  | braille => ["braille", "brai"]
  | buginese => ["buginese", "bugi"]
  | buhid => ["buhid", "buhd"]
  | canadianAboriginal => ["canadianaboriginal", "cans"]
  | carian => ["carian", "cari"]
  | caucasianAlbanian => ["caucasianalbanian", "aghb"]
  | chakma => ["chakma", "cakm"]
  | cham => ["cham"]
  | cherokee => ["cherokee", "cher"]
  | chorasmian => ["chorasmian", "chrs"]
  | common => ["common", "zyyy"]
  | coptic => ["coptic", "copt", "qaac"]
  | cuneiform => ["cuneiform", "xsux"]
  | cypriot => ["cypriot", "cprt"]
  | cyproMinoan => ["cyprominoan", "cpmn"]
  | cyrillic => ["cyrillic", "cyrl"]
  | deseret => ["deseret", "dsrt"]
  | devanagari => ["devanagari", "deva"]
  | divesAkuru => ["divesakuru", "diak"]
  | dogra => ["dogra", "dogr"]
  | duployan => ["duployan", "dupl"]
  | egyptianHieroglyphs => ["egyptianhieroglyphs", "egyp"]
  | elbasan => ["elbasan", "elba"]
  | elymaic => ["elymaic", "elym"]
  | ethiopic => ["ethiopic", "ethi"]
  | garay => ["garay", "gara"]
  | georgian => ["georgian", "geor"]
  | glagolitic => ["glagolitic", "glag"]
  | gothic => ["gothic", "goth"]
  | grantha => ["grantha", "gran"]
  | greek => ["greek", "grek"]
  | gujarati => ["gujarati", "gujr"]
  | gunjalaGondi => ["gunjalagondi", "gong"]
  | gurmukhi => ["gurmukhi", "guru"]
  | gurungKhema => ["gurungkhema", "gukh"]
  | han => ["han", "hani"]
  | hangul => ["hangul", "hang"]
  | hanifiRohingya => ["hanifirohingya", "rohg"]
  | hanunoo => ["hanunoo", "hano"]
  | hatran => ["hatran", "hatr"]
  | hebrew => ["hebrew", "hebr"]
  | hiragana => ["hiragana", "hira"]
  | imperialAramaic => ["imperialaramaic", "armi"]
  | inherited => ["inherited", "zinh", "qaai"]
  | inscriptionalPahlavi => ["inscriptionalpahlavi", "phli"]
  | inscriptionalParthian => ["inscriptionalparthian", "prti"]
  | javanese => ["javanese", "java"]
  | kaithi => ["kaithi", "kthi"]
  | kannada => ["kannada", "knda"]
  | katakana => ["katakana", "kana"]
  | kawi => ["kawi"]
  | kayahLi => ["kayahli", "kali"]
  | kharoshthi => ["kharoshthi", "khar"]
  | khitanSmallScript => ["khitansmallscript", "kits"]
  | khmer => ["khmer", "khmr"]
  | khojki => ["khojki", "khoj"]
  | khudawadi => ["khudawadi", "sind"]
  | kiratRai => ["kiratrai", "krai"]
  | lao => ["lao", "laoo"]
  | latin => ["latin", "latn"]
  | lepcha => ["lepcha", "lepc"]
  | limbu => ["limbu", "limb"]
  | linearA => ["lineara", "lina"]
  | linearB => ["linearb", "linb"]
  | lisu => ["lisu"]
  | lycian => ["lycian", "lyci"]
  | lydian => ["lydian", "lydi"]
  | mahajani => ["mahajani", "mahj"]
  | makasar => ["makasar", "maka"]
  | malayalam => ["malayalam", "mlym"]
  | mandaic => ["mandaic", "mand"]
  | manichaean => ["manichaean", "mani"]
  | marchen => ["marchen", "marc"]
  | masaramGondi => ["masaramgondi", "gonm"]
  | medefaidrin => ["medefaidrin", "medf"]
  | meeteiMayek => ["meeteimayek", "mtei"]
  | mendeKikakui => ["mendekikakui", "mend"]
  | meroiticCursive => ["meroiticcursive", "merc"]
  | meroiticHieroglyphs => ["meroitichieroglyphs", "mero"]
  | miao => ["miao", "plrd"]
  | modi => ["modi"]
  | mongolian => ["mongolian", "mong"]
  | mro => ["mro", "mroo"]
  | multani => ["multani", "mult"]
  | myanmar => ["myanmar", "mymr"]
  | nabataean => ["nabataean", "nbat"]
  | nagMundari => ["nagmundari", "nagm"]
  | nandinagari => ["nandinagari", "nand"]
  | newTaiLue => ["newtailue", "talu"]
  | newa => ["newa"]
  | nko => ["nko", "nkoo"]
  | nushu => ["nushu", "nshu"]
  | nyiakengPuachueHmong => ["nyiakengpuachuehmong", "hmnp"]
  | ogham => ["ogham", "ogam"]
  | olChiki => ["olchiki", "olck"]
  | olOnal => ["olonal", "onao"]
  | oldHungarian => ["oldhungarian", "hung"]
  | oldItalic => ["olditalic", "ital"]
  | oldNorthArabian => ["oldnortharabian", "narb"]
  | oldPermic => ["oldpermic", "perm"]
  | oldPersian => ["oldpersian", "xpeo"]
  | oldSogdian => ["oldsogdian", "sogo"]
  | oldSouthArabian => ["oldsoutharabian", "sarb"]
  | oldTurkic => ["oldturkic", "orkh"]
  | oldUyghur => ["olduyghur", "ougr"]
  | oriya => ["oriya", "orya"]
  | osage => ["osage", "osge"]
  | osmanya => ["osmanya", "osma"]
  | pahawhHmong => ["pahawhhmong", "hmng"]
  | palmyrene => ["palmyrene", "palm"]
  | pauCinHau => ["paucinhau", "pauc"]
  | phagsPa => ["phagspa", "phag"]
  | phoenician => ["phoenician", "phnx"]
  | psalterPahlavi => ["psalterpahlavi", "phlp"]
  | rejang => ["rejang", "rjng"]
  | runic => ["runic", "runr"]
  | samaritan => ["samaritan", "samr"]
  | saurashtra => ["saurashtra", "saur"]
  | sharada => ["sharada", "shrd"]
  | shavian => ["shavian", "shaw"]
  | siddham => ["siddham", "sidd"]
  | signWriting => ["signwriting", "sgnw"]
  | sinhala => ["sinhala", "sinh"]
  | sogdian => ["sogdian", "sogd"]
  | soraSompeng => ["sorasompeng", "sora"]
  | soyombo => ["soyombo", "soyo"]
  | sundanese => ["sundanese", "sund"]
  | sunuwar => ["sunuwar", "sunu"]
  | sylotiNagri => ["sylotinagri", "sylo"]
  | syriac => ["syriac", "syrc"]
  | tagalog => ["tagalog", "tglg"]
  | tagbanwa => ["tagbanwa", "tagb"]
  | taiLe => ["taile", "tale"]
  | taiTham => ["taitham", "lana"]
  | taiViet => ["taiviet", "tavt"]
  | takri => ["takri", "takr"]
  | tamil => ["tamil", "taml"]
  | tangsa => ["tangsa", "tnsa"]
  | tangut => ["tangut", "tang"]
  | telugu => ["telugu", "telu"]
  | thaana => ["thaana", "thaa"]
  | thai => ["thai"]
  | tibetan => ["tibetan", "tibt"]
  | tifinagh => ["tifinagh", "tfng"]
  | tirhuta => ["tirhuta", "tirh"]
  | todhri => ["todhri", "todr"]
  | toto => ["toto"]
  | tuluTigalari => ["tulutigalari", "tutg"]
  | ugaritic => ["ugaritic", "ugar"]
  | vai => ["vai", "vaii"]
  | vithkuqi => ["vithkuqi", "vith"]
  | wancho => ["wancho", "wcho"]
  | warangCiti => ["warangciti", "wara"]
  | yezidi => ["yezidi", "yezi"]
  | yi => ["yi", "yiii"]
  | zanabazarSquare => ["zanabazarsquare", "zanb"]

end Script
end Descent.Unicode
