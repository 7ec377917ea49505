import FieldRules.Unicode.Runs

namespace FieldRules.Unicode

def scriptNames : List String := [
  "Adlam",
  "Ahom",
  "Anatolian_Hieroglyphs",
  "Arabic",
  "Armenian",
  "Avestan",
  "Balinese",
  "Bamum",
  "Bassa_Vah",
  "Batak",
  "Bengali",
  "Bhaiksuki",
  "Bopomofo",
  "Brahmi",
  "Braille",
  "Buginese",
  "Buhid",
  "Canadian_Aboriginal",
  "Carian",
  "Caucasian_Albanian",
  "Chakma",
  "Cham",
  "Cherokee",
  "Chorasmian",
  "Common",
  "Coptic",
  "Cuneiform",
  "Cypriot",
  "Cypro_Minoan",
  "Cyrillic",
  "Deseret",
  "Devanagari",
  "Dives_Akuru",
  "Dogra",
  "Duployan",
  "Egyptian_Hieroglyphs",
  "Elbasan",
  "Elymaic",
  "Ethiopic",
  "Georgian",
  "Glagolitic",
  "Gothic",
  "Grantha",
  "Greek",
  "Gujarati",
  "Gunjala_Gondi",
  "Gurmukhi",
  "Han",
  "Hangul",
  "Hanifi_Rohingya",
  "Hanunoo",
  "Hatran",
  "Hebrew",
  "Hiragana",
  "Imperial_Aramaic",
  "Inherited",
  "Inscriptional_Pahlavi",
  "Inscriptional_Parthian",
  "Javanese",
  "Kaithi",
  "Kannada",
  "Katakana",
  "Kawi",
  "Kayah_Li",
  "Kharoshthi",
  "Khitan_Small_Script",
  "Khmer",
  "Khojki",
  "Khudawadi",
  "Lao",
  "Latin",
  "Lepcha",
  "Limbu",
  "Linear_A",
  "Linear_B",
  "Lisu",
  "Lycian",
  "Lydian",
  "Mahajani",
  "Makasar",
  "Malayalam",
  "Mandaic",
  "Manichaean",
  "Marchen",
  "Masaram_Gondi",
  "Medefaidrin",
  "Meetei_Mayek",
  "Mende_Kikakui",
  "Meroitic_Cursive",
  "Meroitic_Hieroglyphs",
  "Miao",
  "Modi",
  "Mongolian",
  "Mro",
  "Multani",
  "Myanmar",
  "Nabataean",
  "Nag_Mundari",
  "Nandinagari",
  "New_Tai_Lue",
  "Newa",
  "Nko",
  "Nushu",
  "Nyiakeng_Puachue_Hmong",
  "Ogham",
  "Ol_Chiki",
  "Old_Hungarian",
  "Old_Italic",
  "Old_North_Arabian",
  "Old_Permic",
  "Old_Persian",
  "Old_Sogdian",
  "Old_South_Arabian",
  "Old_Turkic",
  "Old_Uyghur",
  "Oriya",
  "Osage",
  "Osmanya",
  "Pahawh_Hmong",
  "Palmyrene",
  "Pau_Cin_Hau",
  "Phags_Pa",
  "Phoenician",
  "Psalter_Pahlavi",
  "Rejang",
  "Runic",
  "Samaritan",
  "Saurashtra",
  "Sharada",
  "Shavian",
  "Siddham",
  "SignWriting",
  "Sinhala",
  "Sogdian",
  "Sora_Sompeng",
  "Soyombo",
  "Sundanese",
  "Syloti_Nagri",
  "Syriac",
  "Tagalog",
  "Tagbanwa",
  "Tai_Le",
  "Tai_Tham",
  "Tai_Viet",
  "Takri",
  "Tamil",
  "Tangsa",
  "Tangut",
  "Telugu",
  "Thaana",
  "Thai",
  "Tibetan",
  "Tifinagh",
  "Tirhuta",
  "Toto",
  "Ugaritic",
  "Unknown",
  "Vai",
  "Vithkuqi",
  "Wancho",
  "Warang_Citi",
  "Yezidi",
  "Yi",
  "Zanabazar_Square"]

def scriptRuns : Runs := Runs.decode (
  "0Ę41ņ1aĘ6ņ1aĘ2fņ1Ęfņ1Ę5ņ17Ę1ņ1fĘ1ņ1c1Ę27ņ5Ę5Č2Ę14ķ70ī4Ę1ī3Ɯ2ī4Ę1ī1Ɯ4ī1Ę1ī1Ę1ī3Ɯ1ī1Ɯ1ī14Ɯ1ī3fęeī1" ++
  "0ĝ85ķ2ĝa9Ɯ1Ą26Ɯ2Ą32Ɯ2Ą3Ɯ1Ĵ37Ɯ8Ĵ1bƜ4Ĵ6Ɯbă5Ę1ă6Ę1ăeĘ1ă3Ę1ă20Ę1ăaķbă1aķ1ă6cĘ1ă22ƊeƜ1Ɗ3cƜ2Ɗ3ă30ƕ32Ɯe" ++
  "ť3bƜ2ť3ž2eƜ2žfƜ1ő1cƜ2ő1Ɯ1ƊbƜ5ă1fƜ1ă2Ɯ6ă4aĘ1ă1dğ51ķ4ğfĘ2ğ1aĊ4Ɯ1Ċ8Ɯ2Ċ2Ɯ2Ċ16Ɯ1Ċ7Ɯ1Ċ1Ɯ3Ċ4Ɯ2Ċ9Ɯ2Ċ2Ɯ2Ċ" ++
  "4Ɯ8Ċ1Ɯ4Ċ2Ɯ1Ċ5Ɯ2Ċ19Ɯ2Į3Ɯ1Į6Ɯ4Į2Ɯ2Į16Ɯ1Į7Ɯ1Į2Ɯ1Į2Ɯ1Į2Ɯ2Į1Ɯ1Į5Ɯ4Į2Ɯ2Į3Ɯ3Į1Ɯ7Į4Ɯ1Į1Ɯ7Į11ƜaĬ3Ɯ1Ĭ9Ɯ1Ĭ3" ++
  "Ɯ1Ĭ16Ɯ1Ĭ7Ɯ1Ĭ2Ɯ1Ĭ5Ɯ2ĬaƜ1Ĭ3Ɯ1Ĭ3Ɯ2Ĭ1ƜfĬ4Ɯ2ĬcƜ7Ĭ7Ɯ1ų3Ɯ1ų8Ɯ2ų2Ɯ2ų16Ɯ1ų7Ɯ1ų2Ɯ1ų5Ɯ2ų9Ɯ2ų2Ɯ2ų3Ɯ7ų3Ɯ4ų2Ɯ1" ++
  "ų5Ɯ2ų12ƜaƑ2Ɯ1Ƒ6Ɯ3Ƒ3Ɯ1Ƒ4Ɯ3Ƒ2Ɯ1Ƒ1Ɯ1Ƒ2Ɯ3Ƒ2Ɯ3Ƒ3Ɯ3ƑcƜ4Ƒ5Ɯ3Ƒ3Ɯ1Ƒ4Ɯ2Ƒ1Ɯ6Ƒ1ƜeƑ15Ɯ5ƔdƜ1Ɣ3Ɯ1Ɣ17Ɯ1Ɣ10Ɯ2Ɣ9Ɯ1" ++
  "Ɣ3Ɯ1Ɣ4Ɯ7Ɣ2Ɯ1Ɣ3Ɯ2Ɣ1Ɯ2Ɣ4Ɯ2ƔaƜ7Ɣ9ļdƜ1ļ3Ɯ1ļ17Ɯ1ļaƜ1ļ5Ɯ2ļ9Ɯ1ļ3Ɯ1ļ4Ɯ7ļ2Ɯ6ļ2Ɯ1ļ4Ɯ2ļaƜ1ļ3ƜcŐdƜ1Ő3Ɯ1Ő33Ɯ1" ++
  "Ő3Ɯ1Ő6Ɯ4Ő10Ɯ2Ő1aƜ1Ƅ3Ɯ1Ƅ12Ɯ3Ƅ18Ɯ1Ƅ9Ɯ1Ƅ1Ɯ2Ƅ7Ɯ3Ƅ1Ɯ4Ƅ6Ɯ1Ƅ1Ɯ1Ƅ8Ɯ6ƄaƜ2Ƅ3ƜcƖ3aƜ4Ę1Ɩ1cƜ25Ņ2Ɯ1Ņ1Ɯ1Ņ5Ɯ1Ņ18" ++
  "Ɯ1Ņ1Ɯ1Ņ17Ɯ2Ņ5Ɯ1Ņ1Ɯ1Ņ7Ɯ1ŅaƜ2Ņ4Ɯ20Ɨ48Ɯ1Ɨ24Ɯ4Ɨ27Ɯ1Ɨ24Ɯ1ƗfƜ1Ɨ7Ę4Ɨ2Ɯ25şa0ħ26Ɯ1ħ1Ɯ5ħ1Ɯ2ħ2bĘ1ħ4İ100Ħ49Ɯ" ++
  "1Ħ4Ɯ2Ħ7Ɯ1Ħ1Ɯ1Ħ4Ɯ2Ħ29Ɯ1Ħ4Ɯ2Ħ21Ɯ1Ħ4Ɯ2Ħ7Ɯ1Ħ1Ɯ1Ħ4Ɯ2ĦfƜ1Ħ39Ɯ1Ħ4Ɯ2Ħ43Ɯ2Ħ20Ɯ3Ħ1aƜ6Ė56Ɯ2Ė6Ɯ2đ280Ũ1dƜ3Ž4b" ++
  "Ę3ŽbƜ7Ƌ16Ɯ9Ƌ1Ĳ15Ę2Ɯ9Đ14ƜcƌdƜ1ƌ3Ɯ1ƌ2Ɯcł5eƜ2łaƜ6łaƜ6Ŝ2Ę2Ŝ1Ę1Ŝ14Ɯ6Ŝ59Ɯ7Ŝ2bƜ5đ46Ɯaň1fƜ1ňcƜ4ňcƜ4ň1Ɯ3ň" ++
  "cƍ1eƜ2ƍ5Ɯbţ2cƜ4ţ1aƜ6ţbƜ3ţ2ł20ď1cƜ2ď2Ǝ3fƜ1Ǝ1dƜ2ƎbƜ6ƎaƜ6ƎeƜ2ķ1fƜ31Ć4dƜ3Ć2fƜ1ƈ40ĉ34Ɯ8ĉ4Ň38Ɯ3ŇfƜ3Ň3ũ" ++
  "30ĝ9Ɯ7ħ2bƜ2ħ3ƈ8Ɯ8ķ3Ę1ķdĘ1ķ7Ę4ķ1Ę6ķ1Ę3ķ2Ę1Ɯ5ņ26ī5ĝ1ņ31ī5ņ4ī5ņdĝ1ņ46ī1ķ40ņ100ī16Ɯ2ī6Ɯ2ī26Ɯ2ī6Ɯ2ī8Ɯ" ++
  "1ī1Ɯ1ī1Ɯ1ī1Ɯ1ī1fƜ2ī35Ɯ1īfƜ1īeƜ2ī6Ɯ1ī13Ɯ2ī3Ɯ1ī9Ɯ1Ęcķ2Ę57Ɯ1Ębņ1Ɯ2Ębņ1ĘfƜ1ņdƜ3Ę21Ɯfķ21ƜfĘ26ī1Ę3ņ2Ę6" ++
  "ņ1Ę1bņ1Ę11ņ29Ę3Ɯ4Ę297Ɯ19ĘbƜ15Ę3a0Ď100Ę274Ɯ2Ę20Ɯ1Ę69Ĩ60ņ20ę74Ɯ5ę7ħ26Ɯ1ħ1Ɯ5ħ1Ɯ2Ƙ38Ɯ7Ƙ2ƜeƘ1Ħ17Ɯ9Ħ7Ɯ" ++
  "1Ħ7Ɯ1Ħ7Ɯ1Ħ7Ɯ1Ħ7Ɯ1Ħ7Ɯ1Ħ7Ɯ1Ħ7Ɯ1ĝ20Ę5eƜ22į1aƜ1į59Ɯcįd6Ɯ1aĘcƜ4Ę5į1Ę1į1Ę19į9ķ4İ2Ę8į4Ę4Ɯ1ĵ56Ɯ2ķ2Ę2ĵ3Ę1" ++
  "Ľ5aĘ2Ľ3Ɯ5Č2bƜ1İ5eƜ1Ę10Č20Ę24ƜcĽ10İ1fƜ1Ę40İ1fĘ51Ľ2fĘ1Ľ58Ęa8į19c0Ę40į5200Ƣ48dƜ3Ƣ37Ɯ9ŋ30Ɲ12cƜ14ĝ60ć" ++
  "58Ɯ8Ę22ņ66Ę3ņ40Ɯ5ņ2Ɯ1ņ1Ɯ1ņ5Ɯ18ņeƉ2dƜ3ĘaƜ6Ź38Ɯ8ſ46Ɯ8ſcƜ6ğ20Ŀ2eĘ1Ŀ1ż24Ɯbż1İ1dƜ3ĺ4eƜ1Ę1ĺaƜ4ĺ2ş1fƜ1ĕ" ++
  "37Ɯ9ĕeƜ2ĕaƜ2ĕ4ş20Ə43Ɯ18Ə5Ŗ17ƜaĦ6Ɯ2Ħ6Ɯ2Ħ6Ɯ9Ħ7Ɯ1Ħ7Ɯ1ņ2bĘ1ņ9ī1ņ4Ę2Ɯ4Ė50Ŗ2eƜ2ŖaƜ6İ2ba4Ɯcİ17Ɯ4İ31Ɯ210" ++
  "4į16eƜ2į6aƜ26ņ7ƜcĄ5Ɯ5Ĵ1aƜ1Ĵ5Ɯ1Ĵ1Ɯ1Ĵ2Ɯ1Ĵ2Ɯ1Ĵaă73Ɯ10ă16bĘ2ă50Ɯ2ă36Ɯ7ă1Ɯ20ă10ķ10ĘaƜ6ķeĝ2Ę23Ɯ1Ę13Ɯ1Ę" ++
  "4Ɯ4ă5Ɯ1ă87Ɯ2Ę1Ɯ1Ę20ņ1aĘ6ņ1aĘbĽaĘ1Ľ2dĘ2İ1fƜ3İ6Ɯ2İ6Ɯ2İ6Ɯ2İ3Ɯ3Ę7Ɯ1Ę7ƜaĘ5Ɯ2ŊcƜ1Ŋ1aƜ1Ŋ13Ɯ1Ŋ2Ɯ1ŊfƜ2ŊeƜ" ++
  "22Ŋ7bƜ5Ę3Ɯ4Ę2dƜ3Ę9ī4fƜ1ĘdƜ3ī1Ɯ2fĘ2dķ1Ɯ82Ō1dƜ3Ē31Ɯfķ1Ę1bƜ4ū24Ɯ9ū3ĩ1bƜ5ŭ2bƜ5ƛ1eƜ1ƛ1Ů24Ɯ4ŮeƜ2aĞ50Ɓ3" ++
  "0ŵ1eƜ2ŵaƜ6Ŵ24Ɯ4Ŵ24Ɯ4Ĥ28Ɯ8ē34Ɯbē1ƞbƜ1ƞfƜ1ƞ7Ɯ1ƞ2Ɯ1ƞbƜ1ƞfƜ1ƞ7Ɯ1ƞ2Ɯ43ŉ137Ɯ9ŉ16Ɯaŉ8Ɯ18ņ6Ɯ1ņ2aƜ1ņ9Ɯ45ě" ++
  "6Ɯ2ě1Ɯ1ě2cƜ1ě2Ɯ3ě1Ɯ2ě1Ķ16Ɯ1Ķ9ŷ20Š1fƜ8Š9Ɯ30ĳ13Ɯ1ĳ2Ɯ5ĳ5ź1cƜ3ź1ō1aƜ5ō1Ɯ40ř20Ř18Ɯ4Ř14Ɯ2Ř2eŀ4Ɯ1ŀ2Ɯ5ŀ8" ++
  "Ɯ1ŀ3Ɯ1ŀ1dƜ2ŀ3Ɯ4ŀaƜ7ŀ9Ɯ7Ű20Ŭ20Ɯ20Œ27Ɯ4ŒcƜ9ą36Ɯ3ą7Ĺ16Ɯ2Ĺ8ĸ13Ɯ5ĸ8Ż12Ɯ7Ż4ƜcŻ7Ɯ50ű49Ɯ37Ū33ƜdŪ33Ɯ7Ū6ı2" ++
  "8Ɯ8ıaƜ126ă1fƜ1ơ2aƜ1ơ3Ɯ2ơ2Ɯ4bă3ů28Ɯ8ƅ2aƜ16Ų1aƜ26ė1cƜ14ĥ17Ɯ9č4eƜ4č24Ɯ9č1Ļ43ƜaĻ1Ɯ2Ɔ19Ɯ7ƆaƜ6Ĕ35Ɯ1Ĕ12" ++
  "Ɯ8Ŏ27Ɯ9ƀ60Ɯ1Ƅ14ƜbŃ12Ɯ1Ń2fƜ3eŞ7Ɯ1Ş1Ɯ1Ş4Ɯ1ŞfƜ1ŞbƜ6ń3bƜ5ńaƜ6Ī4Ɯ1Ī8Ɯ2Ī2Ɯ2Ī16Ɯ1Ī7Ɯ1Ī2Ɯ1Ī5Ɯ1ķ1Ī9Ɯ2Ī2Ɯ2" ++
  "Ī3Ɯ2Ī1Ɯ6Ī1Ɯ5Ī7Ɯ2Ī7Ɯ3Ī5Ɯ8bŤ5cƜ1Ť5Ɯ1eƙ48Ɯ8ƙaƜa6Ƃ36Ɯ2Ƃ26Ɯ22ś45ƜbśaƜ6ŜdƜ13Ɛ3aƜ6ƐaƜ36ā1bƜ2āfƜ4ā17Ɯb9ġ" ++
  "3cƜ64Ơ53ƜcƠ1Ġ7Ɯ2Ġ1Ɯ2Ġ8Ɯ1Ġ2Ɯ1Ġ1eƜ1Ġ2Ɯ2ĠcƜ9ĠaƜ46Ţ8Ɯ2Ţ2eƜ2ŢbƜ1bƣ48Ɯ8Ƈ53Ɯdđ10Ÿ39Ɯ7ğaƜf6ċ9Ɯ1ċ2dƜ1ċeƜa" ++
  "ċ1dƜ3œ20Ɯ2œ16Ɯ1œeƜ49Ŕ7Ɯ1Ŕ2Ɯ1Ŕ2cƜ3Ŕ1Ɯ1Ŕ2Ɯ1Ŕ9Ɯ8ŔaƜ6ĭ6Ɯ1ĭ2Ɯ1ĭ25Ɯ1ĭ2Ɯ1ĭ6Ɯ7ĭaƜ136ŏ19Ɯ7ľ11Ɯ1ľ29Ɯ3ľ1cƜ5" ++
  "6ŋ1ƜfƑ32ƜdƑ1Ě39aƜ66Ě6fƜ1Ě5ƜbĚc4Ɯa4cĜ63Ɯdģ456ƜfaaĂ247Ɯ21b9ć239Ɯ7ŝ1fƜ1ŝaƜ4ŝ2ƒ4fƜ1ƒaƜ6Ĉ1eƜ2Ĉ6ƜaŶ46Ɯ" ++
  "aŶaƜ1Ŷ7Ɯ1Ŷ15Ɯ5Ŷ13Ɯ2b0ŕ5bƜ65Ś4bƜ4Ś39Ɯ7Ś11Ɯ40Ɠ1Ŧ1į2Ł1Ɯbį2ƜeƓ17f8Ɯ8Ɠ300Ł1d6Ɯ2aƓ9Ɯ22e7Ľ4Ɯ1Ľ7Ɯ1Ľ2Ɯ1Ľ1" ++
  "ĵ11fĽ3Ɯfĵ1Ɯ1dĵ3Ɯ2Ľ1ƜeĽ4Ɯ8Ŧ18cƜ904Ģ6bƜ5ĢdƜ3Ģ9Ɯ7ĢaƜ2Ģ4Ę4Ɯ125cķ2eƜ2ķ17Ɯ9Ę74Ɯ3cĘf6ƜaĘ27Ɯ2Ę3eķ3Ę11ķ8Ę" ++
  "2ķ7Ę1eķ4Ę3dƜ15ī46Ɯ7aĘ14ƜcĘ14ƜcĘ57Ɯ9Ę19Ɯ87Ę55Ɯ1Ę47Ɯ1Ę2Ɯ2Ę1Ɯ2Ę2Ɯ2Ę4Ɯ1ĘcƜ1Ę1Ɯ1Ę7Ɯ1Ę41Ɯ1Ę4Ɯ2Ę8Ɯ1Ę7Ɯ1" ++
  "Ę1cƜ1Ę4Ɯ1Ę5Ɯ1Ę1Ɯ3Ę7Ɯ1Ę154Ɯ2Ę124Ɯ2Ę32ƃ28cƜfƃ5Ɯ1ƃfƜ450ņ1fƜ6ņ6Ɯd5Ĩ7Ɯ1Ĩ11Ɯ2Ĩ7Ɯ1Ĩ2Ɯ1Ĩ5Ɯ5ĝ3eƜ21ĝ1Ɯ70ŧ2" ++
  "dƜ3ŧeƜ2ŧaƜ4ŧ2Ɯ140ƚ1fƜ11Ɵ3aƜ5Ɵ1Ɯ1d0š2aƜ2e6Ħ7Ɯ1Ħ4Ɯ1Ħ2Ɯ1ĦfƜ1ŗc5Ɯ2ŗ10Ɯ29Ā4cƜ4ĀaƜ4Ā2Ɯ311Ę44Ɯ4cĘ3dƜc2ă" ++
  "4Ɯ1ă1bƜ1ă2Ɯ1ă1Ɯ2ă1Ɯ1ăaƜ1ă4Ɯ1ă1Ɯ1ă1Ɯ6ă1Ɯ4ă1Ɯ1ă1Ɯ1ă1Ɯ1ă3Ɯ1ă2Ɯ1ă1Ɯ2ă1Ɯ1ă1Ɯ1ă1Ɯ1ă1Ɯ1ă1Ɯ1ă2Ɯ1ă1Ɯ2ă4Ɯ1" ++
  "ă7Ɯ1ă4Ɯ1ă4Ɯ1ă1Ɯ1ăaƜ1ă11Ɯ5ă3Ɯ1ă5Ɯ1ă11Ɯ34ă2Ɯ10eĘ2cƜ4Ę64ƜcĘfƜ2ĘfƜ1ĘfƜ1Ę25ƜaĘaeƜ38Ę1aĵ1Ę2ƜdĘ2cƜ4Ę9Ɯ7" ++
  "Ę2ƜeĘ6Ɯ9aĘ3d8Ɯ4Ę11Ɯ3ĘdƜ3Ę77Ɯ4Ę5fƜ6ĘcƜ4Ę1ƜfĘcƜ4Ę38Ɯ8ĘaƜ6Ę28Ɯ8Ę1eƜ2Ę2Ɯ4eĘ154ƜcĘeƜ2ĘdƜ3Ę9Ɯ7Ę2eƜ1Ę7Ɯ" ++
  "8ĘeƜ4Ę9Ɯ7Ę9Ɯ7Ę93Ɯ1Ę37Ɯ25ĘaƜ406įa6e0Ɯ20į103aƜ6įdeƜ2į1682Ɯeį1d31Ɯc1fį21eƜ5e2į134bƜ5į1060Ɯadc51Ę1Ɯ1" ++
  "eĘ60Ɯ80ķf0Ɯ2fe10Ɯ")

def script (c : Char) : Nat := scriptRuns.valueAt c.toNat

def scriptAliases : List (List String × Nat) := [
  (["Adlm", "Adlam"], 0),
  (["Ahom", "Ahom"], 1),
  (["Hluw", "Anatolian_Hieroglyphs"], 2),
  (["Arab", "Arabic"], 3),
  (["Armn", "Armenian"], 4),
  (["Avst", "Avestan"], 5),
  (["Bali", "Balinese"], 6),
  (["Bamu", "Bamum"], 7),
  (["Bass", "Bassa_Vah"], 8),
  (["Batk", "Batak"], 9),
  (["Beng", "Bengali"], 10),
  (["Bhks", "Bhaiksuki"], 11),
  (["Bopo", "Bopomofo"], 12),
  (["Brah", "Brahmi"], 13),
  (["Brai", "Braille"], 14),
  (["Bugi", "Buginese"], 15),
  (["Buhd", "Buhid"], 16),
  (["Cans", "Canadian_Aboriginal"], 17),
  (["Cari", "Carian"], 18),
  (["Aghb", "Caucasian_Albanian"], 19),
  (["Cakm", "Chakma"], 20),
  (["Cham", "Cham"], 21),
  (["Cher", "Cherokee"], 22),
  (["Chrs", "Chorasmian"], 23),
  (["Zyyy", "Common"], 24),
  (["Copt", "Coptic", "Qaac"], 25),
  (["Xsux", "Cuneiform"], 26),
  (["Cprt", "Cypriot"], 27),
  (["Cpmn", "Cypro_Minoan"], 28),
  (["Cyrl", "Cyrillic"], 29),
  (["Dsrt", "Deseret"], 30),
  (["Deva", "Devanagari"], 31),
  (["Diak", "Dives_Akuru"], 32),
  (["Dogr", "Dogra"], 33),
  (["Dupl", "Duployan"], 34),
  (["Egyp", "Egyptian_Hieroglyphs"], 35),
  (["Elba", "Elbasan"], 36),
  (["Elym", "Elymaic"], 37),
  (["Ethi", "Ethiopic"], 38),
  (["Geor", "Georgian"], 39),
  (["Glag", "Glagolitic"], 40),
  (["Goth", "Gothic"], 41),
  (["Gran", "Grantha"], 42),
  (["Grek", "Greek"], 43),
  (["Gujr", "Gujarati"], 44),
  (["Gong", "Gunjala_Gondi"], 45),
  (["Guru", "Gurmukhi"], 46),
  (["Hani", "Han"], 47),
  (["Hang", "Hangul"], 48),
  (["Rohg", "Hanifi_Rohingya"], 49),
  (["Hano", "Hanunoo"], 50),
  (["Hatr", "Hatran"], 51),
  (["Hebr", "Hebrew"], 52),
  (["Hira", "Hiragana"], 53),
  (["Armi", "Imperial_Aramaic"], 54),
  (["Zinh", "Inherited", "Qaai"], 55),
  (["Phli", "Inscriptional_Pahlavi"], 56),
  (["Prti", "Inscriptional_Parthian"], 57),
  (["Java", "Javanese"], 58),
  (["Kthi", "Kaithi"], 59),
  (["Knda", "Kannada"], 60),
  (["Kana", "Katakana"], 61),
  (["Kawi", "Kawi"], 62),
  (["Kali", "Kayah_Li"], 63),
  (["Khar", "Kharoshthi"], 64),
  (["Kits", "Khitan_Small_Script"], 65),
  (["Khmr", "Khmer"], 66),
  (["Khoj", "Khojki"], 67),
  (["Sind", "Khudawadi"], 68),
  (["Laoo", "Lao"], 69),
  (["Latn", "Latin"], 70),
  (["Lepc", "Lepcha"], 71),
  (["Limb", "Limbu"], 72),
  (["Lina", "Linear_A"], 73),
  (["Linb", "Linear_B"], 74),
  (["Lisu", "Lisu"], 75),
  (["Lyci", "Lycian"], 76),
  (["Lydi", "Lydian"], 77),
  (["Mahj", "Mahajani"], 78),
  (["Maka", "Makasar"], 79),
  (["Mlym", "Malayalam"], 80),
  (["Mand", "Mandaic"], 81),
  (["Mani", "Manichaean"], 82),
  (["Marc", "Marchen"], 83),
  (["Gonm", "Masaram_Gondi"], 84),
  (["Medf", "Medefaidrin"], 85),
  (["Mtei", "Meetei_Mayek"], 86),
  (["Mend", "Mende_Kikakui"], 87),
  (["Merc", "Meroitic_Cursive"], 88),
  (["Mero", "Meroitic_Hieroglyphs"], 89),
  (["Plrd", "Miao"], 90),
  (["Modi", "Modi"], 91),
  (["Mong", "Mongolian"], 92),
  (["Mroo", "Mro"], 93),
  (["Mult", "Multani"], 94),
  (["Mymr", "Myanmar"], 95),
  (["Nbat", "Nabataean"], 96),
  (["Nagm", "Nag_Mundari"], 97),
  (["Nand", "Nandinagari"], 98),
  (["Talu", "New_Tai_Lue"], 99),
  (["Newa", "Newa"], 100),
  (["Nkoo", "Nko"], 101),
  (["Nshu", "Nushu"], 102),
  (["Hmnp", "Nyiakeng_Puachue_Hmong"], 103),
  (["Ogam", "Ogham"], 104),
  (["Olck", "Ol_Chiki"], 105),
  (["Hung", "Old_Hungarian"], 106),
  (["Ital", "Old_Italic"], 107),
  (["Narb", "Old_North_Arabian"], 108),
  (["Perm", "Old_Permic"], 109),
  (["Xpeo", "Old_Persian"], 110),
  (["Sogo", "Old_Sogdian"], 111),
  (["Sarb", "Old_South_Arabian"], 112),
  (["Orkh", "Old_Turkic"], 113),
  (["Ougr", "Old_Uyghur"], 114),
  (["Orya", "Oriya"], 115),
  (["Osge", "Osage"], 116),
  (["Osma", "Osmanya"], 117),
  (["Hmng", "Pahawh_Hmong"], 118),
  (["Palm", "Palmyrene"], 119),
  (["Pauc", "Pau_Cin_Hau"], 120),
  (["Phag", "Phags_Pa"], 121),
  (["Phnx", "Phoenician"], 122),
  (["Phlp", "Psalter_Pahlavi"], 123),
  (["Rjng", "Rejang"], 124),
  (["Runr", "Runic"], 125),
  (["Samr", "Samaritan"], 126),
  (["Saur", "Saurashtra"], 127),
  (["Shrd", "Sharada"], 128),
  (["Shaw", "Shavian"], 129),
  (["Sidd", "Siddham"], 130),
  (["Sgnw", "SignWriting"], 131),
  (["Sinh", "Sinhala"], 132),
  (["Sogd", "Sogdian"], 133),
  (["Sora", "Sora_Sompeng"], 134),
  (["Soyo", "Soyombo"], 135),
  (["Sund", "Sundanese"], 136),
  (["Sylo", "Syloti_Nagri"], 137),
  (["Syrc", "Syriac"], 138),
  (["Tglg", "Tagalog"], 139),
  (["Tagb", "Tagbanwa"], 140),
  (["Tale", "Tai_Le"], 141),
  (["Lana", "Tai_Tham"], 142),
  (["Tavt", "Tai_Viet"], 143),
  (["Takr", "Takri"], 144),
  (["Taml", "Tamil"], 145),
  (["Tnsa", "Tangsa"], 146),
  (["Tang", "Tangut"], 147),
  (["Telu", "Telugu"], 148),
  (["Thaa", "Thaana"], 149),
  (["Thai", "Thai"], 150),
  (["Tibt", "Tibetan"], 151),
  (["Tfng", "Tifinagh"], 152),
  (["Tirh", "Tirhuta"], 153),
  (["Toto", "Toto"], 154),
  (["Ugar", "Ugaritic"], 155),
  (["Zzzz", "Unknown"], 156),
  (["Vaii", "Vai"], 157),
  (["Vith", "Vithkuqi"], 158),
  (["Wcho", "Wancho"], 159),
  (["Wara", "Warang_Citi"], 160),
  (["Yezi", "Yezidi"], 161),
  (["Yiii", "Yi"], 162),
  (["Zanb", "Zanabazar_Square"], 163)]

end FieldRules.Unicode
