/-!
# Composites

Characters that stand for a letter and a mark. As of Unicode 17, without those that normal form C
takes apart and without the syllables of Hangul, which are computed.
-/

namespace DataDictionary.Text

/-- Letters that take a mark, and the composites of each with it, in the same order. -/
structure CompositeRow where
  mark : Nat
  bases : String
  composites : String

/-- The composites by their marks. -/
def compositeRows : List CompositeRow := [
  ⟨0x300, "AEIOUaeiouÜüNnЕИеиĒēŌōWwÂâĂăÊêÔôƠơƯưYyἀ", "ÀÈÌÒÙàèìòùǛǜǸǹЀЍѐѝḔḕṐṑẀẁẦầẰằỀềỒồỜờỪừỲỳἂ"⟩,
  ⟨0x300, "ἁἈἉἐἑἘἙἠἡἨἩἰἱἸἹὀὁὈὉὐὑὙὠὡὨὩαεηιουωΑΕΗ᾿ϊΙ", "ἃἊἋἒἓἚἛἢἣἪἫἲἳἺἻὂὃὊὋὒὓὛὢὣὪὫὰὲὴὶὸὺὼᾺῈῊ῍ῒῚ"⟩,
  ⟨0x300, "῾ϋΥ¨ΟΩ", "῝ῢῪ῭ῸῺ"⟩,
  ⟨0x301, "AEIOUYaeiouyCcLlNnRrSsZzÜüGgÅåÆæØø¨ΑΕΗΙ", "ÁÉÍÓÚÝáéíóúýĆćĹĺŃńŔŕŚśŹźǗǘǴǵǺǻǼǽǾǿ΅ΆΈΉΊ"⟩,
  ⟨0x301, "ΟΥΩϊαεηιϋουωϒГКгкÇçĒēÏïKkMmÕõŌōPpŨũWwÂâ", "ΌΎΏΐάέήίΰόύώϓЃЌѓќḈḉḖḗḮḯḰḱḾḿṌṍṒṓṔṕṸṹẂẃẤấ"⟩,
  ⟨0x301, "ĂăÊêÔôƠơƯưἀἁἈἉἐἑἘἙἠἡἨἩἰἱἸἹὀὁὈὉὐὑὙὠὡὨὩ᾿῾", "ẮắẾếỐốỚớỨứἄἅἌἍἔἕἜἝἤἥἬἭἴἵἼἽὄὅὌὍὔὕὝὤὥὬὭ῎῞"⟩,
  ⟨0x302, "AEIOUaeiouCcGgHhJjSsWwYyZzẠạẸẹỌọ", "ÂÊÎÔÛâêîôûĈĉĜĝĤĥĴĵŜŝŴŵŶŷẐẑẬậỆệỘộ"⟩,
  ⟨0x303, "ANOanoIiUuVvÂâĂăEeÊêÔôƠơƯưYy", "ÃÑÕãñõĨĩŨũṼṽẪẫẴẵẼẽỄễỖỗỠỡỮữỸỹ"⟩,
  ⟨0x304, "AaEeIiOoUuÜüÄäȦȧÆæǪǫÖöÕõȮȯYyИиУуGgḶḷṚṛα", "ĀāĒēĪīŌōŪūǕǖǞǟǠǡǢǣǬǭȪȫȬȭȰȱȲȳӢӣӮӯḠḡḸḹṜṝᾱ"⟩,
  ⟨0x304, "ΑιΙυΥ", "ᾹῑῙῡῩ"⟩,
  ⟨0x306, "AaEeGgIiOoUuУИиуЖжАаЕеȨȩẠạαΑιΙυΥ", "ĂăĔĕĞğĬĭŎŏŬŭЎЙйўӁӂӐӑӖӗḜḝẶặᾰᾸῐῘῠῨ"⟩,
  ⟨0x307, "CcEeGgIZzAaOoBbDdFfHhMmNnPpRrSsŚśŠšṢṣTt", "ĊċĖėĠġİŻżȦȧȮȯḂḃḊḋḞḟḢḣṀṁṄṅṖṗṘṙṠṡṤṥṦṧṨṩṪṫ"⟩,
  ⟨0x307, "WwXxYyſ𐗒𐗚", "ẆẇẊẋẎẏẛ𐗉𐗤"⟩,
  ⟨0x308, "AEIOUaeiouyYΙΥιυϒЕІеіАаӘәЖжЗзИиОоӨөЭэУу", "ÄËÏÖÜäëïöüÿŸΪΫϊϋϔЁЇёїӒӓӚӛӜӝӞӟӤӥӦӧӪӫӬӭӰӱ"⟩,
  ⟨0x308, "ЧчЫыHhÕõŪūWwXxt", "ӴӵӸӹḦḧṎṏṺṻẄẅẌẍẗ"⟩,
  ⟨0x309, "AaÂâĂăEeÊêIiOoÔôƠơUuƯưYy", "ẢảẨẩẲẳẺẻỂểỈỉỎỏỔổỞởỦủỬửỶỷ"⟩,
  ⟨0x30A, "AaUuwy", "ÅåŮůẘẙ"⟩,
  ⟨0x30B, "OoUuУу", "ŐőŰűӲӳ"⟩,
  ⟨0x30C, "CcDdEeLlNnRrSsTtZzAaIiOoUuÜüGgKkƷʒjHh", "ČčĎďĚěĽľŇňŘřŠšŤťŽžǍǎǏǐǑǒǓǔǙǚǦǧǨǩǮǯǰȞȟ"⟩,
  ⟨0x30F, "AaEeIiOoRrUuѴѵ", "ȀȁȄȅȈȉȌȍȐȑȔȕѶѷ"⟩,
  ⟨0x311, "AaEeIiOoRrUu", "ȂȃȆȇȊȋȎȏȒȓȖȗ"⟩,
  ⟨0x313, "αΑεΕηΗιΙοΟυωΩρ", "ἀἈἐἘἠἨἰἸὀὈὐὠὨῤ"⟩,
  ⟨0x314, "αΑεΕηΗιΙοΟυΥωΩρΡ", "ἁἉἑἙἡἩἱἹὁὉὑὙὡὩῥῬ"⟩,
  ⟨0x31B, "OoUu", "ƠơƯư"⟩,
  ⟨0x323, "BbDdHhKkLlMmNnRrSsTtVvWwZzAaEeIiOoƠơUuƯ", "ḄḅḌḍḤḥḲḳḶḷṂṃṆṇṚṛṢṣṬṭṾṿẈẉẒẓẠạẸẹỊịỌọỢợỤụỰ"⟩,
  ⟨0x323, "ưYy", "ựỴỵ"⟩,
  ⟨0x324, "Uu", "Ṳṳ"⟩,
  ⟨0x325, "Aa", "Ḁḁ"⟩,
  ⟨0x326, "SsTt", "ȘșȚț"⟩,
  ⟨0x327, "CcGgKkLlNnRrSsTtEeDdHh", "ÇçĢģĶķĻļŅņŖŗŞşŢţȨȩḐḑḨḩ"⟩,
  ⟨0x328, "AaEeIiUuOo", "ĄąĘęĮįŲųǪǫ"⟩,
  ⟨0x32D, "DdEeLlNnTtUu", "ḒḓḘḙḼḽṊṋṰṱṶṷ"⟩,
  ⟨0x32E, "Hh", "Ḫḫ"⟩,
  ⟨0x330, "EeIiUu", "ḚḛḬḭṴṵ"⟩,
  ⟨0x331, "BbDdKkLlNnRrTtZzh", "ḆḇḎḏḴḵḺḻṈṉṞṟṮṯẔẕẖ"⟩,
  ⟨0x338, "←→↔⇐⇔⇒∃∈∋∣∥∼≃≅≈=≡≍<>≤≥≲≳≶≷≺≻⊂⊃⊆⊇⊢⊨⊩⊫≼≽⊑", "↚↛↮⇍⇎⇏∄∉∌∤∦≁≄≇≉≠≢≭≮≯≰≱≴≵≸≹⊀⊁⊄⊅⊈⊉⊬⊭⊮⊯⋠⋡⋢"⟩,
  ⟨0x338, "⊒⊲⊳⊴⊵", "⋣⋪⋫⋬⋭"⟩,
  ⟨0x342, "ἀἁἈἉἠἡἨἩἰἱἸἹὐὑὙὠὡὨὩα¨η᾿ιϊ῾υϋω", "ἆἇἎἏἦἧἮἯἶἷἾἿὖὗὟὦὧὮὯᾶ῁ῆ῏ῖῗ῟ῦῧῶ"⟩,
  ⟨0x345, "ἀἁἂἃἄἅἆἇἈἉἊἋἌἍἎἏἠἡἢἣἤἥἦἧἨἩἪἫἬἭἮἯὠὡὢὣὤὥὦ", "ᾀᾁᾂᾃᾄᾅᾆᾇᾈᾉᾊᾋᾌᾍᾎᾏᾐᾑᾒᾓᾔᾕᾖᾗᾘᾙᾚᾛᾜᾝᾞᾟᾠᾡᾢᾣᾤᾥᾦ"⟩,
  ⟨0x345, "ὧὨὩὪὫὬὭὮὯὰαάᾶΑὴηήῆΗὼωώῶΩ", "ᾧᾨᾩᾪᾫᾬᾭᾮᾯᾲᾳᾴᾷᾼῂῃῄῇῌῲῳῴῷῼ"⟩,
  ⟨0x653, "ا", "آ"⟩,
  ⟨0x654, "اويەہے", "أؤئۀۂۓ"⟩,
  ⟨0x655, "ا", "إ"⟩,
  ⟨0x93C, "नरळ", "ऩऱऴ"⟩,
  ⟨0x9BE, "\u09c7", "\u09cb"⟩,
  ⟨0x9D7, "\u09c7", "\u09cc"⟩,
  ⟨0xB3E, "\u0b47", "\u0b4b"⟩,
  ⟨0xB56, "\u0b47", "\u0b48"⟩,
  ⟨0xB57, "\u0b47", "\u0b4c"⟩,
  ⟨0xBBE, "\u0bc6\u0bc7", "\u0bca\u0bcb"⟩,
  ⟨0xBD7, "ஒ\u0bc6", "ஔ\u0bcc"⟩,
  ⟨0xC56, "\u0c46", "\u0c48"⟩,
  ⟨0xCC2, "\u0cc6", "\u0cca"⟩,
  ⟨0xCD5, "\u0cbf\u0cc6\u0cca", "\u0cc0\u0cc7\u0ccb"⟩,
  ⟨0xCD6, "\u0cc6", "\u0cc8"⟩,
  ⟨0xD3E, "\u0d46\u0d47", "\u0d4a\u0d4b"⟩,
  ⟨0xD57, "\u0d46", "\u0d4c"⟩,
  ⟨0xDCA, "\u0dd9\u0ddc", "\u0dda\u0ddd"⟩,
  ⟨0xDCF, "\u0dd9", "\u0ddc"⟩,
  ⟨0xDDF, "\u0dd9", "\u0dde"⟩,
  ⟨0x102E, "ဥ", "ဦ"⟩,
  ⟨0x1B35, "ᬅᬇᬉᬋᬍᬑ\u1b3a\u1b3c\u1b3e\u1b3f\u1b42", "ᬆᬈᬊᬌᬎᬒ\u1b3b\u1b3d\u1b40\u1b41\u1b43"⟩,
  ⟨0x3099, "かきくけこさしすせそたちつてとはひふへほう\u309dカキクケコサシスセソタチ", "がぎぐげござじずぜぞだぢづでどばびぶべぼゔ\u309eガギグゲゴザジズゼゾダヂ"⟩,
  ⟨0x3099, "ツテトハヒフヘホウワヰヱヲ\u30fd", "ヅデドバビブベボヴヷヸヹヺ\u30fe"⟩,
  ⟨0x309A, "はひふへほハヒフヘホ", "ぱぴぷぺぽパピプペポ"⟩,
  ⟨0x110BA, "𑂙𑂛𑂥", "𑂚𑂜𑂫"⟩,
  ⟨0x11127, "𑄱𑄲", "𑄮𑄯"⟩,
  ⟨0x1133E, "𑍇", "𑍋"⟩,
  ⟨0x11357, "𑍇", "𑍌"⟩,
  ⟨0x113B8, "𑏂", "𑏇"⟩,
  ⟨0x113BB, "𑎄", "𑎅"⟩,
  ⟨0x113C2, "𑎎", "𑎎𑏅"⟩,
  ⟨0x113C9, "𑎂𑎐𑏂", "𑎃𑎑𑏈"⟩,
  ⟨0x114B0, "𑒹", "𑒼"⟩,
  ⟨0x114BA, "𑒹", "𑒻"⟩,
  ⟨0x114BD, "𑒹", "𑒾"⟩,
  ⟨0x115AF, "𑖸𑖹", "𑖺𑖻"⟩,
  ⟨0x11930, "𑤵", "𑤸"⟩,
  ⟨0x1611E, "𖄞", "𖄡"⟩,
  ⟨0x1611F, "𖄢𖄡𖄢", "𖄣𖄤𖄦𖄧"⟩,
  ⟨0x16120, "𖄡𖄞", "𖄥𖄨"⟩,
  ⟨0x16129, "𖄞", "𖄢"⟩,
  ⟨0x16D67, "𖵧𖵣𖵩", "𖵨𖵩𖵪"⟩]

end DataDictionary.Text
