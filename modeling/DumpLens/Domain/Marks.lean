import DumpLens.Domain.Letters

/-! Marks in domain names. A mark belongs to the letter in front of it, so no label starts
with one, and a letter with a mark is written as one character if there is such a
character. -/

namespace DumpLens.Domain

/-- The code points of marks among the characters of labels. -/
def markTable : CodeTable := [
  (0x300, 0x36f), (0x483, 0x487), (0x591, 0x5c7), (0x610, 0x61a), (0x64b, 0x65f), (0x670, 0x670),
  (0x6d6, 0x6e4), (0x6e7, 0x6ed), (0x711, 0x711), (0x730, 0x74a), (0x7a6, 0x7b0), (0x7eb, 0x7f3),
  (0x7fd, 0x7fd), (0x816, 0x819), (0x81b, 0x823), (0x825, 0x827), (0x829, 0x82d), (0x859, 0x85b),
  (0x898, 0x89f), (0x8ca, 0x903), (0x93a, 0x93c), (0x93e, 0x94f), (0x951, 0x957), (0x962, 0x963),
  (0x981, 0x983), (0x9bc, 0x9bc), (0x9be, 0x9cd), (0x9d7, 0x9d7), (0x9e2, 0x9e3), (0x9fe, 0xa03),
  (0xa3c, 0xa51), (0xa70, 0xa71), (0xa75, 0xa83), (0xabc, 0xabc), (0xabe, 0xacd), (0xae2, 0xae3),
  (0xafa, 0xb03), (0xb3c, 0xb3c), (0xb3e, 0xb57), (0xb62, 0xb63), (0xb82, 0xb82), (0xbbe, 0xbcd),
  (0xbd7, 0xbd7), (0xc00, 0xc04), (0xc3c, 0xc3c), (0xc3e, 0xc56), (0xc62, 0xc63), (0xc81, 0xc83),
  (0xcbc, 0xcbc), (0xcbe, 0xcd6), (0xce2, 0xce3), (0xd00, 0xd03), (0xd3b, 0xd3c), (0xd3e, 0xd4d),
  (0xd57, 0xd57), (0xd62, 0xd63), (0xd81, 0xd83), (0xdca, 0xddf), (0xdf2, 0xdf3), (0xe31, 0xe31),
  (0xe34, 0xe3a), (0xe47, 0xe4e), (0xeb1, 0xeb1), (0xeb4, 0xebc), (0xec8, 0xecd), (0xf18, 0xf19),
  (0xf35, 0xf3f), (0xf71, 0xf87), (0xf8d, 0xfc6), (0x102b, 0x103e), (0x1056, 0x1059),
  (0x105e, 0x1060), (0x1062, 0x1064), (0x1067, 0x106d), (0x1071, 0x1074), (0x1082, 0x108d),
  (0x108f, 0x108f), (0x109a, 0x109d), (0x135d, 0x135f), (0x1712, 0x1715), (0x1732, 0x1734),
  (0x1752, 0x1753), (0x1772, 0x1773), (0x17b6, 0x17d3), (0x17dd, 0x17dd), (0x1885, 0x1886),
  (0x18a9, 0x18a9), (0x1920, 0x193b), (0x1a17, 0x1a1b), (0x1a55, 0x1a7f), (0x1ab0, 0x1b04),
  (0x1b34, 0x1b44), (0x1b6b, 0x1b82), (0x1ba1, 0x1bad), (0x1be6, 0x1bf3), (0x1c24, 0x1c37),
  (0x1cd0, 0x1ce8), (0x1ced, 0x1ced), (0x1cf4, 0x1cf4), (0x1cf7, 0x1cf9), (0x1dc0, 0x1dff),
  (0x2cef, 0x2cf1), (0x2d7f, 0x2d7f), (0x2de0, 0x2dff), (0x302a, 0x302d), (0x3099, 0x309a),
  (0xa66f, 0xa67d), (0xa69e, 0xa69f), (0xa6f0, 0xa6f1), (0xa802, 0xa802), (0xa806, 0xa806),
  (0xa80b, 0xa80b), (0xa823, 0xa82c), (0xa880, 0xa881), (0xa8b4, 0xa8c5), (0xa8e0, 0xa8f1),
  (0xa8ff, 0xa8ff), (0xa926, 0xa92d), (0xa947, 0xa983), (0xa9b3, 0xa9c0), (0xa9e5, 0xa9e5),
  (0xaa29, 0xaa36), (0xaa43, 0xaa43), (0xaa4c, 0xaa4d), (0xaa7b, 0xaa7d), (0xaab0, 0xaab0),
  (0xaab2, 0xaab4), (0xaab7, 0xaab8), (0xaabe, 0xaabf), (0xaac1, 0xaac1), (0xaaeb, 0xaaef),
  (0xaaf5, 0xaaf6), (0xabe3, 0xabed), (0xfb1e, 0xfe2f), (0x101fd, 0x101fd), (0x102e0, 0x102e0),
  (0x10376, 0x1037a), (0x10a01, 0x10a0f), (0x10a38, 0x10a3f), (0x10ae5, 0x10ae6),
  (0x10d24, 0x10d27), (0x10eab, 0x10eac), (0x10f46, 0x10f50), (0x10f82, 0x10f85),
  (0x11000, 0x11002), (0x11038, 0x11046), (0x11070, 0x11070), (0x11073, 0x11074),
  (0x1107f, 0x11082), (0x110b0, 0x110c2), (0x11100, 0x11102), (0x11127, 0x11134),
  (0x11145, 0x11146), (0x11173, 0x11173), (0x11180, 0x11182), (0x111b3, 0x111c0),
  (0x111c9, 0x111cf), (0x1122c, 0x1123e), (0x112df, 0x112ea), (0x11300, 0x11303),
  (0x1133b, 0x1133c), (0x1133e, 0x1134d), (0x11357, 0x11357), (0x11362, 0x11374),
  (0x11435, 0x11446), (0x1145e, 0x1145e), (0x114b0, 0x114c3), (0x115af, 0x115c0),
  (0x115dc, 0x115dd), (0x11630, 0x11640), (0x116ab, 0x116b7), (0x1171d, 0x1172b),
  (0x1182c, 0x1183a), (0x11930, 0x1193e), (0x11940, 0x11940), (0x11942, 0x11943),
  (0x119d1, 0x119e0), (0x119e4, 0x119e4), (0x11a01, 0x11a0a), (0x11a33, 0x11a39),
  (0x11a3b, 0x11a47), (0x11a51, 0x11a5b), (0x11a8a, 0x11a99), (0x11c2f, 0x11c3f),
  (0x11c92, 0x11cb6), (0x11d31, 0x11d45), (0x11d47, 0x11d47), (0x11d8a, 0x11d97),
  (0x11ef3, 0x11ef6), (0x16af0, 0x16af4), (0x16b30, 0x16b36), (0x16f4f, 0x16f4f),
  (0x16f51, 0x16f92), (0x16fe4, 0x16ff1), (0x1bc9d, 0x1daaf), (0x1e000, 0x1e02a),
  (0x1e130, 0x1e136), (0x1e2ae, 0x1e2ae), (0x1e2ec, 0x1e2ef), (0x1e8d0, 0x1e8d6),
  (0x1e944, 0x1e94a)]

def isMark (character : Char) : Bool :=
  markTable.contains character

/-- The letters that are one character with a mark behind them, by the code points of the
marks. -/
def composedTable : List (Nat × String) := [
  (0x300, "AEINOUWYaeinouwyÂÊÔÜâêôüĂăĒēŌōƠơƯưΑΕΗΙΟΥΩΪΫαεηιουωϊϋЕИеиἀἁἈἉἐἑἘἙἠἡἨἩἰἱἸἹὀὁὈὉὐὑὙὠὡὨὩΩ"),
  (0x301, "ACEGIKLMNOPRSUWYZacegiklmnoprsuwyzÂÅÆÇÊÏÔÕØÜâåæçêïôõøüĂăĒēŌ" ++
    "ōŨũƠơƯưΑΕΗΙΟΥΩΪΫαεηιουωϊϋГКгкἀἁἈἉἐἑἘἙἠἡἨἩἰἱἸἹὀὁὈὉὐὑὙὠὡὨὩΩKÅ"),
  (0x302, "ACEGHIJOSUWYZaceghijosuwyzẠạẸẹỌọ"),
  (0x303, "AEINOUVYaeinouvyÂÊÔâêôĂăƠơƯư"),
  (0x304, "AEGIOUYaegiouyÄÆÕÖÜäæõöüǪǫȦȧȮȯΑΙΥαιυИУиуḶḷṚṛ"),
  (0x306, "AEGIOUaegiouȨȩΑΙΥαιυАЕЖИУаежиуẠạ"),
  (0x307, "ABCDEFGHMNOPRSTWXYZabcdefghmnoprstwxyzŚśŠšṢṣ"),
  (0x308, "AEHIOTUWXYaehiotuwxyÕõŪūΙΥιυІАЕЖЗИОУЧЫЭаежзиоучыэіӘәӨө"),
  (0x309, "AEIOUYaeiouyÂÊÔâêôĂăƠơƯư"),
  (0x30a, "AUWYauwy"),
  (0x30b, "OUouУу"),
  (0x30c, "ACDEGHIJKLNORSTUZacdeghijklnorstuzÜüƷʒK"),
  (0x30f, "AEIORUaeioruѴѵ"),
  (0x311, "AEIORUaeioru"),
  (0x313, "ΑΕΗΙΟΡΥΩαεηιορυωΩ"),
  (0x314, "ΑΕΗΙΟΡΥΩαεηιορυωΩ"),
  (0x31b, "OUou"),
  (0x323, "ABDEHIKLMNORSTUVWYZabdehiklmnorstuvwyzƠơƯưK"),
  (0x324, "Uu"),
  (0x325, "Aa"),
  (0x326, "STst"),
  (0x327, "CDEGHKLNRSTcdeghklnrstK"),
  (0x328, "AEIOUaeiou"),
  (0x32d, "DELNTUdelntu"),
  (0x32e, "Hh"),
  (0x330, "EIUeiu"),
  (0x331, "BDHKLNRTZbdhklnrtzK"),
  (0x342, "ΑΗΙΥΩΪΫαηιυωϊϋἀἁἈἉἠἡἨἩἰἱἸἹὐὑὙὠὡὨὩΩ"),
  (0x653, "ا"),
  (0x654, "اويہےە"),
  (0x655, "ا"),
  (0x93c, "नरळ"),
  (0x9be, "ে"),
  (0x9d7, "ে"),
  (0xb3e, "େ"),
  (0xb56, "େ"),
  (0xb57, "େ"),
  (0xbbe, "ெே"),
  (0xbd7, "ஒெ"),
  (0xc56, "ె"),
  (0xcc2, "ೆ"),
  (0xcd5, "ಿೆೊ"),
  (0xcd6, "ೆ"),
  (0xd3e, "െേ"),
  (0xd57, "െ"),
  (0xdca, "ෙො"),
  (0xdcf, "ෙ"),
  (0xddf, "ෙ"),
  (0x102e, "ဥ"),
  (0x1b35, "ᬅᬇᬉᬋᬍᬑᬺᬼᬾᬿᭂ"),
  (0x3099, "うかきくけこさしすせそたちつてとはひふへほゝウカキクケコサシスセソタチツテトハヒフヘホワヰヱヲヽ"),
  (0x309a, "はひふへほハヒフヘホ"),
  (0x110ba, "𑂙𑂛𑂥"),
  (0x11127, "𑄱𑄲"),
  (0x1133e, "𑍇"),
  (0x11357, "𑍇"),
  (0x114b0, "𑒹"),
  (0x114ba, "𑒹"),
  (0x114bd, "𑒹"),
  (0x115af, "𑖸𑖹"),
  (0x11930, "𑤵")]

/-- Whether a letter and the mark behind it are to be written as one character. -/
def isComposed (letter mark : Char) : Bool :=
  composedTable.any fun (code, letters) => code == mark.toNat && letters.toList.contains letter

/-- Whether no letter of a label is to be written as one character with the mark behind it. -/
def isSettled : Text → Bool
  | first :: second :: rest => !isComposed first second && isSettled (second :: rest)
  | _ => true

example : isSettled "e\u0301".toList = false := by decide +kernel

end DumpLens.Domain
