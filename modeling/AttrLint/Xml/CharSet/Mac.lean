import AttrLint.Xml.CharSet.Basic

namespace AttrLint.Xml.CharSet

/-!
# Macintosh character sets

The character sets of the Macintosh.
-/

/-- Macintosh: Croatian. -/
def macCroatian : CharSet where
  upper :=
    ["\u00c4\u00c5\u00c7\u00c9\u00d1\u00d6\u00dc\u00e1",
     "\u00e0\u00e2\u00e4\u00e3\u00e5\u00e7\u00e9\u00e8",
     "\u00ea\u00eb\u00ed\u00ec\u00ee\u00ef\u00f1\u00f3",
     "\u00f2\u00f4\u00f6\u00f5\u00fa\u00f9\u00fb\u00fc",
     "\u2020\u00b0\u00a2\u00a3\u00a7\u2022\u00b6\u00df",
     "\u00ae\u0160\u2122\u00b4\u00a8\u2260\u017d\u00d8",
     "\u221e\u00b1\u2264\u2265\u2206\u00b5\u2202\u2211",
     "\u220f\u0161\u222b\u00aa\u00ba\u03a9\u017e\u00f8",
     "\u00bf\u00a1\u00ac\u221a\u0192\u2248\u0106\u00ab",
     "\u010c\u2026\u00a0\u00c0\u00c3\u00d5\u0152\u0153",
     "\u0110\u2014\u201c\u201d\u2018\u2019\u00f7\u25ca",
     "\uf8ff\u00a9\u2044\u20ac\u2039\u203a\u00c6\u00bb",
     "\u2013\u00b7\u201a\u201e\u2030\u00c2\u0107\u00c1",
     "\u010d\u00c8\u00cd\u00ce\u00cf\u00cc\u00d3\u00d4",
     "\u0111\u00d2\u00da\u00db\u00d9\u0131\u02c6\u02dc",
     "\u00af\u03c0\u00cb\u02da\u00b8\u00ca\u00e6\u02c7"]

/-- Macintosh: Cyrillic. -/
def macCyrillic : CharSet where
  upper :=
    ["\u0410\u0411\u0412\u0413\u0414\u0415\u0416\u0417",
     "\u0418\u0419\u041a\u041b\u041c\u041d\u041e\u041f",
     "\u0420\u0421\u0422\u0423\u0424\u0425\u0426\u0427",
     "\u0428\u0429\u042a\u042b\u042c\u042d\u042e\u042f",
     "\u2020\u00b0\u0490\u00a3\u00a7\u2022\u00b6\u0406",
     "\u00ae\u00a9\u2122\u0402\u0452\u2260\u0403\u0453",
     "\u221e\u00b1\u2264\u2265\u0456\u00b5\u0491\u0408",
     "\u0404\u0454\u0407\u0457\u0409\u0459\u040a\u045a",
     "\u0458\u0405\u00ac\u221a\u0192\u2248\u2206\u00ab",
     "\u00bb\u2026\u00a0\u040b\u045b\u040c\u045c\u0455",
     "\u2013\u2014\u201c\u201d\u2018\u2019\u00f7\u201e",
     "\u040e\u045e\u040f\u045f\u2116\u0401\u0451\u044f",
     "\u0430\u0431\u0432\u0433\u0434\u0435\u0436\u0437",
     "\u0438\u0439\u043a\u043b\u043c\u043d\u043e\u043f",
     "\u0440\u0441\u0442\u0443\u0444\u0445\u0446\u0447",
     "\u0448\u0449\u044a\u044b\u044c\u044d\u044e\u20ac"]

/-- Macintosh: Greek. -/
def macGreek : CharSet where
  upper :=
    ["\u00c4\u00b9\u00b2\u00c9\u00b3\u00d6\u00dc\u0385",
     "\u00e0\u00e2\u00e4\u0384\u00a8\u00e7\u00e9\u00e8",
     "\u00ea\u00eb\u00a3\u2122\u00ee\u00ef\u2022\u00bd",
     "\u2030\u00f4\u00f6\u00a6\u20ac\u00f9\u00fb\u00fc",
     "\u2020\u0393\u0394\u0398\u039b\u039e\u03a0\u00df",
     "\u00ae\u00a9\u03a3\u03aa\u00a7\u2260\u00b0\u00b7",
     "\u0391\u00b1\u2264\u2265\u00a5\u0392\u0395\u0396",
     "\u0397\u0399\u039a\u039c\u03a6\u03ab\u03a8\u03a9",
     "\u03ac\u039d\u00ac\u039f\u03a1\u2248\u03a4\u00ab",
     "\u00bb\u2026\u00a0\u03a5\u03a7\u0386\u0388\u0153",
     "\u2013\u2015\u201c\u201d\u2018\u2019\u00f7\u0389",
     "\u038a\u038c\u038e\u03ad\u03ae\u03af\u03cc\u038f",
     "\u03cd\u03b1\u03b2\u03c8\u03b4\u03b5\u03c6\u03b3",
     "\u03b7\u03b9\u03be\u03ba\u03bb\u03bc\u03bd\u03bf",
     "\u03c0\u03ce\u03c1\u03c3\u03c4\u03b8\u03c9\u03c2",
     "\u03c7\u03c5\u03b6\u03ca\u03cb\u0390\u03b0\u00ad"]

/-- Macintosh: Icelandic. -/
def macIceland : CharSet where
  upper :=
    ["\u00c4\u00c5\u00c7\u00c9\u00d1\u00d6\u00dc\u00e1",
     "\u00e0\u00e2\u00e4\u00e3\u00e5\u00e7\u00e9\u00e8",
     "\u00ea\u00eb\u00ed\u00ec\u00ee\u00ef\u00f1\u00f3",
     "\u00f2\u00f4\u00f6\u00f5\u00fa\u00f9\u00fb\u00fc",
     "\u00dd\u00b0\u00a2\u00a3\u00a7\u2022\u00b6\u00df",
     "\u00ae\u00a9\u2122\u00b4\u00a8\u2260\u00c6\u00d8",
     "\u221e\u00b1\u2264\u2265\u00a5\u00b5\u2202\u2211",
     "\u220f\u03c0\u222b\u00aa\u00ba\u03a9\u00e6\u00f8",
     "\u00bf\u00a1\u00ac\u221a\u0192\u2248\u2206\u00ab",
     "\u00bb\u2026\u00a0\u00c0\u00c3\u00d5\u0152\u0153",
     "\u2013\u2014\u201c\u201d\u2018\u2019\u00f7\u25ca",
     "\u00ff\u0178\u2044\u20ac\u00d0\u00f0\u00de\u00fe",
     "\u00fd\u00b7\u201a\u201e\u2030\u00c2\u00ca\u00c1",
     "\u00cb\u00c8\u00cd\u00ce\u00cf\u00cc\u00d3\u00d4",
     "\uf8ff\u00d2\u00da\u00db\u00d9\u0131\u02c6\u02dc",
     "\u00af\u02d8\u02d9\u02da\u00b8\u02dd\u02db\u02c7"]

/-- Macintosh: Central European. -/
def macLatin2 : CharSet where
  upper :=
    ["\u00c4\u0100\u0101\u00c9\u0104\u00d6\u00dc\u00e1",
     "\u0105\u010c\u00e4\u010d\u0106\u0107\u00e9\u0179",
     "\u017a\u010e\u00ed\u010f\u0112\u0113\u0116\u00f3",
     "\u0117\u00f4\u00f6\u00f5\u00fa\u011a\u011b\u00fc",
     "\u2020\u00b0\u0118\u00a3\u00a7\u2022\u00b6\u00df",
     "\u00ae\u00a9\u2122\u0119\u00a8\u2260\u0123\u012e",
     "\u012f\u012a\u2264\u2265\u012b\u0136\u2202\u2211",
     "\u0142\u013b\u013c\u013d\u013e\u0139\u013a\u0145",
     "\u0146\u0143\u00ac\u221a\u0144\u0147\u2206\u00ab",
     "\u00bb\u2026\u00a0\u0148\u0150\u00d5\u0151\u014c",
     "\u2013\u2014\u201c\u201d\u2018\u2019\u00f7\u25ca",
     "\u014d\u0154\u0155\u0158\u2039\u203a\u0159\u0156",
     "\u0157\u0160\u201a\u201e\u0161\u015a\u015b\u00c1",
     "\u0164\u0165\u00cd\u017d\u017e\u016a\u00d3\u00d4",
     "\u016b\u016e\u00da\u016f\u0170\u0171\u0172\u0173",
     "\u00dd\u00fd\u0137\u017b\u0141\u017c\u0122\u02c7"]

/-- Macintosh: Western European. -/
def macRoman : CharSet where
  upper :=
    ["\u00c4\u00c5\u00c7\u00c9\u00d1\u00d6\u00dc\u00e1",
     "\u00e0\u00e2\u00e4\u00e3\u00e5\u00e7\u00e9\u00e8",
     "\u00ea\u00eb\u00ed\u00ec\u00ee\u00ef\u00f1\u00f3",
     "\u00f2\u00f4\u00f6\u00f5\u00fa\u00f9\u00fb\u00fc",
     "\u2020\u00b0\u00a2\u00a3\u00a7\u2022\u00b6\u00df",
     "\u00ae\u00a9\u2122\u00b4\u00a8\u2260\u00c6\u00d8",
     "\u221e\u00b1\u2264\u2265\u00a5\u00b5\u2202\u2211",
     "\u220f\u03c0\u222b\u00aa\u00ba\u03a9\u00e6\u00f8",
     "\u00bf\u00a1\u00ac\u221a\u0192\u2248\u2206\u00ab",
     "\u00bb\u2026\u00a0\u00c0\u00c3\u00d5\u0152\u0153",
     "\u2013\u2014\u201c\u201d\u2018\u2019\u00f7\u25ca",
     "\u00ff\u0178\u2044\u20ac\u2039\u203a\ufb01\ufb02",
     "\u2021\u00b7\u201a\u201e\u2030\u00c2\u00ca\u00c1",
     "\u00cb\u00c8\u00cd\u00ce\u00cf\u00cc\u00d3\u00d4",
     "\uf8ff\u00d2\u00da\u00db\u00d9\u0131\u02c6\u02dc",
     "\u00af\u02d8\u02d9\u02da\u00b8\u02dd\u02db\u02c7"]

/-- Macintosh: Romanian. -/
def macRomanian : CharSet where
  upper :=
    ["\u00c4\u00c5\u00c7\u00c9\u00d1\u00d6\u00dc\u00e1",
     "\u00e0\u00e2\u00e4\u00e3\u00e5\u00e7\u00e9\u00e8",
     "\u00ea\u00eb\u00ed\u00ec\u00ee\u00ef\u00f1\u00f3",
     "\u00f2\u00f4\u00f6\u00f5\u00fa\u00f9\u00fb\u00fc",
     "\u2020\u00b0\u00a2\u00a3\u00a7\u2022\u00b6\u00df",
     "\u00ae\u00a9\u2122\u00b4\u00a8\u2260\u0102\u0218",
     "\u221e\u00b1\u2264\u2265\u00a5\u00b5\u2202\u2211",
     "\u220f\u03c0\u222b\u00aa\u00ba\u03a9\u0103\u0219",
     "\u00bf\u00a1\u00ac\u221a\u0192\u2248\u2206\u00ab",
     "\u00bb\u2026\u00a0\u00c0\u00c3\u00d5\u0152\u0153",
     "\u2013\u2014\u201c\u201d\u2018\u2019\u00f7\u25ca",
     "\u00ff\u0178\u2044\u20ac\u2039\u203a\u021a\u021b",
     "\u2021\u00b7\u201a\u201e\u2030\u00c2\u00ca\u00c1",
     "\u00cb\u00c8\u00cd\u00ce\u00cf\u00cc\u00d3\u00d4",
     "\uf8ff\u00d2\u00da\u00db\u00d9\u0131\u02c6\u02dc",
     "\u00af\u02d8\u02d9\u02da\u00b8\u02dd\u02db\u02c7"]

/-- Macintosh: Turkish. -/
def macTurkish : CharSet where
  upper :=
    ["\u00c4\u00c5\u00c7\u00c9\u00d1\u00d6\u00dc\u00e1",
     "\u00e0\u00e2\u00e4\u00e3\u00e5\u00e7\u00e9\u00e8",
     "\u00ea\u00eb\u00ed\u00ec\u00ee\u00ef\u00f1\u00f3",
     "\u00f2\u00f4\u00f6\u00f5\u00fa\u00f9\u00fb\u00fc",
     "\u2020\u00b0\u00a2\u00a3\u00a7\u2022\u00b6\u00df",
     "\u00ae\u00a9\u2122\u00b4\u00a8\u2260\u00c6\u00d8",
     "\u221e\u00b1\u2264\u2265\u00a5\u00b5\u2202\u2211",
     "\u220f\u03c0\u222b\u00aa\u00ba\u03a9\u00e6\u00f8",
     "\u00bf\u00a1\u00ac\u221a\u0192\u2248\u2206\u00ab",
     "\u00bb\u2026\u00a0\u00c0\u00c3\u00d5\u0152\u0153",
     "\u2013\u2014\u201c\u201d\u2018\u2019\u00f7\u25ca",
     "\u00ff\u0178\u011e\u011f\u0130\u0131\u015e\u015f",
     "\u2021\u00b7\u201a\u201e\u2030\u00c2\u00ca\u00c1",
     "\u00cb\u00c8\u00cd\u00ce\u00cf\u00cc\u00d3\u00d4",
     "\uf8ff\u00d2\u00da\u00db\u00d9\uf8a0\u02c6\u02dc",
     "\u00af\u02d8\u02d9\u02da\u00b8\u02dd\u02db\u02c7"]

end AttrLint.Xml.CharSet
