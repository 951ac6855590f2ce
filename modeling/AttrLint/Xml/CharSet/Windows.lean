import AttrLint.Xml.CharSet.Basic

namespace AttrLint.Xml.CharSet

/-!
# Windows character sets

The code pages of Windows.
-/

/-- Windows code page 874: Thai. -/
def windows874 : CharSet where
  upper :=
    ["\u20ac\ufffd\ufffd\ufffd\ufffd\u2026\ufffd\ufffd",
     "\ufffd\ufffd\ufffd\ufffd\ufffd\ufffd\ufffd\ufffd",
     "\ufffd\u2018\u2019\u201c\u201d\u2022\u2013\u2014",
     "\ufffd\ufffd\ufffd\ufffd\ufffd\ufffd\ufffd\ufffd",
     "\u00a0\u0e01\u0e02\u0e03\u0e04\u0e05\u0e06\u0e07",
     "\u0e08\u0e09\u0e0a\u0e0b\u0e0c\u0e0d\u0e0e\u0e0f",
     "\u0e10\u0e11\u0e12\u0e13\u0e14\u0e15\u0e16\u0e17",
     "\u0e18\u0e19\u0e1a\u0e1b\u0e1c\u0e1d\u0e1e\u0e1f",
     "\u0e20\u0e21\u0e22\u0e23\u0e24\u0e25\u0e26\u0e27",
     "\u0e28\u0e29\u0e2a\u0e2b\u0e2c\u0e2d\u0e2e\u0e2f",
     "\u0e30\u0e31\u0e32\u0e33\u0e34\u0e35\u0e36\u0e37",
     "\u0e38\u0e39\u0e3a\ufffd\ufffd\ufffd\ufffd\u0e3f",
     "\u0e40\u0e41\u0e42\u0e43\u0e44\u0e45\u0e46\u0e47",
     "\u0e48\u0e49\u0e4a\u0e4b\u0e4c\u0e4d\u0e4e\u0e4f",
     "\u0e50\u0e51\u0e52\u0e53\u0e54\u0e55\u0e56\u0e57",
     "\u0e58\u0e59\u0e5a\u0e5b\ufffd\ufffd\ufffd\ufffd"]

/-- Windows code page 1250: Central European. -/
def windows1250 : CharSet where
  upper :=
    ["\u20ac\ufffd\u201a\ufffd\u201e\u2026\u2020\u2021",
     "\ufffd\u2030\u0160\u2039\u015a\u0164\u017d\u0179",
     "\ufffd\u2018\u2019\u201c\u201d\u2022\u2013\u2014",
     "\ufffd\u2122\u0161\u203a\u015b\u0165\u017e\u017a",
     "\u00a0\u02c7\u02d8\u0141\u00a4\u0104\u00a6\u00a7",
     "\u00a8\u00a9\u015e\u00ab\u00ac\u00ad\u00ae\u017b",
     "\u00b0\u00b1\u02db\u0142\u00b4\u00b5\u00b6\u00b7",
     "\u00b8\u0105\u015f\u00bb\u013d\u02dd\u013e\u017c",
     "\u0154\u00c1\u00c2\u0102\u00c4\u0139\u0106\u00c7",
     "\u010c\u00c9\u0118\u00cb\u011a\u00cd\u00ce\u010e",
     "\u0110\u0143\u0147\u00d3\u00d4\u0150\u00d6\u00d7",
     "\u0158\u016e\u00da\u0170\u00dc\u00dd\u0162\u00df",
     "\u0155\u00e1\u00e2\u0103\u00e4\u013a\u0107\u00e7",
     "\u010d\u00e9\u0119\u00eb\u011b\u00ed\u00ee\u010f",
     "\u0111\u0144\u0148\u00f3\u00f4\u0151\u00f6\u00f7",
     "\u0159\u016f\u00fa\u0171\u00fc\u00fd\u0163\u02d9"]

/-- Windows code page 1251: Cyrillic. -/
def windows1251 : CharSet where
  upper :=
    ["\u0402\u0403\u201a\u0453\u201e\u2026\u2020\u2021",
     "\u20ac\u2030\u0409\u2039\u040a\u040c\u040b\u040f",
     "\u0452\u2018\u2019\u201c\u201d\u2022\u2013\u2014",
     "\ufffd\u2122\u0459\u203a\u045a\u045c\u045b\u045f",
     "\u00a0\u040e\u045e\u0408\u00a4\u0490\u00a6\u00a7",
     "\u0401\u00a9\u0404\u00ab\u00ac\u00ad\u00ae\u0407",
     "\u00b0\u00b1\u0406\u0456\u0491\u00b5\u00b6\u00b7",
     "\u0451\u2116\u0454\u00bb\u0458\u0405\u0455\u0457",
     "\u0410\u0411\u0412\u0413\u0414\u0415\u0416\u0417",
     "\u0418\u0419\u041a\u041b\u041c\u041d\u041e\u041f",
     "\u0420\u0421\u0422\u0423\u0424\u0425\u0426\u0427",
     "\u0428\u0429\u042a\u042b\u042c\u042d\u042e\u042f",
     "\u0430\u0431\u0432\u0433\u0434\u0435\u0436\u0437",
     "\u0438\u0439\u043a\u043b\u043c\u043d\u043e\u043f",
     "\u0440\u0441\u0442\u0443\u0444\u0445\u0446\u0447",
     "\u0448\u0449\u044a\u044b\u044c\u044d\u044e\u044f"]

/-- Windows code page 1252: Western European. -/
def windows1252 : CharSet where
  upper :=
    ["\u20ac\ufffd\u201a\u0192\u201e\u2026\u2020\u2021",
     "\u02c6\u2030\u0160\u2039\u0152\ufffd\u017d\ufffd",
     "\ufffd\u2018\u2019\u201c\u201d\u2022\u2013\u2014",
     "\u02dc\u2122\u0161\u203a\u0153\ufffd\u017e\u0178",
     "\u00a0\u00a1\u00a2\u00a3\u00a4\u00a5\u00a6\u00a7",
     "\u00a8\u00a9\u00aa\u00ab\u00ac\u00ad\u00ae\u00af",
     "\u00b0\u00b1\u00b2\u00b3\u00b4\u00b5\u00b6\u00b7",
     "\u00b8\u00b9\u00ba\u00bb\u00bc\u00bd\u00be\u00bf",
     "\u00c0\u00c1\u00c2\u00c3\u00c4\u00c5\u00c6\u00c7",
     "\u00c8\u00c9\u00ca\u00cb\u00cc\u00cd\u00ce\u00cf",
     "\u00d0\u00d1\u00d2\u00d3\u00d4\u00d5\u00d6\u00d7",
     "\u00d8\u00d9\u00da\u00db\u00dc\u00dd\u00de\u00df",
     "\u00e0\u00e1\u00e2\u00e3\u00e4\u00e5\u00e6\u00e7",
     "\u00e8\u00e9\u00ea\u00eb\u00ec\u00ed\u00ee\u00ef",
     "\u00f0\u00f1\u00f2\u00f3\u00f4\u00f5\u00f6\u00f7",
     "\u00f8\u00f9\u00fa\u00fb\u00fc\u00fd\u00fe\u00ff"]

/-- Windows code page 1253: Greek. -/
def windows1253 : CharSet where
  upper :=
    ["\u20ac\ufffd\u201a\u0192\u201e\u2026\u2020\u2021",
     "\ufffd\u2030\ufffd\u2039\ufffd\ufffd\ufffd\ufffd",
     "\ufffd\u2018\u2019\u201c\u201d\u2022\u2013\u2014",
     "\ufffd\u2122\ufffd\u203a\ufffd\ufffd\ufffd\ufffd",
     "\u00a0\u0385\u0386\u00a3\u00a4\u00a5\u00a6\u00a7",
     "\u00a8\u00a9\ufffd\u00ab\u00ac\u00ad\u00ae\u2015",
     "\u00b0\u00b1\u00b2\u00b3\u0384\u00b5\u00b6\u00b7",
     "\u0388\u0389\u038a\u00bb\u038c\u00bd\u038e\u038f",
     "\u0390\u0391\u0392\u0393\u0394\u0395\u0396\u0397",
     "\u0398\u0399\u039a\u039b\u039c\u039d\u039e\u039f",
     "\u03a0\u03a1\ufffd\u03a3\u03a4\u03a5\u03a6\u03a7",
     "\u03a8\u03a9\u03aa\u03ab\u03ac\u03ad\u03ae\u03af",
     "\u03b0\u03b1\u03b2\u03b3\u03b4\u03b5\u03b6\u03b7",
     "\u03b8\u03b9\u03ba\u03bb\u03bc\u03bd\u03be\u03bf",
     "\u03c0\u03c1\u03c2\u03c3\u03c4\u03c5\u03c6\u03c7",
     "\u03c8\u03c9\u03ca\u03cb\u03cc\u03cd\u03ce\ufffd"]

/-- Windows code page 1254: Turkish. -/
def windows1254 : CharSet where
  upper :=
    ["\u20ac\ufffd\u201a\u0192\u201e\u2026\u2020\u2021",
     "\u02c6\u2030\u0160\u2039\u0152\ufffd\ufffd\ufffd",
     "\ufffd\u2018\u2019\u201c\u201d\u2022\u2013\u2014",
     "\u02dc\u2122\u0161\u203a\u0153\ufffd\ufffd\u0178",
     "\u00a0\u00a1\u00a2\u00a3\u00a4\u00a5\u00a6\u00a7",
     "\u00a8\u00a9\u00aa\u00ab\u00ac\u00ad\u00ae\u00af",
     "\u00b0\u00b1\u00b2\u00b3\u00b4\u00b5\u00b6\u00b7",
     "\u00b8\u00b9\u00ba\u00bb\u00bc\u00bd\u00be\u00bf",
     "\u00c0\u00c1\u00c2\u00c3\u00c4\u00c5\u00c6\u00c7",
     "\u00c8\u00c9\u00ca\u00cb\u00cc\u00cd\u00ce\u00cf",
     "\u011e\u00d1\u00d2\u00d3\u00d4\u00d5\u00d6\u00d7",
     "\u00d8\u00d9\u00da\u00db\u00dc\u0130\u015e\u00df",
     "\u00e0\u00e1\u00e2\u00e3\u00e4\u00e5\u00e6\u00e7",
     "\u00e8\u00e9\u00ea\u00eb\u00ec\u00ed\u00ee\u00ef",
     "\u011f\u00f1\u00f2\u00f3\u00f4\u00f5\u00f6\u00f7",
     "\u00f8\u00f9\u00fa\u00fb\u00fc\u0131\u015f\u00ff"]

/-- Windows code page 1255: Hebrew. -/
def windows1255 : CharSet where
  upper :=
    ["\u20ac\ufffd\u201a\u0192\u201e\u2026\u2020\u2021",
     "\u02c6\u2030\ufffd\u2039\ufffd\ufffd\ufffd\ufffd",
     "\ufffd\u2018\u2019\u201c\u201d\u2022\u2013\u2014",
     "\u02dc\u2122\ufffd\u203a\ufffd\ufffd\ufffd\ufffd",
     "\u00a0\u00a1\u00a2\u00a3\u20aa\u00a5\u00a6\u00a7",
     "\u00a8\u00a9\u00d7\u00ab\u00ac\u00ad\u00ae\u00af",
     "\u00b0\u00b1\u00b2\u00b3\u00b4\u00b5\u00b6\u00b7",
     "\u00b8\u00b9\u00f7\u00bb\u00bc\u00bd\u00be\u00bf",
     "\u05b0\u05b1\u05b2\u05b3\u05b4\u05b5\u05b6\u05b7",
     "\u05b8\u05b9\ufffd\u05bb\u05bc\u05bd\u05be\u05bf",
     "\u05c0\u05c1\u05c2\u05c3\u05f0\u05f1\u05f2\u05f3",
     "\u05f4\ufffd\ufffd\ufffd\ufffd\ufffd\ufffd\ufffd",
     "\u05d0\u05d1\u05d2\u05d3\u05d4\u05d5\u05d6\u05d7",
     "\u05d8\u05d9\u05da\u05db\u05dc\u05dd\u05de\u05df",
     "\u05e0\u05e1\u05e2\u05e3\u05e4\u05e5\u05e6\u05e7",
     "\u05e8\u05e9\u05ea\ufffd\ufffd\u200e\u200f\ufffd"]

/-- Windows code page 1256: Arabic. -/
def windows1256 : CharSet where
  upper :=
    ["\u20ac\u067e\u201a\u0192\u201e\u2026\u2020\u2021",
     "\u02c6\u2030\u0679\u2039\u0152\u0686\u0698\u0688",
     "\u06af\u2018\u2019\u201c\u201d\u2022\u2013\u2014",
     "\u06a9\u2122\u0691\u203a\u0153\u200c\u200d\u06ba",
     "\u00a0\u060c\u00a2\u00a3\u00a4\u00a5\u00a6\u00a7",
     "\u00a8\u00a9\u06be\u00ab\u00ac\u00ad\u00ae\u00af",
     "\u00b0\u00b1\u00b2\u00b3\u00b4\u00b5\u00b6\u00b7",
     "\u00b8\u00b9\u061b\u00bb\u00bc\u00bd\u00be\u061f",
     "\u06c1\u0621\u0622\u0623\u0624\u0625\u0626\u0627",
     "\u0628\u0629\u062a\u062b\u062c\u062d\u062e\u062f",
     "\u0630\u0631\u0632\u0633\u0634\u0635\u0636\u00d7",
     "\u0637\u0638\u0639\u063a\u0640\u0641\u0642\u0643",
     "\u00e0\u0644\u00e2\u0645\u0646\u0647\u0648\u00e7",
     "\u00e8\u00e9\u00ea\u00eb\u0649\u064a\u00ee\u00ef",
     "\u064b\u064c\u064d\u064e\u00f4\u064f\u0650\u00f7",
     "\u0651\u00f9\u0652\u00fb\u00fc\u200e\u200f\u06d2"]

/-- Windows code page 1257: Baltic. -/
def windows1257 : CharSet where
  upper :=
    ["\u20ac\ufffd\u201a\ufffd\u201e\u2026\u2020\u2021",
     "\ufffd\u2030\ufffd\u2039\ufffd\u00a8\u02c7\u00b8",
     "\ufffd\u2018\u2019\u201c\u201d\u2022\u2013\u2014",
     "\ufffd\u2122\ufffd\u203a\ufffd\u00af\u02db\ufffd",
     "\u00a0\ufffd\u00a2\u00a3\u00a4\ufffd\u00a6\u00a7",
     "\u00d8\u00a9\u0156\u00ab\u00ac\u00ad\u00ae\u00c6",
     "\u00b0\u00b1\u00b2\u00b3\u00b4\u00b5\u00b6\u00b7",
     "\u00f8\u00b9\u0157\u00bb\u00bc\u00bd\u00be\u00e6",
     "\u0104\u012e\u0100\u0106\u00c4\u00c5\u0118\u0112",
     "\u010c\u00c9\u0179\u0116\u0122\u0136\u012a\u013b",
     "\u0160\u0143\u0145\u00d3\u014c\u00d5\u00d6\u00d7",
     "\u0172\u0141\u015a\u016a\u00dc\u017b\u017d\u00df",
     "\u0105\u012f\u0101\u0107\u00e4\u00e5\u0119\u0113",
     "\u010d\u00e9\u017a\u0117\u0123\u0137\u012b\u013c",
     "\u0161\u0144\u0146\u00f3\u014d\u00f5\u00f6\u00f7",
     "\u0173\u0142\u015b\u016b\u00fc\u017c\u017e\u02d9"]

/-- Windows code page 1258: Vietnamese. -/
def windows1258 : CharSet where
  upper :=
    ["\u20ac\ufffd\u201a\u0192\u201e\u2026\u2020\u2021",
     "\u02c6\u2030\ufffd\u2039\u0152\ufffd\ufffd\ufffd",
     "\ufffd\u2018\u2019\u201c\u201d\u2022\u2013\u2014",
     "\u02dc\u2122\ufffd\u203a\u0153\ufffd\ufffd\u0178",
     "\u00a0\u00a1\u00a2\u00a3\u00a4\u00a5\u00a6\u00a7",
     "\u00a8\u00a9\u00aa\u00ab\u00ac\u00ad\u00ae\u00af",
     "\u00b0\u00b1\u00b2\u00b3\u00b4\u00b5\u00b6\u00b7",
     "\u00b8\u00b9\u00ba\u00bb\u00bc\u00bd\u00be\u00bf",
     "\u00c0\u00c1\u00c2\u0102\u00c4\u00c5\u00c6\u00c7",
     "\u00c8\u00c9\u00ca\u00cb\u0300\u00cd\u00ce\u00cf",
     "\u0110\u00d1\u0309\u00d3\u00d4\u01a0\u00d6\u00d7",
     "\u00d8\u00d9\u00da\u00db\u00dc\u01af\u0303\u00df",
     "\u00e0\u00e1\u00e2\u0103\u00e4\u00e5\u00e6\u00e7",
     "\u00e8\u00e9\u00ea\u00eb\u0301\u00ed\u00ee\u00ef",
     "\u0111\u00f1\u0323\u00f3\u00f4\u01a1\u00f6\u00f7",
     "\u00f8\u00f9\u00fa\u00fb\u00fc\u01b0\u20ab\u00ff"]

end AttrLint.Xml.CharSet
