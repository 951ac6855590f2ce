import AttrLint.Xml.CharSet.Basic

namespace AttrLint.Xml.CharSet

/-!
# Regional character sets

Character sets of single countries and systems.
-/

/-- KOI8-R: Russian. -/
def koi8R : CharSet where
  upper :=
    ["\u2500\u2502\u250c\u2510\u2514\u2518\u251c\u2524",
     "\u252c\u2534\u253c\u2580\u2584\u2588\u258c\u2590",
     "\u2591\u2592\u2593\u2320\u25a0\u2219\u221a\u2248",
     "\u2264\u2265\u00a0\u2321\u00b0\u00b2\u00b7\u00f7",
     "\u2550\u2551\u2552\u0451\u2553\u2554\u2555\u2556",
     "\u2557\u2558\u2559\u255a\u255b\u255c\u255d\u255e",
     "\u255f\u2560\u2561\u0401\u2562\u2563\u2564\u2565",
     "\u2566\u2567\u2568\u2569\u256a\u256b\u256c\u00a9",
     "\u044e\u0430\u0431\u0446\u0434\u0435\u0444\u0433",
     "\u0445\u0438\u0439\u043a\u043b\u043c\u043d\u043e",
     "\u043f\u044f\u0440\u0441\u0442\u0443\u0436\u0432",
     "\u044c\u044b\u0437\u0448\u044d\u0449\u0447\u044a",
     "\u042e\u0410\u0411\u0426\u0414\u0415\u0424\u0413",
     "\u0425\u0418\u0419\u041a\u041b\u041c\u041d\u041e",
     "\u041f\u042f\u0420\u0421\u0422\u0423\u0416\u0412",
     "\u042c\u042b\u0417\u0428\u042d\u0429\u0427\u042a"]

/-- KOI8-T: Tajik. -/
def koi8T : CharSet where
  upper :=
    ["\u049b\u0493\u201a\u0492\u201e\u2026\u2020\u2021",
     "\ufffd\u2030\u04b3\u2039\u04b2\u04b7\u04b6\ufffd",
     "\u049a\u2018\u2019\u201c\u201d\u2022\u2013\u2014",
     "\ufffd\u2122\ufffd\u203a\ufffd\ufffd\ufffd\ufffd",
     "\ufffd\u04ef\u04ee\u0451\u00a4\u04e3\u00a6\u00a7",
     "\ufffd\ufffd\ufffd\u00ab\u00ac\u00ad\u00ae\ufffd",
     "\u00b0\u00b1\u00b2\u0401\ufffd\u04e2\u00b6\u00b7",
     "\ufffd\u2116\ufffd\u00bb\ufffd\ufffd\ufffd\u00a9",
     "\u044e\u0430\u0431\u0446\u0434\u0435\u0444\u0433",
     "\u0445\u0438\u0439\u043a\u043b\u043c\u043d\u043e",
     "\u043f\u044f\u0440\u0441\u0442\u0443\u0436\u0432",
     "\u044c\u044b\u0437\u0448\u044d\u0449\u0447\u044a",
     "\u042e\u0410\u0411\u0426\u0414\u0415\u0424\u0413",
     "\u0425\u0418\u0419\u041a\u041b\u041c\u041d\u041e",
     "\u041f\u042f\u0420\u0421\u0422\u0423\u0416\u0412",
     "\u042c\u042b\u0417\u0428\u042d\u0429\u0427\u042a"]

/-- KOI8-U: Ukrainian. -/
def koi8U : CharSet where
  upper :=
    ["\u2500\u2502\u250c\u2510\u2514\u2518\u251c\u2524",
     "\u252c\u2534\u253c\u2580\u2584\u2588\u258c\u2590",
     "\u2591\u2592\u2593\u2320\u25a0\u2219\u221a\u2248",
     "\u2264\u2265\u00a0\u2321\u00b0\u00b2\u00b7\u00f7",
     "\u2550\u2551\u2552\u0451\u0454\u2554\u0456\u0457",
     "\u2557\u2558\u2559\u255a\u255b\u0491\u255d\u255e",
     "\u255f\u2560\u2561\u0401\u0404\u2563\u0406\u0407",
     "\u2566\u2567\u2568\u2569\u256a\u0490\u256c\u00a9",
     "\u044e\u0430\u0431\u0446\u0434\u0435\u0444\u0433",
     "\u0445\u0438\u0439\u043a\u043b\u043c\u043d\u043e",
     "\u043f\u044f\u0440\u0441\u0442\u0443\u0436\u0432",
     "\u044c\u044b\u0437\u0448\u044d\u0449\u0447\u044a",
     "\u042e\u0410\u0411\u0426\u0414\u0415\u0424\u0413",
     "\u0425\u0418\u0419\u041a\u041b\u041c\u041d\u041e",
     "\u041f\u042f\u0420\u0421\u0422\u0423\u0416\u0412",
     "\u042c\u042b\u0417\u0428\u042d\u0429\u0427\u042a"]

/-- KZ-1048: Kazakh. -/
def kazakh : CharSet where
  upper :=
    ["\u0402\u0403\u201a\u0453\u201e\u2026\u2020\u2021",
     "\u20ac\u2030\u0409\u2039\u040a\u049a\u04ba\u040f",
     "\u0452\u2018\u2019\u201c\u201d\u2022\u2013\u2014",
     "\ufffd\u2122\u0459\u203a\u045a\u049b\u04bb\u045f",
     "\u00a0\u04b0\u04b1\u04d8\u00a4\u04e8\u00a6\u00a7",
     "\u0401\u00a9\u0492\u00ab\u00ac\u00ad\u00ae\u04ae",
     "\u00b0\u00b1\u0406\u0456\u04e9\u00b5\u00b6\u00b7",
     "\u0451\u2116\u0493\u00bb\u04d9\u04a2\u04a3\u04af",
     "\u0410\u0411\u0412\u0413\u0414\u0415\u0416\u0417",
     "\u0418\u0419\u041a\u041b\u041c\u041d\u041e\u041f",
     "\u0420\u0421\u0422\u0423\u0424\u0425\u0426\u0427",
     "\u0428\u0429\u042a\u042b\u042c\u042d\u042e\u042f",
     "\u0430\u0431\u0432\u0433\u0434\u0435\u0436\u0437",
     "\u0438\u0439\u043a\u043b\u043c\u043d\u043e\u043f",
     "\u0440\u0441\u0442\u0443\u0444\u0445\u0446\u0447",
     "\u0448\u0449\u044a\u044b\u044c\u044d\u044e\u044f"]

/-- PT154: Cyrillic scripts of Asia. -/
def paratype154 : CharSet where
  upper :=
    ["\u0496\u0492\u04ee\u0493\u201e\u2026\u04b6\u04ae",
     "\u04b2\u04af\u04a0\u04e2\u04a2\u049a\u04ba\u04b8",
     "\u0497\u2018\u2019\u201c\u201d\u2022\u2013\u2014",
     "\u04b3\u04b7\u04a1\u04e3\u04a3\u049b\u04bb\u04b9",
     "\u00a0\u040e\u045e\u0408\u04e8\u0498\u04b0\u00a7",
     "\u0401\u00a9\u04d8\u00ab\u00ac\u04ef\u00ae\u049c",
     "\u00b0\u04b1\u0406\u0456\u0499\u04e9\u00b6\u00b7",
     "\u0451\u2116\u04d9\u00bb\u0458\u04aa\u04ab\u049d",
     "\u0410\u0411\u0412\u0413\u0414\u0415\u0416\u0417",
     "\u0418\u0419\u041a\u041b\u041c\u041d\u041e\u041f",
     "\u0420\u0421\u0422\u0423\u0424\u0425\u0426\u0427",
     "\u0428\u0429\u042a\u042b\u042c\u042d\u042e\u042f",
     "\u0430\u0431\u0432\u0433\u0434\u0435\u0436\u0437",
     "\u0438\u0439\u043a\u043b\u043c\u043d\u043e\u043f",
     "\u0440\u0441\u0442\u0443\u0444\u0445\u0446\u0447",
     "\u0448\u0449\u044a\u044b\u044c\u044d\u044e\u044f"]

/-- HP Roman-8: Western European. -/
def roman8 : CharSet where
  upper :=
    ["\u0080\u0081\u0082\u0083\u0084\u0085\u0086\u0087",
     "\u0088\u0089\u008a\u008b\u008c\u008d\u008e\u008f",
     "\u0090\u0091\u0092\u0093\u0094\u0095\u0096\u0097",
     "\u0098\u0099\u009a\u009b\u009c\u009d\u009e\u009f",
     "\u00a0\u00c0\u00c2\u00c8\u00ca\u00cb\u00ce\u00cf",
     "\u00b4\u02cb\u02c6\u00a8\u02dc\u00d9\u00db\u20a4",
     "\u00af\u00dd\u00fd\u00b0\u00c7\u00e7\u00d1\u00f1",
     "\u00a1\u00bf\u00a4\u00a3\u00a5\u00a7\u0192\u00a2",
     "\u00e2\u00ea\u00f4\u00fb\u00e1\u00e9\u00f3\u00fa",
     "\u00e0\u00e8\u00f2\u00f9\u00e4\u00eb\u00f6\u00fc",
     "\u00c5\u00ee\u00d8\u00c6\u00e5\u00ed\u00f8\u00e6",
     "\u00c4\u00ec\u00d6\u00dc\u00c9\u00ef\u00df\u00d4",
     "\u00c1\u00c3\u00e3\u00d0\u00f0\u00cd\u00cc\u00d3",
     "\u00d2\u00d5\u00f5\u0160\u0161\u00da\u0178\u00ff",
     "\u00de\u00fe\u00b7\u00b5\u00b6\u00be\u2014\u00bc",
     "\u00bd\u00aa\u00ba\u00ab\u25a0\u00bb\u00b1\ufffd"]

/-- Palm OS: Western European. -/
def palmOs : CharSet where
  upper :=
    ["\u20ac\u0081\u201a\u0192\u201e\u2026\u2020\u2021",
     "\u02c6\u2030\u0160\u2039\u0152\u2666\u2663\u2665",
     "\u2660\u2018\u2019\u201c\u201d\u2022\u2013\u2014",
     "\u02dc\u2122\u0161\u009b\u0153\u009d\u009e\u0178",
     "\u00a0\u00a1\u00a2\u00a3\u00a4\u00a5\u00a6\u00a7",
     "\u00a8\u00a9\u00aa\u00ab\u00ac\u00ad\u00ae\u00af",
     "\u00b0\u00b1\u00b2\u00b3\u00b4\u00b5\u00b6\u00b7",
     "\u00b8\u00b9\u00ba\u00bb\u00bc\u00bd\u00be\u00bf",
     "\u00c0\u00c1\u00c2\u00c3\u00c4\u00c5\u00c6\u00c7",
     "\u00c8\u00c9\u00ca\u00cb\u00cc\u00cd\u00ce\u00cf",
     "\u00d0\u00d1\u00d2\u00d3\u00d4\u00d5\u00d6\u00d7",
     "\u00d8\u00d9\u00da\u00db\u00dc\u00dd\u00de\u00df",
     "\u00e0\u00e1\u00e2\u00e3\u00e4\u00e5\u00e6\u00e7",
     "\u00e8\u00e9\u00ea\u00eb\u00ec\u00ed\u00ee\u00ef",
     "\u00f0\u00f1\u00f2\u00f3\u00f4\u00f5\u00f6\u00f7",
     "\u00f8\u00f9\u00fa\u00fb\u00fc\u00fd\u00fe\u00ff"]

/-- TIS-620: Thai. -/
def thai620 : CharSet where
  upper :=
    ["\u0080\u0081\u0082\u0083\u0084\u0085\u0086\u0087",
     "\u0088\u0089\u008a\u008b\u008c\u008d\u008e\u008f",
     "\u0090\u0091\u0092\u0093\u0094\u0095\u0096\u0097",
     "\u0098\u0099\u009a\u009b\u009c\u009d\u009e\u009f",
     "\ufffd\u0e01\u0e02\u0e03\u0e04\u0e05\u0e06\u0e07",
     "\u0e08\u0e09\u0e0a\u0e0b\u0e0c\u0e0d\u0e0e\u0e0f",
     "\u0e10\u0e11\u0e12\u0e13\u0e14\u0e15\u0e16\u0e17",
     "\u0e18\u0e19\u0e1a\u0e1b\u0e1c\u0e1d\u0e1e\u0e1f",
     "\u0e20\u0e21\u0e22\u0e23\u0e24\u0e25\u0e26\u0e27",
     "\u0e28\u0e29\u0e2a\u0e2b\u0e2c\u0e2d\u0e2e\u0e2f",
     "\u0e30\u0e31\u0e32\u0e33\u0e34\u0e35\u0e36\u0e37",
     "\u0e38\u0e39\u0e3a\ufffd\ufffd\ufffd\ufffd\u0e3f",
     "\u0e40\u0e41\u0e42\u0e43\u0e44\u0e45\u0e46\u0e47",
     "\u0e48\u0e49\u0e4a\u0e4b\u0e4c\u0e4d\u0e4e\u0e4f",
     "\u0e50\u0e51\u0e52\u0e53\u0e54\u0e55\u0e56\u0e57",
     "\u0e58\u0e59\u0e5a\u0e5b\ufffd\ufffd\ufffd\ufffd"]

end AttrLint.Xml.CharSet
