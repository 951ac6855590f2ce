import AttrLint.Xml.CharSet.Basic

namespace AttrLint.Xml.CharSet

/-!
# DOS character sets: other scripts

Code pages of DOS for other scripts.
-/

/-- Code page 720: Arabic. -/
def dos720 : CharSet where
  upper :=
    ["\u0080\u0081\u00e9\u00e2\u0084\u00e0\u0086\u00e7",
     "\u00ea\u00eb\u00e8\u00ef\u00ee\u008d\u008e\u008f",
     "\u0090\u0651\u0652\u00f4\u00a4\u0640\u00fb\u00f9",
     "\u0621\u0622\u0623\u0624\u00a3\u0625\u0626\u0627",
     "\u0628\u0629\u062a\u062b\u062c\u062d\u062e\u062f",
     "\u0630\u0631\u0632\u0633\u0634\u0635\u00ab\u00bb",
     "\u2591\u2592\u2593\u2502\u2524\u2561\u2562\u2556",
     "\u2555\u2563\u2551\u2557\u255d\u255c\u255b\u2510",
     "\u2514\u2534\u252c\u251c\u2500\u253c\u255e\u255f",
     "\u255a\u2554\u2569\u2566\u2560\u2550\u256c\u2567",
     "\u2568\u2564\u2565\u2559\u2558\u2552\u2553\u256b",
     "\u256a\u2518\u250c\u2588\u2584\u258c\u2590\u2580",
     "\u0636\u0637\u0638\u0639\u063a\u0641\u00b5\u0642",
     "\u0643\u0644\u0645\u0646\u0647\u0648\u0649\u064a",
     "\u2261\u064b\u064c\u064d\u064e\u064f\u0650\u2248",
     "\u00b0\u2219\u00b7\u221a\u207f\u00b2\u25a0\u00a0"]

/-- Code page 737: Greek. -/
def dos737 : CharSet where
  upper :=
    ["\u0391\u0392\u0393\u0394\u0395\u0396\u0397\u0398",
     "\u0399\u039a\u039b\u039c\u039d\u039e\u039f\u03a0",
     "\u03a1\u03a3\u03a4\u03a5\u03a6\u03a7\u03a8\u03a9",
     "\u03b1\u03b2\u03b3\u03b4\u03b5\u03b6\u03b7\u03b8",
     "\u03b9\u03ba\u03bb\u03bc\u03bd\u03be\u03bf\u03c0",
     "\u03c1\u03c3\u03c2\u03c4\u03c5\u03c6\u03c7\u03c8",
     "\u2591\u2592\u2593\u2502\u2524\u2561\u2562\u2556",
     "\u2555\u2563\u2551\u2557\u255d\u255c\u255b\u2510",
     "\u2514\u2534\u252c\u251c\u2500\u253c\u255e\u255f",
     "\u255a\u2554\u2569\u2566\u2560\u2550\u256c\u2567",
     "\u2568\u2564\u2565\u2559\u2558\u2552\u2553\u256b",
     "\u256a\u2518\u250c\u2588\u2584\u258c\u2590\u2580",
     "\u03c9\u03ac\u03ad\u03ae\u03ca\u03af\u03cc\u03cd",
     "\u03cb\u03ce\u0386\u0388\u0389\u038a\u038c\u038e",
     "\u038f\u00b1\u2265\u2264\u03aa\u03ab\u00f7\u2248",
     "\u00b0\u2219\u00b7\u221a\u207f\u00b2\u25a0\u00a0"]

/-- Code page 855: Cyrillic. -/
def dos855 : CharSet where
  upper :=
    ["\u0452\u0402\u0453\u0403\u0451\u0401\u0454\u0404",
     "\u0455\u0405\u0456\u0406\u0457\u0407\u0458\u0408",
     "\u0459\u0409\u045a\u040a\u045b\u040b\u045c\u040c",
     "\u045e\u040e\u045f\u040f\u044e\u042e\u044a\u042a",
     "\u0430\u0410\u0431\u0411\u0446\u0426\u0434\u0414",
     "\u0435\u0415\u0444\u0424\u0433\u0413\u00ab\u00bb",
     "\u2591\u2592\u2593\u2502\u2524\u0445\u0425\u0438",
     "\u0418\u2563\u2551\u2557\u255d\u0439\u0419\u2510",
     "\u2514\u2534\u252c\u251c\u2500\u253c\u043a\u041a",
     "\u255a\u2554\u2569\u2566\u2560\u2550\u256c\u00a4",
     "\u043b\u041b\u043c\u041c\u043d\u041d\u043e\u041e",
     "\u043f\u2518\u250c\u2588\u2584\u041f\u044f\u2580",
     "\u042f\u0440\u0420\u0441\u0421\u0442\u0422\u0443",
     "\u0423\u0436\u0416\u0432\u0412\u044c\u042c\u2116",
     "\u00ad\u044b\u042b\u0437\u0417\u0448\u0428\u044d",
     "\u042d\u0449\u0429\u0447\u0427\u00a7\u25a0\u00a0"]

/-- Code page 856: Hebrew. -/
def dos856 : CharSet where
  upper :=
    ["\u05d0\u05d1\u05d2\u05d3\u05d4\u05d5\u05d6\u05d7",
     "\u05d8\u05d9\u05da\u05db\u05dc\u05dd\u05de\u05df",
     "\u05e0\u05e1\u05e2\u05e3\u05e4\u05e5\u05e6\u05e7",
     "\u05e8\u05e9\u05ea\ufffd\u00a3\ufffd\u00d7\ufffd",
     "\ufffd\ufffd\ufffd\ufffd\ufffd\ufffd\ufffd\ufffd",
     "\ufffd\u00ae\u00ac\u00bd\u00bc\ufffd\u00ab\u00bb",
     "\u2591\u2592\u2593\u2502\u2524\ufffd\ufffd\ufffd",
     "\u00a9\u2563\u2551\u2557\u255d\u00a2\u00a5\u2510",
     "\u2514\u2534\u252c\u251c\u2500\u253c\ufffd\ufffd",
     "\u255a\u2554\u2569\u2566\u2560\u2550\u256c\u00a4",
     "\ufffd\ufffd\ufffd\ufffd\ufffd\ufffd\ufffd\ufffd",
     "\ufffd\u2518\u250c\u2588\u2584\u00a6\ufffd\u2580",
     "\ufffd\ufffd\ufffd\ufffd\ufffd\ufffd\u00b5\ufffd",
     "\ufffd\ufffd\ufffd\ufffd\ufffd\ufffd\u00af\u00b4",
     "\u00ad\u00b1\u2017\u00be\u00b6\u00a7\u00f7\u00b8",
     "\u00b0\u00a8\u00b7\u00b9\u00b3\u00b2\u25a0\u00a0"]

/-- Code page 862: Hebrew. -/
def dos862 : CharSet where
  upper :=
    ["\u05d0\u05d1\u05d2\u05d3\u05d4\u05d5\u05d6\u05d7",
     "\u05d8\u05d9\u05da\u05db\u05dc\u05dd\u05de\u05df",
     "\u05e0\u05e1\u05e2\u05e3\u05e4\u05e5\u05e6\u05e7",
     "\u05e8\u05e9\u05ea\u00a2\u00a3\u00a5\u20a7\u0192",
     "\u00e1\u00ed\u00f3\u00fa\u00f1\u00d1\u00aa\u00ba",
     "\u00bf\u2310\u00ac\u00bd\u00bc\u00a1\u00ab\u00bb",
     "\u2591\u2592\u2593\u2502\u2524\u2561\u2562\u2556",
     "\u2555\u2563\u2551\u2557\u255d\u255c\u255b\u2510",
     "\u2514\u2534\u252c\u251c\u2500\u253c\u255e\u255f",
     "\u255a\u2554\u2569\u2566\u2560\u2550\u256c\u2567",
     "\u2568\u2564\u2565\u2559\u2558\u2552\u2553\u256b",
     "\u256a\u2518\u250c\u2588\u2584\u258c\u2590\u2580",
     "\u03b1\u00df\u0393\u03c0\u03a3\u03c3\u00b5\u03c4",
     "\u03a6\u0398\u03a9\u03b4\u221e\u03c6\u03b5\u2229",
     "\u2261\u00b1\u2265\u2264\u2320\u2321\u00f7\u2248",
     "\u00b0\u2219\u00b7\u221a\u207f\u00b2\u25a0\u00a0"]

/-- Code page 866: Cyrillic. -/
def dos866 : CharSet where
  upper :=
    ["\u0410\u0411\u0412\u0413\u0414\u0415\u0416\u0417",
     "\u0418\u0419\u041a\u041b\u041c\u041d\u041e\u041f",
     "\u0420\u0421\u0422\u0423\u0424\u0425\u0426\u0427",
     "\u0428\u0429\u042a\u042b\u042c\u042d\u042e\u042f",
     "\u0430\u0431\u0432\u0433\u0434\u0435\u0436\u0437",
     "\u0438\u0439\u043a\u043b\u043c\u043d\u043e\u043f",
     "\u2591\u2592\u2593\u2502\u2524\u2561\u2562\u2556",
     "\u2555\u2563\u2551\u2557\u255d\u255c\u255b\u2510",
     "\u2514\u2534\u252c\u251c\u2500\u253c\u255e\u255f",
     "\u255a\u2554\u2569\u2566\u2560\u2550\u256c\u2567",
     "\u2568\u2564\u2565\u2559\u2558\u2552\u2553\u256b",
     "\u256a\u2518\u250c\u2588\u2584\u258c\u2590\u2580",
     "\u0440\u0441\u0442\u0443\u0444\u0445\u0446\u0447",
     "\u0448\u0449\u044a\u044b\u044c\u044d\u044e\u044f",
     "\u0401\u0451\u0404\u0454\u0407\u0457\u040e\u045e",
     "\u00b0\u2219\u00b7\u221a\u2116\u00a4\u25a0\u00a0"]

/-- Code page 869: Greek. -/
def dos869 : CharSet where
  upper :=
    ["\ufffd\ufffd\ufffd\ufffd\ufffd\ufffd\u0386\ufffd",
     "\u00b7\u00ac\u00a6\u2018\u2019\u0388\u2015\u0389",
     "\u038a\u03aa\u038c\ufffd\ufffd\u038e\u03ab\u00a9",
     "\u038f\u00b2\u00b3\u03ac\u00a3\u03ad\u03ae\u03af",
     "\u03ca\u0390\u03cc\u03cd\u0391\u0392\u0393\u0394",
     "\u0395\u0396\u0397\u00bd\u0398\u0399\u00ab\u00bb",
     "\u2591\u2592\u2593\u2502\u2524\u039a\u039b\u039c",
     "\u039d\u2563\u2551\u2557\u255d\u039e\u039f\u2510",
     "\u2514\u2534\u252c\u251c\u2500\u253c\u03a0\u03a1",
     "\u255a\u2554\u2569\u2566\u2560\u2550\u256c\u03a3",
     "\u03a4\u03a5\u03a6\u03a7\u03a8\u03a9\u03b1\u03b2",
     "\u03b3\u2518\u250c\u2588\u2584\u03b4\u03b5\u2580",
     "\u03b6\u03b7\u03b8\u03b9\u03ba\u03bb\u03bc\u03bd",
     "\u03be\u03bf\u03c0\u03c1\u03c3\u03c2\u03c4\u0384",
     "\u00ad\u00b1\u03c5\u03c6\u03c7\u00a7\u03c8\u0385",
     "\u00b0\u00a8\u03c9\u03cb\u03b0\u03ce\u25a0\u00a0"]

/-- Code page 1006: Urdu. -/
def dos1006 : CharSet where
  upper :=
    ["\u0080\u0081\u0082\u0083\u0084\u0085\u0086\u0087",
     "\u0088\u0089\u008a\u008b\u008c\u008d\u008e\u008f",
     "\u0090\u0091\u0092\u0093\u0094\u0095\u0096\u0097",
     "\u0098\u0099\u009a\u009b\u009c\u009d\u009e\u009f",
     "\u00a0\u06f0\u06f1\u06f2\u06f3\u06f4\u06f5\u06f6",
     "\u06f7\u06f8\u06f9\u060c\u061b\u00ad\u061f\ufe81",
     "\ufe8d\ufe8e\ufe8e\ufe8f\ufe91\ufb56\ufb58\ufe93",
     "\ufe95\ufe97\ufb66\ufb68\ufe99\ufe9b\ufe9d\ufe9f",
     "\ufb7a\ufb7c\ufea1\ufea3\ufea5\ufea7\ufea9\ufb84",
     "\ufeab\ufead\ufb8c\ufeaf\ufb8a\ufeb1\ufeb3\ufeb5",
     "\ufeb7\ufeb9\ufebb\ufebd\ufebf\ufec1\ufec5\ufec9",
     "\ufeca\ufecb\ufecc\ufecd\ufece\ufecf\ufed0\ufed1",
     "\ufed3\ufed5\ufed7\ufed9\ufedb\ufb92\ufb94\ufedd",
     "\ufedf\ufee0\ufee1\ufee3\ufb9e\ufee5\ufee7\ufe85",
     "\ufeed\ufba6\ufba8\ufba9\ufbaa\ufe80\ufe89\ufe8a",
     "\ufe8b\ufef1\ufef2\ufef3\ufbb0\ufbae\ufe7c\ufe7d"]

/-- Code page 1125: Ukrainian. -/
def dos1125 : CharSet where
  upper :=
    ["\u0410\u0411\u0412\u0413\u0414\u0415\u0416\u0417",
     "\u0418\u0419\u041a\u041b\u041c\u041d\u041e\u041f",
     "\u0420\u0421\u0422\u0423\u0424\u0425\u0426\u0427",
     "\u0428\u0429\u042a\u042b\u042c\u042d\u042e\u042f",
     "\u0430\u0431\u0432\u0433\u0434\u0435\u0436\u0437",
     "\u0438\u0439\u043a\u043b\u043c\u043d\u043e\u043f",
     "\u2591\u2592\u2593\u2502\u2524\u2561\u2562\u2556",
     "\u2555\u2563\u2551\u2557\u255d\u255c\u255b\u2510",
     "\u2514\u2534\u252c\u251c\u2500\u253c\u255e\u255f",
     "\u255a\u2554\u2569\u2566\u2560\u2550\u256c\u2567",
     "\u2568\u2564\u2565\u2559\u2558\u2552\u2553\u256b",
     "\u256a\u2518\u250c\u2588\u2584\u258c\u2590\u2580",
     "\u0440\u0441\u0442\u0443\u0444\u0445\u0446\u0447",
     "\u0448\u0449\u044a\u044b\u044c\u044d\u044e\u044f",
     "\u0401\u0451\u0490\u0491\u0404\u0454\u0406\u0456",
     "\u0407\u0457\u00b7\u221a\u2116\u00a4\u25a0\u00a0"]

end AttrLint.Xml.CharSet
