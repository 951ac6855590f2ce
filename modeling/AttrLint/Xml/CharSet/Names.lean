import AttrLint.Xml.CharSet.DosOther
import AttrLint.Xml.CharSet.DosWestern
import AttrLint.Xml.CharSet.Iso
import AttrLint.Xml.CharSet.Mac
import AttrLint.Xml.CharSet.Regional
import AttrLint.Xml.CharSet.Windows
import AttrLint.Xml.Name

namespace AttrLint.Xml

/-!
# Names of encodings

Encodings are registered under a name and under others that mean the same.

* `Coding` — what a registered encoding offers.
* `Coding.named?` — the encoding registered under a name.
-/

/-- What a registered encoding offers to a reader of bytes. -/
inductive Coding where
  /-- Each byte is a character. -/
  | single (set : CharSet)
  /-- Characters have several bytes. -/
  | multiByte
  /-- The markup characters do not have their ASCII bytes. -/
  | unfit
  /-- The coding is not one of texts. -/
  | notText
  /-- The coding takes no text that it cannot read whole: it is that of host names. -/
  | hostNames
  /-- The coding takes no text at all. -/
  | undefined
  /-- The coding takes ASCII only: it is that of labels in host names. -/
  | labels
  deriving DecidableEq, Repr

/-- A registered encoding: its name, the other names for it, and what it offers. -/
structure Registration where
  name : String
  others : List String
  coding : Coding
  deriving Repr

/-- Encodings of one byte per character, and those of which only the characters of one byte can be
read. -/
def byteSets : List Registration :=
  [⟨"ascii", ["646", "ansi_x3.4_1968", "ansi_x3.4_1986", "ansi_x3_4_1968", "cp367", "csascii",
     "ibm367", "iso646_us", "iso_646.irv_1991", "iso_ir_6", "us", "us_ascii"], .single .ascii⟩,
   ⟨"charmap", [], .single .latin1⟩,
   ⟨"cp1006", [], .single .dos1006⟩,
   ⟨"cp1125", ["1125", "cp866u", "ibm1125", "ruscii"], .single .dos1125⟩,
   ⟨"cp1250", ["1250", "windows_1250"], .single .windows1250⟩,
   ⟨"cp1251", ["1251", "windows_1251"], .single .windows1251⟩,
   ⟨"cp1252", ["1252", "windows_1252"], .single .windows1252⟩,
   ⟨"cp1253", ["1253", "windows_1253"], .single .windows1253⟩,
   ⟨"cp1254", ["1254", "windows_1254"], .single .windows1254⟩,
   ⟨"cp1255", ["1255", "windows_1255"], .single .windows1255⟩,
   ⟨"cp1256", ["1256", "windows_1256"], .single .windows1256⟩,
   ⟨"cp1257", ["1257", "windows_1257"], .single .windows1257⟩,
   ⟨"cp1258", ["1258", "windows_1258"], .single .windows1258⟩,
   ⟨"cp437", ["437", "cspc8codepage437", "ibm437"], .single .dos437⟩,
   ⟨"cp720", [], .single .dos720⟩,
   ⟨"cp737", [], .single .dos737⟩,
   ⟨"cp775", ["775", "cspc775baltic", "ibm775"], .single .dos775⟩,
   ⟨"cp850", ["850", "cspc850multilingual", "ibm850"], .single .dos850⟩,
   ⟨"cp852", ["852", "cspcp852", "ibm852"], .single .dos852⟩,
   ⟨"cp855", ["855", "csibm855", "ibm855"], .single .dos855⟩,
   ⟨"cp856", [], .single .dos856⟩,
   ⟨"cp857", ["857", "csibm857", "ibm857"], .single .dos857⟩,
   ⟨"cp858", ["858", "csibm858", "ibm858"], .single .dos858⟩,
   ⟨"cp860", ["860", "csibm860", "ibm860"], .single .dos860⟩,
   ⟨"cp861", ["861", "cp_is", "csibm861", "ibm861"], .single .dos861⟩,
   ⟨"cp862", ["862", "cspc862latinhebrew", "ibm862"], .single .dos862⟩,
   ⟨"cp863", ["863", "csibm863", "ibm863"], .single .dos863⟩,
   ⟨"cp865", ["865", "csibm865", "ibm865"], .single .dos865⟩,
   ⟨"cp866", ["866", "csibm866", "ibm866"], .single .dos866⟩,
   ⟨"cp869", ["869", "cp_gr", "csibm869", "ibm869"], .single .dos869⟩,
   ⟨"cp874", [], .single .windows874⟩,
   ⟨"hp_roman8", ["cp1051", "ibm1051", "r8", "roman8"], .single .roman8⟩,
   ⟨"hz", ["hz_gb", "hz_gb_2312", "hzgb"], .single .asciiWithoutTilde⟩,
   ⟨"iso2022_jp", ["csiso2022jp", "iso2022jp", "iso_2022_jp"], .single .ascii⟩,
   ⟨"iso2022_jp_1", ["iso2022jp_1", "iso_2022_jp_1"], .single .ascii⟩,
   ⟨"iso2022_jp_2", ["iso2022jp_2", "iso_2022_jp_2"], .single .ascii⟩,
   ⟨"iso2022_jp_2004", ["iso2022jp_2004", "iso_2022_jp_2004"], .single .ascii⟩,
   ⟨"iso2022_jp_3", ["iso2022jp_3", "iso_2022_jp_3"], .single .ascii⟩,
   ⟨"iso2022_jp_ext", ["iso2022jp_ext", "iso_2022_jp_ext"], .single .ascii⟩,
   ⟨"iso8859_1", [], .single .latin1⟩,
   ⟨"iso8859_10", ["csisolatin6", "iso_8859_10", "iso_8859_10_1992", "iso_ir_157", "l6", "latin6"],
     .single .iso10⟩,
   ⟨"iso8859_11", ["iso_8859_11", "iso_8859_11_2001", "thai"], .single .iso11⟩,
   ⟨"iso8859_13", ["iso_8859_13", "l7", "latin7"], .single .iso13⟩,
   ⟨"iso8859_14", ["iso_8859_14", "iso_8859_14_1998", "iso_celtic", "iso_ir_199", "l8", "latin8"],
     .single .iso14⟩,
   ⟨"iso8859_15", ["iso_8859_15", "l9", "latin9"], .single .iso15⟩,
   ⟨"iso8859_16", ["iso_8859_16", "iso_8859_16_2001", "iso_ir_226", "l10", "latin10"],
     .single .iso16⟩,
   ⟨"iso8859_2", ["csisolatin2", "iso_8859_2", "iso_8859_2_1987", "iso_ir_101", "l2", "latin2"],
     .single .iso2⟩,
   ⟨"iso8859_3", ["csisolatin3", "iso_8859_3", "iso_8859_3_1988", "iso_ir_109", "l3", "latin3"],
     .single .iso3⟩,
   ⟨"iso8859_4", ["csisolatin4", "iso_8859_4", "iso_8859_4_1988", "iso_ir_110", "l4", "latin4"],
     .single .iso4⟩,
   ⟨"iso8859_5", ["csisolatincyrillic", "cyrillic", "iso_8859_5", "iso_8859_5_1988", "iso_ir_144"],
     .single .iso5⟩,
   ⟨"iso8859_6", ["arabic", "asmo_708", "csisolatinarabic", "ecma_114", "iso_8859_6",
     "iso_8859_6_1987", "iso_ir_127"], .single .iso6⟩,
   ⟨"iso8859_7", ["csisolatingreek", "ecma_118", "elot_928", "greek", "greek8", "iso_8859_7",
     "iso_8859_7_1987", "iso_ir_126"], .single .iso7⟩,
   ⟨"iso8859_8", ["csisolatinhebrew", "hebrew", "iso_8859_8", "iso_8859_8_1988", "iso_ir_138"],
     .single .iso8⟩,
   ⟨"iso8859_9", ["csisolatin5", "iso_8859_9", "iso_8859_9_1989", "iso_ir_148", "l5", "latin5"],
     .single .iso9⟩,
   ⟨"koi8_r", ["cskoi8r"], .single .koi8R⟩,
   ⟨"koi8_t", [], .single .koi8T⟩,
   ⟨"koi8_u", [], .single .koi8U⟩,
   ⟨"kz1048", ["kz_1048", "rk1048", "strk1048_2002"], .single .kazakh⟩,
   ⟨"latin_1", ["8859", "cp819", "csisolatin1", "ibm819", "iso8859", "iso8859_1", "iso_8859_1",
     "iso_8859_1_1987", "iso_ir_100", "l1", "latin", "latin1"], .single .latin1⟩,
   ⟨"mac_croatian", [], .single .macCroatian⟩,
   ⟨"mac_cyrillic", ["maccyrillic"], .single .macCyrillic⟩,
   ⟨"mac_greek", ["macgreek"], .single .macGreek⟩,
   ⟨"mac_iceland", ["maciceland"], .single .macIceland⟩,
   ⟨"mac_latin2", ["mac_centeuro", "maccentraleurope", "maclatin2"], .single .macLatin2⟩,
   ⟨"mac_roman", ["macintosh", "macroman"], .single .macRoman⟩,
   ⟨"mac_romanian", [], .single .macRomanian⟩,
   ⟨"mac_turkish", ["macturkish"], .single .macTurkish⟩,
   ⟨"palmos", [], .single .palmOs⟩,
   ⟨"ptcp154", ["cp154", "csptcp154", "cyrillic_asian", "pt154"], .single .paratype154⟩,
   ⟨"raw_unicode_escape", [], .single .latin1⟩,
   ⟨"tis_620", ["iso_ir_166", "tis620", "tis_620_0", "tis_620_2529_0", "tis_620_2529_1"],
     .single .thai620⟩,
   ⟨"unicode_escape", [], .single .latin1⟩,
   ⟨"utf_8", ["cp65001", "u8", "utf", "utf8", "utf8_ucs2", "utf8_ucs4"], .single .ascii⟩,
   ⟨"utf_8_sig", [], .single .ascii⟩]

/-- Encodings with characters of several bytes. -/
def multiByteSets : List Registration :=
  [⟨"big5", ["big5_tw", "csbig5", "x_mac_trad_chinese"], .multiByte⟩,
   ⟨"big5hkscs", ["big5_hkscs", "hkscs"], .multiByte⟩,
   ⟨"cp932", ["932", "ms932", "ms_kanji", "mskanji"], .multiByte⟩,
   ⟨"cp949", ["949", "ms949", "uhc"], .multiByte⟩,
   ⟨"cp950", ["950", "ms950"], .multiByte⟩,
   ⟨"euc_jis_2004", ["euc_jis2004", "eucjis2004", "jisx0213"], .multiByte⟩,
   ⟨"euc_jisx0213", ["eucjisx0213"], .multiByte⟩,
   ⟨"euc_jp", ["eucjp", "u_jis", "ujis"], .multiByte⟩,
   ⟨"euc_kr", ["euckr", "korean", "ks_c_5601", "ks_c_5601_1987", "ks_x_1001", "ksc5601", "ksx1001",
     "x_mac_korean"], .multiByte⟩,
   ⟨"gb18030", ["gb18030_2000"], .multiByte⟩,
   ⟨"gb2312", ["chinese", "csiso58gb231280", "euc_cn", "euccn", "eucgb2312_cn", "gb2312_1980",
     "gb2312_80", "iso_ir_58", "x_mac_simp_chinese"], .multiByte⟩,
   ⟨"gbk", ["936", "cp936", "ms936"], .multiByte⟩,
   ⟨"iso2022_kr", ["csiso2022kr", "iso2022kr", "iso_2022_kr"], .multiByte⟩,
   ⟨"johab", ["cp1361", "ms1361"], .multiByte⟩,
   ⟨"shift_jis", ["csshiftjis", "s_jis", "shiftjis", "sjis", "x_mac_japanese"], .multiByte⟩,
   ⟨"shift_jis_2004", ["s_jis_2004", "shiftjis2004", "sjis_2004"], .multiByte⟩,
   ⟨"shift_jisx0213", ["s_jisx0213", "shiftjisx0213", "sjisx0213"], .multiByte⟩,
   ⟨"utf_16", ["u16", "utf16"], .multiByte⟩,
   ⟨"utf_16_be", ["unicodebigunmarked", "utf_16be"], .multiByte⟩,
   ⟨"utf_16_le", ["unicodelittleunmarked", "utf_16le"], .multiByte⟩,
   ⟨"utf_32", ["u32", "utf32"], .multiByte⟩,
   ⟨"utf_32_be", ["utf_32be"], .multiByte⟩,
   ⟨"utf_32_le", ["utf_32le"], .multiByte⟩,
   ⟨"utf_7", ["u7", "unicode_1_1_utf_7", "utf7"], .multiByte⟩]

/-- Encodings in which the bytes of ASCII are other characters. -/
def unfitSets : List Registration :=
  [⟨"cp037", ["037", "csibm037", "ebcdic_cp_ca", "ebcdic_cp_nl", "ebcdic_cp_us", "ebcdic_cp_wt",
     "ibm037", "ibm039"], .unfit⟩,
   ⟨"cp1026", ["1026", "csibm1026", "ibm1026"], .unfit⟩,
   ⟨"cp1140", ["1140", "ibm1140"], .unfit⟩,
   ⟨"cp273", ["273", "csibm273", "ibm273"], .unfit⟩,
   ⟨"cp424", ["424", "csibm424", "ebcdic_cp_he", "ibm424"], .unfit⟩,
   ⟨"cp500", ["500", "csibm500", "ebcdic_cp_be", "ebcdic_cp_ch", "ibm500"], .unfit⟩,
   ⟨"cp864", ["864", "csibm864", "ibm864"], .unfit⟩,
   ⟨"cp875", [], .unfit⟩,
   ⟨"mac_arabic", [], .unfit⟩,
   ⟨"mac_farsi", [], .unfit⟩]

/-- Transformations of bytes that are registered like encodings. -/
def transformations : List Registration :=
  [⟨"base64_codec", ["base64", "base_64"], .notText⟩,
   ⟨"bz2_codec", ["bz2"], .notText⟩,
   ⟨"hex_codec", ["hex"], .notText⟩,
   ⟨"quopri_codec", ["quopri", "quoted_printable", "quotedprintable"], .notText⟩,
   ⟨"rot_13", ["rot13"], .notText⟩,
   ⟨"uu_codec", ["uu"], .notText⟩,
   ⟨"zlib_codec", ["zip", "zlib"], .notText⟩]

/-- Encodings that take no text of arbitrary bytes. -/
def narrowSets : List Registration :=
  [⟨"idna", [], .hostNames⟩, ⟨"punycode", [], .labels⟩, ⟨"undefined", [], .undefined⟩]

/-- Every registered encoding. -/
def registrations : List Registration :=
  byteSets ++ multiByteSets ++ unfitSets ++ transformations ++ narrowSets

/-- An ASCII letter in lower case. -/
def lowerAscii (c : Char) : Char :=
  if 'A' ≤ c ∧ c ≤ 'Z' then Char.ofNat (c.toNat + 32) else c

/-- The form of a name under which it is looked up, but for underscores at its front: lower case,
and an underscore for each inner run of characters other than letters, digits and dots. -/
def registeredChars : List Char → List Char
  | [] => []
  | c :: cs =>
    if isAsciiLetter c || c.isDigit || c = '.' then lowerAscii c :: registeredChars cs
    else
      match registeredChars cs with
      | [] => []
      | d :: ds => if d = '_' then d :: ds else '_' :: d :: ds

/-- The form of a name under which it is looked up. -/
def registeredForm (name : List Char) : List Char :=
  (registeredChars name).dropWhile (· == '_')

namespace Coding

/-- The encoding that has `form` among its other names. -/
def ofOther? (form : List Char) : Option Coding :=
  (registrations.find? fun r => r.others.contains (String.ofList form)).map (·.coding)

/-- The encoding whose own name is `form`. -/
def ofOwn? (form : List Char) : Option Coding :=
  (registrations.find? fun r => r.name == String.ofList form).map (·.coding)

/-- The encoding registered under a name.  Other names go before the encodings' own, and in them a
dot may stand for an underscore. -/
def named? (name : List Char) : Option Coding :=
  let form := registeredForm name
  let undotted := form.map fun c => if c = '.' then '_' else c
  ((ofOther? form).or (ofOther? undotted)).or (ofOwn? form)

end Coding

end AttrLint.Xml
