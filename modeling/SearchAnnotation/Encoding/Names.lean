import SearchAnnotation.Encoding.Charset
import SearchAnnotation.Encoding.Table.Cyrillic
import SearchAnnotation.Encoding.Table.Ebcdic
import SearchAnnotation.Encoding.Table.Frames
import SearchAnnotation.Encoding.Table.Macintosh
import SearchAnnotation.Encoding.Table.Windows
import SearchAnnotation.Text.Pieces

/-!
# Character sets by name

Names are compared in lower case, with every run of signs between letters and digits as one
underscore and none at the ends. A point counts as a letter, but it may stand for the underscore
in the further names of a set.
-/

namespace SearchAnnotation.Encoding.Charset

/-- The names of a character set. -/
structure Entry where
  /-- Names that must be given as they are, separated by blanks. -/
  names : String
  /-- Further names in which points may stand for underscores, separated by blanks. -/
  further : String
  /-- The character set. -/
  charset : Charset

/-- Names of the sets of all characters, seven-bit text and the western set. -/
def universal : List Entry := [
  ⟨"utf_8", "cp65001 u8 utf utf8 utf8_ucs2 utf8_ucs4", .utf8⟩,
  ⟨"utf_8_sig", "", .utf8Marked⟩,
  ⟨"utf_16", "u16 utf16", .utf16 none⟩,
  ⟨"utf_16_le", "unicodelittleunmarked utf_16le", .utf16 (some false)⟩,
  ⟨"utf_16_be", "unicodebigunmarked utf_16be", .utf16 (some true)⟩,
  ⟨"utf_32", "u32 utf32", .utf32 none⟩,
  ⟨"utf_32_le", "utf_32le", .utf32 (some false)⟩,
  ⟨"utf_32_be", "utf_32be", .utf32 (some true)⟩,
  ⟨"utf_7", "u7 unicode_1_1_utf_7 utf7", .utf7⟩,
  ⟨"charmap latin_1",
    "8859 cp819 csisolatin1 ibm819 iso8859 iso8859_1 iso_8859_1 iso_8859_1_1987" ++
      " iso_ir_100 l1 latin latin1", .latin1⟩,
  ⟨"ascii",
    "646 ansi_x3.4_1968 ansi_x3.4_1986 ansi_x3_4_1968 cp367 csascii ibm367 iso646_us" ++
      " iso_646.irv_1991 iso_ir_6 us us_ascii", .ascii⟩]

/-- Names of the parts of the eight-bit standard. -/
def standard : List Entry := [
  ⟨"iso8859_2",
    "csisolatin2 iso_8859_2 iso_8859_2_1987 iso_ir_101 l2 latin2", .single Table.iso2⟩,
  ⟨"iso8859_3",
    "csisolatin3 iso_8859_3 iso_8859_3_1988 iso_ir_109 l3 latin3", .single Table.iso3⟩,
  ⟨"iso8859_4",
    "csisolatin4 iso_8859_4 iso_8859_4_1988 iso_ir_110 l4 latin4", .single Table.iso4⟩,
  ⟨"iso8859_5",
    "csisolatincyrillic cyrillic iso_8859_5 iso_8859_5_1988 iso_ir_144", .single Table.iso5⟩,
  ⟨"iso8859_6",
    "arabic asmo_708 csisolatinarabic ecma_114 iso_8859_6 iso_8859_6_1987 iso_ir_127",
    .single Table.iso6⟩,
  ⟨"iso8859_7",
    "csisolatingreek ecma_118 elot_928 greek greek8 iso_8859_7 iso_8859_7_1987" ++
      " iso_ir_126", .single Table.iso7⟩,
  ⟨"iso8859_8",
    "csisolatinhebrew hebrew iso_8859_8 iso_8859_8_1988 iso_ir_138", .single Table.iso8⟩,
  ⟨"iso8859_9",
    "csisolatin5 iso_8859_9 iso_8859_9_1989 iso_ir_148 l5 latin5", .single Table.iso9⟩,
  ⟨"iso8859_10",
    "csisolatin6 iso_8859_10 iso_8859_10_1992 iso_ir_157 l6 latin6", .single Table.iso10⟩,
  ⟨"iso8859_11", "iso_8859_11 iso_8859_11_2001 thai", .single Table.iso11⟩,
  ⟨"iso8859_13", "iso_8859_13 l7 latin7", .single Table.iso13⟩,
  ⟨"iso8859_14",
    "iso_8859_14 iso_8859_14_1998 iso_celtic iso_ir_199 l8 latin8", .single Table.iso14⟩,
  ⟨"iso8859_15", "iso_8859_15 l9 latin9", .single Table.iso15⟩,
  ⟨"iso8859_16", "iso_8859_16 iso_8859_16_2001 iso_ir_226 l10 latin10", .single Table.iso16⟩,
  ⟨"tis_620", "iso_ir_166 tis620 tis_620_0 tis_620_2529_0 tis_620_2529_1", .single Table.thai⟩]

/-- Names of code pages. -/
def pages : List Entry := [
  ⟨"cp037",
    "037 csibm037 ebcdic_cp_ca ebcdic_cp_nl ebcdic_cp_us ebcdic_cp_wt ibm037 ibm039",
    .single Table.cp037⟩,
  ⟨"cp273", "273 csibm273 ibm273", .single Table.cp273⟩,
  ⟨"cp424", "424 csibm424 ebcdic_cp_he ibm424", .single Table.cp424⟩,
  ⟨"cp437", "437 cspc8codepage437 ibm437", .single Table.cp437⟩,
  ⟨"cp500", "500 csibm500 ebcdic_cp_be ebcdic_cp_ch ibm500", .single Table.cp500⟩,
  ⟨"cp720", "", .single Table.cp720⟩,
  ⟨"cp737", "", .single Table.cp737⟩,
  ⟨"cp775", "775 cspc775baltic ibm775", .single Table.cp775⟩,
  ⟨"cp850", "850 cspc850multilingual ibm850", .single Table.cp850⟩,
  ⟨"cp852", "852 cspcp852 ibm852", .single Table.cp852⟩,
  ⟨"cp855", "855 csibm855 ibm855", .single Table.cp855⟩,
  ⟨"cp856", "", .single Table.cp856⟩,
  ⟨"cp857", "857 csibm857 ibm857", .single Table.cp857⟩,
  ⟨"cp858", "858 csibm858 ibm858", .single Table.cp858⟩,
  ⟨"cp860", "860 csibm860 ibm860", .single Table.cp860⟩,
  ⟨"cp861", "861 cp_is csibm861 ibm861", .single Table.cp861⟩,
  ⟨"cp862", "862 cspc862latinhebrew ibm862", .single Table.cp862⟩,
  ⟨"cp863", "863 csibm863 ibm863", .single Table.cp863⟩,
  ⟨"cp864", "864 csibm864 ibm864", .single Table.cp864⟩,
  ⟨"cp865", "865 csibm865 ibm865", .single Table.cp865⟩,
  ⟨"cp866", "866 csibm866 ibm866", .single Table.cp866⟩,
  ⟨"cp869", "869 cp_gr csibm869 ibm869", .single Table.cp869⟩,
  ⟨"cp874", "", .single Table.cp874⟩,
  ⟨"cp875", "", .single Table.cp875⟩,
  ⟨"cp1006", "", .single Table.cp1006⟩,
  ⟨"cp1026", "1026 csibm1026 ibm1026", .single Table.cp1026⟩,
  ⟨"cp1125", "1125 cp866u ibm1125 ruscii", .single Table.cp1125⟩,
  ⟨"cp1140", "1140 ibm1140", .single Table.cp1140⟩,
  ⟨"cp1250", "1250 windows_1250", .single Table.cp1250⟩,
  ⟨"cp1251", "1251 windows_1251", .single Table.cp1251⟩,
  ⟨"cp1252", "1252 windows_1252", .single Table.cp1252⟩,
  ⟨"cp1253", "1253 windows_1253", .single Table.cp1253⟩,
  ⟨"cp1254", "1254 windows_1254", .single Table.cp1254⟩,
  ⟨"cp1255", "1255 windows_1255", .single Table.cp1255⟩,
  ⟨"cp1256", "1256 windows_1256", .single Table.cp1256⟩,
  ⟨"cp1257", "1257 windows_1257", .single Table.cp1257⟩,
  ⟨"cp1258", "1258 windows_1258", .single Table.cp1258⟩]

/-- Names of other sets in one octet. -/
def others : List Entry := [
  ⟨"koi8_r", "cskoi8r", .single Table.koi8r⟩,
  ⟨"koi8_t", "", .single Table.koi8t⟩,
  ⟨"koi8_u", "", .single Table.koi8u⟩,
  ⟨"kz1048", "kz_1048 rk1048 strk1048_2002", .single Table.kz1048⟩,
  ⟨"palmos", "", .single Table.palmos⟩,
  ⟨"hp_roman8", "cp1051 ibm1051 r8 roman8", .single Table.roman8⟩,
  ⟨"ptcp154", "cp154 csptcp154 cyrillic_asian pt154", .single Table.ptcp154⟩,
  ⟨"mac_farsi", "", .single Table.macFarsi⟩,
  ⟨"mac_greek", "macgreek", .single Table.macGreek⟩,
  ⟨"mac_roman", "macintosh macroman", .single Table.macRoman⟩,
  ⟨"mac_arabic", "", .single Table.macArabic⟩,
  ⟨"mac_latin2", "mac_centeuro maccentraleurope maclatin2", .single Table.macLatin2⟩,
  ⟨"mac_iceland", "maciceland", .single Table.macIceland⟩,
  ⟨"mac_turkish", "macturkish", .single Table.macTurkish⟩,
  ⟨"mac_croatian", "", .single Table.macCroatian⟩,
  ⟨"mac_cyrillic", "maccyrillic", .single Table.macCyrillic⟩,
  ⟨"mac_romanian", "", .single Table.macRomanian⟩]

/-- Names of the sets in several octets and with escape sequences. -/
def eastern : List Entry := [
  ⟨"euc_kr",
    "euckr korean ks_c_5601 ks_c_5601_1987 ks_x_1001 ksc5601 ksx1001 x_mac_korean", .wide .korean⟩,
  ⟨"cp949", "949 ms949 uhc", .wide .koreanPairs⟩,
  ⟨"johab", "cp1361 ms1361", .wide .johab⟩,
  ⟨"gb2312",
    "chinese csiso58gb231280 euc_cn euccn eucgb2312_cn gb2312_1980 gb2312_80" ++
      " iso_ir_58 x_mac_simp_chinese", .wide .chinese⟩,
  ⟨"gbk", "936 cp936 ms936", .wide .chinesePairs⟩,
  ⟨"gb18030", "gb18030_2000", .wide .chineseFours⟩,
  ⟨"big5", "big5_tw csbig5 x_mac_trad_chinese", .wide .big5⟩,
  ⟨"cp950", "950 ms950", .wide .big5Changed⟩,
  ⟨"big5hkscs", "big5_hkscs hkscs", .wide .hongKong⟩,
  ⟨"shift_jis", "csshiftjis s_jis shiftjis sjis x_mac_japanese", .wide .shifted⟩,
  ⟨"cp932", "932 ms932 ms_kanji mskanji", .wide .shiftedPairs⟩,
  ⟨"shift_jisx0213", "s_jisx0213 shiftjisx0213 sjisx0213", .wide (.shiftedExtended false)⟩,
  ⟨"shift_jis_2004", "s_jis_2004 shiftjis2004 sjis_2004", .wide (.shiftedExtended true)⟩,
  ⟨"euc_jp", "eucjp u_jis ujis", .wide .japanese⟩,
  ⟨"euc_jisx0213", "eucjisx0213", .wide (.japaneseExtended false)⟩,
  ⟨"euc_jis_2004", "euc_jis2004 eucjis2004 jisx0213", .wide (.japaneseExtended true)⟩,
  ⟨"iso2022_kr", "csiso2022kr iso2022kr iso_2022_kr", .switching .korean⟩,
  ⟨"iso2022_jp", "csiso2022jp iso2022jp iso_2022_jp", .switching .japanese⟩,
  ⟨"iso2022_jp_1", "iso2022jp_1 iso_2022_jp_1", .switching .japanese1⟩,
  ⟨"iso2022_jp_2", "iso2022jp_2 iso_2022_jp_2", .switching .japanese2⟩,
  ⟨"iso2022_jp_3", "iso2022jp_3 iso_2022_jp_3", .switching .japanese3⟩,
  ⟨"iso2022_jp_2004", "iso2022jp_2004 iso_2022_jp_2004", .switching .japanese2004⟩,
  ⟨"iso2022_jp_ext", "iso2022jp_ext iso_2022_jp_ext", .switching .japaneseNarrow⟩,
  ⟨"hz", "hz_gb hz_gb_2312 hzgb", .tilde⟩]

/-- Names of what is no set of characters in the usual sense. -/
def special : List Entry := [
  ⟨"unicode_escape", "", .escaped false⟩,
  ⟨"raw_unicode_escape", "", .escaped true⟩,
  ⟨"punycode", "", .punycode⟩,
  ⟨"idna undefined", "", .refused .undefined⟩,
  ⟨"rot_13", "rot13", .refused .textOnly⟩,
  ⟨"base64_codec bz2_codec hex_codec quopri_codec uu_codec zlib_codec",
    "base64 base_64 bz2 hex quopri quoted_printable quotedprintable uu zip zlib",
    .refused .octetsOnly⟩]

/-- All names. -/
def entries : List Entry :=
  universal ++ standard ++ pages ++ others ++ eastern ++ special

/-- A name in the form in which names are compared, given whether a sign precedes and whether
anything has been kept. -/
def plainName (sign kept : Bool) : List Char → List Char
  | [] => []
  | c :: rest =>
    if c.isAlphanum || c == '.' then
      (if sign && kept then ['_'] else []) ++ c.toLower :: plainName false true rest
    else plainName true kept rest

/-- Whether a name is among those in a text. -/
def isAmong (names : String) (name : List Char) : Bool :=
  (Text.pieces (· == ' ') names.toList).contains name

/-- The character set of a name, if it is known. -/
def ofName? (name : List Char) : Option Charset :=
  let plain := plainName false false name
  let pointless := plain.map fun c => if c == '.' then '_' else c
  if plain.isEmpty then none
  else
    (entries.find? fun e =>
      isAmong e.names plain || isAmong e.further plain || isAmong e.further pointless).map
        Entry.charset

end SearchAnnotation.Encoding.Charset
