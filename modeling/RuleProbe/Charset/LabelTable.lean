/-!
# Labels of charsets

The names under which charsets are known, each charset ending in a semicolon.  The first
name of a charset is the one that it goes by.
-/

namespace RuleProbe

namespace Charset

/-- The names of the charsets. -/
def labelRows : String := "utf_8_sig ;
undefined ;
punycode ;
idna ;
utf_8 cp65001 u8 utf utf8 utf8_ucs2 utf8_ucs4 ;
ascii 646 ansi_x3.4_1968 ansi_x3.4_1986 ansi_x3_4_1968 cp367 csascii ibm367 iso646_us
iso_646.irv_1991 iso_ir_6 us us_ascii ;
latin_1 8859 cp819 csisolatin1 ibm819 iso8859 iso8859_1 iso_8859_1 iso_8859_1_1987 iso_ir_100 l1
latin latin1 ;
utf_16 u16 utf16 ;
utf_16_le unicodelittleunmarked utf_16le ;
utf_16_be unicodebigunmarked utf_16be ;
gbk 936 cp936 ms936 ;
gb2312 chinese csiso58gb231280 euc_cn euccn eucgb2312_cn gb2312_1980 gb2312_80 iso_ir_58 ;
gb18030 gb18030_2000 ;
big5 big5_tw csbig5 x_mac_trad_chinese big5hkscs big5_hkscs hkscs cp950 950 ms950 ;
euc_kr euckr korean ks_c_5601 ks_c_5601_1987 ks_x_1001 ksc5601 ksx1001 x_mac_korean cp949 949
ms949 uhc ;
euc_jp eucjp u_jis ujis ;
shift_jis csshiftjis s_jis shiftjis sjis x_mac_japanese cp932 932 ms932 mskanji ms_kanji
windows_31j ;
iso8859_2 csisolatin2 iso_8859_2 iso_8859_2_1987 iso_ir_101 l2 latin2 ;
iso8859_3 csisolatin3 iso_8859_3 iso_8859_3_1988 iso_ir_109 l3 latin3 ;
iso8859_4 csisolatin4 iso_8859_4 iso_8859_4_1988 iso_ir_110 l4 latin4 ;
iso8859_5 csisolatincyrillic cyrillic iso_8859_5 iso_8859_5_1988 iso_ir_144 ;
iso8859_6 arabic asmo_708 csisolatinarabic ecma_114 iso_8859_6 iso_8859_6_1987 iso_ir_127 ;
iso8859_7 csisolatingreek ecma_118 elot_928 greek greek8 iso_8859_7 iso_8859_7_1987 iso_ir_126 ;
iso8859_8 csisolatinhebrew hebrew iso_8859_8 iso_8859_8_1988 iso_ir_138 ;
iso8859_9 csisolatin5 iso_8859_9 iso_8859_9_1989 iso_ir_148 l5 latin5 ;
iso8859_10 csisolatin6 iso_8859_10 iso_8859_10_1992 iso_ir_157 l6 latin6 ;
iso8859_11 iso_8859_11 iso_8859_11_2001 thai ;
iso8859_13 iso_8859_13 l7 latin7 ;
iso8859_14 iso_8859_14 iso_8859_14_1998 iso_celtic iso_ir_199 l8 latin8 ;
iso8859_15 iso_8859_15 l9 latin9 ;
iso8859_16 iso_8859_16 iso_8859_16_2001 iso_ir_226 l10 latin10 ;
cp1250 1250 windows_1250 ;
cp1251 1251 windows_1251 ;
cp1252 1252 windows_1252 ;
cp1253 1253 windows_1253 ;
cp1254 1254 windows_1254 ;
cp1255 1255 windows_1255 ;
cp1256 1256 windows_1256 ;
cp1257 1257 windows_1257 ;
cp1258 1258 windows_1258 ;
koi8_r cskoi8r ;
koi8_u ;
cp437 437 cspc8codepage437 ibm437 ;
cp850 850 cspc850multilingual ibm850 ;
cp852 852 cspcp852 ibm852 ;
cp866 866 csibm866 ibm866 ;
cp874 ;"

end Charset

end RuleProbe
