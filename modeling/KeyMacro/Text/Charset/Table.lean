import KeyMacro.Text.Charset

/-!
# The known character sets

The character sets of ASCII, of the international standard for eight bits, and
of various systems and vendors, together with the names of encodings of other
kinds.
-/

namespace KeyMacro.Text

/-- The known character sets. Some encodings are known by their bytes below 128
    only. -/
def charsets : List Charset :=
  [.ascii, .latin1,
   { names := ["cp65001", "csiso2022jp", "hz", "hz_gb", "hz_gb_2312", "hzgb",
       "iso2022_jp", "iso2022_jp_1", "iso2022_jp_2", "iso2022_jp_2004", "iso2022_jp_3",
       "iso2022_jp_ext", "iso2022jp", "iso2022jp_1", "iso2022jp_2", "iso2022jp_2004",
       "iso2022jp_3", "iso2022jp_ext", "iso_2022_jp", "iso_2022_jp_1", "iso_2022_jp_2",
       "iso_2022_jp_2004", "iso_2022_jp_3", "iso_2022_jp_ext", "u8", "utf", "utf8", "utf8_ucs2",
       "utf8_ucs4", "utf_8", "utf_8_sig"],
     rows := [gap 128] },
   { names := ["charmap", "raw_unicode_escape", "unicode_escape"],
     rows := [run 0x80 128] },
   { names := ["iso8859_2", "csisolatin2", "iso_8859_2", "iso_8859_2_1987", "iso_ir_101",
       "l2", "latin2"],
     rows := [run 0x80 33,
       "Ą˘Ł¤ĽŚ§¨ŠŞŤŹ\u00adŽŻ°ą˛ł´ľś\u02c7¸šşťź˝žżŔÁÂĂÄĹĆÇČÉĘËĚÍÎĎĐŃŇÓÔŐÖ",
       "×ŘŮÚŰÜÝŢßŕáâăäĺćçčéęëěíîďđńňóôőö÷řůúűüýţ˙"] },
   { names := ["iso8859_3", "csisolatin3", "iso_8859_3", "iso_8859_3_1988", "iso_ir_109",
       "l3", "latin3"],
     rows := [run 0x80 33, "Ħ˘£¤�Ĥ§¨İŞĞĴ\u00ad�Ż°ħ²³´µĥ·¸ışğĵ½�żÀÁÂ�ÄĊĈ", run 0xC7 9,
       "�ÑÒÓÔĠÖ×ĜÙÚÛÜŬŜßàáâ�äċĉ", run 0xE7 9, "�ñòóôġö÷ĝùúûüŭŝ˙"] },
   { names := ["iso8859_4", "csisolatin4", "iso_8859_4", "iso_8859_4_1988", "iso_ir_110",
       "l4", "latin4"],
     rows := [run 0x80 33,
       "ĄĸŖ¤ĨĻ§¨ŠĒĢŦ\u00adŽ¯°ą˛ŗ´ĩļ\u02c7¸šēģŧŊžŋĀÁÂÃÄÅÆĮČÉĘËĖÍÎĪĐŅŌĶÔÕÖ",
       "×ØŲÚÛÜŨŪßāáâãäåæįčéęëėíîīđņōķôõö÷øųúûüũū˙"] },
   { names := ["iso8859_5", "csisolatincyrillic", "cyrillic", "iso_8859_5",
       "iso_8859_5_1988", "iso_ir_144"],
     rows := [run 0x80 33, run 0x401 12, "\u00ad", run 0x40E 66, "№", run 0x451 12, "§ўџ"] },
   { names := ["iso8859_6", "arabic", "asmo_708", "csisolatinarabic", "ecma_114",
       "iso_8859_6", "iso_8859_6_1987", "iso_ir_127"],
     rows := [run 0x80 33, "���¤�������،\u00ad", gap 13, "\u061b���\u061f�",
       run 0x621 26, "�����", run 0x640 19, gap 13] },
   { names := ["iso8859_7", "csisolatingreek", "ecma_118", "elot_928", "greek", "greek8",
       "iso_8859_7", "iso_8859_7_1987", "iso_ir_126"],
     rows := [run 0x80 33, "‘’£€₯¦§¨©\u037a«¬\u00ad�―°±²³΄΅Ά·ΈΉΊ»Ό½", run 0x38E 20, "�",
       run 0x3A3 44, "�"] },
   { names := ["iso8859_8", "csisolatinhebrew", "hebrew", "iso_8859_8", "iso_8859_8_1988",
       "iso_ir_138"],
     rows := [run 0x80 33, "�", run 0xA2 8, "×", run 0xAB 15, "÷»¼½¾", gap 32, "‗",
       run 0x5D0 27, "��\u200e\u200f�"] },
   { names := ["iso8859_9", "csisolatin5", "iso_8859_9", "iso_8859_9_1989", "iso_ir_148",
       "l5", "latin5"],
     rows := [run 0x80 80, "Ğ", run 0xD1 12, "İŞ", run 0xDF 17, "ğ", run 0xF1 12, "ışÿ"] },
   { names := ["iso8859_10", "csisolatin6", "iso_8859_10", "iso_8859_10_1992",
       "iso_ir_157", "l6", "latin6"],
     rows := [run 0x80 33,
       "ĄĒĢĪĨĶ§ĻĐŠŦŽ\u00adŪŊ°ąēģīĩķ·ļđšŧž―ūŋĀÁÂÃÄÅÆĮČÉĘËĖÍÎÏÐŅŌÓÔÕÖŨØŲÚÛ",
       "ÜÝÞßāáâãäåæįčéęëėíîïðņōóôõöũøųúûüýþĸ"] },
   { names := ["iso8859_11", "iso_8859_11", "iso_8859_11_2001", "thai"],
     rows := [run 0x80 33, run 0xE01 58, "����", run 0xE3F 29, "����"] },
   { names := ["iso8859_13", "iso_8859_13", "l7", "latin7"],
     rows := [run 0x80 33,
       "”¢£¤„¦§Ø©Ŗ«¬\u00ad®Æ°±²³“µ¶·ø¹ŗ»¼½¾æĄĮĀĆÄÅĘĒČÉŹĖĢĶĪĻŠŃŅÓŌÕÖ×ŲŁŚŪ",
       "ÜŻŽßąįāćäåęēčéźėģķīļšńņóōõö÷ųłśūüżž’"] },
   { names := ["iso8859_14", "iso_8859_14", "iso_8859_14_1998", "iso_celtic",
       "iso_ir_199", "l8", "latin8"],
     rows := [run 0x80 33, "Ḃḃ£ĊċḊ§Ẁ©ẂḋỲ\u00ad®ŸḞḟĠġṀṁ¶ṖẁṗẃṠỳẄẅṡ", run 0xC0 16,
       "ŴÑÒÓÔÕÖṪØÙÚÛÜÝŶ", run 0xDF 17, "ŵñòóôõöṫøùúûüýŷÿ"] },
   { names := ["iso8859_15", "iso_8859_15", "l9", "latin9"],
     rows := [run 0x80 36, "€¥Š§š", run 0xA9 11, "Žµ¶·ž¹º»ŒœŸ", run 0xBF 65] },
   { names := ["iso8859_16", "iso_8859_16", "iso_8859_16_2001", "iso_ir_226", "l10",
       "latin10"],
     rows := [run 0x80 33, "ĄąŁ€„Š§š©Ș«Ź\u00adźŻ°±ČłŽ”¶·žčș»ŒœŸżÀÁÂĂÄĆ", run 0xC6 10,
       "ĐŃÒÓÔŐÖŚŰÙÚÛÜĘȚßàáâăäć", run 0xE6 10, "đńòóôőöśűùúûüęțÿ"] },
   { names := ["cp1250", "windows_1250"],
     rows := ["€�‚�„…†‡�‰Š‹ŚŤŽŹ�‘’“”•–—�™š›śťžź\u00a0\u02c7˘Ł¤Ą¦§¨©Ş«¬\u00ad®Ż°",
       "±˛ł´µ¶·¸ąş»Ľ˝ľżŔÁÂĂÄĹĆÇČÉĘËĚÍÎĎĐŃŇÓÔŐÖ×ŘŮÚŰÜÝŢßŕáâăäĺćçčéęëěíîďđ", "ńňóôőö÷řůúűüýţ˙"] },
   { names := ["cp1251", "windows_1251"],
     rows := ["ЂЃ‚ѓ„…†‡€‰Љ‹ЊЌЋЏђ‘’“”•–—�™љ›њќћџ\u00a0ЎўЈ¤Ґ¦§Ё©Є«¬\u00ad®Ї°±Ііґµ",
       "¶·ё№є»јЅѕї", run 0x410 64] },
   { names := ["cp1252", "windows_1252"],
     rows := ["€�‚ƒ„…†‡\u02c6‰Š‹Œ�Ž��‘’“”•–—˜™š›œ�žŸ", run 0xA0 96] },
   { names := ["cp1253", "windows_1253"],
     rows := ["€�‚ƒ„…†‡�‰�‹�����‘’“”•–—�™�›����\u00a0΅Ά£¤¥¦§¨©�«¬\u00ad®―°±²³΄µ",
       "¶·ΈΉΊ»Ό½", run 0x38E 20, "�", run 0x3A3 44, "�"] },
   { names := ["cp1254", "windows_1254"],
     rows := ["€�‚ƒ„…†‡\u02c6‰Š‹Œ����‘’“”•–—˜™š›œ��Ÿ", run 0xA0 48, "Ğ", run 0xD1 12,
       "İŞ", run 0xDF 17, "ğ", run 0xF1 12, "ışÿ"] },
   { names := ["cp1255", "windows_1255"],
     rows := ["€�‚ƒ„…†‡\u02c6‰�‹�����‘’“”•–—˜™�›����\u00a0¡¢£₪¥¦§¨©×", run 0xAB 15,
       "÷»¼½¾¿", run 0x5B0 10, "�", run 0x5BB 9, "\u05f0\u05f1\u05f2\u05f3\u05f4�������",
       run 0x5D0 27, "��\u200e\u200f�"] },
   { names := ["cp1256", "windows_1256"],
     rows := ["€\u067e‚ƒ„…†‡\u02c6‰\u0679‹Œ\u0686\u0698\u0688\u06af‘’“”•–—\u06a9",
       "™\u0691›œ\u200c\u200d\u06ba\u00a0،", run 0xA2 8, "\u06be", run 0xAB 15,
       "\u061b»¼½¾\u061f\u06c1", run 0x621 22,
       "×\u0637\u0638\u0639\u063a\u0640\u0641\u0642\u0643à\u0644â\u0645\u0646",
       "\u0647\u0648çèéêë\u0649\u064aîï\u064b\u064c\u064d\u064eô\u064f\u0650",
       "÷\u0651ù\u0652ûü\u200e\u200f\u06d2"] },
   { names := ["cp1257", "windows_1257"],
     rows := ["€�‚�„…†‡�‰�‹�¨\u02c7¸�‘’“”•–—�™�›�¯˛�\u00a0�¢£¤�¦§Ø©Ŗ«¬\u00ad®Æ",
       run 0xB0 8, "ø¹ŗ»¼½¾æĄĮĀĆÄÅĘĒČÉŹĖĢĶĪĻŠŃŅÓŌÕÖ×ŲŁŚŪÜŻŽßąįāćäåęēčéźėģķīļšńņóōõö÷",
       "ųłśūüżž˙"] },
   { names := ["cp1258", "windows_1258"],
     rows := ["€�‚ƒ„…†‡\u02c6‰�‹Œ����‘’“”•–—˜™�›œ��Ÿ", run 0xA0 35, "Ă", run 0xC4 8,
       "\u0300ÍÎÏĐÑ\u0309ÓÔƠÖ×ØÙÚÛÜƯ\u0303ßàáâă", run 0xE4 8, "\u0301íîïđñ\u0323óôơö÷øùúûüư₫ÿ"] },
   { names := ["cp154", "csptcp154", "cyrillic_asian", "pt154", "ptcp154"],
     rows := ["ҖҒӮғ„…ҶҮҲүҠӢҢҚҺҸҗ‘’“”•–—ҳҷҡӣңқһҹ\u00a0ЎўЈӨҘҰ§Ё©Ә«¬ӯ®Ҝ°ұІіҙө¶·ё№ә",
       "»јҪҫҝ", run 0x410 64] },
   { names := ["cp437", "cspc8codepage437", "ibm437"],
     rows := ["ÇüéâäàåçêëèïîìÄÅÉæÆôöòûùÿÖÜ¢£¥₧ƒáíóúñÑªº¿⌐¬½¼¡«»░▒▓│┤╡╢╖╕╣║╗╝╜╛┐",
       "└┴┬├─┼╞╟╚╔╩╦╠═╬╧╨╤╥╙╘╒╓╫╪┘┌█▄▌▐▀αßΓπΣσµτΦΘΩδ∞φε∩≡±≥≤⌠⌡÷≈°∙·√\u207f", "²■\u00a0"] },
   { names := ["cp720"],
     rows := ["\u0080\u0081éâ\u0084à\u0086çêëèïî\u008d\u008e\u008f\u0090\u0651\u0652",
       "ô¤\u0640ûù\u0621\u0622\u0623\u0624£", run 0x625 17,
       "«»░▒▓│┤╡╢╖╕╣║╗╝╜╛┐└┴┬├─┼╞╟╚╔╩╦╠═╬╧╨╤╥╙╘╒╓╫╪┘┌█▄▌▐▀\u0636\u0637\u0638",
       "\u0639\u063a\u0641µ", run 0x642 9,
       "≡\u064b\u064c\u064d\u064e\u064f\u0650≈°∙·√\u207f²■\u00a0"] },
   { names := ["cp737"],
     rows := [run 0x391 17, "ΣΤΥΦΧΨΩ", run 0x3B1 17,
       "σςτυφχψ░▒▓│┤╡╢╖╕╣║╗╝╜╛┐└┴┬├─┼╞╟╚╔╩╦╠═╬╧╨╤╥╙╘╒╓╫╪┘┌█▄▌▐▀ωάέήϊίόύϋ",
       "ώΆΈΉΊΌΎΏ±≥≤ΪΫ÷≈°∙·√\u207f²■\u00a0"] },
   { names := ["cp775", "cspc775baltic", "ibm775"],
     rows := ["ĆüéāäģåćłēŖŗīŹÄÅÉæÆōöĢ¢ŚśÖÜø£Ø×¤ĀĪóŻżź”¦©®¬½¼Ł«»░▒▓│┤ĄČĘĖ╣║╗╝ĮŠ┐",
       "└┴┬├─┼ŲŪ╚╔╩╦╠═╬Žąčęėįšųūž┘┌█▄▌▐▀ÓßŌŃõÕµńĶķĻļņĒŅ’\u00ad±“¾¶§÷„°∙·", "¹³²■\u00a0"] },
   { names := ["cp850", "cspc850multilingual", "ibm850"],
     rows := ["ÇüéâäàåçêëèïîìÄÅÉæÆôöòûùÿÖÜø£Ø×ƒáíóúñÑªº¿®¬½¼¡«»░▒▓│┤ÁÂÀ©╣║╗╝¢¥┐",
       "└┴┬├─┼ãÃ╚╔╩╦╠═╬¤ðÐÊËÈıÍÎÏ┘┌█▄¦Ì▀ÓßÔÒõÕµþÞÚÛÙýÝ¯´\u00ad±‗¾¶§÷¸°¨·", "¹³²■\u00a0"] },
   { names := ["cp852", "cspcp852", "ibm852"],
     rows := ["ÇüéâäůćçłëŐőîŹÄĆÉĹĺôöĽľŚśÖÜŤťŁ×čáíóúĄąŽžĘę¬źČş«»░▒▓│┤ÁÂĚŞ╣║╗╝Żż┐",
       "└┴┬├─┼Ăă╚╔╩╦╠═╬¤đĐĎËďŇÍÎě┘┌█▄ŢŮ▀ÓßÔŃńňŠšŔÚŕŰýÝţ´\u00ad˝˛\u02c7˘§", "÷¸°¨˙űŘř■\u00a0"] },
   { names := ["cp855", "csibm855", "ibm855"],
     rows := ["ђЂѓЃёЁєЄѕЅіІїЇјЈљЉњЊћЋќЌўЎџЏюЮъЪаАбБцЦдДеЕфФгГ«»░▒▓│┤хХиИ╣║╗╝йЙ┐",
       "└┴┬├─┼кК╚╔╩╦╠═╬¤лЛмМнНоОп┘┌█▄Пя▀ЯрРсСтТуУжЖвВьЬ№\u00adыЫзЗшШэЭщЩ", "чЧ§■\u00a0"] },
   { names := ["cp856"],
     rows := [run 0x5D0 27, "�£�×", gap 10, "®¬½¼�«»░▒▓│┤���©╣║╗╝¢¥┐└┴┬├─┼��╚╔╩╦╠═╬¤",
       gap 9, "┘┌█▄¦�▀������µ�������¯´\u00ad±‗¾¶§÷¸°¨·¹³²■\u00a0"] },
   { names := ["cp857", "csibm857", "ibm857"],
     rows := ["ÇüéâäàåçêëèïîıÄÅÉæÆôöòûùİÖÜø£ØŞşáíóúñÑĞğ¿®¬½¼¡«»░▒▓│┤ÁÂÀ©╣║╗╝¢¥┐",
       "└┴┬├─┼ãÃ╚╔╩╦╠═╬¤ºªÊËÈ�ÍÎÏ┘┌█▄¦Ì▀ÓßÔÒõÕµ�×ÚÛÙìÿ¯´\u00ad±�¾¶§÷¸°¨·", "¹³²■\u00a0"] },
   { names := ["cp858", "csibm858", "ibm858"],
     rows := ["ÇüéâäàåçêëèïîìÄÅÉæÆôöòûùÿÖÜø£Ø×ƒáíóúñÑªº¿®¬½¼¡«»░▒▓│┤ÁÂÀ©╣║╗╝¢¥┐",
       "└┴┬├─┼ãÃ╚╔╩╦╠═╬¤ðÐÊËÈ€ÍÎÏ┘┌█▄¦Ì▀ÓßÔÒõÕµþÞÚÛÙýÝ¯´\u00ad±‗¾¶§÷¸°¨·", "¹³²■\u00a0"] },
   { names := ["cp860", "csibm860", "ibm860"],
     rows := ["ÇüéâãàÁçêÊèÍÔìÃÂÉÀÈôõòÚùÌÕÜ¢£Ù₧ÓáíóúñÑªº¿Ò¬½¼¡«»░▒▓│┤╡╢╖╕╣║╗╝╜╛┐",
       "└┴┬├─┼╞╟╚╔╩╦╠═╬╧╨╤╥╙╘╒╓╫╪┘┌█▄▌▐▀αßΓπΣσµτΦΘΩδ∞φε∩≡±≥≤⌠⌡÷≈°∙·√\u207f", "²■\u00a0"] },
   { names := ["cp861", "cp_is", "csibm861", "ibm861"],
     rows := ["ÇüéâäàåçêëèÐðÞÄÅÉæÆôöþûÝýÖÜø£Ø₧ƒáíóúÁÍÓÚ¿⌐¬½¼¡«»░▒▓│┤╡╢╖╕╣║╗╝╜╛┐",
       "└┴┬├─┼╞╟╚╔╩╦╠═╬╧╨╤╥╙╘╒╓╫╪┘┌█▄▌▐▀αßΓπΣσµτΦΘΩδ∞φε∩≡±≥≤⌠⌡÷≈°∙·√\u207f", "²■\u00a0"] },
   { names := ["cp862", "cspc862latinhebrew", "ibm862"],
     rows := [run 0x5D0 27,
       "¢£¥₧ƒáíóúñÑªº¿⌐¬½¼¡«»░▒▓│┤╡╢╖╕╣║╗╝╜╛┐└┴┬├─┼╞╟╚╔╩╦╠═╬╧╨╤╥╙╘╒╓╫╪┘┌",
       "█▄▌▐▀αßΓπΣσµτΦΘΩδ∞φε∩≡±≥≤⌠⌡÷≈°∙·√\u207f²■\u00a0"] },
   { names := ["cp863", "csibm863", "ibm863"],
     rows := ["ÇüéâÂà¶çêëèïî‗À§ÉÈÊôËÏûù¤ÔÜ¢£ÙÛƒ¦´óú¨¸³¯Î⌐¬½¼¾«»░▒▓│┤╡╢╖╕╣║╗╝╜╛┐",
       "└┴┬├─┼╞╟╚╔╩╦╠═╬╧╨╤╥╙╘╒╓╫╪┘┌█▄▌▐▀αßΓπΣσµτΦΘΩδ∞φε∩≡±≥≤⌠⌡÷≈°∙·√\u207f", "²■\u00a0"] },
   { names := ["cp865", "csibm865", "ibm865"],
     rows := ["ÇüéâäàåçêëèïîìÄÅÉæÆôöòûùÿÖÜø£Ø₧ƒáíóúñÑªº¿⌐¬½¼¡«¤░▒▓│┤╡╢╖╕╣║╗╝╜╛┐",
       "└┴┬├─┼╞╟╚╔╩╦╠═╬╧╨╤╥╙╘╒╓╫╪┘┌█▄▌▐▀αßΓπΣσµτΦΘΩδ∞φε∩≡±≥≤⌠⌡÷≈°∙·√\u207f", "²■\u00a0"] },
   { names := ["cp866", "csibm866", "ibm866"],
     rows := [run 0x410 48, "░▒▓│┤╡╢╖╕╣║╗╝╜╛┐└┴┬├─┼╞╟╚╔╩╦╠═╬╧╨╤╥╙╘╒╓╫╪┘┌█▄▌▐▀",
       run 0x440 16, "ЁёЄєЇїЎў°∙·√№¤■\u00a0"] },
   { names := ["cp869", "cp_gr", "csibm869", "ibm869"],
     rows := ["������Ά�·¬¦‘’Έ―ΉΊΪΌ��ΎΫ©Ώ²³ά£έήίϊΐόύΑΒΓΔΕΖΗ½ΘΙ«»░▒▓│┤ΚΛΜΝ╣║╗╝ΞΟ┐",
       "└┴┬├─┼ΠΡ╚╔╩╦╠═╬ΣΤΥΦΧΨΩαβγ┘┌█▄δε▀", run 0x3B6 12, "σςτ΄\u00ad±υφχ§ψ΅°¨ωϋΰώ■\u00a0"] },
   { names := ["cp874"],
     rows := ["€����…", gap 11, "‘’“”•–—", gap 8, "\u00a0", run 0xE01 58, "����",
       run 0xE3F 29, "����"] },
   { names := ["cp1006"],
     rows := [run 0x80 33, run 0x6F0 10,
       "،\u061b\u00ad\u061f\ufe81\ufe8d\ufe8e\ufe8e\ufe8f\ufe91\ufb56\ufb58",
       "\ufe93\ufe95\ufe97\ufb66\ufb68\ufe99\ufe9b\ufe9d\ufe9f\ufb7a\ufb7c",
       "\ufea1\ufea3\ufea5\ufea7\ufea9\ufb84\ufeab\ufead\ufb8c\ufeaf\ufb8a",
       "\ufeb1\ufeb3\ufeb5\ufeb7\ufeb9\ufebb\ufebd\ufebf\ufec1\ufec5", run 0xFEC9 9,
       "\ufed3\ufed5\ufed7\ufed9\ufedb\ufb92\ufb94\ufedd\ufedf\ufee0\ufee1",
       "\ufee3\ufb9e\ufee5\ufee7\ufe85\ufeed\ufba6\ufba8\ufba9\ufbaa\ufe80",
       "\ufe89\ufe8a\ufe8b\ufef1\ufef2\ufef3\ufbb0\ufbae\ufe7c\ufe7d"] },
   { names := ["cp1051", "hp_roman8", "ibm1051", "r8", "roman8"],
     rows := [run 0x80 33,
       "ÀÂÈÊËÎÏ´\u02cb\u02c6¨˜ÙÛ₤¯Ýý°ÇçÑñ¡¿¤£¥§ƒ¢âêôûáéóúàèòùäëöüÅîØÆåíø",
       "æÄìÖÜÉïßÔÁÃãÐðÍÌÓÒÕõŠšÚŸÿÞþ·µ¶¾—¼½ªº«■»±�"] },
   { names := ["cp1125", "cp866u", "ibm1125", "ruscii"],
     rows := [run 0x410 48, "░▒▓│┤╡╢╖╕╣║╗╝╜╛┐└┴┬├─┼╞╟╚╔╩╦╠═╬╧╨╤╥╙╘╒╓╫╪┘┌█▄▌▐▀",
       run 0x440 16, "ЁёҐґЄєІіЇї·√№¤■\u00a0"] },
   { names := ["cskoi8r", "koi8_r"],
     rows := ["─│┌┐└┘├┤┬┴┼▀▄█▌▐░▒▓⌠■∙√≈≤≥\u00a0⌡°²·÷═║╒ё", run 0x2553 15, "Ё",
       run 0x2562 11, "©юабцдефгх", run 0x438 8, "ярстужвьызшэщчъЮАБЦДЕФГХ", run 0x418 8,
       "ЯРСТУЖВЬЫЗШЭЩЧЪ"] },
   { names := ["iso_ir_166", "tis620", "tis_620", "tis_620_0", "tis_620_2529_0",
       "tis_620_2529_1"],
     rows := [run 0x80 32, "�", run 0xE01 58, "����", run 0xE3F 29, "����"] },
   { names := ["koi8_t"],
     rows := ["қғ‚Ғ„…†‡�‰ҳ‹ҲҷҶ�Қ‘’“”•–—�™�›�����ӯӮё¤ӣ¦§���«¬\u00ad®�°±²Ё�Ӣ¶·�№�",
       "»���©юабцдефгх", run 0x438 8, "ярстужвьызшэщчъЮАБЦДЕФГХ", run 0x418 8, "ЯРСТУЖВЬЫЗШЭЩЧЪ"] },
   { names := ["koi8_u"],
     rows := ["─│┌┐└┘├┤┬┴┼▀▄█▌▐░▒▓⌠■∙√≈≤≥\u00a0⌡°²·÷═║╒ёє╔ії╗╘╙╚╛ґ╝╞╟╠╡ЁЄ╣ІЇ╦╧╨",
       "╩╪Ґ╬©юабцдефгх", run 0x438 8, "ярстужвьызшэщчъЮАБЦДЕФГХ", run 0x418 8, "ЯРСТУЖВЬЫЗШЭЩЧЪ"] },
   { names := ["kz1048", "kz_1048", "rk1048", "strk1048_2002"],
     rows := ["ЂЃ‚ѓ„…†‡€‰Љ‹ЊҚҺЏђ‘’“”•–—�™љ›њқһџ\u00a0ҰұӘ¤Ө¦§Ё©Ғ«¬\u00ad®Ү°±Ііөµ",
       "¶·ё№ғ»әҢңү", run 0x410 64] },
   { names := ["palmos"],
     rows := ["€\u0081‚ƒ„…†‡\u02c6‰Š‹Œ♦♣♥♠‘’“”•–—˜™š\u009bœ\u009d\u009eŸ", run 0xA0 96] },
   { names := ["mac_centeuro", "mac_latin2", "maccentraleurope", "maclatin2"],
     rows := ["ÄĀāÉĄÖÜáąČäčĆćéŹźĎíďĒēĖóėôöõúĚěü†°Ę£§•¶ß®©™ę¨≠ģĮįĪ≤≥īĶ∂∑łĻļĽľĹĺŅ",
       "ņŃ¬√ńŇ∆«»…\u00a0ňŐÕőŌ–—“”‘’÷◊ōŔŕŘ‹›řŖŗŠ‚„šŚśÁŤťÍŽžŪÓÔūŮÚůŰűŲųÝýķ", "ŻŁżĢ\u02c7"] },
   { names := ["mac_croatian"],
     rows := ["ÄÅÇÉÑÖÜáàâäãåçéèêëíìîïñóòôöõúùûü†°¢£§•¶ß®Š™´¨≠ŽØ∞±≤≥∆µ∂∑∏š∫ªºΩžø",
       "¿¡¬√ƒ≈Ć«Č…\u00a0ÀÃÕŒœĐ—“”‘’÷◊\uf8ff©⁄€‹›Æ»–·‚„‰ÂćÁčÈÍÎÏÌÓÔđÒÚÛÙı",
       "\u02c6˜¯πË˚¸Êæ\u02c7"] },
   { names := ["mac_cyrillic", "maccyrillic"],
     rows := [run 0x410 32,
       "†°Ґ£§•¶І®©™Ђђ≠Ѓѓ∞±≤≥іµґЈЄєЇїЉљЊњјЅ¬√ƒ≈∆«»…\u00a0ЋћЌќѕ–—“”‘’÷„ЎўЏ", "џ№Ёёя",
       run 0x430 31, "€"] },
   { names := ["mac_greek", "macgreek"],
     rows := ["Ä¹²É³ÖÜ΅àâä΄¨çéèêë£™îï•½‰ôö¦€ùûü†ΓΔΘΛΞΠß®©ΣΪ§≠°·Α±≤≥¥ΒΕΖΗΙΚΜΦΫΨΩ",
       "άΝ¬ΟΡ≈Τ«»…\u00a0ΥΧΆΈœ–―“”‘’÷ΉΊΌΎέήίόΏύαβψδεφγηιξκλμνοπώρστθωςχυζ", "ϊϋΐΰ\u00ad"] },
   { names := ["mac_iceland", "maciceland"],
     rows := ["ÄÅÇÉÑÖÜáàâäãåçéèêëíìîïñóòôöõúùûüÝ°¢£§•¶ß®©™´¨≠ÆØ∞±≤≥¥µ∂∑∏π∫ªºΩæø",
       "¿¡¬√ƒ≈∆«»…\u00a0ÀÃÕŒœ–—“”‘’÷◊ÿŸ⁄€ÐðÞþý·‚„‰ÂÊÁËÈÍÎÏÌÓÔ\uf8ffÒÚÛÙı",
       "\u02c6˜¯˘˙˚¸˝˛\u02c7"] },
   { names := ["mac_roman", "macintosh", "macroman"],
     rows := ["ÄÅÇÉÑÖÜáàâäãåçéèêëíìîïñóòôöõúùûü†°¢£§•¶ß®©™´¨≠ÆØ∞±≤≥¥µ∂∑∏π∫ªºΩæø",
       "¿¡¬√ƒ≈∆«»…\u00a0ÀÃÕŒœ–—“”‘’÷◊ÿŸ⁄€‹›ﬁﬂ‡·‚„‰ÂÊÁËÈÍÎÏÌÓÔ\uf8ffÒÚÛÙı",
       "\u02c6˜¯˘˙˚¸˝˛\u02c7"] },
   { names := ["mac_romanian"],
     rows := ["ÄÅÇÉÑÖÜáàâäãåçéèêëíìîïñóòôöõúùûü†°¢£§•¶ß®©™´¨≠ĂȘ∞±≤≥¥µ∂∑∏π∫ªºΩăș",
       "¿¡¬√ƒ≈∆«»…\u00a0ÀÃÕŒœ–—“”‘’÷◊ÿŸ⁄€‹›Țț‡·‚„‰ÂÊÁËÈÍÎÏÌÓÔ\uf8ffÒÚÛÙı",
       "\u02c6˜¯˘˙˚¸˝˛\u02c7"] },
   { names := ["mac_turkish", "macturkish"],
     rows := ["ÄÅÇÉÑÖÜáàâäãåçéèêëíìîïñóòôöõúùûü†°¢£§•¶ß®©™´¨≠ÆØ∞±≤≥¥µ∂∑∏π∫ªºΩæø",
       "¿¡¬√ƒ≈∆«»…\u00a0ÀÃÕŒœ–—“”‘’÷◊ÿŸĞğİıŞş‡·‚„‰ÂÊÁËÈÍÎÏÌÓÔ\uf8ffÒÚÛÙ\uf8a0",
       "\u02c6˜¯˘˙˚¸˝˛\u02c7"] }]

/-- The names of encodings with a character for each byte, not all of which are
    those of ASCII below 128. -/
def foreignCharsets : List String :=
  ["cp037", "csibm037", "ebcdic_cp_ca", "ebcdic_cp_nl", "ebcdic_cp_us",
    "ebcdic_cp_wt", "ibm037", "ibm039", "cp1026", "csibm1026", "ibm1026", "cp1140", "ibm1140",
    "cp273", "csibm273", "ibm273", "cp424", "csibm424", "ebcdic_cp_he", "ibm424", "cp500",
    "csibm500", "ebcdic_cp_be", "ebcdic_cp_ch", "ibm500", "cp864", "csibm864", "ibm864", "cp875",
    "mac_arabic", "mac_farsi"]

/-- The names of encodings in which a character may take several bytes. -/
def multiByteEncodings : List String :=
  ["big5", "big5_hkscs", "big5_tw", "big5hkscs", "chinese", "cp1361", "cp932",
    "cp936", "cp949", "cp950", "csbig5", "csiso2022kr", "csiso58gb231280", "csshiftjis",
    "euc_cn", "euc_jis2004", "euc_jis_2004", "euc_jisx0213", "euc_jp", "euc_kr", "euccn",
    "eucgb2312_cn", "eucjis2004", "eucjisx0213", "eucjp", "euckr", "gb18030", "gb18030_2000",
    "gb2312", "gb2312_1980", "gb2312_80", "gbk", "hkscs", "iso2022_kr", "iso2022kr",
    "iso_2022_kr", "iso_ir_58", "jisx0213", "johab", "korean", "ks_c_5601", "ks_c_5601_1987",
    "ks_x_1001", "ksc5601", "ksx1001", "ms1361", "ms932", "ms936", "ms949", "ms950", "ms_kanji",
    "mskanji", "s_jis", "s_jis_2004", "s_jisx0213", "shift_jis", "shift_jis_2004",
    "shift_jisx0213", "shiftjis", "shiftjis2004", "shiftjisx0213", "sjis", "sjis_2004",
    "sjisx0213", "u16", "u32", "u7", "u_jis", "uhc", "ujis", "unicode_1_1_utf_7",
    "unicodebigunmarked", "unicodelittleunmarked", "utf16", "utf32", "utf7", "utf_16",
    "utf_16_be", "utf_16_le", "utf_16be", "utf_16le", "utf_32", "utf_32_be", "utf_32_le",
    "utf_32be", "utf_32le", "utf_7", "x_mac_japanese", "x_mac_korean", "x_mac_simp_chinese",
    "x_mac_trad_chinese"]

/-- The names of encodings of something other than text. -/
def byteEncodings : List String :=
  ["base64", "base64_codec", "base_64", "bz2", "bz2_codec", "hex", "hex_codec",
    "quopri", "quopri_codec", "quoted_printable", "quotedprintable", "rot13", "rot_13", "uu",
    "uu_codec", "zip", "zlib", "zlib_codec"]

end KeyMacro.Text
