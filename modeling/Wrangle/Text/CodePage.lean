/-!
# Code pages

A code page gives each byte a character of its own: the first half of the bytes
stands for the characters of seven bits, and the other half for the characters
that the page lists.  Some bytes stand for no character.
-/

namespace Wrangle
namespace Text

structure CodePage where
  names : List String
  high : String

namespace CodePage

def unused : Char := '\x00'

/-- The code pages by name, with the characters of the bytes from 0x80 on. -/
def all : List CodePage := [
  { names := ["cp1125", "1125", "cp866u", "ibm1125", "ruscii"]
    high := "АБВГДЕЖЗИЙКЛМНОПРСТУФХЦЧШЩЪЫЬЭЮЯабвгдежзийклмноп░▒▓│┤╡╢╖╕╣║╗╝╜╛┐└┴┬├─┼╞╟╚╔╩╦╠═╬╧╨╤" ++
      "╥╙╘╒╓╫╪┘┌█▄▌▐▀рстуфхцчшщъыьэюяЁёҐґЄєІіЇї·√№¤■\xa0" },
  { names := ["cp1250", "1250", "windows_1250"]
    high := "€\x00\u201a\x00\u201e…†‡\x00‰Š‹ŚŤŽŹ\x00\u2018\u2019\u201c\u201d•–—\x00™š›śťžź\xa0ˇ" ++
      "˘Ł¤Ą¦§¨©Ş«¬\xad®Ż°±˛ł\xb4µ¶·¸ąş»Ľ˝ľżŔÁÂĂÄĹĆÇČÉĘËĚÍÎĎĐŃŇÓÔŐÖ×ŘŮÚŰÜÝŢßŕáâăäĺćçčéęëěí" ++
      "îďđńňóôőö÷řůúűüýţ˙" },
  { names := ["cp1251", "1251", "windows_1251"]
    high := "ЂЃ\u201aѓ\u201e…†‡€‰Љ‹ЊЌЋЏђ\u2018\u2019\u201c\u201d•–—\x00™љ›њќћџ\xa0ЎўЈ¤Ґ¦§Ё©Є«¬" ++
      "\xad®Ї°±Ііґµ¶·ё№є»јЅѕїАБВГДЕЖЗИЙКЛМНОПРСТУФХЦЧШЩЪЫЬЭЮЯабвгдежзийклмнопрстуфхцчшщъы" ++
      "ьэюя" },
  { names := ["cp1252", "1252", "windows_1252"]
    high := "€\x00\u201aƒ\u201e…†‡ˆ‰Š‹Œ\x00Ž\x00\x00\u2018\u2019\u201c\u201d•–—˜™š›œ\x00žŸ\xa0¡" ++
      "¢£¤¥¦§¨©ª«¬\xad®¯°±²³\xb4µ¶·¸¹º»¼½¾¿ÀÁÂÃÄÅÆÇÈÉÊËÌÍÎÏÐÑÒÓÔÕÖ×ØÙÚÛÜÝÞßàáâãäåæçèéêëìí" ++
      "îïðñòóôõö÷øùúûüýþÿ" },
  { names := ["cp1253", "1253", "windows_1253"]
    high := "€\x00\u201aƒ\u201e…†‡\x00‰\x00‹\x00\x00\x00\x00\x00\u2018\u2019\u201c\u201d•–—\x00" ++
      "™\x00›\x00\x00\x00\x00\xa0΅Ά£¤¥¦§¨©\x00«¬\xad®―°±²³΄µ¶·ΈΉΊ»Ό½ΎΏΐΑΒΓΔΕΖΗΘΙΚΛΜΝΞΟΠΡ" ++
      "\x00ΣΤΥΦΧΨΩΪΫάέήίΰαβγδεζηθικλμνξοπρςστυφχψωϊϋόύώ\x00" },
  { names := ["cp1254", "1254", "windows_1254"]
    high := "€\x00\u201aƒ\u201e…†‡ˆ‰Š‹Œ\x00\x00\x00\x00\u2018\u2019\u201c\u201d•–—˜™š›œ\x00\x00" ++
      "Ÿ\xa0¡¢£¤¥¦§¨©ª«¬\xad®¯°±²³\xb4µ¶·¸¹º»¼½¾¿ÀÁÂÃÄÅÆÇÈÉÊËÌÍÎÏĞÑÒÓÔÕÖ×ØÙÚÛÜİŞßàáâãäåæç" ++
      "èéêëìíîïğñòóôõö÷øùúûüışÿ" },
  { names := ["cp1255", "1255", "windows_1255"]
    high := "€\x00\u201aƒ\u201e…†‡ˆ‰\x00‹\x00\x00\x00\x00\x00\u2018\u2019\u201c\u201d•–—˜™\x00›" ++
      "\x00\x00\x00\x00\xa0¡¢£₪¥¦§¨©×«¬\xad®¯°±²³\xb4µ¶·¸¹÷»¼½¾¿\u05b0\u05b1\u05b2\u05b3" ++
      "\u05b4\u05b5\u05b6\u05b7\u05b8\u05b9\x00\u05bb\u05bc\u05bd\u05be\u05bf\u05c0\u05c1" ++
      "\u05c2\u05c3\u05f0\u05f1\u05f2\u05f3\u05f4\x00\x00\x00\x00\x00\x00\x00\u05d0\u05d1" ++
      "\u05d2\u05d3\u05d4\u05d5\u05d6\u05d7\u05d8\u05d9\u05da\u05db\u05dc\u05dd\u05de" ++
      "\u05df\u05e0\u05e1\u05e2\u05e3\u05e4\u05e5\u05e6\u05e7\u05e8\u05e9\u05ea\x00\x00" ++
      "\u200e\u200f\x00" },
  { names := ["cp1256", "1256", "windows_1256"]
    high := "€\u067e\u201aƒ\u201e…†‡ˆ‰\u0679‹Œ\u0686\u0698\u0688\u06af\u2018\u2019\u201c\u201d•" ++
      "–—\u06a9™\u0691›œ\u200c\u200d\u06ba\xa0،¢£¤¥¦§¨©\u06be«¬\xad®¯°±²³\xb4µ¶·¸¹\u061b»" ++
      "¼½¾\u061f\u06c1\u0621\u0622\u0623\u0624\u0625\u0626\u0627\u0628\u0629\u062a\u062b" ++
      "\u062c\u062d\u062e\u062f\u0630\u0631\u0632\u0633\u0634\u0635\u0636×\u0637\u0638" ++
      "\u0639\u063a\u0640\u0641\u0642\u0643à\u0644â\u0645\u0646\u0647\u0648çèéêë\u0649" ++
      "\u064aîï\u064b\u064c\u064d\u064eô\u064f\u0650÷\u0651ù\u0652ûü\u200e\u200f\u06d2" },
  { names := ["cp1257", "1257", "windows_1257"]
    high := "€\x00\u201a\x00\u201e…†‡\x00‰\x00‹\x00¨ˇ¸\x00\u2018\u2019\u201c\u201d•–—\x00™\x00›" ++
      "\x00¯˛\x00\xa0\x00¢£¤\x00¦§Ø©Ŗ«¬\xad®Æ°±²³\xb4µ¶·ø¹ŗ»¼½¾æĄĮĀĆÄÅĘĒČÉŹĖĢĶĪĻŠŃŅÓŌÕÖ×Ų" ++
      "ŁŚŪÜŻŽßąįāćäåęēčéźėģķīļšńņóōõö÷ųłśūüżž˙" },
  { names := ["cp1258", "1258", "windows_1258"]
    high := "€\x00\u201aƒ\u201e…†‡ˆ‰\x00‹Œ\x00\x00\x00\x00\u2018\u2019\u201c\u201d•–—˜™\x00›œ" ++
      "\x00\x00Ÿ\xa0¡¢£¤¥¦§¨©ª«¬\xad®¯°±²³\xb4µ¶·¸¹º»¼½¾¿ÀÁÂĂÄÅÆÇÈÉÊË\u0300ÍÎÏĐÑ\u0309ÓÔƠ" ++
      "Ö×ØÙÚÛÜƯ\u0303ßàáâăäåæçèéêë\u0301íîïđñ\u0323óôơö÷øùúûüư₫ÿ" },
  { names := ["cp437", "437", "cspc8codepage437", "ibm437"]
    high := "ÇüéâäàåçêëèïîìÄÅÉæÆôöòûùÿÖÜ¢£¥₧ƒáíóúñÑªº¿⌐¬½¼¡«»░▒▓│┤╡╢╖╕╣║╗╝╜╛┐└┴┬├─┼╞╟╚╔╩╦╠═╬╧╨╤" ++
      "╥╙╘╒╓╫╪┘┌█▄▌▐▀αßΓπΣσµτΦΘΩδ∞φε∩≡±≥≤⌠⌡÷≈°∙·√ⁿ²■\xa0" },
  { names := ["cp720"]
    high := "\x80\x81éâ\x84à\x86çêëèïî\x8d\x8e\x8f\x90\u0651\u0652ô¤\u0640ûù\u0621\u0622\u0623" ++
      "\u0624£\u0625\u0626\u0627\u0628\u0629\u062a\u062b\u062c\u062d\u062e\u062f\u0630" ++
      "\u0631\u0632\u0633\u0634\u0635«»░▒▓│┤╡╢╖╕╣║╗╝╜╛┐└┴┬├─┼╞╟╚╔╩╦╠═╬╧╨╤╥╙╘╒╓╫╪┘┌█▄▌▐▀" ++
      "\u0636\u0637\u0638\u0639\u063a\u0641µ\u0642\u0643\u0644\u0645\u0646\u0647\u0648" ++
      "\u0649\u064a≡\u064b\u064c\u064d\u064e\u064f\u0650≈°∙·√ⁿ²■\xa0" },
  { names := ["cp737"]
    high := "ΑΒΓΔΕΖΗΘΙΚΛΜΝΞΟΠΡΣΤΥΦΧΨΩαβγδεζηθικλμνξοπρσςτυφχψ░▒▓│┤╡╢╖╕╣║╗╝╜╛┐└┴┬├─┼╞╟╚╔╩╦╠═╬╧╨╤" ++
      "╥╙╘╒╓╫╪┘┌█▄▌▐▀ωάέήϊίόύϋώΆΈΉΊΌΎΏ±≥≤ΪΫ÷≈°∙·√ⁿ²■\xa0" },
  { names := ["cp775", "775", "cspc775baltic", "ibm775"]
    high := "ĆüéāäģåćłēŖŗīŹÄÅÉæÆōöĢ¢ŚśÖÜø£Ø×¤ĀĪóŻżź\u201d¦©®¬½¼Ł«»░▒▓│┤ĄČĘĖ╣║╗╝ĮŠ┐└┴┬├─┼ŲŪ╚╔╩╦╠" ++
      "═╬Žąčęėįšųūž┘┌█▄▌▐▀ÓßŌŃõÕµńĶķĻļņĒŅ\u2019\xad±\u201c¾¶§÷\u201e°∙·¹³²■\xa0" },
  { names := ["cp850", "850", "cspc850multilingual", "ibm850"]
    high := "ÇüéâäàåçêëèïîìÄÅÉæÆôöòûùÿÖÜø£Ø×ƒáíóúñÑªº¿®¬½¼¡«»░▒▓│┤ÁÂÀ©╣║╗╝¢¥┐└┴┬├─┼ãÃ╚╔╩╦╠═╬¤ðÐ" ++
      "ÊËÈıÍÎÏ┘┌█▄¦Ì▀ÓßÔÒõÕµþÞÚÛÙýÝ¯\xb4\xad±‗¾¶§÷¸°¨·¹³²■\xa0" },
  { names := ["cp852", "852", "cspcp852", "ibm852"]
    high := "ÇüéâäůćçłëŐőîŹÄĆÉĹĺôöĽľŚśÖÜŤťŁ×čáíóúĄąŽžĘę¬źČş«»░▒▓│┤ÁÂĚŞ╣║╗╝Żż┐└┴┬├─┼Ăă╚╔╩╦╠═╬¤đĐ" ++
      "ĎËďŇÍÎě┘┌█▄ŢŮ▀ÓßÔŃńňŠšŔÚŕŰýÝţ\xb4\xad˝˛ˇ˘§÷¸°¨˙űŘř■\xa0" },
  { names := ["cp855", "855", "csibm855", "ibm855"]
    high := "ђЂѓЃёЁєЄѕЅіІїЇјЈљЉњЊћЋќЌўЎџЏюЮъЪаАбБцЦдДеЕфФгГ«»░▒▓│┤хХиИ╣║╗╝йЙ┐└┴┬├─┼кК╚╔╩╦╠═╬¤лЛ" ++
      "мМнНоОп┘┌█▄Пя▀ЯрРсСтТуУжЖвВьЬ№\xadыЫзЗшШэЭщЩчЧ§■\xa0" },
  { names := ["cp856"]
    high := "\u05d0\u05d1\u05d2\u05d3\u05d4\u05d5\u05d6\u05d7\u05d8\u05d9\u05da\u05db\u05dc" ++
      "\u05dd\u05de\u05df\u05e0\u05e1\u05e2\u05e3\u05e4\u05e5\u05e6\u05e7\u05e8\u05e9" ++
      "\u05ea\x00£\x00×\x00\x00\x00\x00\x00\x00\x00\x00\x00\x00®¬½¼\x00«»░▒▓│┤\x00\x00" ++
      "\x00©╣║╗╝¢¥┐└┴┬├─┼\x00\x00╚╔╩╦╠═╬¤\x00\x00\x00\x00\x00\x00\x00\x00\x00┘┌█▄¦\x00▀" ++
      "\x00\x00\x00\x00\x00\x00µ\x00\x00\x00\x00\x00\x00\x00¯\xb4\xad±‗¾¶§÷¸°¨·¹³²■\xa0" },
  { names := ["cp857", "857", "csibm857", "ibm857"]
    high := "ÇüéâäàåçêëèïîıÄÅÉæÆôöòûùİÖÜø£ØŞşáíóúñÑĞğ¿®¬½¼¡«»░▒▓│┤ÁÂÀ©╣║╗╝¢¥┐└┴┬├─┼ãÃ╚╔╩╦╠═╬¤ºª" ++
      "ÊËÈ\x00ÍÎÏ┘┌█▄¦Ì▀ÓßÔÒõÕµ\x00×ÚÛÙìÿ¯\xb4\xad±\x00¾¶§÷¸°¨·¹³²■\xa0" },
  { names := ["cp858", "858", "csibm858", "ibm858"]
    high := "ÇüéâäàåçêëèïîìÄÅÉæÆôöòûùÿÖÜø£Ø×ƒáíóúñÑªº¿®¬½¼¡«»░▒▓│┤ÁÂÀ©╣║╗╝¢¥┐└┴┬├─┼ãÃ╚╔╩╦╠═╬¤ðÐ" ++
      "ÊËÈ€ÍÎÏ┘┌█▄¦Ì▀ÓßÔÒõÕµþÞÚÛÙýÝ¯\xb4\xad±‗¾¶§÷¸°¨·¹³²■\xa0" },
  { names := ["cp860", "860", "csibm860", "ibm860"]
    high := "ÇüéâãàÁçêÊèÍÔìÃÂÉÀÈôõòÚùÌÕÜ¢£Ù₧ÓáíóúñÑªº¿Ò¬½¼¡«»░▒▓│┤╡╢╖╕╣║╗╝╜╛┐└┴┬├─┼╞╟╚╔╩╦╠═╬╧╨╤" ++
      "╥╙╘╒╓╫╪┘┌█▄▌▐▀αßΓπΣσµτΦΘΩδ∞φε∩≡±≥≤⌠⌡÷≈°∙·√ⁿ²■\xa0" },
  { names := ["cp861", "861", "cp_is", "csibm861", "ibm861"]
    high := "ÇüéâäàåçêëèÐðÞÄÅÉæÆôöþûÝýÖÜø£Ø₧ƒáíóúÁÍÓÚ¿⌐¬½¼¡«»░▒▓│┤╡╢╖╕╣║╗╝╜╛┐└┴┬├─┼╞╟╚╔╩╦╠═╬╧╨╤" ++
      "╥╙╘╒╓╫╪┘┌█▄▌▐▀αßΓπΣσµτΦΘΩδ∞φε∩≡±≥≤⌠⌡÷≈°∙·√ⁿ²■\xa0" },
  { names := ["cp862", "862", "cspc862latinhebrew", "ibm862"]
    high := "\u05d0\u05d1\u05d2\u05d3\u05d4\u05d5\u05d6\u05d7\u05d8\u05d9\u05da\u05db\u05dc" ++
      "\u05dd\u05de\u05df\u05e0\u05e1\u05e2\u05e3\u05e4\u05e5\u05e6\u05e7\u05e8\u05e9" ++
      "\u05ea¢£¥₧ƒáíóúñÑªº¿⌐¬½¼¡«»░▒▓│┤╡╢╖╕╣║╗╝╜╛┐└┴┬├─┼╞╟╚╔╩╦╠═╬╧╨╤╥╙╘╒╓╫╪┘┌█▄▌▐▀αßΓπΣσµ" ++
      "τΦΘΩδ∞φε∩≡±≥≤⌠⌡÷≈°∙·√ⁿ²■\xa0" },
  { names := ["cp863", "863", "csibm863", "ibm863"]
    high := "ÇüéâÂà¶çêëèïî‗À§ÉÈÊôËÏûù¤ÔÜ¢£ÙÛƒ¦\xb4óú¨¸³¯Î⌐¬½¼¾«»░▒▓│┤╡╢╖╕╣║╗╝╜╛┐└┴┬├─┼╞╟╚╔╩╦╠═╬" ++
      "╧╨╤╥╙╘╒╓╫╪┘┌█▄▌▐▀αßΓπΣσµτΦΘΩδ∞φε∩≡±≥≤⌠⌡÷≈°∙·√ⁿ²■\xa0" },
  { names := ["cp865", "865", "csibm865", "ibm865"]
    high := "ÇüéâäàåçêëèïîìÄÅÉæÆôöòûùÿÖÜø£Ø₧ƒáíóúñÑªº¿⌐¬½¼¡«¤░▒▓│┤╡╢╖╕╣║╗╝╜╛┐└┴┬├─┼╞╟╚╔╩╦╠═╬╧╨╤" ++
      "╥╙╘╒╓╫╪┘┌█▄▌▐▀αßΓπΣσµτΦΘΩδ∞φε∩≡±≥≤⌠⌡÷≈°∙·√ⁿ²■\xa0" },
  { names := ["cp866", "866", "csibm866", "ibm866"]
    high := "АБВГДЕЖЗИЙКЛМНОПРСТУФХЦЧШЩЪЫЬЭЮЯабвгдежзийклмноп░▒▓│┤╡╢╖╕╣║╗╝╜╛┐└┴┬├─┼╞╟╚╔╩╦╠═╬╧╨╤" ++
      "╥╙╘╒╓╫╪┘┌█▄▌▐▀рстуфхцчшщъыьэюяЁёЄєЇїЎў°∙·√№¤■\xa0" },
  { names := ["cp869", "869", "cp_gr", "csibm869", "ibm869"]
    high := "\x00\x00\x00\x00\x00\x00Ά\x00·¬¦\u2018\u2019Έ―ΉΊΪΌ\x00\x00ΎΫ©Ώ²³ά£έήίϊΐόύΑΒΓΔΕΖΗ½Θ" ++
      "Ι«»░▒▓│┤ΚΛΜΝ╣║╗╝ΞΟ┐└┴┬├─┼ΠΡ╚╔╩╦╠═╬ΣΤΥΦΧΨΩαβγ┘┌█▄δε▀ζηθικλμνξοπρσςτ΄\xad±υφχ§ψ΅°¨ωϋ" ++
      "ΰώ■\xa0" },
  { names := ["cp874"]
    high := "€\x00\x00\x00\x00…\x00\x00\x00\x00\x00\x00\x00\x00\x00\x00\x00\u2018\u2019\u201c" ++
      "\u201d•–—\x00\x00\x00\x00\x00\x00\x00\x00\xa0กขฃคฅฆงจฉชซฌญฎฏฐฑฒณดตถทธนบปผฝพฟภมยรฤล" ++
      "ฦวศษสหฬอฮฯะ\u0e31าำ\u0e34\u0e35\u0e36\u0e37\u0e38\u0e39\u0e3a\x00\x00\x00\x00฿เแโใ" ++
      "ไๅๆ\u0e47\u0e48\u0e49\u0e4a\u0e4b\u0e4c\u0e4d\u0e4e๏๐๑๒๓๔๕๖๗๘๙๚๛\x00\x00\x00\x00" },
  { names := ["hp_roman8", "cp1051", "csHPRoman8", "ibm1051", "r8", "roman8"]
    high := "\x80\x81\x82\x83\x84\x85\x86\x87\x88\x89\x8a\x8b\x8c\x8d\x8e\x8f\x90\x91\x92\x93" ++
      "\x94\x95\x96\x97\x98\x99\x9a\x9b\x9c\x9d\x9e\x9f\xa0ÀÂÈÊËÎÏ\xb4ˋˆ¨˜ÙÛ₤¯Ýý°ÇçÑñ¡¿¤£" ++
      "¥§ƒ¢âêôûáéóúàèòùäëöüÅîØÆåíøæÄìÖÜÉïßÔÁÃãÐðÍÌÓÒÕõŠšÚŸÿÞþ·µ¶¾—¼½ªº«■»±\x00" },
  { names := ["iso8859_10", "csisolatin6", "iso_8859_10", "iso_8859_10_1992", "iso_ir_157",
      "l6", "latin6"]
    high := "\x80\x81\x82\x83\x84\x85\x86\x87\x88\x89\x8a\x8b\x8c\x8d\x8e\x8f\x90\x91\x92\x93" ++
      "\x94\x95\x96\x97\x98\x99\x9a\x9b\x9c\x9d\x9e\x9f\xa0ĄĒĢĪĨĶ§ĻĐŠŦŽ\xadŪŊ°ąēģīĩķ·ļđšŧ" ++
      "ž―ūŋĀÁÂÃÄÅÆĮČÉĘËĖÍÎÏÐŅŌÓÔÕÖŨØŲÚÛÜÝÞßāáâãäåæįčéęëėíîïðņōóôõöũøųúûüýþĸ" },
  { names := ["iso8859_11", "iso_8859_11", "iso_8859_11_2001", "thai"]
    high := "\x80\x81\x82\x83\x84\x85\x86\x87\x88\x89\x8a\x8b\x8c\x8d\x8e\x8f\x90\x91\x92\x93" ++
      "\x94\x95\x96\x97\x98\x99\x9a\x9b\x9c\x9d\x9e\x9f\xa0กขฃคฅฆงจฉชซฌญฎฏฐฑฒณดตถทธนบปผฝพ" ++
      "ฟภมยรฤลฦวศษสหฬอฮฯะ\u0e31าำ\u0e34\u0e35\u0e36\u0e37\u0e38\u0e39\u0e3a\x00\x00\x00" ++
      "\x00฿เแโใไๅๆ\u0e47\u0e48\u0e49\u0e4a\u0e4b\u0e4c\u0e4d\u0e4e๏๐๑๒๓๔๕๖๗๘๙๚๛\x00\x00" ++
      "\x00\x00" },
  { names := ["iso8859_13", "iso_8859_13", "l7", "latin7"]
    high := "\x80\x81\x82\x83\x84\x85\x86\x87\x88\x89\x8a\x8b\x8c\x8d\x8e\x8f\x90\x91\x92\x93" ++
      "\x94\x95\x96\x97\x98\x99\x9a\x9b\x9c\x9d\x9e\x9f\xa0\u201d¢£¤\u201e¦§Ø©Ŗ«¬\xad®Æ°±" ++
      "²³\u201cµ¶·ø¹ŗ»¼½¾æĄĮĀĆÄÅĘĒČÉŹĖĢĶĪĻŠŃŅÓŌÕÖ×ŲŁŚŪÜŻŽßąįāćäåęēčéźėģķīļšńņóōõö÷ųłśūüżž" ++
      "\u2019" },
  { names := ["iso8859_14", "iso_8859_14", "iso_8859_14_1998", "iso_celtic", "iso_ir_199",
      "l8", "latin8"]
    high := "\x80\x81\x82\x83\x84\x85\x86\x87\x88\x89\x8a\x8b\x8c\x8d\x8e\x8f\x90\x91\x92\x93" ++
      "\x94\x95\x96\x97\x98\x99\x9a\x9b\x9c\x9d\x9e\x9f\xa0Ḃḃ£ĊċḊ§Ẁ©ẂḋỲ\xad®ŸḞḟĠġṀṁ¶ṖẁṗẃṠ" ++
      "ỳẄẅṡÀÁÂÃÄÅÆÇÈÉÊËÌÍÎÏŴÑÒÓÔÕÖṪØÙÚÛÜÝŶßàáâãäåæçèéêëìíîïŵñòóôõöṫøùúûüýŷÿ" },
  { names := ["iso8859_15", "iso_8859_15", "l9", "latin9"]
    high := "\x80\x81\x82\x83\x84\x85\x86\x87\x88\x89\x8a\x8b\x8c\x8d\x8e\x8f\x90\x91\x92\x93" ++
      "\x94\x95\x96\x97\x98\x99\x9a\x9b\x9c\x9d\x9e\x9f\xa0¡¢£€¥Š§š©ª«¬\xad®¯°±²³Žµ¶·ž¹º»" ++
      "ŒœŸ¿ÀÁÂÃÄÅÆÇÈÉÊËÌÍÎÏÐÑÒÓÔÕÖ×ØÙÚÛÜÝÞßàáâãäåæçèéêëìíîïðñòóôõö÷øùúûüýþÿ" },
  { names := ["iso8859_16", "iso_8859_16", "iso_8859_16_2001", "iso_ir_226", "l10", "latin10"]
    high := "\x80\x81\x82\x83\x84\x85\x86\x87\x88\x89\x8a\x8b\x8c\x8d\x8e\x8f\x90\x91\x92\x93" ++
      "\x94\x95\x96\x97\x98\x99\x9a\x9b\x9c\x9d\x9e\x9f\xa0ĄąŁ€\u201eŠ§š©Ș«Ź\xadźŻ°±ČłŽ" ++
      "\u201d¶·žčș»ŒœŸżÀÁÂĂÄĆÆÇÈÉÊËÌÍÎÏĐŃÒÓÔŐÖŚŰÙÚÛÜĘȚßàáâăäćæçèéêëìíîïđńòóôőöśűùúûüęțÿ" },
  { names := ["iso8859_2", "csisolatin2", "iso_8859_2", "iso_8859_2_1987", "iso_ir_101", "l2",
      "latin2"]
    high := "\x80\x81\x82\x83\x84\x85\x86\x87\x88\x89\x8a\x8b\x8c\x8d\x8e\x8f\x90\x91\x92\x93" ++
      "\x94\x95\x96\x97\x98\x99\x9a\x9b\x9c\x9d\x9e\x9f\xa0Ą˘Ł¤ĽŚ§¨ŠŞŤŹ\xadŽŻ°ą˛ł\xb4ľśˇ¸" ++
      "šşťź˝žżŔÁÂĂÄĹĆÇČÉĘËĚÍÎĎĐŃŇÓÔŐÖ×ŘŮÚŰÜÝŢßŕáâăäĺćçčéęëěíîďđńňóôőö÷řůúűüýţ˙" },
  { names := ["iso8859_3", "csisolatin3", "iso_8859_3", "iso_8859_3_1988", "iso_ir_109", "l3",
      "latin3"]
    high := "\x80\x81\x82\x83\x84\x85\x86\x87\x88\x89\x8a\x8b\x8c\x8d\x8e\x8f\x90\x91\x92\x93" ++
      "\x94\x95\x96\x97\x98\x99\x9a\x9b\x9c\x9d\x9e\x9f\xa0Ħ˘£¤\x00Ĥ§¨İŞĞĴ\xad\x00Ż°ħ²³" ++
      "\xb4µĥ·¸ışğĵ½\x00żÀÁÂ\x00ÄĊĈÇÈÉÊËÌÍÎÏ\x00ÑÒÓÔĠÖ×ĜÙÚÛÜŬŜßàáâ\x00äċĉçèéêëìíîï\x00ñòó" ++
      "ôġö÷ĝùúûüŭŝ˙" },
  { names := ["iso8859_4", "csisolatin4", "iso_8859_4", "iso_8859_4_1988", "iso_ir_110", "l4",
      "latin4"]
    high := "\x80\x81\x82\x83\x84\x85\x86\x87\x88\x89\x8a\x8b\x8c\x8d\x8e\x8f\x90\x91\x92\x93" ++
      "\x94\x95\x96\x97\x98\x99\x9a\x9b\x9c\x9d\x9e\x9f\xa0ĄĸŖ¤ĨĻ§¨ŠĒĢŦ\xadŽ¯°ą˛ŗ\xb4ĩļˇ¸" ++
      "šēģŧŊžŋĀÁÂÃÄÅÆĮČÉĘËĖÍÎĪĐŅŌĶÔÕÖ×ØŲÚÛÜŨŪßāáâãäåæįčéęëėíîīđņōķôõö÷øųúûüũū˙" },
  { names := ["iso8859_5", "csisolatincyrillic", "cyrillic", "iso_8859_5", "iso_8859_5_1988",
      "iso_ir_144"]
    high := "\x80\x81\x82\x83\x84\x85\x86\x87\x88\x89\x8a\x8b\x8c\x8d\x8e\x8f\x90\x91\x92\x93" ++
      "\x94\x95\x96\x97\x98\x99\x9a\x9b\x9c\x9d\x9e\x9f\xa0ЁЂЃЄЅІЇЈЉЊЋЌ\xadЎЏАБВГДЕЖЗИЙКЛ" ++
      "МНОПРСТУФХЦЧШЩЪЫЬЭЮЯабвгдежзийклмнопрстуфхцчшщъыьэюя№ёђѓєѕіїјљњћќ§ўџ" },
  { names := ["iso8859_6", "arabic", "asmo_708", "csisolatinarabic", "ecma_114", "iso_8859_6",
      "iso_8859_6_1987", "iso_ir_127"]
    high := "\x80\x81\x82\x83\x84\x85\x86\x87\x88\x89\x8a\x8b\x8c\x8d\x8e\x8f\x90\x91\x92\x93" ++
      "\x94\x95\x96\x97\x98\x99\x9a\x9b\x9c\x9d\x9e\x9f\xa0\x00\x00\x00¤\x00\x00\x00\x00" ++
      "\x00\x00\x00،\xad\x00\x00\x00\x00\x00\x00\x00\x00\x00\x00\x00\x00\x00\u061b\x00" ++
      "\x00\x00\u061f\x00\u0621\u0622\u0623\u0624\u0625\u0626\u0627\u0628\u0629\u062a" ++
      "\u062b\u062c\u062d\u062e\u062f\u0630\u0631\u0632\u0633\u0634\u0635\u0636\u0637" ++
      "\u0638\u0639\u063a\x00\x00\x00\x00\x00\u0640\u0641\u0642\u0643\u0644\u0645\u0646" ++
      "\u0647\u0648\u0649\u064a\u064b\u064c\u064d\u064e\u064f\u0650\u0651\u0652\x00\x00" ++
      "\x00\x00\x00\x00\x00\x00\x00\x00\x00\x00\x00" },
  { names := ["iso8859_7", "csisolatingreek", "ecma_118", "elot_928", "greek", "greek8",
      "iso_8859_7", "iso_8859_7_1987", "iso_ir_126"]
    high := "\x80\x81\x82\x83\x84\x85\x86\x87\x88\x89\x8a\x8b\x8c\x8d\x8e\x8f\x90\x91\x92\x93" ++
      "\x94\x95\x96\x97\x98\x99\x9a\x9b\x9c\x9d\x9e\x9f\xa0\u2018\u2019£€₯¦§¨©ͺ«¬\xad\x00" ++
      "―°±²³΄΅Ά·ΈΉΊ»Ό½ΎΏΐΑΒΓΔΕΖΗΘΙΚΛΜΝΞΟΠΡ\x00ΣΤΥΦΧΨΩΪΫάέήίΰαβγδεζηθικλμνξοπρςστυφχψωϊϋόύ" ++
      "ώ\x00" },
  { names := ["iso8859_8", "csisolatinhebrew", "hebrew", "iso_8859_8", "iso_8859_8_1988",
      "iso_ir_138"]
    high := "\x80\x81\x82\x83\x84\x85\x86\x87\x88\x89\x8a\x8b\x8c\x8d\x8e\x8f\x90\x91\x92\x93" ++
      "\x94\x95\x96\x97\x98\x99\x9a\x9b\x9c\x9d\x9e\x9f\xa0\x00¢£¤¥¦§¨©×«¬\xad®¯°±²³\xb4µ" ++
      "¶·¸¹÷»¼½¾\x00\x00\x00\x00\x00\x00\x00\x00\x00\x00\x00\x00\x00\x00\x00\x00\x00\x00" ++
      "\x00\x00\x00\x00\x00\x00\x00\x00\x00\x00\x00\x00\x00\x00‗\u05d0\u05d1\u05d2\u05d3" ++
      "\u05d4\u05d5\u05d6\u05d7\u05d8\u05d9\u05da\u05db\u05dc\u05dd\u05de\u05df\u05e0" ++
      "\u05e1\u05e2\u05e3\u05e4\u05e5\u05e6\u05e7\u05e8\u05e9\u05ea\x00\x00\u200e\u200f" ++
      "\x00" },
  { names := ["iso8859_9", "csisolatin5", "iso_8859_9", "iso_8859_9_1989", "iso_ir_148", "l5",
      "latin5"]
    high := "\x80\x81\x82\x83\x84\x85\x86\x87\x88\x89\x8a\x8b\x8c\x8d\x8e\x8f\x90\x91\x92\x93" ++
      "\x94\x95\x96\x97\x98\x99\x9a\x9b\x9c\x9d\x9e\x9f\xa0¡¢£¤¥¦§¨©ª«¬\xad®¯°±²³\xb4µ¶·¸" ++
      "¹º»¼½¾¿ÀÁÂÃÄÅÆÇÈÉÊËÌÍÎÏĞÑÒÓÔÕÖ×ØÙÚÛÜİŞßàáâãäåæçèéêëìíîïğñòóôõö÷øùúûüışÿ" },
  { names := ["koi8_r", "cskoi8r"]
    high := "─│┌┐└┘├┤┬┴┼▀▄█▌▐░▒▓⌠■∙√≈≤≥\xa0⌡°²·÷═║╒ё╓╔╕╖╗╘╙╚╛╜╝╞╟╠╡Ё╢╣╤╥╦╧╨╩╪╫╬©юабцдефгхийклмн" ++
      "опярстужвьызшэщчъЮАБЦДЕФГХИЙКЛМНОПЯРСТУЖВЬЫЗШЭЩЧЪ" },
  { names := ["koi8_t"]
    high := "қғ\u201aҒ\u201e…†‡\x00‰ҳ‹ҲҷҶ\x00Қ\u2018\u2019\u201c\u201d•–—\x00™\x00›\x00\x00\x00" ++
      "\x00\x00ӯӮё¤ӣ¦§\x00\x00\x00«¬\xad®\x00°±²Ё\x00Ӣ¶·\x00№\x00»\x00\x00\x00©юабцдефгхи" ++
      "йклмнопярстужвьызшэщчъЮАБЦДЕФГХИЙКЛМНОПЯРСТУЖВЬЫЗШЭЩЧЪ" },
  { names := ["koi8_u"]
    high := "─│┌┐└┘├┤┬┴┼▀▄█▌▐░▒▓⌠■∙√≈≤≥\xa0⌡°²·÷═║╒ёє╔ії╗╘╙╚╛ґ╝╞╟╠╡ЁЄ╣ІЇ╦╧╨╩╪Ґ╬©юабцдефгхийклмн" ++
      "опярстужвьызшэщчъЮАБЦДЕФГХИЙКЛМНОПЯРСТУЖВЬЫЗШЭЩЧЪ" },
  { names := ["kz1048", "kz_1048", "rk1048", "strk1048_2002"]
    high := "ЂЃ\u201aѓ\u201e…†‡€‰Љ‹ЊҚҺЏђ\u2018\u2019\u201c\u201d•–—\x00™љ›њқһџ\xa0ҰұӘ¤Ө¦§Ё©Ғ«¬" ++
      "\xad®Ү°±Ііөµ¶·ё№ғ»әҢңүАБВГДЕЖЗИЙКЛМНОПРСТУФХЦЧШЩЪЫЬЭЮЯабвгдежзийклмнопрстуфхцчшщъы" ++
      "ьэюя" },
  { names := ["mac_croatian"]
    high := "ÄÅÇÉÑÖÜáàâäãåçéèêëíìîïñóòôöõúùûü†°¢£§•¶ß®Š™\xb4¨≠ŽØ∞±≤≥∆µ∂∑∏š∫ªºΩžø¿¡¬√ƒ≈Ć«Č…\xa0À" ++
      "ÃÕŒœĐ—\u201c\u201d\u2018\u2019÷◊\uf8ff©⁄€‹›Æ»–·\u201a\u201e‰ÂćÁčÈÍÎÏÌÓÔđÒÚÛÙıˆ˜¯πË" ++
      "˚¸Êæˇ" },
  { names := ["mac_cyrillic", "maccyrillic"]
    high := "АБВГДЕЖЗИЙКЛМНОПРСТУФХЦЧШЩЪЫЬЭЮЯ†°Ґ£§•¶І®©™Ђђ≠Ѓѓ∞±≤≥іµґЈЄєЇїЉљЊњјЅ¬√ƒ≈∆«»…\xa0ЋћЌќ" ++
      "ѕ–—\u201c\u201d\u2018\u2019÷\u201eЎўЏџ№Ёёяабвгдежзийклмнопрстуфхцчшщъыьэю€" },
  { names := ["mac_greek", "macgreek"]
    high := "Ä¹²É³ÖÜ΅àâä΄¨çéèêë£™îï•½‰ôö¦€ùûü†ΓΔΘΛΞΠß®©ΣΪ§≠°·Α±≤≥¥ΒΕΖΗΙΚΜΦΫΨΩάΝ¬ΟΡ≈Τ«»…\xa0ΥΧΆΈ" ++
      "œ–―\u201c\u201d\u2018\u2019÷ΉΊΌΎέήίόΏύαβψδεφγηιξκλμνοπώρστθωςχυζϊϋΐΰ\xad" },
  { names := ["mac_iceland", "maciceland"]
    high := "ÄÅÇÉÑÖÜáàâäãåçéèêëíìîïñóòôöõúùûüÝ°¢£§•¶ß®©™\xb4¨≠ÆØ∞±≤≥¥µ∂∑∏π∫ªºΩæø¿¡¬√ƒ≈∆«»…\xa0À" ++
      "ÃÕŒœ–—\u201c\u201d\u2018\u2019÷◊ÿŸ⁄€ÐðÞþý·\u201a\u201e‰ÂÊÁËÈÍÎÏÌÓÔ\uf8ffÒÚÛÙıˆ˜¯˘˙" ++
      "˚¸˝˛ˇ" },
  { names := ["mac_latin2", "mac_centeuro", "maccentraleurope", "maclatin2"]
    high := "ÄĀāÉĄÖÜáąČäčĆćéŹźĎíďĒēĖóėôöõúĚěü†°Ę£§•¶ß®©™ę¨≠ģĮįĪ≤≥īĶ∂∑łĻļĽľĹĺŅņŃ¬√ńŇ∆«»…\xa0ňŐÕő" ++
      "Ō–—\u201c\u201d\u2018\u2019÷◊ōŔŕŘ‹›řŖŗŠ\u201a\u201ešŚśÁŤťÍŽžŪÓÔūŮÚůŰűŲųÝýķŻŁżĢˇ" },
  { names := ["mac_roman", "macintosh", "macroman"]
    high := "ÄÅÇÉÑÖÜáàâäãåçéèêëíìîïñóòôöõúùûü†°¢£§•¶ß®©™\xb4¨≠ÆØ∞±≤≥¥µ∂∑∏π∫ªºΩæø¿¡¬√ƒ≈∆«»…\xa0À" ++
      "ÃÕŒœ–—\u201c\u201d\u2018\u2019÷◊ÿŸ⁄€‹›\ufb01\ufb02‡·\u201a\u201e‰ÂÊÁËÈÍÎÏÌÓÔ\uf8ff" ++
      "ÒÚÛÙıˆ˜¯˘˙˚¸˝˛ˇ" },
  { names := ["mac_romanian"]
    high := "ÄÅÇÉÑÖÜáàâäãåçéèêëíìîïñóòôöõúùûü†°¢£§•¶ß®©™\xb4¨≠ĂȘ∞±≤≥¥µ∂∑∏π∫ªºΩăș¿¡¬√ƒ≈∆«»…\xa0À" ++
      "ÃÕŒœ–—\u201c\u201d\u2018\u2019÷◊ÿŸ⁄€‹›Țț‡·\u201a\u201e‰ÂÊÁËÈÍÎÏÌÓÔ\uf8ffÒÚÛÙıˆ˜¯˘˙" ++
      "˚¸˝˛ˇ" },
  { names := ["mac_turkish", "macturkish"]
    high := "ÄÅÇÉÑÖÜáàâäãåçéèêëíìîïñóòôöõúùûü†°¢£§•¶ß®©™\xb4¨≠ÆØ∞±≤≥¥µ∂∑∏π∫ªºΩæø¿¡¬√ƒ≈∆«»…\xa0À" ++
      "ÃÕŒœ–—\u201c\u201d\u2018\u2019÷◊ÿŸĞğİıŞş‡·\u201a\u201e‰ÂÊÁËÈÍÎÏÌÓÔ\uf8ffÒÚÛÙ\uf8a0" ++
      "ˆ˜¯˘˙˚¸˝˛ˇ" },
  { names := ["palmos"]
    high := "€\x81\u201aƒ\u201e…†‡ˆ‰Š‹Œ♦♣♥♠\u2018\u2019\u201c\u201d•–—˜™š\x9bœ\x9d\x9eŸ\xa0¡¢£¤" ++
      "¥¦§¨©ª«¬\xad®¯°±²³\xb4µ¶·¸¹º»¼½¾¿ÀÁÂÃÄÅÆÇÈÉÊËÌÍÎÏÐÑÒÓÔÕÖ×ØÙÚÛÜÝÞßàáâãäåæçèéêëìíîïð" ++
      "ñòóôõö÷øùúûüýþÿ" },
  { names := ["ptcp154", "cp154", "csptcp154", "cyrillic_asian", "pt154"]
    high := "ҖҒӮғ\u201e…ҶҮҲүҠӢҢҚҺҸҗ\u2018\u2019\u201c\u201d•–—ҳҷҡӣңқһҹ\xa0ЎўЈӨҘҰ§Ё©Ә«¬ӯ®Ҝ°ұІіҙө" ++
      "¶·ё№ә»јҪҫҝАБВГДЕЖЗИЙКЛМНОПРСТУФХЦЧШЩЪЫЬЭЮЯабвгдежзийклмнопрстуфхцчшщъыьэюя" },
  { names := ["tis_620", "iso_ir_166", "tis620", "tis_620_0", "tis_620_2529_0",
      "tis_620_2529_1"]
    high := "\x80\x81\x82\x83\x84\x85\x86\x87\x88\x89\x8a\x8b\x8c\x8d\x8e\x8f\x90\x91\x92\x93" ++
      "\x94\x95\x96\x97\x98\x99\x9a\x9b\x9c\x9d\x9e\x9f\x00กขฃคฅฆงจฉชซฌญฎฏฐฑฒณดตถทธนบปผฝพ" ++
      "ฟภมยรฤลฦวศษสหฬอฮฯะ\u0e31าำ\u0e34\u0e35\u0e36\u0e37\u0e38\u0e39\u0e3a\x00\x00\x00" ++
      "\x00฿เแโใไๅๆ\u0e47\u0e48\u0e49\u0e4a\u0e4b\u0e4c\u0e4d\u0e4e๏๐๑๒๓๔๕๖๗๘๙๚๛\x00\x00" ++
      "\x00\x00" }]

def ofName? (name : String) : Option CodePage :=
  all.find? fun page => page.names.contains name

end CodePage
end Text
end Wrangle
