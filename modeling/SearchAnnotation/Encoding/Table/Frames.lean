import SearchAnnotation.Encoding.Table

/-!
# Code pages with frames

These code pages put letters and, most of them, signs for drawing frames into the upper half.
-/

namespace SearchAnnotation.Encoding.Table

/-- The first code page. -/
def cp437 : Table where
  spans := []
  runs := [
    (0x80, "ÇüéâäàåçêëèïîìÄÅÉæÆôöòûùÿÖÜ¢£¥₧ƒáíóúñÑªº¿⌐¬½¼¡«»░▒▓│┤╡╢╖╕╣"),
    (0xba, "║╗╝╜╛┐└┴┬├─┼╞╟╚╔╩╦╠═╬╧╨╤╥╙╘╒╓╫╪┘┌█▄▌▐▀αßΓπΣσµτΦΘΩδ∞φε∩≡±≥≤"),
    (0xf4, "⌠⌡÷≈°∙·√ⁿ²■\u00a0")]

/-- Arabic. -/
def cp720 : Table where
  spans := [
    (0x9d, 0xad, 0x625), (0xe7, 0xef, 0x642)]
  runs := [
    (0x82, "éâ"), (0x85, "à"), (0x87, "çêëèïî"),
    (0x91, "\u0651\u0652ô¤\u0640ûù\u0621\u0622\u0623\u0624£"),
    (0xae, "«»░▒▓│┤╡╢╖╕╣║╗╝╜╛┐└┴┬├─┼╞╟╚╔╩╦╠═╬╧╨╤╥╙╘╒╓╫╪┘┌█▄▌▐▀\u0636\u0637\u0638\u0639\u063a"),
    (0xe5, "\u0641µ"), (0xf0, "≡\u064b\u064c\u064d\u064e\u064f\u0650≈°∙·√ⁿ²■\u00a0")]

/-- Greek. -/
def cp737 : Table where
  spans := [
    (0x80, 0x90, 0x391), (0x98, 0xa8, 0x3b1)]
  runs := [
    (0x91, "ΣΤΥΦΧΨΩ"), (0xa9, "σςτυφχψ░▒▓│┤╡╢╖╕╣║╗╝╜╛┐└┴┬├─┼╞╟╚╔╩╦╠═╬╧╨╤╥╙╘╒╓╫╪┘┌█▄▌▐▀ωάέ"),
    (0xe3, "ήϊίόύϋώΆΈΉΊΌΎΏ±≥≤ΪΫ÷≈°∙·√ⁿ²■\u00a0")]

/-- Baltic. -/
def cp775 : Table where
  spans := []
  runs := [
    (0x80, "ĆüéāäģåćłēŖŗīŹÄÅÉæÆōöĢ¢ŚśÖÜø£Ø×¤ĀĪóŻżź”¦©®¬½¼Ł«»░▒▓│┤ĄČĘĖ╣"),
    (0xba, "║╗╝ĮŠ┐└┴┬├─┼ŲŪ╚╔╩╦╠═╬Žąčęėįšųūž┘┌█▄▌▐▀ÓßŌŃõÕµńĶķĻļņĒŅ’\u00ad±“¾"),
    (0xf4, "¶§÷„°∙·¹³²■\u00a0")]

/-- Western European. -/
def cp850 : Table where
  spans := []
  runs := [
    (0x80, "ÇüéâäàåçêëèïîìÄÅÉæÆôöòûùÿÖÜø£Ø×ƒáíóúñÑªº¿®¬½¼¡«»░▒▓│┤ÁÂÀ©╣"),
    (0xba, "║╗╝¢¥┐└┴┬├─┼ãÃ╚╔╩╦╠═╬¤ðÐÊËÈıÍÎÏ┘┌█▄¦Ì▀ÓßÔÒõÕµþÞÚÛÙýÝ¯´\u00ad±‗¾"),
    (0xf4, "¶§÷¸°¨·¹³²■\u00a0")]

/-- Central European. -/
def cp852 : Table where
  spans := []
  runs := [
    (0x80, "ÇüéâäůćçłëŐőîŹÄĆÉĹĺôöĽľŚśÖÜŤťŁ×čáíóúĄąŽžĘę¬źČş«»░▒▓│┤ÁÂĚŞ╣"),
    (0xba, "║╗╝Żż┐└┴┬├─┼Ăă╚╔╩╦╠═╬¤đĐĎËďŇÍÎě┘┌█▄ŢŮ▀ÓßÔŃńňŠšŔÚŕŰýÝţ´\u00ad˝˛ˇ"),
    (0xf4, "˘§÷¸°¨˙űŘř■\u00a0")]

/-- Cyrillic. -/
def cp855 : Table where
  spans := []
  runs := [
    (0x80, "ђЂѓЃёЁєЄѕЅіІїЇјЈљЉњЊћЋќЌўЎџЏюЮъЪаАбБцЦдДеЕфФгГ«»░▒▓│┤хХиИ╣"),
    (0xba, "║╗╝йЙ┐└┴┬├─┼кК╚╔╩╦╠═╬¤лЛмМнНоОп┘┌█▄Пя▀ЯрРсСтТуУжЖвВьЬ№\u00adыЫз"),
    (0xf4, "ЗшШэЭщЩчЧ§■\u00a0")]

/-- Hebrew. -/
def cp856 : Table where
  spans := [
    (0x80, 0x9a, 0x5d0)]
  runs := [
    (0x9b, "\ufffd£\ufffd×\ufffd\ufffd\ufffd\ufffd\ufffd\ufffd\ufffd\ufffd\ufffd\ufffd®¬½¼\ufffd"),
    (0xae, "«»░▒▓│┤\ufffd\ufffd\ufffd©╣║╗╝¢¥┐└┴┬├─┼\ufffd\ufffd╚╔╩╦╠═╬¤\ufffd\ufffd\ufffd\ufffd"),
    (0xd4, "\ufffd"),
    (0xd5, "\ufffd\ufffd\ufffd\ufffd┘┌█▄¦\ufffd▀\ufffd\ufffd\ufffd\ufffd\ufffd\ufffdµ\ufffd"),
    (0xe8, "\ufffd\ufffd\ufffd\ufffd\ufffd\ufffd¯´\u00ad±‗¾¶§÷¸°¨·¹³²■\u00a0")]

/-- Turkish. -/
def cp857 : Table where
  spans := []
  runs := [
    (0x80, "ÇüéâäàåçêëèïîıÄÅÉæÆôöòûùİÖÜø£ØŞşáíóúñÑĞğ¿®¬½¼¡«»░▒▓│┤ÁÂÀ©╣"),
    (0xba, "║╗╝¢¥┐└┴┬├─┼ãÃ╚╔╩╦╠═╬¤ºªÊËÈ\ufffdÍÎÏ┘┌█▄¦Ì▀ÓßÔÒõÕµ\ufffd×ÚÛÙ"),
    (0xed, "ÿ¯´\u00ad±\ufffd¾¶§÷¸°¨·¹³²■\u00a0")]

/-- Western European with the euro sign. -/
def cp858 : Table where
  spans := []
  runs := [
    (0x80, "ÇüéâäàåçêëèïîìÄÅÉæÆôöòûùÿÖÜø£Ø×ƒáíóúñÑªº¿®¬½¼¡«»░▒▓│┤ÁÂÀ©╣"),
    (0xba, "║╗╝¢¥┐└┴┬├─┼ãÃ╚╔╩╦╠═╬¤ðÐÊËÈ€ÍÎÏ┘┌█▄¦Ì▀ÓßÔÒõÕµþÞÚÛÙýÝ¯´\u00ad±‗¾"),
    (0xf4, "¶§÷¸°¨·¹³²■\u00a0")]

/-- Portuguese. -/
def cp860 : Table where
  spans := []
  runs := [
    (0x80, "ÇüéâãàÁçêÊèÍÔìÃÂÉÀÈôõòÚùÌÕÜ¢£Ù₧ÓáíóúñÑªº¿Ò¬½¼¡«»░▒▓│┤╡╢╖╕╣"),
    (0xba, "║╗╝╜╛┐└┴┬├─┼╞╟╚╔╩╦╠═╬╧╨╤╥╙╘╒╓╫╪┘┌█▄▌▐▀αßΓπΣσµτΦΘΩδ∞φε∩≡±≥≤"),
    (0xf4, "⌠⌡÷≈°∙·√ⁿ²■\u00a0")]

/-- Icelandic. -/
def cp861 : Table where
  spans := []
  runs := [
    (0x80, "ÇüéâäàåçêëèÐðÞÄÅÉæÆôöþûÝýÖÜø£Ø₧ƒáíóúÁÍÓÚ¿⌐¬½¼¡«»░▒▓│┤╡╢╖╕╣"),
    (0xba, "║╗╝╜╛┐└┴┬├─┼╞╟╚╔╩╦╠═╬╧╨╤╥╙╘╒╓╫╪┘┌█▄▌▐▀αßΓπΣσµτΦΘΩδ∞φε∩≡±≥≤"),
    (0xf4, "⌠⌡÷≈°∙·√ⁿ²■\u00a0")]

/-- Hebrew with frames. -/
def cp862 : Table where
  spans := [
    (0x80, 0x9a, 0x5d0)]
  runs := [
    (0x9b, "¢£¥₧ƒáíóúñÑªº¿⌐¬½¼¡«»░▒▓│┤╡╢╖╕╣║╗╝╜╛┐└┴┬├─┼╞╟╚╔╩╦╠═╬╧╨╤╥╙╘"),
    (0xd5, "╒╓╫╪┘┌█▄▌▐▀αßΓπΣσµτΦΘΩδ∞φε∩≡±≥≤⌠⌡÷≈°∙·√ⁿ²■\u00a0")]

/-- Canadian French. -/
def cp863 : Table where
  spans := []
  runs := [
    (0x80, "ÇüéâÂà¶çêëèïî‗À§ÉÈÊôËÏûù¤ÔÜ¢£ÙÛƒ¦´óú¨¸³¯Î⌐¬½¼¾«»░▒▓│┤╡╢╖╕╣"),
    (0xba, "║╗╝╜╛┐└┴┬├─┼╞╟╚╔╩╦╠═╬╧╨╤╥╙╘╒╓╫╪┘┌█▄▌▐▀αßΓπΣσµτΦΘΩδ∞φε∩≡±≥≤"),
    (0xf4, "⌠⌡÷≈°∙·√ⁿ²■\u00a0")]

/-- Arabic letter forms. -/
def cp864 : Table where
  spans := [
    (0xb0, 0xb9, 0x660)]
  runs := [
    (0x25, "٪"), (0x80, "°·∙√▒─│┼┤┬├┴┐┌└┘β∞φ±½¼≈«»\ufef7\ufef8\ufffd\ufffd\ufefb\ufefc\ufffd"),
    (0xa1, "\u00ad\ufe82"), (0xa5, "\ufe84\ufffd\ufffd\ufe8e\ufe8f\ufe95\ufe99،\ufe9d\ufea1\ufea5"),
    (0xba, "\ufed1\u061b\ufeb1\ufeb5\ufeb9\u061f¢\ufe80\ufe81\ufe83\ufe85\ufeca\ufe8b\ufe8d"),
    (0xc8, "\ufe91\ufe93\ufe97\ufe9b\ufe9f\ufea3\ufea7\ufea9\ufeab\ufead\ufeaf\ufeb3\ufeb7\ufebb"),
    (0xd6, "\ufebf\ufec1\ufec5\ufecb\ufecf¦¬÷×\ufec9\u0640\ufed3\ufed7\ufedb\ufedf\ufee3\ufee7"),
    (0xe7, "\ufeeb\ufeed\ufeef\ufef3\ufebd\ufecc\ufece\ufecd\ufee1\ufe7d\u0651\ufee5\ufee9"),
    (0xf4, "\ufeec\ufef0\ufef2\ufed0\ufed5\ufef5\ufef6\ufedd\ufed9\ufef1■\ufffd")]

/-- Nordic. -/
def cp865 : Table where
  spans := []
  runs := [
    (0x80, "ÇüéâäàåçêëèïîìÄÅÉæÆôöòûùÿÖÜø£Ø₧ƒáíóúñÑªº¿⌐¬½¼¡«¤░▒▓│┤╡╢╖╕╣"),
    (0xba, "║╗╝╜╛┐└┴┬├─┼╞╟╚╔╩╦╠═╬╧╨╤╥╙╘╒╓╫╪┘┌█▄▌▐▀αßΓπΣσµτΦΘΩδ∞φε∩≡±≥≤"),
    (0xf4, "⌠⌡÷≈°∙·√ⁿ²■\u00a0")]

/-- Russian. -/
def cp866 : Table where
  spans := [
    (0x80, 0xaf, 0x410), (0xe0, 0xef, 0x440)]
  runs := [
    (0xb0, "░▒▓│┤╡╢╖╕╣║╗╝╜╛┐└┴┬├─┼╞╟╚╔╩╦╠═╬╧╨╤╥╙╘╒╓╫╪┘┌█▄▌▐▀"), (0xf0, "ЁёЄєЇїЎў°∙·√№¤■\u00a0")]

/-- Greek with frames. -/
def cp869 : Table where
  spans := [
    (0xe0, 0xeb, 0x3b6)]
  runs := [
    (0x80, "\ufffd\ufffd\ufffd\ufffd\ufffd\ufffdΆ\ufffd·¬¦‘’Έ―ΉΊΪΌ\ufffd\ufffdΎΫ©Ώ²³ά£έήίϊΐόύΑΒΓ"),
    (0xa7, "ΔΕΖΗ½ΘΙ«»░▒▓│┤ΚΛΜΝ╣"), (0xba, "║╗╝ΞΟ┐└┴┬├─┼ΠΡ╚╔╩╦╠═╬ΣΤΥΦΧΨΩαβγ┘┌█▄δε▀"),
    (0xec, "σςτ΄\u00ad±υφχ§ψ΅°¨ωϋΰώ■\u00a0")]

/-- Ukrainian. -/
def cp1125 : Table where
  spans := [
    (0x80, 0xaf, 0x410), (0xe0, 0xef, 0x440)]
  runs := [
    (0xb0, "░▒▓│┤╡╢╖╕╣║╗╝╜╛┐└┴┬├─┼╞╟╚╔╩╦╠═╬╧╨╤╥╙╘╒╓╫╪┘┌█▄▌▐▀"), (0xf0, "ЁёҐґЄєІіЇї·√№¤■\u00a0")]

/-- Urdu. -/
def cp1006 : Table where
  spans := [
    (0xa1, 0xaa, 0x6f0), (0xd7, 0xdf, 0xfec9)]
  runs := [
    (0xab, "،\u061b"),
    (0xae, "\u061f\ufe81\ufe8d\ufe8e\ufe8e\ufe8f\ufe91\ufb56\ufb58\ufe93\ufe95\ufe97\ufb66\ufb68"),
    (0xbc, "\ufe99\ufe9b\ufe9d\ufe9f\ufb7a\ufb7c\ufea1\ufea3\ufea5\ufea7\ufea9\ufb84\ufeab\ufead"),
    (0xca, "\ufb8c\ufeaf\ufb8a\ufeb1\ufeb3\ufeb5\ufeb7\ufeb9\ufebb\ufebd\ufebf\ufec1\ufec5"),
    (0xe0, "\ufed3\ufed5\ufed7\ufed9\ufedb\ufb92\ufb94\ufedd\ufedf\ufee0\ufee1\ufee3\ufb9e\ufee5"),
    (0xee, "\ufee7\ufe85\ufeed\ufba6\ufba8\ufba9\ufbaa\ufe80\ufe89\ufe8a\ufe8b\ufef1\ufef2\ufef3"),
    (0xfc, "\ufbb0\ufbae\ufe7c\ufe7d")]

end SearchAnnotation.Encoding.Table
