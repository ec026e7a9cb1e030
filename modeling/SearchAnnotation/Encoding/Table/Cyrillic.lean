import SearchAnnotation.Encoding.Table

/-!
# Cyrillic and lesser character sets

In the first three the Cyrillic letters follow the order of their Latin counterparts.
-/

namespace SearchAnnotation.Encoding.Table

/-- Russian. -/
def koi8r : Table where
  spans := [
    (0xa4, 0xb2, 0x2553), (0xb4, 0xbe, 0x2562), (0xc9, 0xd0, 0x438), (0xe9, 0xf0, 0x418)]
  runs := [
    (0x80, "─│┌┐└┘├┤┬┴┼▀▄█▌▐░▒▓⌠■∙√≈≤≥\u00a0⌡°²·÷═║╒ё"), (0xb3, "Ё"), (0xbf, "©юабцдефгх"),
    (0xd1, "ярстужвьызшэщчъЮАБЦДЕФГХ"), (0xf1, "ЯРСТУЖВЬЫЗШЭЩЧЪ")]

/-- Ukrainian. -/
def koi8u : Table where
  spans := [
    (0xc9, 0xd0, 0x438), (0xe9, 0xf0, 0x418)]
  runs := [
    (0x80, "─│┌┐└┘├┤┬┴┼▀▄█▌▐░▒▓⌠■∙√≈≤≥\u00a0⌡°²·÷═║╒ёє╔ії╗╘╙╚╛ґ╝╞╟╠╡ЁЄ╣ІЇ╦╧"),
    (0xba, "╨╩╪Ґ╬©юабцдефгх"), (0xd1, "ярстужвьызшэщчъЮАБЦДЕФГХ"), (0xf1, "ЯРСТУЖВЬЫЗШЭЩЧЪ")]

/-- Tajik. -/
def koi8t : Table where
  spans := [
    (0xc9, 0xd0, 0x438), (0xe9, 0xf0, 0x418)]
  runs := [
    (0x80, "қғ‚Ғ„…†‡\ufffd‰ҳ‹ҲҷҶ\ufffdҚ‘’“”•–—\ufffd™\ufffd›\ufffd\ufffd\ufffd\ufffd\ufffdӯӮё"),
    (0xa5, "ӣ"), (0xa8, "\ufffd\ufffd\ufffd"), (0xaf, "\ufffd"), (0xb3, "Ё\ufffdӢ"),
    (0xb8, "\ufffd№\ufffd"), (0xbc, "\ufffd\ufffd\ufffd©юабцдефгх"),
    (0xd1, "ярстужвьызшэщчъЮАБЦДЕФГХ"), (0xf1, "ЯРСТУЖВЬЫЗШЭЩЧЪ")]

/-- Kazakh. -/
def kz1048 : Table where
  spans := [
    (0xc0, 0xff, 0x410)]
  runs := [
    (0x80, "ЂЃ‚ѓ„…†‡€‰Љ‹ЊҚҺЏђ‘’“”•–—\ufffd™љ›њқһџ"), (0xa1, "ҰұӘ"), (0xa5, "Ө"), (0xa8, "Ё"),
    (0xaa, "Ғ"), (0xaf, "Ү"), (0xb2, "Ііө"), (0xb8, "ё№ғ"), (0xbc, "әҢңү")]

/-- Asian Cyrillic. -/
def ptcp154 : Table where
  spans := [
    (0xc0, 0xff, 0x410)]
  runs := [
    (0x80, "ҖҒӮғ„…ҶҮҲүҠӢҢҚҺҸҗ‘’“”•–—ҳҷҡӣңқһҹ"), (0xa1, "ЎўЈӨҘҰ"), (0xa8, "Ё"), (0xaa, "Ә"),
    (0xad, "ӯ"), (0xaf, "Ҝ"), (0xb1, "ұІіҙө"), (0xb8, "ё№ә"), (0xbc, "јҪҫҝ")]

/-- Western European of a maker of printers. -/
def roman8 : Table where
  spans := []
  runs := [
    (0xa1, "ÀÂÈÊËÎÏ´ˋˆ¨˜ÙÛ₤¯Ýý°ÇçÑñ¡¿¤£¥§ƒ¢âêôûáéóúàèòùäëöüÅîØÆåíøæÄìÖ"),
    (0xdb, "ÜÉïßÔÁÃãÐðÍÌÓÒÕõŠšÚŸÿÞþ·µ¶¾—¼½ªº«■»±\ufffd")]

/-- Western European of a maker of organisers. -/
def palmos : Table where
  spans := []
  runs := [
    (0x80, "€"), (0x82, "‚ƒ„…†‡ˆ‰Š‹Œ♦♣♥♠‘’“”•–—˜™š"), (0x9c, "œ"), (0x9f, "Ÿ")]

end SearchAnnotation.Encoding.Table
