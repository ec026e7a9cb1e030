import SearchAnnotation.Encoding.Table

/-!
# Code pages with letters among the upper controls

These code pages put quotation marks and letters where the eight-bit standard has controls.
-/

namespace SearchAnnotation.Encoding.Table

/-- Central European. -/
def cp1250 : Table where
  spans := []
  runs := [
    (0x80, "€\ufffd‚\ufffd„…†‡\ufffd‰Š‹ŚŤŽŹ\ufffd‘’“”•–—\ufffd™š›śťžź"), (0xa1, "ˇ˘Ł"), (0xa5, "Ą"),
    (0xaa, "Ş"), (0xaf, "Ż"), (0xb2, "˛ł"), (0xb9, "ąş"), (0xbc, "Ľ˝ľżŔ"), (0xc3, "Ă"),
    (0xc5, "ĹĆ"), (0xc8, "Č"), (0xca, "Ę"), (0xcc, "Ě"), (0xcf, "ĎĐŃŇ"), (0xd5, "Ő"), (0xd8, "ŘŮ"),
    (0xdb, "Ű"), (0xde, "Ţ"), (0xe0, "ŕ"), (0xe3, "ă"), (0xe5, "ĺć"), (0xe8, "č"), (0xea, "ę"),
    (0xec, "ě"), (0xef, "ďđńň"), (0xf5, "ő"), (0xf8, "řů"), (0xfb, "ű"), (0xfe, "ţ˙")]

/-- Cyrillic. -/
def cp1251 : Table where
  spans := [
    (0xc0, 0xff, 0x410)]
  runs := [
    (0x80, "ЂЃ‚ѓ„…†‡€‰Љ‹ЊЌЋЏђ‘’“”•–—\ufffd™љ›њќћџ"), (0xa1, "ЎўЈ"), (0xa5, "Ґ"), (0xa8, "Ё"),
    (0xaa, "Є"), (0xaf, "Ї"), (0xb2, "Ііґ"), (0xb8, "ё№є"), (0xbc, "јЅѕї")]

/-- Western European. -/
def cp1252 : Table where
  spans := []
  runs := [
    (0x80, "€\ufffd‚ƒ„…†‡ˆ‰Š‹Œ\ufffdŽ\ufffd\ufffd‘’“”•–—˜™š›œ\ufffdžŸ")]

/-- Greek. -/
def cp1253 : Table where
  spans := [
    (0xbe, 0xd1, 0x38e), (0xd3, 0xfe, 0x3a3)]
  runs := [
    (0x80, "€\ufffd‚ƒ„…†‡\ufffd‰\ufffd‹\ufffd\ufffd\ufffd\ufffd\ufffd‘’“”•–—\ufffd™\ufffd›\ufffd"),
    (0x9d, "\ufffd\ufffd\ufffd"), (0xa1, "΅Ά"), (0xaa, "\ufffd"), (0xaf, "―"), (0xb4, "΄"),
    (0xb8, "ΈΉΊ"), (0xbc, "Ό"), (0xd2, "\ufffd"), (0xff, "\ufffd")]

/-- Turkish. -/
def cp1254 : Table where
  spans := []
  runs := [
    (0x80, "€\ufffd‚ƒ„…†‡ˆ‰Š‹Œ\ufffd\ufffd\ufffd\ufffd‘’“”•–—˜™š›œ\ufffd\ufffdŸ"), (0xd0, "Ğ"),
    (0xdd, "İŞ"), (0xf0, "ğ"), (0xfd, "ış")]

/-- Hebrew. -/
def cp1255 : Table where
  spans := [
    (0xc0, 0xc9, 0x5b0), (0xcb, 0xd3, 0x5bb), (0xe0, 0xfa, 0x5d0)]
  runs := [
    (0x80, "€\ufffd‚ƒ„…†‡ˆ‰\ufffd‹\ufffd\ufffd\ufffd\ufffd\ufffd‘’“”•–—˜™\ufffd›\ufffd\ufffd"),
    (0x9e, "\ufffd\ufffd"), (0xa4, "₪"), (0xaa, "×"), (0xba, "÷"), (0xca, "\ufffd"),
    (0xd4, "\u05f0\u05f1\u05f2\u05f3\u05f4\ufffd\ufffd\ufffd\ufffd\ufffd\ufffd\ufffd"),
    (0xfb, "\ufffd\ufffd\u200e\u200f\ufffd")]

/-- Arabic. -/
def cp1256 : Table where
  spans := [
    (0xc1, 0xd6, 0x621)]
  runs := [
    (0x80, "€\u067e‚ƒ„…†‡ˆ‰\u0679‹Œ\u0686\u0698\u0688\u06af‘’“”•–—\u06a9™\u0691›œ\u200c\u200d"),
    (0x9f, "\u06ba"), (0xa1, "،"), (0xaa, "\u06be"), (0xba, "\u061b"), (0xbf, "\u061f\u06c1"),
    (0xd8, "\u0637\u0638\u0639\u063a\u0640\u0641\u0642\u0643"), (0xe1, "\u0644"),
    (0xe3, "\u0645\u0646\u0647\u0648"), (0xec, "\u0649\u064a"), (0xf0, "\u064b\u064c\u064d\u064e"),
    (0xf5, "\u064f\u0650"), (0xf8, "\u0651"), (0xfa, "\u0652"), (0xfd, "\u200e\u200f\u06d2")]

/-- Baltic. -/
def cp1257 : Table where
  spans := []
  runs := [
    (0x80, "€\ufffd‚\ufffd„…†‡\ufffd‰\ufffd‹\ufffd¨ˇ¸\ufffd‘’“”•–—\ufffd™\ufffd›\ufffd¯˛\ufffd"),
    (0xa1, "\ufffd"), (0xa5, "\ufffd"), (0xa8, "Ø"), (0xaa, "Ŗ"), (0xaf, "Æ"), (0xb8, "ø"),
    (0xba, "ŗ"), (0xbf, "æĄĮĀĆ"), (0xc6, "ĘĒČ"), (0xca, "ŹĖĢĶĪĻŠŃŅ"), (0xd4, "Ō"), (0xd8, "ŲŁŚŪ"),
    (0xdd, "ŻŽ"), (0xe0, "ąįāć"), (0xe6, "ęēč"), (0xea, "źėģķīļšńņ"), (0xf4, "ō"), (0xf8, "ųłśū"),
    (0xfd, "żž˙")]

/-- Vietnamese. -/
def cp1258 : Table where
  spans := []
  runs := [
    (0x80, "€\ufffd‚ƒ„…†‡ˆ‰\ufffd‹Œ\ufffd\ufffd\ufffd\ufffd‘’“”•–—˜™\ufffd›œ\ufffd\ufffdŸ"),
    (0xc3, "Ă"), (0xcc, "\u0300"), (0xd0, "Đ"), (0xd2, "\u0309"), (0xd5, "Ơ"), (0xdd, "Ư\u0303"),
    (0xe3, "ă"), (0xec, "\u0301"), (0xf0, "đ"), (0xf2, "\u0323"), (0xf5, "ơ"), (0xfd, "ư₫")]

/-- Thai. -/
def cp874 : Table where
  spans := [
    (0xa1, 0xda, 0xe01), (0xdf, 0xfb, 0xe3f)]
  runs := [
    (0x80, "€\ufffd\ufffd\ufffd\ufffd…\ufffd\ufffd\ufffd\ufffd\ufffd\ufffd\ufffd\ufffd\ufffd"),
    (0x8f, "\ufffd\ufffd‘’“”•–—\ufffd\ufffd\ufffd\ufffd\ufffd\ufffd\ufffd\ufffd"),
    (0xdb, "\ufffd\ufffd\ufffd\ufffd"), (0xfc, "\ufffd\ufffd\ufffd\ufffd")]

end SearchAnnotation.Encoding.Table
