import SearchAnnotation.Encoding.Table

/-!
# The parts of the eight-bit standard

Each part fills the upper half above its controls with the letters of a region. An octet
without a character shows the replacement mark.
-/

namespace SearchAnnotation.Encoding.Table

/-- Central European. -/
def iso2 : Table where
  spans := []
  runs := [
    (0xa1, "Ą˘Ł"), (0xa5, "ĽŚ"), (0xa9, "ŠŞŤŹ"), (0xae, "ŽŻ"), (0xb1, "ą˛ł"), (0xb5, "ľśˇ"),
    (0xb9, "šşťź˝žżŔ"), (0xc3, "Ă"), (0xc5, "ĹĆ"), (0xc8, "Č"), (0xca, "Ę"), (0xcc, "Ě"),
    (0xcf, "ĎĐŃŇ"), (0xd5, "Ő"), (0xd8, "ŘŮ"), (0xdb, "Ű"), (0xde, "Ţ"), (0xe0, "ŕ"), (0xe3, "ă"),
    (0xe5, "ĺć"), (0xe8, "č"), (0xea, "ę"), (0xec, "ě"), (0xef, "ďđńň"), (0xf5, "ő"), (0xf8, "řů"),
    (0xfb, "ű"), (0xfe, "ţ˙")]

/-- South European. -/
def iso3 : Table where
  spans := []
  runs := [
    (0xa1, "Ħ˘"), (0xa5, "\ufffdĤ"), (0xa9, "İŞĞĴ"), (0xae, "\ufffdŻ"), (0xb1, "ħ"), (0xb6, "ĥ"),
    (0xb9, "ışğĵ"), (0xbe, "\ufffdż"), (0xc3, "\ufffd"), (0xc5, "ĊĈ"), (0xd0, "\ufffd"),
    (0xd5, "Ġ"), (0xd8, "Ĝ"), (0xdd, "ŬŜ"), (0xe3, "\ufffd"), (0xe5, "ċĉ"), (0xf0, "\ufffd"),
    (0xf5, "ġ"), (0xf8, "ĝ"), (0xfd, "ŭŝ˙")]

/-- North European. -/
def iso4 : Table where
  spans := []
  runs := [
    (0xa1, "ĄĸŖ"), (0xa5, "ĨĻ"), (0xa9, "ŠĒĢŦ"), (0xae, "Ž"), (0xb1, "ą˛ŗ"), (0xb5, "ĩļˇ"),
    (0xb9, "šēģŧŊžŋĀ"), (0xc7, "ĮČ"), (0xca, "Ę"), (0xcc, "Ė"), (0xcf, "ĪĐŅŌĶ"), (0xd9, "Ų"),
    (0xdd, "ŨŪ"), (0xe0, "ā"), (0xe7, "įč"), (0xea, "ę"), (0xec, "ė"), (0xef, "īđņōķ"), (0xf9, "ų"),
    (0xfd, "ũū˙")]

/-- Cyrillic. -/
def iso5 : Table where
  spans := [
    (0xa1, 0xac, 0x401), (0xae, 0xef, 0x40e), (0xf1, 0xfc, 0x451)]
  runs := [
    (0xf0, "№"), (0xfd, "§ўџ")]

/-- Arabic. -/
def iso6 : Table where
  spans := [
    (0xc1, 0xda, 0x621), (0xe0, 0xf2, 0x640)]
  runs := [
    (0xa1, "\ufffd\ufffd\ufffd"), (0xa5, "\ufffd\ufffd\ufffd\ufffd\ufffd\ufffd\ufffd،"),
    (0xae, "\ufffd\ufffd\ufffd\ufffd\ufffd\ufffd\ufffd\ufffd\ufffd\ufffd\ufffd\ufffd\ufffd\u061b"),
    (0xbc, "\ufffd\ufffd\ufffd\u061f\ufffd"), (0xdb, "\ufffd\ufffd\ufffd\ufffd\ufffd"),
    (0xf3, "\ufffd\ufffd\ufffd\ufffd\ufffd\ufffd\ufffd\ufffd\ufffd\ufffd\ufffd\ufffd\ufffd")]

/-- Greek. -/
def iso7 : Table where
  spans := [
    (0xbe, 0xd1, 0x38e), (0xd3, 0xfe, 0x3a3)]
  runs := [
    (0xa1, "‘’"), (0xa4, "€₯"), (0xaa, "ͺ"), (0xae, "\ufffd―"), (0xb4, "΄΅Ά"), (0xb8, "ΈΉΊ"),
    (0xbc, "Ό"), (0xd2, "\ufffd"), (0xff, "\ufffd")]

/-- Hebrew. -/
def iso8 : Table where
  spans := [
    (0xe0, 0xfa, 0x5d0)]
  runs := [
    (0xa1, "\ufffd"), (0xaa, "×"), (0xba, "÷"),
    (0xbf, "\ufffd\ufffd\ufffd\ufffd\ufffd\ufffd\ufffd\ufffd\ufffd\ufffd\ufffd\ufffd\ufffd\ufffd"),
    (0xcd, "\ufffd\ufffd\ufffd\ufffd\ufffd\ufffd\ufffd\ufffd\ufffd\ufffd\ufffd\ufffd\ufffd\ufffd"),
    (0xdb, "\ufffd\ufffd\ufffd\ufffd‗"), (0xfb, "\ufffd\ufffd\u200e\u200f\ufffd")]

/-- Turkish. -/
def iso9 : Table where
  spans := []
  runs := [
    (0xd0, "Ğ"), (0xdd, "İŞ"), (0xf0, "ğ"), (0xfd, "ış")]

/-- Nordic. -/
def iso10 : Table where
  spans := []
  runs := [
    (0xa1, "ĄĒĢĪĨĶ"), (0xa8, "ĻĐŠŦŽ"), (0xae, "ŪŊ"), (0xb1, "ąēģīĩķ"), (0xb8, "ļđšŧž―ūŋĀ"),
    (0xc7, "ĮČ"), (0xca, "Ę"), (0xcc, "Ė"), (0xd1, "ŅŌ"), (0xd7, "Ũ"), (0xd9, "Ų"), (0xe0, "ā"),
    (0xe7, "įč"), (0xea, "ę"), (0xec, "ė"), (0xf1, "ņō"), (0xf7, "ũ"), (0xf9, "ų"), (0xff, "ĸ")]

/-- Thai. -/
def iso11 : Table where
  spans := [
    (0xa1, 0xda, 0xe01), (0xdf, 0xfb, 0xe3f)]
  runs := [
    (0xdb, "\ufffd\ufffd\ufffd\ufffd"), (0xfc, "\ufffd\ufffd\ufffd\ufffd")]

/-- Baltic. -/
def iso13 : Table where
  spans := []
  runs := [
    (0xa1, "”"), (0xa5, "„"), (0xa8, "Ø"), (0xaa, "Ŗ"), (0xaf, "Æ"), (0xb4, "“"), (0xb8, "ø"),
    (0xba, "ŗ"), (0xbf, "æĄĮĀĆ"), (0xc6, "ĘĒČ"), (0xca, "ŹĖĢĶĪĻŠŃŅ"), (0xd4, "Ō"), (0xd8, "ŲŁŚŪ"),
    (0xdd, "ŻŽ"), (0xe0, "ąįāć"), (0xe6, "ęēč"), (0xea, "źėģķīļšńņ"), (0xf4, "ō"), (0xf8, "ųłśū"),
    (0xfd, "żž’")]

/-- Celtic. -/
def iso14 : Table where
  spans := []
  runs := [
    (0xa1, "Ḃḃ"), (0xa4, "ĊċḊ"), (0xa8, "Ẁ"), (0xaa, "ẂḋỲ"), (0xaf, "ŸḞḟĠġṀṁ"), (0xb7, "ṖẁṗẃṠỳẄẅṡ"),
    (0xd0, "Ŵ"), (0xd7, "Ṫ"), (0xde, "Ŷ"), (0xf0, "ŵ"), (0xf7, "ṫ"), (0xfe, "ŷ")]

/-- Western European with the euro sign. -/
def iso15 : Table where
  spans := []
  runs := [
    (0xa4, "€"), (0xa6, "Š"), (0xa8, "š"), (0xb4, "Ž"), (0xb8, "ž"), (0xbc, "ŒœŸ")]

/-- South-Eastern European. -/
def iso16 : Table where
  spans := []
  runs := [
    (0xa1, "ĄąŁ€„Š"), (0xa8, "š"), (0xaa, "Ș"), (0xac, "Ź"), (0xae, "źŻ"), (0xb2, "ČłŽ”"),
    (0xb8, "žčș"), (0xbc, "ŒœŸż"), (0xc3, "Ă"), (0xc5, "Ć"), (0xd0, "ĐŃ"), (0xd5, "Ő"),
    (0xd7, "ŚŰ"), (0xdd, "ĘȚ"), (0xe3, "ă"), (0xe5, "ć"), (0xf0, "đń"), (0xf5, "ő"), (0xf7, "śű"),
    (0xfd, "ęț")]

/-- Thai, without the fixed blank. -/
def thai : Table where
  spans := [
    (0xa1, 0xda, 0xe01), (0xdf, 0xfb, 0xe3f)]
  runs := [
    (0xa0, "\ufffd"), (0xdb, "\ufffd\ufffd\ufffd\ufffd"), (0xfc, "\ufffd\ufffd\ufffd\ufffd")]

end SearchAnnotation.Encoding.Table
