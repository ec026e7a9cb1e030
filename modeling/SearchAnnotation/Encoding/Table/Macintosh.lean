import SearchAnnotation.Encoding.Table

/-!
# The character sets of one family of computers

The upper half holds letters and signs for a region, in an order of its own.
-/

namespace SearchAnnotation.Encoding.Table

/-- Arabic. -/
def macArabic : Table where
  spans := [
    (0xb0, 0xb9, 0x660), (0xc1, 0xda, 0x621), (0xe0, 0xf2, 0x640)]
  runs := [
    (0x80, "Ä\u00a0ÇÉÑÖÜáàâä\u06ba«çéèêëí…îïñó»ôö÷úùûü !\"#$٪&'()*+،-./"),
    (0xba, ":\u061b<=>\u061f❊"), (0xdb, "[\\]^_"),
    (0xf3, "\u067e\u0679\u0686\u06d5\u06a4\u06af\u0688\u0691\x7b|\x7d\u0698\u06d2")]

/-- Croatian. -/
def macCroatian : Table where
  spans := []
  runs := [
    (0x80, "ÄÅÇÉÑÖÜáàâäãåçéèêëíìîïñóòôöõúùûü†°"), (0xa4, "§•¶ß®Š™´¨≠ŽØ∞"), (0xb2, "≤≥∆"),
    (0xb6, "∂∑∏š∫ªºΩžø¿¡¬√ƒ≈Ć«Č…\u00a0ÀÃÕŒœĐ—“”‘’÷◊\uf8ff©⁄€‹›Æ»–·‚„‰ÂćÁčÈÍÎÏÌÓÔ"),
    (0xf0, "đÒÚÛÙıˆ˜¯πË˚¸Êæˇ")]

/-- Cyrillic. -/
def macCyrillic : Table where
  spans := [
    (0x80, 0x9f, 0x410), (0xe0, 0xfe, 0x430)]
  runs := [
    (0xa0, "†°Ґ"), (0xa4, "§•¶І®"), (0xaa, "™Ђђ≠Ѓѓ∞"), (0xb2, "≤≥і"),
    (0xb6, "ґЈЄєЇїЉљЊњјЅ¬√ƒ≈∆«»…\u00a0ЋћЌќѕ–—“”‘’÷„ЎўЏџ№Ёёя"), (0xff, "€")]

/-- Persian. -/
def macFarsi : Table where
  spans := [
    (0xb0, 0xb9, 0x6f0), (0xc1, 0xda, 0x621), (0xe0, 0xf2, 0x640)]
  runs := [
    (0x80, "Ä\u00a0ÇÉÑÖÜáàâä\u06ba«çéèêëí…îïñó»ôö÷úùûü !\"#$٪&'()*+،-./"),
    (0xba, ":\u061b<=>\u061f❊"), (0xdb, "[\\]^_"),
    (0xf3, "\u067e\u0679\u0686\u06d5\u06a4\u06af\u0688\u0691\x7b|\x7d\u0698\u06d2")]

/-- Greek. -/
def macGreek : Table where
  spans := []
  runs := [
    (0x80, "Ä¹²É³ÖÜ΅àâä΄¨çéèêë£™îï•½‰ôö¦€ùûü†ΓΔΘΛΞΠß®"), (0xaa, "ΣΪ§≠°·Α"),
    (0xb2, "≤≥¥ΒΕΖΗΙΚΜΦΫΨΩάΝ¬ΟΡ≈Τ«»…\u00a0ΥΧΆΈœ–―“”‘’÷ΉΊΌΎέήίόΏύαβψδεφγηιξκ"),
    (0xec, "λμνοπώρστθωςχυζϊϋΐΰ\u00ad")]

/-- Icelandic. -/
def macIceland : Table where
  spans := []
  runs := [
    (0x80, "ÄÅÇÉÑÖÜáàâäãåçéèêëíìîïñóòôöõúùûüÝ°"), (0xa4, "§•¶ß®"), (0xaa, "™´¨≠ÆØ∞"), (0xb2, "≤≥¥"),
    (0xb6, "∂∑∏π∫ªºΩæø¿¡¬√ƒ≈∆«»…\u00a0ÀÃÕŒœ–—“”‘’÷◊ÿŸ⁄€Ðð"),
    (0xdf, "þý·‚„‰ÂÊÁËÈÍÎÏÌÓÔ\uf8ffÒÚÛÙıˆ˜¯˘˙˚¸˝˛ˇ")]

/-- Central European. -/
def macLatin2 : Table where
  spans := []
  runs := [
    (0x80, "ÄĀāÉĄÖÜáąČäčĆćéŹźĎíďĒēĖóėôöõúĚěü†°Ę"), (0xa4, "§•¶ß®"),
    (0xaa, "™ę¨≠ģĮįĪ≤≥īĶ∂∑łĻļĽľĹĺŅņŃ¬√ńŇ∆«»…\u00a0ňŐÕőŌ–—“”‘’÷◊ōŔŕŘ‹›řŖŗŠ‚„"),
    (0xe4, "šŚśÁŤťÍŽžŪÓÔūŮÚůŰűŲųÝýķŻŁżĢˇ")]

/-- Western European. -/
def macRoman : Table where
  spans := []
  runs := [
    (0x80, "ÄÅÇÉÑÖÜáàâäãåçéèêëíìîïñóòôöõúùûü†°"), (0xa4, "§•¶ß®"), (0xaa, "™´¨≠ÆØ∞"), (0xb2, "≤≥¥"),
    (0xb6, "∂∑∏π∫ªºΩæø¿¡¬√ƒ≈∆«»…\u00a0ÀÃÕŒœ–—“”‘’÷◊ÿŸ⁄€‹›ﬁﬂ‡·‚„‰ÂÊÁËÈÍÎÏÌÓÔ"),
    (0xf0, "\uf8ffÒÚÛÙıˆ˜¯˘˙˚¸˝˛ˇ")]

/-- Romanian. -/
def macRomanian : Table where
  spans := []
  runs := [
    (0x80, "ÄÅÇÉÑÖÜáàâäãåçéèêëíìîïñóòôöõúùûü†°"), (0xa4, "§•¶ß®"), (0xaa, "™´¨≠ĂȘ∞"), (0xb2, "≤≥¥"),
    (0xb6, "∂∑∏π∫ªºΩăș¿¡¬√ƒ≈∆«»…\u00a0ÀÃÕŒœ–—“”‘’÷◊ÿŸ⁄€‹›Țț‡·‚„‰ÂÊÁËÈÍÎÏÌÓÔ"),
    (0xf0, "\uf8ffÒÚÛÙıˆ˜¯˘˙˚¸˝˛ˇ")]

/-- Turkish. -/
def macTurkish : Table where
  spans := []
  runs := [
    (0x80, "ÄÅÇÉÑÖÜáàâäãåçéèêëíìîïñóòôöõúùûü†°"), (0xa4, "§•¶ß®"), (0xaa, "™´¨≠ÆØ∞"), (0xb2, "≤≥¥"),
    (0xb6, "∂∑∏π∫ªºΩæø¿¡¬√ƒ≈∆«»…\u00a0ÀÃÕŒœ–—“”‘’÷◊ÿŸĞğİıŞş‡·‚„‰ÂÊÁËÈÍÎÏÌÓÔ"),
    (0xf0, "\uf8ffÒÚÛÙ\uf8a0ˆ˜¯˘˙˚¸˝˛ˇ")]

end SearchAnnotation.Encoding.Table
