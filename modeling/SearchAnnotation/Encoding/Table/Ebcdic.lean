import SearchAnnotation.Encoding.Table

/-!
# Character sets that came from punched cards

Nearly every octet has another character than its number.
-/

namespace SearchAnnotation.Encoding.Table

/-- American. -/
def cp037 : Table where
  spans := [
    (0x81, 0x89, 0x61), (0x91, 0x99, 0x6a), (0xa2, 0xa9, 0x73), (0xc1, 0xc9, 0x41),
    (0xd1, 0xd9, 0x4a), (0xe2, 0xe9, 0x53), (0xf0, 0xf9, 0x30)]
  runs := [
    (0x4, "\u009c\x09\u0086\x7f\u0097\u008d\u008e"), (0x14, "\u009d\u0085\x08\u0087"),
    (0x1a, "\u0092\u008f"),
    (0x20, "\u0080\u0081\u0082\u0083\u0084\x0a\x17\x1b\u0088\u0089\u008a\u008b\u008c\x05\x06\x07"),
    (0x30, "\u0090\u0091\x16\u0093\u0094\u0095\u0096\x04\u0098\u0099\u009a\u009b\x14\x15\u009e"),
    (0x3f, "\x1a \u00a0âäàáãåçñ¢.<(+|&éêëèíîïìß"),
    (0x5a, "!$*);¬-/ÂÄÀÁÃÅÇÑ¦,%_>?øÉÊËÈÍÎÏÌ`:#@'=\"Ø"), (0x8a, "«»ðýþ±°"), (0x9a, "ªºæ¸Æ¤µ~"),
    (0xaa, "¡¿ÐÝÞ®^£¥·©§"), (0xb7, "¼½¾[]¯¨´×\x7b"), (0xca, "\u00adôöòóõ\x7d"), (0xda, "¹ûüùúÿ\\÷"),
    (0xea, "²ÔÖÒÓÕ"), (0xfa, "³ÛÜÙÚ\u009f")]

/-- German. -/
def cp273 : Table where
  spans := [
    (0x81, 0x89, 0x61), (0x91, 0x99, 0x6a), (0xa2, 0xa9, 0x73), (0xc1, 0xc9, 0x41),
    (0xd1, 0xd9, 0x4a), (0xe2, 0xe9, 0x53), (0xf0, 0xf9, 0x30)]
  runs := [
    (0x4, "\u009c\x09\u0086\x7f\u0097\u008d\u008e"), (0x14, "\u009d\u0085\x08\u0087"),
    (0x1a, "\u0092\u008f"),
    (0x20, "\u0080\u0081\u0082\u0083\u0084\x0a\x17\x1b\u0088\u0089\u008a\u008b\u008c\x05\x06\x07"),
    (0x30, "\u0090\u0091\x16\u0093\u0094\u0095\u0096\x04\u0098\u0099\u009a\u009b\x14\x15\u009e"),
    (0x3f, "\x1a \u00a0â\x7bàáãåçñÄ.<(+!&éêëèíîïì~"),
    (0x5a, "Ü$*);^-/Â[ÀÁÃÅÇÑö,%_>?øÉÊËÈÍÎÏÌ`:#§'=\"Ø"), (0x8a, "«»ðýþ±°"), (0x9a, "ªºæ¸Æ¤µß"),
    (0xaa, "¡¿ÐÝÞ®¢£¥·©@"), (0xb7, "¼½¾¬|‾¨´×ä"), (0xca, "\u00adô¦òóõü"), (0xda, "¹û\x7dùúÿÖ÷"),
    (0xea, "²Ô\\ÒÓÕ"), (0xfa, "³Û]ÙÚ\u009f")]

/-- Hebrew. -/
def cp424 : Table where
  spans := [
    (0x41, 0x49, 0x5d0), (0x51, 0x59, 0x5d9), (0x62, 0x69, 0x5e2), (0x81, 0x89, 0x61),
    (0x91, 0x99, 0x6a), (0xa2, 0xa9, 0x73), (0xc1, 0xc9, 0x41), (0xd1, 0xd9, 0x4a),
    (0xe2, 0xe9, 0x53), (0xf0, 0xf9, 0x30)]
  runs := [
    (0x4, "\u009c\x09\u0086\x7f\u0097\u008d\u008e"), (0x14, "\u009d\u0085\x08\u0087"),
    (0x1a, "\u0092\u008f"),
    (0x20, "\u0080\u0081\u0082\u0083\u0084\x0a\x17\x1b\u0088\u0089\u008a\u008b\u008c\x05\x06\x07"),
    (0x30, "\u0090\u0091\x16\u0093\u0094\u0095\u0096\x04\u0098\u0099\u009a\u009b\x14\x15\u009e"),
    (0x3f, "\x1a "), (0x4a, "¢.<(+|&"), (0x5a, "!$*);¬-/"),
    (0x6a, "¦,%_>?\ufffd\u05ea\ufffd\ufffd\u00a0\ufffd\ufffd\ufffd‗`:#@'=\"\ufffd"),
    (0x8a, "«»\ufffd\ufffd\ufffd±°"), (0x9a, "\ufffd\ufffd\ufffd¸\ufffd¤µ~"),
    (0xaa, "\ufffd\ufffd\ufffd\ufffd\ufffd®^£¥·©§"), (0xb7, "¼½¾[]¯¨´×\x7b"),
    (0xca, "\u00ad\ufffd\ufffd\ufffd\ufffd\ufffd\x7d"),
    (0xda, "¹\ufffd\ufffd\ufffd\ufffd\ufffd\\÷"), (0xea, "²\ufffd\ufffd\ufffd\ufffd\ufffd"),
    (0xfa, "³\ufffd\ufffd\ufffd\ufffd\u009f")]

/-- International. -/
def cp500 : Table where
  spans := [
    (0x81, 0x89, 0x61), (0x91, 0x99, 0x6a), (0xa2, 0xa9, 0x73), (0xc1, 0xc9, 0x41),
    (0xd1, 0xd9, 0x4a), (0xe2, 0xe9, 0x53), (0xf0, 0xf9, 0x30)]
  runs := [
    (0x4, "\u009c\x09\u0086\x7f\u0097\u008d\u008e"), (0x14, "\u009d\u0085\x08\u0087"),
    (0x1a, "\u0092\u008f"),
    (0x20, "\u0080\u0081\u0082\u0083\u0084\x0a\x17\x1b\u0088\u0089\u008a\u008b\u008c\x05\x06\x07"),
    (0x30, "\u0090\u0091\x16\u0093\u0094\u0095\u0096\x04\u0098\u0099\u009a\u009b\x14\x15\u009e"),
    (0x3f, "\x1a \u00a0âäàáãåçñ[.<(+!&éêëèíîïìß"),
    (0x5a, "]$*);^-/ÂÄÀÁÃÅÇÑ¦,%_>?øÉÊËÈÍÎÏÌ`:#@'=\"Ø"), (0x8a, "«»ðýþ±°"), (0x9a, "ªºæ¸Æ¤µ~"),
    (0xaa, "¡¿ÐÝÞ®¢£¥·©§"), (0xb7, "¼½¾¬|¯¨´×\x7b"), (0xca, "\u00adôöòóõ\x7d"), (0xda, "¹ûüùúÿ\\÷"),
    (0xea, "²ÔÖÒÓÕ"), (0xfa, "³ÛÜÙÚ\u009f")]

/-- Greek. -/
def cp875 : Table where
  spans := [
    (0x41, 0x49, 0x391), (0x51, 0x58, 0x39a), (0x62, 0x69, 0x3a4), (0x81, 0x89, 0x61),
    (0x91, 0x99, 0x6a), (0xa2, 0xa9, 0x73), (0xc1, 0xc9, 0x41), (0xd1, 0xd9, 0x4a),
    (0xe2, 0xe9, 0x53), (0xf0, 0xf9, 0x30)]
  runs := [
    (0x4, "\u009c\x09\u0086\x7f\u0097\u008d\u008e"), (0x14, "\u009d\u0085\x08\u0087"),
    (0x1a, "\u0092\u008f"),
    (0x20, "\u0080\u0081\u0082\u0083\u0084\x0a\x17\x1b\u0088\u0089\u008a\u008b\u008c\x05\x06\x07"),
    (0x30, "\u0090\u0091\x16\u0093\u0094\u0095\u0096\x04\u0098\u0099\u009a\u009b\x14\x15\u009e"),
    (0x3f, "\x1a "), (0x4a, "[.<(+!&"), (0x59, "Σ]$*);^-/"),
    (0x6a, "|,%_>?¨ΆΈΉ\u00a0ΊΌΎΏ`:#@'=\"΅"), (0x8a, "αβγδεζ°"), (0x9a, "ηθικλμ´~"),
    (0xaa, "νξοπρσ£άέήϊίόύϋώςτυφχψ\x7b"), (0xca, "\u00adωΐΰ‘―\x7d"), (0xda, "±½\x1a·’¦\\\x1a"),
    (0xea, "²§\x1a\x1a«¬"), (0xfa, "³©\x1a\x1a»\u009f")]

/-- Turkish. -/
def cp1026 : Table where
  spans := [
    (0x81, 0x89, 0x61), (0x91, 0x99, 0x6a), (0xa2, 0xa9, 0x73), (0xc1, 0xc9, 0x41),
    (0xd1, 0xd9, 0x4a), (0xe2, 0xe9, 0x53), (0xf0, 0xf9, 0x30)]
  runs := [
    (0x4, "\u009c\x09\u0086\x7f\u0097\u008d\u008e"), (0x14, "\u009d\u0085\x08\u0087"),
    (0x1a, "\u0092\u008f"),
    (0x20, "\u0080\u0081\u0082\u0083\u0084\x0a\x17\x1b\u0088\u0089\u008a\u008b\u008c\x05\x06\x07"),
    (0x30, "\u0090\u0091\x16\u0093\u0094\u0095\u0096\x04\u0098\u0099\u009a\u009b\x14\x15\u009e"),
    (0x3f, "\x1a \u00a0âäàáãå\x7bñÇ.<(+!&éêëèíîïìß"),
    (0x5a, "Ğİ*);^-/ÂÄÀÁÃÅ[Ñş,%_>?øÉÊËÈÍÎÏÌı:ÖŞ'=ÜØ"), (0x8a, "«»\x7d`¦±°"), (0x9a, "ªºæ¸Æ¤µö"),
    (0xaa, "¡¿]$@®¢£¥·©§"), (0xb7, "¼½¾¬|¯¨´×ç"), (0xca, "\u00adô~òóõğ"), (0xda, "¹û\\ùúÿü÷"),
    (0xea, "²Ô#ÒÓÕ"), (0xfa, "³Û\"ÙÚ\u009f")]

/-- American with the euro sign. -/
def cp1140 : Table where
  spans := [
    (0x81, 0x89, 0x61), (0x91, 0x99, 0x6a), (0xa2, 0xa9, 0x73), (0xc1, 0xc9, 0x41),
    (0xd1, 0xd9, 0x4a), (0xe2, 0xe9, 0x53), (0xf0, 0xf9, 0x30)]
  runs := [
    (0x4, "\u009c\x09\u0086\x7f\u0097\u008d\u008e"), (0x14, "\u009d\u0085\x08\u0087"),
    (0x1a, "\u0092\u008f"),
    (0x20, "\u0080\u0081\u0082\u0083\u0084\x0a\x17\x1b\u0088\u0089\u008a\u008b\u008c\x05\x06\x07"),
    (0x30, "\u0090\u0091\x16\u0093\u0094\u0095\u0096\x04\u0098\u0099\u009a\u009b\x14\x15\u009e"),
    (0x3f, "\x1a \u00a0âäàáãåçñ¢.<(+|&éêëèíîïìß"),
    (0x5a, "!$*);¬-/ÂÄÀÁÃÅÇÑ¦,%_>?øÉÊËÈÍÎÏÌ`:#@'=\"Ø"), (0x8a, "«»ðýþ±°"), (0x9a, "ªºæ¸Æ€µ~"),
    (0xaa, "¡¿ÐÝÞ®^£¥·©§"), (0xb7, "¼½¾[]¯¨´×\x7b"), (0xca, "\u00adôöòóõ\x7d"), (0xda, "¹ûüùúÿ\\÷"),
    (0xea, "²ÔÖÒÓÕ"), (0xfa, "³ÛÜÙÚ\u009f")]

end SearchAnnotation.Encoding.Table
