import SearchAnnotation.Encoding.Utf8
import SearchAnnotation.Json.Reader

/-!
# Percent coding

A character outside a safe set is written as the octets of its encoding, each as a percent sign
and two hexadecimal digits in upper case. Reading turns every such escape back into its octet;
a percent sign that starts no escape stands for itself.
-/

namespace SearchAnnotation.Text

/-- Letters, digits and the four marks that never need coding. -/
def isUnreserved (c : Char) : Bool :=
  c.isAlphanum || c == '-' || c == '.' || c == '_' || c == '~'

/-- The upper-case hexadecimal digit of a number below sixteen. -/
def upperHexDigit (n : Nat) : Char :=
  if n < 10 then Char.ofNat ('0'.toNat + n) else Char.ofNat ('A'.toNat + n - 10)

/-- An octet as an escape. -/
def percentOctet (b : UInt8) : List Char :=
  ['%', upperHexDigit (b.toNat / 16), upperHexDigit (b.toNat % 16)]

/-- A text with every character outside the safe set coded. -/
def percentEncode (safe : Char → Bool) (cs : List Char) : List Char :=
  cs.flatMap fun c =>
    if safe c then [c] else (String.utf8EncodeChar c).flatMap percentOctet

/-- The octets that a coded text stands for. -/
def percentOctets : List Char → List UInt8
  | '%' :: a :: b :: rest =>
    match Json.hexDigit? a, Json.hexDigit? b with
    | some high, some low => UInt8.ofNat (high * 16 + low) :: percentOctets rest
    | _, _ => Encoding.toUtf8 ['%'] ++ percentOctets (a :: b :: rest)
  | c :: rest => Encoding.toUtf8 [c] ++ percentOctets rest
  | [] => []

/-- The text that a coded text stands for, malformed octets replaced. -/
def percentDecode (cs : List Char) : List Char := Encoding.lossy (Encoding.utf8 (percentOctets cs))

/-- One part of a form: blanks are plus signs and all but unreserved characters are coded. -/
def formEncode (cs : List Char) : List Char :=
  cs.flatMap fun c => if c == ' ' then ['+'] else percentEncode isUnreserved [c]

example : String.ofList (formEncode "é &~".toList) = "%C3%A9+%26~" := by decide +kernel

end SearchAnnotation.Text
