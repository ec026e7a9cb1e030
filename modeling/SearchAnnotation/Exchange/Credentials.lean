import SearchAnnotation.Exchange.Message

/-!
# Credentials in an address

A user part with a name or a password becomes an authorization header: the two, joined by a
colon, in groups of six bits.
-/

namespace SearchAnnotation.Exchange.Credentials

/-- The character for six bits. -/
def sixBits (n : Nat) : Char :=
  if n < 26 then Char.ofNat ('A'.toNat + n)
  else if n < 52 then Char.ofNat ('a'.toNat + n - 26)
  else if n < 62 then Char.ofNat ('0'.toNat + n - 52)
  else if n = 62 then '+' else '/'

/-- Octets in groups of six bits, filled up with equals signs. -/
def encode : List UInt8 → List Char
  | a :: b :: c :: rest =>
    let n := (a.toNat * 256 + b.toNat) * 256 + c.toNat
    sixBits (n / 262144) :: sixBits (n / 4096 % 64) :: sixBits (n / 64 % 64) ::
      sixBits (n % 64) :: encode rest
  | [a, b] =>
    let n := (a.toNat * 256 + b.toNat) * 256
    [sixBits (n / 262144), sixBits (n / 4096 % 64), sixBits (n / 64 % 64), '=']
  | [a] =>
    let n := a.toNat * 65536
    [sixBits (n / 262144), sixBits (n / 4096 % 64), '=', '=']
  | [] => []

/-- The authorization that a user part asks for, if it has a name or a password. -/
def ofUserinfo (userinfo : List Char) : Option String :=
  let name := Text.percentDecode (userinfo.takeWhile (· != ':'))
  let password := Text.percentDecode ((userinfo.dropWhile (· != ':')).drop 1)
  if name.isEmpty && password.isEmpty then none
  else some ("Basic " ++ String.ofList (encode (Encoding.toUtf8 (name ++ ':' :: password))))

/-- A request with the authorization that its address asks for. -/
def authorize (request : Request) : Request :=
  match ofUserinfo request.address.userinfo with
  | some value => { request with headers := request.headers.merge [("authorization", value)] }
  | none => request

example : encode "user:x".toUTF8.toList = "dXNlcjp4".toList := by decide +kernel

end SearchAnnotation.Exchange.Credentials
