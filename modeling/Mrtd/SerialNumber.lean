import Mrtd.Bytes

/-!
Serial numbers compare by a normal form: whole octets of upper-case hexadecimal without leading
zero octets, whatever separators, case and padding the source used.
-/

namespace Mrtd.SerialNumber

/-- The hexadecimal digits of a text in capitals, all other characters dropped. -/
def digits (s : List Char) : List Char :=
  (s.filter fun c => (Hex.value? c).isSome).map Char.toUpper

/-- Digits without leading zeros, completed to whole octets; no digits mean zero. -/
def canonicalDigits (ds : List Char) : List Char :=
  match ds.dropWhile (· == '0') with
  | [] => ['0']
  | d :: rest => if rest.length % 2 = 0 then '0' :: d :: rest else d :: rest

/-- The normal form of a serial number in any spelling. -/
def normalize (s : String) : String :=
  String.ofList (canonicalDigits (digits s.toList))

/-- The normal form of the contents octets of an encoded integer. -/
def ofBytes (b : Bytes) : String :=
  normalize b.toUpperHex

end Mrtd.SerialNumber
