import Mrtd.Digest.Sha512
import Mrtd.Signature.Modular

/-!
Signatures on the twisted Edwards curve `-x² + y² = 1 + d x² y²` modulo `2^255 - 19`, with points in
extended coordinates.
-/

namespace Mrtd.Ed25519

/-- The field. -/
def prime : Nat := Nat.pow 2 255 - 19

/-- The order of the base point. -/
def order : Nat := Nat.pow 2 252 + 27742317777372353535851937790883648493

/-- The coefficient of the curve. -/
def d : Nat := 37095705934669439343138083508754565189542113879843219016388785533085940283555

/-- A point `(x / z, y / z)` with `t = x y / z`. -/
structure Point where
  x : Nat
  y : Nat
  z : Nat
  t : Nat
deriving DecidableEq, Repr

def neutral : Point := ⟨0, 1, 1, 0⟩

def base : Point :=
  let x := 15112221349535400772501151409588531511454012693041857206046113283949847762202
  let y := 46316835694926478169428394003475163141307993866256225615783033603165251855960
  ⟨x, y, 1, x * y % prime⟩

/-- The sum of two points; the formulas hold for equal points too. -/
def add (q r : Point) : Point :=
  let a := Modular.sub prime q.y q.x * Modular.sub prime r.y r.x % prime
  let b := (q.y + q.x) * (r.y + r.x) % prime
  let c := 2 * d * q.t % prime * r.t % prime
  let e := 2 * q.z * r.z % prime
  let f := Modular.sub prime b a
  let g := Modular.sub prime e c
  let h := (e + c) % prime
  let i := (b + a) % prime
  ⟨f * g % prime, h * i % prime, g * h % prime, f * i % prime⟩

/-- The sum of `m` times `q` and `n` times `r`. -/
def combine (m : Nat) (q : Point) (n : Nat) (r : Point) : Point :=
  let both := add q r
  (List.zip (Modular.bits 256 m) (Modular.bits 256 n)).foldl (fun acc digits =>
    let acc := add acc acc
    match digits with
    | (true, true) => add acc both
    | (true, false) => add acc q
    | (false, true) => add acc r
    | (false, false) => acc) neutral

/-- The number of little-endian octets. -/
def toNat (b : Bytes) : Nat := Bytes.toNat b.reverse

/-- Reads a point: the second coordinate, and in the highest bit the parity of the first. -/
def point? (b : Bytes) : Option Point :=
  if b.length ≠ 32 then none
  else
    let n := toNat b
    let sign := n / Nat.pow 2 255
    let y := n % Nat.pow 2 255 % prime
    let u := Modular.sub prime (y * y % prime) 1
    let v := (d * (y * y % prime) + 1) % prime
    let uv3 := u * (v * v % prime * v % prime) % prime
    let uv7 := uv3 * (v * v % prime * (v * v % prime) % prime) % prime
    let root := uv3 * Modular.pow prime uv7 ((prime - 5) / 8) % prime
    let check := v * (root * root % prime) % prime
    let x? :=
      if check = u then some root
      else if check = Modular.sub prime 0 u then
        some (root * Modular.pow prime 2 ((prime - 1) / 4) % prime)
      else none
    x?.map fun x =>
      let x := if x % 2 = sign then x else Modular.sub prime 0 x
      ⟨x, y, 1, x * y % prime⟩

/-- The encoding of a point. -/
def encode (q : Point) : Bytes :=
  let inverse := Modular.inverse prime q.z
  let x := q.x * inverse % prime
  let y := q.y * inverse % prime
  (Bytes.ofNat 32 (y + x % 2 * Nat.pow 2 255)).reverse

/-- Verifies a signature of 64 octets over a message. -/
def verify (key message signature : Bytes) : Bool :=
  let encoded := signature.take 32
  let s := toNat (signature.drop 32)
  match point? key with
  | some a =>
      let h := toNat (Digest.Sha512.sha512 (encoded ++ key ++ message)) % order
      let negated : Point := ⟨Modular.sub prime 0 a.x, a.y, a.z, Modular.sub prime 0 a.t⟩
      signature.length == 64 && decide (s < order) && encode (combine s base h negated) == encoded
  | none => false

end Mrtd.Ed25519
