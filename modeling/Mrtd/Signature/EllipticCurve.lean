import Mrtd.Bytes
import Mrtd.Der.Element
import Mrtd.Signature.Modular

/-!
Elliptic curves over prime fields and signatures on them. Points are kept in Jacobian coordinates,
so that a whole multiplication needs no division.
-/

namespace Mrtd

/-- A curve `y² = x³ + a x + b` over a prime field with a generator of prime order. -/
structure EllipticCurve where
  /-- Octets of a field element. -/
  size : Nat
  prime : Nat
  a : Nat
  b : Nat
  x : Nat
  y : Nat
  order : Nat
deriving DecidableEq, Repr

namespace EllipticCurve

def p256 : EllipticCurve where
  size := 32
  prime := 0xffffffff00000001000000000000000000000000ffffffffffffffffffffffff
  a := 0xffffffff00000001000000000000000000000000fffffffffffffffffffffffc
  b := 0x5ac635d8aa3a93e7b3ebbd55769886bc651d06b0cc53b0f63bce3c3e27d2604b
  x := 0x6b17d1f2e12c4247f8bce6e563a440f277037d812deb33a0f4a13945d898c296
  y := 0x4fe342e2fe1a7f9b8ee7eb4a7c0f9e162bce33576b315ececbb6406837bf51f5
  order := 0xffffffff00000000ffffffffffffffffbce6faada7179e84f3b9cac2fc632551

def p384 : EllipticCurve where
  size := 48
  prime := 0xfffffffffffffffffffffffffffffffffffffffffffffffffffffffffffffffeffffffff0000000000000000ffffffff
  a := 0xfffffffffffffffffffffffffffffffffffffffffffffffffffffffffffffffeffffffff0000000000000000fffffffc
  b := 0xb3312fa7e23ee7e4988e056be3f82d19181d9c6efe8141120314088f5013875ac656398d8a2ed19d2a85c8edd3ec2aef
  x := 0xaa87ca22be8b05378eb1c71ef320ad746e1d3b628ba79b9859f741e082542a385502f25dbf55296c3a545e3872760ab7
  y := 0x3617de4a96262c6f5d9e98bf9292dc29f8f41dbd289a147ce9da3113b5f0b8c00a60b1ce1d7e819d7a431d7c90ea0e5f
  order := 0xffffffffffffffffffffffffffffffffffffffffffffffffc7634d81f4372ddf581a0db248b0a77aecec196accc52973

/-- A point in Jacobian coordinates: the affine point `(x / z², y / z³)`, or the neutral element
when `z` is zero. -/
structure Point where
  x : Nat
  y : Nat
  z : Nat
deriving DecidableEq, Repr

def neutral : Point := ⟨1, 1, 0⟩

def generator (c : EllipticCurve) : Point := ⟨c.x, c.y, 1⟩

def double (c : EllipticCurve) (q : Point) : Point :=
  let p := c.prime
  let yy := q.y * q.y % p
  let s := 4 * q.x * yy % p
  let zz := q.z * q.z % p
  let m := (3 * q.x * q.x + c.a * (zz * zz % p)) % p
  let x := Modular.sub p (m * m % p) (2 * s % p)
  let y := Modular.sub p (m * Modular.sub p s x % p) (8 * yy * yy % p)
  ⟨x, y, 2 * q.y * q.z % p⟩

def add (c : EllipticCurve) (q r : Point) : Point :=
  if q.z = 0 then r
  else if r.z = 0 then q
  else
    let p := c.prime
    let zzq := q.z * q.z % p
    let zzr := r.z * r.z % p
    let u := q.x * zzr % p
    let s := q.y * (zzr * r.z % p) % p
    let h := Modular.sub p (r.x * zzq % p) u
    let t := Modular.sub p (r.y * (zzq * q.z % p) % p) s
    if h = 0 then
      if t = 0 then c.double q else neutral
    else
      let hh := h * h % p
      let hhh := hh * h % p
      let v := u * hh % p
      let x := Modular.sub p (t * t % p) ((hhh + 2 * v) % p)
      let y := Modular.sub p (t * Modular.sub p v x % p) (s * hhh % p)
      ⟨x, y, q.z * r.z % p * h % p⟩

/-- The sum of `m` times `q` and `n` times `r`, doubling once for each binary digit of both. -/
def combine (c : EllipticCurve) (m : Nat) (q : Point) (n : Nat) (r : Point) : Point :=
  let both := c.add q r
  let width := 8 * c.size
  (List.zip (Modular.bits width m) (Modular.bits width n)).foldl (fun acc digits =>
    let acc := c.double acc
    match digits with
    | (true, true) => c.add acc both
    | (true, false) => c.add acc q
    | (false, true) => c.add acc r
    | (false, false) => acc) neutral

/-- Reads an uncompressed point of the curve. -/
def point? (c : EllipticCurve) (b : Bytes) : Option Point :=
  match b with
  | 4 :: coordinates =>
      let x := Bytes.toNat (coordinates.take c.size)
      let y := Bytes.toNat (coordinates.drop c.size)
      if coordinates.length = 2 * c.size ∧ x < c.prime ∧ y < c.prime ∧
          y * y % c.prime = (x * x * x + c.a * x + c.b) % c.prime then
        some ⟨x, y, 1⟩
      else none
  | _ => none

/-- The affine first coordinate of a point, reduced by the order, is `r`. -/
def coordinateIs (c : EllipticCurve) (q : Point) (r : Nat) : Bool :=
  let zz := q.z * q.z % c.prime
  q.z != 0 &&
    (r * zz % c.prime == q.x ||
      (decide (r + c.order < c.prime) && (r + c.order) * zz % c.prime == q.x))

/-- Verifies a signature, given as an encoded pair of numbers, over a digest, of which the leading
octets up to the size of the field count. -/
def verify (c : EllipticCurve) (key digest signature : Bytes) : Bool :=
  match c.point? key, Der.positivePair? signature with
  | some q, some (r, s) =>
      if r < c.order ∧ s < c.order then
        let e := Bytes.toNat (digest.take c.size) % c.order
        let w := Modular.inverse c.order s
        c.coordinateIs (c.combine (e * w % c.order) c.generator (r * w % c.order) q) r
      else false
  | _, _ => false

end EllipticCurve

end Mrtd
