import BareProxy.P256.Residue

/-!
# Points

The curve points of `p256.rs`: validated affine points, the Jacobian arithmetic behind them, the SEC 1
encoding and Diffie-Hellman. `expect` on an inverse takes the proof that the value is not zero.
-/

namespace BareProxy.P256

def p256CurveA : Uint256 :=
  .fromLimbs 0xfffffffffffffffc 0x00000000ffffffff 0x0000000000000000 0xffffffff00000001

def p256CurveB : Uint256 :=
  .fromLimbs 0x3bce3c3e27d2604b 0x651d06b0cc53b0f6 0xb3ebbd55769886bc 0x5ac635d8aa3a93e7

def p256GeneratorX : Uint256 :=
  .fromLimbs 0xf4a13945d898c296 0x77037d812deb33a0 0xf8bce6e563a440f2 0x6b17d1f2e12c4247

def p256GeneratorY : Uint256 :=
  .fromLimbs 0xcbb6406837bf51f5 0x2bce33576b315ece 0x8ee7eb4a7c0f9e16 0x4fe342e2fe1a7f9b

inductive P256PointError
  | invalidEncodingLength (length : Nat)
  | unsupportedEncoding (firstByte : Byte)
  | coordinateOutOfRange
  | pointNotOnCurve
  | identityCannotBeEncoded
  deriving DecidableEq, Repr

structure AffinePoint where
  x : FieldElement
  y : FieldElement
  deriving DecidableEq, Repr

/-- No affine coordinates are the identity. -/
structure P256Point where
  affine : Option AffinePoint
  deriving DecidableEq, Repr

def fieldDouble (value : FieldElement) : FieldElement := value.modularAdd value

def fieldTriple (value : FieldElement) : FieldElement := (fieldDouble value).modularAdd value

/-! ### Jacobian coordinates -/

structure JacobianPoint where
  x : FieldElement
  y : FieldElement
  z : FieldElement
  deriving DecidableEq, Repr

namespace JacobianPoint

def identity : JacobianPoint := ⟨.zero, .one, .zero⟩

def fromPoint (point : P256Point) : JacobianPoint :=
  match point.affine with
  | some point => ⟨point.x, point.y, .one⟩
  | none => identity

def isIdentity (point : JacobianPoint) : Bool := point.z = .zero

def toPoint (point : JacobianPoint) : P256Point :=
  if h : point.z = .zero then
    ⟨none⟩
  else
    let zInverse := point.z.inverse h
    let zInverseSquared := zInverse.square
    let x := point.x.modularMultiply zInverseSquared
    let y := (point.y.modularMultiply zInverseSquared).modularMultiply zInverse
    ⟨some ⟨x, y⟩⟩

def double (point : JacobianPoint) : JacobianPoint :=
  if point.isIdentity ∨ point.y = .zero then
    identity
  else
    let delta := point.z.square
    let gamma := point.y.square
    let beta := point.x.modularMultiply gamma
    let alpha := fieldTriple ((point.x.modularSubtract delta).modularMultiply (point.x.modularAdd delta))
    let eightBeta := fieldDouble (fieldDouble (fieldDouble beta))
    let x := alpha.square.modularSubtract eightBeta
    let z := ((point.y.modularAdd point.z).square.modularSubtract gamma).modularSubtract delta
    let fourBeta := fieldDouble (fieldDouble beta)
    let eightGammaSquared := fieldDouble (fieldDouble (fieldDouble gamma.square))
    let y := (alpha.modularMultiply (fourBeta.modularSubtract x)).modularSubtract eightGammaSquared
    ⟨x, y, z⟩

def add (point other : JacobianPoint) : JacobianPoint :=
  if point.isIdentity then
    other
  else if other.isIdentity then
    point
  else
    let z1Squared := point.z.square
    let z2Squared := other.z.square
    let u1 := point.x.modularMultiply z2Squared
    let u2 := other.x.modularMultiply z1Squared
    let s1 := (point.y.modularMultiply other.z).modularMultiply z2Squared
    let s2 := (other.y.modularMultiply point.z).modularMultiply z1Squared
    if u1 = u2 then
      if s1 ≠ s2 then identity else point.double
    else
      let h := u2.modularSubtract u1
      let i := (fieldDouble h).square
      let j := h.modularMultiply i
      let r := fieldDouble (s2.modularSubtract s1)
      let v := u1.modularMultiply i
      let x := (r.square.modularSubtract j).modularSubtract (fieldDouble v)
      let y := (r.modularMultiply (v.modularSubtract x)).modularSubtract (fieldDouble (s1.modularMultiply j))
      let z := (((point.z.modularAdd other.z).square.modularSubtract z1Squared).modularSubtract
        z2Squared).modularMultiply h
      ⟨x, y, z⟩

end JacobianPoint

/-! ### Affine points -/

namespace P256Point

def identity : P256Point := ⟨none⟩

def generator : P256Point := ⟨some ⟨⟨p256GeneratorX, by decide⟩, ⟨p256GeneratorY, by decide⟩⟩⟩

def isIdentity (point : P256Point) : Bool := point.affine.isNone

def curveA : FieldElement := ⟨p256CurveA, by decide⟩

def curveB : FieldElement := ⟨p256CurveB, by decide⟩

def isOnCurve (point : P256Point) : Bool :=
  match point.affine with
  | none => true
  | some point =>
      let xSquared := point.x.square
      let xCubed := xSquared.modularMultiply point.x
      let ax := curveA.modularMultiply point.x
      let right := (xCubed.modularAdd ax).modularAdd curveB
      point.y.square = right

def fromCoordinates (x y : Uint256) : Except P256PointError P256Point :=
  if h : x.cmp p256FieldModulus ≠ .lt ∨ y.cmp p256FieldModulus ≠ .lt then
    .error .coordinateOutOfRange
  else
    have hx : x.toNat < p256FieldModulus.toNat := Uint256.cmp_eq_lt.mp (by simpa using (not_or.mp h).1)
    have hy : y.toNat < p256FieldModulus.toNat := Uint256.cmp_eq_lt.mp (by simpa using (not_or.mp h).2)
    let point : P256Point := ⟨some ⟨⟨x, hx⟩, ⟨y, hy⟩⟩⟩
    if !point.isOnCurve then .error .pointNotOnCurve else .ok point

def coordinates (point : P256Point) : Option (Uint256 × Uint256) :=
  point.affine.map fun point => (point.x.value, point.y.value)

def addPoint (point other : P256Point) : P256Point :=
  ((JacobianPoint.fromPoint point).add (JacobianPoint.fromPoint other)).toPoint

def double (point : P256Point) : P256Point := (JacobianPoint.fromPoint point).double.toPoint

/-- One turn of the loop of `multiply_uint`. -/
def multiplyStep (addend : JacobianPoint) (scalar : Uint256) (result : JacobianPoint) (bitIndex : Nat) :
    JacobianPoint :=
  let result := result.double
  if scalar.bit bitIndex then result.add addend else result

def multiplyUint (point : P256Point) (scalar : Uint256) : P256Point :=
  let addend := JacobianPoint.fromPoint point
  ((List.range 256).reverse.foldl (multiplyStep addend scalar) JacobianPoint.identity).toPoint

def multiply (point : P256Point) (scalar : Scalar) : P256Point := point.multiplyUint scalar.value

def toSec1Uncompressed (point : P256Point) : Except P256PointError (ByteArrayN 65) :=
  match point.affine with
  | none => .error .identityCannotBeEncoded
  | some point => .ok (arrayOf (0x04 :: (point.x.value.toBeBytes.toList ++ point.y.value.toBeBytes.toList)) (by simp))

def fromSec1Uncompressed (encoded : Bytes) : Except P256PointError P256Point :=
  if h : encoded.length ≠ 65 then
    .error (.invalidEncodingLength encoded.length)
  else if encoded.headD 0 ≠ 0x04 then
    .error (.unsupportedEncoding (encoded.headD 0))
  else
    let xBytes := arrayOf ((encoded.drop 1).take 32) (by simp only [ne_eq, not_not] at h; simp [h])
    let yBytes := arrayOf ((encoded.drop 33).take 32) (by simp only [ne_eq, not_not] at h; simp [h])
    fromCoordinates (.fromBeBytes xBytes) (.fromBeBytes yBytes)

end P256Point

def p256GeneratorMultiply (scalar : Scalar) : P256Point := P256Point.generator.multiply scalar

/-! ### Diffie-Hellman -/

inductive P256EcdhError
  | zeroPrivateScalar
  | identityPeerPublicKey
  | sharedPointAtInfinity
  deriving DecidableEq, Repr

/-- The shared secret is the big-endian x-coordinate of the common point. -/
def p256Ecdh (privateScalar : Scalar) (peerPublicKey : P256Point) : Except P256EcdhError (ByteArrayN 32) :=
  if privateScalar = .zero then
    .error .zeroPrivateScalar
  else if peerPublicKey.isIdentity then
    .error .identityPeerPublicKey
  else
    match (peerPublicKey.multiply privateScalar).coordinates with
    | none => .error .sharedPointAtInfinity
    | some (sharedX, _) => .ok sharedX.toBeBytes

end BareProxy.P256
