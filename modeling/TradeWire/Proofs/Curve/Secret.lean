import TradeWire.Keys
import TradeWire.Proofs.Curve.Group
import TradeWire.Proofs.Hex
/-! Two key pairs come to one secret: the point of the product of their numbers. Each side only
knows the x coordinate of the other and may start from the negative of its point, which changes no x
coordinate of a multiple. -/

namespace TradeWire

namespace Curve

theorem x?_smul_base (n : Nat) (finite : ¬order ∣ n) :
    (Point.ofGroup (n • base)).x? = some (publicX n) := by
  rw [publicX, times_generator]
  have nonzero := mt (smul_base_eq_zero n).mp finite
  cases multiple : n • base with
  | zero => exact absurd multiple nonzero
  | some x y on => rfl

theorem publicX_lt (n : Nat) : publicX n < prime := by
  rw [publicX, times_generator]
  cases n • base with
  | zero => exact prime_pos
  | some x y on => exact x.val_lt

theorem publicX_lt_bytes (n : Nat) : publicX n < 256 ^ 32 :=
  Nat.lt_trans (publicX_lt n) (by decide)

theorem readHex_publicHex (n : Nat) :
    Number.readHex? (publicHex n).toList = some (publicX n : Int) := by
  have bytes := Bytes.readHex_toHex (Bytes.ofNat 32 (publicX n))
  have number := Number.readHex_of_bytes _ (Bytes.isHexRun_toHex _) _ (by simp [Bytes.ofNat]) bytes
  rw [publicHex, number, Bytes.toNat_ofNat 32 _ (publicX_lt_bytes n)]

theorem peerPoint_publicHex (n : Nat) (finite : ¬order ∣ n) :
    ∃ Q, peerPoint? (publicHex n) = some (Point.ofGroup Q) ∧ (Q = n • base ∨ Q = -(n • base)) := by
  rcases lift_x _ _ (x?_smul_base n finite) with ⟨Q, lifted, signed⟩
  refine ⟨Q, ?_, signed⟩
  have inRange : (0 : Int) ≤ publicX n ∧ (publicX n : Int).toNat < Nat.pow 2 256 :=
    ⟨Int.natCast_nonneg _, Nat.lt_of_lt_of_eq (publicX_lt_bytes n) (by decide)⟩
  rw [peerPoint?, readHex_publicHex, Option.bind_eq_bind, Option.bind_some, if_pos inRange, lifted]

theorem x?_smul_signed (m n : Nat) (Q : curve.Point) (signed : Q = n • base ∨ Q = -(n • base)) :
    (Point.ofGroup (m • Q)).x? = (Point.ofGroup ((m * n) • base)).x? := by
  have product : m • n • base = (m * n) • base := by rw [smul_smul]
  rcases signed with rfl | rfl
  · rw [product]
  · rw [neg_nsmul, Point.x?_neg, product]

theorem scalarOfNumber_range (text : String) (n : Nat) (read : scalarOfNumber? text = some n) :
    0 < n ∧ n < order := by
  simp only [scalarOfNumber?, Option.bind_eq_bind, Option.bind_eq_some_iff] at read
  rcases read with ⟨number, _, inRange⟩
  split at inRange
  · rename_i bounds
    cases inRange
    omega
  · cases inRange

theorem scalarOfNumber_of_readHex (text : String) (n : Nat)
    (read : Number.readHex? text.toList = some (n : Int)) (positive : 0 < n) (small : n < order) :
    scalarOfNumber? text = some n := by
  have inRange : (0 : Int) < n ∧ (n : Int) < order := by omega
  rw [scalarOfNumber?, read, Option.bind_eq_bind, Option.bind_some, if_pos inRange,
    Int.toNat_natCast]

theorem not_dvd_of_range (n : Nat) (inRange : 0 < n ∧ n < order) : ¬order ∣ n :=
  Nat.not_dvd_of_pos_of_lt inRange.1 inRange.2

theorem sharedSecret_publicHex (text : String) (m n : Nat) (read : scalarOfNumber? text = some m)
    (finite : ¬order ∣ n) :
    sharedSecret? text (publicHex n) = some (Bytes.ofNat 32 (publicX (m * n))) := by
  rcases peerPoint_publicHex n finite with ⟨Q, peer, signed⟩
  have privateFinite := not_dvd_of_range m (scalarOfNumber_range text m read)
  have productFinite : ¬order ∣ m * n := order_prime.prime.not_dvd_mul privateFinite finite
  have product : (Point.times m (Point.ofGroup Q)).x? = some (publicX (m * n)) := by
    rw [Point.times_ofGroup, x?_smul_signed m n Q signed, x?_smul_base _ productFinite]
  simp only [sharedSecret?, read, peer, product, Option.bind_eq_bind, Option.bind_some]
  rfl

end Curve

namespace Keys

def number (keys : Keys) : Nat := (Curve.scalarOfNumber? keys.text).getD 0

theorem exists_bytes (keys : Keys) :
    ∃ bytes, Bytes.ofHex? keys.text = some bytes ∧ bytes ≠ [] ∧ 0 < bytes.toNat ∧
      bytes.toNat < Curve.order ∧ keys.scalar = Bytes.toNat (bytes.take 32) := by
  rcases Option.bind_eq_some_iff.mp keys.reads with ⟨bytes, read, accepted⟩
  simp only [Curve.scalarOfBytes?] at accepted
  split at accepted
  · rename_i inRange
    have nonempty : bytes ≠ [] := by
      rintro rfl
      exact absurd inRange.1 (by decide)
    exact ⟨bytes, read, nonempty, inRange.1, inRange.2.1, (Option.some.inj accepted).symm⟩
  · cases accepted

/-- A key that is a run of hex digits is the number of its bytes. -/
theorem scalarOfNumber_of_run (keys : Keys) (run : Bytes.IsHexRun keys.text.toList) :
    ∃ bytes, Bytes.ofHex? keys.text = some bytes ∧
      keys.scalar = Bytes.toNat (bytes.take 32) ∧
      Curve.scalarOfNumber? keys.text = some bytes.toNat := by
  rcases keys.exists_bytes with ⟨bytes, read, nonempty, positive, small, scalar⟩
  have number := Number.readHex_of_bytes _ run bytes nonempty read
  exact ⟨bytes, read, scalar,
    Curve.scalarOfNumber_of_readHex keys.text bytes.toNat number positive small⟩

theorem scalarOfNumber_number (keys : Keys) (run : Bytes.IsHexRun keys.text.toList) :
    Curve.scalarOfNumber? keys.text = some keys.number := by
  rcases scalarOfNumber_of_run keys run with ⟨bytes, _, _, number⟩
  rw [Keys.number, number, Option.getD_some]

theorem number_eq_scalar (keys : Keys) (run : Bytes.IsHexRun keys.text.toList)
    (short : keys.text.toList.length ≤ 64) : keys.number = keys.scalar := by
  rcases scalarOfNumber_of_run keys run with ⟨bytes, read, scalar, number⟩
  have length := (Bytes.foldl_of_readHex _ run bytes read 0).1
  rw [Keys.number, number, Option.getD_some, scalar, List.take_of_length_le (by omega)]

def keyOfProduct (product : Nat) : Bytes :=
  Hmac.mac Nip44.salt (Bytes.ofNat 32 (Curve.publicX product))

theorem conversationKey_publicHex (keys : Keys) (run : Bytes.IsHexRun keys.text.toList) (n : Nat)
    (finite : ¬Curve.order ∣ n) :
    keys.conversationKey (Curve.publicHex n) = .ok (keyOfProduct (keys.number * n)) := by
  rw [conversationKey, Nip44.conversationKey, Curve.sharedSecret,
    Curve.sharedSecret_publicHex _ _ n (scalarOfNumber_number keys run) finite]
  rfl

/-- Two parties come to one key, where the public key of each is its private key times the
generator; every private key of no more than 64 digits has such a public key. -/
theorem conversationKey_comm :
    (∀ a b : Keys, Bytes.IsHexRun a.text.toList → Bytes.IsHexRun b.text.toList →
      a.publicKey = Curve.publicHex a.number → b.publicKey = Curve.publicHex b.number →
      ∃ key, a.conversationKey b.publicKey = .ok key ∧ b.conversationKey a.publicKey = .ok key) ∧
    ∀ keys : Keys, Bytes.IsHexRun keys.text.toList → keys.text.toList.length ≤ 64 →
      keys.publicKey = Curve.publicHex keys.number := by
  have finite (keys : Keys) (run : Bytes.IsHexRun keys.text.toList) : ¬Curve.order ∣ keys.number :=
    Curve.not_dvd_of_range _ (Curve.scalarOfNumber_range _ _ (scalarOfNumber_number keys run))
  constructor
  · intro a b aRun bRun aDerived bDerived
    refine ⟨keyOfProduct (a.number * b.number), ?_, ?_⟩
    · rw [bDerived, conversationKey_publicHex a aRun _ (finite b bRun)]
    · rw [aDerived, conversationKey_publicHex b bRun _ (finite a aRun), Nat.mul_comm]
  · intro keys run short
    rw [number_eq_scalar keys run short, keys.derived]

def keysSix : Keys := ⟨"06", 6, Curve.publicHex 6, by decide, rfl⟩
def keysNine : Keys := ⟨"0009", 9, Curve.publicHex 9, by decide, rfl⟩

theorem conversationKey_comm_odd :
    keysSix.publicKey = Curve.publicHex keysSix.number ∧
      keysNine.publicKey = Curve.publicHex keysNine.number ∧
      ∃ key, keysSix.conversationKey keysNine.publicKey = .ok key ∧
        keysNine.conversationKey keysSix.publicKey = .ok key := by
  have six := conversationKey_comm.2 keysSix (by decide) (by decide)
  have nine := conversationKey_comm.2 keysNine (by decide) (by decide)
  exact ⟨six, nine, conversationKey_comm.1 keysSix keysNine (by decide) (by decide) six nine⟩

/-- A key of 33 bytes: its public key is that of the first 32, which are another number. -/
def longKeys : Keys :=
  ⟨"000000000000000000000000000000000000000000000000000000000000000500", 5, Curve.publicHex 5,
    by decide +kernel, rfl⟩

theorem publicKey_longKeys : Bytes.IsHexRun longKeys.text.toList ∧ longKeys.number = 1280 ∧
    longKeys.publicKey ≠ Curve.publicHex longKeys.number := by
  have number : longKeys.number = 1280 := by decide +kernel
  refine ⟨by decide +kernel, number, ?_⟩
  rw [number]
  decide +kernel

end Keys

end TradeWire
