import TradeWire.Proofs.Curve.Cofactor
import TradeWire.Proofs.Curve.Secret
/-! The y coordinate that an x coordinate gets: an even number, which is on the curve wherever any
number is. So a public key is refused exactly where no point has its x coordinate. -/

namespace TradeWire.Curve

def IsAbscissa (x : Nat) : Prop := ∃ y, onCurve x y

theorem isAbscissa_iff (x : Nat) : IsAbscissa x ↔ IsSquare ((x : Coordinate) ^ 3 + 7) := by
  constructor
  · intro ⟨y, on⟩
    exact ⟨y, by rw [← pow_two, (onCurve_iff x y).mp on]⟩
  · intro ⟨root, square⟩
    refine ⟨root.val, (onCurve_iff x root.val).mpr ?_⟩
    rw [ZMod.natCast_val, ZMod.cast_id, square, pow_two]

theorem onCurve_evenRoot_iff (x : Nat) : onCurve x (evenRoot x) ↔ IsAbscissa x := by
  constructor
  · intro on
    exact ⟨evenRoot x, on⟩
  · intro ⟨y, on⟩
    have square := (onCurve_iff x y).mp on
    rw [onCurve_iff, evenRoot_sq x y square, square]

theorem evenRoot_even (x : Nat) : evenRoot x % 2 = 0 := by
  have odd : prime % 2 = 1 := by decide
  have small := powMod_lt (cubic x) ((prime + 1) / 4)
  rw [evenRoot]
  split
  · assumption
  · omega

section Peer

variable (text : String) (x : Nat) (written : Number.readHex? text.toList = some (x : Int))
  (small : x < prime)

include written small

theorem peerPoint_eq :
    peerPoint? text = if onCurve x (evenRoot x) then some (.affine x (evenRoot x)) else none := by
  have wide : prime < Nat.pow 2 256 := by decide
  have inRange : (0 : Int) ≤ x ∧ (x : Int).toNat < Nat.pow 2 256 :=
    ⟨Int.natCast_nonneg x, Nat.lt_trans small wide⟩
  rw [peerPoint?, written, Option.bind_eq_bind, Option.bind_some, if_pos inRange, lift?,
    residue_of_lt x small]

theorem exists_secret (on : onCurve x (evenRoot x)) (privateKey : String) (scalar : Nat)
    (read : scalarOfNumber? privateKey = some scalar) :
    ∃ secret, sharedSecret? privateKey text = some secret := by
  have nonsingular : curve.Nonsingular x (evenRoot x) :=
    (nonsingular_iff _ _).mpr ((onCurve_iff x _).mp on)
  let P : curve.Point := .some x (evenRoot x) nonsingular
  have point : peerPoint? text = some (Point.ofGroup P) := by
    rw [peerPoint_eq text x written small, if_pos on, Point.ofGroup_some,
      ZMod.val_natCast_of_lt small, ZMod.val_natCast_of_lt (evenRoot_lt x)]
  have finite := not_dvd_of_range scalar (scalarOfNumber_range privateKey scalar read)
  have nonzero : scalar • P ≠ 0 :=
    mt (smul_eq_zero_iff scalar P (WeierstrassCurve.Affine.Point.some_ne_zero _)).mp finite
  simp only [sharedSecret?, read, point, Option.bind_eq_bind, Option.bind_some,
    Point.times_ofGroup]
  cases multiple : scalar • P with
  | zero => exact absurd multiple nonzero
  | some a b _ => exact ⟨Bytes.ofNat 32 a.val, rfl⟩

end Peer

/-- Every x coordinate below the prime, however it is written, gets an even number below the prime,
and the two are on the curve exactly where the cubic is a square. A public key is refused, for
itself and for a secret with any private key, exactly where no point has its x coordinate. -/
theorem peerPoint_exact (text : String) (x : Nat)
    (written : Number.readHex? text.toList = some (x : Int)) (small : x < prime) :
    (residue x = x ∧ evenRoot x < prime ∧ evenRoot x % 2 = 0) ∧
    (onCurve x (evenRoot x) ↔ IsSquare ((x : Coordinate) ^ 3 + 7)) ∧
    (IsAbscissa x → peerPoint? text = some (.affine x (evenRoot x))) ∧
    (peerPoint? text = none ↔ ¬IsAbscissa x) ∧
    ∀ privateKey scalar, scalarOfNumber? privateKey = some scalar →
      (sharedSecret privateKey text = .error .malformed ↔ ¬IsAbscissa x) := by
  have point := peerPoint_eq text x written small
  refine ⟨⟨residue_of_lt x small, evenRoot_lt x, evenRoot_even x⟩, ?_, ?_, ?_, ?_⟩
  · rw [onCurve_evenRoot_iff, isAbscissa_iff]
  · intro abscissa
    rw [point, if_pos ((onCurve_evenRoot_iff x).mpr abscissa)]
  · rw [point, ← onCurve_evenRoot_iff]
    split <;> simp [*]
  · intro privateKey scalar read
    rw [← onCurve_evenRoot_iff, sharedSecret]
    by_cases on : onCurve x (evenRoot x)
    · obtain ⟨secret, shared⟩ := exists_secret text x written small on privateKey scalar read
      rw [shared]
      refine iff_of_false ?_ (not_not_intro on)
      intro failed
      cases failed
    · have refused : sharedSecret? privateKey text = none := by
        simp only [sharedSecret?, read, point, if_neg on, Option.bind_eq_bind, Option.bind_some,
          Option.bind_none]
      rw [refused]
      exact iff_of_true rfl on

theorem peerPoint_exact_five : peerPoint? " 0X0_5" = none ∧ ¬IsAbscissa 5 ∧
    sharedSecret "03" " 0X0_5" = .error .malformed ∧
    peerPoint? "1" = some (.affine 1 (evenRoot 1)) := by
  have five := peerPoint_exact " 0X0_5" 5 (by decide) (by decide)
  have one := peerPoint_exact "1" 1 (by decide) (by decide)
  have refused : ¬IsAbscissa 5 := by
    rw [← onCurve_evenRoot_iff]
    decide +kernel
  have accepted : IsAbscissa 1 := (onCurve_evenRoot_iff 1).mp (by decide +kernel)
  exact ⟨five.2.2.2.1.mpr refused, refused, (five.2.2.2.2 "03" 3 (by decide)).mpr refused,
    one.2.2.1 accepted⟩

end TradeWire.Curve
