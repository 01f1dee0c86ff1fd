import TradeWire.Relay.Feed
/-! How long one waits: of two times the earlier one is reached as well. -/

namespace TradeWire

namespace Limit

theorem reaches_of_le (limit : Limit) {early late : Rat} (order : early ≤ late)
    (reached : limit.reaches late) : limit.reaches early := by
  cases limit with
  | within seconds =>
      rw [reaches, decide_eq_true_eq] at reached ⊢
      exact Std.lt_of_le_of_lt order reached
  | atOnce =>
      rw [reaches, decide_eq_true_eq] at reached ⊢
      exact Rat.le_trans order reached
  | endless => rfl

theorem isSome_finish (limit : Limit) : limit.finish?.isSome ↔ limit ≠ .endless := by
  cases limit <;> simp [finish?]

theorem reaches_start (limit : Limit) (time : limit.isOver = false) : limit.reaches 0 := by
  cases limit with
  | within seconds =>
      rw [isOver, decide_eq_false_iff_not, Rat.not_le] at time
      exact decide_eq_true time
  | atOnce => simp [reaches]
  | endless => rfl

theorem finish_from (limit : Limit) (time : Rat) (finish : limit.finish? = some time) :
    0 ≤ time := by
  cases limit with
  | within seconds =>
      cases finish
      rw [Timed.later]
      split
      · assumption
      · exact Rat.le_refl
  | atOnce =>
      cases finish
      exact Rat.le_refl
  | endless => cases finish

end Limit

end TradeWire
