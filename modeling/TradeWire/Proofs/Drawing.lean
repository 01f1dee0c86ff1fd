import TradeWire.Supply
/-! What drawings give, and what they leave of a supply. -/

namespace TradeWire

theorem Supply.draw_eq {α : Type} (default : α) (queue : List α) :
    draw default queue = (queue.headD default, queue.tail) := by
  cases queue <;> rfl

theorem Supply.two_nonces (supply : Supply) (enough : 2 ≤ supply.nonces.length)
    (whole : ∀ nonce ∈ supply.nonces, nonce.length = 32) :
    ∃ first second others, supply.nonces = first :: second :: others ∧ first.length = 32 ∧
      second.length = 32 := by
  match found : supply.nonces, enough with
  | first :: second :: others, _ =>
      rw [found] at whole
      exact ⟨first, second, others, rfl, whole first (by simp), whole second (by simp)⟩

namespace Drawing

variable {α β : Type}

def Gives (drawing : Drawing α) (before : Supply) (value : α) (after : Supply) : Prop :=
  drawing.run.run before = (.ok value, after)

theorem gives_bind (drawing : Drawing α) (next : α → Drawing β) (before after : Supply)
    (value : β) :
    (drawing >>= next).Gives before value after ↔
      ∃ first middle, drawing.Gives before first middle ∧
        (next first).Gives middle value after := by
  simp only [Gives, ExceptT.run_bind, StateT.run_bind]
  rcases drawing.run.run before with ⟨outcome, middle⟩
  cases outcome with
  | ok first =>
      constructor
      · intro given
        exact ⟨first, middle, rfl, given⟩
      · intro found
        rcases found with ⟨_, _, same, given⟩
        cases same
        exact given
  | error fault =>
      constructor
      · intro given
        cases given
      · intro found
        rcases found with ⟨_, _, same, _⟩
        cases same

theorem gives_drawn (drawing : Drawing α) (before after rest : Supply) (value found : α)
    (drawn : drawing.run.run before = (.ok found, rest)) :
    drawing.Gives before value after ↔ value = found ∧ after = rest := by
  rw [Gives, drawn]
  constructor
  · intro given
    cases given
    exact ⟨rfl, rfl⟩
  · intro found
    rcases found with ⟨rfl, rfl⟩
    rfl

theorem gives_lift (result : Except ValueFault α) (before after : Supply) (value : α) :
    Gives (liftM result) before value after ↔ result = .ok value ∧ after = before := by
  cases result with
  | ok found =>
      rw [Except.ok.injEq, @eq_comm _ found]
      exact gives_drawn (liftM (Except.ok found)) before after before value found rfl
  | error fault =>
      constructor
      · intro given
        cases given
      · intro found
        rcases found with ⟨same, _⟩
        cases same

theorem gives_now (before after : Supply) (value : Int) :
    Gives now before value after ↔ value = before.now ∧ after = before :=
  gives_drawn now before after before value before.now rfl

theorem gives_nonce (before after : Supply) (value : Bytes) :
    Gives nonce before value after ↔
      value = before.nonces.headD [] ∧ after = { before with nonces := before.nonces.tail } := by
  apply gives_drawn
  change (Except.ok before.takeNonce.1, before.takeNonce.2) = _
  rw [Supply.takeNonce, Supply.draw_eq]

theorem gives_key (before after : Supply) (value : String) :
    Gives key before value after ↔
      value = before.throwaway.headD "" ∧
        after = { before with throwaway := before.throwaway.tail } := by
  apply gives_drawn
  change (Except.ok before.takeKey.1, before.takeKey.2) = _
  rw [Supply.takeKey, Supply.draw_eq]

theorem gives_pastTime (before after : Supply) (value : Int) :
    Gives pastTime before value after ↔
      value = before.now - before.offsets.headD 0 ∧
        after = { before with offsets := before.offsets.tail } := by
  apply gives_drawn
  change (Except.ok (before.takeOffset.2.now - before.takeOffset.1), before.takeOffset.2) = _
  rw [Supply.takeOffset, Supply.draw_eq]

end Drawing

end TradeWire
