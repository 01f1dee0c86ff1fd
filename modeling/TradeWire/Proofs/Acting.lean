import TradeWire.Client.Basic
/-! How the steps of a client run, one after another. -/

namespace TradeWire.Acting

variable {α β : Type}

theorem run_bind_ok (first : Acting α) (next : α → Acting β) (client after : Client) (a : α)
    (ran : first.run.run client = (.ok a, after)) :
    (first >>= next).run.run client = (next a).run.run after := by
  rw [ExceptT.run_bind, StateT.run_bind, ran]
  rfl

theorem run_bind_error (first : Acting α) (next : α → Acting β) (client after : Client)
    (fault : Fault) (ran : first.run.run client = (.error fault, after)) :
    (first >>= next).run.run client = (.error fault, after) := by
  rw [ExceptT.run_bind, StateT.run_bind, ran]
  rfl

theorem run_ofExcept (outcome : Except Fault α) (client : Client) :
    (ofExcept outcome).run.run client = (outcome, client) := rfl

theorem run_advance (orderId : String) (stage : Stage) (client : Client) :
    (advance orderId stage).run.run client =
      (.ok (), { client with stages := (orderId, stage) :: client.stages }) := rfl

theorem run_wrap (step : Acting α) (wrap : α → β) (client : Client) :
    (do return wrap (← step) : Acting β).run.run client =
      ((step.run.run client).1.map wrap, (step.run.run client).2) := by
  rcases ran : step.run.run client with ⟨fault | a, after⟩
  · exact run_bind_error step _ client after fault ran
  · exact run_bind_ok step _ client after a ran

def Gives (step : Acting α) (client : Client) (a : α) (after : Client) : Prop :=
  step.run.run client = (.ok a, after)

def Fails (step : Acting α) (client : Client) (fault : Fault) : Prop :=
  ∃ after, step.run.run client = (.error fault, after)

theorem gives_bind (first : Acting α) (next : α → Acting β) (client last : Client) (b : β) :
    (first >>= next).Gives client b last ↔
      ∃ a middle, first.Gives client a middle ∧ (next a).Gives middle b last := by
  simp only [Gives]
  rcases ran : first.run.run client with ⟨fault | a, middle⟩
  · rw [run_bind_error first next client middle fault ran]
    constructor
    · intro impossible
      cases impossible
    · rintro ⟨_, _, impossible, _⟩
      cases impossible
  · rw [run_bind_ok first next client middle a ran]
    constructor
    · intro given
      exact ⟨a, middle, rfl, given⟩
    · rintro ⟨_, _, same, given⟩
      cases same
      exact given

theorem fails_bind (first : Acting α) (next : α → Acting β) (client : Client) (fault : Fault) :
    (first >>= next).Fails client fault ↔
      first.Fails client fault ∨
        ∃ a middle, first.Gives client a middle ∧ (next a).Fails middle fault := by
  simp only [Gives, Fails]
  rcases ran : first.run.run client with ⟨other | a, middle⟩
  · rw [run_bind_error first next client middle other ran]
    constructor
    · rintro ⟨_, failed⟩
      cases failed
      exact .inl ⟨middle, rfl⟩
    · rintro (⟨_, failed⟩ | ⟨_, _, impossible, _⟩)
      · cases failed
        exact ⟨middle, rfl⟩
      · cases impossible
  · rw [run_bind_ok first next client middle a ran]
    constructor
    · intro failed
      exact .inr ⟨a, middle, rfl, failed⟩
    · rintro (⟨_, impossible⟩ | ⟨_, _, same, failed⟩)
      · cases impossible
      · cases same
        exact failed

theorem gives_get (client found after : Client) :
    (get : Acting Client).Gives client found after ↔ found = client ∧ after = client := by
  constructor
  · intro given
    cases given
    exact ⟨rfl, rfl⟩
  · rintro ⟨rfl, rfl⟩
    rfl

theorem not_fails_get (client : Client) (fault : Fault) :
    ¬(get : Acting Client).Fails client fault := by
  rintro ⟨after, impossible⟩
  cases impossible

theorem fails_ofExcept (outcome : Except Fault α) (client : Client) (fault : Fault) :
    (ofExcept outcome).Fails client fault ↔ outcome = .error fault := by
  constructor
  · rintro ⟨after, failed⟩
    cases failed
    rfl
  · rintro rfl
    exact ⟨client, rfl⟩

end TradeWire.Acting
