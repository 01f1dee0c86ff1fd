import TradeWire.Json.Binary
import TradeWire.Proofs.Bytes
import TradeWire.Proofs.Outcome
/-! Reading within a bound on nesting, over texts with an unpaired half, and from bytes. -/

namespace TradeWire.Json

namespace Expecting

theorem standIn_of_whole (state : Expecting) (token : Token) (whole : token.isHalved = false) :
    state.standIn token = token := by
  cases token with
  | halved => cases whole
  | _ => cases state <;> rfl

theorem stepIn_none (state : Expecting) (token : Token) :
    state.stepIn none token = state.step (state.standIn token) := by
  rw [stepIn]
  cases state.step (state.standIn token) <;> rfl

theorem stepIn_eq_ok (room : Option Nat) (state next : Expecting) (token : Token) :
    state.stepIn room token = .ok next ↔
      state.step (state.standIn token) = .ok next ∧ room.any (· < next.depth) = false := by
  rw [stepIn, Except.bind_eq_ok]
  constructor
  · rintro ⟨found, stepped, fits⟩
    split at fits
    · cases fits
    · rename_i room
      cases fits
      exact ⟨stepped, Bool.not_eq_true _ ▸ room⟩
  · rintro ⟨stepped, room⟩
    exact ⟨next, stepped, by rw [room]; rfl⟩

end Expecting

theorem skim_eq_ok (chars : List Char) (room : Option Nat) (value : Json) (halved : Bool) :
    skim chars room = .ok (value, halved) ↔
      ∃ last, (tokens chars).foldlM (Expecting.stepIn room) (.needValue []) = .ok last ∧
        last.finish = .ok value ∧ (tokens chars).any Token.isHalved = halved := by
  simp only [skim, skimTokens, Except.bind_eq_ok]
  constructor
  · rintro ⟨last, ran, value, finished, same⟩
    cases same
    exact ⟨last, ran, finished, rfl⟩
  · rintro ⟨last, ran, finished, rfl⟩
    exact ⟨last, ran, value, finished, rfl⟩

theorem skim_none (chars : List Char) (room : Option Nat) (result : Json × Bool)
    (skimmed : skim chars room = .ok result) : skim chars none = .ok result := by
  obtain ⟨last, ran, finished, halved⟩ := (skim_eq_ok chars room _ _).mp skimmed
  refine (skim_eq_ok chars none _ _).mpr ⟨last, ?_, finished, halved⟩
  refine Except.foldlM_ok_of_step _ _ (fun state token next stepped => ?_) _ _ _ ran
  rw [Expecting.stepIn_eq_ok] at stepped ⊢
  exact ⟨stepped.1, rfl⟩

theorem read_eq_ok (chars : List Char) (room : Option Nat) (value : Json) :
    read chars room = .ok value ↔ skim chars room = .ok (value, false) := by
  rw [read, Except.bind_eq_ok]
  constructor
  · rintro ⟨⟨found, halved⟩, skimmed, whole⟩
    cases halved <;> cases whole
    exact skimmed
  · intro skimmed
    exact ⟨_, skimmed, rfl⟩

/-- What is read where there is little room is read where there is no bound. -/
theorem parse_none (text : String) (room : Option Nat) (value : Json)
    (parsed : parse text room = .ok value) : parse text = .ok value := by
  rw [parse, read_eq_ok] at parsed ⊢
  exact skim_none _ _ _ parsed

theorem foldlM_stepIn (found : List Token) (whole : found.any Token.isHalved = false)
    (state : Expecting) :
    found.foldlM (Expecting.stepIn none) state = found.foldlM Expecting.step state := by
  induction found generalizing state with
  | nil => rfl
  | cons token found ih =>
      rw [List.any_cons, Bool.or_eq_false_iff] at whole
      rw [List.foldlM_cons, List.foldlM_cons, Expecting.stepIn_none,
        Expecting.standIn_of_whole state token whole.1]
      congr 1
      funext next
      exact ih whole.2 next

theorem read_none_eq_ok (chars : List Char) (value : Json) :
    read chars = .ok value ↔
      (tokens chars).any Token.isHalved = false ∧
        ∃ last, (tokens chars).foldlM Expecting.step (.needValue []) = .ok last ∧
          last.finish = .ok value := by
  rw [read_eq_ok, skim_eq_ok]
  constructor
  · rintro ⟨last, ran, finished, whole⟩
    exact ⟨whole, last, foldlM_stepIn _ whole _ ▸ ran, finished⟩
  · rintro ⟨whole, last, ran, finished⟩
    exact ⟨last, (foldlM_stepIn _ whole _).trans ran, finished, whole⟩

theorem tokens_brackets (count : Nat) :
    tokens (List.replicate count '[') = List.replicate count .openList := by
  induction count with
  | zero => rw [List.replicate_zero, tokens, List.replicate_zero]
  | succ count ih =>
      rw [List.replicate_succ, tokens, if_neg (by decide)]
      exact congrArg (Token.openList :: ·) ih

theorem stepIn_openList (bound : Nat) (state : Expecting) (outer : List Level)
    (opens : state.step .openList = .ok (.itemOrClose outer)) :
    state.stepIn (some bound) .openList =
      if outer.length < bound then .ok (.itemOrClose outer) else .error .tooDeep := by
  rw [Expecting.stepIn, Expecting.standIn_of_whole state .openList rfl, opens]
  by_cases fits : outer.length < bound
  · have room : decide (bound < outer.length + 1) = false := decide_eq_false (by omega)
    rw [if_pos fits]
    exact if_neg (ne_true_of_eq_false room)
  · have full : decide (bound < outer.length + 1) = true := decide_eq_true (by omega)
    rw [if_neg fits]
    exact if_pos full

theorem foldlM_brackets (bound count : Nat) (state : Expecting) (outer : List Level)
    (opens : state.step .openList = .ok (.itemOrClose outer))
    (fits : outer.length + count = bound) :
    (List.replicate (count + 1) Token.openList).foldlM (Expecting.stepIn (some bound)) state =
      .error .tooDeep := by
  induction count generalizing state outer with
  | zero =>
      rw [List.replicate_succ, List.foldlM_cons, stepIn_openList bound state outer opens,
        if_neg (by omega)]
      rfl
  | succ count ih =>
      rw [List.replicate_succ, List.foldlM_cons, stepIn_openList bound state outer opens,
        if_pos (by omega)]
      exact ih (.itemOrClose outer) (.list [] :: outer) rfl (by simp; omega)

theorem parse_brackets (bound : Nat) :
    parse (String.ofList (List.replicate (bound + 1) '[')) (some bound) = .error .tooDeep := by
  have deep := foldlM_brackets bound bound (.needValue []) [] rfl (by simp)
  rw [parse, String.toList_ofList, read, skim, skimTokens, tokens_brackets]
  simp only [deep]
  rfl

end TradeWire.Json
