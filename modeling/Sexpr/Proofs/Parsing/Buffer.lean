/-
Places in a buffer.

A cursor stands at a place of a buffer if it holds the tokens from there on.  The position
with that place as its index then has the same current token, and moves as the cursor does:
to the next place, and from the end marker nowhere.  So at a place of a buffer nothing that
a position is asked comes to an index out of range.
-/
import Sexpr.Position
import Sexpr.Proofs.Parsing.Consumption

namespace Sexpr

namespace Cursor

/-- Whether `c` stands at place `i` of the buffer that `ts` make.  The end marker has the
place behind all of `ts`. -/
structure At (c : Cursor) (ts : List Token) (i : Nat) : Prop where
  le_length : i ≤ ts.length
  rest : c.rest = ts.drop i
  stop : c.stop = (ofTokens ts).stop

namespace At

variable {c d : Cursor} {ts us : List Token} {i : Nat}

theorem start (ts : List Token) : (ofTokens ts).At ts 0 := ⟨Nat.zero_le _, rfl, rfl⟩

/-- Every place has a cursor that stands there. -/
theorem of_le (h : i ≤ ts.length) : (Cursor.mk (ts.drop i) (ofTokens ts).stop).At ts i :=
  ⟨h, rfl, rfl⟩

/-- There is a token at the place of a cursor, and it is the current one. -/
theorem getElem?_buffer (h : c.At ts i) :
    (ts ++ [Token.endAt (ofTokens ts).stop])[i]? = some c.token := by
  unfold Cursor.token
  rw [h.rest, h.stop]
  by_cases hi : i < ts.length
  · rw [List.getElem?_append_left hi, List.head?_drop, List.getElem?_eq_getElem hi]
    rfl
  · have hi : i = ts.length := Nat.le_antisymm h.le_length (Nat.not_lt.1 hi)
    rw [hi, List.drop_length]
    exact List.getElem?_concat_length

theorem passes (h : c.At ts i) (hp : c.Passes us d) : d.At ts (i + us.length) := by
  have hrest := h.rest
  rw [hp.rest] at hrest
  have hlength := congrArg List.length hrest
  rw [List.length_append, List.length_drop] at hlength
  have := h.le_length
  refine ⟨by omega, ?_, hp.stop ▸ h.stop⟩
  rw [← List.drop_drop, ← hrest, List.drop_left]

/-- To take a token is to move on by one, but for the end marker. -/
theorem advance (h : c.At ts i) : c.advance.At ts (if i = ts.length then i else i + 1) := by
  have hrest : c.advance.rest = ts.drop (i + 1) := by
    show c.rest.tail = _
    rw [h.rest, List.tail_drop]
  have := h.le_length
  by_cases hi : i = ts.length
  · rw [if_pos hi]
    refine ⟨h.le_length, ?_, h.stop⟩
    rw [hrest, List.drop_of_length_le (by omega), List.drop_of_length_le (by omega)]
  · rw [if_neg hi]
    exact ⟨by omega, hrest, h.stop⟩

theorem unique {j : Nat} (h : c.At ts i) (k : c.At ts j) : i = j := by
  have hi := congrArg List.length h.rest
  have hj := congrArg List.length k.rest
  have := h.le_length
  have := k.le_length
  rw [List.length_drop] at hi hj
  omega

/-- From one place to a later one exactly the tokens between them are passed. -/
theorem passes_between {j : Nat} (hc : c.At ts i) (hd : d.At ts j) (hij : i ≤ j) :
    c.Passes ((ts.drop i).take (j - i)) d := by
  refine ⟨?_, hc.stop.trans hd.stop.symm⟩
  have hdrop : ts.drop j = (ts.drop i).drop (j - i) := by
    rw [List.drop_drop, Nat.add_sub_cancel' hij]
  rw [hc.rest, hd.rest, hdrop, List.take_append_drop]

end At
end Cursor

/-! ## Positions and cursors at one place -/

theorem Position.le_next (i last : Nat) : i ≤ if i = last then i else i + 1 := by
  split <;> omega

namespace Buffer

theorem tokens_ofTokens (ts : List Token) :
    (ofTokens ts).tokens = (ts ++ [Token.endAt (Cursor.ofTokens ts).stop]).toArray := by
  rw [ofTokens, List.back?_toArray, List.push_toArray]
  rfl

theorem size_ofTokens (ts : List Token) : (ofTokens ts).tokens.size = ts.length + 1 := by
  rw [tokens_ofTokens, List.size_toArray, List.length_append, List.length_singleton]

end Buffer

namespace Cursor.At

variable {c : Cursor} {ts : List Token} {i : Nat}

theorem token_position (h : c.At ts i) :
    ((Buffer.ofTokens ts).position i).token = some c.token := by
  show (Buffer.ofTokens ts).tokens[i]? = _
  rw [Buffer.tokens_ofTokens, List.getElem?_toArray]
  exact h.getElem?_buffer

/-- The last index is that of the end marker, so the bound on indices keeps the position
there and nowhere else. -/
theorem advance_position (h : c.At ts i) :
    ((Buffer.ofTokens ts).position i).advance =
      some ((Buffer.ofTokens ts).position (if i = ts.length then i else i + 1)) := by
  have hsize := Buffer.size_ofTokens ts
  have hindex : min (i + 1) (ts.length + 1 - 1) = if i = ts.length then i else i + 1 := by
    have := h.le_length
    split <;> omega
  show (if (Buffer.ofTokens ts).tokens.size = 0 then none
    else some (Position.mk _ (min (i + 1) ((Buffer.ofTokens ts).tokens.size - 1)))) = _
  rw [if_neg (by omega), hsize, hindex]
  rfl

theorem unexpected_position (h : c.At ts i) (expected : String) :
    ((Buffer.ofTokens ts).position i).unexpected expected = some (c.unexpected expected) := by
  rw [Position.unexpected, h.token_position]
  rfl

theorem take_position {terminal : Terminal} (h : c.At ts i) :
    ((Buffer.ofTokens ts).position i).take terminal = some (if terminal.accepts c.token then
      some (c.token, (Buffer.ofTokens ts).position (if i = ts.length then i else i + 1))
      else none) := by
  rw [Position.take, h.token_position, h.advance_position]
  show (if terminal.accepts c.token then _ else _) = _
  split <;> rfl

end Cursor.At

namespace Position

/-- Whether a question about positions is answered as one about cursors, and so never looks
outside the buffer. -/
def Shows {α : Type} (question : Position → Option α) (test : Cursor → α) : Prop :=
  ∀ (c : Cursor) ts i, c.At ts i → question ((Buffer.ofTokens ts).position i) = some (test c)

theorem Shows.of_token {α : Type} (question : Token → α) :
    Shows (fun p => p.token.map question) (fun c => question c.token) := by
  intro c ts i hc
  show Option.map question (token _) = _
  rw [hc.token_position, Option.map_some]

theorem shows_isEnd : Shows (·.isEnd) Cursor.isEnd := .of_token (·.kind == .endMark)

theorem shows_peekLiteral (text : String) : Shows (·.peekLiteral text) (·.peekLiteral text) :=
  .of_token (·.isLiteral text)

theorem shows_peekAtom : Shows (·.peekAtom) Cursor.peekAtom := .of_token (·.kind.isAtom)

end Position
end Sexpr
