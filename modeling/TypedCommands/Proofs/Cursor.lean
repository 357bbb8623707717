import TypedCommands.Cursor

/-!
# Answers one after another

A source that is asked again and again hands out its arguments in order and then gives
one and the same answer for ever.  A cursor gives the answers of what remains of its
source, and it makes no difference whether it has looked ahead.

Main results:

- Theorem `Source.answer_drop`: what a source answers once some arguments were taken.
- Theorem `Cursor.answer_eq_remaining`: a cursor answers as the source that remains to it.
-/

namespace TypedCommands

/-! ## Sources -/

namespace Source

/-- What a source answers when it was asked `n` times before. -/
def answer (s : Source) : Nat → Pulled
  | 0 => s.pull.1
  | n + 1 => s.pull.2.answer n

/-- What a source answers for ever after its arguments. -/
def ending (s : Source) : Pulled :=
  match s.fault with
  | none => .finished
  | some f => .failed f

/-- Behind the last argument every pull gives the ending. -/
theorem answer_of_nil {fault : Option LineFault} (n : Nat) :
    (⟨[], fault⟩ : Source).answer n = (⟨[], fault⟩ : Source).ending := by
  induction n with
  | zero => cases fault <;> rfl
  | succ n ih =>
    rw [answer, pull_of_nil rfl]
    exact ih

/-- As long as there are arguments they are handed out in order. -/
theorem answer_of_getElem? {s : Source} {n : Nat} {a : Argument}
    (h : s.arguments[n]? = some a) : s.answer n = .argument a := by
  obtain ⟨arguments, fault⟩ := s
  induction arguments generalizing n with
  | nil => simp at h
  | cons b arguments ih =>
    cases n with
    | zero =>
      obtain rfl : b = a := by simpa using h
      rfl
    | succ n => exact ih h

/-- After the arguments the answer is always the same. -/
theorem answer_of_length_le {s : Source} {n : Nat} (h : s.arguments.length ≤ n) :
    s.answer n = s.ending := by
  obtain ⟨arguments, fault⟩ := s
  induction arguments generalizing n with
  | nil => exact answer_of_nil n
  | cons b arguments ih =>
    cases n with
    | zero => simp at h
    | succ n =>
      have hle : arguments.length ≤ n := by simpa using h
      exact ih hle

theorem ending_ne_argument (s : Source) (a : Argument) : s.ending ≠ .argument a := by
  unfold ending
  split <;> simp

/-- An argument that is answered is the one at its place. -/
theorem answer_eq_argument_iff {s : Source} {n : Nat} {a : Argument} :
    s.answer n = .argument a ↔ s.arguments[n]? = some a := by
  constructor
  · intro h
    cases hget : s.arguments[n]? with
    | none =>
      rw [answer_of_length_le (List.getElem?_eq_none_iff.1 hget)] at h
      exact absurd h (s.ending_ne_argument a)
    | some b =>
      rw [answer_of_getElem? hget, Pulled.argument.injEq] at h
      rw [h]
  · exact answer_of_getElem?

/-- A fault is answered where the arguments have come to an end with it. -/
theorem answer_eq_failed_iff {s : Source} {n : Nat} {f : LineFault} :
    s.answer n = .failed f ↔ s.arguments.length ≤ n ∧ s.fault = some f := by
  cases hget : s.arguments[n]? with
  | some a =>
    obtain ⟨hlt, -⟩ := List.getElem?_eq_some_iff.1 hget
    rw [answer_of_getElem? hget]
    simp only [reduceCtorEq, false_iff, not_and]
    omega
  | none =>
    have hle : s.arguments.length ≤ n := List.getElem?_eq_none_iff.1 hget
    rw [answer_of_length_le hle, ending]
    cases s.fault <;> simp [hle]

/-- A source without its first arguments answers as the source does after them. -/
theorem answer_drop (s : Source) (k n : Nat) :
    (⟨s.arguments.drop k, s.fault⟩ : Source).answer n = s.answer (k + n) := by
  cases hget : s.arguments[k + n]? with
  | some a =>
    rw [answer_of_getElem? hget]
    exact answer_of_getElem? (by simpa using hget)
  | none =>
    have hle : s.arguments.length ≤ k + n := List.getElem?_eq_none_iff.1 hget
    rw [answer_of_length_le hle, answer_of_length_le (by simp; omega)]
    rfl

/-- Sources that answer alike so far have handed out the same arguments. -/
theorem take_eq_of_answer_eq {s other : Source} {k : Nat} (hk : k ≤ s.arguments.length)
    (hsame : ∀ n < k, other.answer n = s.answer n) :
    k ≤ other.arguments.length ∧ other.arguments.take k = s.arguments.take k := by
  have hget : ∀ n < k, other.arguments[n]? = s.arguments[n]? := by
    intro n hn
    have hs : s.arguments[n]? = some s.arguments[n] := List.getElem?_eq_getElem (by omega)
    rw [hs]
    exact answer_eq_argument_iff.1 ((hsame n hn).trans (answer_of_getElem? hs))
  constructor
  · refine Nat.le_of_not_lt fun hlt => ?_
    have hnone := hget _ hlt
    rw [List.getElem?_eq_none (Nat.le_refl _), eq_comm, List.getElem?_eq_none_iff] at hnone
    omega
  · apply List.ext_getElem?
    intro n
    by_cases hn : n < k
    · rw [List.getElem?_take_of_lt hn, List.getElem?_take_of_lt hn, hget n hn]
    · have hle : k ≤ n := by omega
      rw [List.getElem?_take_eq_none hle, List.getElem?_take_eq_none hle]

end Source

/-! ## Cursors -/

namespace Cursor

/-- What a cursor answers when it was asked `n` times before. -/
def answer (c : Cursor) : Nat → Pulled
  | 0 => c.next.1
  | n + 1 => c.next.2.answer n

/-- A cursor that remembers the end has a source that is at its end. -/
def Sound (c : Cursor) : Prop := c.ahead = .atEnd → c.source = ⟨[], none⟩

/-- Looking ahead keeps a cursor sound. -/
theorem Sound.peek {c : Cursor} (h : c.Sound) : c.peek.2.Sound := by
  obtain ⟨⟨arguments, fault⟩, ahead, pulled⟩ := c
  cases ahead
  · cases arguments <;> cases fault <;> simp [Sound, Cursor.peek, pull, Source.pull]
  · exact h
  · exact h

/-- Taking the next argument is taking it from what remains. -/
theorem next_spec {c : Cursor} (h : c.Sound) :
    c.next.1 = c.remaining.pull.1 ∧ c.next.2.remaining = c.remaining.pull.2 ∧
      c.next.2.Sound := by
  obtain ⟨⟨arguments, fault⟩, ahead, pulled⟩ := c
  cases ahead with
  | empty => cases arguments <;> cases fault <;> simp [next, pull, remaining, Source.pull, Sound]
  | atEnd =>
    have hsource := h rfl
    simp only [Source.mk.injEq] at hsource
    obtain ⟨rfl, rfl⟩ := hsource
    simp [next, remaining, Source.pull, Sound]
  | holding a => simp [next, remaining, Source.pull, Sound]

/-- A cursor answers as the source that remains to it. -/
theorem answer_eq_remaining {c : Cursor} (h : c.Sound) (n : Nat) :
    c.answer n = c.remaining.answer n := by
  induction n generalizing c with
  | zero => exact (next_spec h).1
  | succ n ih =>
    obtain ⟨-, hremaining, hsound⟩ := next_spec h
    rw [answer, ih hsound, hremaining, Source.answer]

end Cursor

end TypedCommands
