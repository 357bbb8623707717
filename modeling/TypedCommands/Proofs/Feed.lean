import TypedCommands.Proofs.Line.Division
import TypedCommands.Proofs.Lookahead

/-!
# Arguments on demand

A feed hands out arguments one by one and reads no further than it is asked to.  The scanner
of a line is a feed, and so is a cursor over one.  The source of a feed lists at
once what it would hand out in the end.  A cursor that pulls from a feed replies to every
operation as the cursor over the source of that feed does.

Main results:

- Theorem `Feed.pull_source`: to ask a feed for an argument is to take it from its source.
- Theorem `Line.Scanner.source_eq`: the source of a scanner is what it still has to read.
- Theorem `LiveCursor.replies_toCursor`: a cursor over a feed replies as the one over its
  source.
-/

namespace TypedCommands

/-! ## Feeds -/

/--
Something that hands out finitely many arguments, each only when it is asked for.  The first
answer that is no argument is given for ever.
-/
class Feed (σ : Type) where
  /-- Ask for the next argument. -/
  pull : σ → Pulled × σ
  /-- A bound on the number of arguments that are left. -/
  size : σ → Nat
  /-- An argument that was handed out is not left any more. -/
  size_pull_lt : ∀ {s : σ} {a : Argument}, (pull s).1 = .argument a → size (pull s).2 < size s
  /-- An answer that is no argument is given again. -/
  pull_pull : ∀ {s : σ}, (∀ a, (pull s).1 ≠ .argument a) → (pull (pull s).2).1 = (pull s).1

namespace Feed

variable {σ : Type} [Feed σ]

/-- All that a feed would hand out, and what it would answer after it. -/
def source (s : σ) : Source :=
  match h : (pull s).1 with
  | .argument a =>
    have := size_pull_lt h
    let rest := source (pull s).2
    ⟨a :: rest.arguments, rest.fault⟩
  | .finished => ⟨[], none⟩
  | .failed f => ⟨[], some f⟩
termination_by size s

theorem source_of_argument {s : σ} {a : Argument} (h : (pull s).1 = .argument a) :
    source s = ⟨a :: (source (pull s).2).arguments, (source (pull s).2).fault⟩ := by
  rw [source]
  split <;> simp_all

theorem source_of_finished {s : σ} (h : (pull s).1 = .finished) : source s = ⟨[], none⟩ := by
  rw [source]
  split <;> simp_all

theorem source_of_failed {s : σ} {f : LineFault} (h : (pull s).1 = .failed f) :
    source s = ⟨[], some f⟩ := by
  rw [source]
  split <;> simp_all

/-- To ask a feed for an argument is to take it from its source. -/
theorem pull_source (s : σ) : (source s).pull = ((pull s).1, source (pull s).2) := by
  cases h : (pull s).1 with
  | argument a =>
    rw [source_of_argument h]
    rfl
  | finished =>
    have hagain : (pull (pull s).2).1 = .finished := by
      rw [pull_pull (by simp [h]), h]
    rw [source_of_finished h, source_of_finished hagain]
    rfl
  | failed f =>
    have hagain : (pull (pull s).2).1 = .failed f := by
      rw [pull_pull (by simp [h]), h]
    rw [source_of_failed h, source_of_failed hagain]
    rfl

/-- Sources that are pulled as a feed is are its source. -/
theorem source_unique {view : σ → Source}
    (h : ∀ s, (view s).pull = ((pull s).1, view (pull s).2)) (s : σ) : source s = view s := by
  have hpull := h s
  generalize hview : view s = v at hpull
  obtain ⟨arguments, fault⟩ := v
  cases hanswer : (pull s).1 with
  | argument a =>
    have hlt := size_pull_lt hanswer
    rw [source_of_argument hanswer, source_unique h]
    cases arguments with
    | nil => cases fault <;> simp [Source.pull, hanswer] at hpull
    | cons b arguments =>
      simp only [Source.pull, hanswer, Prod.mk.injEq, Pulled.argument.injEq] at hpull
      rw [hpull.1, ← hpull.2]
  | finished =>
    rw [source_of_finished hanswer]
    cases arguments <;> cases fault <;> simp_all [Source.pull]
  | failed f =>
    rw [source_of_failed hanswer]
    cases arguments <;> cases fault <;> simp_all [Source.pull]
termination_by size s

end Feed

/-! ## Sources -/

/-- A source is a feed whose arguments are listed beforehand. -/
instance : Feed Source where
  pull := Source.pull
  size s := s.arguments.length
  size_pull_lt := by
    rintro ⟨arguments, fault⟩ a h
    cases arguments with
    | nil => cases fault <;> simp [Source.pull] at h
    | cons b arguments => simp [Source.pull]
  pull_pull := by
    rintro ⟨arguments, fault⟩ h
    cases arguments with
    | nil => rw [Source.pull_of_nil rfl]
    | cons b arguments => exact absurd rfl (h b)

/-! ## Scanners -/

namespace Line.Scanner

/-- What a scanner answers, as the answer of a source. -/
def Answer.toPulled : Answer → Pulled
  | argument a => .argument a
  | finished => .finished
  | failed f => .failed (.ofFault f)

/-- Once a line is finished it stays finished. -/
theorem next_of_next_eq_finished {s t : Scanner} (h : s.next = (.finished, t)) :
    t.fault = none ∧ t.next = (.finished, t) := by
  have hs : s.fault = none := by
    cases hfault : s.fault with
    | none => rfl
    | some f => simp [next, hfault] at h
  rw [next_of_gap hs (isGap_of_next_eq_finished h), Prod.mk.injEq] at h
  obtain ⟨-, rfl⟩ := h
  exact ⟨hs, next_of_gap hs (by simp [IsGap])⟩

/-- A scanner that has met a fault reports it again. -/
theorem next_of_next_eq_failed {s t : Scanner} {f : Fault} (h : s.next = (.failed f, t)) :
    t.fault = some f ∧ t.next = (.failed f, t) := by
  have ht := fault_of_next_eq_failed h
  exact ⟨ht, by rw [next, ht]⟩

instance : Feed Scanner where
  pull s := (s.next.1.toPulled, s.next.2)
  size s := s.rest.length
  size_pull_lt := by
    intro s a h
    rcases hnext : s.next with ⟨answer, t⟩
    cases answer with
    | argument b => exact length_next_lt hnext
    | finished => simp [hnext, Answer.toPulled] at h
    | failed f => simp [hnext, Answer.toPulled] at h
  pull_pull := by
    intro s h
    rcases hnext : s.next with ⟨answer, t⟩
    cases answer with
    | argument b => exact absurd (by simp [hnext, Answer.toPulled]) (h b)
    | finished => simp [(next_of_next_eq_finished hnext).2]
    | failed f => simp [(next_of_next_eq_failed hnext).2]

theorem pull_of_next {s t : Scanner} {answer : Answer} (h : s.next = (answer, t)) :
    Feed.pull s = (answer.toPulled, t) := by
  simp only [Feed.pull, h]

/-- The source of a scanner is what it still has to read. -/
theorem source_eq (s : Scanner) : Feed.source s = Source.ofScanner s := by
  rcases hnext : s.next with ⟨answer, t⟩
  have hpull := pull_of_next hnext
  cases answer with
  | argument a =>
    have hlt := length_next_lt hnext
    rw [Feed.source_of_argument (congrArg Prod.fst hpull), hpull, source_eq t,
      Source.ofScanner, Source.ofScanner, remaining_of_argument hnext]
  | finished =>
    rw [Feed.source_of_finished (congrArg Prod.fst hpull), Source.ofScanner,
      remaining_of_finished hnext, (next_of_next_eq_finished hnext).1]
    rfl
  | failed f =>
    rw [Feed.source_of_failed (congrArg Prod.fst hpull), Source.ofScanner,
      remaining_of_failed hnext, (next_of_next_eq_failed hnext).1]
    rfl
termination_by s.rest.length

end Line.Scanner

/-! ## Cursors over feeds -/

/-- What a cursor replies to operations, one after another. -/
def Cursor.replies (c : Cursor) (operations : List Operation) : List Reply :=
  (c.performAll operations).1

namespace Pulled

/-- The number of arguments in an answer. -/
def count : Pulled → Nat
  | argument _ => 1
  | _ => 0

/-- What looking ahead shows if this is the next answer. -/
def shown : Pulled → Except LineFault (Option Argument)
  | argument a => .ok (some a)
  | finished => .ok none
  | failed f => .error f

/-- What looking ahead leaves behind if this is the next answer. -/
def lookahead : Pulled → Lookahead
  | argument a => .holding a
  | finished => .atEnd
  | failed _ => .empty

theorem lookahead_eq_atEnd {answer : Pulled} : answer.lookahead = .atEnd ↔ answer = .finished := by
  cases answer <;> simp [lookahead]

end Pulled

/-- A place in a feed, with one argument of lookahead. -/
structure LiveCursor (σ : Type) [Feed σ] where
  /-- What arguments are pulled from. -/
  feed : σ
  /-- What looking ahead has left behind. -/
  ahead : Lookahead
  /-- The number of arguments pulled so far. -/
  pulled : Nat
  /-- An end that is remembered is the end. -/
  ended : ahead = .atEnd → (Feed.pull feed).1 = .finished

namespace LiveCursor

variable {σ : Type} [Feed σ]

/-- The cursor at the start of a feed. -/
def start (s : σ) : LiveCursor σ := ⟨s, .empty, 0, nofun⟩

/-- Drop what looking ahead has left behind. -/
def commit (c : LiveCursor σ) : LiveCursor σ := ⟨c.feed, .empty, c.pulled, nofun⟩

/-- Take the next argument. -/
def next (c : LiveCursor σ) : Pulled × LiveCursor σ :=
  match c.ahead with
  | .holding a => (.argument a, c.commit)
  | .atEnd => (.finished, c.commit)
  | .empty =>
    let p := Feed.pull c.feed
    (p.1, ⟨p.2, .empty, c.pulled + p.1.count, nofun⟩)

/-- Look at the next argument without taking it; there is none at the end. -/
def peek (c : LiveCursor σ) : Except LineFault (Option Argument) × LiveCursor σ :=
  match c.ahead with
  | .holding a => (.ok (some a), c)
  | .atEnd => (.ok none, c)
  | .empty =>
    let p := Feed.pull c.feed
    have ended (h : p.1.lookahead = .atEnd) : (Feed.pull p.2).1 = .finished := by
      rw [Pulled.lookahead_eq_atEnd] at h
      rw [Feed.pull_pull (by simp [p, h]), h]
    (p.1.shown, ⟨p.2, p.1.lookahead, c.pulled + p.1.count, ended⟩)

/-- The cursor over the source of the feed. -/
def toCursor (c : LiveCursor σ) : Cursor := ⟨Feed.source c.feed, c.ahead, c.pulled⟩

theorem sound_toCursor (c : LiveCursor σ) : c.toCursor.Sound :=
  fun h => Feed.source_of_finished (c.ended h)

@[simp] theorem toCursor_start (s : σ) : (start s).toCursor = { source := Feed.source s } := rfl

@[simp] theorem toCursor_commit (c : LiveCursor σ) : c.commit.toCursor = c.toCursor.commit := rfl

/-- Taking the next argument from a feed is taking it from its source. -/
theorem next_toCursor (c : LiveCursor σ) : c.toCursor.next = (c.next.1, c.next.2.toCursor) := by
  obtain ⟨feed, ahead, pulled, ended⟩ := c
  cases ahead with
  | empty =>
    simp only [toCursor, Cursor.next, Cursor.pull, next, Feed.pull_source]
    cases (Feed.pull feed).1 <;> rfl
  | atEnd => rfl
  | holding a => rfl

/-- Looking at the next argument of a feed is looking at that of its source. -/
theorem peek_toCursor (c : LiveCursor σ) : c.toCursor.peek = (c.peek.1, c.peek.2.toCursor) := by
  obtain ⟨feed, ahead, pulled, ended⟩ := c
  cases ahead with
  | empty =>
    simp only [toCursor, Cursor.peek, Cursor.pull, peek, Feed.pull_source]
    cases (Feed.pull feed).1 <;> rfl
  | atEnd => rfl
  | holding a => rfl

/-! ### Replies -/

/-- One operation on a cursor over a feed. -/
def perform (c : LiveCursor σ) : Operation → Reply × LiveCursor σ
  | .next => (.taken c.next.1, c.next.2)
  | .peek => (.seen c.peek.1, c.peek.2)
  | .commit => (.done, c.commit)

/-- The replies of a cursor over a feed to operations, one after another. -/
def replies (c : LiveCursor σ) : List Operation → List Reply
  | [] => []
  | operation :: rest => (c.perform operation).1 :: (c.perform operation).2.replies rest

/-- An operation on a live cursor is the same one on the cursor it stands for. -/
theorem perform_toCursor (c : LiveCursor σ) (operation : Operation) :
    c.toCursor.perform operation = ((c.perform operation).1, (c.perform operation).2.toCursor) := by
  cases operation with
  | next => rw [Cursor.perform, next_toCursor, perform]
  | peek => rw [Cursor.perform, peek_toCursor, perform]
  | commit => rfl

/-- A cursor over a feed replies to all operations as the one over its source. -/
theorem replies_toCursor (c : LiveCursor σ) : c.toCursor.replies = c.replies := by
  funext operations
  induction operations generalizing c with
  | nil => rfl
  | cons operation operations ih =>
    rw [Cursor.replies, Cursor.performAll, perform_toCursor, replies, ← ih]
    rfl

/-! ### Cursors as feeds -/

/-- The next answer of a live cursor is the next of what it stands for. -/
theorem pull_remaining (c : LiveCursor σ) :
    c.toCursor.remaining.pull = (c.next.1, c.next.2.toCursor.remaining) := by
  obtain ⟨hanswer, hremaining, -⟩ := Cursor.next_spec c.sound_toCursor
  rw [next_toCursor] at hanswer hremaining
  rw [hanswer, hremaining]

/-- A cursor hands out what remains to it. -/
instance : Feed (LiveCursor σ) where
  pull := next
  size c := c.toCursor.remaining.arguments.length
  size_pull_lt := by
    intro c a h
    have hlt := Feed.size_pull_lt (s := c.toCursor.remaining) (a := a)
    simp only [Feed.pull, Feed.size, pull_remaining] at hlt
    exact hlt h
  pull_pull := by
    intro c h
    have hagain := Feed.pull_pull (s := c.toCursor.remaining)
    simp only [Feed.pull, pull_remaining] at hagain
    exact hagain h

theorem source_eq (c : LiveCursor σ) : Feed.source c = c.toCursor.remaining :=
  Feed.source_unique pull_remaining c

end LiveCursor

end TypedCommands
