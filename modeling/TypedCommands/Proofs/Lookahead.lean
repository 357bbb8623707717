import TypedCommands.Proofs.Cursor

/-!
# Cursors against lists

What a cursor replies can be foretold without its lookahead.  An outlook is a cursor that
keeps nothing but the arguments that were not consumed yet, and remembers what it has
replied.  Taking consumes the first argument and looking consumes nothing.  Committing
consumes the first argument exactly if a look has shown an argument since something was
last taken or committed.

Main results:

- Theorem `Cursor.Follows.perform`: one operation on a cursor is one on its outlook.
- Theorem `Outlook.settles_performAll`: an end or a fault is replied for ever.
- Theorem `Cursor.performAll_eq_outlook`: a cursor replies to all operations as the outlook
  of its source does, and has pulled at most one argument more than were consumed.
-/

namespace TypedCommands

/-- The first argument of a source, which is not taken; there is none at the end. -/
def Source.first (s : Source) : Except LineFault (Option Argument) :=
  match s.pull.1 with
  | .argument a => .ok (some a)
  | .finished => .ok none
  | .failed f => .error f

theorem Source.take_append_pull (s : Source) :
    s.arguments.take 1 ++ s.pull.2.arguments = s.arguments := by
  obtain ⟨arguments, fault⟩ := s
  cases arguments <;> cases fault <;> rfl

/-! ## Operations -/

/-- What can be asked of a cursor. -/
inductive Operation where
  /-- Take the next argument. -/
  | next
  /-- Look at the next argument. -/
  | peek
  /-- Drop what looking ahead has shown. -/
  | commit
  deriving DecidableEq, Repr

/-- What comes back from an operation. -/
inductive Reply where
  /-- The answer to taking the next argument. -/
  | taken (answer : Pulled)
  /-- What looking ahead has shown. -/
  | seen (ahead : Except LineFault (Option Argument))
  /-- Committing answers nothing. -/
  | done

namespace Reply

/-- Whether a reply comes from looking ahead. -/
def isLook : Reply → Bool
  | seen _ => true
  | _ => false

/-- Whether a reply comes from looking ahead and shows an argument. -/
def showsArgument : Reply → Bool
  | seen (.ok (some _)) => true
  | _ => false

/-- What a reply tells of the answer that stands next. -/
def tells? : Reply → Option Pulled
  | taken answer => some answer
  | seen (.ok (some a)) => some (.argument a)
  | seen (.ok none) => some .finished
  | seen (.error f) => some (.failed f)
  | done => none

/-- The argument that a reply hands over. -/
def taken? : Reply → Option Argument
  | taken (.argument a) => some a
  | _ => none

/-- If a reply tells of the end or of a fault, a later one that tells anything tells the same. -/
def Settles (r later : Reply) : Prop :=
  ∀ p, r.tells? = some p → (∀ a, p ≠ .argument a) → ∀ q, later.tells? = some q → q = p

theorem tells?_seen_first (s : Source) : (seen s.first).tells? = some s.pull.1 := by
  unfold Source.first
  cases s.pull.1 <;> rfl

end Reply

namespace Cursor

/-- One operation on a cursor. -/
def perform (c : Cursor) : Operation → Reply × Cursor
  | .next => (.taken c.next.1, c.next.2)
  | .peek => (.seen c.peek.1, c.peek.2)
  | .commit => (.done, c.commit)

/-- Operations on a cursor, one after another. -/
def performAll (c : Cursor) : List Operation → List Reply × Cursor
  | [] => ([], c)
  | operation :: rest =>
    let one := c.perform operation
    let more := one.2.performAll rest
    (one.1 :: more.1, more.2)

end Cursor

/-! ## Outlooks -/

/-- A cursor without lookahead, which remembers what it has replied. -/
structure Outlook where
  /-- What was not consumed yet. -/
  left : Source
  /-- The arguments that were consumed, in order. -/
  consumed : List Argument := []
  /-- The replies so far, the latest one first. -/
  past : List Reply := []

namespace Outlook

/-- A look has shown an argument since something was last taken or committed. -/
def shown (o : Outlook) : Bool := (o.past.takeWhile Reply.isLook).any Reply.showsArgument

/-- What comes back from an operation. -/
def reply (o : Outlook) : Operation → Reply
  | .next => .taken o.left.pull.1
  | .peek => .seen o.left.first
  | .commit => .done

/-- Whether an operation consumes the first of the arguments that are left. -/
def consumes (o : Outlook) : Operation → Bool
  | .next => true
  | .peek => false
  | .commit => o.shown

/-- One operation on an outlook. -/
def perform (o : Outlook) (operation : Operation) : Outlook where
  left := if o.consumes operation then o.left.pull.2 else o.left
  consumed := if o.consumes operation then o.consumed ++ o.left.arguments.take 1 else o.consumed
  past := o.reply operation :: o.past

/-- Operations on an outlook, one after another. -/
def performAll (o : Outlook) : List Operation → List Reply × Outlook
  | [] => ([], o)
  | operation :: rest =>
    let more := (o.perform operation).performAll rest
    (o.reply operation :: more.1, more.2)

variable {o : Outlook}

/-- Another look shows an argument, or one was shown already. -/
theorem shown_perform_peek (o : Outlook) :
    (o.perform .peek).shown = ((Reply.seen o.left.first).showsArgument || o.shown) := rfl

/-- A reply that tells anything tells what is next. -/
theorem tells?_reply {operation : Operation} {p : Pulled}
    (h : (o.reply operation).tells? = some p) : p = o.left.pull.1 := by
  cases operation with
  | next => exact (Option.some.inj h).symm
  | peek =>
    rw [reply, Reply.tells?_seen_first] at h
    exact (Option.some.inj h).symm
  | commit => cases h

/-- An argument that is handed over is consumed. -/
theorem taken?_reply_sublist (o : Outlook) (operation : Operation) :
    (o.reply operation).taken?.toList.Sublist
      (if o.consumes operation then o.left.arguments.take 1 else []) := by
  cases operation with
  | next =>
    obtain ⟨⟨arguments, fault⟩, consumed, past⟩ := o
    cases arguments <;> cases fault <;>
      simp [reply, consumes, Source.pull, Reply.taken?]
  | peek => exact List.nil_sublist _
  | commit => exact List.nil_sublist _

/-- The arguments that are handed over are among those that are consumed, in their order. -/
theorem exists_consumed_performAll (o : Outlook) (operations : List Operation) :
    ∃ more, (o.performAll operations).2.consumed = o.consumed ++ more ∧
      ((o.performAll operations).1.filterMap Reply.taken?).Sublist more := by
  induction operations generalizing o with
  | nil => exact ⟨[], by simp [performAll]⟩
  | cons operation operations ih =>
    obtain ⟨more, hconsumed, hsublist⟩ := ih (o.perform operation)
    refine ⟨(if o.consumes operation then o.left.arguments.take 1 else []) ++ more, ?_, ?_⟩
    · rw [performAll, hconsumed, perform]
      cases o.consumes operation <;> simp
    · have hcons : (o.performAll (operation :: operations)).1.filterMap Reply.taken? =
          (o.reply operation).taken?.toList ++
            ((o.perform operation).performAll operations).1.filterMap Reply.taken? := by
        rw [performAll, List.filterMap_cons]
        cases (o.reply operation).taken? <;> rfl
      rw [hcons]
      exact (taken?_reply_sublist o operation).append hsublist

/-- Nothing changes what is left once no arguments are. -/
theorem left_perform_of_nil (h : o.left.arguments = []) (operation : Operation) :
    (o.perform operation).left = o.left := by
  simp only [perform, Source.pull_of_nil h, ite_self]

/-- Without arguments every reply tells the same. -/
theorem tells?_of_mem_performAll {operations : List Operation} (h : o.left.arguments = [])
    {r : Reply} (hr : r ∈ (o.performAll operations).1) {p : Pulled} (hp : r.tells? = some p) :
    p = o.left.pull.1 := by
  induction operations generalizing o with
  | nil => cases hr
  | cons operation operations ih =>
    rcases List.mem_cons.1 hr with rfl | hr
    · exact tells?_reply hp
    · have hleft := left_perform_of_nil h operation
      rw [ih (by rw [hleft, h]) hr, hleft]

/-- An end or a fault is replied for ever. -/
theorem settles_performAll (o : Outlook) (operations : List Operation) :
    (o.performAll operations).1.Pairwise Reply.Settles := by
  induction operations generalizing o with
  | nil => exact .nil
  | cons operation operations ih =>
    refine List.pairwise_cons.2 ⟨?_, ih _⟩
    intro later hlater p hp hno q hq
    obtain rfl := tells?_reply hp
    -- What is told is no argument, so there are none left.
    have hnil : o.left.arguments = [] := by
      cases harguments : o.left.arguments with
      | nil => rfl
      | cons a rest => exact absurd (by rw [Source.pull, harguments]) (hno a)
    have hleft := left_perform_of_nil hnil operation
    rw [tells?_of_mem_performAll (by rw [hleft, hnil]) hlater hq, hleft]

end Outlook

/-! ## Cursors and their outlooks -/

namespace Cursor

/-- The number of arguments that are pulled and not consumed. -/
def held (c : Cursor) : Nat :=
  match c.ahead with
  | .holding _ => 1
  | _ => 0

theorem held_le_one (c : Cursor) : c.held ≤ 1 := by
  unfold held
  split <;> omega

@[simp] theorem held_commit (c : Cursor) : c.commit.held = 0 := rfl

@[simp] theorem pulled_commit (c : Cursor) : c.commit.pulled = c.pulled := rfl

/-- Behind an answer that was taken none is held. -/
theorem held_next (c : Cursor) : c.next.2.held = 0 := by
  obtain ⟨⟨arguments, fault⟩, ahead, pulled⟩ := c
  cases ahead with
  | empty => cases arguments <;> cases fault <;> rfl
  | atEnd => rfl
  | holding a => rfl

/-- Taking the next argument pulls it unless it is held. -/
theorem pulled_next (c : Cursor) :
    c.next.2.pulled + c.held = c.pulled + (c.remaining.arguments.take 1).length := by
  obtain ⟨⟨arguments, fault⟩, ahead, pulled⟩ := c
  cases ahead with
  | empty => cases arguments <;> cases fault <;> rfl
  | atEnd => rfl
  | holding a => simp [next, held, remaining]

/-- Looking ahead shows what is next. -/
theorem peek_eq_first {c : Cursor} (h : c.Sound) : c.peek.1 = c.remaining.first := by
  obtain ⟨⟨arguments, fault⟩, ahead, pulled⟩ := c
  cases ahead with
  | empty => cases arguments <;> cases fault <;> rfl
  | atEnd => rfl
  | holding a => rfl

/-- After looking ahead an argument is held exactly if one is shown. -/
theorem held_peek (c : Cursor) :
    c.peek.2.held = 1 ↔ (Reply.seen c.peek.1).showsArgument = true := by
  obtain ⟨⟨arguments, fault⟩, ahead, pulled⟩ := c
  cases ahead with
  | empty =>
    cases arguments <;> cases fault <;>
      simp [peek, pull, Source.pull, held, Reply.showsArgument]
  | atEnd => simp [peek, held, Reply.showsArgument]
  | holding a => simp [peek, held, Reply.showsArgument]

/-- What is held stays held when it is looked at again. -/
theorem held_peek_of_held {c : Cursor} (h : c.held = 1) : c.peek.2.held = 1 := by
  obtain ⟨source, ahead, pulled⟩ := c
  cases ahead with
  | empty => cases h
  | atEnd => cases h
  | holding a => rfl

/-- What is held comes first among what remains. -/
theorem length_take_of_held {c : Cursor} (h : c.held = 1) :
    (c.remaining.arguments.take 1).length = 1 := by
  obtain ⟨source, ahead, pulled⟩ := c
  cases ahead with
  | empty => cases h
  | atEnd => cases h
  | holding a => rfl

/-- Looking ahead pulls what it makes the cursor hold. -/
theorem pulled_peek (c : Cursor) : c.peek.2.pulled + c.held = c.pulled + c.peek.2.held := by
  obtain ⟨⟨arguments, fault⟩, ahead, pulled⟩ := c
  cases ahead with
  | empty => cases arguments <;> cases fault <;> rfl
  | atEnd => rfl
  | holding a => rfl

/-- Committing drops the argument that is held. -/
theorem remaining_commit {c : Cursor} (h : c.Sound) :
    c.commit.remaining = if c.held = 1 then c.remaining.pull.2 else c.remaining := by
  obtain ⟨⟨arguments, fault⟩, ahead, pulled⟩ := c
  cases ahead with
  | empty => rfl
  | atEnd => exact h rfl
  | holding a => rfl

/-- The source of a cursor lacks the arguments that were pulled from it. -/
def Counts (s : Source) (c : Cursor) : Prop := c.source = ⟨s.arguments.drop c.pulled, s.fault⟩

/-- Pulling keeps count of the arguments. -/
theorem Counts.pull {s : Source} {c : Cursor} (h : Counts s c) : Counts s c.pull.2 := by
  obtain ⟨⟨arguments, fault⟩, ahead, pulled⟩ := c
  obtain ⟨harguments, rfl⟩ := Source.mk.inj h
  cases arguments with
  | nil =>
    rw [Counts, Cursor.pull]
    cases hfault : s.fault <;> simp [Source.pull, harguments]
  | cons a rest =>
    have hrest : rest = s.arguments.drop (pulled + 1) := by
      rw [← List.drop_drop, ← harguments, List.drop_one, List.tail_cons]
    simp [Counts, Cursor.pull, Source.pull, hrest]

/-- Taking the next answer keeps count of the arguments. -/
theorem Counts.next {s : Source} {c : Cursor} (h : Counts s c) : Counts s c.next.2 := by
  unfold Cursor.next
  split
  · exact h
  · exact h
  · exact h.pull

/-- Looking ahead keeps count of the arguments. -/
theorem Counts.peek {s : Source} {c : Cursor} (h : Counts s c) : Counts s c.peek.2 := by
  unfold Cursor.peek
  split
  · exact h
  · exact h
  · have hpull := h.pull
    dsimp only
    split <;> exact hpull

/-- A cursor on a source and an outlook that agrees with it. -/
structure Follows (s : Source) (c : Cursor) (o : Outlook) : Prop where
  /-- A remembered end is the end. -/
  sound : c.Sound
  /-- What remains to the cursor was not consumed. -/
  remaining : c.remaining = o.left
  /-- The cursor holds an argument if a look has shown one. -/
  shown : o.shown = true ↔ c.held = 1
  /-- The source begins with what was consumed. -/
  consumed : o.consumed ++ o.left.arguments = s.arguments
  /-- The source of the cursor lacks what was pulled. -/
  counts : Counts s c
  /-- What is pulled was consumed or is held. -/
  pulled : c.pulled = o.consumed.length + c.held

variable {s : Source} {c : Cursor} {o : Outlook}

/-- A new cursor follows the outlook on its source. -/
theorem follows_start (s : Source) : Follows s { source := s } { left := s } where
  sound := by simp [Sound]
  remaining := rfl
  shown := by simp [Outlook.shown, held]
  consumed := rfl
  counts := rfl
  pulled := rfl

/-- Taking the next answer follows the outlook. -/
theorem Follows.next (h : Follows s c o) : Follows s c.next.2 (o.perform .next) := by
  obtain ⟨-, hremaining, hsound⟩ := next_spec h.sound
  have hcount := c.pulled_next
  refine ⟨hsound, ?_, ?_, ?_, h.counts.next, ?_⟩
  · rw [hremaining, h.remaining]
    rfl
  · simp [Outlook.perform, Outlook.reply, Outlook.shown, Reply.isLook, held_next]
  · simp only [Outlook.perform, Outlook.consumes, if_true, List.append_assoc,
      Source.take_append_pull]
    exact h.consumed
  · rw [h.remaining] at hcount
    simp only [Outlook.perform, Outlook.consumes, if_true, List.length_append, held_next]
    have := h.pulled
    omega

/-- Looking ahead follows the outlook. -/
theorem Follows.peek (h : Follows s c o) : Follows s c.peek.2 (o.perform .peek) := by
  have hcount := c.pulled_peek
  have hpulled := h.pulled
  refine ⟨h.sound.peek, ?_, ?_, h.consumed, h.counts.peek, ?_⟩
  · rw [remaining_peek, h.remaining]
    rfl
  · rw [held_peek, peek_eq_first h.sound, h.remaining, Outlook.shown_perform_peek,
      Bool.or_eq_true]
    refine or_iff_left_of_imp fun hshown => ?_
    -- What was shown before is held still.
    have hheld := held_peek_of_held (h.shown.1 hshown)
    rwa [held_peek, peek_eq_first h.sound, h.remaining] at hheld
  · simp only [Outlook.perform, Outlook.consumes, Bool.false_eq_true, if_false]
    omega

/-- Letting go of what is held follows the outlook. -/
theorem Follows.commit (h : Follows s c o) : Follows s c.commit (o.perform .commit) := by
  have hremaining := remaining_commit h.sound
  have hpulled := h.pulled
  have hempty : (o.perform .commit).shown = true ↔ c.commit.held = 1 := by
    simp [Outlook.perform, Outlook.reply, Outlook.shown, Reply.isLook, held_commit]
  cases hshown : o.shown with
  | true =>
    have hheld := h.shown.1 hshown
    have hone := length_take_of_held hheld
    rw [if_pos hheld, h.remaining] at hremaining
    rw [h.remaining] at hone
    refine ⟨by simp [Sound, Cursor.commit], ?_, hempty, ?_, h.counts, ?_⟩
    · simp [hremaining, Outlook.perform, Outlook.consumes, hshown]
    · simp only [Outlook.perform, Outlook.consumes, hshown, if_true, List.append_assoc,
        Source.take_append_pull]
      exact h.consumed
    · simp only [Outlook.perform, Outlook.consumes, hshown, if_true, List.length_append, hone,
        held_commit, pulled_commit]
      omega
  | false =>
    have hheld : c.held ≠ 1 := fun hone => by simp [h.shown.2 hone] at hshown
    have hle := c.held_le_one
    rw [if_neg hheld, h.remaining] at hremaining
    refine ⟨by simp [Sound, Cursor.commit], ?_, hempty, ?_, h.counts, ?_⟩
    · simp [hremaining, Outlook.perform, Outlook.consumes, hshown]
    · simpa [Outlook.perform, Outlook.consumes, hshown] using h.consumed
    · simp only [Outlook.perform, Outlook.consumes, hshown, Bool.false_eq_true, if_false,
        held_commit, pulled_commit]
      omega

/-- One operation on a cursor is one on its outlook, with the same reply. -/
theorem Follows.perform (h : Follows s c o) (operation : Operation) :
    (c.perform operation).1 = o.reply operation ∧
      Follows s (c.perform operation).2 (o.perform operation) := by
  cases operation with
  | next =>
    refine ⟨?_, h.next⟩
    rw [Cursor.perform, Outlook.reply, (next_spec h.sound).1, h.remaining]
  | peek =>
    refine ⟨?_, h.peek⟩
    rw [Cursor.perform, Outlook.reply, peek_eq_first h.sound, h.remaining]
  | commit => exact ⟨rfl, h.commit⟩

/-- All operations on a cursor are operations on its outlook, with the same replies. -/
theorem Follows.performAll (h : Follows s c o) (operations : List Operation) :
    (c.performAll operations).1 = (o.performAll operations).1 ∧
      Follows s (c.performAll operations).2 (o.performAll operations).2 := by
  induction operations generalizing c o with
  | nil => exact ⟨rfl, h⟩
  | cons operation operations ih =>
    obtain ⟨hreply, hfollows⟩ := h.perform operation
    obtain ⟨hreplies, hend⟩ := ih hfollows
    refine ⟨?_, hend⟩
    rw [Cursor.performAll, Outlook.performAll, hreply, hreplies]

/--
A cursor replies as an outlook.  Whatever is asked of a cursor on a source, it replies as
the outlook does that holds what is not consumed: taking consumes the first argument, looking
consumes nothing, and committing consumes the first argument exactly if a look has shown one
since something was last taken or committed.  What is consumed comes off the source in
order, each argument once, and what is taken is consumed.  The cursor has pulled what is
consumed and at most one argument more.  Once the end or the fault has been replied nothing
else is told any more.
-/
theorem performAll_eq_outlook (s : Source) (operations : List Operation) :
    let cursor := ({ source := s } : Cursor).performAll operations
    let outlook := ({ left := s } : Outlook).performAll operations
    cursor.1 = outlook.1 ∧ cursor.2.remaining = outlook.2.left ∧
      outlook.2.consumed ++ outlook.2.left.arguments = s.arguments ∧
      (cursor.1.filterMap Reply.taken?).Sublist outlook.2.consumed ∧
      cursor.2.source = ⟨s.arguments.drop cursor.2.pulled, s.fault⟩ ∧
      outlook.2.consumed.length ≤ cursor.2.pulled ∧
      cursor.2.pulled ≤ outlook.2.consumed.length + 1 ∧
      cursor.1.Pairwise Reply.Settles := by
  intro cursor outlook
  obtain ⟨hreplies, hend⟩ := (follows_start s).performAll operations
  obtain ⟨more, hconsumed, htaken⟩ :=
    ({ left := s } : Outlook).exists_consumed_performAll operations
  have hle := cursor.2.held_le_one
  have hpulled : cursor.2.pulled = outlook.2.consumed.length + cursor.2.held := hend.pulled
  refine ⟨hreplies, hend.remaining, hend.consumed, ?_, hend.counts, by omega, by omega, ?_⟩
  · rw [hreplies, hconsumed, List.nil_append]
    exact htaken
  · rw [hreplies]
    exact Outlook.settles_performAll _ _

end Cursor

end TypedCommands
