/-!
# Similar texts

How similar two texts are: twice the number of characters that they share, over the
number of characters of both.  Shared are those of the longest text that lies in
both, and then what the parts in front of it share and the parts behind it.

Main definitions:

- Definition `similarTexts`: the texts of a list that are similar to a word.
-/

namespace TypedCommands.Text

/-- The number of characters that two texts both begin with. -/
def commonLength : List Char → List Char → Nat
  | c :: cs, d :: ds => if c = d then commonLength cs ds + 1 else 0
  | _, _ => 0

/-- A text that lies in two others: where it begins in both, and its length. -/
structure SharedBlock where
  /-- Where it begins in the first text. -/
  first : Nat
  /-- Where it begins in the second text. -/
  second : Nat
  /-- The number of its characters. -/
  length : Nat

/-- The longest text that lies in both; of several the one that begins first. -/
def sharedBlock (cs ds : List Char) : SharedBlock :=
  (List.range cs.length).foldl (fun best i =>
    (List.range ds.length).foldl (fun best j =>
      let n := commonLength (cs.drop i) (ds.drop j)
      if best.length < n then ⟨i, j, n⟩ else best) best) ⟨0, 0, 0⟩

/-- The number of characters that two texts share; `fuel` bounds the number of blocks. -/
def sharedCount : Nat → List Char → List Char → Nat
  | 0, _, _ => 0
  | fuel + 1, cs, ds =>
    let b := sharedBlock cs ds
    if b.length = 0 then 0
    else
      b.length + sharedCount fuel (cs.take b.first) (ds.take b.second) +
        sharedCount fuel (cs.drop (b.first + b.length)) (ds.drop (b.second + b.length))

/-- Twice the number of shared characters, and the number of characters of both texts. -/
def similarity (s t : String) : Nat × Nat :=
  (2 * sharedCount (s.length + 1) s.toList t.toList, s.length + t.length)

/-- Whether two texts share at least three fifths of their characters. -/
def isSimilar (s t : String) : Bool :=
  let q := similarity s t
  3 * q.2 ≤ 5 * q.1

/-- At most three texts that are similar to a given one, the most similar first. -/
def similarTexts (word : String) (texts : List String) : List String :=
  let better (s t : String) : Bool :=
    let p := similarity s word
    let q := similarity t word
    q.1 * p.2 < p.1 * q.2 || (q.1 * p.2 == p.1 * q.2 && t ≤ s)
  ((texts.filter fun t => isSimilar t word).mergeSort better).take 3

end TypedCommands.Text
