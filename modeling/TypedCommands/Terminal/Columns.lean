import TypedCommands.Terminal.WidthTable

/-!
# Columns of a terminal

A character takes no column, one or two.  Control characters and marks that combine
with the character in front take none, East Asian wide characters and pictures take two.
A joiner makes one picture of two, and a picture mark makes one of an ordinary
character, so that the columns of a text are not simply those of its characters.  A text
is cut only between clusters: a character with all that is joined to it.

Main results:

- Theorem `columns_append`: without joiners and picture marks, the columns of two texts are
  those of both together.
- Theorem `flatten_clusters`: the clusters of a text make up the text.
-/

namespace TypedCommands.Terminal

open TypedCommands.Text

/-- The number of columns of a character. -/
def charColumns (c : Char) : Nat :=
  let n := c.toNat
  if 0x20 ≤ n ∧ n < 0x7F then 1
  else if n < 0xA0 then 0
  else if inRanges emptyRanges n then 0
  else if inRanges wideRanges n then 2
  else 1

/-- The character that joins those on its two sides to one picture. -/
def joiner : Char := '\u200d'

/-- The character that asks for the picture of the character in front. -/
def pictureMark : Char := '\ufe0f'

/-- Whether a picture mark widens a character. -/
def isPictured (c : Char) : Bool := inRanges picturedRanges c.toNat

/-- Whether the columns of a character depend on no other one. -/
def isPlain (c : Char) : Bool := c != joiner && c != pictureMark

/-- The number of columns of a text; `last` is the character in front that a mark may widen. -/
def columnsFrom (last : Option Char) : List Char → Nat
  | [] => 0
  | c :: rest =>
    if c = joiner then
      match rest with
      | [] => 0
      | _ :: more => columnsFrom last more
    else if c = pictureMark then
      (if last.any isPictured then 1 else 0) + columnsFrom none rest
    else if charColumns c = 0 then columnsFrom last rest
    else charColumns c + columnsFrom (some c) rest

/-- The number of columns of a text. -/
def columns (cs : List Char) : Nat := columnsFrom none cs

/-- A plain character adds its columns. -/
theorem columnsFrom_cons {c : Char} (h : isPlain c = true) (last : Option Char) (cs : List Char) :
    ∃ last', columnsFrom last (c :: cs) = charColumns c + columnsFrom last' cs := by
  simp only [isPlain, Bool.and_eq_true, bne_iff_ne, ne_eq] at h
  by_cases hw : charColumns c = 0
  · exact ⟨last, by rw [columnsFrom.eq_def]; simp [h.1, h.2, hw]⟩
  · exact ⟨some c, by rw [columnsFrom.eq_def]; simp [h.1, h.2, hw]⟩

/-- The columns of plain texts add up, whatever stands in front. -/
theorem columnsFrom_append {cs ds : List Char} (hcs : ∀ c ∈ cs, isPlain c = true)
    (hds : ∀ c ∈ ds, isPlain c = true) (last last' last'' : Option Char) :
    columnsFrom last (cs ++ ds) = columnsFrom last' cs + columnsFrom last'' ds := by
  induction cs generalizing last last' last'' with
  | nil =>
    induction ds generalizing last last'' with
    | nil => simp [columnsFrom]
    | cons d ds ih =>
      have hd := hds d (by simp)
      obtain ⟨l, hl⟩ := columnsFrom_cons hd last ds
      obtain ⟨r, hr⟩ := columnsFrom_cons hd last'' ds
      have := ih (fun c hc => hds c (by simp [hc])) l r
      simp_all [columnsFrom]
  | cons c cs ih =>
    have hc := hcs c (by simp)
    obtain ⟨l, hl⟩ := columnsFrom_cons hc last (cs ++ ds)
    obtain ⟨r, hr⟩ := columnsFrom_cons hc last' cs
    rw [List.cons_append, hl, hr, ih (fun d hd => hcs d (by simp [hd])) l r last'', Nat.add_assoc]

theorem columns_append {cs ds : List Char} (hcs : ∀ c ∈ cs, isPlain c = true)
    (hds : ∀ c ∈ ds, isPlain c = true) : columns (cs ++ ds) = columns cs + columns ds :=
  columnsFrom_append hcs hds none none none

/-! ## Clusters -/

/-- A character with all that is joined to it. -/
structure Cluster where
  /-- The characters. -/
  chars : List Char
  /-- The number of columns. -/
  columns : Nat

/-- A cluster with further characters that take no columns of their own. -/
def Cluster.extend (k : Cluster) (cs : List Char) : Cluster := { k with chars := k.chars ++ cs }

/--
The clusters of a text behind the first one; `current` is the one that is being filled
and `last` its character that a mark may widen.
-/
def clustersFrom (last : Option Char) (current : Cluster) : List Char → List Cluster
  | [] => [current]
  | c :: rest =>
    if c = joiner then
      match rest with
      | [] => [current.extend [c]]
      | d :: more => clustersFrom last (current.extend [c, d]) more
    else if c = pictureMark then
      if last.any isPictured then
        clustersFrom none ⟨current.chars ++ [c], current.columns + 1⟩ rest
      else clustersFrom last (current.extend [c]) rest
    else if charColumns c = 0 then clustersFrom last (current.extend [c]) rest
    else current :: clustersFrom (some c) ⟨[c], charColumns c⟩ rest

/-- The clusters of a text; at its front even a joiner stands alone. -/
def clusters : List Char → List Cluster
  | [] => []
  | c :: rest =>
    if isPlain c && charColumns c != 0 then clustersFrom (some c) ⟨[c], charColumns c⟩ rest
    else clustersFrom none ⟨[c], 0⟩ rest

theorem flatten_clustersFrom (last : Option Char) (current : Cluster) (cs : List Char) :
    ((clustersFrom last current cs).map (·.chars)).flatten = current.chars ++ cs := by
  fun_induction clustersFrom last current cs <;> simp_all [Cluster.extend]

theorem flatten_clusters (cs : List Char) : ((clusters cs).map (·.chars)).flatten = cs := by
  cases cs with
  | nil => rfl
  | cons c rest => simp only [clusters]; split <;> simp [flatten_clustersFrom]

/-! ## Cutting and filling up -/

/--
The clusters that fit into a number of columns.  One of two columns that would be cut in
the middle leaves a blank.
-/
def fitting (width : Nat) : List Cluster → List Char
  | [] => []
  | k :: rest =>
    if width = 0 then []
    else if k.columns ≤ width then k.chars ++ fitting (width - k.columns) rest
    else [' ']

/-- A number of blanks. -/
def blanks (n : Nat) : List Char := List.replicate n ' '

/-- A text cut or filled up with blanks to a number of columns. -/
def resize (width : Nat) (cs : List Char) : List Char :=
  if columns cs ≤ width then cs ++ blanks (width - columns cs) else fitting width (clusters cs)

/--
Clusters in pieces of at most a number of columns; `line` is the piece that is being
filled and `used` the number of its columns.
-/
def chopClusters (width used : Nat) (line : List Char) : List Cluster → List (List Char)
  | [] => if used = 0 then [] else [line]
  | k :: rest =>
    if width < used + k.columns then line :: chopClusters width k.columns k.chars rest
    else chopClusters width (used + k.columns) (line ++ k.chars) rest

/-- A text in pieces of at most a number of columns. -/
def chop (width : Nat) (cs : List Char) : List (List Char) := chopClusters width 0 [] (clusters cs)

end TypedCommands.Terminal
