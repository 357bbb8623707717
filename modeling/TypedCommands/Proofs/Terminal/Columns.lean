import Mathlib.Algebra.BigOperators.Group.List.Basic
import Mathlib.Algebra.GroupWithZero.Nat
import Mathlib.Data.List.Basic
import TypedCommands.Terminal.Columns
import TypedCommands.Text.Blank

/-!
# Columns of plain texts

Where no character is joined to another one, every character has its own columns: those of a
text are their sum, a cluster has the columns of its first character, and the rest of it has
none.  So a text is cut only in front of a character that takes columns.

Main results:

- Theorem `columns_eq_sum`: the columns of a plain text.
- Theorem `isCluster_of_mem_clusters`: the clusters of a plain text.
- Theorem `flatten_chop` and theorem `columns_of_mem_chop`: a plain text in pieces loses
  nothing, and every piece fits.
- Theorem `fitting_of_blanks`: blanks at the end of a text are all that cutting takes away,
  if the text fits without them.
-/

namespace TypedCommands.Terminal

open TypedCommands.Text

/-- No character of a text is joined to another one. -/
def Plain (cs : List Char) : Prop := ∀ c ∈ cs, isPlain c = true

namespace Plain

variable {c : Char} {cs ds : List Char}

theorem nil : Plain [] := by simp [Plain]

theorem cons_iff : Plain (c :: cs) ↔ isPlain c = true ∧ Plain cs := List.forall_mem_cons

theorem append_iff : Plain (cs ++ ds) ↔ Plain cs ∧ Plain ds := List.forall_mem_append

theorem of_subset (h : Plain cs) (hsub : ds ⊆ cs) : Plain ds := fun d hd => h d (hsub hd)

end Plain

/-- Every character of a plain text has its own columns. -/
theorem columns_eq_sum {cs : List Char} (h : Plain cs) :
    columns cs = (cs.map charColumns).sum := by
  induction cs with
  | nil => rfl
  | cons c cs ih =>
    obtain ⟨hc, hcs⟩ := Plain.cons_iff.1 h
    obtain ⟨last, hlast⟩ := columnsFrom_cons hc none cs
    have hrest : columnsFrom last cs = columns cs := by
      simpa [columns, columnsFrom] using columnsFrom_append Plain.nil hcs last none none
    rw [columns, hlast, hrest, ih hcs, List.map_cons, List.sum_cons]

theorem plain_blanks (n : Nat) : Plain (blanks n) := by
  intro c hc
  rw [List.eq_of_mem_replicate hc]
  decide

theorem isBlank_of_mem_blanks {n : Nat} {c : Char} (h : c ∈ blanks n) : isBlank c = true := by
  rw [List.eq_of_mem_replicate h]
  decide

theorem columns_blanks (n : Nat) : columns (blanks n) = n := by
  have hblank : charColumns ' ' = 1 := by decide
  rw [columns_eq_sum (plain_blanks n), blanks, List.map_replicate,
    List.sum_replicate_nat, hblank, Nat.mul_one]

theorem charColumns_le_two (c : Char) : charColumns c ≤ 2 := by
  unfold charColumns
  dsimp only
  split_ifs <;> omega

/-! ## Clusters -/

/-- A character with others behind it that take no columns. -/
structure IsCluster (k : Cluster) : Prop where
  /-- The first character decides on the columns. -/
  exists_head : ∃ c cs, k.chars = c :: cs ∧ k.columns = charColumns c ∧
    ∀ d ∈ cs, charColumns d = 0
  /-- Nothing in it is joined. -/
  plain : Plain k.chars

namespace IsCluster

variable {k : Cluster}

/-- The columns of a cluster are those of its characters. -/
theorem columns_eq (h : IsCluster k) : Terminal.columns k.chars = k.columns := by
  obtain ⟨c, cs, hchars, hcolumns, hzero⟩ := h.exists_head
  have hrest : (cs.map charColumns).sum = 0 := by
    rw [List.sum_eq_zero]
    intro n hn
    obtain ⟨d, hd, rfl⟩ := List.mem_map.1 hn
    exact hzero d hd
  rw [columns_eq_sum h.plain, hchars, List.map_cons, List.sum_cons, hrest, hcolumns,
    Nat.add_zero]

theorem columns_le_two (h : IsCluster k) : k.columns ≤ 2 := by
  obtain ⟨c, -, -, hcolumns, -⟩ := h.exists_head
  rw [hcolumns]
  exact charColumns_le_two c

/-- A character without columns joins the cluster in front. -/
theorem extend (h : IsCluster k) {c : Char} (hplain : isPlain c = true)
    (hzero : charColumns c = 0) : IsCluster (k.extend [c]) where
  exists_head := by
    obtain ⟨d, ds, hchars, hcolumns, hrest⟩ := h.exists_head
    refine ⟨d, ds ++ [c], ?_, hcolumns, ?_⟩
    · rw [Cluster.extend, hchars, List.cons_append]
    · intro e he
      rcases List.mem_append.1 he with he | he
      · exact hrest e he
      · rw [List.mem_singleton.1 he]
        exact hzero
  plain := by
    refine Plain.append_iff.2 ⟨h.plain, ?_⟩
    intro d hd
    rw [List.mem_singleton.1 hd]
    exact hplain

/-- A plain character is a cluster. -/
theorem singleton {c : Char} (hplain : isPlain c = true) : IsCluster ⟨[c], charColumns c⟩ where
  exists_head := ⟨c, [], rfl, rfl, by simp⟩
  plain := by
    intro d hd
    rw [List.mem_singleton.1 hd]
    exact hplain

end IsCluster

/-- Behind a cluster of a plain text stand clusters that take columns. -/
theorem clustersFrom_of_plain {cs : List Char} (h : Plain cs) {current : Cluster}
    (hcurrent : IsCluster current) (last : Option Char) :
    ∃ first rest, clustersFrom last current cs = first :: rest ∧ IsCluster first ∧
      first.columns = current.columns ∧ ∀ k ∈ rest, IsCluster k ∧ 0 < k.columns := by
  induction cs generalizing last current with
  | nil => exact ⟨current, [], by simp [clustersFrom], hcurrent, rfl, by simp⟩
  | cons c cs ih =>
    obtain ⟨hc, hcs⟩ := Plain.cons_iff.1 h
    have hne : c ≠ joiner ∧ c ≠ pictureMark := by simpa [isPlain] using hc
    by_cases hzero : charColumns c = 0
    · obtain ⟨first, rest, hsplit, hfirst, hcolumns, hrest⟩ :=
        ih hcs (hcurrent.extend hc hzero) last
      refine ⟨first, rest, ?_, hfirst, hcolumns, hrest⟩
      rw [clustersFrom.eq_def]
      simp [hne.1, hne.2, hzero, hsplit]
    · obtain ⟨first, rest, hsplit, hfirst, hcolumns, hrest⟩ :=
        ih hcs (IsCluster.singleton hc) (some c)
      refine ⟨current, first :: rest, ?_, hcurrent, rfl, ?_⟩
      · rw [clustersFrom.eq_def]
        simp [hne.1, hne.2, hzero, hsplit]
      · intro k hk
        rcases List.mem_cons.1 hk with rfl | hk
        · exact ⟨hfirst, hcolumns ▸ Nat.pos_of_ne_zero hzero⟩
        · exact hrest k hk

/-- A plain text has a first cluster, and clusters that take columns behind it. -/
theorem clusters_of_plain {c : Char} {cs : List Char} (h : Plain (c :: cs)) :
    ∃ first rest, clusters (c :: cs) = first :: rest ∧ IsCluster first ∧
      ∀ k ∈ rest, IsCluster k ∧ 0 < k.columns := by
  obtain ⟨hc, hcs⟩ := Plain.cons_iff.1 h
  have hsingle := IsCluster.singleton hc
  by_cases hzero : charColumns c = 0
  · rw [hzero] at hsingle
    obtain ⟨first, rest, hsplit, hfirst, -, hrest⟩ := clustersFrom_of_plain hcs hsingle none
    exact ⟨first, rest, by simp [clusters, hzero, hsplit], hfirst, hrest⟩
  · obtain ⟨first, rest, hsplit, hfirst, -, hrest⟩ :=
      clustersFrom_of_plain hcs hsingle (some c)
    exact ⟨first, rest, by simp [clusters, hc, hzero, hsplit], hfirst, hrest⟩

/-- Plain text is divided into clusters. -/
theorem isCluster_of_mem_clusters {cs : List Char} (h : Plain cs) :
    ∀ k ∈ clusters cs, IsCluster k := by
  cases cs with
  | nil => simp [clusters]
  | cons c cs =>
    obtain ⟨first, rest, hsplit, hfirst, hrest⟩ := clusters_of_plain h
    intro k hk
    rw [hsplit] at hk
    rcases List.mem_cons.1 hk with rfl | hk
    · exact hfirst
    · exact (hrest k hk).1

/-- The columns of clusters are those of their characters. -/
theorem sum_columns_eq {ks : List Cluster} (h : ∀ k ∈ ks, IsCluster k) :
    (ks.map (·.columns)).sum = columns (ks.map (·.chars)).flatten := by
  have hplain : Plain (ks.map (·.chars)).flatten := by
    intro c hc
    obtain ⟨cs, hcs, hc⟩ := List.mem_flatten.1 hc
    obtain ⟨k, hk, rfl⟩ := List.mem_map.1 hcs
    exact (h k hk).plain c hc
  induction ks with
  | nil => rfl
  | cons k ks ih =>
    obtain ⟨hk, hks⟩ := List.forall_mem_cons.1 h
    simp only [List.map_cons, List.flatten_cons, List.sum_cons] at hplain ⊢
    have hsplit := Plain.append_iff.1 hplain
    rw [ih hks hsplit.2, ← hk.columns_eq, columns_append hsplit.1 hsplit.2]

/-! ## Pieces -/

/--
Clusters behind a piece that fits are cut to pieces that fit, and all of them together are
what there was, provided that something takes columns.
-/
theorem chopClusters_spec {width : Nat} (hwidth : 2 ≤ width) {ks : List Cluster}
    (h : ∀ k ∈ ks, IsCluster k) {line : List Char} {used : Nat} (hplain : Plain line)
    (hused : columns line = used) (hfits : used ≤ width) :
    (∀ piece ∈ chopClusters width used line ks, columns piece ≤ width) ∧
      (0 < used + (ks.map (·.columns)).sum →
        (chopClusters width used line ks).flatten = line ++ (ks.map (·.chars)).flatten) := by
  induction ks generalizing line used with
  | nil =>
    rw [chopClusters]
    split
    · next hzero => exact ⟨by simp, by simp [hzero]⟩
    · refine ⟨?_, by simp⟩
      intro piece hpiece
      rw [List.mem_singleton.1 hpiece, hused]
      exact hfits
  | cons k ks ih =>
    obtain ⟨hk, hks⟩ := List.forall_mem_cons.1 h
    have htwo := hk.columns_le_two
    rw [chopClusters]
    split
    · next hover =>
      obtain ⟨hpieces, hflatten⟩ := ih hks hk.plain hk.columns_eq (by omega)
      refine ⟨?_, fun _ => ?_⟩
      · intro piece hpiece
        rcases List.mem_cons.1 hpiece with rfl | hpiece
        · omega
        · exact hpieces piece hpiece
      · rw [List.flatten_cons, hflatten (by omega), List.map_cons, List.flatten_cons]
    · next hfit =>
      have hmore : Plain (line ++ k.chars) := Plain.append_iff.2 ⟨hplain, hk.plain⟩
      have hsum : columns (line ++ k.chars) = used + k.columns := by
        rw [columns_append hplain hk.plain, hused, hk.columns_eq]
      obtain ⟨hpieces, hflatten⟩ := ih hks hmore hsum (by omega)
      refine ⟨hpieces, fun hpos => ?_⟩
      rw [List.map_cons, List.sum_cons] at hpos
      rw [hflatten (by omega), List.map_cons, List.flatten_cons, List.append_assoc]

variable {width : Nat} {cs : List Char}

theorem columns_of_mem_chop (hwidth : 2 ≤ width) (h : Plain cs) {piece : List Char}
    (hpiece : piece ∈ chop width cs) : columns piece ≤ width :=
  (chopClusters_spec hwidth (isCluster_of_mem_clusters h) Plain.nil rfl (Nat.zero_le _)).1
    piece hpiece

/-- The pieces of chopped text make up the text. -/
theorem flatten_chop (hwidth : 2 ≤ width) (h : Plain cs) (hpos : 0 < columns cs) :
    (chop width cs).flatten = cs := by
  have hnil : columns [] = 0 := rfl
  have hspec := (chopClusters_spec hwidth (isCluster_of_mem_clusters h) Plain.nil hnil
    (Nat.zero_le _)).2
  rw [sum_columns_eq (isCluster_of_mem_clusters h), flatten_clusters, Nat.zero_add] at hspec
  exact hspec hpos

/-! ## Cutting -/

/-- Blanks that are cut are blanks. -/
theorem fitting_of_all_blank {ks : List Cluster}
    (h : ∀ c ∈ (ks.map (·.chars)).flatten, isBlank c = true) (width : Nat) :
    ∀ c ∈ fitting width ks, isBlank c = true := by
  induction ks generalizing width with
  | nil => simp [fitting]
  | cons k ks ih =>
    rw [List.map_cons, List.flatten_cons, List.forall_mem_append] at h
    rw [fitting]
    split_ifs
    · simp
    · exact List.forall_mem_append.2 ⟨h.1, ih h.2 _⟩
    · intro c hc
      rw [List.mem_singleton.1 hc]
      decide

/--
A text that fits keeps all of its characters when blanks behind it are cut; `ks` are its
clusters with those of the blanks.
-/
theorem fitting_of_blanks {ks : List Cluster} (h : ∀ k ∈ ks, IsCluster k)
    (hpos : ∀ k ∈ ks.tail, 0 < k.columns) {core pad : List Char}
    (hks : (ks.map (·.chars)).flatten = core ++ pad) (hpad : ∀ c ∈ pad, isBlank c = true)
    (hfits : columns core ≤ width) (hstart : 0 < width ∨ ∀ k ∈ ks, 0 < k.columns) :
    ∃ pad', fitting width ks = core ++ pad' ∧ ∀ c ∈ pad', isBlank c = true := by
  induction ks generalizing core width with
  | nil =>
    obtain ⟨rfl, -⟩ : core = [] ∧ pad = [] := by simpa using hks
    exact ⟨[], rfl, by simp⟩
  | cons k ks ih =>
    obtain ⟨hk, hks'⟩ := List.forall_mem_cons.1 h
    obtain ⟨c, cs, hchars, hcolumns, -⟩ := hk.exists_head
    have hplain : Plain core := by
      intro d hd
      have hmem : d ∈ ((k :: ks).map (·.chars)).flatten := hks ▸ List.mem_append_left _ hd
      obtain ⟨ds, hds, hd⟩ := List.mem_flatten.1 hmem
      obtain ⟨k', hk', rfl⟩ := List.mem_map.1 hds
      exact (h k' hk').plain d hd
    rcases List.eq_nil_or_concat core with rfl | ⟨_, _, hcore⟩
    · refine ⟨fitting width (k :: ks), rfl, fitting_of_all_blank ?_ width⟩
      rw [hks]
      simpa using hpad
    · -- The first character of the cluster is one of the text, so the cluster fits.
      obtain ⟨d, ds, rfl⟩ := List.exists_cons_of_ne_nil (l := core) (by simp [hcore])
      rw [List.map_cons, List.flatten_cons, hchars] at hks
      obtain rfl : c = d := by simpa using congrArg List.head? hks
      have hle : k.columns ≤ columns (c :: ds) := by
        rw [columns_eq_sum hplain, List.map_cons, List.sum_cons, hcolumns]
        exact Nat.le_add_right _ _
      have hne : width ≠ 0 := by
        rcases hstart with hstart | hstart
        · omega
        · have := hstart k List.mem_cons_self
          omega
      rw [fitting, if_neg hne, if_pos (by omega)]
      rcases List.append_eq_append_iff.1 hks with ⟨more, hmore, hrest⟩ | ⟨more, hmore, hrest⟩
      · -- The text goes on behind the cluster.
        have hsplit : Plain k.chars ∧ Plain more := by
          rw [← Plain.append_iff, hchars, ← hmore]
          exact hplain
        have hsum : columns (c :: ds) = k.columns + columns more := by
          rw [hmore, ← hchars, columns_append hsplit.1 hsplit.2, hk.columns_eq]
        have hmoreFits : columns more ≤ width - k.columns := by omega
        obtain ⟨pad', hfitting, hpad'⟩ := ih hks'
          (fun k' hk' => hpos k' (List.mem_of_mem_tail hk')) hrest hmoreFits (.inr hpos)
        refine ⟨pad', ?_, hpad'⟩
        rw [hfitting, hmore, hchars, List.append_assoc]
      · -- Blanks begin inside the cluster.
        rw [hrest, List.forall_mem_append] at hpad
        refine ⟨more ++ fitting (width - k.columns) ks, ?_, ?_⟩
        · rw [hchars, hmore, List.append_assoc]
        · exact List.forall_mem_append.2 ⟨hpad.1, fitting_of_all_blank hpad.2 _⟩

/-- Blanks behind a text that fits are all that is changed when it is resized. -/
theorem resize_of_blanks (hwidth : 0 < width) {core pad : List Char} (h : Plain (core ++ pad))
    (hpad : ∀ c ∈ pad, isBlank c = true) (hfits : columns core ≤ width) :
    ∃ pad', resize width (core ++ pad) = core ++ pad' ∧ ∀ c ∈ pad', isBlank c = true := by
  rw [resize]
  split
  · refine ⟨pad ++ blanks (width - columns (core ++ pad)), by rw [List.append_assoc], ?_⟩
    exact List.forall_mem_append.2 ⟨hpad, fun c hc => isBlank_of_mem_blanks hc⟩
  · generalize hall : core ++ pad = all at h
    cases all with
    | nil =>
      obtain ⟨rfl, rfl⟩ := List.append_eq_nil_iff.1 hall
      exact ⟨[], by simp [clusters, fitting], by simp⟩
    | cons c cs =>
      obtain ⟨first, rest, hsplit, hfirst, hrest⟩ := clusters_of_plain h
      have hks : ((clusters (c :: cs)).map (·.chars)).flatten = core ++ pad := by
        rw [flatten_clusters, hall]
      rw [hsplit] at hks ⊢
      exact fitting_of_blanks
        (List.forall_mem_cons.2 ⟨hfirst, fun k hk => (hrest k hk).1⟩)
        (fun k hk => (hrest k hk).2) hks hpad hfits (.inl hwidth)

/-! ## Texts that are cut fit -/

/-- The clusters that fit are plain text. -/
theorem plain_fitting {ks : List Cluster} (h : ∀ k ∈ ks, IsCluster k) (width : Nat) :
    Plain (fitting width ks) := by
  induction ks generalizing width with
  | nil => exact Plain.nil
  | cons k ks ih =>
    obtain ⟨hk, hks⟩ := List.forall_mem_cons.1 h
    rw [fitting]
    split_ifs
    · exact Plain.nil
    · exact Plain.append_iff.2 ⟨hk.plain, ih hks _⟩
    · exact plain_blanks 1

/-- The clusters that fit are no wider than the width. -/
theorem columns_fitting_le {ks : List Cluster} (h : ∀ k ∈ ks, IsCluster k) (width : Nat) :
    columns (fitting width ks) ≤ width := by
  induction ks generalizing width with
  | nil => exact Nat.zero_le _
  | cons k ks ih =>
    obtain ⟨hk, hks⟩ := List.forall_mem_cons.1 h
    rw [fitting]
    split_ifs with hzero hle
    · exact Nat.zero_le _
    · have hrest := ih hks (width - k.columns)
      rw [columns_append hk.plain (plain_fitting hks _), hk.columns_eq]
      omega
    · have hone := columns_blanks 1
      rw [blanks, List.replicate_one] at hone
      omega

/-- Plain text stays plain when it is cut or filled. -/
theorem plain_resize (h : Plain cs) : Plain (resize width cs) := by
  rw [resize]
  split
  · exact Plain.append_iff.2 ⟨h, plain_blanks _⟩
  · exact plain_fitting (isCluster_of_mem_clusters h) width

/-- Text that is cut or filled is no wider than the width. -/
theorem columns_resize_le (h : Plain cs) : columns (resize width cs) ≤ width := by
  rw [resize]
  split
  · rw [columns_append h (plain_blanks _), columns_blanks]
    omega
  · exact columns_fitting_le (isCluster_of_mem_clusters h) width

end TypedCommands.Terminal
