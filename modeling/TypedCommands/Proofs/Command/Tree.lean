import TypedCommands.Proofs.Command.TableNames

/-!
# Command trees as they are made

Tables and commands are made of entries whose keys may be given twice; of one key the last
entry counts.  So the names of a table are told apart, at the root and below every command,
and each of them can be used as a name.

Main results:

- Theorem `pairwise_assocOfPairs`: an ordered mapping holds no key twice.
- Theorem `CommandTable.Made.wellFormed`: every table that is made is well formed.
-/

namespace TypedCommands

/-! ## Ordered mappings -/

section Mapping

variable {α β : Type} {same : α → α → Bool}

/-- Setting a key keeps the keys and adds it behind them if it is not known. -/
theorem map_fst_assocSet (k : α) (v : β) (m : List (α × β)) :
    (assocSet same k v m).map (·.1) =
      if m.any (fun e => same e.1 k) then m.map (·.1) else m.map (·.1) ++ [k] := by
  induction m with
  | nil => rfl
  | cons e m ih =>
    obtain ⟨k', v'⟩ := e
    rw [assocSet]
    by_cases hsame : same k' k = true
    · simp [hsame]
    · rw [if_neg hsame, List.map_cons, ih, List.any_cons, Bool.eq_false_iff.2 hsame,
        Bool.false_or]
      split <;> rfl

/-- The keys of an ordered mapping are told apart. -/
theorem pairwise_assocSet {k : α} {v : β} {m : List (α × β)}
    (h : (m.map (·.1)).Pairwise fun a b => same a b = false) :
    ((assocSet same k v m).map (·.1)).Pairwise fun a b => same a b = false := by
  rw [map_fst_assocSet]
  split
  · exact h
  · next hnew =>
    refine List.pairwise_append.2 ⟨h, List.pairwise_singleton _ _, ?_⟩
    intro a ha b hb
    obtain rfl := List.mem_singleton.1 hb
    obtain ⟨e, he, rfl⟩ := List.mem_map.1 ha
    simpa using fun hsame => hnew (List.any_eq_true.2 ⟨e, he, hsame⟩)

/-- A dictionary made of pairs holds no key twice. -/
theorem pairwise_assocOfPairs (pairs : List (α × β)) :
    ((assocOfPairs same pairs).map (·.1)).Pairwise fun a b => same a b = false := by
  have hall : ∀ m : List (α × β), (m.map (·.1)).Pairwise (fun a b => same a b = false) →
      ((pairs.foldl (fun m p => assocSet same p.1 p.2 m) m).map (·.1)).Pairwise
        fun a b => same a b = false := by
    induction pairs with
    | nil => exact fun m h => h
    | cons p pairs ih => exact fun m h => ih _ (pairwise_assocSet h)
  exact hall [] .nil

/-- The values behind an assignment are the new one and older ones. -/
theorem mem_of_mem_assocSet {k : α} {v : β} {m : List (α × β)} {e : α × β}
    (h : e ∈ assocSet same k v m) : e.2 = v ∨ ∃ k', (k', e.2) ∈ m := by
  induction m with
  | nil => exact .inl (by rw [List.mem_singleton.1 h])
  | cons d m ih =>
    obtain ⟨k', v'⟩ := d
    rw [assocSet] at h
    split at h
    · rcases List.mem_cons.1 h with rfl | h
      · exact .inl rfl
      · exact .inr ⟨e.1, List.mem_cons_of_mem _ h⟩
    · rcases List.mem_cons.1 h with rfl | h
      · exact .inr ⟨k', List.mem_cons_self⟩
      · rcases ih h with hv | ⟨other, hother⟩
        · exact .inl hv
        · exact .inr ⟨other, List.mem_cons_of_mem _ hother⟩

/-- Every value of an ordered mapping is one that was given. -/
theorem exists_mem_of_mem_assocOfPairs {pairs : List (α × β)} {e : α × β}
    (h : e ∈ assocOfPairs same pairs) : ∃ k, (k, e.2) ∈ pairs := by
  have hall : ∀ m : List (α × β), e ∈ pairs.foldl (fun m p => assocSet same p.1 p.2 m) m →
      (∃ k, (k, e.2) ∈ pairs) ∨ ∃ k, (k, e.2) ∈ m := by
    clear h
    induction pairs with
    | nil => exact fun m h => .inr ⟨e.1, h⟩
    | cons p pairs ih =>
      intro m h
      rcases ih _ h with ⟨k, hk⟩ | ⟨k, hk⟩
      · exact .inl ⟨k, List.mem_cons_of_mem _ hk⟩
      · rcases mem_of_mem_assocSet hk with hv | hm
        · exact .inl ⟨p.1, by rw [hv]; exact List.mem_cons_self⟩
        · exact .inr hm
  rcases hall [] h with hpairs | ⟨k, hk⟩
  · exact hpairs
  · cases hk

end Mapping

/-! ## Well-formed trees -/

/-- A command whose sub-commands have names that are told apart and can be used. -/
inductive Command.WellFormed : Command → Prop
  | node {handler : Option Handler} {children : List (String × Command)}
      {description : String} :
      (children.map (·.1)).Nodup → (∀ e ∈ children, isCommandName e.1 = true) →
      (∀ e ∈ children, WellFormed e.2) → WellFormed (.node handler children description)

/-- A table whose commands have names that are told apart and can be used. -/
structure CommandTable.WellFormed (t : CommandTable) : Prop where
  /-- No name is given twice. -/
  nodup : t.names.Nodup
  /-- Every name can be used as one. -/
  usable : ∀ name ∈ t.names, isCommandName name = true
  /-- The same holds below every command. -/
  below : ∀ e ∈ t.commands, e.2.WellFormed

/-- A command that was made of entries, the commands among which were made in the same way. -/
inductive Command.Made : Command → Prop
  | make {handler : Option Handler} {entries : List (Value × Entry)} {description : String}
      {c : Command} :
      (∀ key d, (key, Entry.command d) ∈ entries → Made d) →
      Command.make handler entries description = .ok c → Made c

/-- A table that was made of entries, the commands among which were made of entries too. -/
def CommandTable.Made (t : CommandTable) : Prop :=
  ∃ entries, (∀ key d, (key, Entry.command d) ∈ entries → d.Made) ∧ ofEntries entries = .ok t

/-- A value has a text if it is one, perhaps one of a class derived from texts. -/
theorem content?_eq_some_iff {v : Value} {name : String} :
    v.content? = some name ↔ v = .text name ∨ ∃ c, v = .custom (.text c name) := by
  constructor
  · intro h
    cases v with
    | text s =>
      cases h
      exact .inl rfl
    | custom c =>
      cases c with
      | text className content =>
        cases h
        exact .inr ⟨className, rfl⟩
      | _ => cases h
    | _ => cases h
  · rintro (rfl | ⟨c, rfl⟩) <;> rfl

/-- Keys with the same text are the same key. -/
theorem sameKey_of_content {a b : Value} {name : String} (ha : a.content? = some name)
    (hb : b.content? = some name) : sameKey a b = true := by
  have hsame : sameContent a b = true := by simp [sameContent, ha, hb]
  rcases content?_eq_some_iff.1 ha with rfl | ⟨c, rfl⟩ <;>
    rcases content?_eq_some_iff.1 hb with rfl | ⟨d, rfl⟩ <;>
    simp [sameKey, wholeNumber?, isNotANumber, hsame]

/-- Each member of the second list is related to one of the first. -/
theorem exists_mem_left_of_forall₂ {α β : Type} {R : α → β → Prop} {xs : List α} {ys : List β}
    (h : List.Forall₂ R xs ys) {y : β} (hy : y ∈ ys) : ∃ x ∈ xs, R x y := by
  induction h with
  | nil => cases hy
  | cons hfirst _ ih =>
    rcases List.mem_cons.1 hy with rfl | hy
    · exact ⟨_, List.mem_cons_self, hfirst⟩
    · obtain ⟨x, hx, hR⟩ := ih hy
      exact ⟨x, List.mem_cons_of_mem _ hx, hR⟩

/-- Commands under keys that are told apart have names that are. -/
theorem nodup_of_gives {entries : List (Value × Entry)} {commands : List (String × Command)}
    (h : List.Forall₂ CommandTable.Gives entries commands)
    (hkeys : (entries.map (·.1)).Pairwise fun a b => sameKey a b = false) :
    (commands.map (·.1)).Nodup := by
  induction h with
  | nil => exact List.nodup_nil
  | @cons e c entries commands hfirst hrest ih =>
    rw [List.map_cons, List.pairwise_cons] at hkeys
    rw [List.map_cons, List.nodup_cons]
    refine ⟨?_, ih hkeys.2⟩
    intro hmem
    obtain ⟨d, hd, hname⟩ := List.mem_map.1 hmem
    obtain ⟨f, hf, hgives⟩ := exists_mem_left_of_forall₂ hrest hd
    have hdiffers := hkeys.1 f.1 (List.mem_map_of_mem hf)
    rw [sameKey_of_content hfirst.1 (hname ▸ hgives.1)] at hdiffers
    cases hdiffers

/-- What is made of well-formed commands is well formed. -/
theorem CommandTable.wellFormed_of_ofEntries {entries : List (Value × Entry)} {t : CommandTable}
    (h : ofEntries entries = .ok t)
    (hbelow : ∀ key d, (key, Entry.command d) ∈ entries → d.WellFormed) : t.WellFormed := by
  have hgives := (ofEntries_eq_ok_iff.1 h).1
  refine ⟨nodup_of_gives hgives (pairwise_assocOfPairs entries),
    isCommandName_of_ofEntries h, ?_⟩
  intro e he
  obtain ⟨⟨key, entry⟩, hentry, -, rfl⟩ := exists_mem_left_of_forall₂ hgives he
  obtain ⟨given, hgiven⟩ := exists_mem_of_mem_assocOfPairs hentry
  exact hbelow given e.2 hgiven

/-- A command that was made of entries is well formed. -/
theorem Command.Made.wellFormed {c : Command} (h : c.Made) : c.WellFormed := by
  induction h with
  | @make handler entries description c _ hmake ih =>
    rw [Command.make] at hmake
    cases htable : CommandTable.ofEntries entries with
    | error problem => simp [htable, Except.map] at hmake
    | ok t =>
      simp only [htable, Except.map, Except.ok.injEq] at hmake
      subst hmake
      obtain ⟨hnodup, husable, hbelow⟩ := CommandTable.wellFormed_of_ofEntries htable ih
      exact .node hnodup (fun e he => husable _ (List.mem_map_of_mem he)) hbelow

/-- Every table that is made is well formed, down to its last command. -/
theorem CommandTable.Made.wellFormed {t : CommandTable} (h : t.Made) : t.WellFormed := by
  obtain ⟨entries, hmade, htable⟩ := h
  exact wellFormed_of_ofEntries htable fun key d hd => (hmade key d hd).wellFormed

end TypedCommands
