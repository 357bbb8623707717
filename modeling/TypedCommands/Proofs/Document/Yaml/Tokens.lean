import TypedCommands.Proofs.Document.Yaml.Values

/-!
# Tokens of written arguments

The text of a list of arguments is split into the tokens that it was put together from:
the one key of the document, and for each argument an item with a block of four keys and
their values.  A block of an argument ends in front of the next item, or at the end.

Main results:

- Theorem `Comes.entry`: what is read of one line with a key and a value.
- Theorem `Comes.argument`: what is read of one argument.
- Theorem `tokens_writeArguments`: the tokens of the text of a list of arguments.
-/

namespace TypedCommands.Yaml

/-! ## Tokens -/

/-- The keys of a document of arguments. -/
def documentKeys : List String := ["arguments", "name", "raw", "start", "value"]

/-- The tokens of a key and its value. -/
def entryTokens (key : String) (token : Token) : List Token :=
  [.key, .scalar true key, .value, token]

/-- The tokens of an argument. -/
def argumentTokens (a : Argument) : List Token :=
  [.item, .blockMapping] ++ entryTokens "name" (textToken a.name.toList) ++
    entryTokens "raw" (textToken a.raw.toList) ++ entryTokens "start" (numberToken a.start) ++
    entryTokens "value" (textToken a.value.toList) ++ [.blockEnd]

/-- The tokens of a list of arguments that is not empty. -/
def documentTokens (arguments : List Argument) : List Token :=
  [.blockMapping, .key, .scalar true "arguments", .value] ++ arguments.flatMap argumentTokens ++
    [.blockEnd, .streamEnd]

namespace Reading

variable {r : Reading} {tokens tokens' : List Token} {indent indent' : Int}
  {outer outer' : List Int} {rest : List Char} {n : Nat}

/-! ## Entries -/

/-- The line of a key and its value, and what comes behind it. -/
def entryText (key : String) (written behind : List Char) : List Char :=
  key.toList ++ ':' :: ' ' :: (written ++ '\n' :: behind)

/-- What is written of a value of an argument is read as one token. -/
def IsRead (written : List Char) (token : Token) : Prop :=
  ∀ (place : Place) (tokens tokens' : List Token) (indent' : Int) (outer' : List Int)
    (rest : List Char) (n : Nat),
    place.rest = ' ' :: (written ++ '\n' :: (List.replicate n ' ' ++ rest)) →
    NextLine n rest 2 → 2 ≤ (place.column : Int) →
    Unwinds n (token :: tokens) 2 [0, -1] tokens' indent' outer' →
    ∃ next : Reading, (idle place tokens 2 [0, -1] false).LeadsTo next ∧
      next.Comes tokens' indent' outer' rest n

theorem isRead_text (column : Nat) (cs : List Char) :
    IsRead (writeText column cs) (textToken cs) :=
  fun _ _ _ _ _ _ _ h hnext hcolumn hunwinds =>
    comes_of_text cs h hnext hcolumn (by decide) hunwinds

theorem isRead_number (start : Int) : IsRead (toString start).toList (numberToken start) :=
  fun _ _ _ _ _ _ _ h hnext hcolumn hunwinds => comes_of_number start h hnext hcolumn hunwinds

/-- The block of an argument is open at the second column once a key of it was read. -/
def OpensAt (tokens : List Token) (indent : Int) (outer : List Int) (opened : List Token) : Prop :=
  ∀ (place : Place) (word : Token), afterKey place tokens word indent outer 2 =
    idle place (.value :: word :: .key :: opened) 2 [0, -1] false

theorem opensAt_first (tokens : List Token) : OpensAt tokens 0 [-1] (.blockMapping :: tokens) :=
  fun _ _ => rfl

theorem opensAt_next (tokens : List Token) : OpensAt tokens 2 [0, -1] tokens :=
  fun _ _ => rfl

/-- One line with a key and a value. -/
theorem Comes.entry {key : String} {written : List Char} {token : Token} {opened : List Token}
    (h : r.Comes tokens indent outer (entryText key written (List.replicate n ' ' ++ rest)) 2)
    (hkey : IsKey key.toList) (hread : IsRead written token) (hindent : indent ≤ 2)
    (hopens : OpensAt tokens indent outer opened) (hnext : NextLine n rest 2)
    (hunwinds : Unwinds n ((entryTokens key token).reverse ++ opened) 2 [0, -1]
      tokens' indent' outer') :
    ∃ next : Reading, r.LeadsTo next ∧ next.Comes tokens' indent' outer' rest n := by
  obtain ⟨place, hleads, hplace, hcolumn⟩ := h.key hkey rfl hindent
  rw [hopens, String.ofList_toList] at hleads
  obtain ⟨next, hnextLeads, hcomes⟩ :=
    hread place _ _ _ _ _ _ hplace hnext (by rw [hcolumn]; omega) hunwinds
  exact ⟨next, hleads.trans hnextLeads, hcomes⟩

/-- The keys of a document are keys. -/
theorem isKey_of_mem {key : String} (h : key ∈ documentKeys) : IsKey key.toList := by
  have hall : ∀ k ∈ documentKeys,
      k.toList ≠ [] ∧ k.toList.all Char.isLower = true ∧ k.toList.length ≤ 1024 := by decide
  obtain ⟨hnonempty, hletters, hshort⟩ := hall key h
  exact ⟨hnonempty, List.all_eq_true.mp hletters, hshort⟩

/-- A key begins a token. -/
theorem startsToken_entryText {key : String} (hkey : IsKey key.toList)
    (written behind : List Char) : StartsToken (entryText key written behind) := by
  obtain ⟨c, letters, hcons⟩ := List.exists_cons_of_ne_nil hkey.nonempty
  have hc : c.isLower = true := hkey.letters c (by rw [hcons]; exact List.mem_cons_self)
  intro d hd
  obtain rfl : c = d := by simpa [entryText, hcons] using hd
  exact ⟨isGap_of_isLower hc, by rintro rfl; cases hc⟩

/-- The next key of a block stands below the one before. -/
theorem nextLine_entryText {key : String} (hkey : IsKey key.toList) (written behind : List Char) :
    NextLine 2 (entryText key written behind) 2 :=
  ⟨startsToken_entryText hkey written behind,
    startsWithMark_eq_false (by decide) (by decide) _, by decide⟩

/-! ## Arguments -/

/-- What follows an argument: another one, or nothing. -/
def StartsItem (rest : List Char) : Prop := rest = [] ∨ ∃ more, rest = '-' :: ' ' :: more

/-- An item of the list is on a line of its own. -/
theorem StartsItem.nextLine (h : StartsItem rest) : NextLine 0 rest 2 := by
  rcases h with rfl | ⟨more, rfl⟩
  · exact ⟨by simp [StartsToken], rfl, by decide⟩
  · refine ⟨?_, ?_, by decide⟩
    · intro c hc
      obtain rfl : '-' = c := by simpa using hc
      decide
    · cases more <;> rfl

/-- An argument is written as a hyphen and four entries. -/
theorem writeArgument_append (a : Argument) (rest : List Char) :
    writeArgument a ++ rest = '-' :: ' ' ::
      entryText "name" (writeText 8 a.name.toList) (List.replicate 2 ' ' ++
        entryText "raw" (writeText 7 a.raw.toList) (List.replicate 2 ' ' ++
          entryText "start" (toString a.start).toList (List.replicate 2 ' ' ++
            entryText "value" (writeText 9 a.value.toList) (List.replicate 0 ' ' ++ rest)))) := by
  simp [writeArgument, writeEntry, entryText, List.replicate]

/-- One argument. -/
theorem Comes.argument {a : Argument} (h : r.Comes tokens 0 [-1] (writeArgument a ++ rest) 0)
    (hrest : StartsItem rest) :
    ∃ next : Reading, r.LeadsTo next ∧
      next.Comes ((argumentTokens a).reverse ++ tokens) 0 [-1] rest 0 := by
  have hname : IsKey "name".toList := isKey_of_mem (by decide)
  have hraw : IsKey "raw".toList := isKey_of_mem (by decide)
  have hstart : IsKey "start".toList := isKey_of_mem (by decide)
  have hvalue : IsKey "value".toList := isKey_of_mem (by decide)
  rw [writeArgument_append] at h
  obtain ⟨r₁, hleads₁, h₁⟩ := h.item (startsToken_entryText hname _ _)
  obtain ⟨r₂, hleads₂, h₂⟩ := h₁.entry hname (isRead_text _ _) (by decide)
    (opensAt_first _) (nextLine_entryText hraw _ _) (.of_le (by decide))
  obtain ⟨r₃, hleads₃, h₃⟩ := h₂.entry hraw (isRead_text _ _) (by decide)
    (opensAt_next _) (nextLine_entryText hstart _ _) (.of_le (by decide))
  obtain ⟨r₄, hleads₄, h₄⟩ := h₃.entry hstart (isRead_number _) (by decide)
    (opensAt_next _) (nextLine_entryText hvalue _ _) (.of_le (by decide))
  obtain ⟨r₅, hleads₅, h₅⟩ := h₄.entry hvalue (isRead_text _ _) (by decide)
    (opensAt_next _) hrest.nextLine (.blockEnd (by decide) (by decide))
  refine ⟨r₅, hleads₁.trans (hleads₂.trans (hleads₃.trans (hleads₄.trans hleads₅))), ?_⟩
  simpa [argumentTokens] using h₅

/-- Behind an item comes the next one or the end. -/
theorem startsItem_flatMap (arguments : List Argument) :
    StartsItem (arguments.flatMap writeArgument) := by
  cases arguments with
  | nil => exact .inl rfl
  | cons a arguments =>
    rw [List.flatMap_cons, writeArgument_append]
    exact .inr ⟨_, rfl⟩

/-- All arguments, and the end. -/
theorem Comes.arguments {arguments : List Argument}
    (h : r.Comes tokens 0 [-1] (arguments.flatMap writeArgument) 0) :
    r.Yields (tokens.reverse ++ arguments.flatMap argumentTokens ++ [.blockEnd, .streamEnd]) := by
  induction arguments generalizing r tokens with
  | nil => simpa using h.end_yields
  | cons a arguments ih =>
    obtain ⟨next, hleads, hcomes⟩ := h.argument (startsItem_flatMap arguments)
    have hyields := hleads _ (ih hcomes)
    simpa using hyields

end Reading

open Reading in
/-- The tokens of the text of a list of arguments. -/
theorem tokens_writeArguments {arguments : List Argument} (h : arguments ≠ []) :
    tokens (writeArguments arguments) = (documentTokens arguments, none) := by
  have hwritten : writeArguments arguments = "arguments".toList ++ ':' ::
      '\n' :: (List.replicate 0 ' ' ++ arguments.flatMap writeArgument) := by
    simp [writeArguments, h, List.replicate]
  have hstarts : StartsToken (writeArguments arguments) := by
    intro c hc
    obtain rfl : 'a' = c := by simpa [hwritten] using hc
    exact ⟨rfl, by decide⟩
  have hmark : (writeArguments arguments).head? ≠ some '\ufeff' := by simp [hwritten]
  have hkey : IsKey "arguments".toList := isKey_of_mem (by decide)
  have hcomes := comes_start hstarts hmark
  rw [hwritten] at hcomes
  obtain ⟨place, hleads, hplace, -⟩ := hcomes.key hkey rfl (by decide)
  have hitems : (afterKey place [] (.scalar true (String.ofList "arguments".toList)) (-1) []
      0).Comes [.value, .scalar true "arguments", .key, .blockMapping] 0 [-1]
      (arguments.flatMap writeArgument) 0 :=
    comes_line hplace (startsItem_flatMap arguments).nextLine.starts (.of_le (by decide))
  have hyields := hleads _ hitems.arguments
  rw [← hwritten] at hyields
  exact hyields _ (by rw [ofText_eq hmark])

end TypedCommands.Yaml
