import ScriptLiterals.Proofs.Text
import ScriptLiterals.Session.Editing

/-!
# Completions and hints

Completion and hint look the word at the cursor up separately, the one for all words of the vocabulary
that start with it, the other for the first that is longer. Both count bytes: the word is what has been
passed from some byte on, and what is missing of a word of the vocabulary begins behind as many bytes as
have been typed. It is to be put in where the cursor is, not where the word starts (`pos_completions`).

Neither cut falls into a character. The word at the cursor is the longest end of what has been passed
that consists of parts of words (`isLongestSuffix_wordBefore`), and what has been typed together with
what is missing is the whole word (`append_missingOf`). So the two look-ups agree: the hint is what is
missing of the first completion that misses anything (`hint?_eq`).
-/

set_option autoImplicit false

namespace ScriptLiterals

open Text

variable {typed word : List Char} {c : Cursor}

/-! ## Places in a line -/

/-- The place behind some characters has passed these. -/
theorem Cursor.atPos_append (before after : List Char) :
    atPos (before ++ after) (byteCount before) = ⟨before.reverse, after⟩ := by
  rw [atPos, takeBytes_append, dropBytes_append]

namespace Session

open Terminal

/-! ## The word at the cursor -/

/-- The longest end of the text that consists of characters of the class. -/
structure IsLongestSuffix (p : Char → Bool) (text run : List Char) : Prop where
  ends : run <:+ text
  all : ∀ c ∈ run, p c = true
  longest : ∀ other, other <:+ text → (∀ c ∈ other, p c = true) → other <:+ run

theorem IsLongestSuffix.unique {p : Char → Bool} {text run run' : List Char}
    (h : IsLongestSuffix p text run) (h' : IsLongestSuffix p text run') : run = run' := by
  have hrun : run <:+ run' := h'.longest run h.ends h.all
  have hrun' : run' <:+ run := h.longest run' h'.ends h'.all
  exact hrun.eq_of_length (Nat.le_antisymm hrun.length_le hrun'.length_le)

/-- The run that a text begins with is the run that its reverse ends with. -/
theorem isLongestSuffix_reverse (p : Char → Bool) (behind : List Char) :
    IsLongestSuffix p behind.reverse (behind.takeWhile p).reverse where
  ends := List.reverse_suffix.mpr (List.takeWhile_prefix p)
  all := fun c hc => List.mem_takeWhile_imp (List.mem_reverse.mp hc)
  longest := by
    intro other hother hall
    obtain ⟨run, rfl⟩ : ∃ run : List Char, other = run.reverse :=
      ⟨other.reverse, (List.reverse_reverse other).symm⟩
    obtain ⟨rest, rfl⟩ := List.reverse_suffix.mp hother
    have hrun : ∀ c ∈ run, p c = true := fun c hc => hall c (List.mem_reverse.mpr hc)
    rw [List.takeWhile_append_of_pos hrun]
    exact List.reverse_suffix.mpr (List.prefix_append run _)

theorem reverse_behind (c : Cursor) : c.behind.reverse =
    (c.behind.dropWhile isWordPart).reverse ++ (c.behind.takeWhile isWordPart).reverse := by
  rw [← List.reverse_append, List.takeWhile_append_dropWhile]

theorem wordBefore_eq (c : Cursor) : wordBefore c = (c.behind.takeWhile isWordPart).reverse := by
  rw [wordBefore, wordStart, ← byteCount_reverse, reverse_behind, dropBytes_append]

/-- **The word at the cursor starts at a whole character.** -/
theorem exists_append_wordBefore (c : Cursor) :
    ∃ before, c.behind.reverse = before ++ wordBefore c ∧ byteCount before = wordStart c :=
  ⟨_, by rw [wordBefore_eq]; exact reverse_behind c, byteCount_reverse _⟩

/-- **The word at the cursor is the longest one that ends there.** -/
theorem isLongestSuffix_wordBefore (c : Cursor) :
    IsLongestSuffix isWordPart c.behind.reverse (wordBefore c) := by
  rw [wordBefore_eq]
  exact isLongestSuffix_reverse isWordPart c.behind

/-! ## What is missing -/

/-- **What is missing completes what has been typed.** -/
theorem append_missingOf (h : typed <+: word) : typed ++ missingOf typed word = word := by
  obtain ⟨rest, rfl⟩ := h
  rw [missingOf, dropBytes_append]

/-- Something is missing if the word has more bytes. -/
theorem missingOf_isEmpty_iff (h : typed <+: word) :
    (missingOf typed word).isEmpty = false ↔ byteCount typed < byteCount word := by
  conv_rhs => rw [← append_missingOf h, byteCount_append]
  cases hmissing : missingOf typed word with
  | nil => simp
  | cons c cs =>
    have hpos := byteCount_pos (List.cons_ne_nil c cs)
    exact iff_of_true rfl (by omega)

/-! ## What is proposed -/

theorem completions_of_nil (h : wordBefore c = []) : completions c = ⟨c.pos, []⟩ := by
  rw [completions, h]
  rfl

theorem completions_of_ne_nil (h : wordBefore c ≠ []) :
    completions c = ⟨c.pos, completionsOf (wordBefore c)⟩ :=
  if_neg (mt List.isEmpty_iff.mp h)

/-- **A proposal is for the place of the cursor**, also where nothing is proposed. -/
theorem pos_completions (c : Cursor) : (completions c).pos = c.pos := by
  by_cases h : wordBefore c = []
  · rw [completions_of_nil h]
  · rw [completions_of_ne_nil h]

theorem map_word_completionsOf (typed : List Char) :
    (completionsOf typed).map Completion.word = vocabulary.filter typed.isPrefixOf := by
  rw [completionsOf, List.map_map]
  exact List.map_id _

theorem map_word_completions (c : Cursor) : (completions c).candidates.map Completion.word =
    if wordBefore c = [] then [] else vocabulary.filter (wordBefore c).isPrefixOf := by
  split_ifs with h
  · rw [completions_of_nil h]
    rfl
  · rw [completions_of_ne_nil h]
    exact map_word_completionsOf (wordBefore c)

theorem append_missing_of_mem {found : Completion} (h : found ∈ (completions c).candidates) :
    wordBefore c ++ found.missing = found.word := by
  by_cases hnil : wordBefore c = []
  · rw [completions_of_nil hnil] at h
    exact absurd h (by simp)
  · rw [completions_of_ne_nil hnil] at h
    obtain ⟨word, hword, rfl⟩ := List.mem_map.mp h
    exact append_missingOf (List.isPrefixOf_iff_prefix.mp (List.mem_filter.mp hword).2)

/-! ## The hint -/

/-- **The first longer word is that of the first completion that misses anything.** -/
theorem find?_longer (typed : List Char) :
    (vocabulary.find? fun word => typed.isPrefixOf word && byteCount typed < byteCount word) =
      ((completionsOf typed).find? fun found => !found.missing.isEmpty).map Completion.word := by
  rw [completionsOf, List.find?_map, List.find?_filter, Option.map_map]
  refine Eq.trans ?_ Option.map_id'.symm
  congr 1
  funext word
  rw [Bool.eq_iff_iff]
  simp only [Bool.and_eq_true, decide_eq_true_eq, Function.comp_apply, Bool.not_eq_true']
  refine and_congr_right fun hstarts => ?_
  exact (missingOf_isEmpty_iff (List.isPrefixOf_iff_prefix.mp hstarts)).symm

/-- **The hint is what is missing of the first completion that misses anything**, at the end of the line
and behind a word of two bytes or more. -/
theorem hint?_eq (c : Cursor) : hint? c =
    if c.rest ≠ [] ∨ byteCount (wordBefore c) < 2 then none
    else ((completions c).candidates.find? fun found => !found.missing.isEmpty).map fun found =>
      dimmed (String.ofList found.missing) := by
  have hcond : (!c.rest.isEmpty || decide (byteCount (wordBefore c) < 2)) = true ↔
      c.rest ≠ [] ∨ byteCount (wordBefore c) < 2 := by
    simp
  unfold hint?
  dsimp only
  by_cases hnone : c.rest ≠ [] ∨ byteCount (wordBefore c) < 2
  · rw [if_pos hnone, if_pos (hcond.mpr hnone)]
  · have hword : wordBefore c ≠ [] := by
      intro hnil
      exact hnone (Or.inr (by rw [hnil]; decide))
    rw [if_neg hnone, if_neg (mt hcond.mp hnone), find?_longer, Option.map_map,
      completions_of_ne_nil hword]
    cases hfound : (completionsOf (wordBefore c)).find? fun found => !found.missing.isEmpty with
    | none => rfl
    | some found =>
      obtain ⟨word, -, rfl⟩ := List.mem_map.mp (List.mem_of_find?_eq_some hfound)
      rfl

/-- **Completion and hint agree.** For every place in a line between two characters, the word there is
the longest one that ends there, and starts at a whole character. It is completed in that place, by the
words of the vocabulary that start with it, in their order, and what is missing of each completes it.
There is no hint in front of the end of the line. At the end the hint is what is missing of the first
completion that misses anything, for words of two bytes or more. -/
theorem completions_hint (line : List Char) (pos : Nat) (h : IsCharBoundary line pos) :
    ∃ typed, IsLongestSuffix isWordPart (takeBytes pos line) typed ∧
      (∃ before, takeBytes pos line = before ++ typed ∧
        byteCount before = wordStart (Cursor.atPos line pos)) ∧
      (completions (Cursor.atPos line pos)).pos = pos ∧
      (completions (Cursor.atPos line pos)).candidates.map Completion.word =
        (if typed = [] then [] else vocabulary.filter typed.isPrefixOf) ∧
      (∀ found ∈ (completions (Cursor.atPos line pos)).candidates,
        typed ++ found.missing = found.word) ∧
      (pos < byteCount line → hint? (Cursor.atPos line pos) = none) ∧
      (pos = byteCount line → hint? (Cursor.atPos line pos) =
        if byteCount typed < 2 then none
        else ((completions (Cursor.atEnd line)).candidates.find?
          fun found => !found.missing.isEmpty).map
            fun found => dimmed (String.ofList found.missing)) := by
  obtain ⟨before, after, rfl, rfl⟩ := h
  rw [Cursor.atPos_append, takeBytes_append]
  have hlongest := isLongestSuffix_wordBefore ⟨before.reverse, after⟩
  obtain ⟨start, hsplit, hstart⟩ := exists_append_wordBefore ⟨before.reverse, after⟩
  rw [List.reverse_reverse] at hlongest hsplit
  have hpos : (completions ⟨before.reverse, after⟩).pos = byteCount before :=
    (pos_completions _).trans (byteCount_reverse before)
  refine ⟨wordBefore ⟨before.reverse, after⟩, hlongest, ⟨start, hsplit, hstart⟩, hpos,
    map_word_completions _, fun found => append_missing_of_mem, ?_, ?_⟩
  · intro hlt
    have hafter : after ≠ [] := by
      rintro rfl
      rw [List.append_nil] at hlt
      exact absurd hlt (Nat.lt_irrefl _)
    rw [hint?_eq, if_pos (Or.inl hafter)]
  · intro hend
    have hafter : after = [] := by
      by_contra hne
      have hmore := byteCount_pos hne
      rw [byteCount_append] at hend
      omega
    subst hafter
    have hplace : Cursor.atEnd (before ++ []) = ⟨before.reverse, []⟩ := by
      rw [List.append_nil]
      rfl
    rw [hplace, hint?_eq]
    simp

/-- The word stands behind a blank and a character of two bytes, and is completed at the fifth byte, not
where it starts. Two words of the vocabulary begin with it, and the hint is about the first. In front of
its last character there is none. -/
theorem completions_hint_wide :
    IsCharBoundary ['\u00e9', ' ', 'n', 'u'] 5 ∧
      (completions (Cursor.atPos ['\u00e9', ' ', 'n', 'u'] 5)).pos = 5 ∧
      (completions (Cursor.atPos ['\u00e9', ' ', 'n', 'u'] 5)).candidates.map Completion.word =
        ["number".toList, "null".toList] ∧
      hint? (Cursor.atPos ['\u00e9', ' ', 'n', 'u'] 5) = some (dimmed "mber") ∧
      hint? (Cursor.atPos ['\u00e9', ' ', 'n', 'u'] 4) = none := by
  have hend : IsCharBoundary ['\u00e9', ' ', 'n', 'u'] 5 := ⟨['\u00e9', ' ', 'n', 'u'], [], rfl, rfl⟩
  have hbefore : IsCharBoundary ['\u00e9', ' ', 'n', 'u'] 4 := ⟨['\u00e9', ' ', 'n'], ['u'], rfl, rfl⟩
  have hword : IsLongestSuffix isWordPart ['\u00e9', ' ', 'n', 'u'] ['n', 'u'] :=
    isLongestSuffix_reverse isWordPart ['u', 'n', ' ', '\u00e9']
  obtain ⟨typed, hlongest, -, hpos, hwords, -, -, hhint⟩ := completions_hint _ 5 hend
  obtain rfl : ['n', 'u'] = typed := hword.unique hlongest
  obtain ⟨-, -, -, -, -, -, hnone, -⟩ := completions_hint _ 4 hbefore
  refine ⟨hend, hpos, ?_, ?_, hnone (by decide)⟩
  · rw [hwords]
    decide
  · rw [hhint (by decide)]
    decide

end Session

end ScriptLiterals
