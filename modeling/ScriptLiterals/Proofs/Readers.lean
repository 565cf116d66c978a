import ScriptLiterals.Detect
import ScriptLiterals.Proofs.Quoted.Pieces
import ScriptLiterals.Proofs.Recognizer

/-!
# What the readers of words, strings, patterns and comments take

For each reader two statements: that the parts it answers with, put together again, are the text it
was given, and which texts it succeeds on. Behind the second no proof has to follow the reader's
`match`es again. Numbers have a module of their own (`ScriptLiterals.Proofs.Number.Readers`).

Strings, patterns and comments are each read by a loop that looks for the closing delimiter, and the
first statement is an induction along that loop; a word is a run of characters.
-/

set_option autoImplicit false

namespace ScriptLiterals

open Text

variable {cs : List Char}

/-! ## Keywords -/

namespace Keyword

variable {k : Keyword} {found : Lexeme Keyword Unit}

theorem ofWord?_eq_some_iff {word : List Char} : ofWord? word = some k ↔ word = k.word := by
  constructor
  · intro h
    rw [ofWord?] at h
    have hword := List.find?_some h
    exact (eq_of_beq hword).symm
  · rintro rfl
    exact ofWord?_word k

theorem isIdContinue_of_mem_word {c : Char} (h : c ∈ k.word) : isIdContinue c = true := by
  have hall : all.all (fun k => k.word.all isIdContinue) = true := by decide
  have hk : k ∈ all := by rcases k with (_ | _) | _ | _ | _ <;> decide
  exact List.all_eq_true.mp (List.all_eq_true.mp hall k hk) c h

theorem word_ne_nil (k : Keyword) : k.word ≠ [] := by
  rcases k with (_ | _) | _ | _ | _ <;> simp [word]

/-- **A keyword is read where its word stands and ends.** -/
theorem read_eq_ok_iff : read cs = .ok found ↔
    ∃ k rest, cs = word k ++ rest ∧ EndsRun isIdContinue rest ∧
      found = ⟨word k, rest, k, ()⟩ := by
  constructor
  · intro h
    unfold read at h
    dsimp only at h
    split at h
    · exact absurd h (by simp)
    · rename_i k hword
      have hk := ofWord?_eq_some_iff.mp hword
      refine ⟨k, cs.dropWhile isIdContinue, ?_, endsRun_dropWhile _ _, ?_⟩
      · rw [← hk, List.takeWhile_append_dropWhile]
      · rw [← Except.ok.inj h, ← hk]
  · intro hparts
    obtain ⟨k, rest, rfl, hend, rfl⟩ := hparts
    have hrun : ∀ c ∈ k.word, isIdContinue c = true := fun _ => isIdContinue_of_mem_word
    rw [read, takeWhile_run hrun hend, dropWhile_run hrun hend]
    simp only [ofWord?_word]

end Keyword

/-! ## Strings

Between delimiters a backslash is read together with the character behind it, before anything else
is looked at. -/

/-- What is left when all pairs have been read is no backslash. -/
theorem ne_backslash_of_unpaired {c : Char} (halone : c = '\\' → cs = [] → False)
    (hpair : ∀ d ds, c = '\\' → cs = d :: ds → False) : c ≠ '\\' := by
  intro hc
  cases cs with
  | nil => exact halone hc rfl
  | cons d ds => exact hpair d ds hc rfl

theorem Quote.ofChar?_eq_some_iff {c : Char} {q : Quote} :
    Quote.ofChar? c = some q ↔ c = q.char := by
  constructor
  · intro h
    unfold Quote.ofChar? at h
    split_ifs at h with hsingle hdouble hback
    · rw [← Option.some.inj h, hsingle]
    · rw [← Option.some.inj h, hdouble]
    · rw [← Option.some.inj h, hback]
  · rintro rfl
    exact Quote.ofChar?_char q

namespace Quoted

variable {q : Quote} {rest : List Char} {pieces : List Piece}

/-- A step of the reader adds to the pieces the characters it has passed. -/
theorem sourceOf_append_of_map (piece : Piece) {behind : List Char}
    {found : Option (List Piece × List Char)}
    (ih : ∀ {others}, found = some (others, rest) → behind = sourceOf others ++ q.char :: rest)
    (h : (found.map fun found => (piece :: found.1, found.2)) = some (pieces, rest)) :
    piece.source ++ behind = sourceOf pieces ++ q.char :: rest := by
  obtain ⟨⟨others, rest'⟩, hfound, heq⟩ := Option.map_eq_some_iff.mp h
  obtain ⟨rfl, rfl⟩ := Prod.mk.inj heq
  rw [ih hfound]
  simp [sourceOf]

/-- The pieces up to the closing quote, the quote and what follows it are the whole text. -/
theorem sourceOf_append_of_readPieces? (h : readPieces? q cs = some (pieces, rest)) :
    cs = sourceOf pieces ++ q.char :: rest := by
  fun_induction readPieces? q cs generalizing pieces with
  | case1 => exact absurd h (by simp)
  | case2 => exact absurd h (by simp)
  | case3 cs ih => exact sourceOf_append_of_map .brokenLine ih h
  | case4 c cs hbreak ih => exact sourceOf_append_of_map (.pair c) ih h
  | case5 cs =>
    obtain ⟨rfl, rfl⟩ := Prod.mk.inj (Option.some.inj h)
    rfl
  | case6 => exact absurd h (by simp)
  | case7 c cs _ _ _ hquote hraw ih => exact sourceOf_append_of_map (.plain c) ih h

/-- Behind a quote the reader looks for the same quote. -/
theorem read_quote (q : Quote) (cs : List Char) : read (q.char :: cs) =
    match readPieces? q cs with
    | none => .error .unterminated
    | some (pieces, rest) =>
      .ok ⟨q.char :: sourceOf pieces ++ [q.char], rest, decode pieces, q⟩ := by
  cases hpieces : readPieces? q cs <;> simp only [read, Quote.ofChar?_char, hpieces]

/-- **A string is read from a quote to the next one that closes it.** -/
theorem read_eq_ok_iff {found : Lexeme (List Char) Quote} : read cs = .ok found ↔
    ∃ q behind pieces rest, cs = q.char :: behind ∧
      readPieces? q behind = some (pieces, rest) ∧
      found = ⟨q.char :: sourceOf pieces ++ [q.char], rest, decode pieces, q⟩ := by
  constructor
  · intro h
    cases cs with
    | nil => exact absurd h (by simp [read])
    | cons c cs =>
      cases hquote : Quote.ofChar? c with
      | none =>
        rw [read, hquote] at h
        exact absurd h (by simp)
      | some q =>
        obtain rfl := Quote.ofChar?_eq_some_iff.mp hquote
        rw [read_quote] at h
        cases hpieces : readPieces? q cs with
        | none => rw [hpieces] at h; exact absurd h (by simp)
        | some pair =>
          rw [hpieces] at h
          exact ⟨q, cs, pair.1, pair.2, rfl, hpieces, (Except.ok.inj h).symm⟩
  · intro hparts
    obtain ⟨q, behind, pieces, rest, rfl, hpieces, rfl⟩ := hparts
    rw [read_quote, hpieces]

end Quoted

/-! ## Regular expressions -/

theorem RegexpFlags.readRun_append (flags : RegexpFlags) (cs : List Char) :
    (flags.readRun cs).1 ++ (flags.readRun cs).2.2 = cs := by
  fun_induction readRun flags cs with
  | case1 => rfl
  | case2 => rfl
  | case3 => rfl
  | case4 flags c cs flag _ _ run all rest hrun ih =>
    rw [hrun] at ih
    exact congrArg (c :: ·) ih

namespace Regexp

variable {inClass : Bool} {body behind : List Char}

/-- The head of a pattern that is no backslash breaks it off, ends it or belongs to it. -/
theorem splitBody?_of_ne {c : Char} (h : c ≠ '\\') (cs : List Char) :
    splitBody? inClass (c :: cs) =
      if isLineTerminator c then none
      else if c = '/' ∧ !inClass then some ([], cs)
      else (splitBody? (classAfter inClass c) cs).map fun found => (c :: found.1, found.2) := by
  rw [splitBody?]
  · exact fun hc => absurd hc h
  · exact fun _ _ hc => absurd hc h

/-- The pattern, the slash that ends it and what follows are the whole text. -/
theorem append_of_splitBody? (h : splitBody? inClass cs = some (body, behind)) :
    cs = body ++ '/' :: behind := by
  fun_induction splitBody? inClass cs generalizing body with
  | case1 => exact absurd h (by simp)
  | case2 => exact absurd h (by simp)
  | case3 => exact absurd h (by simp)
  | case4 inClass c cs _ ih =>
    obtain ⟨⟨inner, behind'⟩, hinner, heq⟩ := Option.map_eq_some_iff.mp h
    obtain ⟨rfl, rfl⟩ := Prod.mk.inj heq
    rw [ih hinner]
    rfl
  | case5 => exact absurd h (by simp)
  | case6 inClass c cs _ _ _ hslash =>
    obtain ⟨rfl, rfl⟩ := Prod.mk.inj (Option.some.inj h)
    rw [hslash.1]
    rfl
  | case7 inClass c cs _ _ _ _ ih =>
    obtain ⟨⟨inner, behind'⟩, hinner, heq⟩ := Option.map_eq_some_iff.mp h
    obtain ⟨rfl, rfl⟩ := Prod.mk.inj heq
    rw [ih hinner]
    rfl

/-- The lexeme of a pattern with a meaning, in front of what its last slash is followed by. -/
def lexemeOf (body behind : List Char) (value : Regexp) : Lexeme Regexp Unit :=
  ⟨'/' :: body ++ '/' :: (RegexpFlags.none.readRun behind).1,
    (RegexpFlags.none.readRun behind).2.2, value, ()⟩

/-- **A regular expression is read from a slash that opens no comment to the one that ends the
pattern, and on over its flags.** -/
theorem read_eq_ok_iff {found : Lexeme Regexp Unit} : read cs = .ok found ↔
    ∃ text body behind value, cs = '/' :: text ∧ opensComment text = false ∧
      splitBody? false text = some (body, behind) ∧
      ofSource body (RegexpFlags.none.readRun behind).2.1 = .ok value ∧
      found = lexemeOf body behind value := by
  constructor
  · intro h
    unfold read at h
    split at h
    · rename_i text
      split at h
      · exact absurd h (by simp)
      · rename_i hopens
        cases hbody : splitBody? false text with
        | none => rw [hbody] at h; exact absurd h (by simp)
        | some pair =>
          rw [hbody] at h
          dsimp only at h
          cases hvalue : ofSource pair.1 (RegexpFlags.none.readRun pair.2).2.1 with
          | error fault => rw [hvalue] at h; exact absurd h (by simp)
          | ok value =>
            rw [hvalue] at h
            exact ⟨text, pair.1, pair.2, value, rfl, Bool.eq_false_iff.mpr hopens, hbody, hvalue,
              (Except.ok.inj h).symm⟩
    · exact absurd h (by simp)
  · intro hparts
    obtain ⟨text, body, behind, value, rfl, hopens, hbody, hvalue, rfl⟩ := hparts
    rw [read, hopens, hbody]
    dsimp only
    rw [hvalue]
    rfl

end Regexp

/-! ## Comments -/

namespace Comment

/-- The text before the closer, the closer and what follows are the whole text. -/
theorem append_of_splitAtCloser? {inner rest : List Char}
    (h : splitAtCloser? cs = some (inner, rest)) : cs = inner ++ closer ++ rest := by
  fun_induction splitAtCloser? cs generalizing inner with
  | case1 => exact absurd h (by simp)
  | case2 cs =>
    obtain ⟨rfl, rfl⟩ := Prod.mk.inj (Option.some.inj h)
    rfl
  | case3 c cs _ ih =>
    obtain ⟨⟨inner', rest'⟩, hinner, heq⟩ := Option.map_eq_some_iff.mp h
    obtain ⟨rfl, rfl⟩ := Prod.mk.inj heq
    rw [ih hinner]
    rfl

/-- The lexeme of a comment: its value is the comment as it stands. -/
def lexemeOf (source rest : List Char) (form : CommentForm) : Lexeme (List Char) CommentForm :=
  ⟨source, rest, source, form⟩

/-- **A comment is a line with the line breaks behind it, or all up to the first closer.** -/
theorem read_eq_ok_iff {found : Lexeme (List Char) CommentForm} : read cs = .ok found ↔
    (∃ text, cs = '/' :: '/' :: text ∧
      found = lexemeOf
        ('/' :: '/' :: text.takeWhile (fun c => !isLineBreak c) ++
          (text.dropWhile fun c => !isLineBreak c).takeWhile isLineBreak)
        ((text.dropWhile fun c => !isLineBreak c).dropWhile isLineBreak) .line) ∨
    ∃ text inner rest, cs = '/' :: '*' :: text ∧ splitAtCloser? text = some (inner, rest) ∧
      found = lexemeOf ('/' :: '*' :: inner ++ closer) rest (blockForm inner) := by
  constructor
  · intro h
    unfold read at h
    split at h
    · rename_i text
      exact Or.inl ⟨text, rfl, (Except.ok.inj h).symm⟩
    · rename_i text
      cases hinner : splitAtCloser? text with
      | none => rw [hinner] at h; exact absurd h (by simp)
      | some pair =>
        rw [hinner] at h
        exact Or.inr ⟨text, pair.1, pair.2, rfl, hinner, (Except.ok.inj h).symm⟩
    · exact absurd h (by simp)
  · intro hparts
    rcases hparts with ⟨text, rfl, rfl⟩ | ⟨text, inner, rest, rfl, hinner, rfl⟩
    · rfl
    · rw [read, hinner]
      rfl

end Comment

end ScriptLiterals
