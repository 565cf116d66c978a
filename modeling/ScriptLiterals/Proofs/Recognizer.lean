import ScriptLiterals.Proofs.Text
import ScriptLiterals.Recognizer

/-!
# What a scan is

`Recognizer.scan` walks a cursor over the blanks, hands the rest to the reader of the kind and looks
at what follows. `scan_eq_ok_iff` says this without a cursor: a token is a lexeme of
`skipBlank input`, put behind the leading blanks, whose leftover the boundary accepts. No proof about
a kind of literal opens the cursor after this file.

The last section is about what a boundary lets through. Whatever it is, it begins with a blank or
with one of the boundary's own characters, and none of those goes on with a word or a number
(`endsRun_of_accepts`); this is why no accepted leftover can be absorbed by a literal before it.
-/

set_option autoImplicit false

namespace ScriptLiterals

open Text

/-! ## Tokens behind blanks -/

/-- The token that a lexeme is when it stands behind the given blanks. -/
def Lexeme.behind {α δ : Type} (blanks : List Char) (found : Lexeme α δ) : Token α δ :=
  ⟨found.source, blanks.length, byteCount blanks, found.value, found.detail⟩

theorem Cursor.skipBlank_start (input : List Char) :
    (Cursor.start input).skipBlank = ⟨(leadingBlank input).reverse, Text.skipBlank input⟩ := by
  simp [Cursor.start, Cursor.skipBlank, Cursor.skipWhile, leadingBlank, Text.skipBlank]

theorem Miss.toError_injective {kind : Kind} {offset : Nat} {miss miss' : Miss}
    (h : miss.toError kind offset = miss'.toError kind offset) : miss = miss' := by
  cases miss <;> cases miss' <;> simp_all [Miss.toError]

namespace Recognizer

variable {α δ : Type} {r : Recognizer α δ} {input : List Char}

theorem locate_eq (r : Recognizer α δ) (input : List Char) :
    r.locate input = match r.read (skipBlank input) with
      | .error miss => .error (miss.toError r.kind (leadingBlank input).length)
      | .ok found => .ok (found.behind (leadingBlank input), found.rest) := by
  simp only [locate, Cursor.skipBlank_start, Cursor.index, Cursor.pos, List.length_reverse,
    byteCount_reverse]
  rfl

/-- **A token is a lexeme behind the leading blanks whose leftover is accepted.** -/
theorem scan_eq_ok_iff {t : Token α δ} : r.scan input = .ok t ↔
    ∃ found, r.read (skipBlank input) = .ok found ∧
      r.boundary.all (·.accepts found.rest) = true ∧ t = found.behind (leadingBlank input) := by
  rw [scan, locate_eq]
  cases hread : r.read (skipBlank input) with
  | error miss => simp
  | ok found =>
    dsimp only
    by_cases hb : r.boundary.all (·.accepts found.rest) = true
    · rw [if_pos hb]
      constructor
      · intro h
        exact ⟨found, rfl, hb, (Except.ok.inj h).symm⟩
      · intro hparts
        obtain ⟨found', hfound, -, ht⟩ := hparts
        rw [ht, Except.ok.inj hfound]
    · rw [if_neg hb]
      constructor
      · intro h
        exact absurd h (by simp)
      · intro hparts
        obtain ⟨found', hfound, hb', -⟩ := hparts
        rw [Except.ok.inj hfound] at hb
        exact absurd hb' hb

/-- Without a look at what follows, every lexeme is a token. -/
theorem scanHead_eq_ok_iff {t : Token α δ} : r.scanHead input = .ok t ↔
    ∃ found, r.read (skipBlank input) = .ok found ∧ t = found.behind (leadingBlank input) := by
  rw [scanHead, locate_eq]
  cases hread : r.read (skipBlank input) with
  | error miss => simp [Except.map]
  | ok found =>
    constructor
    · intro h
      exact ⟨found, rfl, (Except.ok.inj h).symm⟩
    · intro hparts
      obtain ⟨found', hfound, ht⟩ := hparts
      rw [ht, ← Except.ok.inj hfound]
      rfl

/-- And every miss is the error, at the place where the literal was looked for. -/
theorem scanHead_eq_error_iff {e : ScanError} : r.scanHead input = .error e ↔
    ∃ miss, r.read (skipBlank input) = .error miss ∧
      e = miss.toError r.kind (leadingBlank input).length := by
  rw [scanHead, locate_eq]
  cases hread : r.read (skipBlank input) with
  | ok found => simp [Except.map]
  | error miss =>
    constructor
    · intro h
      exact ⟨miss, rfl, (Except.error.inj h).symm⟩
    · intro hparts
      obtain ⟨miss', hmiss, rfl⟩ := hparts
      rw [Except.error.inj hmiss]
      rfl

/-- An error is the miss that it tells of. -/
theorem scanHead_eq_toError_iff {miss : Miss} :
    r.scanHead input = .error (miss.toError r.kind (leadingBlank input).length) ↔
      r.read (skipBlank input) = .error miss := by
  rw [scanHead_eq_error_iff]
  constructor
  · intro h
    obtain ⟨miss', hread, heq⟩ := h
    rw [Miss.toError_injective heq]
    exact hread
  · intro hread
    exact ⟨miss, hread, rfl⟩

/-- A text that is not read is not scanned, and the place is where it was looked at. -/
theorem scan_of_read_eq_error {miss : Miss} (h : r.read (skipBlank input) = .error miss) :
    r.scan input = .error (miss.toError r.kind (leadingBlank input).length) := by
  rw [scan, locate_eq, h]

/-- A literal that is read at the head of `text` is found behind any blanks. -/
theorem scan_blanks_append {blanks text : List Char} {found : Lexeme α δ}
    (hblank : ∀ c ∈ blanks, isBlank c = true) (htext : EndsRun isBlank text)
    (hread : r.read text = .ok found) (hrest : r.boundary.all (·.accepts found.rest) = true) :
    r.scan (blanks ++ text) = .ok (found.behind blanks) := by
  refine scan_eq_ok_iff.mpr ⟨found, ?_, hrest, ?_⟩
  · rw [skipBlank_append hblank htext]
    exact hread
  · rw [leadingBlank_append hblank htext]

end Recognizer

theorem found?_eq_some_iff {α : Type} {result : Except ScanError α} {token : α} :
    found? result = some token ↔ result = .ok token := by
  cases result <;> simp [found?]

theorem settle_eq_ok_some_iff {α : Type} {strict : Bool} {result : Except ScanError α} {token : α} :
    settle strict result = .ok (some token) ↔ result = .ok token := by
  cases result with
  | ok found => simp [settle]
  | error e => cases strict <;> simp [settle]

/-- Those who asked to be told get an error and not nothing. -/
theorem settle_eq_ok_none_iff {α : Type} {strict : Bool} {result : Except ScanError α} :
    settle strict result = .ok none ↔ strict = false ∧ ∃ e, result = .error e := by
  cases result <;> cases strict <;> simp [settle]

/-- An error is passed on to those who asked to be told. -/
theorem settle_eq_error_iff {α : Type} {strict : Bool} {result : Except ScanError α}
    {e : ScanError} : settle strict result = .error e ↔ strict = true ∧ result = .error e := by
  cases result <;> cases strict <;> simp [settle]

theorem except_map_eq_ok_iff {ε α β : Type} {f : α → β} {result : Except ε α} {b : β} :
    result.map f = .ok b ↔ ∃ a, result = .ok a ∧ f a = b := by
  cases result <;> simp [Except.map]

theorem except_map_eq_error_iff {ε α β : Type} {f : α → β} {result : Except ε α} {e : ε} :
    result.map f = .error e ↔ result = .error e := by
  cases result <;> simp [Except.map]

/-! ## What follows a literal -/

namespace Boundary

/-- What a boundary accepts is empty or begins with a blank or with one of its characters. -/
theorem head_of_accepts {b : Boundary} {leftover : List Char} (h : b.accepts leftover = true) :
    ∀ c ∈ leftover.head?, isBlank c = true ∨ c ∈ b.chars := by
  intro c hc
  cases leftover with
  | nil => exact absurd hc (by simp)
  | cons d rest =>
    obtain rfl : d = c := by simpa using hc
    cases hblank : isBlank d with
    | true => exact Or.inl rfl
    | false =>
      rw [accepts, skipBlank, dropWhile_of_endsRun (endsRun_cons.mpr hblank)] at h
      exact Or.inr (by simpa using h)

/-- A boundary with more characters accepts more. -/
theorem accepts_mono {b b' : Boundary} {leftover : List Char} (hchars : b.chars ⊆ b'.chars)
    (h : b.accepts leftover = true) : b'.accepts leftover = true := by
  unfold accepts at h ⊢
  cases hskip : skipBlank leftover with
  | nil => rfl
  | cons c rest =>
    rw [hskip] at h
    exact List.elem_eq_true_of_mem (hchars (List.mem_of_elem_eq_true h))

/-- Whether `c` can go on with a number: it continues a word, or it is a decimal point. -/
def extendsNumber (c : Char) : Bool := isIdContinue c || c == '.'

/-- **What may follow an expression goes on with no word and no number.** -/
theorem endsRun_of_accepts {leftover : List Char} (h : expression.accepts leftover = true) :
    EndsRun extendsNumber leftover := by
  intro c hc
  rcases head_of_accepts h c hc with hblank | hmem
  · have hdot : c ≠ '.' := by
      rintro rfl
      exact absurd hblank (by decide)
    simp [extendsNumber, isIdContinue_of_isBlank hblank, hdot]
  · have hnone : expression.chars.any extendsNumber = false := by decide
    exact Bool.eq_false_iff.mpr (List.any_eq_false.mp hnone c hmem)

end Boundary

end ScriptLiterals
