import ScriptLiterals.Proofs.Placement
import ScriptLiterals.Proofs.Regexp.Grammar

/-!
# What a failed scan says

A strict scan that fails names a cause and a place. There are two places. Either the reader has not
come to the end of a literal; then the place is where it began, behind the leading blanks. Or the
literal is there and what follows it may not follow it; then the place is its end, counted in
characters, and the character at fault is the first one behind it that is no blank (`IsViolation`).
`Recognizer.Exact.scan_eq_error_iff` separates the two for every kind at once.

`ScanError.Explains` collects what each cause has to mean, for the kind that was asked for. Which
causes a kind has is a fact about its reader alone, so each reader owes one lemma about its misses;
everything else is common to all kinds.
-/

set_option autoImplicit false

namespace ScriptLiterals

open Text

variable {α δ : Type} {input cs : List Char} {e : ScanError} {miss : Miss} {allowTrailing : Bool}

/-! ## What may not follow a literal -/

/-- A boundary stops what goes on, behind blanks, with none of its characters. -/
theorem Boundary.accepts_eq_false_iff {boundary : Boundary} {leftover : List Char} :
    boundary.accepts leftover = false ↔
      ∃ c, leftover.find? (fun c => !isBlank c) = some c ∧ c ∉ boundary.chars := by
  rw [accepts, List.find?_not_eq_head?_dropWhile]
  change _ ↔ ∃ c, (skipBlank leftover).head? = some c ∧ _
  cases skipBlank leftover <;> simp

/-- What follows a literal that ends at `offset` may not follow it: some character there is no
blank, and the first such is none of the boundary's. -/
structure IsViolation (boundary : Boundary) (input : List Char) (offset : Nat) : Prop where
  lt_length : offset < input.length
  outside : ∃ c, (input.drop offset).find? (fun c => !isBlank c) = some c ∧ c ∉ boundary.chars

theorem isViolation_length_iff (boundary : Boundary) (before leftover : List Char) :
    IsViolation boundary (before ++ leftover) before.length ↔
      boundary.accepts leftover = false := by
  constructor
  · intro h
    have houtside := h.outside
    rw [List.drop_left] at houtside
    exact Boundary.accepts_eq_false_iff.mpr houtside
  · intro h
    obtain ⟨c, hfind, hchars⟩ := Boundary.accepts_eq_false_iff.mp h
    have hpos := List.length_pos_of_mem (List.mem_of_find?_eq_some hfind)
    refine ⟨by rw [List.length_append]; omega, c, ?_, hchars⟩
    rw [List.drop_left]
    exact hfind

/-! ## The two places -/

namespace Recognizer

variable {r : Recognizer α δ}

/-- Whether a literal ends where what follows may not follow it can be read off the text. -/
theorem Exact.isViolation_finish_iff {found : Lexeme α δ} (hr : r.Exact)
    (hread : r.read (skipBlank input) = .ok found) (boundary : Boundary) :
    IsViolation boundary input (found.behind (leadingBlank input)).finish ↔
      boundary.accepts found.rest = false := by
  have hinput : input = leadingBlank input ++ found.source ++ found.rest := by
    rw [List.append_assoc, ← (hr _ _ hread).1, leadingBlank_append_skipBlank]
  have hfinish : (found.behind (leadingBlank input)).finish =
      (leadingBlank input ++ found.source).length := by
    rw [List.length_append]
    rfl
  have hcut := isViolation_length_iff boundary (leadingBlank input ++ found.source) found.rest
  rwa [← hinput, ← hfinish] at hcut

/-- **A scan fails at the beginning or at the end of the literal**: the reader misses, or what it
reads is followed by what may not follow it. -/
theorem Exact.scan_eq_error_iff (hr : r.Exact) : r.scan input = .error e ↔
    (∃ miss, r.read (skipBlank input) = .error miss ∧
      e = miss.toError r.kind (leadingBlank input).length) ∨
    ∃ t boundary, r.scanHead input = .ok t ∧ r.boundary = some boundary ∧
      IsViolation boundary input t.finish ∧ e = .boundaryViolation r.kind t.finish := by
  cases hread : r.read (skipBlank input) with
  | error miss =>
    have hhead : ∀ t, r.scanHead input ≠ .ok t := by
      intro t ht
      obtain ⟨found, hfound, -⟩ := scanHead_eq_ok_iff.mp ht
      rw [hread] at hfound
      exact absurd hfound (by simp)
    rw [scan_of_read_eq_error hread]
    simp [hhead, eq_comm]
  | ok found =>
    have hhead := scanHead_eq_ok_iff.mpr ⟨found, hread, rfl⟩
    rw [scan, locate_eq, hread]
    dsimp only
    cases hboundary : r.boundary with
    | none => simp
    | some boundary =>
      have hviolation := hr.isViolation_finish_iff hread boundary
      cases haccepts : boundary.accepts found.rest with
      | true => simp [hhead, hviolation, haccepts]
      | false => simp [hhead, hviolation, haccepts, eq_comm]

end Recognizer

/-! ## What the readers miss -/

/-- A literal of the kind is opened: something stands at the head of the text that has to be closed.
Nothing has to close a keyword or a number. -/
def Kind.Opens (cs : List Char) : Kind → Prop
  | .comment => ['/', '/'] <+: cs ∨ ['/', '*'] <+: cs
  | .regexp => ¬Regexp.BeginsNone cs
  | .string => ∃ q : Quote, cs.head? = some q.char
  | .keyword => False
  | .number => False

/-- What a reader misses if it knows only whether a literal is opened. -/
def Miss.IsPlain (kind : Kind) (cs : List Char) (miss : Miss) : Prop :=
  (miss = .noMatch ∧ ¬kind.Opens cs) ∨ (miss = .unterminated ∧ kind.Opens cs)

theorem Quoted.isPlain_of_read (h : Quoted.read cs = .error miss) : miss.IsPlain .string cs := by
  unfold Quoted.read at h
  split at h
  · exact Or.inl ⟨(Except.error.inj h).symm, by simp [Kind.Opens]⟩
  · split at h
    · rename_i c cs hquote
      refine Or.inl ⟨(Except.error.inj h).symm, ?_⟩
      rintro ⟨q, hq⟩
      rw [Quote.ofChar?_eq_some_iff.mpr (Option.some.inj hq)] at hquote
      exact absurd hquote (by simp)
    · rename_i c cs q hquote
      split at h
      · exact Or.inr ⟨(Except.error.inj h).symm, q,
          congrArg some (Quote.ofChar?_eq_some_iff.mp hquote)⟩
      · exact absurd h (by simp)

theorem Comment.isPlain_of_read (h : Comment.read cs = .error miss) :
    miss.IsPlain .comment cs := by
  unfold Comment.read at h
  split at h
  · exact absurd h (by simp)
  · split at h
    · exact Or.inr ⟨(Except.error.inj h).symm, Or.inr ⟨_, rfl⟩⟩
    · exact absurd h (by simp)
  · rename_i hline hblock
    refine Or.inl ⟨(Except.error.inj h).symm, ?_⟩
    rintro (⟨text, rfl⟩ | ⟨text, rfl⟩)
    · exact hline text rfl
    · exact hblock text rfl

theorem Keyword.isPlain_of_read (h : Keyword.read cs = .error miss) :
    miss.IsPlain .keyword cs := by
  unfold Keyword.read at h
  dsimp only at h
  split at h
  · exact Or.inl ⟨(Except.error.inj h).symm, id⟩
  · exact absurd h (by simp)

theorem Number.isPlain_of_read (h : Number.read cs = .error miss) : miss.IsPlain .number cs :=
  Or.inl ⟨(Number.read_eq_error_iff.mp h).1, id⟩

/-- The body has no meaning under the flags behind it. -/
structure Regexp.IsMeaningless (cs body : List Char) (fault : PatternFault) : Prop where
  begins : ¬Regexp.BeginsNone cs
  fault_eq : ∃ behind, Regexp.IsLiteral cs body behind ∧
    Regexp.ofSource body (RegexpFlags.none.readRun behind).2.1 = .error fault

/-- Regular expressions can be closed and still be none. -/
theorem Regexp.isPlain_or_isMeaningless_of_read (h : Regexp.read cs = .error miss) :
    miss.IsPlain .regexp cs ∨
      ∃ body fault, miss = .invalidPattern body fault ∧ Regexp.IsMeaningless cs body fault := by
  by_cases hbegins : Regexp.BeginsNone cs
  · rw [Regexp.read_of_beginsNone hbegins] at h
    exact Or.inl (Or.inl ⟨(Except.error.inj h).symm, fun hopens => hopens hbegins⟩)
  · rcases Regexp.read_cases hbegins with ⟨body, behind, hliteral⟩ | hread
    · right
      rw [hliteral.read_eq hbegins] at h
      cases hmeaning : Regexp.ofSource body (RegexpFlags.none.readRun behind).2.1 with
      | ok value =>
        rw [hmeaning] at h
        exact absurd h (by simp)
      | error fault =>
        rw [hmeaning] at h
        exact ⟨body, fault, (Except.error.inj h).symm, hbegins, behind, hliteral, hmeaning⟩
    · rw [hread] at h
      exact Or.inl (Or.inr ⟨(Except.error.inj h).symm, hbegins⟩)

/-- Where the body has no meaning, that is what is missed, whatever follows. -/
theorem Regexp.IsMeaningless.read_eq {body : List Char} {fault : PatternFault}
    (h : Regexp.IsMeaningless cs body fault) :
    Regexp.read cs = .error (.invalidPattern body fault) := by
  obtain ⟨behind, hliteral, hmeaning⟩ := h.fault_eq
  rw [hliteral.read_eq h.begins, hmeaning]

/-! ## All kinds -/

/-- What may follow a literal of the kind. Anything may follow a comment, and a number if that is
asked for. -/
def Kind.boundary? (allowTrailing : Bool) : Kind → Option Boundary
  | .comment => none
  | .regexp => some .pattern
  | .string => some .expression
  | .keyword => some .statement
  | .number => if allowTrailing then none else some .expression

/-- The literal of the given kind at the head of `input`, whatever follows it. For a number this is
the scan that allows anything to follow. -/
def scanHeadKind (kind : Kind) (input : List Char) : Except ScanError AnyToken :=
  match kind with
  | .comment => (Comment.recognizer.scanHead input).map .comment
  | .regexp => (Regexp.recognizer.scanHead input).map .regexp
  | .string => (Quoted.recognizer.scanHead input).map .string
  | .keyword => (Keyword.recognizer.scanHead input).map .keyword
  | .number => (Number.scan true input).map .number

/-- The error is true of the text in which a literal of the kind was looked for. -/
def ScanError.Explains (kind : Kind) (allowTrailing : Bool) (input : List Char) :
    ScanError → Prop
  | .noMatch kind' offset =>
    kind' = kind ∧ offset = (leadingBlank input).length ∧ ¬kind.Opens (skipBlank input)
  | .unterminated kind' offset =>
    kind' = kind ∧ offset = (leadingBlank input).length ∧ kind ≠ .number ∧ kind ≠ .keyword ∧
      kind.Opens (skipBlank input)
  | .boundaryViolation kind' offset =>
    kind' = kind ∧ kind ≠ .comment ∧
      ∃ t boundary, scanHeadKind kind input = .ok t ∧ offset = t.finish ∧
        kind.boundary? allowTrailing = some boundary ∧ IsViolation boundary input offset
  | .unsupported _ _ => False
  | .invalidPattern body fault =>
    kind = .regexp ∧ Regexp.IsMeaningless (skipBlank input) body fault

theorem Miss.IsPlain.explains {kind : Kind} (h : miss.IsPlain kind (skipBlank input)) :
    (miss.toError kind (leadingBlank input).length).Explains kind allowTrailing input := by
  rcases h with ⟨rfl, hopens⟩ | ⟨rfl, hopens⟩
  · exact ⟨rfl, rfl, hopens⟩
  · refine ⟨rfl, rfl, ?_, ?_, hopens⟩
    · rintro rfl
      exact hopens
    · rintro rfl
      exact hopens

/-- The scans of a recognizer are those for literals of its kind. -/
structure Recognizer.Serves (r : Recognizer α δ) (wrap : Token α δ → AnyToken)
    (allowTrailing : Bool) (input : List Char) : Prop where
  exact : r.Exact
  scanKind_eq : scanKind r.kind allowTrailing input = (r.scan input).map wrap
  scanHeadKind_eq : scanHeadKind r.kind input = (r.scanHead input).map wrap
  finish_eq : ∀ t, (wrap t).finish = t.finish
  boundary_eq : r.kind.boundary? allowTrailing = r.boundary

namespace Recognizer.Serves

variable {r : Recognizer α δ} {wrap : Token α δ → AnyToken}

/-- **An error explains itself** if it does so where it is a miss. -/
theorem explains (hr : r.Serves wrap allowTrailing input)
    (hmiss : ∀ miss, r.read (skipBlank input) = .error miss →
      (miss.toError r.kind (leadingBlank input).length).Explains r.kind allowTrailing input)
    (h : scanKind r.kind allowTrailing input = .error e) :
    e.Explains r.kind allowTrailing input := by
  rw [hr.scanKind_eq, except_map_eq_error_iff] at h
  rcases hr.exact.scan_eq_error_iff.mp h with ⟨miss, hread, rfl⟩ | hend
  · exact hmiss miss hread
  · obtain ⟨t, boundary, ht, hboundary, hviolation, rfl⟩ := hend
    have hkind := hr.boundary_eq.trans hboundary
    refine ⟨rfl, ?_, wrap t, boundary, ?_, (hr.finish_eq t).symm, hkind, hviolation⟩
    · intro hcomment
      rw [hcomment] at hkind
      exact absurd hkind (by simp [Kind.boundary?])
    · rw [hr.scanHeadKind_eq, ht]
      rfl

theorem explains_of_isPlain (hr : r.Serves wrap allowTrailing input)
    (hplain : ∀ miss, r.read (skipBlank input) = .error miss →
      miss.IsPlain r.kind (skipBlank input))
    (h : scanKind r.kind allowTrailing input = .error e) :
    e.Explains r.kind allowTrailing input :=
  hr.explains (fun miss hread => (hplain miss hread).explains) h

/-- And what may not follow a literal is always reported. -/
theorem scanKind_eq_of_isViolation (hr : r.Serves wrap allowTrailing input) {t : AnyToken}
    {boundary : Boundary} (hhead : scanHeadKind r.kind input = .ok t)
    (hboundary : r.kind.boundary? allowTrailing = some boundary)
    (hviolation : IsViolation boundary input t.finish) :
    scanKind r.kind allowTrailing input = .error (.boundaryViolation r.kind t.finish) := by
  rw [hr.scanHeadKind_eq] at hhead
  obtain ⟨token, htoken, rfl⟩ := except_map_eq_ok_iff.mp hhead
  rw [hr.finish_eq] at hviolation ⊢
  rw [hr.scanKind_eq, except_map_eq_error_iff]
  refine hr.exact.scan_eq_error_iff.mpr (Or.inr ⟨token, boundary, htoken, ?_, hviolation, rfl⟩)
  exact hr.boundary_eq.symm.trans hboundary

end Recognizer.Serves

theorem Comment.serves : Comment.recognizer.Serves .comment allowTrailing input :=
  ⟨Comment.recognizer_exact, rfl, rfl, fun _ => rfl, rfl⟩

theorem Regexp.serves : Regexp.recognizer.Serves .regexp allowTrailing input :=
  ⟨Regexp.recognizer_exact, rfl, rfl, fun _ => rfl, rfl⟩

theorem Quoted.serves : Quoted.recognizer.Serves .string allowTrailing input :=
  ⟨Quoted.recognizer_exact, rfl, rfl, fun _ => rfl, rfl⟩

theorem Keyword.serves : Keyword.recognizer.Serves .keyword allowTrailing input :=
  ⟨Keyword.recognizer_exact, rfl, rfl, fun _ => rfl, rfl⟩

/-- Numbers are scanned by their recognizer unless anything may follow. -/
theorem Number.serves : Number.recognizer.Serves .number false input :=
  ⟨Number.recognizer_exact, rfl, rfl, fun _ => rfl, rfl⟩

/-- **Every error is true of its text**, whichever kind was asked for. -/
theorem explains_of_scanKind {kind : Kind} (h : scanKind kind allowTrailing input = .error e) :
    e.Explains kind allowTrailing input := by
  cases kind with
  | comment => exact Comment.serves.explains_of_isPlain (fun _ => Comment.isPlain_of_read) h
  | regexp =>
    refine Regexp.serves.explains ?_ h
    intro miss hread
    rcases Regexp.isPlain_or_isMeaningless_of_read hread with hplain | ⟨body, fault, rfl, hfault⟩
    · exact hplain.explains
    · exact ⟨rfl, hfault⟩
  | string => exact Quoted.serves.explains_of_isPlain (fun _ => Quoted.isPlain_of_read) h
  | keyword => exact Keyword.serves.explains_of_isPlain (fun _ => Keyword.isPlain_of_read) h
  | number =>
    cases allowTrailing with
    | false => exact Number.serves.explains_of_isPlain (fun _ => Number.isPlain_of_read) h
    | true =>
      obtain ⟨miss, hread, rfl⟩ :=
        Recognizer.scanHead_eq_error_iff.mp (except_map_eq_error_iff.mp h)
      exact (Number.isPlain_of_read hread).explains

/-- **Whatever may not follow a literal is an error at its end.** -/
theorem scanKind_eq_of_isViolation {kind : Kind} {t : AnyToken} {boundary : Boundary}
    (hhead : scanHeadKind kind input = .ok t)
    (hboundary : kind.boundary? allowTrailing = some boundary)
    (hviolation : IsViolation boundary input t.finish) :
    scanKind kind allowTrailing input = .error (.boundaryViolation kind t.finish) := by
  cases kind with
  | comment => exact Comment.serves.scanKind_eq_of_isViolation hhead hboundary hviolation
  | regexp => exact Regexp.serves.scanKind_eq_of_isViolation hhead hboundary hviolation
  | string => exact Quoted.serves.scanKind_eq_of_isViolation hhead hboundary hviolation
  | keyword => exact Keyword.serves.scanKind_eq_of_isViolation hhead hboundary hviolation
  | number =>
    cases allowTrailing with
    | false => exact Number.serves.scanKind_eq_of_isViolation hhead hboundary hviolation
    | true => exact absurd hboundary (by simp [Kind.boundary?])

/-! ## Strict and lenient -/

/-- A body without a meaning is reported as such, whatever follows the literal. -/
theorem Regexp.IsMeaningless.scanKind_eq {body : List Char} {fault : PatternFault}
    (h : Regexp.IsMeaningless (skipBlank input) body fault) :
    scanKind .regexp allowTrailing input = .error (.invalidPattern body fault) := by
  have hread : Regexp.recognizer.read (skipBlank input) = _ := h.read_eq
  have hscan := Recognizer.scan_of_read_eq_error hread
  exact except_map_eq_error_iff.mpr hscan

/-- **A strict scan that fails says what is wrong and where, and a lenient one says nothing.** If no
literal is opened, or one is opened and not closed, the place is behind the leading blanks; numbers
and keywords are never unclosed. If what follows may not follow, the place is the end of the literal
that was recognized, it lies within the text, and the first character there that is no blank is
outside of the kind's boundary; this is never said of a comment. The only other error is that the
body of a regular expression has no meaning, and it is raised whatever follows. What may not follow
is always reported. Where the strict scan finds a literal, the lenient one finds the same. -/
theorem scanAs_strict (kind : Kind) (allowTrailing : Bool) (input : List Char) :
    (∀ e, scanAs kind { strict := true, allowTrailing } input = .error e →
      e.Explains kind allowTrailing input ∧
        scanAs kind { strict := false, allowTrailing } input = .ok none) ∧
    (∀ found, scanAs kind { strict := true, allowTrailing } input = .ok found →
      ∃ t, found = some t ∧ scanAs kind { strict := false, allowTrailing } input = .ok (some t)) ∧
    (∀ t boundary, scanHeadKind kind input = .ok t →
      kind.boundary? allowTrailing = some boundary → IsViolation boundary input t.finish →
      scanAs kind { strict := true, allowTrailing } input =
        .error (.boundaryViolation kind t.finish)) ∧
    ∀ body fault, Regexp.IsMeaningless (skipBlank input) body fault →
      scanAs .regexp { strict := true, allowTrailing } input =
        .error (.invalidPattern body fault) := by
  refine ⟨?_, ?_, ?_, ?_⟩
  · intro e h
    obtain ⟨-, hscan⟩ := settle_eq_error_iff.mp h
    refine ⟨explains_of_scanKind hscan, ?_⟩
    rw [scanAs, hscan]
    rfl
  · intro found h
    cases hscan : scanKind kind allowTrailing input with
    | error e =>
      rw [scanAs, hscan] at h
      exact absurd h (by simp [settle])
    | ok t =>
      rw [scanAs, hscan] at h
      exact ⟨t, (Except.ok.inj h).symm, by rw [scanAs, hscan]; rfl⟩
  · intro t boundary hhead hboundary hviolation
    exact settle_eq_error_iff.mpr
      ⟨rfl, scanKind_eq_of_isViolation hhead hboundary hviolation⟩
  · intro body fault hmeaningless
    exact settle_eq_error_iff.mpr ⟨rfl, hmeaningless.scanKind_eq⟩

/-- The number ends at its third character, and a letter comes behind a blank. The same letter is
not looked at behind a pattern that has no meaning. -/
theorem scanAs_strict_letter :
    scanAs .number { strict := true } [' ', '1', '2', ' ', 'x'] =
        .error (.boundaryViolation .number 3) ∧
      IsViolation .expression [' ', '1', '2', ' ', 'x'] 3 ∧
      scanAs .number {} [' ', '1', '2', ' ', 'x'] = .ok none ∧
      scanAs .regexp { strict := true } ['/', '(', '/', ' ', 'x'] =
        .error (.invalidPattern ['('] .malformed) := by
  have hscan : scanAs .number { strict := true } [' ', '1', '2', ' ', 'x'] =
      .error (.boundaryViolation .number 3) := rfl
  obtain ⟨hexplains, hlenient⟩ := (scanAs_strict .number false [' ', '1', '2', ' ', 'x']).1 _ hscan
  obtain ⟨-, -, t, boundary, -, -, hboundary, hviolation⟩ := hexplains
  obtain rfl : Boundary.expression = boundary := Option.some.inj hboundary
  refine ⟨hscan, hviolation, hlenient, ?_⟩
  have hbegins : ¬Regexp.BeginsNone (skipBlank ['/', '(', '/', ' ', 'x']) := by
    unfold Regexp.BeginsNone
    decide
  have hbody : Regexp.IsBody ['('] := ⟨[['(']], by simp,
    by simpa using .plain (by decide) (by decide) (by decide) (by decide), rfl⟩
  exact (scanAs_strict .regexp false ['/', '(', '/', ' ', 'x']).2.2.2 ['('] .malformed
    ⟨hbegins, [' ', 'x'], ⟨rfl, hbody⟩, rfl⟩

end ScriptLiterals
