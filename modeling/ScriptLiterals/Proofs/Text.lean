import Mathlib.Data.List.TakeWhile
import Mathlib.Tactic.IntervalCases
import ScriptLiterals.Text.Blank
import ScriptLiterals.Text.Bytes
import ScriptLiterals.Text.Identifier

/-!
# Runs of characters, blanks and byte positions

Every reader of this library takes runs of characters of one class, so what a reader does to
`run ++ rest` hangs on one question: does the run end where `rest` begins? `EndsRun` is that
question, and the lemmas of the first section answer for `takeWhile` and `dropWhile` at once.

The second section is about blanks. The one fact that is not bookkeeping is
`isIdContinue_of_isBlank`: no blank continues an identifier, not even one of the wide blanks, whose
neighbours in the standard's tables do.

The third section relates byte positions to characters. `IsCharBoundary` says that a byte position
falls between two characters, and `takeBytes` and `dropBytes` cut there. `splitAtByte?` and `slice?` cut
nowhere else, so their answers are parts of the text (`slice?_eq_some_iff`).
-/

set_option autoImplicit false

namespace ScriptLiterals.Text

/-! ## Runs -/

/-- A run of characters with the property `p` that stands before `cs` ends there. -/
def EndsRun (p : Char → Bool) (cs : List Char) : Prop := ∀ c ∈ cs.head?, p c = false

theorem endsRun_cons {p : Char → Bool} {c : Char} {cs : List Char} :
    EndsRun p (c :: cs) ↔ p c = false := by
  simp [EndsRun]

/-- What is left behind a run does not go on with it. -/
theorem endsRun_dropWhile (p : Char → Bool) (cs : List Char) : EndsRun p (cs.dropWhile p) := by
  intro c hc
  have hnot := List.head?_dropWhile_not p cs
  rw [Option.mem_def.mp hc] at hnot
  exact hnot

/-- A smaller class of characters has its runs ended by whatever ends those of the larger one. -/
theorem EndsRun.mono {p q : Char → Bool} {cs : List Char} (hpq : ∀ c, q c = true → p c = true)
    (h : EndsRun p cs) : EndsRun q cs := by
  intro c hc
  have hp := h c hc
  cases hq : q c with
  | false => rfl
  | true => rw [hpq c hq] at hp; exact absurd hp (by simp)

/-- The head of a run is the head of the text. -/
theorem endsRun_takeWhile {p q : Char → Bool} {cs : List Char} (h : EndsRun p cs) :
    EndsRun p (cs.takeWhile q) := by
  cases cs with
  | nil => exact h
  | cons c cs =>
    rw [List.takeWhile_cons]
    split_ifs
    · exact endsRun_cons.mpr (endsRun_cons.mp h)
    · simp [EndsRun]

theorem takeWhile_of_endsRun {p : Char → Bool} {cs : List Char} (h : EndsRun p cs) :
    cs.takeWhile p = [] := by
  cases cs with
  | nil => rfl
  | cons c cs => exact List.takeWhile_cons_of_neg (by rw [endsRun_cons.mp h]; simp)

theorem dropWhile_of_endsRun {p : Char → Bool} {cs : List Char} (h : EndsRun p cs) :
    cs.dropWhile p = cs := by
  cases cs with
  | nil => rfl
  | cons c cs => exact List.dropWhile_cons_of_neg (by rw [endsRun_cons.mp h]; simp)

theorem takeWhile_run {p : Char → Bool} {run rest : List Char} (hrun : ∀ c ∈ run, p c = true)
    (hrest : EndsRun p rest) : (run ++ rest).takeWhile p = run := by
  rw [List.takeWhile_append_of_pos hrun, takeWhile_of_endsRun hrest, List.append_nil]

theorem dropWhile_run {p : Char → Bool} {run rest : List Char} (hrun : ∀ c ∈ run, p c = true)
    (hrest : EndsRun p rest) : (run ++ rest).dropWhile p = rest := by
  rw [List.dropWhile_append_of_pos hrun, dropWhile_of_endsRun hrest]

/-- A run goes on for as long as the characters behind it do. -/
theorem mem_run_append_takeWhile {p : Char → Bool} {run : List Char} (rest : List Char)
    (hrun : ∀ c ∈ run, p c = true) : ∀ c ∈ run ++ rest.takeWhile p, p c = true := by
  intro c hc
  rcases List.mem_append.mp hc with hc | hc
  · exact hrun c hc
  · exact List.mem_takeWhile_imp hc

/-! ## Blanks -/

theorem leadingBlank_append {blanks rest : List Char} (hblank : ∀ c ∈ blanks, isBlank c = true)
    (hrest : EndsRun isBlank rest) : leadingBlank (blanks ++ rest) = blanks :=
  takeWhile_run hblank hrest

theorem skipBlank_append {blanks rest : List Char} (hblank : ∀ c ∈ blanks, isBlank c = true)
    (hrest : EndsRun isBlank rest) : skipBlank (blanks ++ rest) = rest :=
  dropWhile_run hblank hrest

/-- The wide blanks lie in the gaps of the table of identifier characters. -/
theorem isIdContinue_wideBlanks : wideBlanks.any isIdContinue = false := by
  decide +kernel

/-- **No blank continues an identifier.** -/
theorem isIdContinue_of_isBlank {c : Char} (h : isBlank c = true) : isIdContinue c = false := by
  simp only [isBlank, Bool.or_eq_true, Bool.and_eq_true, beq_iff_eq, decide_eq_true_eq] at h
  rcases h with (rfl | ⟨hlow, hhigh⟩) | hwide
  · decide
  · -- five code points, which are tried one by one
    have hc : c = Char.ofNat c.toNat := (Char.ofNat_toNat c).symm
    generalize c.toNat = n at hc hlow hhigh
    subst hc
    interval_cases n <;> decide
  · have hnot := List.any_eq_false.mp isIdContinue_wideBlanks c (by simpa using hwide)
    exact Bool.eq_false_iff.mpr hnot

/-! ## Byte positions -/

@[simp] theorem byteCount_reverse (cs : List Char) : byteCount cs.reverse = byteCount cs := by
  induction cs with
  | nil => rfl
  | cons c cs ih =>
    rw [List.reverse_cons, byteCount_append, ih, byteCount_cons, byteCount_cons, byteCount_nil]
    omega

/-- `byteCount` counts the bytes of the encoded text. -/
theorem size_utf8Encode (cs : List Char) : cs.utf8Encode.size = byteCount cs := by
  induction cs with
  | nil => simp
  | cons c cs ih =>
    rw [List.utf8Encode_cons, ByteArray.size_append, ih, byteCount_cons]
    simp [List.utf8Encode_singleton]

/-- The bytes of a part of the text are where the characters before it say. -/
theorem extract_utf8Encode (before part after : List Char) :
    (before ++ (part ++ after)).utf8Encode.extract (byteCount before)
      (byteCount before + byteCount part) = part.utf8Encode := by
  rw [List.utf8Encode_append, List.utf8Encode_append, ← size_utf8Encode before,
    ← size_utf8Encode part]
  have hskip := ByteArray.extract_append_size_add (a := before.utf8Encode)
    (b := part.utf8Encode ++ after.utf8Encode) (i := 0) (j := part.utf8Encode.size)
  rw [Nat.add_zero] at hskip
  rw [hskip]
  exact ByteArray.extract_append_eq_left rfl

/-- A byte position of a text that falls between two characters, or at an end. -/
def IsCharBoundary (text : List Char) (pos : Nat) : Prop :=
  ∃ before after, text = before ++ after ∧ byteCount before = pos

theorem byteCount_pos {cs : List Char} (h : cs ≠ []) : 0 < byteCount cs := by
  cases cs with
  | nil => exact absurd rfl h
  | cons c cs =>
    have hc := c.utf8Size_pos
    rw [byteCount_cons]
    omega

/-- Cutting a text at the end of its first part leaves the second. -/
theorem dropBytes_append (before after : List Char) :
    dropBytes (byteCount before) (before ++ after) = after := by
  induction before with
  | nil => cases after <;> rfl
  | cons c before ih =>
    have hc := c.utf8Size_pos
    obtain ⟨n, hn⟩ : ∃ n, byteCount (c :: before) = n + 1 :=
      ⟨byteCount (c :: before) - 1, by rw [byteCount_cons]; omega⟩
    have hrest : n + 1 - c.utf8Size = byteCount before := by
      rw [← hn, byteCount_cons]; omega
    rw [hn, List.cons_append, dropBytes, hrest, ih]

theorem takeBytes_append (before after : List Char) :
    takeBytes (byteCount before) (before ++ after) = before := by
  rw [takeBytes, dropBytes_append, List.length_append, Nat.add_sub_cancel, List.take_left]

theorem splitAtByte?_append (before after : List Char) :
    splitAtByte? (byteCount before) (before ++ after) = some (before, after) := by
  induction before with
  | nil => cases after <;> rfl
  | cons c before ih =>
    have hc := c.utf8Size_pos
    obtain ⟨n, hn⟩ : ∃ n, c.utf8Size + byteCount before = n + 1 :=
      ⟨c.utf8Size + byteCount before - 1, by omega⟩
    have hrest : n + 1 - c.utf8Size = byteCount before := by omega
    rw [byteCount_cons, hn, List.cons_append, splitAtByte?, if_pos (by omega), hrest, ih]
    rfl

/-- **A text is cut between two characters or not at all.** -/
theorem splitAtByte?_eq_some_iff {n : Nat} {text before after : List Char} :
    splitAtByte? n text = some (before, after) ↔ text = before ++ after ∧ byteCount before = n := by
  constructor
  · intro h
    fun_induction splitAtByte? n text generalizing before with
    | case1 text =>
      obtain ⟨rfl, rfl⟩ := Prod.mk.inj (Option.some.inj h)
      exact ⟨rfl, rfl⟩
    | case2 => exact absurd h (by simp)
    | case3 n c cs hle ih =>
      obtain ⟨⟨before', after'⟩, hparts, heq⟩ := Option.map_eq_some_iff.mp h
      obtain ⟨rfl, rfl⟩ := Prod.mk.inj heq
      obtain ⟨rfl, hcount⟩ : cs = before' ++ after' ∧ byteCount before' = n + 1 - c.utf8Size :=
        ih hparts
      refine ⟨rfl, ?_⟩
      change c.utf8Size + byteCount before' = n + 1
      omega
    | case4 => exact absurd h (by simp)
  · rintro ⟨rfl, rfl⟩
    exact splitAtByte?_append before after

/-- Two cuts of a text at one byte are the same cut. -/
theorem eq_of_byteCount_eq {before after before' after' : List Char}
    (h : before ++ after = before' ++ after') (hcount : byteCount before = byteCount before') :
    before = before' := by
  have hcut := splitAtByte?_append before after
  rw [h, hcount, splitAtByte?_append] at hcut
  exact (Prod.mk.inj (Option.some.inj hcut)).1.symm

/-- **A slice is a part of the text**, with as many bytes before it and up to its end as were asked
for. -/
theorem slice?_eq_some_iff {start stop : Nat} {text part : List Char} :
    slice? text start stop = some part ↔
      ∃ before after, text = before ++ part ++ after ∧ byteCount before = start ∧
        byteCount (before ++ part) = stop := by
  constructor
  · intro h
    obtain ⟨⟨upTo, after⟩, hcut, h⟩ := Option.bind_eq_some_iff.mp h
    obtain ⟨⟨before, part'⟩, hcut', h⟩ := Option.bind_eq_some_iff.mp h
    obtain rfl : part' = part := Option.some.inj h
    obtain ⟨rfl, hstop⟩ := splitAtByte?_eq_some_iff.mp hcut
    obtain ⟨rfl, hstart⟩ := splitAtByte?_eq_some_iff.mp hcut'
    exact ⟨before, after, rfl, hstart, hstop⟩
  · rintro ⟨before, after, rfl, rfl, rfl⟩
    rw [slice?, splitAtByte?_append]
    dsimp only [Option.bind_eq_bind, Option.bind_some]
    rw [splitAtByte?_append]
    rfl

end ScriptLiterals.Text
