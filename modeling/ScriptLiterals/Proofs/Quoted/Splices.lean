import ScriptLiterals.Proofs.Quoted.Grammar
import ScriptLiterals.Proofs.Quoted.Kept

/-!
# Decoding in two steps, and in one

Between the quotes a string is decoded in two steps: first line continuations and idle backslashes are
dropped (`Piece.kept`), then escape sequences are decoded. Decoding the text between the quotes at
once should come to the same, since both steps agree on nearly all pairs. It does unless the first
step joins what did not stand together: digits that become the number of an escape sequence, or two
halves of a surrogate pair. Such a place is a *splice* (`IsSplice`).

Each piece is compared once: either both ways of decoding take the same from there on and answer
alike, or a splice begins there and decoding at once gives more characters (`outcome`). No later piece
makes up for the difference (`surplus_le_cons`), so the two texts are equal exactly if nothing is
spliced.
-/

set_option autoImplicit false

namespace ScriptLiterals.Quoted

open Utf16

variable {pieces run later between : List Piece} {piece : Piece} {letter c : Char}
  {text cs rest : List Char}

/-! ## Splices -/

/-- Pieces that hand on an escape sequence and are not written as one: the number has a line
continuation or an idle backslash in it, or there are line continuations between the two halves of a
surrogate pair. -/
inductive IsSplice : List Piece → Prop where
  | number {letter : Char} {run : List Piece} (hnumber : IsNumber letter (keptOf run))
    (hend : EndsKept run) (hdropped : keptOf run ≠ sourceOf run) : IsSplice (.pair letter :: run)
  | surrogates {high low : UInt16} {digits more : List Char} {between : List Piece}
    (hhigh : IsHigh high) (hlow : IsLow low) (hdigits : IsUnitEscape high ('\\' :: 'u' :: digits))
    (hmore : IsUnitEscape low ('\\' :: 'u' :: more)) (hne : between ≠ [])
    (hsilent : keptOf between = []) :
    IsSplice (.pair 'u' :: (digits.map .plain ++ (between ++ .pair 'u' :: more.map .plain)))

/-- Somewhere in the pieces there is a splice. -/
def Spliced (pieces : List Piece) : Prop := ∃ run, run <:+: pieces ∧ IsSplice run

theorem spliced_cons_iff :
    Spliced (piece :: later) ↔ (∃ run, run <+: piece :: later ∧ IsSplice run) ∨ Spliced later := by
  simp only [Spliced, List.infix_cons_iff, or_and_right, exists_or]

theorem Spliced.of_suffix (h : Spliced later) (hsuffix : later <:+ pieces) : Spliced pieces := by
  obtain ⟨run, hrun, hsplice⟩ := h
  exact ⟨run, hrun.trans hsuffix.isInfix, hsplice⟩

/-! ## Pieces that both ways of decoding take alike -/

/-- The characters whose pairs the two steps define differently from decoding at once: what the first
step makes a letter is a control character there, and what it keeps is a line continuation. -/
def disputed : List Char := ['v', '0', '\u2028', '\u2029']

theorem forall_mem_disputed_iff {p : Char → Prop} :
    (∀ c ∈ disputed, p c) ↔ p 'v' ∧ p '0' ∧ p '\u2028' ∧ p '\u2029' := by
  simp [disputed]

/-- Decoding at once meets the piece in front of the later ones, and takes it for what it is. -/
def Piece.IsMetBefore (later : List Piece) : Piece → Prop
  | .plain c => c ≠ '\\'
  | .pair c => c ∉ disputed ∧ (c = '\r' → (sourceOf later).head? ≠ some '\n')
  | .brokenLine => True

/-- Each of the pieces is taken for what it is. -/
def AreMet (pieces : List Piece) : Prop :=
  ∀ piece later, piece :: later <:+ pieces → piece.IsMetBefore later

theorem AreMet.of_suffix (h : AreMet pieces) (hsuffix : later <:+ pieces) : AreMet later :=
  fun piece behind hpiece => h piece behind (hpiece.trans hsuffix)

theorem AreMet.head (h : AreMet (piece :: later)) : piece.IsMetBefore later :=
  h piece later (List.suffix_refl _)

theorem AreMet.tail (h : AreMet (piece :: later)) : AreMet later :=
  h.of_suffix (List.suffix_cons piece later)

theorem skipLineFeed_of_head?_ne (h : cs.head? ≠ some '\n') : skipLineFeed cs = cs := by
  unfold skipLineFeed
  split
  · exact absurd rfl h
  · rfl

/-- Line continuations are dropped by the decoder too. -/
theorem unescape_silent (h : piece.IsMetBefore later) (hkept : piece.kept = []) :
    unescape (piece.source ++ sourceOf later) = unescape (sourceOf later) := by
  cases piece with
  | plain c => exact absurd hkept (by simp [Piece.kept])
  | brokenLine => exact unescape_backslash_cons '\r' ('\n' :: sourceOf later)
  | pair c =>
    obtain ⟨-, hjoin⟩ := h
    by_cases hfeed : c = '\n'
    · subst hfeed
      exact unescape_backslash_cons '\n' (sourceOf later)
    · by_cases hreturn : c = '\r'
      · subst hreturn
        have hstep := unescape_backslash_cons '\r' (sourceOf later)
        change _ = [] ++ unescape (skipLineFeed (sourceOf later)) at hstep
        rwa [skipLineFeed_of_head?_ne (hjoin rfl)] at hstep
      · simp only [Piece.kept, hfeed, hreturn, or_self, if_false] at hkept
        split at hkept <;> exact absurd hkept (by simp)

/-- A pair whose character is no escape sequence is that character. -/
theorem decodeEscape_idle (hidle : Piece.isEscape c = false) (hfeed : c ≠ '\n') (hreturn : c ≠ '\r')
    (hmet : c ∉ disputed) (cs : List Char) : decodeEscape c cs = ([c], cs) := by
  simp only [disputed, List.mem_cons, List.not_mem_nil, or_false, not_or] at hmet
  simp only [Piece.isEscape, List.contains_eq_mem, List.mem_cons, List.not_mem_nil, or_false,
    decide_eq_false_iff_not, not_or] at hidle
  simp [decodeEscape, letterMeaning?, hidle, hmet, hfeed, hreturn]

/-- The pairs that are escape sequences by themselves. -/
theorem exists_decodeEscape (hescape : Piece.isEscape c = true) (hbyte : c ≠ 'x')
    (hunicode : c ≠ 'u') : ∃ meaning, ∀ cs, decodeEscape c cs = ([meaning], cs) := by
  simp only [Piece.isEscape, List.contains_eq_mem, List.mem_cons, List.not_mem_nil, or_false,
    decide_eq_true_eq, hbyte, hunicode] at hescape
  rcases hescape with rfl | rfl | rfl | rfl | rfl | rfl | rfl | rfl | rfl <;>
    exact ⟨_, fun _ => rfl⟩

/-- **Apart from numbers, both ways of decoding take a piece alike.** -/
theorem exists_decoded (h : piece.IsMetBefore later) (hbyte : piece ≠ .pair 'x')
    (hunicode : piece ≠ .pair 'u') :
    ∃ out, decode (piece :: later) = out ++ decode later ∧
      unescape (sourceOf (piece :: later)) = out ++ unescape (sourceOf later) := by
  simp only [decode_eq, keptOf_cons, sourceOf_cons]
  cases piece with
  | brokenLine => exact ⟨[], rfl, unescape_silent h rfl⟩
  | plain c => exact ⟨[c], unescape_cons_of_ne h _, unescape_cons_of_ne h _⟩
  | pair c =>
    have hbyte : c ≠ 'x' := fun hc => hbyte (by rw [hc])
    have hunicode : c ≠ 'u' := fun hc => hunicode (by rw [hc])
    by_cases hbreak : c = '\n' ∨ c = '\r'
    · have hkept : (Piece.pair c).kept = [] := if_pos hbreak
      exact ⟨[], by rw [hkept]; rfl, unescape_silent h hkept⟩
    · obtain ⟨hfeed, hreturn⟩ := not_or.mp hbreak
      cases hescape : Piece.isEscape c with
      | true =>
        obtain ⟨meaning, hmeaning⟩ := exists_decodeEscape hescape hbyte hunicode
        have hkept : (Piece.pair c).kept = ['\\', c] := by
          rw [Piece.kept, if_neg hbreak, if_pos hescape]
        have hpair : ∀ cs, unescape ('\\' :: c :: cs) = meaning :: unescape cs := by
          intro cs
          rw [unescape_backslash_cons, hmeaning]
          rfl
        exact ⟨[meaning], by rw [hkept]; exact hpair _, hpair _⟩
      | false =>
        have hkept : (Piece.pair c).kept = [c] := by
          rw [Piece.kept, if_neg hbreak, if_neg (by rw [hescape]; simp)]
        have hne : c ≠ '\\' := by
          rintro rfl
          exact absurd hescape (by decide)
        have hidle : ∀ cs, unescape ('\\' :: c :: cs) = c :: unescape cs := by
          intro cs
          rw [unescape_backslash_cons, decodeEscape_idle hescape hfeed hreturn h.1]
          rfl
        exact ⟨[c], by rw [hkept]; exact unescape_cons_of_ne hne _, hidle _⟩

/-! ## How much longer the text is as it is written -/

/-- How many characters more are decoded from the pieces as they are written than from what they hand
on. -/
def surplus (pieces : List Piece) : Int :=
  (unescape (sourceOf pieces)).length - (decode pieces).length

/-- What both ways of decoding take alike leaves the surplus as it is. -/
theorem surplus_eq (out : List Char) (hkept : decode pieces = out ++ decode later)
    (hsource : unescape (sourceOf pieces) = out ++ unescape (sourceOf later)) :
    surplus pieces = surplus later := by
  rw [surplus, surplus, hkept, hsource, List.length_append, List.length_append]
  omega

theorem decode_plain_append (hback : '\\' ∉ text) (later : List Piece) :
    decode (text.map .plain ++ later) = text ++ decode later := by
  rw [decode_eq, keptOf_append, keptOf_map_plain, unescape_append_of_notMem hback, decode_eq]

theorem surplus_plain_append (hback : '\\' ∉ text) (later : List Piece) :
    surplus (text.map .plain ++ later) = surplus later := by
  refine surplus_eq text (decode_plain_append hback later) ?_
  rw [sourceOf_append, sourceOf_map_plain, unescape_append_of_notMem hback]

/-- What becomes of a piece in front of the later ones: both ways of decoding take the same of them
and answer alike, or a splice begins here and the text gets longer as it is written. -/
inductive Outcome (piece : Piece) (later : List Piece) : Prop where
  | alike (out : List Char) {behind : List Piece} (hsuffix : behind <:+ later)
    (hkept : decode (piece :: later) = out ++ decode behind)
    (hsource : unescape (sourceOf (piece :: later)) = out ++ unescape (sourceOf behind))
    (hsurplus : surplus later = surplus behind)
  | spliced (hsplice : Spliced (piece :: later)) (hlt : surplus later < surplus (piece :: later))

/-- What is read only as it is handed on is one character there, and as it is written it stays as
many as it decodes to by itself. -/
theorem surplus_lt_of_keptOnly {marked : Char}
    (hkept : decode (.pair letter :: later) = marked :: unescape rest)
    (hsource : unescape (sourceOf (.pair letter :: later)) = letter :: unescape (sourceOf later))
    (hlt : (unescape rest).length < (decode later).length) :
    surplus later < surplus (.pair letter :: later) := by
  rw [surplus, surplus, hkept, hsource, List.length_cons, List.length_cons]
  omega

/-! ## Bytes -/

theorem unescape_byte {code : UInt32} (h : readHex? 2 0 cs = some (code, rest)) :
    unescape ('\\' :: 'x' :: cs) = charOfCode code :: unescape rest := by
  rw [unescape_backslash_cons, decodeEscape_byte, h]
  rfl

theorem unescape_not_byte (h : readHex? 2 0 cs = none) :
    unescape ('\\' :: 'x' :: cs) = 'x' :: unescape cs := by
  rw [unescape_backslash_cons, decodeEscape_byte, h]
  rfl

/-- Behind `\x`, digits that are read only as they are handed on lengthen the text as it is
written. -/
theorem surplus_lt_of_byte {code : UInt32} (hkept : readHex? 2 0 (keptOf later) = some (code, rest))
    (hsource : readHex? 2 0 (sourceOf later) = none) :
    surplus later < surplus (.pair 'x' :: later) := by
  refine surplus_lt_of_keptOnly (unescape_byte hkept) (unescape_not_byte hsource) ?_
  obtain ⟨digits, ⟨hlength, hdigits⟩, hlater⟩ := exists_digits_of_readHex? hkept
  rw [decode_eq, hlater, unescape_append_of_notMem (backslash_notMem_digits hdigits),
    List.length_append]
  omega

theorem IsSplice.spliced_cons_append (h : IsSplice (piece :: run)) (later : List Piece) :
    Spliced (piece :: (run ++ later)) :=
  ⟨piece :: run, (List.prefix_append (piece :: run) later).isInfix, h⟩

theorem outcome_byte (later : List Piece) : Outcome (.pair 'x') later := by
  cases (takes_readHex? 2 (by decide)).comparison later with
  | neither hkept hsource =>
    exact .alike ['x'] (List.suffix_refl _) (unescape_not_byte hkept)
      (unescape_not_byte hsource) rfl
  | @both text behind code htaken hpieces hkept hsource =>
    exact .alike [charOfCode code] ⟨_, hpieces.symm⟩ (unescape_byte hkept)
      (unescape_byte hsource)
      (by rw [hpieces, surplus_plain_append (backslash_notMem_digits htaken.2)])
  | @keptOnly run behind code hpieces htaken hend hdropped hkept hsource =>
    subst hpieces
    exact .spliced (IsSplice.spliced_cons_append (.number (.byte htaken) hend hdropped) behind)
      (surplus_lt_of_byte hkept hsource)

/-! ## Code points -/

/-- Behind `\u`, what is read only as it is handed on lengthens the text as it is written. -/
theorem surplus_lt_of_unicode {marked : Char}
    (hkept : readUnicode? (keptOf later) = some (marked, rest))
    (hsource : readUnicode? (sourceOf later) = none) :
    surplus later < surplus (.pair 'u' :: later) :=
  surplus_lt_of_keptOnly (unescape_unicode hkept) (unescape_not_unicode hsource)
    (length_unescape_lt_of_readUnicode? hkept)

theorem surplus_lt_of_braced {found : Char × List Char}
    (hkept : readInBraces? (keptOf later) = some found)
    (hsource : readInBraces? (sourceOf later) = none) :
    surplus later < surplus (.pair 'u' :: later) := by
  have hread : readUnicode? (keptOf later) = some (found.1, found.2) := by
    rw [readUnicode?_eq, hkept, Option.some_or]
  refine surplus_lt_of_unicode hread (readUnicode?_eq_none_iff.mpr ⟨hsource, ?_⟩)
  rw [Option.eq_none_iff_forall_ne_some]
  rintro ⟨word, rest⟩ hword
  obtain ⟨digits, last, -, -, -, hkeptWord⟩ :=
    (takes_readHex? 4 (by decide)).exists_both hword
  rw [readHex?_of_readInBraces? hkept] at hkeptWord
  exact absurd hkeptWord (by simp)

theorem surplus_lt_of_unit {found : UInt32 × List Char}
    (hkept : readHex? 4 0 (keptOf later) = some found)
    (hsource : readHex? 4 0 (sourceOf later) = none) :
    surplus later < surplus (.pair 'u' :: later) := by
  obtain ⟨marked, rest, hread⟩ := exists_readUnicode? hkept
  refine surplus_lt_of_unicode hread (readUnicode?_eq_none_iff.mpr ⟨?_, hsource⟩)
  rw [Option.eq_none_iff_forall_ne_some]
  rintro ⟨marked', rest'⟩ hbraced
  obtain ⟨digits, last, -, -, -, hkeptBraced⟩ := takes_readInBraces?.exists_both hbraced
  rw [readHex?_of_readInBraces? hkeptBraced] at hkept
  exact absurd hkept (by simp)

/-- Two halves that are a pair only as they are handed on are one character there, and two as they
are written. -/
theorem surplus_lt_of_halves {word low : UInt32} {behind : List Piece}
    (hlater : later = text.map .plain ++ behind) (hback : '\\' ∉ text)
    (hhigh : isHighSurrogate word = true)
    (hkept : readHex? 4 0 (keptOf later) = some (word, keptOf behind))
    (hsource : readHex? 4 0 (sourceOf later) = some (word, sourceOf behind))
    (hlow : readLowSurrogate? (keptOf behind) = some (low, rest))
    (hnone : readLowSurrogate? (sourceOf behind) = none) :
    surplus later < surplus (.pair 'u' :: later) := by
  have hpaired : decode (.pair 'u' :: later) = pairedChar word low :: unescape rest :=
    unescape_unicode (readUnicode?_pair hkept hhigh hlow)
  have halone : unescape (sourceOf (.pair 'u' :: later)) =
      charOfCode word :: unescape (sourceOf behind) :=
    unescape_unicode (readUnicode?_alone hsource fun _ => hnone)
  have hbehind : decode behind = '\ufffd' :: unescape rest := unescape_of_readLowSurrogate? hlow
  rw [hlater, surplus_plain_append hback, ← hlater, surplus, surplus, hpaired, halone, hbehind,
    List.length_cons, List.length_cons, List.length_cons]
  omega

/-- An escape sequence that is handed on behind line continuations. -/
theorem exists_pair_of_keptOf (hmet : AreMet pieces) (h : keptOf pieces = '\\' :: letter :: cs) :
    ∃ between behind, pieces = between ++ .pair letter :: behind ∧ keptOf between = [] ∧
      keptOf behind = cs := by
  induction pieces with
  | nil => exact absurd h (by simp)
  | cons piece pieces ih =>
    rw [keptOf_cons] at h
    rcases piece.kept_cases with ⟨hkept, -⟩ | ⟨d, hkept, hplain⟩ | ⟨d, -, rfl, hkept⟩
    · rw [hkept, List.nil_append] at h
      obtain ⟨between, behind, rfl, hsilent, hbehind⟩ := ih hmet.tail h
      exact ⟨piece :: between, behind, rfl, by rw [keptOf_cons, hkept, hsilent]; rfl, hbehind⟩
    · rw [hkept] at h
      obtain rfl : d = '\\' := (List.cons.inj h).1
      have hhead := hmet.head
      rw [hplain rfl] at hhead
      exact absurd rfl hhead
    · rw [hkept] at h
      obtain ⟨-, htail⟩ := List.cons.inj h
      obtain ⟨rfl, hbehind⟩ := List.cons.inj htail
      exact ⟨[], pieces, rfl, rfl, hbehind⟩

/-- One that is written stands there. -/
theorem exists_pair_of_sourceOf (hmet : AreMet pieces) (hletter : letter ≠ '\r')
    (h : sourceOf pieces = '\\' :: letter :: cs) :
    ∃ behind, pieces = .pair letter :: behind ∧ sourceOf behind = cs := by
  cases pieces with
  | nil => exact absurd h (by simp)
  | cons piece pieces =>
    cases piece with
    | plain d => exact absurd (List.cons.inj h).1 hmet.head
    | pair d =>
      obtain ⟨-, htail⟩ := List.cons.inj h
      obtain ⟨rfl, hbehind⟩ := List.cons.inj htail
      exact ⟨pieces, rfl, hbehind⟩
    | brokenLine =>
      obtain ⟨-, htail⟩ := List.cons.inj h
      exact absurd (List.cons.inj htail).1.symm hletter

/-- A line continuation is not what an escape sequence of another letter begins with. -/
theorem readLowSurrogate?_silent (hne : between ≠ []) (hsilent : keptOf between = [])
    (later : List Piece) : readLowSurrogate? (sourceOf (between ++ later)) = none := by
  cases between with
  | nil => exact absurd rfl hne
  | cons piece between =>
    obtain ⟨hpiece, -⟩ := List.append_eq_nil_iff.mp hsilent
    rw [Option.eq_none_iff_forall_ne_some]
    rintro ⟨low, rest⟩ hlow
    obtain ⟨behind, hbehind, -⟩ := readLowSurrogate?_eq_some_iff.mp hlow
    rcases piece.kept_cases with ⟨-, c, more, hc, hsource⟩ | ⟨d, hkept, -⟩ | ⟨d, -, -, hkept⟩
    · rw [List.cons_append, sourceOf_cons, hsource] at hbehind
      obtain ⟨-, htail⟩ := List.cons.inj hbehind
      obtain ⟨rfl, -⟩ := List.cons.inj htail
      exact absurd hc (by decide)
    · exact absurd (hkept.symm.trans hpiece) (by simp)
    · exact absurd (hkept.symm.trans hpiece) (by simp)

/-- Behind the first half of a surrogate pair the second is looked for. -/
theorem outcome_high {word : UInt32} {behind : List Piece} (hmet : AreMet later)
    (htaken : AreDigits 4 text) (hlater : later = text.map .plain ++ behind)
    (hhigh : isHighSurrogate word = true)
    (hkept : readHex? 4 0 (keptOf later) = some (word, keptOf behind))
    (hsource : readHex? 4 0 (sourceOf later) = some (word, sourceOf behind)) :
    Outcome (.pair 'u') later := by
  have hback : '\\' ∉ text := backslash_notMem_digits htaken.2
  have hsuffix : behind <:+ later := ⟨_, hlater.symm⟩
  have hplain : surplus later = surplus behind := by rw [hlater, surplus_plain_append hback]
  have hdigits := takes_readHex? 4 (by decide)
  cases hlow : readLowSurrogate? (sourceOf behind) with
  | some found =>
    obtain ⟨low, rest⟩ := found
    obtain ⟨cs, hcs, hread, hislow⟩ := readLowSurrogate?_eq_some_iff.mp hlow
    obtain ⟨more, hmore, hmorecs⟩ :=
      exists_pair_of_sourceOf (hmet.of_suffix hsuffix) (by decide) hcs
    rw [← hmorecs] at hread
    obtain ⟨digits, last, -, hlast, hrest, hkeptLast⟩ := hdigits.exists_both hread
    have hkeptLow : readLowSurrogate? (keptOf behind) = some (low, keptOf last) :=
      readLowSurrogate?_eq_some_iff.mpr ⟨keptOf more, by rw [hmore]; rfl, hkeptLast, hislow⟩
    have hlastsuffix : last <:+ behind := by
      rw [hmore, hlast]
      exact (List.suffix_append _ last).trans (List.suffix_cons _ _)
    refine .alike [pairedChar word low] (hlastsuffix.trans hsuffix)
      (unescape_unicode (readUnicode?_pair hkept hhigh hkeptLow))
      (unescape_unicode (readUnicode?_pair hsource hhigh (hrest ▸ hlow))) (hplain.trans ?_)
    exact surplus_eq ['\ufffd'] (unescape_of_readLowSurrogate? hkeptLow)
      (unescape_of_readLowSurrogate? (hrest ▸ hlow))
  | none =>
    cases hkeptLow : readLowSurrogate? (keptOf behind) with
    | none =>
      exact .alike [charOfCode word] hsuffix
        (unescape_unicode (readUnicode?_alone hkept fun _ => hkeptLow))
        (unescape_unicode (readUnicode?_alone hsource fun _ => hlow)) hplain
    | some found =>
      obtain ⟨low, rest⟩ := found
      refine .spliced ?_ (surplus_lt_of_halves hlater hback hhigh hkept hsource hkeptLow hlow)
      obtain ⟨cs, hcs, hread, hislow⟩ := readLowSurrogate?_eq_some_iff.mp hkeptLow
      obtain ⟨between, more, rfl, hsilent, rfl⟩ :=
        exists_pair_of_keptOf (hmet.of_suffix hsuffix) hcs
      cases hdigits.comparison more with
      | neither hnone => exact absurd (hnone.symm.trans hread) (by simp)
      | @keptOnly run last word' hmore htaken' hend hdropped =>
        -- something is dropped in the number of the second half
        subst hmore
        have hsplice := IsSplice.spliced_cons_append (.number (.unit htaken') hend hdropped) last
        exact hsplice.of_suffix (((List.suffix_append between _).trans hsuffix).trans
          (List.suffix_cons _ _))
      | @both digits last word' htaken' hmore hkeptMore hsourceMore =>
        obtain rfl : word' = low := by
          rw [hread] at hkeptMore
          exact (Prod.mk.inj (Option.some.inj hkeptMore)).1.symm
        have hne : between ≠ [] := by
          rintro rfl
          have hwritten := readLowSurrogate?_eq_some_iff.mpr
            ⟨sourceOf more, rfl, hsourceMore, hislow⟩
          exact absurd (hlow.symm.trans hwritten) (by simp)
        rw [hlater, keptOf_append, keptOf_map_plain] at hkept
        rw [hmore, keptOf_append, keptOf_map_plain] at hkeptMore
        obtain ⟨unit, hunit, rfl⟩ := exists_unit htaken hkept
        obtain ⟨unit', hunit', rfl⟩ := exists_unit htaken' hkeptMore
        have hsplice := IsSplice.surrogates (isHighSurrogate_unit_iff.mp hhigh)
          (isLowSurrogate_unit_iff.mp hislow) hunit hunit' hne hsilent
        have hwhole := hsplice.spliced_cons_append last
        rw [hlater, hmore]
        simpa using hwhole

theorem outcome_unicode (hmet : AreMet later) : Outcome (.pair 'u') later := by
  cases takes_readInBraces?.comparison later with
  | @both text behind marked htaken hlater hkept hsource =>
    have hread : readUnicode? (keptOf later) = some (marked, keptOf behind) := by
      rw [readUnicode?_eq, hkept, Option.some_or]
    have hwritten : readUnicode? (sourceOf later) = some (marked, sourceOf behind) := by
      rw [readUnicode?_eq, hsource, Option.some_or]
    refine .alike [marked] ⟨_, hlater.symm⟩ (unescape_unicode hread)
      (unescape_unicode hwritten) ?_
    rw [hlater, surplus_plain_append (takes_readInBraces?.backslash_notMem htaken)]
  | @keptOnly run behind marked hlater htaken hend hdropped hkept hsource =>
    refine .spliced ?_ (surplus_lt_of_braced hkept hsource)
    rw [hlater]
    exact IsSplice.spliced_cons_append (.number (.braced htaken) hend hdropped) behind
  | neither hkeptBraces hsourceBraces =>
    cases (takes_readHex? 4 (by decide)).comparison later with
    | neither hkept hsource =>
      exact .alike ['u'] (List.suffix_refl _)
        (unescape_not_unicode (readUnicode?_eq_none_iff.mpr ⟨hkeptBraces, hkept⟩))
        (unescape_not_unicode (readUnicode?_eq_none_iff.mpr ⟨hsourceBraces, hsource⟩)) rfl
    | @keptOnly run behind word hlater htaken hend hdropped hkept hsource =>
      refine .spliced ?_ (surplus_lt_of_unit hkept hsource)
      rw [hlater]
      exact IsSplice.spliced_cons_append (.number (.unit htaken) hend hdropped) behind
    | @both text behind word htaken hlater hkept hsource =>
      by_cases hhigh : isHighSurrogate word = true
      · exact outcome_high hmet htaken hlater hhigh hkept hsource
      · refine .alike [charOfCode word] ⟨_, hlater.symm⟩
          (unescape_unicode (readUnicode?_alone hkept fun h => absurd h hhigh))
          (unescape_unicode (readUnicode?_alone hsource fun h => absurd h hhigh)) ?_
        rw [hlater, surplus_plain_append (backslash_notMem_digits htaken.2)]

/-! ## Whole texts -/

/-- **At each piece both ways of decoding go on alike, or a splice begins.** -/
theorem outcome (hmet : AreMet (piece :: later)) : Outcome piece later := by
  by_cases hbyte : piece = .pair 'x'
  · rw [hbyte]
    exact outcome_byte later
  · by_cases hunicode : piece = .pair 'u'
    · rw [hunicode]
      exact outcome_unicode hmet.tail
    · obtain ⟨out, hkept, hsource⟩ := exists_decoded hmet.head hbyte hunicode
      exact .alike out (List.suffix_refl _) hkept hsource rfl

/-- **No later piece makes up for a difference.** -/
theorem surplus_le_cons (hmet : AreMet (piece :: later)) :
    surplus later ≤ surplus (piece :: later) := by
  cases outcome hmet with
  | alike out hsuffix hkept hsource hsurplus => rw [hsurplus, surplus_eq out hkept hsource]
  | spliced hsplice hlt => exact hlt.le

theorem surplus_nonneg (hmet : AreMet pieces) : 0 ≤ surplus pieces := by
  induction pieces with
  | nil => simp [surplus, decode_eq]
  | cons piece later ih => exact (ih hmet.tail).trans (surplus_le_cons hmet)

/-- At a splice the text gets longer as it is written. -/
theorem surplus_lt_of_isSplice (h : IsSplice (piece :: run)) :
    surplus (run ++ later) < surplus (piece :: (run ++ later)) := by
  cases h with
  | number hnumber hend hdropped =>
    cases hnumber with
    | byte htaken =>
      have hdigits := takes_readHex? 2 (by decide)
      obtain ⟨code, hkept⟩ := hdigits.read_keptOf htaken later
      exact surplus_lt_of_byte hkept (hdigits.read_sourceOf_eq_none htaken hend hdropped later)
    | unit htaken =>
      have hdigits := takes_readHex? 4 (by decide)
      obtain ⟨word, hkept⟩ := hdigits.read_keptOf htaken later
      exact surplus_lt_of_unit hkept (hdigits.read_sourceOf_eq_none htaken hend hdropped later)
    | braced htaken =>
      obtain ⟨marked, hkept⟩ := takes_readInBraces?.read_keptOf htaken later
      exact surplus_lt_of_braced hkept
        (takes_readInBraces?.read_sourceOf_eq_none htaken hend hdropped later)
  | @surrogates high low digits more between hhigh hlow hdigits hmore hne hsilent =>
    have hpieces : digits.map .plain ++ (between ++ .pair 'u' :: more.map .plain) ++ later =
        digits.map .plain ++ (between ++ .pair 'u' :: (more.map .plain ++ later)) := by
      simp
    rw [hpieces]
    have hkeptLow : readLowSurrogate?
        (keptOf (between ++ .pair 'u' :: (more.map .plain ++ later))) =
          some (low.toNat.toUInt32, keptOf later) := by
      refine readLowSurrogate?_eq_some_iff.mpr ⟨more ++ keptOf later, ?_, hmore.readHex? _,
        isLowSurrogate_unit_iff.mpr hlow⟩
      rw [keptOf_append, hsilent, keptOf_cons, keptOf_append, keptOf_map_plain]
      rfl
    refine surplus_lt_of_halves rfl hdigits.backslash_notMem
      (isHighSurrogate_unit_iff.mpr hhigh) ?_ ?_ hkeptLow
      (readLowSurrogate?_silent hne hsilent _)
    · rw [keptOf_append, keptOf_map_plain, hdigits.readHex?]
    · rw [sourceOf_append, sourceOf_map_plain, hdigits.readHex?]

theorem surplus_pos (hmet : AreMet pieces) (h : Spliced pieces) : 0 < surplus pieces := by
  induction pieces with
  | nil =>
    obtain ⟨run, hrun, hsplice⟩ := h
    rw [List.eq_nil_of_infix_nil hrun] at hsplice
    exact nomatch hsplice
  | cons piece later ih =>
    rcases spliced_cons_iff.mp h with ⟨run, hrun, hsplice⟩ | hlater
    · obtain ⟨behind, hbehind⟩ := hrun
      cases run with
      | nil => exact nomatch hsplice
      | cons first run =>
        obtain ⟨rfl, rfl⟩ := List.cons.inj hbehind
        exact (surplus_nonneg hmet.tail).trans_lt (surplus_lt_of_isSplice hsplice)
    · exact (ih hmet.tail hlater).trans_le (surplus_le_cons hmet)

theorem decode_eq_of_not_spliced (hmet : AreMet pieces) (h : ¬Spliced pieces) :
    decode pieces = unescape (sourceOf pieces) := by
  -- an escape sequence takes several pieces at once, so the induction is on their number
  induction hlength : pieces.length using Nat.strong_induction_on generalizing pieces with
  | _ length ih =>
    cases pieces with
    | nil => rfl
    | cons piece later =>
      cases outcome hmet with
      | spliced hsplice => exact absurd hsplice h
      | @alike out behind hsuffix hkept hsource =>
        have hle := hsuffix.length_le
        rw [List.length_cons] at hlength
        have hbehind : decode behind = unescape (sourceOf behind) := by
          refine ih behind.length (by omega) (hmet.tail.of_suffix hsuffix) ?_ rfl
          exact fun hspliced => h (hspliced.of_suffix (hsuffix.trans (List.suffix_cons _ _)))
        rw [hkept, hsource, hbehind]

/-- **Decoding in two steps and at once is the same exactly if nothing is spliced.** -/
theorem decode_eq_iff (hmet : AreMet pieces) :
    decode pieces = unescape (sourceOf pieces) ↔ ¬Spliced pieces := by
  refine ⟨fun heq hspliced => ?_, decode_eq_of_not_spliced hmet⟩
  have hpos := surplus_pos hmet hspliced
  rw [surplus, heq] at hpos
  omega

/-! ## Literals -/

theorem AreElements.of_append {q : Quote} {behind : List Char} {before elements : List (List Char)}
    (h : AreElements q behind (before ++ elements)) : AreElements q behind elements := by
  induction before with
  | nil => exact h
  | cons element before ih => exact ih h.2

/-- Between quotes a piece is always taken for what it is, disputed pairs apart. -/
theorem areMet_of_areElements {q : Quote} {behind : List Char}
    (h : AreElements q behind (pieces.map Piece.source)) (hmet : ∀ c ∈ disputed, .pair c ∉ pieces) :
    AreMet pieces := by
  rintro piece later ⟨before, rfl⟩
  rw [List.map_append] at h
  obtain ⟨helement, -⟩ := h.of_append
  rw [flatten_map_source] at helement
  cases piece with
  | brokenLine => trivial
  | plain c =>
    cases helement with
    | plain hordinary => exact hordinary.1
  | pair c =>
    refine ⟨fun hc => hmet c hc (by simp), fun hreturn hhead => ?_⟩
    cases helement with
    | pair hjoin =>
      refine hjoin hreturn ?_
      rw [List.head?_append, hhead]
      rfl

theorem Piece.source_injective : Function.Injective Piece.source := by
  intro piece piece' h
  cases piece <;> cases piece' <;> simp_all [Piece.source]

/-- **A string decodes as the text between its quotes does, unless something in it is spliced.** The
pieces are those that the text is read as, and they are the only ones. If there is no pair among them
that the two ways of decoding define differently, the value is the text decoded at once exactly if no
number of an escape sequence and no surrogate pair comes about only by dropping line continuations
and idle backslashes. -/
theorem scanHead_value_eq_unescape_iff {input : List Char} {t : Token (List Char) Quote}
    (h : recognizer.scanHead input = .ok t) :
    (∃ (pieces : List Piece) (rest : List Char),
      IsLiteral t.detail (Text.skipBlank input) (pieces.map Piece.source) rest) ∧
    ∀ (pieces : List Piece) (rest : List Char),
      IsLiteral t.detail (Text.skipBlank input) (pieces.map Piece.source) rest →
      t.source = t.detail.char :: sourceOf pieces ++ [t.detail.char] ∧
      ((∀ c ∈ disputed, .pair c ∉ pieces) →
        (t.value = unescape (sourceOf pieces) ↔ ¬Spliced pieces)) := by
  obtain ⟨found, hread, rfl⟩ := Recognizer.scanHead_eq_ok_iff.mp h
  obtain ⟨q, behind, pieces, rest, hinput, hpieces, rfl⟩ := read_eq_ok_iff.mp hread
  rw [hinput]
  have hliteral := isLiteral_of_readPieces? hpieces
  refine ⟨⟨pieces, rest, hliteral⟩, ?_⟩
  intro pieces' rest' hliteral'
  obtain rfl := List.map_injective_iff.mpr Piece.source_injective (hliteral.unique hliteral').1
  exact ⟨rfl, fun hmet => decode_eq_iff (areMet_of_areElements hliteral.areElements hmet)⟩

/-- The halves of a surrogate pair with a line continuation between them: they are joined, and decoded
at once they are not. -/
theorem scanHead_value_ne_unescape_halves :
    let pieces : List Piece := .pair 'u' :: ("D83D".toList.map .plain ++
      ([.brokenLine] ++ .pair 'u' :: "dE00".toList.map .plain))
    let input := ' ' :: '\x60' :: sourceOf pieces ++ ['\x60', ';']
    ∃ t, recognizer.scanHead input = .ok t ∧
      IsLiteral t.detail (Text.skipBlank input) (pieces.map Piece.source) [';'] ∧
      (∀ c ∈ disputed, .pair c ∉ pieces) ∧ Spliced pieces ∧
      t.value ≠ unescape (sourceOf pieces) := by
  intro pieces input
  have hhigh : IsUnitEscape 0xd83d ('\\' :: 'u' :: "D83D".toList) := ⟨_, rfl, rfl, rfl⟩
  have hlow : IsUnitEscape 0xde00 ('\\' :: 'u' :: "dE00".toList) := ⟨_, rfl, rfl, rfl⟩
  have hsplice : IsSplice pieces :=
    .surrogates (by decide) (by decide) hhigh hlow (by simp) rfl
  have hspliced : Spliced pieces := ⟨pieces, List.infix_refl _, hsplice⟩
  have hscan : recognizer.scanHead input =
      .ok ⟨'\x60' :: sourceOf pieces ++ ['\x60'], 1, 1, decode pieces, .backtick⟩ := rfl
  have hliteral : IsLiteral .backtick (Text.skipBlank input) (pieces.map Piece.source) [';'] :=
    isLiteral_of_readPieces? rfl
  have hmet : ∀ c ∈ disputed, Piece.pair c ∉ pieces :=
    forall_mem_disputed_iff.mpr (by decide)
  refine ⟨_, hscan, hliteral, hmet, hspliced, fun heq => ?_⟩
  exact (((scanHead_value_eq_unescape_iff hscan).2 pieces _ hliteral).2 hmet).mp heq hspliced

/-- A digit behind an idle backslash completes the number in front of it: what is read is the letter
that the number stands for, and decoded at once the text has no number in it. -/
theorem scanHead_value_idle_digit :
    let pieces : List Piece := [.pair 'x', .plain '4', .pair '1']
    ∃ t, recognizer.scanHead ['\'', '\\', 'x', '4', '\\', '1', '\''] = .ok t ∧
      t.source = '\'' :: sourceOf pieces ++ ['\''] ∧ (∀ c ∈ disputed, .pair c ∉ pieces) ∧
      t.value = ['A'] ∧ unescape (sourceOf pieces) = ['x', '4', '1'] := by
  intro pieces
  have hnumber : readHex? 2 0 ['4', '1'] = some (0x41, []) := rfl
  have hvalue : decode pieces = ['A'] :=
    (unescape_byte hnumber).trans (congrArg _ unescape_nil)
  have hmet : ∀ c ∈ disputed, Piece.pair c ∉ pieces :=
    forall_mem_disputed_iff.mpr (by decide)
  refine ⟨⟨_, 0, 0, decode pieces, .single⟩, rfl, rfl, hmet, hvalue, ?_⟩
  have hbyte : unescape (sourceOf pieces) = 'x' :: unescape ['4', '\\', '1'] :=
    unescape_not_byte rfl
  rw [hbyte, unescape_cons_of_ne (by decide), unescape_backslash_cons]
  exact congrArg (fun cs => 'x' :: '4' :: '1' :: cs) unescape_nil

end ScriptLiterals.Quoted
