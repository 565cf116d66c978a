import ScriptLiterals.Proofs.Number.Continuation
import ScriptLiterals.Proofs.Placement

/-!
# The text around a literal

What a scan answers depends on the literal and on nothing around it, in two senses.

* Blanks before the text only move the answer. A recognizer never sees them, so this is proved once
  for all kinds (`Recognizer.locate_behind_blanks`).
* Cut off behind the literal and put in front of another text that may follow it, the literal is
  found again, with the same token. Here each reader has to be asked, because each looks past what
  it takes: for the rest of a word, for more digits, for more flags. The lemmas `read_source_append`
  say what has to follow so that the look changes nothing; strings and block comments end with a
  delimiter and do not care.

The second part is a statement about two runs of the reader. It needs no relation between their
states: the equivalences in `ScriptLiterals.Proofs.Readers` turn the first run into the parts of the
text and these into the second run.
-/

set_option autoImplicit false

namespace ScriptLiterals

open Text

variable {α β δ : Type} {input blanks cs more : List Char}

/-! ## Answers for a text that stands behind another -/

/-- The token of the same literal in a text that has `before` in front of it. -/
def Token.shift (before : List Char) (t : Token α δ) : Token α δ :=
  { t with offset := before.length + t.offset, start := byteCount before + t.start }

/-- The token of the same literal in a text that has `before` in front of it. -/
def AnyToken.shift (before : List Char) : AnyToken → AnyToken
  | .comment t => .comment (t.shift before)
  | .regexp t => .regexp (t.shift before)
  | .string t => .string (t.shift before)
  | .keyword t => .keyword (t.shift before)
  | .number t => .number (t.shift before)

/-- The error for a text that has `before` in front of it. Errors that name no place stay. -/
def ScanError.shift (before : List Char) : ScanError → ScanError
  | .noMatch kind offset => .noMatch kind (before.length + offset)
  | .unterminated kind offset => .unterminated kind (before.length + offset)
  | .boundaryViolation kind offset => .boundaryViolation kind (before.length + offset)
  | .unsupported kind feature => .unsupported kind feature
  | .invalidPattern pattern fault => .invalidPattern pattern fault

/-- The answer for a text that has `before` in front of it, if `move` moves what was found. -/
def shiftResult (before : List Char) (move : α → α) (result : Except ScanError α) :
    Except ScanError α :=
  (result.map move).mapError (·.shift before)

theorem shiftResult_map {f : α → β} {move : α → α} {move' : β → β}
    (hmove : ∀ a, move' (f a) = f (move a)) (before : List Char) (result : Except ScanError α) :
    shiftResult before move' (result.map f) = (shiftResult before move result).map f := by
  cases result with
  | error e => rfl
  | ok a => exact congrArg Except.ok (hmove a)

theorem settle_shiftResult (strict : Bool) (move : α → α) (result : Except ScanError α) :
    settle strict (shiftResult blanks move result) =
      shiftResult blanks (Option.map move) (settle strict result) := by
  cases result with
  | ok a => rfl
  | error e => cases strict <;> rfl

theorem found?_shiftResult (move : α → α) (result : Except ScanError α) :
    found? (shiftResult blanks move result) = (found? result).map move := by
  cases result <;> rfl

/-! ## Blanks before the text -/

theorem leadingBlank_blanks_append (h : ∀ c ∈ blanks, isBlank c = true) (input : List Char) :
    leadingBlank (blanks ++ input) = blanks ++ leadingBlank input :=
  List.takeWhile_append_of_pos h

theorem skipBlank_blanks_append (h : ∀ c ∈ blanks, isBlank c = true) (input : List Char) :
    skipBlank (blanks ++ input) = skipBlank input :=
  List.dropWhile_append_of_pos h

theorem Lexeme.behind_append (before : List Char) (found : Lexeme α δ) :
    found.behind (before ++ blanks) = (found.behind blanks).shift before := by
  simp [Lexeme.behind, Token.shift, byteCount_append]

theorem Miss.toError_add (before : List Char) (kind : Kind) (offset : Nat) (miss : Miss) :
    miss.toError kind (before.length + offset) = (miss.toError kind offset).shift before := by
  cases miss <;> rfl

namespace Recognizer

variable {r : Recognizer α δ}

/-- **Blanks before the text move what is found, and change nothing else.** -/
theorem locate_behind_blanks (r : Recognizer α δ) (h : ∀ c ∈ blanks, isBlank c = true)
    (input : List Char) : r.locate (blanks ++ input) =
      shiftResult blanks (fun found => (found.1.shift blanks, found.2)) (r.locate input) := by
  rw [locate_eq, locate_eq, leadingBlank_blanks_append h, skipBlank_blanks_append h]
  cases r.read (skipBlank input) with
  | error miss =>
    rw [List.length_append]
    exact congrArg Except.error (Miss.toError_add blanks r.kind _ miss)
  | ok found =>
    dsimp only
    rw [found.behind_append]
    rfl

theorem scanHead_behind_blanks (h : ∀ c ∈ blanks, isBlank c = true) (input : List Char) :
    r.scanHead (blanks ++ input) = shiftResult blanks (·.shift blanks) (r.scanHead input) := by
  rw [scanHead, locate_behind_blanks r h, scanHead]
  cases r.locate input <;> rfl

theorem scan_behind_blanks (h : ∀ c ∈ blanks, isBlank c = true) (input : List Char) :
    r.scan (blanks ++ input) = shiftResult blanks (·.shift blanks) (r.scan input) := by
  rw [scan, locate_behind_blanks r h, scan]
  cases r.locate input with
  | error e => rfl
  | ok found =>
    obtain ⟨token, leftover⟩ := found
    dsimp only [shiftResult, Except.map, Except.mapError]
    split
    · rfl
    · -- the literal ends as many characters later as there are blanks
      have hfinish : (token.shift blanks).finish = blanks.length + token.finish :=
        Nat.add_assoc _ _ _
      rw [hfinish]
      rfl

end Recognizer

theorem scanKind_behind_blanks {kind : Kind} {allowTrailing : Bool}
    (h : ∀ c ∈ blanks, isBlank c = true) (input : List Char) :
    scanKind kind allowTrailing (blanks ++ input) =
      shiftResult blanks (·.shift blanks) (scanKind kind allowTrailing input) := by
  have hmap : ∀ {γ ε : Type} {result result' : Except ScanError (Token γ ε)}
      (f : Token γ ε → AnyToken), (∀ t, (f t).shift blanks = f (t.shift blanks)) →
      result' = shiftResult blanks (·.shift blanks) result →
      result'.map f = shiftResult blanks (·.shift blanks) (result.map f) := by
    intro γ ε result result' f hf hresult
    rw [hresult, shiftResult_map hf]
  cases kind with
  | comment => exact hmap .comment (fun _ => rfl) (Recognizer.scan_behind_blanks h input)
  | regexp => exact hmap .regexp (fun _ => rfl) (Recognizer.scan_behind_blanks h input)
  | string => exact hmap .string (fun _ => rfl) (Recognizer.scan_behind_blanks h input)
  | keyword => exact hmap .keyword (fun _ => rfl) (Recognizer.scan_behind_blanks h input)
  | number =>
    refine hmap .number (fun _ => rfl) ?_
    cases allowTrailing with
    | false => exact Recognizer.scan_behind_blanks h input
    | true => exact Recognizer.scanHead_behind_blanks h input

theorem detectAmong_behind_blanks (order : List Kind) (h : ∀ c ∈ blanks, isBlank c = true)
    (input : List Char) :
    detectAmong order (blanks ++ input) = (detectAmong order input).map (·.shift blanks) := by
  induction order with
  | nil => rfl
  | cons kind order ih =>
    simp only [detectAmong, List.findSome?_cons, scanKind_behind_blanks h,
      found?_shiftResult] at ih ⊢
    cases found? (scanKind kind false input) with
    | some token => rfl
    | none => exact ih

/-! ## Words, strings, patterns and comments in front of another text -/

/-- A keyword is read again where the word ends. -/
theorem Keyword.read_source_append {found : Lexeme Keyword Unit} (h : read cs = .ok found)
    (hmore : EndsRun isIdContinue more) :
    read (found.source ++ more) = .ok { found with rest := more } := by
  obtain ⟨k, rest, -, -, rfl⟩ := read_eq_ok_iff.mp h
  exact read_eq_ok_iff.mpr ⟨k, more, rfl, hmore, rfl⟩

namespace Quoted

variable {q : Quote} {rest : List Char} {pieces : List Piece}

/-- The same pieces are read whatever follows the quote that ends them. -/
theorem readPieces?_sourceOf_append (h : readPieces? q cs = some (pieces, rest))
    (more : List Char) :
    readPieces? q (sourceOf pieces ++ q.char :: more) = some (pieces, more) := by
  fun_induction readPieces? q cs generalizing pieces with
  | case1 => exact absurd h (by simp)
  | case2 => exact absurd h (by simp)
  | case3 cs ih =>
    obtain ⟨⟨others, rest'⟩, hothers, heq⟩ := Option.map_eq_some_iff.mp h
    obtain ⟨rfl, rfl⟩ := Prod.mk.inj heq
    have hstep := readPieces?_brokenLine q (sourceOf others ++ q.char :: more)
    rw [ih hothers] at hstep
    exact hstep
  | case4 c cs hbreak ih =>
    obtain ⟨⟨others, rest'⟩, hothers, heq⟩ := Option.map_eq_some_iff.mp h
    obtain ⟨rfl, rfl⟩ := Prod.mk.inj heq
    have hjoin : c = '\r' → (sourceOf others ++ q.char :: more).head? ≠ some '\n' := by
      rintro rfl hhead
      -- the quote hides what follows it, so both texts begin alike
      have hhead' : (sourceOf others ++ q.char :: rest').head? = some '\n' := by
        simpa [List.head?_append] using hhead
      rw [← sourceOf_append_of_readPieces? hothers] at hhead'
      obtain ⟨cs', hcs⟩ := List.head?_eq_some_iff.mp hhead'
      exact hbreak cs' rfl hcs
    have hstep := readPieces?_pair (q := q) hjoin
    rw [ih hothers] at hstep
    exact hstep
  | case5 cs =>
    obtain ⟨rfl, rfl⟩ := Prod.mk.inj (Option.some.inj h)
    exact readPieces?_quote q more
  | case6 => exact absurd h (by simp)
  | case7 c cs hback _ hpair hquote hraw ih =>
    obtain ⟨⟨others, rest'⟩, hothers, heq⟩ := Option.map_eq_some_iff.mp h
    obtain ⟨rfl, rfl⟩ := Prod.mk.inj heq
    have hne : c ≠ '\\' := ne_backslash_of_unpaired hback hpair
    have hstep := readPieces?_of_ne (q := q) hne (sourceOf others ++ q.char :: more)
    rw [if_neg hquote, if_neg hraw, ih hothers] at hstep
    exact hstep

/-- A string is read again in front of anything. -/
theorem read_source_append {found : Lexeme (List Char) Quote} (h : read cs = .ok found)
    (more : List Char) : read (found.source ++ more) = .ok { found with rest := more } := by
  obtain ⟨q, behind, pieces, rest, -, hpieces, rfl⟩ := read_eq_ok_iff.mp h
  exact read_eq_ok_iff.mpr ⟨q, sourceOf pieces ++ q.char :: more, pieces, more, by simp,
    readPieces?_sourceOf_append hpieces more, rfl⟩

end Quoted

/-- What goes on with no word begins with no flag. -/
theorem RegexpFlag.ofLetter?_eq_none_of_endsRun (h : EndsRun isIdContinue more) :
    ∀ c ∈ more.head?, ofLetter? c = none := by
  intro c hc
  rw [Option.eq_none_iff_forall_ne_some]
  intro flag hflag
  have hletter := List.find?_some hflag
  obtain rfl : flag.letter = c := eq_of_beq hletter
  have hword : isIdContinue flag.letter = true := by cases flag <;> decide
  rw [h _ hc] at hword
  exact absurd hword (by simp)

/-- A run of flags is read again in front of what begins with no flag. -/
theorem RegexpFlags.readRun_run_append (flags : RegexpFlags) (cs : List Char)
    (hmore : ∀ c ∈ more.head?, RegexpFlag.ofLetter? c = Option.none) :
    flags.readRun ((flags.readRun cs).1 ++ more) =
      ((flags.readRun cs).1, (flags.readRun cs).2.1, more) := by
  have hstop : ∀ flags : RegexpFlags, flags.readRun more = ([], flags, more) := by
    intro flags
    cases more with
    | nil => rfl
    | cons c more => rw [readRun, hmore c rfl]
  fun_induction readRun flags cs with
  | case1 => exact hstop _
  | case2 => exact hstop _
  | case3 => exact hstop _
  | case4 flags c cs flag hflag hnew run all rest hrun ih =>
    rw [hrun] at ih
    rw [List.cons_append, readRun, hflag]
    simp only [hnew, ih, Bool.false_eq_true, if_false]

namespace Regexp

variable {inClass : Bool} {body behind : List Char}

/-- The same pattern is read whatever follows the slash that ends it. -/
theorem splitBody?_append (h : splitBody? inClass cs = some (body, behind)) (more : List Char) :
    splitBody? inClass (body ++ '/' :: more) = some (body, more) := by
  fun_induction splitBody? inClass cs generalizing body with
  | case1 => exact absurd h (by simp)
  | case2 => exact absurd h (by simp)
  | case3 => exact absurd h (by simp)
  | case4 inClass c cs hline ih =>
    obtain ⟨⟨inner, behind'⟩, hinner, heq⟩ := Option.map_eq_some_iff.mp h
    obtain ⟨rfl, rfl⟩ := Prod.mk.inj heq
    simp only [List.cons_append, splitBody?, hline, ih hinner, Bool.false_eq_true, if_false,
      Option.map_some]
  | case5 => exact absurd h (by simp)
  | case6 inClass c cs hback hpair hline hslash =>
    obtain ⟨rfl, rfl⟩ := Prod.mk.inj (Option.some.inj h)
    obtain ⟨rfl, hout⟩ := hslash
    rw [List.nil_append, splitBody?_of_ne (by decide), if_neg hline, if_pos ⟨rfl, hout⟩]
  | case7 inClass c cs hback hpair hline hslash ih =>
    obtain ⟨⟨inner, behind'⟩, hinner, heq⟩ := Option.map_eq_some_iff.mp h
    obtain ⟨rfl, rfl⟩ := Prod.mk.inj heq
    rw [List.cons_append, splitBody?_of_ne (ne_backslash_of_unpaired hback hpair), if_neg hline,
      if_neg hslash, ih hinner]
    rfl

/-- A regular expression is read again in front of what begins with no flag. -/
theorem read_source_append {found : Lexeme Regexp Unit} (h : read cs = .ok found)
    (hmore : ∀ c ∈ more.head?, RegexpFlag.ofLetter? c = none) :
    read (found.source ++ more) = .ok { found with rest := more } := by
  obtain ⟨text, body, behind, value, -, hopens, hbody, hvalue, rfl⟩ := read_eq_ok_iff.mp h
  have hflags := RegexpFlags.readRun_run_append .none behind hmore
  have hagain := splitBody?_append hbody ((RegexpFlags.none.readRun behind).1 ++ more)
  refine read_eq_ok_iff.mpr ⟨_, body, _, value, ?_, ?_, hagain, ?_, ?_⟩
  · simp [lexemeOf]
  · -- a pattern is not empty, so the slash behind it is not what is looked at
    rw [append_of_splitBody? hbody] at hopens
    cases body with
    | nil => exact absurd hopens (by simp [opensComment])
    | cons c body => exact hopens
  · rw [hflags]
    exact hvalue
  · simp only [lexemeOf, hflags]

end Regexp

namespace Comment

/-- The first closer stays the first one whatever follows it. -/
theorem splitAtCloser?_append {inner rest : List Char}
    (h : splitAtCloser? cs = some (inner, rest)) (more : List Char) :
    splitAtCloser? (inner ++ closer ++ more) = some (inner, more) := by
  fun_induction splitAtCloser? cs generalizing inner with
  | case1 => exact absurd h (by simp)
  | case2 cs =>
    obtain ⟨rfl, rfl⟩ := Prod.mk.inj (Option.some.inj h)
    rfl
  | case3 c cs hopen ih =>
    obtain ⟨⟨inner', rest'⟩, hinner, heq⟩ := Option.map_eq_some_iff.mp h
    obtain ⟨rfl, rfl⟩ := Prod.mk.inj heq
    have hnot : ∀ cs', c = '*' → inner' ++ closer ++ more = '/' :: cs' → False := by
      intro cs' hc hslash
      have hcs := append_of_splitAtCloser? hinner
      cases inner' with
      | nil => exact absurd hslash (by simp [closer])
      | cons d inner' =>
        obtain ⟨rfl, -⟩ := List.cons.inj hslash
        exact hopen _ hc hcs
    rw [List.cons_append, List.cons_append, splitAtCloser?, ih hinner]
    · rfl
    · exact hnot

/-- A comment with a closer is read again in front of anything. -/
theorem read_source_append {found : Lexeme (List Char) CommentForm} (h : read cs = .ok found)
    (hform : found.detail ≠ .line) (more : List Char) :
    read (found.source ++ more) = .ok { found with rest := more } := by
  rcases read_eq_ok_iff.mp h with ⟨text, -, rfl⟩ | ⟨text, inner, rest, -, hinner, rfl⟩
  · exact absurd rfl hform
  · exact read_eq_ok_iff.mpr (Or.inr ⟨inner ++ closer ++ more, inner, more,
      by simp [lexemeOf], splitAtCloser?_append hinner more, rfl⟩)

end Comment

/-! ## Literals in front of another text -/

/-- **A literal that is read again in front of a text which may follow it is found again**, in the
same place. -/
theorem Recognizer.Exact.scan_takeBytes_append {r : Recognizer α δ} {t : Token α δ} (hr : r.Exact)
    (h : r.scan input = .ok t) (hmore : r.boundary.all (·.accepts more) = true)
    (hagain : ∀ found, r.read (skipBlank input) = .ok found →
      t = found.behind (leadingBlank input) →
      r.read (found.source ++ more) = .ok { found with rest := more }) :
    r.scan (takeBytes t.span.stop input ++ more) = .ok t := by
  have hleads := hr.leadsIn_of_scan h
  obtain ⟨found, hread, -, rfl⟩ := scan_eq_ok_iff.mp h
  have hblank : ∀ c ∈ leadingBlank input, isBlank c = true := fun c hc => List.mem_takeWhile_imp hc
  rw [hleads.takeBytes_stop, List.append_assoc]
  have hread' : r.read (found.source ++ more) = .ok { found with rest := more } :=
    hagain found hread rfl
  have hscan := scan_blanks_append hblank (hleads.endsRun more) hread' hmore
  exact hscan

/-- **What a scan answers depends on the literal alone.** Blanks in front of the text move what is
found, or the place that an error tells of, and change nothing else, whatever kind is looked for and
with which options. What follows the literal can be replaced by anything that may follow it, and
behind a comment with a closer by anything at all. -/
theorem scan_context :
    (∀ kind options blanks input, (∀ c ∈ blanks, isBlank c = true) →
      scanAs kind options (blanks ++ input) =
        shiftResult blanks (Option.map (·.shift blanks)) (scanAs kind options input)) ∧
    (∀ blanks input, (∀ c ∈ blanks, isBlank c = true) →
      detect (blanks ++ input) = (detect input).map (·.shift blanks)) ∧
    (∀ input t more, Number.token? input = some t → Boundary.expression.accepts more = true →
      Number.token? (takeBytes t.span.stop input ++ more) = some t) ∧
    (∀ input t more, Quoted.token? input = some t → Boundary.expression.accepts more = true →
      Quoted.token? (takeBytes t.span.stop input ++ more) = some t) ∧
    (∀ input t more, Keyword.token? input = some t → Boundary.statement.accepts more = true →
      Keyword.token? (takeBytes t.span.stop input ++ more) = some t) ∧
    (∀ input t more, Regexp.token? input = some t → Boundary.pattern.accepts more = true →
      Regexp.token? (takeBytes t.span.stop input ++ more) = some t) ∧
    ∀ input t more, Comment.token? input = some t → t.detail ≠ .line →
      Comment.token? (takeBytes t.span.stop input ++ more) = some t := by
  refine ⟨?_, ?_, ?_, ?_, ?_, ?_, ?_⟩
  · intro kind options blanks input h
    rw [scanAs, scanKind_behind_blanks h, settle_shiftResult]
    rfl
  · intro blanks input h
    exact detectAmong_behind_blanks Kind.all h input
  · intro input t more h hmore
    refine found?_eq_some_iff.mpr (Number.recognizer_exact.scan_takeBytes_append
      (found?_eq_some_iff.mp h) hmore fun found hread _ => ?_)
    exact Number.read_source_append hread (Boundary.endsRun_of_accepts hmore)
  · intro input t more h hmore
    refine found?_eq_some_iff.mpr (Quoted.recognizer_exact.scan_takeBytes_append
      (found?_eq_some_iff.mp h) hmore fun found hread _ => ?_)
    exact Quoted.read_source_append hread more
  · intro input t more h hmore
    refine found?_eq_some_iff.mpr (Keyword.recognizer_exact.scan_takeBytes_append
      (found?_eq_some_iff.mp h) hmore fun found hread _ => ?_)
    exact Keyword.read_source_append hread (Boundary.endsRun_isIdContinue
      (Boundary.endsRun_of_accepts (Boundary.accepts_mono (by decide) hmore)))
  · intro input t more h hmore
    refine found?_eq_some_iff.mpr (Regexp.recognizer_exact.scan_takeBytes_append
      (found?_eq_some_iff.mp h) hmore fun found hread _ => ?_)
    exact Regexp.read_source_append hread (RegexpFlag.ofLetter?_eq_none_of_endsRun
      (Boundary.endsRun_isIdContinue
        (Boundary.endsRun_of_accepts (Boundary.accepts_mono (by decide) hmore))))
  · intro input t more h hform
    refine found?_eq_some_iff.mpr (Comment.recognizer_exact.scan_takeBytes_append
      (found?_eq_some_iff.mp h) rfl fun found hread ht => ?_)
    exact Comment.read_source_append hread (by rintro hline; exact hform (by rw [ht]; exact hline))
      more

/-- A number behind a blank of three bytes that a semicolon follows, and then a division. Without
the number the blank is one character of the place where a number is missed. -/
theorem scan_context_wide :
    (∀ c ∈ ['\u3000'], isBlank c = true) ∧
      scanAs .number { strict := true } (['\u3000'] ++ [';']) = .error (.noMatch .number 1) ∧
      Number.token? ['\u3000', '-', '1', '2', ';'] =
        some ⟨['-', '1', '2'], 1, 3, .integer (-12), .decimal⟩ ∧
      Boundary.expression.accepts [' ', '/', 'n'] = true ∧
      Number.token? (takeBytes 6 ['\u3000', '-', '1', '2', ';'] ++ [' ', '/', 'n']) =
        some ⟨['-', '1', '2'], 1, 3, .integer (-12), .decimal⟩ := by
  have hblank : ∀ c ∈ ['\u3000'], isBlank c = true := List.all_eq_true.mp rfl
  exact ⟨hblank, scan_context.1 .number { strict := true } ['\u3000'] [';'] hblank, rfl, rfl,
    scan_context.2.2.1 ['\u3000', '-', '1', '2', ';'] _ [' ', '/', 'n'] rfl rfl⟩

end ScriptLiterals
