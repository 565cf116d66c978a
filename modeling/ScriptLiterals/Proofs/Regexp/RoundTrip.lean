import ScriptLiterals.Proofs.Pattern.Descent
import ScriptLiterals.Proofs.Readers

/-!
# Which regular expressions are read back

A pattern is made fit to stand between slashes by escaping what would end it: slashes and line
terminators. Both the printer and the reader decide what would end it by keeping track of classes,
in the same way (`openAfter`), so the reader passes what the printer wrote (`passes_normalize`) and
comes to the closing slash in the state that the printer predicts. If that state is "no class is
open", the literal is read back; if it is "a class is open", the closing slash is taken for a member
of the class and the literal is never closed. A pattern that has a meaning closes its classes
itself, so the second happens only where a bracket belongs to no class: in the name of a group, or
in a comment.
-/

set_option autoImplicit false

namespace ScriptLiterals

open Text

namespace RegexpFlags

/-- The letters of a set are read back as the set. -/
theorem readRun_letters (flags : RegexpFlags) :
    none.readRun flags.letters = (flags.letters, flags, []) := by
  obtain ⟨_ | _, _ | _, _ | _, _ | _, _ | _, _ | _⟩ := flags <;> rfl

/-- The letters of a set do not close a class. -/
theorem splitBody?_letters (flags : RegexpFlags) :
    Regexp.splitBody? true ('/' :: flags.letters) = .none := by
  obtain ⟨_ | _, _ | _, _ | _, _ | _, _ | _, _ | _⟩ := flags <;> rfl

end RegexpFlags

namespace Regexp

variable {inClass : Bool} {pattern : List Char} {flags : RegexpFlags} {value : Regexp} {c : Char}

/-! ## What a normalized pattern is passed as -/

theorem passes_digit (inClass : Bool) (h : c = '0' ∨ c = '2' ∨ c = '8' ∨ c = '9') :
    Passes inClass [c] inClass := by
  rcases h with rfl | rfl | rfl | rfl <;> exact passes_char (by decide) (by decide) (by simp)

/-- What is written for a line terminator is passed, and holds no bracket. -/
theorem passes_lineTerminatorLetters (inClass : Bool) (c : Char) :
    Passes inClass ('\\' :: lineTerminatorLetters c) inClass := by
  have hcode : ∀ {d}, d = '8' ∨ d = '9' → Passes inClass ['\\', 'u', '2', '0', '2', d] inClass :=
    fun hd => (passes_pair inClass (by decide)).append ((passes_digit inClass (by simp)).append
      ((passes_digit inClass (by simp)).append ((passes_digit inClass (by simp)).append
        (passes_digit inClass (Or.inr (Or.inr hd))))))
  unfold lineTerminatorLetters
  split_ifs
  · exact passes_pair inClass (by decide)
  · exact passes_pair inClass (by decide)
  · exact hcode (Or.inl rfl)
  · exact hcode (Or.inr rfl)

/-- **The reader passes a normalized pattern**, and comes out of it in the state that the brackets
of the pattern say. -/
theorem passes_normalizeFrom (inClass : Bool) (pattern : List Char) :
    Passes inClass (normalizeFrom inClass pattern) (openAfter inClass pattern) := by
  fun_induction normalizeFrom inClass pattern with
  | case1 inClass => exact passes_nil inClass
  | case2 inClass => exact passes_pair inClass (by decide)
  | case3 inClass c cs ih =>
    have hhead : Passes inClass
        ('\\' :: if isLineTerminator c then lineTerminatorLetters c else [c]) inClass := by
      split
      · exact passes_lineTerminatorLetters inClass c
      · rename_i hline
        exact passes_pair inClass (Bool.eq_false_iff.mpr hline)
    exact hhead.append ih
  | case4 inClass c cs hback hpair ih =>
    have hne := ne_backslash_of_unpaired hback hpair
    rw [openAfter_of_ne hne]
    refine Passes.append ?_ ih
    split
    · rename_i hslash
      rw [hslash.1]
      exact passes_pair inClass (by decide)
    · rename_i hslash
      split
      · rename_i hline
        rw [classAfter_of_isLineTerminator hline]
        exact passes_lineTerminatorLetters inClass c
      · rename_i hline
        exact passes_char hne (Bool.eq_false_iff.mpr hline) hslash

/-- A pattern without text is written as a group without text. -/
theorem passes_normalize (pattern : List Char) :
    Passes false (normalize pattern) (openAfter false pattern) := by
  cases pattern with
  | nil =>
    have hgroup : ∀ {c}, c = '(' ∨ c = '?' ∨ c = ':' ∨ c = ')' → Passes false [c] false := by
      rintro c (rfl | rfl | rfl | rfl) <;> exact passes_char (by decide) (by decide) (by decide)
    exact (hgroup (by simp)).append ((hgroup (by simp)).append
      ((hgroup (by simp)).append (hgroup (by simp))))
  | cons c pattern => exact passes_normalizeFrom false (c :: pattern)

/-- So the brackets of the normalized pattern lead where those of the pattern do. -/
theorem openAfter_normalize (pattern : List Char) :
    openAfter false (normalize pattern) = openAfter false pattern := by
  simpa [openAfter] using (passes_normalize pattern).tracked []

/-! ## Patterns that have a meaning -/

theorem make_eq_ok_iff : make pattern flags = .ok value ↔
    ∃ meaning, Pattern.compile flags.modes (normalize pattern) = .ok meaning ∧
      value = ⟨normalize pattern, flags, meaning⟩ := by
  unfold make ofSource
  cases hcompile : Pattern.compile flags.modes (normalize pattern) with
  | error fault => simp [hcompile, Except.map]
  | ok meaning => simp [hcompile, Except.map, eq_comm]

/-- A normalized pattern begins with a character that is no slash. -/
theorem exists_head_normalize (pattern : List Char) :
    ∃ c rest, normalize pattern = c :: rest ∧ c ≠ '/' := by
  unfold normalize
  split
  · exact ⟨_, _, rfl, by decide⟩
  · rename_i hempty
    unfold normalizeFrom
    split
    · exact absurd rfl hempty
    · exact ⟨_, _, rfl, by decide⟩
    · exact ⟨_, _, rfl, by decide⟩
    · split_ifs with hslash hline
      · exact ⟨_, _, rfl, by decide⟩
      · exact ⟨_, _, rfl, by decide⟩
      · exact ⟨_, _, rfl, fun hc => hslash ⟨hc, rfl⟩⟩

/-- So what is written behind the opening slash opens no comment. -/
theorem opensComment_append (h : make pattern flags = .ok value) (cs : List Char) :
    opensComment (value.source ++ cs) = false := by
  obtain ⟨meaning, hcompile, rfl⟩ := make_eq_ok_iff.mp h
  obtain ⟨c, rest, hsource, hslash⟩ := exists_head_normalize pattern
  have hstar : c ≠ '*' := by
    rintro rfl
    rw [hsource, Pattern.compile, Pattern.parse?_star] at hcompile
    exact absurd hcompile (by simp)
  simp [opensComment, hsource, hslash, hstar]

/-- Only a bracket in a name or in a comment can leave a class open. -/
theorem hidesBracket_of_openAfter (h : make pattern flags = .ok value)
    (hopen : openAfter false pattern = true) : HidesBracket value.source := by
  obtain ⟨meaning, hcompile, rfl⟩ := make_eq_ok_iff.mp h
  by_contra hnone
  have hclosed := Pattern.openAfter_of_compile hcompile ⟨(passes_normalize pattern).one_line, hnone⟩
  rw [openAfter_normalize, hopen] at hclosed
  exact absurd hclosed (by simp)

/-! ## Literals -/

/-- Where no class is left open, the literal is read back, whole and with the same value. -/
theorem read_toLiteral (h : make pattern flags = .ok value)
    (hclosed : openAfter false pattern = false) :
    read value.toLiteral = .ok ⟨value.toLiteral, [], value, ()⟩ := by
  obtain ⟨meaning, hcompile, rfl⟩ := make_eq_ok_iff.mp h
  have hbody := (passes_normalize pattern).read ('/' :: flags.letters)
  rw [hclosed, splitBody?_of_ne (by decide), if_neg (by decide), if_pos ⟨rfl, rfl⟩,
    Option.map_some, List.append_nil] at hbody
  refine read_eq_ok_iff.mpr ⟨_, normalize pattern, flags.letters,
    ⟨normalize pattern, flags, meaning⟩, rfl, opensComment_append h _, hbody, ?_, ?_⟩
  · rw [flags.readRun_letters, ofSource, hcompile]
    rfl
  · simp only [lexemeOf, flags.readRun_letters]
    rfl

/-- Where a class is left open, the literal is never closed. -/
theorem read_toLiteral_of_open (h : make pattern flags = .ok value)
    (hopen : openAfter false pattern = true) : read value.toLiteral = .error .unterminated := by
  have hopens := opensComment_append h ('/' :: flags.letters)
  obtain ⟨meaning, hcompile, rfl⟩ := make_eq_ok_iff.mp h
  have hbody := (passes_normalize pattern).read ('/' :: flags.letters)
  rw [hopen, flags.splitBody?_letters, Option.map_none] at hbody
  change read ('/' :: (normalize pattern ++ '/' :: flags.letters)) = .error .unterminated
  rw [read, hopens, hbody]
  rfl

theorem endsRun_toLiteral (value : Regexp) : EndsRun isBlank value.toLiteral :=
  endsRun_cons.mpr (by decide)

/-- **A regular expression is read back from its literal**, unless an opening bracket stands in the
name of a group or in a comment. Whether it is then depends on where the brackets of the pattern
lead: if they leave a class open, the literal is not closed. -/
theorem parse?_toLiteral (h : make pattern flags = .ok value) :
    (¬HidesBracket value.source → parse? value.toLiteral = some value) ∧
      (openAfter false pattern = false → parse? value.toLiteral = some value) ∧
      (openAfter false pattern = true →
        recognizer.scan value.toLiteral = .error (.unterminated .regexp 0)) := by
  have hskip : skipBlank value.toLiteral = value.toLiteral :=
    dropWhile_of_endsRun value.endsRun_toLiteral
  have hlead : leadingBlank value.toLiteral = [] := takeWhile_of_endsRun value.endsRun_toLiteral
  have hback : openAfter false pattern = false → parse? value.toLiteral = some value := by
    intro hclosed
    have hread : recognizer.read (skipBlank value.toLiteral) = _ :=
      (congrArg read hskip).trans (read_toLiteral h hclosed)
    have hscan := Recognizer.scan_eq_ok_iff.mpr ⟨_, hread, rfl, rfl⟩
    rw [parse?, token?, hscan]
    rfl
  refine ⟨fun hnone => hback ?_, hback, fun hopen => ?_⟩
  · exact Bool.eq_false_iff.mpr fun hopen => hnone (hidesBracket_of_openAfter h hopen)
  · have hread : recognizer.read (skipBlank value.toLiteral) = _ :=
      (congrArg read hskip).trans (read_toLiteral_of_open h hopen)
    rw [Recognizer.scan_of_read_eq_error hread, hlead]
    rfl

/-- A slash in a class stays as it is, one outside is escaped, and both are read back. -/
theorem parse?_toLiteral_slashes :
    make ['[', '/', ']', '/'] .none =
        .ok ⟨['[', '/', ']', '\\', '/'], .none, .literal ['/', '/']⟩ ∧
      ¬HidesBracket ['[', '/', ']', '\\', '/'] ∧
      parse? (toLiteral ⟨['[', '/', ']', '\\', '/'], .none, .literal ['/', '/']⟩) =
        some ⟨['[', '/', ']', '\\', '/'], .none, .literal ['/', '/']⟩ := by
  have hmake : make ['[', '/', ']', '/'] .none =
      .ok ⟨['[', '/', ']', '\\', '/'], .none, .literal ['/', '/']⟩ := rfl
  have hnone : ¬HidesBracket ['[', '/', ']', '\\', '/'] := not_hidesBracket_of_notMem (by decide)
  exact ⟨hmake, hnone, (parse?_toLiteral hmake).1 hnone⟩

/-- The name of a group may hold a bracket, which is taken for the beginning of a class. -/
theorem parse?_toLiteral_groupName :
    make ['(', '?', 'P', '<', 'a', '[', '>', 'x', ')'] .none =
        .ok ⟨['(', '?', 'P', '<', 'a', '[', '>', 'x', ')'], .none, .capture (.literal ['x'])⟩ ∧
      parse? (toLiteral
        ⟨['(', '?', 'P', '<', 'a', '[', '>', 'x', ')'], .none, .capture (.literal ['x'])⟩) = none :=
  ⟨rfl, rfl⟩

end Regexp

end ScriptLiterals
