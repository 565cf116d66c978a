import ScriptLiterals.Pattern.Reader
import ScriptLiterals.Proofs.Readers
import ScriptLiterals.Regexp.Value

/-!
# Keeping track of classes by their brackets

Whoever looks for the end of a regular expression keeps one bit: whether a class is open. That is
less than the reader of patterns knows. Classes nest, but here the first closing bracket closes them
all; and a bracket in the name of a group or in a comment opens no class, but here it does. The
first makes no difference in the end, since a nested class has its own closing bracket and the class
around it has a later one. What matters is the last bracket, and only the second can make it an
opening one (`HidesBracket`).

The reader of literals keeps the same bit. `Passes` says of a text that the reader gets over it, and
between which values of the bit; what is written or read between slashes is put together from such
texts.
-/

set_option autoImplicit false

namespace ScriptLiterals.Regexp

open Text

variable {inClass opens : Bool} {c : Char} {cs text : List Char}

/-! ## Whether a class is open -/

/-- Whether a class is open behind a text, from a place that is in a class or not. A backslash takes
the character behind it out of account. -/
def openAfter (inClass : Bool) : List Char → Bool
  | [] => inClass
  | ['\\'] => inClass
  | '\\' :: _ :: cs => openAfter inClass cs
  | c :: cs => openAfter (classAfter inClass c) cs

theorem openAfter_of_ne (h : c ≠ '\\') (cs : List Char) :
    openAfter inClass (c :: cs) = openAfter (classAfter inClass c) cs := by
  rw [openAfter]
  · exact fun hc => absurd hc h
  · exact fun _ _ hc => absurd hc h

/-- No bracket ends a line. -/
theorem classAfter_of_isLineTerminator (h : isLineTerminator c = true) :
    classAfter inClass c = inClass := by
  unfold classAfter
  split_ifs with hopen hclose
  · rw [hopen] at h
    exact absurd h (by decide)
  · rw [hclose] at h
    exact absurd h (by decide)
  · rfl

/-- Only an opening bracket opens a class. -/
theorem openAfter_of_notMem (h : '[' ∉ text) : openAfter false text = false := by
  generalize hin : false = inClass
  fun_induction openAfter inClass text with
  | case1 => rfl
  | case2 => rfl
  | case3 inClass c cs ih =>
    exact ih (fun hmem => h (by simp [hmem])) hin
  | case4 inClass c cs _ _ ih =>
    have hc : c ≠ '[' := fun hc => h (by simp [hc])
    have hafter : classAfter inClass c = inClass := by simp [classAfter, hc, ← hin]
    rw [hafter] at ih ⊢
    exact ih (fun hmem => h (by simp [hmem])) hin

/-! ## Coming out of a text in a known state -/

/-- The text leaves a class open or not (`opens`), from a place that is in no class or, if
`inClass`, from one that may be in a class. How deep a reader of patterns is in nested classes says
no more about the bit than this. -/
def Tracks (inClass opens : Bool) (text : List Char) : Prop :=
  ∃ bit, (inClass = false → bit = false) ∧ openAfter bit text = opens

/-- Whether `c` can be passed without a change that `Tracks` would see. -/
def isInert (inClass : Bool) (c : Char) : Bool := c != '\\' && (inClass || c != '[')

theorem isInert_false_iff : isInert false c = true ↔ c ≠ '\\' ∧ c ≠ '[' := by
  simp [isInert]

theorem isInert_of_notMem (hback : '\\' ∉ cs) (hopen : '[' ∉ cs) :
    ∀ c ∈ cs, isInert false c = true := fun _ hc =>
  isInert_false_iff.mpr ⟨fun heq => hback (heq ▸ hc), fun heq => hopen (heq ▸ hc)⟩

/-- What is inert outside of classes is so inside. -/
theorem isInert_of_false (h : isInert false c = true) : isInert inClass c = true := by
  obtain ⟨hback, hopen⟩ := isInert_false_iff.mp h
  simp [isInert, hback, hopen]

/-- A character is inert if it is of a kind that neither a backslash nor a bracket is of. -/
theorem isInert_of_kind {kind : Char → Bool} (h : kind c = true) (hback : kind '\\' = false)
    (hopen : kind '[' = false) : isInert inClass c = true := by
  refine isInert_of_false (isInert_false_iff.mpr ⟨?_, ?_⟩)
  · rintro rfl
    exact absurd (h.symm.trans hback) (by simp)
  · rintro rfl
    exact absurd (h.symm.trans hopen) (by simp)

namespace Tracks

theorem weaken (h : Tracks inClass opens text) : Tracks true opens text := by
  obtain ⟨bit, -, hbit⟩ := h
  exact ⟨bit, by simp, hbit⟩

theorem tail (h : Tracks inClass opens (c :: cs)) (hc : isInert inClass c = true) :
    Tracks inClass opens cs := by
  obtain ⟨bit, hin, hbit⟩ := h
  obtain ⟨hback, hopen⟩ := Bool.and_eq_true_iff.mp hc
  rw [openAfter_of_ne (by simpa using hback)] at hbit
  refine ⟨classAfter bit c, fun hno => ?_, hbit⟩
  subst hno
  simp_all [classAfter]

theorem append (h : Tracks inClass opens (text ++ cs))
    (htext : ∀ c ∈ text, isInert inClass c = true) : Tracks inClass opens cs := by
  induction text with
  | nil => exact h
  | cons d text ih =>
    exact ih (h.tail (htext d (by simp))) fun c hc => htext c (by simp [hc])

theorem pair (h : Tracks inClass opens ('\\' :: cs)) : Tracks inClass opens cs.tail := by
  cases cs with
  | nil => exact h
  | cons c cs => exact h

/-- A closing bracket leads out of all classes that are open. -/
theorem closing (h : Tracks inClass opens (']' :: cs)) : Tracks false opens cs := by
  obtain ⟨bit, -, hbit⟩ := h
  exact ⟨false, fun _ => rfl, hbit⟩

/-- A text without an opening bracket may be left out. -/
theorem nil_of_notMem (h : Tracks inClass opens text) (htext : '[' ∉ text) :
    Tracks inClass opens [] := by
  obtain ⟨bit, hin, hbit⟩ := h
  refine ⟨opens, fun hno => ?_, rfl⟩
  rw [← hbit, hin hno, openAfter_of_notMem htext]

theorem eq_false_of_nil (h : Tracks false opens []) : opens = false := by
  obtain ⟨bit, hin, hbit⟩ := h
  rw [← hbit, hin rfl]
  rfl

end Tracks

/-! ## Texts the reader passes -/

/-- The text can stand between slashes: the reader passes it, its brackets lead from a place that is
in a class or not to one that is or not, and it does not end the line. -/
structure Passes (inClass : Bool) (text : List Char) (after : Bool) : Prop where
  read : ∀ cs, splitBody? inClass (text ++ cs) =
    (splitBody? after cs).map fun found => (text ++ found.1, found.2)
  tracked : ∀ cs, openAfter inClass (text ++ cs) = openAfter after cs
  one_line : '\n' ∉ text

theorem passes_nil (inClass : Bool) : Passes inClass [] inClass where
  read := by simp
  tracked := by simp
  one_line := by simp

theorem Passes.append {between after : Bool} {text more : List Char}
    (h : Passes inClass text between) (hmore : Passes between more after) :
    Passes inClass (text ++ more) after where
  read := by
    intro cs
    rw [List.append_assoc, h.read, hmore.read, Option.map_map]
    congr 1
    funext found
    simp
  tracked := fun cs => by rw [List.append_assoc, h.tracked, hmore.tracked]
  one_line := fun hmem => (List.mem_append.mp hmem).elim h.one_line hmore.one_line

theorem ne_lineFeed (hline : isLineTerminator c = false) : '\n' ≠ c := by
  rintro rfl
  exact absurd hline (by decide)

theorem passes_pair (inClass : Bool) (hline : isLineTerminator c = false) :
    Passes inClass ['\\', c] inClass where
  read := by simp [splitBody?, hline]
  tracked := fun cs => rfl
  one_line := by simp [ne_lineFeed hline]

theorem passes_char (hback : c ≠ '\\') (hline : isLineTerminator c = false)
    (hslash : ¬(c = '/' ∧ !inClass)) : Passes inClass [c] (classAfter inClass c) where
  read := by
    intro cs
    rw [List.singleton_append, splitBody?_of_ne hback, hline, if_neg hslash]
    rfl
  tracked := openAfter_of_ne hback
  one_line := by simp [ne_lineFeed hline]

/-! ## Brackets that open no class -/

/-- An opening bracket stands in a comment. A comment ends with its line, and a pattern that stands
between slashes has only one. -/
def BracketInComment (text : List Char) : Prop :=
  ∃ comment, '#' :: comment <:+ text ∧ '[' ∈ comment

/-- The text begins with a group whose name holds an opening bracket. Blanks may come before the
question mark. -/
def BracketInName (text : List Char) : Prop :=
  ∃ blanks opener name rest, text = '(' :: (blanks ++ opener ++ name ++ '>' :: rest) ∧
    (∀ c ∈ blanks, isBlank c = true) ∧ (opener = ['?', '<'] ∨ opener = ['?', 'P', '<']) ∧
    '[' ∈ name ∧ '>' ∉ name

/-- The text begins with a group that turns comments on, and an opening bracket stands in a comment
behind. -/
def BracketInVerbose (text : List Char) : Prop :=
  ∃ blanks modes rest, text = '(' :: (blanks ++ '?' :: (modes ++ 'x' :: rest)) ∧
    (∀ c ∈ blanks, isBlank c = true) ∧ (∀ c ∈ modes, (Pattern.flag? c).isSome) ∧
    BracketInComment rest

/-- Somewhere in the text an opening bracket stands in the name of a group, or in a comment behind a
group that turns comments on. -/
def HidesBracket (text : List Char) : Prop :=
  ∃ group, group <:+ text ∧ (BracketInName group ∨ BracketInVerbose group)

theorem BracketInComment.of_suffix (h : BracketInComment cs) (hcs : cs <:+ text) :
    BracketInComment text := by
  obtain ⟨comment, hsuffix, hmem⟩ := h
  exact ⟨comment, hsuffix.trans hcs, hmem⟩

/-- Where there is no group, no bracket is hidden. -/
theorem not_hidesBracket_of_notMem (h : '(' ∉ text) : ¬HidesBracket text := by
  rintro ⟨group, hgroup, hkind⟩
  have hparen : '(' ∈ group := by
    rcases hkind with ⟨_, _, _, _, rfl, -⟩ | ⟨_, _, _, rfl, -⟩ <;> exact List.mem_cons_self
  exact h (hgroup.subset hparen)

/-- A text of one line whose brackets all have to do with classes. -/
structure Tame (text : List Char) : Prop where
  one_line : '\n' ∉ text
  hides_none : ¬HidesBracket text

theorem Tame.of_suffix (h : Tame text) (hcs : cs <:+ text) : Tame cs where
  one_line := fun hmem => h.one_line (hcs.subset hmem)
  hides_none := fun ⟨group, hgroup, hkind⟩ => h.hides_none ⟨group, hgroup.trans hcs, hkind⟩

end ScriptLiterals.Regexp
