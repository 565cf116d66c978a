import ScriptLiterals.Proofs.Pattern.Meaning
import ScriptLiterals.Proofs.Pattern.Reader

/-!
# Where the reader of patterns stands

The reader is in as many classes as it has opened; who keeps one bit for the brackets knows less
(`Regexp.Tracks`). Here the two are compared along a run of the reader. What a step has to keep is
that the bit, from where the reader stands, comes out as it would from the start (`Stands`): in no
class the bit is known to be down there, in a class it may be up or down. There is one lemma for
each reader, here for those that read no class and no group.

There is one place where none of this can be said: in front of a character that stands for what the
one before it makes of it, as behind a backslash, or that is about to change the state, as a bracket
does. There the lemmas ask for what is the case behind that character (`Nears`).
-/

set_option autoImplicit false

namespace ScriptLiterals.Pattern

open Text Reader
open Regexp (BracketInComment Tame Tracks isInert isInert_false_iff isInert_of_false
  isInert_of_kind)

variable {inClass opens calm : Bool} {st st' : ReaderState} {c : Char} {cs text : List Char}

/-! ## Where the reader stands -/

/-- The reader is in a class, or not; from here to the end the brackets are as they have to be for a
class to be left open or not (`opens`). Where comments are ignored, or were in a group around this
one (`calm`), no bracket may come in a comment. -/
structure Stands (inClass opens calm : Bool) (st : ReaderState) : Prop where
  tame : Tame st.cursor.rest
  quiet : (st.verbose || calm) = true → ¬BracketInComment st.cursor.rest
  tracks : Tracks inClass opens st.cursor.rest

/-- The reader will stand so behind the next character. -/
def Nears (inClass opens calm : Bool) (st : ReaderState) : Prop :=
  ∀ next : ReaderState, next.cursor.rest = st.cursor.rest.tail → next.verbose = st.verbose →
    Stands inClass opens calm next

namespace Stands

theorem moved {inClass' : Bool} (h : Stands inClass opens calm st)
    (hrest : st'.cursor.rest <:+ st.cursor.rest) (hverbose : st'.verbose = st.verbose)
    (htracks : Tracks inClass' opens st'.cursor.rest) : Stands inClass' opens calm st' where
  tame := h.tame.of_suffix hrest
  quiet := fun hquiet hholds => h.quiet (hverbose ▸ hquiet) (hholds.of_suffix hrest)
  tracks := htracks

theorem weaken (h : Stands inClass opens calm st) : Stands true opens calm st :=
  h.moved List.suffix_rfl rfl h.tracks.weaken

/-- Text that no class and no escape has to do with may be passed. -/
theorem passed (h : Stands inClass opens calm st) (text : List Char)
    (hrest : st.cursor.rest = text ++ st'.cursor.rest) (hverbose : st'.verbose = st.verbose)
    (htext : ∀ c ∈ text, isInert inClass c = true) : Stands inClass opens calm st' :=
  h.moved ⟨text, hrest.symm⟩ hverbose ((hrest ▸ h.tracks).append htext)

theorem nears (h : Stands inClass opens calm st) (hrest : st.cursor.rest = c :: cs)
    (hc : isInert inClass c = true) : Nears inClass opens calm st := by
  intro next hnext hverbose
  refine h.passed [c] ?_ hverbose (by simpa using hc)
  rw [hnext, hrest]
  rfl

theorem nears_opening (h : Stands inClass opens calm st) (hrest : st.cursor.rest = '[' :: cs) :
    Nears true opens calm st :=
  h.weaken.nears hrest (by decide)

theorem nears_closing (h : Stands inClass opens calm st) (hrest : st.cursor.rest = ']' :: cs) :
    Nears false opens calm st := by
  intro next hnext hverbose
  rw [hrest, List.tail_cons] at hnext
  refine h.moved ⟨[']'], by rw [hrest, hnext]; rfl⟩ hverbose ?_
  exact hnext ▸ (hrest ▸ h.tracks).closing

/-- The character behind a backslash is what the backslash makes of it. -/
theorem nears_of_backslash (h : Stands inClass opens calm st)
    (hrest : st.cursor.rest = '\\' :: st'.cursor.rest) (hverbose : st'.verbose = st.verbose) :
    Nears inClass opens calm st' := by
  intro next hnext hverbose'
  refine h.moved ?_ (hverbose'.trans hverbose) (hnext ▸ (hrest ▸ h.tracks).pair)
  rw [hnext, hrest]
  exact (List.tail_suffix _).trans (List.suffix_cons _ _)

end Stands

/-! ## Moving on -/

/-- A comment goes on to the end of its line. -/
theorem ignoredLength_comment (h : '\n' ∉ text) : ignoredLength true text = text.length := by
  induction text with
  | nil => rfl
  | cons c cs ih =>
    have hc : (c != '\n') = true := by simpa using fun hc : c = '\n' => h (by simp [hc])
    have hcs : '\n' ∉ cs := fun hmem => h (by simp [hmem])
    simp [ignoredLength, hc, ih hcs]

/-- What is ignored at the head of a text of one line: blanks, and a comment to the end. -/
theorem drop_ignoredLength (h : '\n' ∉ text) :
    ∃ blanks rest, text = blanks ++ rest ∧ (∀ c ∈ blanks, isBlank c = true) ∧
      (text.drop (ignoredLength false text) = rest ∨
        (∃ comment, rest = '#' :: comment) ∧ text.drop (ignoredLength false text) = []) := by
  induction text with
  | nil => exact ⟨[], [], rfl, by simp, Or.inl rfl⟩
  | cons c cs ih =>
    have hcs : '\n' ∉ cs := fun hmem => h (by simp [hmem])
    by_cases hblank : isBlank c = true
    · obtain ⟨blanks, rest, rfl, hblanks, hdrop⟩ := ih hcs
      exact ⟨c :: blanks, rest, rfl, List.forall_mem_cons.mpr ⟨hblank, hblanks⟩,
        by simpa [ignoredLength, hblank] using hdrop⟩
    · refine ⟨[], c :: cs, rfl, by simp, ?_⟩
      by_cases hcomment : c = '#'
      · subst hcomment
        exact Or.inr ⟨⟨cs, rfl⟩, by simp [ignoredLength, hblank, ignoredLength_comment hcs]⟩
      · exact Or.inl (by simp [ignoredLength, hblank, hcomment])

theorem isInert_of_isBlank (h : isBlank c = true) : isInert inClass c = true :=
  isInert_of_kind h (by decide) (by decide)

/-- A step over what is ignored is one over blanks, or one to the end of the pattern. -/
theorem skipIgnored_cases {u : Unit} (h : skipIgnored st = some (u, st'))
    (hline : '\n' ∉ st.cursor.rest) :
    (∃ blanks, st.cursor.rest = blanks ++ st'.cursor.rest ∧ ∀ c ∈ blanks, isBlank c = true) ∨
      (st.verbose = true ∧ st'.cursor.rest = [] ∧ ∃ blanks comment,
        st.cursor.rest = blanks ++ '#' :: comment ∧ ∀ c ∈ blanks, isBlank c = true) := by
  obtain ⟨-, hrest⟩ := skipIgnored_inv h
  split at hrest
  · rename_i hverbose
    obtain ⟨blanks, rest, htext, hblanks, hdrop | ⟨⟨comment, rfl⟩, hdrop⟩⟩ :=
      drop_ignoredLength hline
    · exact Or.inl ⟨blanks, by rw [hrest, hdrop, htext], hblanks⟩
    · exact Or.inr ⟨hverbose, hrest.trans hdrop, blanks, comment, htext, hblanks⟩
  · exact Or.inl ⟨[], hrest.symm, by simp⟩

theorem Stands.skipIgnored {u : Unit} (h : Stands inClass opens calm st)
    (hrun : Reader.skipIgnored st = some (u, st')) : Stands inClass opens calm st' := by
  have hverbose := (skipIgnored_inv hrun).1
  rcases skipIgnored_cases hrun h.tame.one_line with ⟨blanks, hrest, hblanks⟩ |
    ⟨hon, hrest, blanks, comment, htext, hblanks⟩
  · exact h.passed blanks hrest hverbose fun c hc => isInert_of_isBlank (hblanks c hc)
  · have hopen : '[' ∉ '#' :: comment := fun hmem =>
      h.quiet (by rw [hon]; rfl) ⟨comment, ⟨blanks, htext.symm⟩, by simpa using hmem⟩
    have hcomment : Tracks inClass opens ('#' :: comment) :=
      (htext ▸ h.tracks).append fun c hc => isInert_of_isBlank (hblanks c hc)
    exact h.moved (hrest ▸ List.nil_suffix) hverbose (hrest ▸ hcomment.nil_of_notMem hopen)

theorem Nears.bump {u : Unit} (h : Nears inClass opens calm st)
    (hrun : Reader.bump st = some (u, st')) : Stands inClass opens calm st' :=
  h st' (bump_inv hrun).1 (bump_inv hrun).2

theorem Nears.bumpOver {u : Unit} (h : Nears inClass opens calm st)
    (hrun : Reader.bumpOver st = some (u, st')) : Stands inClass opens calm st' := by
  obtain ⟨_, mid, hbump, hskip⟩ := bind_inv (x := Reader.bump) hrun
  exact (h.bump hbump).skipIgnored hskip

theorem Nears.bumpTo (h : Nears inClass opens calm st)
    (hrun : Reader.bumpTo st = some (c, st')) :
    Stands inClass opens calm st' ∧ ∃ cs, st'.cursor.rest = c :: cs := by
  obtain ⟨_, mid, hover, hcurrent⟩ := bind_inv (x := Reader.bumpOver) hrun
  obtain ⟨rfl, cs, hrest⟩ := current_inv hcurrent
  exact ⟨h.bumpOver hover, cs, hrest⟩

theorem Stands.eatWord {word : List Char} {found : Bool} (h : Stands inClass opens calm st)
    (hword : word.all (isInert inClass) = true)
    (hrun : Reader.eatWord word st = some (found, st')) : Stands inClass opens calm st' := by
  obtain ⟨-, hrest, hverbose⟩ | ⟨-, rfl⟩ := eatWord_inv hrun
  · exact h.passed word hrest hverbose (List.all_eq_true.mp hword)
  · exact h

theorem Stands.takeWhile {p : Char → Bool} {run : List Char} (h : Stands inClass opens calm st)
    (hrun : Reader.takeWhile p st = some (run, st')) (hp : ∀ c ∈ run, isInert inClass c = true) :
    Stands inClass opens calm st' :=
  h.passed run (takeWhile_inv hrun).1 (takeWhile_inv hrun).2.2 hp

theorem Stands.collect {α : Type} {more : Char → Option α} {bound : Nat} {as : List α}
    (h : Stands inClass opens calm st) (hrun : Reader.collect more bound st = some (as, st'))
    (hmore : ∀ c, ∀ a ∈ as, more c = some a → isInert inClass c = true) :
    Stands inClass opens calm st' := by
  induction bound generalizing st as with
  | zero =>
    obtain ⟨-, rfl⟩ := pure_inv hrun
    exact h
  | succ bound ih =>
    rw [Reader.collect, peek_bind] at hrun
    cases hnext : st.cursor.rest.head?.bind more with
    | none =>
      rw [hnext] at hrun
      obtain ⟨-, rfl⟩ := pure_inv hrun
      exact h
    | some a =>
      rw [hnext] at hrun
      obtain ⟨c, hhead, hc⟩ := Option.bind_eq_some_iff.mp hnext
      obtain ⟨cs, hrest⟩ := List.head?_eq_some_iff.mp hhead
      obtain ⟨_, mid, hover, hrun⟩ := bind_inv (x := Reader.bumpOver) hrun
      obtain ⟨others, last, hothers, hrun⟩ := bind_inv (x := Reader.collect more bound) hrun
      obtain ⟨rfl, rfl⟩ := pure_inv hrun
      refine ih ((h.nears hrest (hmore c a (by simp) hc)).bumpOver hover) hothers ?_
      exact fun c b hb => hmore c b (by simp [hb])

theorem Stands.collectAll {α : Type} {more : Char → Option α} {as : List α}
    (h : Stands inClass opens calm st) (hrun : Reader.collectAll more st = some (as, st'))
    (hmore : ∀ c, ∀ a ∈ as, more c = some a → isInert inClass c = true) :
    Stands inClass opens calm st' := by
  rw [Reader.collectAll, get_bind] at hrun
  exact h.collect hrun hmore

/-! ## Escapes -/

theorem isInert_of_isDigit {base : Radix} (h : base.isDigit c = true) :
    isInert inClass c = true := by
  cases base <;> exact isInert_of_kind h (by decide) (by decide)

theorem Stands.fixedHexDigits {count : Nat} {digits : List Char} (h : Stands inClass opens calm st)
    (hrun : Pattern.fixedHexDigits count st = some (digits, st')) :
    Stands inClass opens calm st' := by
  induction count generalizing st digits with
  | zero =>
    obtain ⟨-, rfl⟩ := pure_inv hrun
    exact h
  | succ count ih =>
    rw [Pattern.fixedHexDigits] at hrun
    obtain ⟨c, cs, hrest, hrun⟩ := current_bind_inv hrun
    obtain ⟨hdigit, hrun⟩ := require_bind_inv hrun
    obtain ⟨_, mid, hover, hrun⟩ := bind_inv hrun
    obtain ⟨others, last, hothers, hrun⟩ := bind_inv hrun
    obtain ⟨rfl, rfl⟩ := pure_inv hrun
    exact ih ((h.nears hrest (isInert_of_isDigit hdigit)).bumpOver hover) hothers

theorem Nears.hexEscape {count : Nat} {l : Literal} (h : Nears inClass opens calm st)
    (hrun : Pattern.hexEscape count st = some (l, st')) : Stands inClass opens calm st' := by
  rw [Pattern.hexEscape] at hrun
  obtain ⟨c, here, hto, hrun⟩ := bind_inv hrun
  obtain ⟨hhere, cs, hrest⟩ := h.bumpTo hto
  split_ifs at hrun with hbrace
  · rw [beq_iff_eq.mp hbrace] at hrest
    obtain ⟨_, inside, hover, hrun⟩ := bind_inv hrun
    obtain ⟨digits, behind, hdigits, hrun⟩ := bind_inv hrun
    obtain ⟨c, cs, hclose, hrun⟩ := current_bind_inv hrun
    obtain ⟨hc, hrun⟩ := require_bind_inv hrun
    obtain ⟨_, last, hend, hrun⟩ := bind_inv hrun
    obtain ⟨_, -, hrun⟩ := liftOption_bind_inv hrun
    obtain ⟨-, rfl⟩ := pure_inv hrun
    rw [beq_iff_eq.mp hc] at hclose
    have hinside := (hhere.nears hrest (by simp [isInert])).bumpOver hover
    have hbehind := hinside.collectAll hdigits fun c a _ ha => by
      unfold hexDigit? at ha
      split_ifs at ha with hdigit
      exact isInert_of_isDigit hdigit
    exact (hbehind.nears hclose (by simp [isInert])).bumpOver hend
  · obtain ⟨digits, behind, hdigits, hrun⟩ := bind_inv hrun
    obtain ⟨_, -, hrun⟩ := liftOption_bind_inv hrun
    obtain ⟨-, rfl⟩ := pure_inv hrun
    exact hhere.fixedHexDigits hdigits

/-- The atom names no property with a bracket or a backslash in its name. -/
def Atom.Inert : Atom → Prop
  | .property name _ => name.Inert
  | _ => True

theorem Nears.propertyEscape {negated : Bool} {a : Atom} (h : Nears inClass opens calm st)
    (hrun : Pattern.propertyEscape negated st = some (a, st')) (ha : a.Inert) :
    Stands inClass opens calm st' := by
  rw [Pattern.propertyEscape] at hrun
  obtain ⟨c, here, hto, hrun⟩ := bind_inv hrun
  obtain ⟨hhere, cs, hrest⟩ := h.bumpTo hto
  split_ifs at hrun with hbrace
  · rw [beq_iff_eq.mp hbrace] at hrest
    obtain ⟨_, inside, hover, hrun⟩ := bind_inv hrun
    obtain ⟨name, behind, hname, hrun⟩ := bind_inv hrun
    obtain ⟨found, last, hclose, hrun⟩ := bind_inv hrun
    obtain ⟨-, hrun⟩ := require_bind_inv hrun
    obtain ⟨rfl, rfl⟩ := pure_inv hrun
    have hinert := isInert_of_splitProperty ha
    have hinside := (hhere.nears hrest (by simp [isInert])).bumpOver hover
    have hbehind := hinside.collectAll hname fun c a hmem hc => by
      split_ifs at hc
      obtain rfl := Option.some.inj hc
      exact isInert_of_false (hinert c hmem)
    exact hbehind.eatWord (by simp [isInert]) hclose
  · obtain ⟨-, hrun⟩ := require_bind_inv hrun
    obtain ⟨_, last, hover, hrun⟩ := bind_inv hrun
    obtain ⟨rfl, rfl⟩ := pure_inv hrun
    exact (hhere.nears hrest (isInert_of_false (ha c (by simp)))).bumpOver hover

theorem Stands.wordBoundary {edge : WordEdge} (h : Stands inClass opens calm st)
    (hrun : Pattern.wordBoundary st = some (edge, st')) : Stands inClass opens calm st' := by
  rw [Pattern.wordBoundary, peek_bind] at hrun
  split_ifs at hrun with hbrace
  · obtain ⟨-, rfl⟩ := pure_inv hrun
    exact h
  · rw [get_bind] at hrun
    obtain ⟨cs, hrest⟩ : ∃ cs, st.cursor.rest = '\x7b' :: cs :=
      List.head?_eq_some_iff.mp (by simpa using hbrace)
    obtain ⟨c, here, hto, hrun⟩ := bind_inv hrun
    have hhere := ((h.nears hrest (by simp [isInert])).bumpTo hto).1
    split_ifs at hrun with hc
    · obtain ⟨name, behind, hname, hrun⟩ := bind_inv hrun
      obtain ⟨found, last, hclose, hrun⟩ := bind_inv hrun
      obtain ⟨-, hrun⟩ := require_bind_inv hrun
      have hbehind := hhere.collectAll hname fun c a _ hc => by
        split_ifs at hc with hletter
        exact isInert_of_kind hletter (by decide) (by decide)
      obtain ⟨-, rfl⟩ := liftOption_inv hrun
      exact hbehind.eatWord (by simp [isInert]) hclose
    · obtain ⟨_, back, hset, hrun⟩ := bind_inv hrun
      obtain ⟨-, rfl⟩ := pure_inv hrun
      obtain ⟨-, rfl⟩ := pure_inv hset
      exact h

/-- An escape is read as a whole. -/
theorem Stands.escape {a : Atom} (h : Stands inClass opens calm st)
    (hrest : st.cursor.rest = '\\' :: cs) (hrun : Pattern.escape st = some (a, st'))
    (ha : a.Inert) : Stands inClass opens calm st' := by
  rw [Pattern.escape] at hrun
  obtain ⟨_, here, hbump, hrun⟩ := bind_inv hrun
  obtain ⟨hhere, hverbose⟩ := bump_inv hbump
  have hnears : Nears inClass opens calm here :=
    h.nears_of_backslash (by rw [hhere, hrest, List.tail_cons]) hverbose
  obtain ⟨c, ds, -, hrun⟩ := current_bind_inv hrun
  -- the letters with more behind them
  have hhex : ∀ {count}, (do return .literal (← hexEscape count) : Reader Atom) here =
      some (a, st') → Stands inClass opens calm st' := by
    intro count hrun
    obtain ⟨l, last, hhex, hrun⟩ := bind_inv (x := hexEscape count) hrun
    obtain ⟨-, rfl⟩ := pure_inv hrun
    exact hnears.hexEscape hhex
  obtain ⟨-, hrun⟩ | ⟨-, hrun⟩ := ite_inv hrun
  · exact hhex hrun
  obtain ⟨-, hrun⟩ | ⟨-, hrun⟩ := ite_inv hrun
  · exact hhex hrun
  obtain ⟨-, hrun⟩ | ⟨-, hrun⟩ := ite_inv hrun
  · exact hhex hrun
  obtain ⟨-, hrun⟩ | ⟨-, hrun⟩ := ite_inv hrun
  · exact hnears.propertyEscape hrun ha
  obtain ⟨-, hrun⟩ | ⟨-, hrun⟩ := ite_inv hrun
  · exact hnears.propertyEscape hrun ha
  -- the others, of which only one may have a name behind it
  obtain ⟨_, last, hlast, hrun⟩ := bind_inv hrun
  have hstands : Stands inClass opens calm last := hnears.bump hlast
  have hdone : ∀ {b : Atom}, (pure b : Reader Atom) last = some (a, st') →
      Stands inClass opens calm st' := fun hrun => (pure_inv hrun).2 ▸ hstands
  obtain ⟨-, hrun⟩ | ⟨-, hrun⟩ := ite_inv hrun
  · exact hdone hrun
  generalize controlLetter? c = control at hrun
  cases control with
  | some control => exact hdone hrun
  | none =>
    generalize shorthandLetter? c = shorthand at hrun
    cases shorthand with
    | some found => exact hdone hrun
    | none =>
      obtain ⟨-, hrun⟩ | ⟨-, hrun⟩ := ite_inv hrun
      · exact hdone hrun
      obtain ⟨-, hrun⟩ | ⟨-, hrun⟩ := ite_inv hrun
      · exact hdone hrun
      obtain ⟨-, hrun⟩ | ⟨-, hrun⟩ := ite_inv hrun
      · obtain ⟨edge, behind, hedge, hrun⟩ := bind_inv hrun
        obtain ⟨-, rfl⟩ := pure_inv hrun
        exact hstands.wordBoundary hedge
      obtain ⟨-, hrun⟩ | ⟨-, hrun⟩ := ite_inv hrun
      · exact hdone hrun
      obtain ⟨-, hrun⟩ | ⟨-, hrun⟩ := ite_inv hrun
      · exact hdone hrun
      obtain ⟨-, hrun⟩ | ⟨-, hrun⟩ := ite_inv hrun
      · exact hdone hrun
      · exact (fail_inv hrun).elim

theorem Stands.atom {a : Atom} (h : Stands false opens calm st) (hrest : st.cursor.rest = c :: cs)
    (hopen : c ≠ '[') (hrun : Pattern.atom st = some (a, st')) (ha : a.Inert) :
    Stands false opens calm st' := by
  rw [Pattern.atom] at hrun
  obtain ⟨d, ds, hhead, hrun⟩ := current_bind_inv hrun
  obtain ⟨rfl, rfl⟩ := List.cons.inj (hrest.symm.trans hhead)
  rcases ite_inv hrun with ⟨hback, hrun⟩ | ⟨hback, hrun⟩
  · rw [beq_iff_eq.mp hback] at hrest
    exact h.escape hrest hrun ha
  · obtain ⟨_, last, hbump, hrun⟩ := bind_inv hrun
    have hc : isInert false c = true := isInert_false_iff.mpr ⟨by simpa using hback, hopen⟩
    have hlast := (h.nears hrest hc).bump hbump
    split_ifs at hrun <;> exact (pure_inv hrun).2 ▸ hlast

end ScriptLiterals.Pattern
