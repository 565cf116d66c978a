import ScriptLiterals.Pattern.Meaning
import ScriptLiterals.Proofs.Text

/-!
# Taking a run of the pattern reader apart

A reader is a function on states that may fail, so a successful run of a `do` block is a successful
run of each of its steps (`bind_inv`). There is one inversion lemma for each of the readers the rest
is made of; a step that only looks at the state is taken off together with the bind behind it. The
lemmas speak of the text still to come and of the mode in which blanks are ignored: the text already
passed and the names of groups play no part in what follows.
-/

set_option autoImplicit false

namespace ScriptLiterals

/-- What is left behind a word is the text without it. -/
theorem Cursor.rest_of_eatWord {word : List Char} {c cursor : Cursor}
    (h : c.eatWord word = some cursor) : c.rest = word ++ cursor.rest := by
  induction word generalizing c with
  | nil =>
    obtain rfl := Option.some.inj h
    rfl
  | cons d word ih =>
    obtain ⟨next, hnext, hword⟩ := Option.bind_eq_some_iff.mp h
    have hrest : c.rest = d :: next.rest := by
      unfold eat at hnext
      split at hnext
      · exact absurd hnext (by simp)
      · rename_i hcons
        split_ifs at hnext with hd
        rw [hcons, hd, ← Option.some.inj hnext]
    rw [hrest, ih hword]
    rfl

namespace Pattern.Reader

open Text

variable {α β : Type} {st st' : ReaderState} {r : β × ReaderState}

/-! ## Steps in a row -/

/-- A run of two steps is a run of the first and a run of the second. -/
theorem bind_inv {x : Reader α} {f : α → Reader β} (h : (x >>= f) st = some r) :
    ∃ a mid, x st = some (a, mid) ∧ f a mid = some r := by
  change (x st).bind (fun found => f found.1 found.2) = some r at h
  obtain ⟨⟨a, mid⟩, hx, hf⟩ := Option.bind_eq_some_iff.mp h
  exact ⟨a, mid, hx, hf⟩

theorem pure_inv {a b : α} (h : (pure a : Reader α) st = some (b, st')) : b = a ∧ st' = st := by
  obtain ⟨rfl, rfl⟩ := Prod.mk.inj (Option.some.inj h)
  exact ⟨rfl, rfl⟩

theorem fail_inv {a : α} (h : (fail : Reader α) st = some (a, st')) : False :=
  absurd h (by simp [fail])

theorem discard_inv {x : Reader α} {u : Unit} (h : discard x st = some (u, st')) :
    ∃ a, x st = some (a, st') := by
  change (x st).bind (fun found => some ((), found.2)) = some (u, st') at h
  obtain ⟨⟨a, mid⟩, hx, hmid⟩ := Option.bind_eq_some_iff.mp h
  obtain ⟨-, rfl⟩ := Prod.mk.inj (Option.some.inj hmid)
  exact ⟨a, hx⟩

/-- A run of the one step or the other. -/
theorem ite_inv {p : Prop} [Decidable p] {x y : Reader β} (h : (if p then x else y) st = some r) :
    (p ∧ x st = some r) ∨ (¬p ∧ y st = some r) := by
  by_cases hp : p
  · exact Or.inl ⟨hp, by rwa [if_pos hp] at h⟩
  · exact Or.inr ⟨hp, by rwa [if_neg hp] at h⟩

/-! ## Steps that only look -/

theorem get_bind (f : ReaderState → Reader β) (st : ReaderState) :
    ((get : Reader ReaderState) >>= f) st = f st st := rfl

theorem peek_bind (f : Option Char → Reader β) (st : ReaderState) :
    (peek >>= f) st = f st.cursor.rest.head? st := rfl

theorem current_inv {c : Char} (h : current st = some (c, st')) :
    st' = st ∧ ∃ cs, st.cursor.rest = c :: cs := by
  rw [current, peek_bind] at h
  cases hrest : st.cursor.rest with
  | nil =>
    rw [hrest] at h
    exact (fail_inv h).elim
  | cons d cs =>
    rw [hrest] at h
    obtain ⟨rfl, rfl⟩ := pure_inv h
    exact ⟨rfl, cs, rfl⟩

theorem current_bind_inv {f : Char → Reader β} (h : (current >>= f) st = some r) :
    ∃ c cs, st.cursor.rest = c :: cs ∧ f c st = some r := by
  obtain ⟨c, mid, hcurrent, hf⟩ := bind_inv h
  obtain ⟨rfl, cs, hrest⟩ := current_inv hcurrent
  exact ⟨c, cs, hrest, hf⟩

theorem require_bind_inv {condition : Bool} {f : Unit → Reader β}
    (h : (require condition >>= f) st = some r) : condition = true ∧ f () st = some r := by
  cases condition with
  | true => exact ⟨rfl, h⟩
  | false => exact absurd h (by simp [require, fail, bind, StateT.bind])

theorem liftOption_inv {o : Option α} {a : α} (h : liftOption o st = some (a, st')) :
    o = some a ∧ st' = st := by
  cases o with
  | none => exact absurd h (by simp [liftOption, fail])
  | some b =>
    obtain ⟨rfl, rfl⟩ := pure_inv h
    exact ⟨rfl, rfl⟩

theorem liftOption_bind_inv {o : Option α} {f : α → Reader β}
    (h : (liftOption o >>= f) st = some r) : ∃ a, o = some a ∧ f a st = some r := by
  obtain ⟨a, mid, hlift, hf⟩ := bind_inv h
  obtain ⟨ho, rfl⟩ := liftOption_inv hlift
  exact ⟨a, ho, hf⟩

theorem peekOver_bind_inv {f : Option Char → Reader β} (h : (peekOver >>= f) st = some r) :
    ∃ behind, f behind st = some r := by
  obtain ⟨behind, mid, hpeek, hf⟩ := bind_inv h
  rw [peekOver, get_bind] at hpeek
  have hmid : mid = st := by
    generalize skipBlank st.cursor.rest.tail = later at hpeek
    split at hpeek
    · exact (pure_inv hpeek).2
    · split at hpeek <;> exact (pure_inv hpeek).2
  rw [hmid] at hf
  exact ⟨behind, hf⟩

/-! ## Steps that move on -/

theorem bump_inv {u : Unit} (h : bump st = some (u, st')) :
    st'.cursor.rest = st.cursor.rest.tail ∧ st'.verbose = st.verbose := by
  obtain ⟨-, rfl⟩ := pure_inv h
  cases hrest : st.cursor.rest <;> simp [Cursor.advance, hrest]

theorem eatWord_inv {word : List Char} {found : Bool} (h : eatWord word st = some (found, st')) :
    (found = true ∧ st.cursor.rest = word ++ st'.cursor.rest ∧ st'.verbose = st.verbose) ∨
      (found = false ∧ st' = st) := by
  rw [eatWord, get_bind] at h
  cases hword : st.cursor.eatWord word with
  | none =>
    rw [hword] at h
    exact Or.inr (pure_inv h)
  | some cursor =>
    rw [hword] at h
    obtain ⟨u, mid, hset, hfound⟩ := bind_inv h
    obtain ⟨rfl, rfl⟩ := pure_inv hfound
    obtain ⟨-, rfl⟩ := pure_inv hset
    exact Or.inl ⟨rfl, Cursor.rest_of_eatWord hword, rfl⟩

theorem rest_of_eatWord {word : List Char} (h : eatWord word st = some (true, st')) :
    st.cursor.rest = word ++ st'.cursor.rest ∧ st'.verbose = st.verbose := by
  obtain ⟨-, hrest, hverbose⟩ | ⟨hno, -⟩ := eatWord_inv h
  · exact ⟨hrest, hverbose⟩
  · exact absurd hno (by simp)

/-- Where the word does not come, the reader stays where it is. -/
theorem eatWord_bind_inv {word : List Char} {f : Bool → Reader β}
    (h : (eatWord word >>= f) st = some r) :
    (∃ mid, eatWord word st = some (true, mid) ∧ f true mid = some r) ∨ f false st = some r := by
  obtain ⟨found, mid, heat, hf⟩ := bind_inv h
  obtain ⟨rfl, -⟩ | ⟨rfl, rfl⟩ := eatWord_inv heat
  · exact Or.inl ⟨mid, heat, hf⟩
  · exact Or.inr hf

theorem takeWhile_inv {p : Char → Bool} {run : List Char} (h : takeWhile p st = some (run, st')) :
    st.cursor.rest = run ++ st'.cursor.rest ∧ (∀ c ∈ run, p c = true) ∧
      st'.verbose = st.verbose := by
  rw [takeWhile, get_bind] at h
  obtain ⟨u, mid, hset, hrun⟩ := bind_inv h
  obtain ⟨rfl, rfl⟩ := pure_inv hrun
  obtain ⟨-, rfl⟩ := pure_inv hset
  have htake : (st.cursor.skipWhile p).since st.cursor = st.cursor.rest.takeWhile p := by
    simp [Cursor.skipWhile, Cursor.since]
  rw [htake]
  exact ⟨List.takeWhile_append_dropWhile.symm, fun c hc => List.mem_takeWhile_imp hc, rfl⟩

theorem skipIgnored_inv {u : Unit} (h : skipIgnored st = some (u, st')) :
    st'.verbose = st.verbose ∧ st'.cursor.rest =
      if st.verbose then st.cursor.rest.drop (ignoredLength false st.cursor.rest)
      else st.cursor.rest := by
  obtain ⟨-, rfl⟩ := pure_inv h
  cases hverbose : st.verbose <;> simp [hverbose]

end Pattern.Reader

namespace Pattern

open Reader

/-! ## What comes first -/

/-- There is nothing before a repetition that comes first. -/
theorem parse?_star (cs : List Char) : parse? ('*' :: cs) = none := by
  rw [Option.eq_none_iff_forall_ne_some]
  intro node h
  obtain ⟨⟨node, st⟩, hrun, -⟩ := Option.bind_eq_some_iff.mp h
  obtain ⟨branch, _, hbranch, -⟩ := bind_inv (x := sequence _ []) hrun
  obtain ⟨_, here, hskip, hbranch⟩ := bind_inv (x := skipIgnored) hbranch
  obtain ⟨-, hrest⟩ := skipIgnored_inv hskip
  have hhead : here.cursor.rest.head? = some '*' := by rw [hrest]; rfl
  rw [peek_bind, hhead] at hbranch
  obtain ⟨repeated, later, hrepeated, hbranch⟩ := bind_inv (x := repetition?) hbranch
  rw [repetition?] at hrepeated
  obtain ⟨bounds, behind, hbounds, hrepeated⟩ := bind_inv hrepeated
  rw [bounds?, peek_bind, hhead] at hbounds
  obtain ⟨_, _, -, hbounds⟩ := bind_inv (x := bump) hbounds
  obtain ⟨rfl, -⟩ := pure_inv hbounds
  obtain ⟨_, _, -, hrepeated⟩ := bind_inv (x := eat '?') hrepeated
  obtain ⟨rfl, -⟩ := pure_inv hrepeated
  exact fail_inv hbranch

end Pattern

end ScriptLiterals
