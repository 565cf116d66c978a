import Mathlib.Data.List.Nodup
import Mathlib.Data.Set.List
import ScriptLiterals.Proofs.Regexp.Grammar
import ScriptLiterals.Proofs.Regexp.RoundTrip

/-!
# Flags from letters

Letters become flags in two places. `ofLetters?` is given a text and takes all of it or nothing;
`readRun` goes along a text for as long as flags come. Both put one flag after another into a set and
ask the set whether a flag has come before, so whatever is said about them by induction has to be said
about any set to begin with.

`Adds` says what both do without a set that grows: a list of flags, none of them twice and none of
them there before, turns one set into another. `addLetters?_eq_some_iff` reads the letters as such a
list, and what the printer does with a set is then a fact about lists: its letters are the letters
that were read, sorted. The run of a reader is the longest text that `ofLetters?` takes
(`isLongestRun_readRun`): both stop at the same letter, and a text with that letter in it is refused
whatever stands behind it.
-/

set_option autoImplicit false

namespace ScriptLiterals

open Text

/-! ## Letters -/

namespace RegexpFlag

variable {c : Char} {flag : RegexpFlag}

theorem ofLetter?_eq_some_iff : ofLetter? c = some flag ↔ c = flag.letter := by
  constructor
  · intro h
    have hletter := List.find?_some h
    exact (eq_of_beq hletter).symm
  · rintro rfl
    exact ofLetter?_letter flag

theorem letter_injective : Function.Injective letter := by
  intro flag flag' h
  have hsome := ofLetter?_eq_some_iff.mpr h
  rw [ofLetter?_letter] at hsome
  exact Option.some.inj hsome

theorem mem_all (flag : RegexpFlag) : flag ∈ all := by
  cases flag <;> decide

theorem nodup_all : all.Nodup := by
  decide

end RegexpFlag

namespace RegexpFlags

open RegexpFlag (letter)

variable {flags all : RegexpFlags} {flag : RegexpFlag} {run : List RegexpFlag}
  {letters cs text : List Char}

/-! ## Sets of flags -/

theorem contains_none (flag : RegexpFlag) : none.contains flag = false := by
  cases flag <;> rfl

theorem contains_insert (flags : RegexpFlags) (flag other : RegexpFlag) :
    (flags.insert flag).contains other = (decide (other = flag) || flags.contains other) := by
  cases flag <;> cases other <;> rfl

/-- A set of flags is the flags that it has. -/
theorem eq_of_contains (h : ∀ flag, flags.contains flag = all.contains flag) : flags = all := by
  cases flags
  cases all
  simp only [mk.injEq]
  exact ⟨h .global, h .ignoreCase, h .multiline, h .dotAll, h .unicode, h .sticky⟩

/-- The flags of the list are new to the first set, none comes twice, and with them it is the second
set. -/
structure Adds (flags : RegexpFlags) (run : List RegexpFlag) (all : RegexpFlags) : Prop where
  nodup : run.Nodup
  new : ∀ flag ∈ run, flags.contains flag = false
  contains_iff : ∀ flag, all.contains flag = true ↔ flags.contains flag = true ∨ flag ∈ run

theorem adds_nil_iff : Adds flags [] all ↔ flags = all := by
  constructor
  · intro h
    refine eq_of_contains fun flag => Bool.eq_iff_iff.mpr ?_
    simpa using (h.contains_iff flag).symm
  · rintro rfl
    exact ⟨List.nodup_nil, by simp, by simp⟩

/-- **One flag is put in front of the others** if it is new, and is then one that the others must
not be. -/
theorem adds_cons_iff : Adds flags (flag :: run) all ↔
    flags.contains flag = false ∧ Adds (flags.insert flag) run all := by
  constructor
  · intro h
    obtain ⟨hnotMem, hnodup⟩ := List.nodup_cons.mp h.nodup
    refine ⟨h.new flag (by simp), hnodup, ?_, ?_⟩
    · intro other hother
      have hne : other ≠ flag := fun heq => hnotMem (heq ▸ hother)
      simp [contains_insert, hne, h.new other (by simp [hother])]
    · intro other
      rw [h.contains_iff, contains_insert, List.mem_cons, Bool.or_eq_true, decide_eq_true_eq]
      tauto
  · intro h
    obtain ⟨hnew, hrest⟩ := h
    refine ⟨List.nodup_cons.mpr ⟨?_, hrest.nodup⟩, ?_, ?_⟩
    · intro hmem
      have hfalse := hrest.new flag hmem
      simp [contains_insert] at hfalse
    · intro other hother
      rcases List.mem_cons.mp hother with rfl | hother
      · exact hnew
      · have hfalse := hrest.new other hother
        rw [contains_insert, Bool.or_eq_false_iff] at hfalse
        exact hfalse.2
    · intro other
      rw [hrest.contains_iff, contains_insert, List.mem_cons, Bool.or_eq_true, decide_eq_true_eq]
      tauto

/-- Flags that are new and different can be added. -/
theorem exists_adds (hnodup : run.Nodup) (hnew : ∀ flag ∈ run, flags.contains flag = false) :
    ∃ all, Adds flags run all := by
  induction run generalizing flags with
  | nil => exact ⟨flags, adds_nil_iff.mpr rfl⟩
  | cons flag run ih =>
    obtain ⟨hnotMem, hnodup⟩ := List.nodup_cons.mp hnodup
    have hrest : ∀ other ∈ run, (flags.insert flag).contains other = false := by
      intro other hother
      have hne : other ≠ flag := fun heq => hnotMem (heq ▸ hother)
      simp [contains_insert, hne, hnew other (by simp [hother])]
    obtain ⟨all, hall⟩ := ih hnodup hrest
    exact ⟨all, adds_cons_iff.mpr ⟨hnew flag (by simp), hall⟩⟩

/-! ## A text that is all flags -/

theorem addLetters?_cons (flags : RegexpFlags) (flag : RegexpFlag) (letters : List Char) :
    flags.addLetters? (flag.letter :: letters) =
      if flags.contains flag then Option.none else (flags.insert flag).addLetters? letters := by
  rw [addLetters?, RegexpFlag.ofLetter?_letter]

/-- **A text is taken if it is the letters of flags that can be added.** -/
theorem addLetters?_eq_some_iff : flags.addLetters? letters = some all ↔
    ∃ run : List RegexpFlag, letters = run.map letter ∧ Adds flags run all := by
  constructor
  · intro h
    induction letters generalizing flags with
    | nil => exact ⟨[], rfl, adds_nil_iff.mpr (Option.some.inj h)⟩
    | cons c letters ih =>
      cases hflag : RegexpFlag.ofLetter? c with
      | none =>
        rw [addLetters?, hflag] at h
        exact absurd h (by simp)
      | some flag =>
        obtain rfl := RegexpFlag.ofLetter?_eq_some_iff.mp hflag
        rw [addLetters?_cons] at h
        split at h
        · exact absurd h (by simp)
        · rename_i hnew
          obtain ⟨run, rfl, hrun⟩ := ih h
          exact ⟨flag :: run, rfl, adds_cons_iff.mpr ⟨Bool.eq_false_iff.mpr hnew, hrun⟩⟩
  · intro h
    obtain ⟨run, rfl, hrun⟩ := h
    induction run generalizing flags with
    | nil => exact congrArg some (adds_nil_iff.mp hrun)
    | cons flag run ih =>
      obtain ⟨hnew, hrest⟩ := adds_cons_iff.mp hrun
      rw [List.map_cons, addLetters?_cons, hnew]
      exact ih hrest

/-- **The texts of flags are those of different letters**, each of them one of the six. -/
theorem isSome_ofLetters?_iff : (ofLetters? letters).isSome = true ↔
    letters.Nodup ∧ ∀ c ∈ letters, c ∈ RegexpFlag.all.map letter := by
  constructor
  · intro h
    obtain ⟨all, hall⟩ := Option.isSome_iff_exists.mp h
    obtain ⟨run, rfl, hrun⟩ := addLetters?_eq_some_iff.mp hall
    refine ⟨hrun.nodup.map RegexpFlag.letter_injective, ?_⟩
    intro c hc
    obtain ⟨flag, -, rfl⟩ := List.mem_map.mp hc
    exact List.mem_map_of_mem (RegexpFlag.mem_all flag)
  · intro h
    obtain ⟨hnodup, hmem⟩ := h
    have hrange : letters ∈ Set.range (List.map letter) := by
      rw [Set.range_list_map]
      intro c hc
      obtain ⟨flag, -, hflag⟩ := List.mem_map.mp (hmem c hc)
      exact ⟨flag, hflag⟩
    obtain ⟨run, rfl⟩ := hrange
    obtain ⟨all, hall⟩ := exists_adds hnodup.of_map fun flag _ => contains_none flag
    exact Option.isSome_iff_exists.mpr ⟨all, addLetters?_eq_some_iff.mpr ⟨run, rfl, hall⟩⟩

/-! ## The printed letters -/

/-- The letters of a set are the letters it was read from. -/
theorem letters_perm (h : ofLetters? letters = some flags) : flags.letters.Perm letters := by
  obtain ⟨run, rfl, hrun⟩ := addLetters?_eq_some_iff.mp h
  refine List.Perm.map letter ?_
  refine (List.perm_ext_iff_of_nodup (RegexpFlag.nodup_all.filter _) hrun.nodup).mpr ?_
  intro flag
  rw [List.mem_filter, hrun.contains_iff, contains_none]
  simp [RegexpFlag.mem_all]

/-- They stand in the order of the six. -/
theorem letters_sublist (flags : RegexpFlags) :
    flags.letters.Sublist (RegexpFlag.all.map letter) :=
  List.filter_sublist.map letter

/-! ## The run at the head of a text -/

/-- What a run has read is a text of flags, and the flags are those that the run answers with. -/
theorem addLetters?_readRun (flags : RegexpFlags) (cs : List Char) :
    flags.addLetters? (flags.readRun cs).1 = some (flags.readRun cs).2.1 := by
  fun_induction readRun flags cs with
  | case1 => rfl
  | case2 => rfl
  | case3 => rfl
  | case4 flags c cs flag hflag hnew run all rest hrun ih =>
    rw [hrun] at ih
    obtain rfl := RegexpFlag.ofLetter?_eq_some_iff.mp hflag
    rw [addLetters?_cons, if_neg hnew]
    exact ih

/-- **The run goes on for as long as any text of flags does.** -/
theorem prefix_readRun (htext : text <+: cs) (h : (flags.addLetters? text).isSome = true) :
    text <+: (flags.readRun cs).1 := by
  fun_induction readRun flags cs generalizing text with
  | case1 => exact htext
  | case2 flags c cs hflag =>
    -- the next letter stands for no flag, so no text of flags holds it
    cases text with
    | nil => exact List.nil_prefix
    | cons d text =>
      obtain ⟨rfl, -⟩ := List.cons_prefix_cons.mp htext
      rw [addLetters?, hflag] at h
      exact absurd h (by simp)
  | case3 flags c cs flag hflag hold =>
    -- or for one that is there already
    cases text with
    | nil => exact List.nil_prefix
    | cons d text =>
      obtain ⟨rfl, -⟩ := List.cons_prefix_cons.mp htext
      obtain rfl := RegexpFlag.ofLetter?_eq_some_iff.mp hflag
      rw [addLetters?_cons, if_pos hold] at h
      exact absurd h (by simp)
  | case4 flags c cs flag hflag hnew run all rest hrun ih =>
    rw [hrun] at ih
    cases text with
    | nil => exact List.nil_prefix
    | cons d text =>
      obtain ⟨rfl, hbehind⟩ := List.cons_prefix_cons.mp htext
      obtain rfl := RegexpFlag.ofLetter?_eq_some_iff.mp hflag
      rw [addLetters?_cons, if_neg hnew] at h
      exact List.cons_prefix_cons.mpr ⟨rfl, ih hbehind h⟩

/-- The longest text of flags that `text` begins with: all others are shorter beginnings of it. -/
structure IsLongestRun (run text : List Char) : Prop where
  begins : run <+: text
  accepted : (ofLetters? run).isSome = true
  longest : ∀ run', run' <+: text → (ofLetters? run').isSome = true → run' <+: run

theorem isLongestRun_readRun (text : List Char) : IsLongestRun (none.readRun text).1 text where
  begins := ⟨_, readRun_append none text⟩
  accepted := by rw [ofLetters?, addLetters?_readRun, Option.isSome_some]
  longest := fun _ => prefix_readRun

theorem ofLetters?_letters (flags : RegexpFlags) : ofLetters? flags.letters = some flags := by
  have hrun := addLetters?_readRun none flags.letters
  rwa [readRun_letters] at hrun

end RegexpFlags

/-! ## The flags of a literal -/

namespace Regexp

open RegexpFlags

theorem flags_of_read {cs : List Char} {found : Lexeme Regexp Unit} (h : read cs = .ok found) :
    ∃ body behind, IsLiteral cs body behind ∧
      found.source = '/' :: body ++ '/' :: (RegexpFlags.none.readRun behind).1 ∧
      found.value.flags = (RegexpFlags.none.readRun behind).2.1 := by
  obtain ⟨text, body, behind, value, rfl, hopens, hsplit, hvalue, rfl⟩ := read_eq_ok_iff.mp h
  exact ⟨body, behind, isLiteral_of_splitBody? hopens hsplit, rfl, (source_of_ofSource hvalue).2⟩

/-- **The run of flags behind a literal and the text of flags are the same thing.** The run at the
head of any text is the longest text of flags it begins with, and its flags are the flags of that
text. So a token takes the longest text of flags behind the slash that ends its pattern, and has these
flags. Texts of flags are the texts of different letters out of `gimsuy`; printed, the flags of such a
text are its letters in that order, and these are read as the same flags. -/
theorem scanHead_flags (input text letters : List Char) :
    IsLongestRun (RegexpFlags.none.readRun text).1 text ∧
    ofLetters? (RegexpFlags.none.readRun text).1 = some (RegexpFlags.none.readRun text).2.1 ∧
    (∀ t, recognizer.scanHead input = .ok t →
      ∃ body behind run, IsLiteral (skipBlank input) body behind ∧
        t.source = '/' :: body ++ '/' :: run ∧ IsLongestRun run behind ∧
        ofLetters? run = some t.value.flags) ∧
    ((ofLetters? letters).isSome = true ↔
      letters.Nodup ∧ ∀ c ∈ letters, c ∈ ['g', 'i', 'm', 's', 'u', 'y']) ∧
    ∀ flags, ofLetters? letters = some flags →
      flags.letters.Perm letters ∧ flags.letters.Sublist ['g', 'i', 'm', 's', 'u', 'y'] ∧
        ofLetters? flags.letters = some flags := by
  refine ⟨isLongestRun_readRun text, addLetters?_readRun .none text, ?_, isSome_ofLetters?_iff, ?_⟩
  · intro t ht
    obtain ⟨found, hread, rfl⟩ := Recognizer.scanHead_eq_ok_iff.mp ht
    obtain ⟨body, behind, hliteral, hsource, hflags⟩ := flags_of_read hread
    refine ⟨body, behind, _, hliteral, hsource, isLongestRun_readRun behind, ?_⟩
    exact (addLetters?_readRun .none behind).trans (congrArg some hflags.symm)
  · intro flags hflags
    exact ⟨letters_perm hflags, letters_sublist flags, ofLetters?_letters flags⟩

/-- A flag that comes again ends the run, although another flag is behind it. -/
theorem scanHead_flags_again :
    (∃ body behind run,
      IsLiteral (skipBlank ['/', 'a', '/', 'y', 'g', 'y', 'i']) body behind ∧
        ['/', 'a', '/', 'y', 'g'] = '/' :: body ++ '/' :: run ∧ IsLongestRun run behind ∧
        ofLetters? run = some { global := true, sticky := true }) ∧
      ofLetters? ['y', 'g'] = some { global := true, sticky := true } ∧
      List.Perm ['g', 'y'] ['y', 'g'] ∧
      ofLetters? ['y', 'g', 'y', 'i'] = Option.none := by
  have hscan : recognizer.scanHead ['/', 'a', '/', 'y', 'g', 'y', 'i'] =
      .ok ⟨['/', 'a', '/', 'y', 'g'], 0, 0,
        ⟨['a'], { global := true, sticky := true }, .literal ['a']⟩, ()⟩ := rfl
  have hflags := scanHead_flags ['/', 'a', '/', 'y', 'g', 'y', 'i'] [] ['y', 'g']
  exact ⟨hflags.2.2.1 _ hscan, rfl, (hflags.2.2.2.2 _ rfl).1, rfl⟩

end Regexp

end ScriptLiterals
