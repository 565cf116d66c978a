import ScriptLiterals.Proofs.Pattern.Classes

/-!
# A pattern leaves no class open

The rest of the reader: groups, repetitions, and the descent through branches and parts in a row. A
group is where brackets can stand that open no class, in its name or in a comment, and the only
place where comments can begin to be ignored; a pattern that hides no bracket there (`Regexp.Tame`)
leaves no class open behind it, if it has a meaning (`openAfter_of_parse?`).
-/

set_option autoImplicit false

namespace ScriptLiterals.Pattern

open Text Reader
open Regexp (BracketInComment Tame isInert isInert_false_iff isInert_of_kind isInert_of_notMem)

variable {opens calm : Bool} {st st' : ReaderState} {c : Char} {cs text : List Char}

/-! ## Groups -/

/-- No mode has a bracket or a backslash for its letter. -/
theorem isInert_of_flag? {flag : Flag} (h : flag? c = some flag) : isInert false c = true := by
  refine isInert_false_iff.mpr ⟨?_, ?_⟩
  · rintro rfl
    exact absurd h (by simp [flag?])
  · rintro rfl
    exact absurd h (by simp [flag?])

theorem eq_of_flag?_verbose (h : flag? c = some .verbose) : c = 'x' := by
  unfold flag? at h
  split_ifs at h <;> first | assumption | exact absurd h (by simp)

/-- The letters of modes are passed up to the character that ends them. If they turn comments on,
there is an `x` with nothing but letters of modes before it. -/
theorem flagChanges_inv {bound : Nat} {negated : Bool} {changes found : List FlagChange}
    (hrun : flagChanges bound negated changes st = some (found, st')) :
    ∃ run, st.cursor.rest = run ++ st'.cursor.rest ∧ st'.verbose = st.verbose ∧
      (∀ c ∈ run, isInert false c = true) ∧
      (∃ c cs, st'.cursor.rest = c :: cs ∧ isInert false c = true) ∧
      (⟨.verbose, true⟩ ∈ found → ⟨.verbose, true⟩ ∈ changes ∨ negated = false ∧
        ∃ modes rest, run = modes ++ 'x' :: rest ∧ ∀ c ∈ modes, (flag? c).isSome) := by
  induction bound generalizing st negated changes with
  | zero => exact (fail_inv hrun).elim
  | succ bound ih =>
    rw [flagChanges] at hrun
    obtain ⟨c, cs, hrest, hrun⟩ := current_bind_inv hrun
    rcases ite_inv hrun with ⟨hend, hrun⟩ | ⟨-, hrun⟩
    · obtain ⟨rfl, rfl⟩ := pure_inv hrun
      have hc : c = ':' ∨ c = ')' := by simpa using hend
      refine ⟨[], rfl, rfl, by simp, ⟨c, cs, hrest, ?_⟩, fun hmem => Or.inl (by simpa using hmem)⟩
      rcases hc with rfl | rfl <;> decide
    obtain ⟨_, here, hbump, hrun⟩ := bind_inv hrun
    obtain ⟨hhere, hverbose⟩ := bump_inv hbump
    rw [hrest, List.tail_cons] at hhere
    rcases ite_inv hrun with ⟨hdash, hrun⟩ | ⟨-, hrun⟩
    · obtain ⟨d, ds, -, hrun⟩ := current_bind_inv hrun
      obtain ⟨-, hrun⟩ := require_bind_inv hrun
      obtain ⟨run, hrun, hsame, hinert, hstop, hverb⟩ := ih hrun
      refine ⟨c :: run, by rw [hrest, ← hhere, hrun]; rfl, hsame.trans hverbose, ?_, hstop, ?_⟩
      · rw [beq_iff_eq.mp hdash]
        exact List.forall_mem_cons.mpr ⟨by decide, hinert⟩
      · exact fun hmem => (hverb hmem).imp_right fun h => absurd h.1 (by simp)
    · obtain ⟨flag, hflag, hrun⟩ := liftOption_bind_inv hrun
      obtain ⟨-, hrun⟩ := require_bind_inv hrun
      obtain ⟨run, hrun, hsame, hinert, hstop, hverb⟩ := ih hrun
      refine ⟨c :: run, by rw [hrest, ← hhere, hrun]; rfl, hsame.trans hverbose,
        List.forall_mem_cons.mpr ⟨isInert_of_flag? hflag, hinert⟩, hstop, fun hmem => ?_⟩
      rcases hverb hmem with hin | ⟨hpos, modes, rest, hmodes, hletters⟩
      · rcases List.mem_cons.mp hin with heq | hin
        · obtain ⟨rfl, hon⟩ := FlagChange.mk.inj heq
          refine Or.inr ⟨by simpa using hon, [], run, ?_, by simp⟩
          rw [eq_of_flag?_verbose hflag]
          rfl
        · exact Or.inl hin
      · exact Or.inr ⟨hpos, c :: modes, rest, by rw [hmodes]; rfl,
          List.forall_mem_cons.mpr ⟨by rw [hflag]; rfl, hletters⟩⟩

/-- The name of a group is passed with the `>` behind it. -/
theorem groupName_inv {u : Unit} (hrun : groupName st = some (u, st')) :
    ∃ name, st.cursor.rest = name ++ '>' :: st'.cursor.rest ∧ st'.verbose = st.verbose ∧
      '>' ∉ name ∧ '\\' ∉ name := by
  rw [groupName] at hrun
  obtain ⟨name, here, hname, hrun⟩ := bind_inv hrun
  obtain ⟨hrest, hchars, hverbose⟩ := takeWhile_inv hname
  obtain ⟨found, behind, hclose, hrun⟩ := bind_inv hrun
  obtain ⟨hfound, hnamed⟩ := require_bind_inv hrun
  rw [hfound] at hclose
  obtain ⟨heat, hsame⟩ := rest_of_eatWord hclose
  cases name with
  | nil => exact (fail_inv hnamed).elim
  | cons c cs =>
    obtain ⟨hletters, hnew⟩ := require_bind_inv hnamed
    rw [get_bind] at hnew
    obtain ⟨-, hset⟩ := require_bind_inv hnew
    obtain ⟨-, rfl⟩ := pure_inv hset
    obtain ⟨hfirst, hothers⟩ := Bool.and_eq_true_iff.mp hletters
    refine ⟨c :: cs, by rw [hrest, heat]; rfl, hsame.trans hverbose,
      fun hmem => absurd (hchars _ hmem) (by decide), fun hmem => ?_⟩
    rcases List.mem_cons.mp hmem with rfl | hmem
    · exact absurd hfirst (by decide)
    · exact absurd (List.all_eq_true.mp hothers _ hmem) (by decide)

theorem eq_of_forIn_eatWord {words : List (List Char)} {u : PUnit}
    (hrun : (forIn words PUnit.unit fun word _ => do
      if (← eatWord word) = true then do fail; pure (ForInStep.yield PUnit.unit)
      else pure (ForInStep.yield PUnit.unit) : Reader PUnit) st = some (u, st')) : st' = st := by
  induction words with
  | nil => exact (pure_inv hrun).2
  | cons word words ih =>
    rw [List.forIn_cons] at hrun
    obtain ⟨next, mid, hword, hloop⟩ := bind_inv hrun
    obtain ⟨found, here, heat, hword⟩ := bind_inv hword
    rcases ite_inv hword with ⟨-, hword⟩ | ⟨hno, hword⟩
    · obtain ⟨_, _, hfail, -⟩ := bind_inv hword
      exact (fail_inv hfail).elim
    · obtain ⟨rfl, rfl⟩ := pure_inv hword
      obtain ⟨hfound, -⟩ | ⟨-, rfl⟩ := eatWord_inv heat
      · exact absurd hfound hno
      · exact ih hloop

/-- What may follow the parenthesis of a group and the blanks behind it: no bracket in a name, and
none in a comment behind an `x` that turns comments on. -/
structure GroupTame (text : List Char) : Prop where
  name : ∀ {opener name rest}, text = opener ++ (name ++ '>' :: rest) →
    opener = ['?', '<'] ∨ opener = ['?', 'P', '<'] → '>' ∉ name → '[' ∉ name
  comment : ∀ {modes rest}, text = '?' :: (modes ++ 'x' :: rest) →
    (∀ c ∈ modes, (flag? c).isSome) → ¬BracketInComment rest

theorem Stands.groupTame {u v : Unit} {inside here : ReaderState}
    (h : Stands false opens calm st) (hparen : st.cursor.rest = '(' :: cs)
    (hbump : Reader.bump st = some (u, inside))
    (hskip : Reader.skipIgnored inside = some (v, here)) : GroupTame here.cursor.rest := by
  have hinside := (h.nears hparen (by decide)).bump hbump
  have hrest : st.cursor.rest = '(' :: inside.cursor.rest := by
    rw [(bump_inv hbump).1, hparen, List.tail_cons]
  rcases skipIgnored_cases hskip hinside.tame.one_line with ⟨blanks, hblank, hblanks⟩ | ⟨-, hnil, -⟩
  · rw [hblank] at hrest
    constructor
    · intro opener name rest htext hopener hclosed hmem
      refine h.tame.hides_none ⟨_, List.suffix_rfl, Or.inl
        ⟨blanks, opener, name, rest, ?_, hblanks, hopener, hmem, hclosed⟩⟩
      rw [hrest, htext, List.append_assoc, List.append_assoc]
    · intro modes rest htext hletters hholds
      exact h.tame.hides_none ⟨_, List.suffix_rfl, Or.inr
        ⟨blanks, modes, rest, by rw [hrest, htext], hblanks, hletters, hholds⟩⟩
  · rw [hnil]
    constructor
    · rintro opener name rest htext (rfl | rfl) <;> exact absurd htext (by simp)
    · exact fun htext => absurd htext (by simp)

theorem GroupTame.groupName {opener : List Char} {u : Unit} {here mid : ReaderState}
    (htame : GroupTame here.cursor.rest) (h : Stands false opens calm here)
    (hopener : opener = ['?', '<'] ∨ opener = ['?', 'P', '<'])
    (heat : eatWord opener here = some (true, mid))
    (hrun : Pattern.groupName mid = some (u, st')) :
    Stands false opens calm st' ∧ st'.verbose = here.verbose := by
  obtain ⟨hmid, hsame⟩ := rest_of_eatWord heat
  obtain ⟨name, hname, hsame', hclosed, hback⟩ := groupName_inv hrun
  rw [hname] at hmid
  have hplain := isInert_of_notMem hback (htame.name hmid hopener hclosed)
  have hopens : ∀ c ∈ opener, isInert false c = true := by
    rcases hopener with rfl | rfl <;> exact List.all_eq_true.mp rfl
  refine ⟨h.passed (opener ++ (name ++ ['>'])) (by simp [hmid]) (hsame'.trans hsame) ?_,
    hsame'.trans hsame⟩
  intro c hc
  rcases List.mem_append.mp hc with hc | hc
  · exact hopens c hc
  · rcases List.mem_append.mp hc with hc | hc
    · exact hplain c hc
    · rw [List.mem_singleton.mp hc]
      decide

theorem GroupTame.flagChanges {changes : List FlagChange} {bound : Nat} {here mid : ReaderState}
    (htame : GroupTame here.cursor.rest) (h : Stands false opens calm here)
    (heat : eat '?' here = some (true, mid))
    (hrun : Pattern.flagChanges bound false [] mid = some (changes, st')) :
    Stands false opens calm st' ∧ st'.verbose = here.verbose ∧
      (⟨.verbose, true⟩ ∈ changes → ¬BracketInComment st'.cursor.rest) ∧
      ∃ c cs, st'.cursor.rest = c :: cs ∧ isInert false c = true := by
  obtain ⟨hmid, hsame⟩ := rest_of_eatWord heat
  obtain ⟨run, hrun, hsame', hinert, hstop, hverb⟩ := flagChanges_inv hrun
  rw [hrun] at hmid
  refine ⟨h.passed ('?' :: run) hmid (hsame'.trans hsame)
    (List.forall_mem_cons.mpr ⟨by decide, hinert⟩), hsame'.trans hsame, fun hmem hholds => ?_,
    hstop⟩
  obtain hin | ⟨-, modes, rest, rfl, hletters⟩ := hverb hmem
  · exact absurd hin (by simp)
  · exact htame.comment (by rw [hmid]; simp) hletters
      (hholds.of_suffix (List.suffix_append rest _))

/-- **The head of a group is passed**, and if it turns comments on, no bracket comes in one. -/
theorem Stands.groupHead {head : GroupHead} (h : Stands false opens calm st)
    (hparen : st.cursor.rest = '(' :: cs) (hrun : Pattern.groupHead st = some (head, st')) :
    Stands false opens calm st' ∧ st'.verbose = st.verbose ∧
      (⟨.verbose, true⟩ ∈ head.changes → ¬BracketInComment st'.cursor.rest) := by
  rw [Pattern.groupHead] at hrun
  obtain ⟨_, inside, hbump, hrun⟩ := bind_inv hrun
  obtain ⟨_, here, hskip, hrun⟩ := bind_inv hrun
  obtain ⟨_, mid, hlooks, hrun⟩ := bind_inv hrun
  rw [eq_of_forIn_eatWord hlooks] at hrun
  have hhere := ((h.nears hparen (by decide)).bump hbump).skipIgnored hskip
  have hsame : here.verbose = st.verbose := (skipIgnored_inv hskip).1.trans (bump_inv hbump).2
  have htame := h.groupTame hparen hbump hskip
  rw [← hsame]
  -- a name, in one of its two spellings
  obtain ⟨mid, heat, hrun⟩ | hrun := eatWord_bind_inv hrun
  · obtain ⟨_, last, hname, hrun⟩ := bind_inv hrun
    obtain ⟨rfl, rfl⟩ := pure_inv hrun
    obtain ⟨hlast, hverbose⟩ := htame.groupName hhere (Or.inr rfl) heat hname
    exact ⟨hlast, hverbose, by simp [GroupHead.changes]⟩
  obtain ⟨mid, heat, hrun⟩ | hrun := eatWord_bind_inv hrun
  · obtain ⟨_, last, hname, hrun⟩ := bind_inv hrun
    obtain ⟨rfl, rfl⟩ := pure_inv hrun
    obtain ⟨hlast, hverbose⟩ := htame.groupName hhere (Or.inl rfl) heat hname
    exact ⟨hlast, hverbose, by simp [GroupHead.changes]⟩
  -- modes, or nothing
  obtain ⟨mid, heat, hrun⟩ | hrun := eatWord_bind_inv hrun
  · rw [if_pos rfl, get_bind] at hrun
    obtain ⟨changes, behind, hchanges, hrun⟩ := bind_inv hrun
    obtain ⟨hbehind, hverbose, hquiet, c, cs, hstop, hc⟩ := htame.flagChanges hhere heat hchanges
    obtain ⟨last, hclose, hrun⟩ | hrun := eatWord_bind_inv hrun
    · obtain ⟨-, hrun⟩ := require_bind_inv hrun
      obtain ⟨rfl, rfl⟩ := pure_inv hrun
      obtain ⟨hrest, hsame'⟩ := rest_of_eatWord hclose
      exact ⟨hbehind.eatWord (by decide) hclose, hsame'.trans hverbose,
        fun hmem hholds => hquiet hmem (hholds.of_suffix ⟨_, hrest.symm⟩)⟩
    · obtain ⟨_, last, hcolon, hrun⟩ := bind_inv hrun
      obtain ⟨rfl, rfl⟩ := pure_inv hrun
      obtain ⟨hrest, hsame'⟩ := bump_inv hcolon
      exact ⟨(hbehind.nears hstop hc).bump hcolon, hsame'.trans hverbose,
        fun hmem hholds => hquiet hmem (hholds.of_suffix (hrest ▸ List.tail_suffix _))⟩
  · obtain ⟨rfl, rfl⟩ := pure_inv hrun
    exact ⟨hhere, rfl, by simp [GroupHead.changes]⟩

/-! ## Repetitions -/

theorem Stands.repetitionCount? {found : Option Nat} (h : Stands false opens calm st)
    (hrun : Pattern.repetitionCount? st = some (found, st')) : Stands false opens calm st' := by
  rw [Pattern.repetitionCount?] at hrun
  obtain ⟨_, here, hblanks, hrun⟩ := bind_inv hrun
  obtain ⟨run, hblanks⟩ := discard_inv hblanks
  have hhere := h.takeWhile hblanks fun c hc =>
    isInert_of_isBlank ((takeWhile_inv hblanks).2.1 c hc)
  obtain ⟨digits, mid, hdigits, hrun⟩ := bind_inv hrun
  have hmid := hhere.collectAll hdigits fun c a _ hc => by
    split_ifs at hc with hdigit
    exact isInert_of_kind hdigit (by decide) (by decide)
  obtain ⟨_, last, hmore, hrun⟩ := bind_inv hrun
  obtain ⟨more, hmore⟩ := discard_inv hmore
  have hlast := hmid.collectAll hmore fun c a _ hc => by
    split_ifs at hc with hblank
    exact isInert_of_isBlank hblank
  rcases ite_inv hrun with ⟨-, hrun⟩ | ⟨-, hrun⟩
  · exact (pure_inv hrun).2 ▸ hlast
  · obtain ⟨-, hrun⟩ := require_bind_inv hrun
    exact (pure_inv hrun).2 ▸ hlast

theorem Stands.repetitionBounds {bounds : Nat × Option Nat} (h : Stands false opens calm st)
    (hbrace : st.cursor.rest = '\x7b' :: cs)
    (hrun : Pattern.repetitionBounds st = some (bounds, st')) : Stands false opens calm st' := by
  rw [Pattern.repetitionBounds] at hrun
  obtain ⟨_, here, hto, hrun⟩ := bind_inv hrun
  obtain ⟨_, hto⟩ := discard_inv hto
  have hhere := ((h.nears hbrace (by decide)).bumpTo hto).1
  obtain ⟨least?, mid, hleast, hrun⟩ := bind_inv hrun
  have hmid := hhere.repetitionCount? hleast
  obtain ⟨least, -, hrun⟩ := liftOption_bind_inv hrun
  obtain ⟨c, ds, hrest, hrun⟩ := current_bind_inv hrun
  -- the brace that closes
  have hclose : ∀ {found last}, Stands false opens calm last →
      (do
        require ((← current) == '\x7d')
        bumpOver
        return found : Reader (Nat × Option Nat)) last = some (bounds, st') →
      Stands false opens calm st' := by
    intro found last hlast hrun
    obtain ⟨d, es, hrest, hrun⟩ := current_bind_inv hrun
    obtain ⟨hd, hrun⟩ := require_bind_inv hrun
    rw [beq_iff_eq.mp hd] at hrest
    obtain ⟨_, end', hover, hrun⟩ := bind_inv hrun
    exact (pure_inv hrun).2 ▸ (hlast.nears hrest (by decide)).bumpOver hover
  rcases ite_inv hrun with ⟨hcomma, hrun⟩ | ⟨-, hrun⟩
  · rw [beq_iff_eq.mp hcomma] at hrest
    obtain ⟨e, behind, hto, hrun⟩ := bind_inv hrun
    have hbehind := ((hmid.nears hrest (by decide)).bumpTo hto).1
    rcases ite_inv hrun with ⟨-, hrun⟩ | ⟨-, hrun⟩
    · exact hclose hbehind hrun
    · obtain ⟨most?, last, hmost, hrun⟩ := bind_inv hrun
      obtain ⟨most, -, hrun⟩ := liftOption_bind_inv hrun
      obtain ⟨-, hrun⟩ := require_bind_inv hrun
      exact hclose (hbehind.repetitionCount? hmost) hrun
  · exact hclose hmid hrun

theorem bounds?_keeps {found : Option (Nat × Option Nat)}
    (hrun : bounds? st = some (found, st')) :
    (found = none → st' = st) ∧ (Stands false opens calm st → Stands false opens calm st') := by
  rw [bounds?, peek_bind] at hrun
  have hmark : ∀ {c bounds}, isInert false c = true → st.cursor.rest.head? = some c →
      (do bump; return some bounds : Reader (Option (Nat × Option Nat))) st = some (found, st') →
      (found = none → st' = st) ∧ (Stands false opens calm st → Stands false opens calm st') := by
    intro c bounds hc hhead hrun
    obtain ⟨cs, hrest⟩ := List.head?_eq_some_iff.mp hhead
    obtain ⟨_, last, hbump, hrun⟩ := bind_inv (x := bump) hrun
    obtain ⟨rfl, rfl⟩ := pure_inv hrun
    exact ⟨by simp, fun h => (h.nears hrest hc).bump hbump⟩
  generalize hnext : st.cursor.rest.head? = next at hrun
  split at hrun
  · exact hmark (by decide) hnext hrun
  · exact hmark (by decide) hnext hrun
  · exact hmark (by decide) hnext hrun
  · obtain ⟨cs, hrest⟩ := List.head?_eq_some_iff.mp hnext
    obtain ⟨bounds, last, hbounds, hrun⟩ := bind_inv hrun
    obtain ⟨rfl, rfl⟩ := pure_inv hrun
    exact ⟨by simp, fun h => h.repetitionBounds hrest hbounds⟩
  · obtain ⟨-, rfl⟩ := pure_inv hrun
    exact ⟨fun _ => rfl, id⟩

/-- A repetition is passed, or none comes and nothing is. -/
theorem repetition?_keeps {found : Option (Node → Node)}
    (hrun : repetition? st = some (found, st')) :
    ((found = none ∧ st' = st) ∨
        ∃ least most greedy, found = some fun body => .repetition least most greedy body) ∧
      (Stands false opens calm st → Stands false opens calm st') := by
  rw [repetition?] at hrun
  obtain ⟨bounds, here, hbounds, hrun⟩ := bind_inv hrun
  obtain ⟨hback, hkeeps⟩ := bounds?_keeps hbounds
  cases bounds with
  | none =>
    obtain ⟨rfl, rfl⟩ := pure_inv hrun
    exact ⟨Or.inl ⟨rfl, hback rfl⟩, hkeeps⟩
  | some bounds =>
    obtain ⟨lazy, last, heat, hrun⟩ := bind_inv hrun
    obtain ⟨rfl, rfl⟩ := pure_inv hrun
    exact ⟨Or.inr ⟨_, _, _, rfl⟩, fun h => (hkeeps h).eatWord (by decide) heat⟩

/-! ## The descent -/

theorem Atom.inert_of_toNode {a : Atom} (h : a.toNode.Meaningful) : a.Inert := by
  cases a with
  | property name negated => exact h.inert
  | _ => trivial

/-- A reader of branches or of parts in a row comes out in no class, as it went in. That what it had
read before has a meaning follows from what it makes of it in the end. -/
def Keeps (opens : Bool) (reader : List Node → Reader Node) : Prop :=
  ∀ {calm nodes st node st'}, reader nodes st = some (node, st') → node.Meaningful →
    (∀ node ∈ nodes, node.Meaningful) ∧ (Stands false opens calm st → Stands false opens calm st')

theorem keeps_alternatives_succ {bound : Nat} (hsequence : Keeps opens (sequence bound))
    (halternatives : Keeps opens (alternatives bound)) :
    Keeps opens (alternatives (bound + 1)) := by
  intro calm branches st node st' hrun hnode
  rw [alternatives] at hrun
  obtain ⟨branch, here, hbranch, hrun⟩ := bind_inv hrun
  obtain ⟨found, mid, heat, hrun⟩ := bind_inv hrun
  rcases ite_inv hrun with ⟨-, hrun⟩ | ⟨-, hrun⟩
  · obtain ⟨hbranches, hend⟩ := halternatives hrun hnode
    obtain ⟨hmeaning, hbranches⟩ := List.forall_mem_cons.mp hbranches
    refine ⟨hbranches, fun h => hend ?_⟩
    exact ((hsequence hbranch hmeaning).2 h).eatWord (by decide) heat
  · obtain ⟨rfl, rfl⟩ := pure_inv hrun
    have hall : ∀ node ∈ branch :: branches, node.Meaningful := fun node hmem =>
      hnode.of_ofBranches node (List.mem_reverse.mpr hmem)
    obtain ⟨hmeaning, hbranches⟩ := List.forall_mem_cons.mp hall
    exact ⟨hbranches, fun h => ((hsequence hbranch hmeaning).2 h).eatWord (by decide) heat⟩

/-- Inside a group comments may be ignored that were not outside. The reader then stands as before,
and what held outside is kept for the way out. -/
theorem Stands.enter {changes : List FlagChange} (h : Stands false opens calm st)
    (hquiet : ⟨.verbose, true⟩ ∈ changes → ¬BracketInComment st.cursor.rest) :
    Stands false opens (calm || st.verbose)
      { st with verbose := verboseAfter changes st.verbose } where
  tame := h.tame
  tracks := h.tracks
  quiet := by
    intro hverbose hholds
    have hcalm : ¬(st.verbose || calm) = true := fun hon => h.quiet hon hholds
    have hoff : st.verbose = false ∧ calm = false := by simpa using hcalm
    rw [hoff.1, hoff.2, verboseAfter] at hverbose
    cases hfind : changes.find? fun change => change.flag == .verbose with
    | none =>
      rw [hfind] at hverbose
      exact absurd hverbose (by simp)
    | some change =>
      rw [hfind] at hverbose
      have hflag : change.flag = .verbose := by simpa using List.find?_some hfind
      have hon : change.on = true := by simpa using hverbose
      refine hquiet ?_ hholds
      rw [← hflag, ← hon]
      exact List.mem_of_find?_eq_some hfind

theorem Stands.leave {outer : Bool} (h : Stands false opens (calm || outer) st) :
    Stands false opens calm { st with verbose := outer } where
  tame := h.tame
  tracks := h.tracks
  quiet := fun hverbose => h.quiet (by
    rw [Bool.or_comm outer] at hverbose
    rw [hverbose, Bool.or_true])

theorem Stands.forget {outer : Bool} (h : Stands false opens (calm || outer) st) :
    Stands false opens calm st where
  tame := h.tame
  tracks := h.tracks
  quiet := fun hverbose => h.quiet (by
    rw [← Bool.or_assoc, hverbose, Bool.true_or])

/-- The rest of a row behind the head of a group that is not only modes. -/
theorem keeps_group {bound : Nat} {outer : Bool} {parts : List Node} {node : Node}
    (head : GroupHead) (hsequence : Keeps opens (sequence bound))
    (halternatives : Keeps opens (alternatives bound))
    (hbody : ∀ {body}, (head.toNode body).Meaningful → body.Meaningful)
    (hrun : (do
      let body ← alternatives bound []
      require (← eat ')')
      modify fun st => { st with verbose := outer }
      sequence bound (head.toNode body :: parts) : Reader Node) st = some (node, st'))
    (hnode : node.Meaningful) :
    (∀ node ∈ parts, node.Meaningful) ∧
      (Stands false opens (calm || outer) st → Stands false opens calm st') := by
  obtain ⟨body, here, hinner, hrun⟩ := bind_inv hrun
  obtain ⟨found, behind, hclose, hrun⟩ := bind_inv hrun
  obtain ⟨-, hrun⟩ := require_bind_inv hrun
  obtain ⟨_, outside, hmodify, hrun⟩ := bind_inv hrun
  obtain ⟨-, rfl⟩ := pure_inv hmodify
  obtain ⟨hparts, hend⟩ := hsequence hrun hnode
  obtain ⟨hmeaning, hparts⟩ := List.forall_mem_cons.mp hparts
  refine ⟨hparts, fun h => hend (Stands.leave ?_)⟩
  exact ((halternatives hinner (hbody hmeaning)).2 h).eatWord (by decide) hclose

theorem keeps_sequence_succ {bound : Nat} (hsequence : Keeps opens (sequence bound))
    (halternatives : Keeps opens (alternatives bound)) : Keeps opens (sequence (bound + 1)) := by
  intro calm parts st node st' hrun hnode
  rw [sequence] at hrun
  obtain ⟨_, here, hskip, hrun⟩ := bind_inv hrun
  rw [peek_bind] at hrun
  have hstop : (pure (.ofParts parts.reverse) : Reader Node) here = some (node, st') →
      (∀ node ∈ parts, node.Meaningful) ∧
        (Stands false opens calm st → Stands false opens calm st') := by
    intro hrun
    obtain ⟨rfl, rfl⟩ := pure_inv hrun
    exact ⟨fun node hmem => hnode.of_ofParts node (List.mem_reverse.mpr hmem),
      fun h => h.skipIgnored hskip⟩
  generalize hnext : here.cursor.rest.head? = next at hrun
  split at hrun
  · exact hstop hrun
  · exact hstop hrun
  · exact hstop hrun
  -- a group: what held outside of it is remembered until the reader is out again
  · obtain ⟨cs, hparen⟩ := List.head?_eq_some_iff.mp hnext
    rw [get_bind] at hrun
    obtain ⟨head, mid, hhead, hrun⟩ := bind_inv hrun
    obtain ⟨_, inside, hmodify, hrun⟩ := bind_inv hrun
    obtain ⟨-, rfl⟩ := pure_inv hmodify
    have henter : Stands false opens calm st → Stands false opens (calm || here.verbose)
        { mid with verbose := verboseAfter head.changes here.verbose } := by
      intro h
      obtain ⟨hmid, hsame, hquiet⟩ := (h.skipIgnored hskip).groupHead hparen hhead
      rw [← hsame]
      exact hmid.enter hquiet
    cases head with
    | flags changes =>
      obtain ⟨hparts, hend⟩ := hsequence hrun hnode
      exact ⟨(List.forall_mem_cons.mp hparts).2, fun h => hend (henter h).forget⟩
    | capture =>
      obtain ⟨hparts, hend⟩ :=
        keeps_group .capture hsequence halternatives (·.of_capture) hrun hnode
      exact ⟨hparts, fun h => hend (henter h)⟩
    | group changes =>
      obtain ⟨hparts, hend⟩ :=
        keeps_group (.group changes) hsequence halternatives (·.of_group) hrun hnode
      exact ⟨hparts, fun h => hend (henter h)⟩
  · obtain ⟨cs, hopen⟩ := List.head?_eq_some_iff.mp hnext
    obtain ⟨⟨negated, items⟩, behind, hclass, hrun⟩ := bind_inv hrun
    obtain ⟨hparts, hend⟩ := hsequence hrun hnode
    obtain ⟨hmeaning, hparts⟩ := List.forall_mem_cons.mp hparts
    exact ⟨hparts, fun h => hend ((classKeeps opens bound).1 hclass hmeaning.of_bracket
      ((h.skipIgnored hskip).nears_opening hopen))⟩
  -- a repetition of the part before, or an atom
  · rename_i c hbar hclose hparen hopen
    obtain ⟨cs, hrest⟩ := List.head?_eq_some_iff.mp hnext
    obtain ⟨found, mid, hrepetition, hrun⟩ := bind_inv hrun
    obtain ⟨hfound, hkeeps⟩ := repetition?_keeps hrepetition
    obtain ⟨rfl, hback⟩ | ⟨least, most, greedy, rfl⟩ := hfound
    · obtain ⟨a, behind, hatom, hrun⟩ := bind_inv hrun
      rw [hback] at hatom
      obtain ⟨hparts, hend⟩ := hsequence hrun hnode
      obtain ⟨hmeaning, hparts⟩ := List.forall_mem_cons.mp hparts
      refine ⟨hparts, fun h => hend ?_⟩
      exact (h.skipIgnored hskip).atom hrest (fun hc => hopen (hc ▸ rfl)) hatom
        (Atom.inert_of_toNode hmeaning)
    · cases parts with
      | nil => exact (fail_inv hrun).elim
      | cons last before =>
        obtain ⟨-, hrun⟩ := require_bind_inv hrun
        obtain ⟨hparts, hend⟩ := hsequence hrun hnode
        obtain ⟨hmeaning, hparts⟩ := List.forall_mem_cons.mp hparts
        exact ⟨List.forall_mem_cons.mpr ⟨hmeaning.of_repetition, hparts⟩,
          fun h => hend (hkeeps (h.skipIgnored hskip))⟩

/-- **Branches and parts are passed**, whatever is nested in them. -/
theorem keeps (opens : Bool) (bound : Nat) :
    Keeps opens (alternatives bound) ∧ Keeps opens (sequence bound) := by
  induction bound with
  | zero =>
    exact ⟨fun hrun => absurd hrun (by simp [alternatives, fail]),
      fun hrun => absurd hrun (by simp [sequence, fail])⟩
  | succ bound ih =>
    exact ⟨keeps_alternatives_succ ih.2 ih.1, keeps_sequence_succ ih.2 ih.1⟩

/-- **A pattern with a meaning leaves no class open**, unless it hides a bracket. -/
theorem openAfter_of_parse? {node : Node} (h : parse? text = some node) (hnode : node.Meaningful)
    (htame : Tame text) : Regexp.openAfter false text = false := by
  obtain ⟨⟨found, st⟩, hrun, hfound⟩ := Option.bind_eq_some_iff.mp h
  have hstart : Stands false (Regexp.openAfter false text) false ⟨.start text, false, []⟩ :=
    ⟨htame, fun hquiet => absurd hquiet (by simp), false, fun _ => rfl, rfl⟩
  dsimp only at hfound
  split_ifs at hfound with hend
  obtain rfl := Option.some.inj hfound
  have hstands := ((keeps _ _).1 hrun hnode).2 hstart
  have hrest : st.cursor.rest = [] := by
    simpa using (Bool.and_eq_true_iff.mp hend).1
  exact (hrest ▸ hstands.tracks).eq_false_of_nil

theorem openAfter_of_compile {m : Modes} {meaning : Expr} (h : compile m text = .ok meaning)
    (htame : Tame text) : Regexp.openAfter false text = false := by
  rw [compile] at h
  cases hfound : (parse? text).bind (·.meaning? m) with
  | none =>
    rw [hfound] at h
    exact absurd h (by simp)
  | some found =>
    obtain ⟨node, hnode, hmeaning⟩ := Option.bind_eq_some_iff.mp hfound
    exact openAfter_of_parse? hnode ⟨m, found, hmeaning⟩ htame

end ScriptLiterals.Pattern
