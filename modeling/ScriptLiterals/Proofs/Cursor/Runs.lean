import Mathlib.Data.List.Forall2
import ScriptLiterals.Proofs.Cursor.Counting
import ScriptLiterals.Proofs.Placement

/-!
# Cursors on their way through a text

`Bookmarked.run?` follows any number of operations with a cursor of any kind, which comes in as what it
does when it is asked. So what marks are good for is said once for all kinds (`run?_backTo`), and a
relation between two cursors that every reading keeps is kept by every run (`run?_related`).

`StandsAt` is such a relation. From the start of a text on, whatever a reader does, the cursor that counts
its bytes stands where the cursor does, and what it cuts out of the text are whole characters
(`reaches_shows`).
-/

set_option autoImplicit false

namespace ScriptLiterals

open Text

/-! ## Ways through a text -/

namespace Bookmarked

variable {κ κ' : Type} {read? : κ → Reading → Option (Answer × κ)}
  {read'? : κ' → Reading → Option (Answer × κ')} {ops more : List Operation}
  {answers answers' : List Answer} {first now next : Bookmarked κ}

/-- A run of several operations is the first of them and a run of the others. -/
theorem run?_cons_inv {op : Operation} (h : run? read? (op :: ops) first = some (answers, now)) :
    ∃ head mid tail, first.perform? read? op = some (head, mid) ∧
      run? read? ops mid = some (tail, now) ∧ answers = head ++ tail := by
  obtain ⟨⟨head, mid⟩, hhead, h⟩ := Option.bind_eq_some_iff.mp h
  obtain ⟨⟨tail, last⟩, htail, heq⟩ := Option.map_eq_some_iff.mp h
  obtain ⟨rfl, rfl⟩ := Prod.mk.inj heq
  exact ⟨head, mid, tail, hhead, htail, rfl⟩

theorem run?_append (h : run? read? ops first = some (answers, now)) : run? read? (ops ++ more) first =
    (run? read? more now).map fun found => (answers ++ found.1, found.2) := by
  induction ops generalizing first answers with
  | nil =>
    obtain ⟨rfl, rfl⟩ := Prod.mk.inj (Option.some.inj h)
    exact Option.map_id'.symm
  | cons op ops ih =>
    obtain ⟨head, mid, tail, hhead, htail, rfl⟩ := run?_cons_inv h
    rw [List.cons_append, run?, hhead, Option.bind_some, ih htail, Option.map_map]
    simp only [Function.comp_def, List.append_assoc]

/-! ## Marks -/

theorem marks_prefix_of_perform? {op : Operation}
    (h : first.perform? read? op = some (answers, now)) : first.marks <+: now.marks := by
  cases op with
  | read r =>
    obtain ⟨found, -, heq⟩ := Option.map_eq_some_iff.mp h
    obtain ⟨-, rfl⟩ := Prod.mk.inj heq
    exact List.prefix_rfl
  | mark =>
    obtain ⟨-, rfl⟩ := Prod.mk.inj (Option.some.inj h)
    exact List.prefix_append _ _
  | backTo number =>
    obtain ⟨-, rfl⟩ := Prod.mk.inj (Option.some.inj h)
    exact List.prefix_rfl

/-- No mark is lost. -/
theorem marks_prefix_of_run? (h : run? read? ops first = some (answers, now)) :
    first.marks <+: now.marks := by
  induction ops generalizing first answers with
  | nil =>
    obtain ⟨-, rfl⟩ := Prod.mk.inj (Option.some.inj h)
    exact List.prefix_rfl
  | cons op ops ih =>
    obtain ⟨_, mid, _, hhead, htail, -⟩ := run?_cons_inv h
    exact (marks_prefix_of_perform? hhead).trans (ih htail)

/-- **Going back to a mark restores the place where it was made**, whatever was done behind it. -/
theorem run?_backTo (hnow : run? read? ops first = some (answers, now))
    (hnext : run? read? (ops ++ .mark :: more) first = some (answers', next)) :
    run? read? (ops ++ .mark :: more ++ [.backTo now.marks.length]) first =
      some (answers', { next with here := now.here }) := by
  have hmark : next.marks[now.marks.length]? = some now.here := by
    rw [run?_append hnow] at hnext
    obtain ⟨⟨_, marked⟩, hmarked, heq⟩ := Option.map_eq_some_iff.mp hnext
    obtain ⟨-, rfl⟩ := Prod.mk.inj heq
    obtain ⟨_, mid, _, hmark, htail, -⟩ := run?_cons_inv hmarked
    obtain ⟨-, rfl⟩ := Prod.mk.inj (Option.some.inj hmark)
    obtain ⟨rest, hrest⟩ : now.marks ++ [now.here] <+: marked.marks := marks_prefix_of_run? htail
    simp [← hrest]
  rw [run?_append hnext]
  simp [run?, perform?, hmark]

/-! ## Two cursors -/

/-- Two cursors stand in a relation, and so do the places marked with them. -/
structure Related (R : κ → κ' → Prop) (now : Bookmarked κ) (now' : Bookmarked κ') : Prop where
  here : R now.here now'.here
  marks : List.Forall₂ R now.marks now'.marks

/-- Every reading keeps the relation, and the answers are the same. -/
def Keeps (R : κ → κ' → Prop) (read? : κ → Reading → Option (Answer × κ))
    (read'? : κ' → Reading → Option (Answer × κ')) : Prop :=
  ∀ b c r, R b c → ∃ answer b' c',
    read? b r = some (answer, b') ∧ read'? c r = some (answer, c') ∧ R b' c'

variable {R : κ → κ' → Prop} {now' : Bookmarked κ'}

theorem related_getD {bs : List κ} {cs : List κ'} {b : κ} {c : κ'} (h : List.Forall₂ R bs cs)
    (hdefault : R b c) (number : Nat) : R (bs[number]?.getD b) (cs[number]?.getD c) := by
  induction h generalizing number with
  | nil => exact hdefault
  | cons hhead _ ih =>
    cases number with
    | zero => exact hhead
    | succ number => exact ih number

theorem perform?_related (hkeeps : Keeps R read? read'?) (h : Related R now now') (op : Operation) :
    ∃ answers next next', now.perform? read? op = some (answers, next) ∧
      now'.perform? read'? op = some (answers, next') ∧ Related R next next' := by
  cases op with
  | read r =>
    obtain ⟨answer, b, c, hb, hc, hrelated⟩ := hkeeps _ _ r h.here
    exact ⟨_, _, _, Option.map_eq_some_iff.mpr ⟨_, hb, rfl⟩,
      Option.map_eq_some_iff.mpr ⟨_, hc, rfl⟩, hrelated, h.marks⟩
  | mark =>
    exact ⟨_, _, _, rfl, rfl, h.here, List.rel_append h.marks (.cons h.here .nil)⟩
  | backTo number =>
    exact ⟨_, _, _, rfl, rfl, related_getD h.marks h.here number, h.marks⟩

/-- **What every reading keeps is kept on the whole way.** -/
theorem run?_related (hkeeps : Keeps R read? read'?) (h : Related R now now')
    (ops : List Operation) :
    ∃ answers next next', run? read? ops now = some (answers, next) ∧
      run? read'? ops now' = some (answers, next') ∧ Related R next next' := by
  induction ops generalizing now now' with
  | nil => exact ⟨[], now, now', rfl, rfl, h⟩
  | cons op ops ih =>
    obtain ⟨answers, mid, mid', hmid, hmid', hrelated⟩ := perform?_related hkeeps h op
    obtain ⟨later, next, next', hnext, hnext', hlast⟩ := ih hrelated
    refine ⟨answers ++ later, next, next', ?_, ?_, hlast⟩
    · rw [run?, hmid, Option.bind_some, hnext]
      rfl
    · rw [run?, hmid', Option.bind_some, hnext']
      rfl

end Bookmarked

/-! ## The two cursors of a text -/

namespace CountingCursor

/-- The operations bring the counting cursor to `now` and the cursor to `place`, with the same answers. -/
def Reaches (text : List Char) (ops : List Operation) (now : Bookmarked CountingCursor)
    (place : Bookmarked Cursor) : Prop :=
  ∃ answers, run? text ops = some (answers, now) ∧ Cursor.run? text ops = some (answers, place)

/-- What the counting cursor shows of the text is what there is at the place of the cursor. -/
structure Shows (b : CountingCursor) (c : Cursor) : Prop where
  /-- It counts the bytes of what has been passed. -/
  pos_eq : b.pos = byteCount c.passed
  /-- The rest of the text is what has not been passed. -/
  rest?_eq : b.rest? = some c.rest
  /-- What it cuts out in front of its place are the ends of what has been passed. -/
  sliceFrom?_eq_some_iff : ∀ start part, b.sliceFrom? start = some part ↔
    ∃ before, c.passed = before ++ part ∧ byteCount before = start

variable {text : List Char} {ops more : List Operation} {b : CountingCursor} {c : Cursor}
  {now old : Bookmarked CountingCursor} {place oldPlace : Bookmarked Cursor}

theorem StandsAt.shows (h : b.StandsAt c) : b.Shows c :=
  ⟨h.pos_eq.trans c.pos_eq, h.rest?, fun _ _ => h.sliceFrom?_eq_some_iff⟩

/-- Both cursors stand at one place of the text. -/
def InStep (text : List Char) (b : CountingCursor) (c : Cursor) : Prop :=
  b.StandsAt c ∧ c.text = text

/-- Every reading keeps the two cursors together, and in their text. -/
theorem keeps_inStep (text : List Char) :
    Bookmarked.Keeps (InStep text) read? fun c r => some (c.read r) := by
  rintro b c r ⟨hstands, htext⟩
  obtain ⟨next, hread, hnext⟩ := hstands.read? r
  refine ⟨_, next, _, hread, congrArg some (c.read_eq r), hnext, ?_⟩
  rw [Cursor.text_past (r.taken_prefix c.rest), htext]

/-- **No operation fails**, and the two cursors stay together. -/
theorem exists_reaches (text : List Char) (ops : List Operation) :
    ∃ now place, Reaches text ops now place ∧ Bookmarked.Related (InStep text) now place := by
  have hstart : Bookmarked.Related (InStep text) ⟨start text, []⟩ ⟨Cursor.start text, []⟩ :=
    ⟨⟨standsAt_start text, rfl⟩, .nil⟩
  obtain ⟨answers, now, place, hnow, hplace, hrelated⟩ :=
    Bookmarked.run?_related (keeps_inStep text) hstart ops
  exact ⟨now, place, ⟨answers, hnow, hplace⟩, hrelated⟩

theorem Reaches.related (h : Reaches text ops now place) :
    Bookmarked.Related (InStep text) now place := by
  obtain ⟨answers, hnow, hplace⟩ := h
  obtain ⟨now', place', ⟨answers', hnow', hplace'⟩, hrelated⟩ := exists_reaches text ops
  obtain ⟨-, rfl⟩ := Prod.mk.inj (Option.some.inj (hnow.symm.trans hnow'))
  obtain ⟨-, rfl⟩ := Prod.mk.inj (Option.some.inj (hplace.symm.trans hplace'))
  exact hrelated

/-- Behind an earlier place the text passed since then can be cut out, in front of a later one nothing
can. -/
theorem StandsAt.sliceFrom?_pos {b' : CountingCursor} {c' : Cursor} (h : b.StandsAt c)
    (h' : b'.StandsAt c') (htext : c'.text = c.text) :
    if b'.pos ≤ b.pos then
      c'.passed ++ c.since c' = c.passed ∧ b.sliceFrom? b'.pos = some (c.since c')
    else b.sliceFrom? b'.pos = none := by
  split_ifs with hle
  · rw [h'.pos_eq, h.pos_eq] at hle
    obtain ⟨part, hpart⟩ := Cursor.passed_prefix_of_pos_le htext hle
    rw [Cursor.since_eq hpart]
    exact ⟨hpart, h.sliceFrom?_eq_some_iff.mpr
      ⟨c'.passed, hpart.symm, (h'.pos_eq.trans c'.pos_eq).symm⟩⟩
  · rw [Option.eq_none_iff_forall_ne_some]
    intro part hslice
    obtain ⟨before, hpassed, hcount⟩ := h.sliceFrom?_eq_some_iff.mp hslice
    rw [h.pos_eq, Cursor.pos_eq, hpassed, byteCount_append] at hle
    omega

/-- Both cursors come back to a mark together. -/
theorem Reaches.backTo (hold : Reaches text ops old oldPlace)
    (h : Reaches text (ops ++ .mark :: more) now place) :
    Reaches text (ops ++ .mark :: more ++ [.backTo old.marks.length])
      { now with here := old.here } { place with here := oldPlace.here } := by
  have hrelated := hold.related
  obtain ⟨_, hold, holdPlace⟩ := hold
  obtain ⟨answers, hnow, hplace⟩ := h
  refine ⟨answers, Bookmarked.run?_backTo hold hnow, ?_⟩
  -- the marks are counted on the counting cursor, and the other has as many
  rw [hrelated.marks.length_eq]
  exact Bookmarked.run?_backTo holdPlace hplace

end CountingCursor

/-- The span of a token cuts out its literal. -/
theorem AnyToken.StandsIn.slice?_span {t : AnyToken} {input : List Char} (h : t.StandsIn input) :
    slice? input t.span.start t.span.stop = some t.source := by
  have hdrop : (leadingBlank input ++ skipBlank input).drop t.offset = skipBlank input := by
    rw [h.offset_eq, List.drop_left]
  have hsource := h.take_drop_eq
  rw [← leadingBlank_append_skipBlank input, hdrop] at hsource
  have hinput : input = leadingBlank input ++ t.source ++ (skipBlank input).drop t.length := by
    rw [List.append_assoc, ← hsource, List.take_append_drop, leadingBlank_append_skipBlank]
  -- the text up to the end of the span has as many characters as the blanks and the literal
  obtain ⟨upTo, after, hcut, hstop⟩ := h.stop_boundary
  have hlength := h.length_takeBytes
  rw [← hstop, hcut, takeBytes_append, h.finish_eq, h.offset_eq] at hlength
  have hupTo : upTo = leadingBlank input ++ t.source :=
    List.append_inj_left (hcut.symm.trans hinput) (by rw [hlength, List.length_append]; rfl)
  exact slice?_eq_some_iff.mpr
    ⟨leadingBlank input, _, hinput, h.start_eq.symm, by rw [← hupTo, hstop]⟩

namespace CountingCursor

/-- **The two accounts of a place stay in step.** Whatever a reader does from the start of a text on, no
cut fails, and the counting cursor gives the answers of the cursor. It counts the bytes of what has been
passed, which is the head of the text, and shows what has not been passed as the rest.

Each reading answers from the text and passes what `Reading.taken` says: the next character, all of the
character or word that was asked for or nothing, the leading blanks, and nothing where the reader only
looks. Behind the place of any earlier time the text passed since then is cut out; nothing is where the
cursor has come back to a place in front of that one. Going back to a mark restores the place it was made
at. And the literals that are found in the text are cut out by their spans. -/
theorem reaches_shows (text : List Char) (ops : List Operation) :
    ∃ now place, Reaches text ops now place ∧
      place.here.passed ++ place.here.rest = text ∧ now.here.Shows place.here ∧
      (∀ r, ∃ next,
        r.taken place.here.rest <+: place.here.rest ∧
        place.here.read r = (r.answer place.here.passed place.here.rest,
          place.here.past (r.taken place.here.rest)) ∧
        now.here.read? r = some (r.answer place.here.passed place.here.rest, next) ∧
        next.Shows (place.here.past (r.taken place.here.rest))) ∧
      (∀ earlier later old oldPlace, ops = earlier ++ later → Reaches text earlier old oldPlace →
        if old.here.pos ≤ now.here.pos then
          oldPlace.here.passed ++ place.here.since oldPlace.here = place.here.passed ∧
            now.here.sliceFrom? old.here.pos = some (place.here.since oldPlace.here)
        else now.here.sliceFrom? old.here.pos = none) ∧
      (∀ earlier later old oldPlace, ops = earlier ++ .mark :: later →
        Reaches text earlier old oldPlace →
        Reaches text (ops ++ [.backTo old.marks.length]) { now with here := old.here }
          { place with here := oldPlace.here }) ∧
      (∀ kind allowTrailing token, scanKind kind allowTrailing text = .ok token →
        slice? text token.span.start token.span.stop = some token.source) := by
  obtain ⟨now, place, hreaches, hrelated⟩ := exists_reaches text ops
  obtain ⟨hstands, htext⟩ := hrelated.here
  refine ⟨now, place, hreaches, htext, hstands.shows, ?_, ?_, ?_, ?_⟩
  · intro r
    obtain ⟨next, hread, hnext⟩ := hstands.read? r
    exact ⟨next, r.taken_prefix _, place.here.read_eq r, hread, hnext.shows⟩
  · rintro earlier later old oldPlace rfl hold
    obtain ⟨holdStands, holdText⟩ := hold.related.here
    exact hstands.sliceFrom?_pos holdStands (holdText.trans htext.symm)
  · rintro earlier later old oldPlace rfl hold
    exact hold.backTo hreaches
  · intro kind allowTrailing token hscan
    exact (standsIn_of_scanKind hscan).slice?_span

/-- An exponent that has no digits is given back: behind a blank of three bytes and a digit, the reader
goes on to the end and returns to the `e`. -/
example :
    (run? ['\u3000', '1', 'e', '+'] [.read .skipBlank, .read .advance, .mark, .read .advance,
      .read (.eat '+'), .read .peek, .backTo 0, .read .peek]).map
        (fun found => (found.1, found.2.here.pos, found.2.here.rest?)) =
      some ([.place 3, .char (some '1'), .char (some 'e'), .eaten true, .char none,
        .char (some 'e')], 4, some ['e', '+']) := by
  cbv

end CountingCursor

end ScriptLiterals
