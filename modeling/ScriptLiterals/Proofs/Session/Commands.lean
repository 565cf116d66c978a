import ScriptLiterals.Proofs.Lines
import ScriptLiterals.Proofs.Placement
import ScriptLiterals.Proofs.Session.ScannedEntries
import ScriptLiterals.Proofs.Unambiguous

/-!
# Commands hide no literals

Of all literals only numbers begin with a point, and then a digit follows it. The name of a command
follows its point directly and begins with no digit, in whatever case it is written
(`exists_head_of_parse?`). So an entry that is a command is a literal of no kind, and no reader gets
beyond the first two characters of it (`scanKind_of_point`).

Seen from the other side, an entry that is a literal, even if only what follows it is ignored, is
never taken for a command: it is scanned (`respond_of_scanKind`).
-/

set_option autoImplicit false

namespace ScriptLiterals

open Text

variable {entry text name : List Char} {c : Char}

/-! ## Texts that begin with a point -/

/-- A point begins a number only in front of a digit. -/
theorem Number.read_point (hc : Magnitude.isDecimalDigit c = false) :
    read ('.' :: c :: text) = .error .noMatch := by
  have hconstant : Magnitude.readConstant? ('.' :: c :: text) = none :=
    Magnitude.readConstant?_eq_none (by simp) (by simp)
  have hmarked : Magnitude.readMarked? ('.' :: c :: text) = none :=
    Magnitude.readMarked?_eq_none_of_head? (by simp)
  have hplain : Magnitude.readPlain? ('.' :: c :: text) = none := by
    have hends : EndsRun Magnitude.isDecimalDigit ('.' :: c :: text) := endsRun_cons.mpr (by decide)
    have hfraction : Magnitude.readFraction? (!List.isEmpty ([] : List Char)) ('.' :: c :: text) =
        none := by
      simp [Magnitude.readFraction?, hc]
    rw [Magnitude.readPlain?, takeWhile_of_endsRun hends, dropWhile_of_endsRun hends, hfraction]
    rfl
  refine read_eq_error_iff.mpr ⟨rfl, ?_⟩
  change Magnitude.read? ('.' :: c :: text) = none
  rw [Magnitude.read?, hconstant, hmarked, hplain]
  rfl

/-- What a reader does not know at all is not scanned. -/
theorem Recognizer.map_scan_of_noMatch {α δ : Type} {r : Recognizer α δ} (wrap : Token α δ → AnyToken)
    (h : r.read (skipBlank entry) = .error .noMatch) :
    (r.scan entry).map wrap = .error (.noMatch r.kind (leadingBlank entry).length) := by
  rw [scan_of_read_eq_error h]
  rfl

/-- **No kind of literal begins with a point in front of something else than a digit**, whether or
not anything may follow. -/
theorem scanKind_of_point (h : skipBlank entry = '.' :: c :: text)
    (hc : Magnitude.isDecimalDigit c = false) (kind : Kind) (allowTrailing : Bool) :
    scanKind kind allowTrailing entry = .error (.noMatch kind (leadingBlank entry).length) := by
  cases kind with
  | comment => exact Recognizer.map_scan_of_noMatch AnyToken.comment (by rw [h]; rfl)
  | regexp => exact Recognizer.map_scan_of_noMatch AnyToken.regexp (by rw [h]; rfl)
  | string => exact Recognizer.map_scan_of_noMatch AnyToken.string (by rw [h]; rfl)
  | keyword => exact Recognizer.map_scan_of_noMatch AnyToken.keyword (by rw [h]; rfl)
  | number =>
    have hread : Number.recognizer.read (skipBlank entry) = .error .noMatch := by
      rw [h]
      exact Number.read_point hc
    cases allowTrailing with
    | false => exact Recognizer.map_scan_of_noMatch AnyToken.number hread
    | true =>
      have hscan := Recognizer.scanHead_eq_error_iff.mpr ⟨_, hread, rfl⟩
      exact except_map_eq_error_iff.mpr hscan

namespace Session

/-! ## Names of commands -/

namespace Command

variable {command : Command} {found : Command × Option (List Char)}

/-- A digit has no lower case form but itself. -/
theorem lowerAscii_of_isDigit (h : Magnitude.isDecimalDigit c = true) : lowerAscii c = c := by
  have hall : Radix.decimal.digitChars.all (fun d => lowerAscii d == d) = true := by decide
  simpa using List.all_eq_true.mp hall c (Radix.isDigit_iff_mem_digitChars.mp h)

/-- **A name begins with something else than a digit**, in capitals or not. -/
theorem exists_head_of_ofName? (h : ofName? name = some command) :
    ∃ c rest, name = c :: rest ∧ Magnitude.isDecimalDigit c = false := by
  have hnames : ∀ command : Command, ∀ known ∈ command.names,
      known.toList.head?.map Magnitude.isDecimalDigit = some false := by
    intro command
    cases command <;> decide
  have hknown : String.ofList (name.map lowerAscii) ∈ command.names := by
    simpa using List.find?_some h
  obtain ⟨c, hc, hdigit⟩ := Option.map_eq_some_iff.mp (hnames command _ hknown)
  rw [String.toList_ofList] at hc
  cases name with
  | nil => exact absurd hc (by simp)
  | cons d rest =>
    refine ⟨d, rest, rfl, ?_⟩
    obtain rfl : lowerAscii d = c := Option.some.inj hc
    cases hd : Magnitude.isDecimalDigit d with
    | false => rfl
    | true =>
      rw [lowerAscii_of_isDigit hd, hd] at hdigit
      exact absurd hdigit (by simp)

/-- **A command begins with a point and a character that is no digit.** -/
theorem exists_head_of_parse? (h : parse? entry = some found) :
    ∃ c text, skipBlank entry = '.' :: c :: text ∧ Magnitude.isDecimalDigit c = false := by
  obtain ⟨blanks, -, heq⟩ := exists_trimEnd_append (skipBlank entry)
  unfold parse? at h
  split at h
  · rename_i rest htrim
    obtain ⟨command, hname, -⟩ := Option.map_eq_some_iff.mp h
    obtain ⟨c, name, hsplit, hdigit⟩ := exists_head_of_ofName? hname
    have hrest : rest = c :: (name ++ rest.dropWhile fun c => !isBlank c) := by
      rw [← List.cons_append, ← hsplit, List.takeWhile_append_dropWhile]
    rw [trim, hrest] at htrim
    rw [htrim] at heq
    exact ⟨c, _, heq, hdigit⟩
  · exact absurd h (by simp)

end Command

/-! ## Entries that are literals -/

/-- An entry in which a literal stands is not blank. -/
theorem trim_isEmpty_of_standsIn {t : AnyToken} (h : t.StandsIn entry) :
    (trim entry).isEmpty = false := by
  cases htrim : trim entry with
  | cons c cs => rfl
  | nil =>
    obtain ⟨blanks, hblank, heq⟩ := exists_trim_append entry
    rw [htrim, List.append_nil] at heq
    obtain ⟨c, cs, hsource⟩ := List.exists_cons_of_ne_nil h.source_ne_nil
    have hvisible : isBlank c = false := h.source_head c (by rw [hsource]; rfl)
    have hmem : c ∈ entry := by
      refine List.mem_of_mem_drop (i := t.offset) (List.mem_of_mem_take (i := t.length) ?_)
      rw [h.take_drop_eq, hsource]
      exact List.mem_cons_self
    rw [heq] at hmem
    have hall : isBlank c = true :=
      (List.mem_append.mp hmem).elim (fun hc => List.mem_takeWhile_imp hc) (hblank c)
    rw [hvisible] at hall
    exact absurd hall (by simp)

/-- **An entry in which a scan of some kind finds a token is scanned**, whichever kind the session looks
for. -/
theorem respond_of_scanKind {kind : Kind} {allowTrailing : Bool} {t : AnyToken}
    (h : scanKind kind allowTrailing entry = .ok t) (active : Option Kind) :
    respond active entry = (showScan (scanEntry active entry), .active active) := by
  have hcommand : Command.parse? entry = none := by
    rw [Option.eq_none_iff_forall_ne_some]
    intro found hfound
    obtain ⟨c, text, hhead, hdigit⟩ := Command.exists_head_of_parse? hfound
    rw [scanKind_of_point hhead hdigit] at h
    exact absurd h (by simp)
  exact respond_of_text (trim_isEmpty_of_standsIn (standsIn_of_scanKind h)) hcommand active

/-- **No command shadows a literal.** Where an entry is a command nothing is detected, and no scan finds
a token, for whichever kind and with whichever options: strict or not, and with anything allowed to
follow a number or not. So every entry that is a literal, if only in one of these ways, is scanned, and
prints what the scan comes to. -/
theorem command_shadows_nothing (entry : List Char) :
    ((Command.parse? entry).isSome = true →
      detect entry = none ∧ ∀ kind options, scanAs kind options entry =
        if options.strict then .error (.noMatch kind (leadingBlank entry).length) else .ok none) ∧
    ∀ t, (detect entry = some t ∨ ∃ kind options, scanAs kind options entry = .ok (some t)) →
      ∀ active, respond active entry = (showScan (scanEntry active entry), .active active) ∧
        Prints entry active (respond active entry).1 := by
  constructor
  · intro hcommand
    obtain ⟨found, hfound⟩ := Option.isSome_iff_exists.mp hcommand
    obtain ⟨c, text, hhead, hdigit⟩ := Command.exists_head_of_parse? hfound
    have hscan := scanKind_of_point hhead hdigit
    constructor
    · rw [detect, detectAmong, List.findSome?_eq_none_iff]
      intro kind _
      rw [hscan kind false]
      rfl
    · intro kind options
      rw [scanAs, hscan kind options.allowTrailing]
      rfl
  · intro t hliteral active
    have hrespond : respond active entry = (showScan (scanEntry active entry), .active active) := by
      rcases hliteral with hdetect | ⟨kind, options, hscan⟩
      · have htoken := tokenOf?_of_detectAmong hdetect
        rw [← found?_scanKind, found?_eq_some_iff] at htoken
        exact respond_of_scanKind htoken active
      · exact respond_of_scanKind (settle_eq_ok_some_iff.mp hscan) active
    refine ⟨hrespond, ?_⟩
    rw [hrespond]
    exact prints_showScan active entry

/-- The name may begin with a Kelvin sign, and the argument may be a number. A number that begins with a
point is scanned, even if it is one only without what follows it. -/
theorem command_shadows_nothing_point :
    Command.parse? [' ', '.', '\u212a', 'I', 'n', 'd', ' ', '.', '5'] = some (.kind, some ['.', '5']) ∧
      scanAs .number { allowTrailing := true } [' ', '.', '\u212a', 'I', 'n', 'd', ' ', '.', '5'] =
        .ok none ∧
      (∃ t, scanAs .number { allowTrailing := true } ['.', '5', 'h'] = .ok (some t)) ∧
      respond none ['.', '5', 'h'] = (.result nothingFound, .active none) := by
  have hcommand : Command.parse? [' ', '.', '\u212a', 'I', 'n', 'd', ' ', '.', '5'] =
      some (.kind, some ['.', '5']) := by decide
  have hnumber : scanAs .number { allowTrailing := true } ['.', '5', 'h'] = .ok (some _) := rfl
  refine ⟨hcommand, ?_, ⟨_, hnumber⟩, ?_⟩
  · exact ((command_shadows_nothing _).1 (by rw [hcommand]; rfl)).2 .number _
  · exact ((command_shadows_nothing _).2 _ (Or.inr ⟨_, _, hnumber⟩) none).1

end Session

end ScriptLiterals
