import ScriptLiterals.Pattern.Meaning
import ScriptLiterals.Proofs.Regexp.Brackets

/-!
# What a pattern with a meaning is made of

The parts of a pattern that has a meaning have one too. A property has a meaning only if a table
lists its name, and no table lists a name with a bracket or a backslash in it. So what stands in the
braces of `\p{…}` has no bearing on where a class begins or ends, though the reader of patterns
takes any text there.
-/

set_option autoImplicit false

namespace ScriptLiterals

open Regexp (isInert isInert_false_iff)

/-! ## Listed names -/

namespace Unicode

variable {name value : List Char} {s : String} {set : CharSet} {c : Char}

/-- Whether the name holds neither a bracket nor a backslash. The bytes say so as well as the
characters, and are quicker to come by. -/
def isInertName (s : String) : Bool :=
  s.toByteArray.data.toList.all fun b => b != 0x5b && b != 0x5c

theorem notMem_of_isInertName (h : isInertName s = true) (hc : c = '\\' ∨ c = '[') :
    c ∉ s.toList := by
  obtain ⟨cs, rfl⟩ : ∃ cs, s = String.ofList cs := ⟨s.toList, String.ofList_toList.symm⟩
  have hbytes : (String.ofList cs).toByteArray.data.toList = cs.flatMap String.utf8EncodeChar := by
    simp [List.utf8Encode]
  rw [isInertName, hbytes, List.all_flatMap, List.all_eq_true] at h
  rw [String.toList_ofList]
  intro hmem
  obtain rfl | rfl := hc <;> exact absurd (h _ hmem) (by decide)

/-- A bracket or a backslash is not among what is left out when names are compared. -/
theorem mem_looseName (hc : c = '\\' ∨ c = '[') (hmem : c ∈ name) :
    c ∈ (looseName name).toList := by
  have hlower : c.toLower = c := by obtain rfl | rfl := hc <;> rfl
  have hbody : c ∈ if (name.take 2).map Char.toLower == ['i', 's'] then name.drop 2 else name := by
    split
    · rename_i hprefix
      rw [← List.take_append_drop 2 name] at hmem
      refine (List.mem_append.mp hmem).resolve_left fun htake => ?_
      have hletter := List.mem_map_of_mem (f := Char.toLower) htake
      rw [beq_iff_eq.mp hprefix, hlower] at hletter
      obtain rfl | rfl := hc <;> exact absurd hletter (by decide)
    · exact hmem
  have hkept : ∀ body : List Char, c ∈ body → c ∈ (body.filter fun c =>
      c.toNat < 0x80 && c != ' ' && c != '_' && c != '-').map Char.toLower := fun body hbody =>
    List.mem_map.mpr ⟨c, List.mem_filter.mpr ⟨hbody, by obtain rfl | rfl := hc <;> decide⟩, hlower⟩
  have hexception : ∀ (isPrefixed : Bool) (lower : List Char), c ∈ lower →
      c ∈ if isPrefixed && lower == ['c'] then ['i', 's', 'c'] else lower := by
    intro isPrefixed lower hmem
    split
    · rename_i hisc
      rw [beq_iff_eq.mp (Bool.and_eq_true_iff.mp hisc).2] at hmem
      obtain rfl | rfl := hc <;> exact absurd hmem (by decide)
    · exact hmem
  rw [looseName, String.toList_ofList]
  exact hexception _ _ (hkept _ hbody)

theorem isInert_of_looseName (h : isInertName (looseName name) = true) :
    ∀ c ∈ name, isInert false c = true := by
  intro c hmem
  by_contra hc
  rw [isInert_false_iff, not_and_or, not_ne_iff, not_ne_iff] at hc
  exact notMem_of_isInertName h hc (mem_looseName hc hmem)

theorem isInertName_of_contains {names : List String} (hnames : names.all isInertName = true)
    (h : names.contains s = true) : isInertName s = true :=
  List.all_eq_true.mp hnames s (List.contains_iff_mem.mp h)

/-- All tables of properties. -/
def tables : List (List NamedSet) :=
  [binaryProperties, categories, scripts, scriptExtensions, ages, graphemeBreaks, wordBreaks,
    sentenceBreaks]

theorem isInertName_listed :
    tables.all (fun table => table.all fun entry => entry.names.all isInertName) = true := by
  decide +kernel

theorem isInertName_of_find? {table : List NamedSet} {entry : NamedSet} (htable : table ∈ tables)
    (h : find? table s = some entry) : isInertName s = true := by
  have hentries := List.all_eq_true.mp isInertName_listed table htable
  have hnames := List.all_eq_true.mp hentries entry (List.mem_of_find?_eq_some h)
  exact isInertName_of_contains hnames (by simpa using List.find?_some h)

theorem isInertName_of_generalCategory? (h : generalCategory? s = some set) :
    isInertName s = true := by
  unfold generalCategory? at h
  split_ifs at h with hany hascii hassigned hcn hc
  · rw [hany]; decide
  · rw [hascii]; decide
  · rw [hassigned]; decide
  · rcases hcn with rfl | rfl <;> decide
  · rcases hc with rfl | rfl <;> decide
  · split at h
    · rename_i group hgroup
      have hnames : categoryGroups.all (·.1.all isInertName) = true := by decide
      exact isInertName_of_contains
        (List.all_eq_true.mp hnames group (List.mem_of_find?_eq_some hgroup))
        (by simpa using List.find?_some hgroup)
    · obtain ⟨entry, hentry, -⟩ := Option.map_eq_some_iff.mp h
      exact isInertName_of_find? (by simp [tables]) hentry

theorem isInertName_of_script? (h : script? s = some set) : isInertName s = true := by
  obtain ⟨entry, hentry, -⟩ := Option.map_eq_some_iff.mp h
  exact isInertName_of_find? (by simp [tables]) hentry

theorem isInertName_of_scriptExtension? (h : scriptExtension? s = some set) :
    isInertName s = true := by
  obtain ⟨entry, hentry, -⟩ := Option.map_eq_some_iff.mp h
  rcases Option.or_eq_some_iff.mp hentry with hentry | ⟨-, hentry⟩
  · exact isInertName_of_find? (by simp [tables]) hentry
  · exact isInertName_of_find? (by simp [tables]) hentry

theorem isInertName_of_age? (h : age? s = some set) : isInertName s = true := by
  unfold age? at h
  split at h
  · exact absurd h (by simp)
  · rename_i i hi
    obtain ⟨hlt, hcontains, -⟩ := List.findIdx?_eq_some_iff_getElem.mp hi
    have hages := List.all_eq_true.mp isInertName_listed ages (by simp [tables])
    exact isInertName_of_contains (List.all_eq_true.mp hages _ (List.getElem_mem hlt)) hcontains

theorem isInert_of_byName (h : byName name = some set) : ∀ c ∈ name, isInert false c = true := by
  refine isInert_of_looseName ?_
  simp only [byName] at h
  split at h
  · rename_i entry hentry
    split_ifs at hentry
    exact isInertName_of_find? (by simp [tables]) hentry
  · rcases Option.or_eq_some_iff.mp h with h | ⟨-, h⟩
    · exact isInertName_of_generalCategory? h
    · exact isInertName_of_script? h

theorem isInert_of_byValue (h : byValue name value = some set) :
    (∀ c ∈ name, isInert false c = true) ∧ ∀ c ∈ value, isInert false c = true := by
  have hnamed : ∀ {names : List String}, names.contains (looseName name) = true →
      names.all isInertName = true → isInertName (looseName value) = true →
      (∀ c ∈ name, isInert false c = true) ∧ ∀ c ∈ value, isInert false c = true :=
    fun hcontains hnames hvalue => ⟨isInert_of_looseName (isInertName_of_contains hnames hcontains),
      isInert_of_looseName hvalue⟩
  have hlisted : ∀ {table : List NamedSet}, table ∈ tables →
      (find? table (looseName value)).map (·.toCharSet) = some set →
      isInertName (looseName value) = true := by
    intro table htable hfind
    obtain ⟨entry, hentry, -⟩ := Option.map_eq_some_iff.mp hfind
    exact isInertName_of_find? htable hentry
  simp only [byValue] at h
  split_ifs at h with hcategory hscript hextension hage hgrapheme hword hsentence
  · exact hnamed hcategory rfl (isInertName_of_generalCategory? h)
  · exact hnamed hscript rfl (isInertName_of_script? h)
  · exact hnamed hextension rfl (isInertName_of_scriptExtension? h)
  · exact hnamed hage rfl (isInertName_of_age? h)
  · exact hnamed hgrapheme rfl (hlisted (by simp [tables]) h)
  · exact hnamed hword rfl (hlisted (by simp [tables]) h)
  · exact hnamed hsentence rfl (hlisted (by simp [tables]) h)

end Unicode

namespace Pattern

variable {m : Modes} {text : List Char} {negated : Bool}

/-! ## Properties -/

/-- The name holds neither a bracket nor a backslash, and the value neither. -/
def PropertyName.Inert : PropertyName → Prop
  | .alone name => ∀ c ∈ name, isInert false c = true
  | .equal name value | .unequal name value =>
    (∀ c ∈ name, isInert false c = true) ∧ ∀ c ∈ value, isInert false c = true

theorem PropertyName.inert_of_propertySet? {name : PropertyName} {set : Unicode.CharSet}
    (h : propertySet? m name negated = some set) : name.Inert := by
  unfold propertySet? at h
  split_ifs at h
  split at h
  · obtain ⟨set, hset, -⟩ := Option.bind_eq_some_iff.mp h
    exact Unicode.isInert_of_byName hset
  · obtain ⟨set, hset, -⟩ := Option.bind_eq_some_iff.mp h
    exact Unicode.isInert_of_byValue hset
  · obtain ⟨set, hset, -⟩ := Option.bind_eq_some_iff.mp h
    exact Unicode.isInert_of_byValue hset

/-- The marks between name and value are inert too, so the text in the braces is. -/
theorem isInert_of_splitProperty (h : (splitProperty text).Inert) :
    ∀ c ∈ text, isInert false c = true := by
  -- cutting at a mark leaves the name, the mark and the value
  have hcut : ∀ {mark : List Char} {i : Nat}, mark.all (isInert false) = true →
      ((List.range text.length).find? fun i => mark.isPrefixOf (text.drop i)) = some i →
      ((∀ c ∈ text.take i, isInert false c = true) ∧
        ∀ c ∈ text.drop (i + mark.length), isInert false c = true) →
      ∀ c ∈ text, isInert false c = true := by
    rintro mark i hmark hfind ⟨hname, hvalue⟩ c hc
    obtain ⟨value, hdrop⟩ : mark <+: text.drop i :=
      List.isPrefixOf_iff_prefix.mp (by simpa using List.find?_some hfind)
    rw [← List.drop_drop, ← hdrop, List.drop_left] at hvalue
    rw [← List.take_append_drop i text, ← hdrop] at hc
    rcases List.mem_append.mp hc with hc | hc
    · exact hname c hc
    · rcases List.mem_append.mp hc with hc | hc
      · exact List.all_eq_true.mp hmark c hc
      · exact hvalue c hc
  simp only [splitProperty] at h
  cases hunequal : (List.range text.length).find? fun i => ['!', '='].isPrefixOf (text.drop i) with
  | some i =>
    rw [hunequal] at h
    exact hcut (by decide) hunequal h
  | none =>
    rw [hunequal] at h
    cases hcolon : (List.range text.length).find? fun i => [':'].isPrefixOf (text.drop i) with
    | some i =>
      rw [hcolon] at h
      exact hcut (by decide) hcolon h
    | none =>
      rw [hcolon] at h
      cases hequal : (List.range text.length).find? fun i => ['='].isPrefixOf (text.drop i) with
      | some i =>
        rw [hequal] at h
        exact hcut (by decide) hequal h
      | none =>
        rw [hequal] at h
        exact h

/-! ## Parts -/

/-- The pattern has a meaning in some modes. -/
def Node.Meaningful (node : Node) : Prop := ∃ m found, node.meaning? m = some found

/-- The contents of a class are a set in some modes. -/
def ClassItem.Meaningful (item : ClassItem) : Prop := ∃ m set, item.set? m = some set

namespace ClassItem

variable {items : List ClassItem} {item left right : ClassItem}

theorem meaningful_of_rangesOfItems? {ranges : List (Nat × Nat)}
    (h : rangesOfItems? m items = some ranges) : ∀ item ∈ items, item.Meaningful := by
  induction items generalizing ranges with
  | nil => simp
  | cons item items ih =>
    rw [rangesOfItems?] at h
    obtain ⟨set, hset, h⟩ := Option.bind_eq_some_iff.mp h
    obtain ⟨others, hothers, -⟩ := Option.bind_eq_some_iff.mp h
    exact List.forall_mem_cons.mpr ⟨⟨m, set, hset⟩, ih hothers⟩

theorem Meaningful.of_ofList (h : (ofList items).Meaningful) : ∀ item ∈ items, item.Meaningful := by
  unfold ofList at h
  split at h
  · simpa using h
  · obtain ⟨m, set, hset⟩ := h
    rw [set?] at hset
    obtain ⟨ranges, hranges, -⟩ := Option.map_eq_some_iff.mp hset
    exact meaningful_of_rangesOfItems? hranges

theorem Meaningful.of_combine {op : SetOp} (h : (combine op left right).Meaningful) :
    left.Meaningful ∧ right.Meaningful := by
  obtain ⟨m, set, hset⟩ := h
  rw [set?] at hset
  obtain ⟨leftSet, hleft, hset⟩ := Option.bind_eq_some_iff.mp hset
  obtain ⟨rightSet, hright, -⟩ := Option.bind_eq_some_iff.mp hset
  exact ⟨⟨m, leftSet, hleft⟩, ⟨m, rightSet, hright⟩⟩

theorem Meaningful.of_bracket (h : (bracket negated item).Meaningful) : item.Meaningful := by
  obtain ⟨m, set, hset⟩ := h
  rw [set?] at hset
  obtain ⟨inner, hinner, -⟩ := Option.bind_eq_some_iff.mp hset
  exact ⟨m, inner, hinner⟩

theorem Meaningful.inert {name : PropertyName} (h : (property name negated).Meaningful) :
    name.Inert := by
  obtain ⟨m, set, hset⟩ := h
  exact PropertyName.inert_of_propertySet? hset

end ClassItem

namespace Node

variable {nodes : List Node} {node : Node}

theorem meaningful_of_meanings? {found : List Expr × Modes} (h : meanings? m nodes = some found) :
    ∀ node ∈ nodes, node.Meaningful := by
  induction nodes generalizing m found with
  | nil => simp
  | cons node nodes ih =>
    rw [meanings?] at h
    obtain ⟨here, hhere, h⟩ := Option.bind_eq_some_iff.mp h
    obtain ⟨others, hothers, -⟩ := Option.bind_eq_some_iff.mp h
    exact List.forall_mem_cons.mpr ⟨⟨m, here, hhere⟩, ih hothers⟩

theorem Meaningful.of_ofParts (h : (ofParts nodes).Meaningful) :
    ∀ node ∈ nodes, node.Meaningful := by
  unfold ofParts at h
  split at h
  · simp
  · simpa using h
  · obtain ⟨m, found, hfound⟩ := h
    rw [meaning?] at hfound
    obtain ⟨parts, hparts, -⟩ := Option.bind_eq_some_iff.mp hfound
    exact meaningful_of_meanings? hparts

theorem Meaningful.of_ofBranches (h : (ofBranches nodes).Meaningful) :
    ∀ node ∈ nodes, node.Meaningful := by
  unfold ofBranches at h
  split at h
  · simpa using h
  · obtain ⟨m, found, hfound⟩ := h
    rw [meaning?] at hfound
    obtain ⟨branches, hbranches, -⟩ := Option.bind_eq_some_iff.mp hfound
    exact meaningful_of_meanings? hbranches

theorem Meaningful.of_repetition {least : Nat} {most : Option Nat} {greedy : Bool}
    (h : (repetition least most greedy node).Meaningful) : node.Meaningful := by
  obtain ⟨m, found, hfound⟩ := h
  rw [meaning?] at hfound
  obtain ⟨body, hbody, -⟩ := Option.bind_eq_some_iff.mp hfound
  exact ⟨m, body, hbody⟩

theorem Meaningful.of_capture (h : (capture node).Meaningful) : node.Meaningful := by
  obtain ⟨m, found, hfound⟩ := h
  rw [meaning?] at hfound
  obtain ⟨body, hbody, -⟩ := Option.bind_eq_some_iff.mp hfound
  exact ⟨m, body, hbody⟩

theorem Meaningful.of_group {changes : List FlagChange} (h : (group changes node).Meaningful) :
    node.Meaningful := by
  obtain ⟨m, found, hfound⟩ := h
  rw [meaning?] at hfound
  obtain ⟨body, hbody, -⟩ := Option.bind_eq_some_iff.mp hfound
  exact ⟨_, body, hbody⟩

theorem Meaningful.of_bracket {items : ClassItem} (h : (bracket negated items).Meaningful) :
    items.Meaningful := by
  obtain ⟨m, found, hfound⟩ := h
  rw [meaning?] at hfound
  obtain ⟨set, hset, -⟩ := Option.bind_eq_some_iff.mp hfound
  exact ⟨m, set, hset⟩

theorem Meaningful.inert {name : PropertyName} (h : (property name negated).Meaningful) :
    name.Inert := by
  obtain ⟨m, found, hfound⟩ := h
  rw [meaning?] at hfound
  obtain ⟨set, hset, -⟩ := Option.map_eq_some_iff.mp hfound
  exact PropertyName.inert_of_propertySet? hset

end Node

end Pattern

end ScriptLiterals
