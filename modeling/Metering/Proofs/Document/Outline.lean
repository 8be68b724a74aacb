import Metering.Proofs.Document.Key

/-!
Outlines: documents of named groups of named entries, a line for each, with plain text for values.

At the start of a line the reading depends on the open collections alone, so the lines of a group
come one after the other (`run?_entries`), and so do the groups (`run?_groups`). What is made of the
tokens are the groups with their entries (`readPairs?_groups`), and together this gives
`read?_outline`.
-/

namespace Metering.Document

/-! ### Outlines -/

/-- A name with plain text for its value. -/
structure Entry where
  name : String
  value : String

/-- A name with entries below it. -/
structure Group where
  name : String
  entries : List Entry

def Entry.line (e : Entry) : List Char :=
  ' ' :: ' ' :: (e.name.toList ++ ':' :: ' ' :: (e.value.toList ++ ['\n']))

def Group.lines (g : Group) : List Char :=
  g.name.toList ++ ':' :: '\n' :: g.entries.flatMap Entry.line

def Entry.tokens (e : Entry) : List Token :=
  [.key, .scalar e.name .plain, .value, .scalar e.value .plain]

def Group.tokens (g : Group) : List Token :=
  .key :: .scalar g.name .plain :: .value :: .startMap
    :: (g.entries.flatMap Entry.tokens ++ [.endBlock])

/-- The name is plain text, and short enough for a key. -/
structure IsName (name : String) : Prop where
  plain : IsPlain name.toList
  short : name.toList.length ≤ 1024

instance (name : String) : Decidable (IsName name) :=
  decidable_of_iff (IsPlain name.toList ∧ name.toList.length ≤ 1024)
    ⟨fun ⟨plain, short⟩ => ⟨plain, short⟩, fun ⟨plain, short⟩ => ⟨plain, short⟩⟩

structure Entry.Proper (e : Entry) : Prop where
  name : IsName e.name
  value : IsPlain e.value.toList

structure Group.Proper (g : Group) : Prop where
  name : IsName g.name
  entries : ∀ e ∈ g.entries, e.Proper
  some_entry : g.entries ≠ []

theorem Entry.proper_mk {name value : String} (is_name : IsName name)
    (plain : IsPlain value.toList) : Entry.Proper ⟨name, value⟩ :=
  ⟨is_name, plain⟩

theorem Group.proper_mk {name : String} {e : Entry} {es : List Entry} (is_name : IsName name)
    (proper : ∀ d ∈ e :: es, d.Proper) : Group.Proper ⟨name, e :: es⟩ :=
  ⟨is_name, proper, List.cons_ne_nil e es⟩

namespace Reading

theorem startsKey_of_isPlain {cs : List Char} (plain : IsPlain cs) (rest : List Char) :
    StartsKey (cs ++ rest) := by
  obtain ⟨c, cs, rfl, alphanum⟩ := plain.first
  intro d first
  obtain rfl : c = d := Option.some.inj first
  exact alphanum

theorem startsLine_entries {es : List Entry} (proper : ∀ e ∈ es, e.Proper) {rest : List Char}
    (line : StartsLine 2 rest) : StartsLine 2 (es.flatMap Entry.line ++ rest) := by
  cases es with
  | nil => exact line
  | cons e es =>
      obtain ⟨name, -⟩ := proper e List.mem_cons_self
      refine ⟨2, e.name.toList ++ ':' :: ' ' :: (e.value.toList ++ '\n' ::
        (es.flatMap Entry.line ++ rest)), ?_, Nat.le_refl 2, startsKey_of_isPlain name.plain _⟩
      simp [Entry.line, List.replicate]

/-- An entry is read in three rounds. -/
theorem run?_entry {e : Entry} (proper : e.Proper) {rest : List Char} (line : StartsLine 2 rest)
    {tokens tokens' : List Token} {blocks : List Nat}
    (entered : enter 2 tokens blocks = (tokens', [2, 0])) (l fuel : Nat) :
    run? (fuel + 3) (atKey (e.line ++ rest) (.inLine l 0) tokens blocks) =
      run? fuel (atKey rest (.inLine (l + 1) 0) (e.tokens.reverse ++ tokens') [2, 0]) := by
  have text : e.line ++ rest = List.replicate 2 ' ' ++
      (e.name.toList ++ ':' :: ' ' :: (e.value.toList ++ '\n' :: rest)) := by
    simp [Entry.line, List.replicate]
  have column : ((Position.inLine l 0).along 2).column = 2 := rfl
  have right : 2 ≤ (((Position.inLine l 0).along 2).along (e.name.toList.length + 1)).column :=
    Nat.le_trans (Nat.le_add_left 2 0) (Nat.le_add_right ..)
  rw [text, run?_indent, run?_key proper.name.plain proper.name.short rfl (fuel + 1), column,
    entered, run?_value proper.value line right]
  simp only [String.ofList_toList]
  rfl

/-- The entries after the first one. -/
theorem run?_entries {es : List Entry} (proper : ∀ e ∈ es, e.Proper) {rest : List Char}
    (line : StartsLine 2 rest) (tokens : List Token) (l fuel : Nat) :
    run? (fuel + 3 * es.length)
        (atKey (es.flatMap Entry.line ++ rest) (.inLine l 0) tokens [2, 0]) =
      run? fuel (atKey rest (.inLine (l + es.length) 0)
        ((es.flatMap Entry.tokens).reverse ++ tokens) [2, 0]) := by
  induction es generalizing tokens l with
  | nil => rfl
  | cons e es ih =>
      obtain ⟨first, others⟩ := List.forall_mem_cons.mp proper
      have rounds : fuel + 3 * (e :: es).length = fuel + 3 * es.length + 3 := by
        rw [List.length_cons]
        omega
      have entered : enter 2 tokens [2, 0] = (tokens, [2, 0]) := rfl
      rw [List.flatMap_cons, List.append_assoc, rounds,
        run?_entry first (startsLine_entries others line) entered, ih others, List.flatMap_cons,
        List.reverse_append, List.append_assoc, List.length_cons, Nat.add_right_comm,
        Nat.add_assoc]

theorem startsKey_groups {gs : List Group} (proper : ∀ g ∈ gs, g.Proper) :
    StartsKey (gs.flatMap Group.lines) := by
  cases gs with
  | nil => exact fun _ none => nomatch none
  | cons g gs =>
      rw [List.flatMap_cons, Group.lines, List.append_assoc]
      exact startsKey_of_isPlain (proper g List.mem_cons_self).name.plain _

/-- A line at the left edge ends the group before it. -/
theorem run?_dedent {rest : List Char} (key : StartsKey rest) (l : Nat) (tokens : List Token)
    (fuel : Nat) :
    run? fuel (atKey rest (.inLine l 0) tokens [2, 0]) =
      run? fuel (atKey rest (.inLine l 0) (.endBlock :: tokens) [0]) := by
  cases fuel with
  | zero => rfl
  | succ fuel =>
      cases rest with
      | nil => rfl
      | cons c cs =>
          have skipped : ∀ tokens blocks,
              (atKey (c :: cs) (.inLine l 0) tokens blocks).skip.expire? =
                some (atKey (c :: cs) (.inLine l 0) tokens blocks) := by
            intro tokens blocks
            rw [skip_atKey, skipGap_of_isAlphanum (key c rfl)]
            rfl
          rw [run?, run?, skipped, skipped]
          rfl

/-- The first entry starts the mapping that all entries of a group stand in. -/
theorem run?_first {es : List Entry} (proper : ∀ e ∈ es, e.Proper) (some_entry : es ≠ [])
    {rest : List Char} (line : StartsLine 2 rest) (tokens : List Token) (l fuel : Nat) :
    run? (fuel + 3 * es.length)
        (atKey (es.flatMap Entry.line ++ rest) (.inLine l 0) tokens [0]) =
      run? (fuel + 3 * es.length) (atKey (es.flatMap Entry.line ++ rest) (.inLine l 0)
        (.startMap :: tokens) [2, 0]) := by
  obtain ⟨e, es, rfl⟩ := List.exists_cons_of_ne_nil some_entry
  obtain ⟨first, others⟩ := List.forall_mem_cons.mp proper
  have starts : enter 2 tokens [0] = (.startMap :: tokens, [2, 0]) := rfl
  have stays : enter 2 (.startMap :: tokens) [2, 0] = (.startMap :: tokens, [2, 0]) := rfl
  have rounds : fuel + 3 * (e :: es).length = fuel + 3 * es.length + 3 := by
    rw [List.length_cons]
    omega
  have line' := startsLine_entries others line
  rw [List.flatMap_cons, List.append_assoc, rounds, run?_entry first line' starts,
    run?_entry first line' stays]

/-- A group is read in two rounds and in those of its entries. -/
theorem run?_group {g : Group} (proper : g.Proper) {rest : List Char} (key : StartsKey rest)
    {tokens tokens' : List Token} {blocks : List Nat}
    (entered : enter 0 tokens blocks = (tokens', [0])) (l fuel : Nat) :
    run? (fuel + 3 * g.entries.length + 2) (atKey (g.lines ++ rest) (.inLine l 0) tokens blocks) =
      run? fuel (atKey rest (.inLine (l + 1 + g.entries.length) 0)
        (g.tokens.reverse ++ tokens') [0]) := by
  have text : g.lines ++ rest =
      g.name.toList ++ ':' :: '\n' :: (g.entries.flatMap Entry.line ++ rest) := by
    simp [Group.lines]
  have line : StartsLine 2 rest := ⟨0, rest, rfl, Nat.zero_le 2, key⟩
  have column : (Position.inLine l 0).column = 0 := rfl
  rw [text, run?_key proper.name.plain proper.name.short rfl, column, entered, run?_break,
    run?_first proper.entries proper.some_entry line, run?_entries proper.entries line,
    run?_dedent key]
  simp [Group.tokens, Position.along, Position.inLine]

/-- Every round takes up a character at least. -/
theorem length_entry_lines (es : List Entry) : 3 * es.length ≤ (es.flatMap Entry.line).length := by
  induction es with
  | nil => exact Nat.le_refl 0
  | cons e es ih =>
      rw [List.flatMap_cons, List.length_append, Entry.line]
      simp only [List.length_cons, List.length_append]
      omega

theorem length_group_lines (g : Group) : 3 * g.entries.length + 2 ≤ g.lines.length := by
  have entries := length_entry_lines g.entries
  rw [Group.lines]
  simp only [List.length_cons, List.length_append]
  omega

/-- The groups after a first key at the left edge. -/
theorem run?_groups {gs : List Group} (proper : ∀ g ∈ gs, g.Proper) (tokens : List Token) (l : Nat)
    {fuel : Nat} (enough : (gs.flatMap Group.lines).length < fuel) :
    run? fuel (atKey (gs.flatMap Group.lines) (.inLine l 0) tokens [0]) =
      some (tokens.reverse ++ gs.flatMap Group.tokens ++ [.endBlock]) := by
  induction gs generalizing tokens l fuel with
  | nil =>
      obtain ⟨fuel, rfl⟩ := Nat.exists_eq_add_of_lt enough
      rw [List.flatMap_nil, List.flatMap_nil, List.append_nil]
      exact congrArg some List.reverse_cons
  | cons g gs ih =>
      obtain ⟨first, others⟩ := List.forall_mem_cons.mp proper
      have rounds := length_group_lines g
      rw [List.flatMap_cons, List.length_append] at enough
      obtain ⟨more, rfl⟩ : ∃ more, fuel = more + 3 * g.entries.length + 2 :=
        ⟨fuel - (3 * g.entries.length + 2), by omega⟩
      have entered : enter 0 tokens [0] = (tokens, [0]) := rfl
      rw [List.flatMap_cons, run?_group first (startsKey_groups others) entered,
        ih others _ _ (by omega)]
      simp

end Reading

/-- The tokens of an outline are those of its groups, within the mapping that they stand in. -/
theorem tokens?_outline {gs : List Group} (proper : ∀ g ∈ gs, g.Proper) (some_group : gs ≠ []) :
    tokens? (gs.flatMap Group.lines) =
      some (.startMap :: gs.flatMap Group.tokens ++ [.endBlock]) := by
  have opens : ∀ fuel, (gs.flatMap Group.lines).length < fuel →
      Reading.run? fuel (.atKey (gs.flatMap Group.lines) (.inLine 0 0) [] []) =
        Reading.run? fuel (.atKey (gs.flatMap Group.lines) (.inLine 0 0) [.startMap] [0]) := by
    intro fuel enough
    obtain ⟨g, gs, rfl⟩ := List.exists_cons_of_ne_nil some_group
    obtain ⟨first, others⟩ := List.forall_mem_cons.mp proper
    have rounds := Reading.length_group_lines g
    rw [List.flatMap_cons, List.length_append] at enough
    obtain ⟨more, rfl⟩ : ∃ more, fuel = more + 3 * g.entries.length + 2 :=
      ⟨fuel - (3 * g.entries.length + 2), by omega⟩
    have starts : Reading.enter 0 [] [] = ([.startMap], [0]) := rfl
    have stays : Reading.enter 0 [.startMap] [0] = ([.startMap], [0]) := rfl
    have key := Reading.startsKey_groups others
    rw [List.flatMap_cons, Reading.run?_group first key starts, Reading.run?_group first key stays]
  have enough := Nat.lt_succ_self (gs.flatMap Group.lines).length
  exact (opens _ enough).trans (Reading.run?_groups proper [.startMap] 0 enough)

/-! ### The nodes of an outline -/

def Entry.node (e : Entry) : Node × Node :=
  (.scalar e.name .plain none, .scalar e.value .plain none)

def Group.node (g : Group) : Node × Node :=
  (.scalar g.name .plain none, .map (g.entries.map Entry.node))

/-- A mapping that is shown by indentation, in a place where nothing else is said of it. -/
theorem readNode?_map (fuel : Nat) (place : Place) (indented : (place != .bracket) = true)
    (tokens : List Token) :
    readNode? (fuel + 2) place (.startMap :: tokens) =
      (readPairs? fuel tokens).map fun (entries, rest) => (.map entries, rest) := by
  have starts : Token.startMap.startsNode place = true := indented
  simp only [readNode?, takeProperties, List.head?_cons, Option.any_some, starts, if_true]
  change ((readPairs? fuel tokens).map _).map _ = _
  cases readPairs? fuel tokens <;> rfl

theorem readValue?_map (fuel : Nat) (tokens : List Token) :
    readValue? (fuel + 4) .entry (.value :: .startMap :: tokens) =
      (readPairs? fuel tokens).map fun (entries, rest) => (.map entries, rest) :=
  readNode?_map fuel .entry rfl tokens

/-- One entry of a mapping, and then the others. -/
theorem readPairs?_key (name : String) {fuel : Nat} {tokens more after : List Token} {node : Node}
    {entries : List (Node × Node)} (value : readValue? (fuel + 4) .entry tokens = some (node, more))
    (others : readPairs? (fuel + 4) more = some (entries, after)) :
    readPairs? (fuel + 5) (.key :: .scalar name .plain :: tokens) =
      some ((.scalar name .plain none, node) :: entries, after) := by
  have key : readOptional? (fuel + 4) .entry (.scalar name .plain :: tokens) =
      some (.scalar name .plain none, tokens) := rfl
  simp only [readPairs?, key, value, others, Option.bind_eq_bind, Option.bind_some]

theorem readPairs?_entries (es : List Entry) (rest : List Token) {fuel : Nat}
    (enough : es.length + 4 < fuel) :
    readPairs? fuel (es.flatMap Entry.tokens ++ .endBlock :: rest) =
      some (es.map Entry.node, rest) := by
  induction es generalizing fuel with
  | nil =>
      obtain ⟨fuel, rfl⟩ := Nat.exists_eq_add_of_lt enough
      rfl
  | cons e es ih =>
      rw [List.length_cons] at enough
      obtain ⟨fuel, rfl⟩ : ∃ more, fuel = more + 5 := ⟨fuel - 5, by omega⟩
      exact readPairs?_key e.name rfl (ih (by omega))

theorem length_entry_tokens (es : List Entry) :
    (es.flatMap Entry.tokens).length = 4 * es.length := by
  induction es with
  | nil => rfl
  | cons e es ih =>
      rw [List.flatMap_cons, List.length_append, ih, List.length_cons, Entry.tokens]
      simp only [List.length_cons, List.length_nil]
      omega

theorem readPairs?_groups (gs : List Group) (rest : List Token) {fuel : Nat}
    (enough : (gs.flatMap Group.tokens).length + 8 < fuel) :
    readPairs? fuel (gs.flatMap Group.tokens ++ .endBlock :: rest) =
      some (gs.map Group.node, rest) := by
  induction gs generalizing fuel with
  | nil =>
      obtain ⟨fuel, rfl⟩ := Nat.exists_eq_add_of_lt enough
      rfl
  | cons g gs ih =>
      have entries := length_entry_tokens g.entries
      simp only [List.flatMap_cons, Group.tokens, List.length_cons, List.length_append,
        List.length_nil] at enough
      obtain ⟨fuel, rfl⟩ : ∃ more, fuel = more + 5 := ⟨fuel - 5, by omega⟩
      simp only [List.flatMap_cons, Group.tokens, List.cons_append, List.append_assoc,
        List.nil_append]
      refine readPairs?_key g.name ?_ (ih (by omega))
      rw [readValue?_map, readPairs?_entries g.entries _ (by omega)]
      rfl

theorem readRoot?_map (tokens : List Token) :
    readRoot? (.startMap :: tokens) =
      readNode? (4 * (tokens.length + 1) + 4) .block (.startMap :: tokens) := by
  cases tokens <;> rfl

theorem nodeOfTokens?_outline (gs : List Group) :
    nodeOfTokens? (.startMap :: gs.flatMap Group.tokens ++ [.endBlock]) =
      some (.map (gs.map Group.node)) := by
  have root : readRoot? (.startMap :: (gs.flatMap Group.tokens ++ [.endBlock])) =
      some (.map (gs.map Group.node), []) := by
    have length : (gs.flatMap Group.tokens ++ [Token.endBlock]).length =
        (gs.flatMap Group.tokens).length + 1 := by
      rw [List.length_append, List.length_singleton]
    obtain ⟨fuel, enough⟩ : ∃ fuel,
        4 * ((gs.flatMap Group.tokens).length + 1 + 1) + 4 = fuel + 2 := ⟨_, rfl⟩
    rw [readRoot?_map, length, enough, readNode?_map fuel .block rfl,
      readPairs?_groups gs [] (by omega)]
    rfl
  have no_directive : (Token.startMap :: (gs.flatMap Group.tokens ++ [.endBlock])).dropWhile
      (· == .directive) = .startMap :: (gs.flatMap Group.tokens ++ [.endBlock]) := rfl
  simp only [nodeOfTokens?, List.cons_append, no_directive, root, Option.bind_eq_bind,
    Option.bind_some, beq_self_eq_true, Bool.true_or, List.all_nil, Bool.and_self, if_true]

/-! ### The text of an outline -/

/-- Characters of an outline. -/
def isOutlineChar (c : Char) : Bool :=
  isInline c || c == ':' || c == '\n'

theorem isDocumentChar_of_isOutlineChar {c : Char} (char : isOutlineChar c = true) :
    isDocumentChar c = true := by
  simp only [isOutlineChar, Bool.or_eq_true, beq_iff_eq] at char
  rcases char with (inline | rfl) | rfl
  · obtain ⟨lower, upper⟩ := printable_of_isInline inline
    simp [isDocumentChar, lower, upper]
  · rfl
  · rfl

/-- A text whose lines end in the common way stays as it is. -/
theorem unifyBreaks_eq_self {cs : List Char} (plain : ∀ c ∈ cs, isOutlineChar c = true) :
    unifyBreaks cs = cs := by
  fun_induction unifyBreaks cs with
  | case1 => rfl
  | case2 rest ih => exact absurd (plain '\r' List.mem_cons_self) (by decide)
  | case3 c rest other ih =>
      obtain ⟨char, plain⟩ := List.forall_mem_cons.mp plain
      have same : (c == '\r' || c == '\u0085') = false := by
        refine Bool.or_eq_false_iff.mpr ⟨beq_false_of_ne ?_, beq_false_of_ne ?_⟩
        · rintro rfl
          cases char
        · rintro rfl
          cases char
      rw [same, ih plain]
      rfl

theorem IsPlain.isOutlineChar {cs : List Char} (plain : IsPlain cs) {c : Char} (member : c ∈ cs) :
    isOutlineChar c = true := by
  rw [Document.isOutlineChar, plain.inside c member]
  rfl

theorem isOutlineChar_of_mem_line {e : Entry} (proper : e.Proper) {c : Char} (member : c ∈ e.line) :
    isOutlineChar c = true := by
  simp only [Entry.line, List.mem_cons, List.mem_append, List.not_mem_nil, or_false] at member
  rcases member with rfl | rfl | name | rfl | rfl | value | rfl
  · rfl
  · rfl
  · exact proper.name.plain.isOutlineChar name
  · rfl
  · rfl
  · exact proper.value.isOutlineChar value
  · rfl

theorem isOutlineChar_of_mem {gs : List Group} (proper : ∀ g ∈ gs, g.Proper) {c : Char}
    (member : c ∈ gs.flatMap Group.lines) : isOutlineChar c = true := by
  obtain ⟨g, listed, member⟩ := List.mem_flatMap.mp member
  simp only [Group.lines, List.mem_cons, List.mem_append] at member
  rcases member with name | rfl | rfl | entries
  · exact (proper g listed).name.plain.isOutlineChar name
  · rfl
  · rfl
  · obtain ⟨e, listed', member⟩ := List.mem_flatMap.mp entries
    exact isOutlineChar_of_mem_line ((proper g listed).entries e listed') member

/-- **An outline is read as its groups and their entries.** -/
theorem read?_outline {text : String} {gs : List Group} (proper : ∀ g ∈ gs, g.Proper)
    (some_group : gs ≠ []) (written : text.toList = gs.flatMap Group.lines) :
    read? text = some (.map (gs.map Group.node)) := by
  have chars : ∀ c ∈ gs.flatMap Group.lines, isOutlineChar c = true :=
    fun c member => isOutlineChar_of_mem proper member
  have all : (gs.flatMap Group.lines).all isDocumentChar = true :=
    List.all_eq_true.mpr fun c member => isDocumentChar_of_isOutlineChar (chars c member)
  rw [read?, written, all, if_pos rfl, unifyBreaks_eq_self chars, tokens?_outline proper some_group,
    Option.bind_some, nodeOfTokens?_outline]

end Metering.Document
