import Metering.Proofs.Document.Plain

/-!
Keys and values of a document that is shown by indentation.

The tokens of a text are found in rounds. `run?_key` and `run?_value` say what the rounds for a key
and for its value come to: which tokens they add, and where the reading goes on. What a key does to
the open collections depends on its column alone (`Reading.enter`).
-/

namespace Metering.Document

open Metering.Text (beq_false_of_kind)

/-! ### Rounds -/

namespace Reading

/-- The reading at a place where a key can start. -/
def atKey (rest : List Char) (position : Position) (tokens : List Token) (blocks : List Nat) :
    Reading :=
  { rest, position, tokens, blocks }

/-- The reading after the colon of a key. -/
def atValue (rest : List Char) (position : Position) (tokens : List Token) (blocks : List Nat) :
    Reading :=
  { rest, position, tokens, blocks, keyAllowed := false }

theorem run?_round {r s t : Reading} {c : Char} {rest : List Char} (fuel : Nat)
    (skipped : r.skip.expire? = some s) (more : s.rest = c :: rest)
    (read : (s.closeBlocks (s.position.column < ·)).token? c rest = some t) :
    run? (fuel + 1) r = run? fuel t := by
  simp only [run?, skipped, Option.bind_eq_bind, Option.bind_some, more, read]

/-- A reading goes on from what is left after a gap. -/
theorem run?_congr {r s : Reading} (same : r.skip = s.skip) (fuel : Nat) :
    run? fuel r = run? fuel s := by
  cases fuel with
  | zero => rfl
  | succ fuel => rw [run?, run?, same]

theorem skipGap_of_isAlphanum {c : Char} (alphanum : c.isAlphanum = true) (keyAllowed : Bool)
    (p : Position) (rest : List Char) :
    skipGap false false keyAllowed p (c :: rest) = (keyAllowed, p, c :: rest) := by
  have inline := isInline_of_isAlphanum alphanum
  simp only [skipGap, isBreak_of_isInline inline, beq_false_of_kind alphanum (d := ' ') rfl,
    beq_false_of_kind alphanum (d := '\t') rfl, beq_false_of_kind alphanum (d := '#') rfl,
    beq_false_of_kind alphanum (d := '\ufeff') rfl, Bool.false_and, Bool.and_false, Bool.or_self,
    Bool.false_eq_true, if_false]

/-- Blanks before a key are passed over. -/
theorem skipGap_indent {rest : List Char} (n : Nat) (keyAllowed : Bool) (p : Position) :
    skipGap false false keyAllowed p (List.replicate n ' ' ++ rest) =
      skipGap false false keyAllowed (p.along n) rest := by
  induction n generalizing p with
  | zero => rfl
  | succ n ih =>
      have next : p.next ' ' = p.along 1 := p.next_of_isInline rfl
      rw [List.replicate_succ, List.cons_append, skipGap]
      simp only [next, ih, Position.along_along, Nat.add_comm]
      rfl

theorem skip_atKey (rest : List Char) (p : Position) (tokens : List Token) (blocks : List Nat) :
    (atKey rest p tokens blocks).skip =
      let gap := skipGap false false true p rest
      { atKey gap.2.2 gap.2.1 tokens blocks with keyAllowed := gap.1 } :=
  rfl

theorem skip_atValue (rest : List Char) (p : Position) (tokens : List Token) (blocks : List Nat) :
    (atValue rest p tokens blocks).skip =
      let gap := skipGap false false false p rest
      { atKey gap.2.2 gap.2.1 tokens blocks with keyAllowed := gap.1 } :=
  rfl

/-- A letter or a digit starts a plain scalar. -/
theorem token?_of_isAlphanum (r : Reading) {c : Char} (alphanum : c.isAlphanum = true)
    (rest : List Char) : r.token? c rest = r.plain? := by
  have other : ∀ {d : Char}, d.isAlphanum = false → (c == d) = false := beq_false_of_kind alphanum
  have no_divider : atDivider (c :: rest) = false := by
    unfold atDivider
    split
    · rename_i same
      obtain rfl := (List.cons.inj same).1
      cases alphanum
    · rename_i same
      obtain rfl := (List.cons.inj same).1
      cases alphanum
    · rfl
  have not_reserved : isReserved c = false := by
    simp only [isReserved, List.contains_cons, List.contains_nil, other (d := '|') rfl,
      other (d := '>') rfl, other (d := '%') rfl, other (d := '@') rfl, other (d := '\x60') rfl,
      other (d := '\t') rfl, Bool.or_self]
  simp only [token?, no_divider, not_reserved, other (d := '%') rfl, other (d := '[') rfl,
    other (d := '\x7b') rfl, other (d := ']') rfl, other (d := '\x7d') rfl, other (d := ',') rfl,
    other (d := '-') rfl, other (d := '?') rfl, other (d := ':') rfl, other (d := '*') rfl,
    other (d := '&') rfl, other (d := '!') rfl, other (d := '|') rfl, other (d := '>') rfl,
    other (d := '"') rfl, other (d := '\'') rfl, Bool.false_and, Bool.and_false, Bool.or_self,
    Bool.false_eq_true, if_false]

/-! ### Keys -/

/-- The reading at the colon after a key, which is still a candidate. -/
def atColon (rest : List Char) (start : Position) (length : Nat) (name : String)
    (tokens : List Token) (blocks : List Nat) : Reading :=
  { rest, position := start.along length, tokens := .scalar name .plain :: tokens, blocks,
    keyAllowed := false,
    candidate := some ⟨tokens.length, start, blocks.head? == some start.column⟩ }

theorem plain?_key {name rest : List Char} (plain : IsPlain name) (gap : atGap rest = true)
    (p : Position) (tokens : List Token) (blocks : List Nat) :
    (atKey (name ++ ':' :: rest) p tokens blocks).plain? =
      some (atColon (':' :: rest) p name.length (String.ofList name) tokens blocks) := by
  have taken : takePlain? false (atKey (name ++ ':' :: rest) p tokens blocks).least {} p
      (name ++ ':' :: rest) = some ⟨name, false, ':' :: rest, p.along name.length⟩ :=
    takePlain?_inline plain.inside plain.last (fun _ => rfl) (takePlain?_colon gap)
  have marked : (atKey (name ++ ':' :: rest) p tokens blocks).markCandidate? = some
      { atKey (name ++ ':' :: rest) p tokens blocks with
        candidate := some ⟨tokens.length, p, blocks.head? == some p.column⟩ } := rfl
  rw [plain?, marked]
  exact congrArg (Option.bind · _) taken

/-- A collection starts at the given column, unless one is open there. -/
def opened (column : Nat) (tokens : List Token) (blocks : List Nat) : List Token × List Nat :=
  if blocks.head?.all (· < column) then (.startMap :: tokens, column :: blocks)
  else (tokens, blocks)

/-- What a key at the given column does to the open collections: those right of it end, and one
starts there unless one is open there. -/
def enter (column : Nat) (tokens : List Token) (blocks : List Nat) : List Token × List Nat :=
  opened column ((blocks.takeWhile (column < ·)).map (fun _ => Token.endBlock) ++ tokens)
    (blocks.dropWhile (column < ·))

/-- A token is put before those that came later. -/
theorem insert_of_append (r : Reading) (later earlier : List Token)
    (tokens : r.tokens = later ++ earlier) (t : Token) :
    r.insert earlier.length t = { r with tokens := later ++ t :: earlier } := by
  have count : (later ++ earlier).length - earlier.length = later.length := by
    rw [List.length_append, Nat.add_sub_cancel]
  simp only [insert, tokens, count, List.take_left, List.drop_left]

/-- A mapping that starts at a key starts before it. -/
theorem openBlock_of_append (r : Reading) (later earlier : List Token)
    (tokens : r.tokens = later ++ earlier) (outside : r.outer = []) (column : Nat) :
    r.openBlock .startMap column earlier.length =
      { r with
        tokens := later ++ (opened column earlier r.blocks).1
        blocks := (opened column earlier r.blocks).2 } := by
  have outside' : r.inBrackets = false := by rw [inBrackets, outside]; rfl
  unfold openBlock opened
  rw [outside', insert_of_append r later earlier tokens, Bool.false_or]
  by_cases opens : r.blocks.head?.all (· < column) = true
  · rw [if_pos opens, if_neg (by rw [opens]; decide)]
  · rw [if_neg opens, if_pos (by rw [Bool.not_eq_true] at opens; rw [opens]; rfl), ← tokens]

theorem colon?_key (rest : List Char) (start : Position) (length : Nat) (name : String)
    (tokens : List Token) (blocks : List Nat) :
    (atColon (':' :: rest) start length name tokens blocks).colon? =
      some (atValue rest (start.along (length + 1))
        (.value :: .scalar name .plain :: .key :: (opened start.column tokens blocks).1)
        (opened start.column tokens blocks).2) := by
  have keyed := insert_of_append (atColon (':' :: rest) start length name tokens blocks)
    [.scalar name .plain] tokens rfl .key
  have started := openBlock_of_append
    { atColon (':' :: rest) start length name tokens blocks with
      tokens := [.scalar name .plain] ++ .key :: tokens }
    [.scalar name .plain, .key] tokens rfl rfl start.column
  rw [← keyed] at started
  unfold colon?
  simp only [atColon] at started ⊢
  rw [started]
  rfl

/-- Nothing ends where nothing lies further right. -/
theorem closeBlocks_of_head? {r : Reading} {closes : Nat → Bool}
    (stays : ∀ column ∈ r.blocks.head?, closes column = false) : r.closeBlocks closes = r := by
  have none_dropped : r.blocks.dropWhile closes = r.blocks := by
    cases blocks : r.blocks with
    | nil => rfl
    | cons column outer =>
        rw [blocks] at stays
        exact List.dropWhile_cons_of_neg (by rw [stays column rfl]; decide)
  have none_taken : r.blocks.takeWhile closes = [] := by
    cases blocks : r.blocks with
    | nil => rfl
    | cons column outer =>
        rw [blocks] at stays
        exact List.takeWhile_cons_of_neg (by rw [stays column rfl]; decide)
  rw [closeBlocks, none_dropped, none_taken]
  split <;> rfl

/-- Outside brackets a colon with a gap after it shows a key. -/
theorem token?_colon (r : Reading) {rest : List Char} (gap : atGap rest = true) :
    r.token? ':' rest = r.colon? := by
  simp [token?, atDivider, gap]

theorem skip_atColon (rest : List Char) (start : Position) (length : Nat) (name : String)
    (tokens : List Token) (blocks : List Nat) :
    (atColon (':' :: rest) start length name tokens blocks).skip =
      atColon (':' :: rest) start length name tokens blocks := by
  have stops : skipGap false false false (start.along length) (':' :: rest) =
      (false, start.along length, ':' :: rest) := by
    simp [skipGap, isBreak]
  change (let gap := skipGap false false false (start.along length) (':' :: rest)
    ({ atColon (':' :: rest) start length name tokens blocks with
      keyAllowed := gap.1, position := gap.2.1, rest := gap.2.2 } : Reading)) = _
  rw [stops]
  rfl

/-- A colon on the line of its key is not too late. -/
theorem expire?_atColon {length : Nat} (short : length ≤ 1024) (rest : List Char)
    (start : Position) (name : String) (tokens : List Token) (blocks : List Nat) :
    (atColon rest start length name tokens blocks).expire? =
      some (atColon rest start length name tokens blocks) := by
  have in_time : ∀ required, (⟨tokens.length, start, required⟩ : Candidate).expired
      (start.along length) = false := by
    intro required
    have same_line : ¬ start.line < start.line := Nat.lt_irrefl _
    have near : ¬ start.width + 1024 < start.width + length := by omega
    simp only [Candidate.expired, Position.along, same_line, near, decide_false, Bool.or_self]
  simp [expire?, atColon, in_time]

theorem run?_colon {length : Nat} (short : length ≤ 1024) {rest : List Char}
    (gap : atGap rest = true) {start : Position} {blocks : List Nat}
    (left : ∀ column ∈ blocks.head?, column ≤ start.column) (name : String) (tokens : List Token)
    (fuel : Nat) :
    run? (fuel + 1) (atColon (':' :: rest) start length name tokens blocks) =
      run? fuel (atValue rest (start.along (length + 1))
        (.value :: .scalar name .plain :: .key :: (opened start.column tokens blocks).1)
        (opened start.column tokens blocks).2) := by
  refine run?_round fuel (s := atColon (':' :: rest) start length name tokens blocks) ?_ rfl ?_
  · rw [skip_atColon, expire?_atColon short]
  · rw [closeBlocks_of_head?, token?_colon _ gap, colon?_key]
    intro column member
    have := left column member
    refine decide_eq_false ?_
    change ¬ start.column + length < column
    omega

/-- A key is read in two rounds, the second one at its colon. -/
theorem run?_key {name rest : List Char} (plain : IsPlain name) (short : name.length ≤ 1024)
    (gap : atGap rest = true) (fuel : Nat) (p : Position) (tokens : List Token)
    (blocks : List Nat) :
    run? (fuel + 2) (atKey (name ++ ':' :: rest) p tokens blocks) =
      run? fuel (atValue rest (p.along (name.length + 1))
        (.value :: .scalar (String.ofList name) .plain :: .key :: (enter p.column tokens blocks).1)
        (enter p.column tokens blocks).2) := by
  obtain ⟨c, cs, split, alphanum⟩ := plain.first
  have text : name ++ ':' :: rest = c :: (cs ++ ':' :: rest) := by rw [split, List.cons_append]
  have left : ∀ column ∈ (blocks.dropWhile (p.column < ·)).head?, column ≤ p.column := by
    intro column member
    have stops := List.head?_dropWhile_not (p.column < ·) blocks
    rw [Option.mem_def.mp member] at stops
    exact Nat.not_lt.mp (of_decide_eq_false stops)
  have first : run? (fuel + 2) (atKey (name ++ ':' :: rest) p tokens blocks) =
      run? (fuel + 1) (atColon (':' :: rest) p name.length (String.ofList name)
        ((blocks.takeWhile (p.column < ·)).map (fun _ => Token.endBlock) ++ tokens)
        (blocks.dropWhile (p.column < ·))) := by
    refine run?_round (fuel + 1) (s := atKey (name ++ ':' :: rest) p tokens blocks) ?_ text ?_
    · rw [text, skip_atKey, skipGap_of_isAlphanum alphanum]
      rfl
    · rw [token?_of_isAlphanum _ alphanum]
      exact plain?_key plain gap p _ _
  rw [first, run?_colon short gap left]
  rfl

/-! ### Lines -/

/-- Blanks at the start of a line only count when something follows. -/
theorem run?_indent (n : Nat) (rest : List Char) (p : Position) (tokens : List Token)
    (blocks : List Nat) (fuel : Nat) :
    run? fuel (atKey (List.replicate n ' ' ++ rest) p tokens blocks) =
      run? fuel (atKey rest (p.along n) tokens blocks) := by
  have passed : skipGap false false true p (List.replicate n ' ' ++ rest) =
      skipGap false false true (p.along n) rest := skipGap_indent n true p
  refine run?_congr ?_ fuel
  rw [skip_atKey, passed, skip_atKey]

/-- After a key alone on its line the next line follows. -/
theorem run?_break (rest : List Char) (p : Position) (tokens : List Token) (blocks : List Nat)
    (fuel : Nat) :
    run? fuel (atValue ('\n' :: rest) p tokens blocks) =
      run? fuel (atKey rest (.inLine (p.line + 1) 0) tokens blocks) := by
  refine run?_congr ?_ fuel
  rw [skip_atValue, skip_atKey]
  rfl

/-- A line that does not start right of the given column, or the end of the text. -/
def StartsLine (column : Nat) (cs : List Char) : Prop :=
  ∃ n rest, cs = List.replicate n ' ' ++ rest ∧ n ≤ column ∧ StartsKey rest

theorem run?_value {value rest : List Char} (plain : IsPlain value) {column : Nat}
    (line : StartsLine column rest) {p : Position} (right : column ≤ p.column)
    (tokens : List Token) (outer : List Nat) (fuel : Nat) :
    run? (fuel + 1) (atValue (' ' :: (value ++ '\n' :: rest)) p tokens (column :: outer)) =
      run? fuel (atKey rest (.inLine (p.line + 1) 0)
        (.scalar (String.ofList value) .plain :: tokens) (column :: outer)) := by
  obtain ⟨n, rest, rfl, left, key⟩ := line
  obtain ⟨c, cs, split, alphanum⟩ := plain.first
  have text : value ++ '\n' :: (List.replicate n ' ' ++ rest) =
      c :: (cs ++ '\n' :: (List.replicate n ' ' ++ rest)) := by rw [split, List.cons_append]
  have skipped : (atValue (' ' :: (value ++ '\n' :: (List.replicate n ' ' ++ rest))) p tokens
      (column :: outer)).skip =
      atValue (value ++ '\n' :: (List.replicate n ' ' ++ rest)) (p.along 1) tokens
        (column :: outer) := by
    have passed : skipGap false false false p
        (' ' :: (value ++ '\n' :: (List.replicate n ' ' ++ rest))) =
        (false, p.along 1, value ++ '\n' :: (List.replicate n ' ' ++ rest)) := by
      rw [text]
      exact (skipGap_indent 1 false p).trans (skipGap_of_isAlphanum alphanum ..)
    rw [skip_atValue, passed]
    rfl
  have taken := takePlain?_inline plain.inside plain.last (fun _ => rfl)
    (takePlain?_break (p := (p.along 1).along value.length) (Nat.lt_succ_of_le left) key)
  have read : run? (fuel + 1) (atValue (' ' :: (value ++ '\n' :: (List.replicate n ' ' ++ rest)))
      p tokens (column :: outer)) =
      run? fuel (atKey rest (.inLine (p.line + 1) n)
        (.scalar (String.ofList value) .plain :: tokens) (column :: outer)) := by
    refine run?_round fuel (by rw [skipped]; rfl) text ?_
    rw [closeBlocks_of_head?, token?_of_isAlphanum _ alphanum]
    · exact congrArg (Option.bind · _) taken
    · intro column' member
      obtain rfl : column = column' := Option.some.inj member
      refine decide_eq_false ?_
      change ¬ p.column + 1 < column
      omega
  rw [read, run?_indent]
  simp only [Position.along, Position.inLine, Nat.zero_add]

end Reading

end Metering.Document
