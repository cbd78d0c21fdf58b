import Mathlib.Data.List.DropRight
import Stagehand.Proofs.Yaml.Scalar
import Stagehand.Yaml.Tokens

/-! # The tokens of data in braces

A text in braces is read piece by piece.  Between two pieces the scan is in one of a few spots, which
say how many braces are open and whether a name may come; nothing else of what it remembers matters
there, as no block is open and every key has met its colon.
-/

set_option autoImplicit false

namespace Stagehand.Yaml

/-! ## Where a piece may stand -/

/-- The tokens that a piece is read as. -/
def Piece.tokens : Piece → List Token
  | opening => [.flowMappingStart]
  | closing => [.flowMappingEnd]
  | comma => [.flowEntry]
  | name title => [.key, .scalar title.toList .doubleQuoted, .value]
  | text value => [.scalar value.toList .doubleQuoted]
  | bare word => [.scalar word .plain]

/-- A place between two pieces. -/
inductive Spot where
  /-- Before the whole value. -/
  | outer
  /-- Where a name may come, inside one pair of braces and some more. -/
  | member (more : Nat)
  /-- After the colon of a name, inside one pair of braces and some more. -/
  | value (more : Nat)
  /-- After a value, inside some pairs of braces. -/
  | done (depth : Nat)
deriving DecidableEq, Inhabited, Repr

namespace Spot

/-- The pairs of braces that are open. -/
def depth : Spot → Nat
  | outer => 0
  | member more => more + 1
  | value more => more + 1
  | done depth => depth

/-- Whether a key may begin, where that matters. -/
def allows : Spot → Option Bool
  | outer => some true
  | member _ => some true
  | value _ => some false
  | done _ => none

/-- The spot after a piece that may stand here. -/
def next? : Spot → Piece → Option Spot
  | outer, .opening => some (member 0)
  | member more, .name _ => some (value more)
  | member more, .closing => some (done more)
  | value more, .text _ => some (done (more + 1))
  | value more, .bare _ => some (done (more + 1))
  | value more, .opening => some (member (more + 1))
  | done (more + 1), .comma => some (member more)
  | done (more + 1), .closing => some (done more)
  | _, _ => none

variable {spot next : Spot}

/-- A text or a bare word comes after a name only. -/
theorem next?_leaf {piece : Piece} (leaf : (∃ value, piece = .text value) ∨ ∃ word, piece = .bare word)
    (moves : spot.next? piece = some next) :
    ∃ more, spot = value more ∧ next = done (more + 1) := by
  rcases leaf with ⟨text, rfl⟩ | ⟨word, rfl⟩ <;>
    cases spot with
    | value more => exact ⟨more, rfl, (Option.some.inj moves).symm⟩
    | done depth => cases depth <;> cases moves
    | _ => cases moves

theorem next?_name {title : String} (moves : spot.next? (.name title) = some next) :
    ∃ more, spot = member more ∧ next = value more := by
  cases spot with
  | member more => exact ⟨more, rfl, (Option.some.inj moves).symm⟩
  | done depth => cases depth <;> cases moves
  | _ => cases moves

theorem next?_comma (moves : spot.next? .comma = some next) :
    ∃ more, spot = done (more + 1) ∧ next = member more := by
  rcases spot with _ | _ | _ | (_ | more)
  case done.succ => exact ⟨more, rfl, (Option.some.inj moves).symm⟩
  all_goals cases moves

theorem next?_closing (moves : spot.next? .closing = some next) :
    ∃ more, spot.depth = more + 1 ∧ next = done more := by
  rcases spot with _ | more | _ | (_ | more)
  case member => exact ⟨more, rfl, (Option.some.inj moves).symm⟩
  case done.succ => exact ⟨more, rfl, (Option.some.inj moves).symm⟩
  all_goals cases moves

end Spot

namespace Written

theorem split {piece : Piece} {others : List Piece} {text : List Char}
    (written : Written (piece :: others) text) :
    ∃ layout chars rest, text = layout ++ (chars ++ rest) ∧ (∀ c ∈ layout, IsLayout c) ∧
      piece.Spells chars ∧ Written others rest := by
  generalize whole : piece :: others = pieces at written
  induction written with
  | nil => cases whole
  | layout indents _ ih =>
      obtain ⟨layout, chars, rest, rfl, within, spelled, later⟩ := ih whole
      exact ⟨_ :: layout, chars, rest, rfl, List.forall_mem_cons.mpr ⟨indents, within⟩, spelled,
        later⟩
  | piece spelled later =>
      cases whole
      exact ⟨[], _, _, rfl, by simp, spelled, later⟩

end Written

/-- The text from its next piece on. -/
def trimmed (text : List Char) : List Char :=
  text.dropWhile fun c => decide (IsLayout c)

theorem trimmed_cons_layout {c : Char} (layout : IsLayout c) (rest : List Char) :
    trimmed (c :: rest) = trimmed rest :=
  List.dropWhile_cons_of_pos (by simpa using layout)

theorem trimmed_of_start {c : Char} {rest : List Char} (start : IsStart c) :
    trimmed (c :: rest) = c :: rest :=
  List.dropWhile_cons_of_neg (by simpa using start.not_layout)

theorem split_of_trimmed {text rest : List Char} (same : trimmed text = rest) :
    ∃ layout, text = layout ++ rest ∧ ∀ c ∈ layout, IsLayout c := by
  subst same
  exact ⟨_, List.takeWhile_append_dropWhile.symm,
    fun c member => by simpa using List.mem_takeWhile_imp member⟩

namespace Closes

variable {rest others : List Char} {mark : Char}

theorem isStart (closes : Closes rest mark others) : IsStart mark := by
  rcases closes.mark with rfl | rfl <;> exact Or.inr (by decide)

theorem trimmed_eq (closes : Closes rest mark others) : trimmed rest = mark :: others := by
  obtain ⟨⟨layout, rfl, indents⟩, -⟩ := id closes
  rw [trimmed, List.dropWhile_append_of_pos (by simpa using indents)]
  exact trimmed_of_start closes.isStart

theorem length_le (closes : Closes rest mark others) : others.length + 1 ≤ rest.length := by
  obtain ⟨⟨layout, rfl, -⟩, -⟩ := closes
  exact (List.suffix_append layout (mark :: others)).length_le

end Closes

namespace Scan

variable {scan : Scan} {bound : Nat}

/-! ## Up to the next piece -/

/-- The spaces of one line are skipped, and a line feed behind them leads to the next line. -/
theorem skipGap_line {spaces rest : List Char} (blank : ∀ c ∈ spaces, c = ' ')
    (ahead : scan.cursor.rest = spaces ++ rest)
    (starts : ∀ c, rest.head? = some c → IsStart c ∨ c = '\n') :
    skipGap (bound + 1) scan =
      if rest.head? = some '\n' then
        skipGap bound ((scan.moveTo (scan.cursor.advance spaces.length).nextLine).allowKey
          (scan.keyAllowed || !scan.inFlow))
      else scan.moveTo (scan.cursor.advance spaces.length) := by
  have unmarked : scan.cursor.peek? ≠ some '\uFEFF' := by
    rw [Cursor.peek?, ahead]
    cases spaces with
    | nil =>
        intro found
        rcases starts _ found with start | feed
        · exact start.ne _ (by decide) (by decide) rfl
        · exact absurd feed (by decide)
    | cons c others =>
        rw [(List.forall_mem_cons.mp blank).1, List.cons_append, List.head?_cons]
        decide
  have skipped (tabs : Bool) :
      scan.cursor.skipWhile (fun c => decide (c = ' ') || (tabs && decide (c = '\t'))) =
        scan.cursor.advance spaces.length := by
    refine Cursor.skipWhile_append (fun c member => by simp [blank c member]) ahead
      fun c found => ?_
    rcases starts c found with start | rfl
    · simp [start.ne ' ' (by decide) (by decide),
        start.ne '\t' (by decide) (by decide)]
    · simp
  have behind := Cursor.rest_advance ahead
  rw [skipGap]
  simp only [unmarked, decide_false, Bool.and_false, Bool.false_eq_true, if_false, skipped]
  generalize scan.cursor.advance spaces.length = here at behind ⊢
  cases rest with
  | nil => simp [Cursor.peek?, behind]
  | cons c others =>
      rcases starts c rfl with start | rfl
      · have hash : c ≠ '#' := start.ne '#' (by decide) (by decide)
        have feed : c ≠ '\n' := start.ne '\n' (by decide) (by decide)
        simp [Cursor.peek?, behind, hash, feed, isBreak_of_printable start.printable]
      · simp [Cursor.peek?, behind, isBreak]

theorem skipGap_layout {layout rest : List Char} (indents : ∀ c ∈ layout, IsLayout c)
    (ahead : scan.cursor.rest = layout ++ rest) (starts : ∀ c, rest.head? = some c → IsStart c)
    (enough : layout.length < bound) :
    ∃ cursor allowed,
      skipGap bound scan = { scan with cursor := cursor, keyAllowed := allowed } ∧
      cursor.rest = rest ∧
      (allowed = scan.keyAllowed ∨ scan.inFlow = false ∧ allowed = true) := by
  induction bound generalizing scan layout with
  | zero => exact absurd enough (Nat.not_lt_zero _)
  | succ bound ih =>
      by_cases feed : '\n' ∈ layout
      · obtain ⟨spaces, later, rfl, free⟩ := List.eq_append_cons_of_mem feed
        have blank : ∀ c ∈ spaces, c = ' ' := fun c member =>
          (indents c (List.mem_append_left _ member)).resolve_right
            fun same => free (same ▸ member)
        rw [List.append_assoc] at ahead
        have line : skipGap (bound + 1) scan =
            skipGap bound ((scan.moveTo (scan.cursor.advance spaces.length).nextLine).allowKey
              (scan.keyAllowed || !scan.inFlow)) := by
          rw [skipGap_line blank ahead fun c found => Or.inr (Option.some.inj found).symm]
          rfl
        have behind : (scan.cursor.advance spaces.length).nextLine.rest = later ++ rest := by
          rw [Cursor.nextLine, Cursor.rest_advance ahead]
          rfl
        obtain ⟨cursor, allowed, skipped, stop, kept⟩ := @ih
          ((scan.moveTo (scan.cursor.advance spaces.length).nextLine).allowKey
            (scan.keyAllowed || !scan.inFlow)) later
          (fun c member => indents c (List.mem_append_right _ (List.mem_cons_of_mem _ member)))
          behind (by rw [List.length_append, List.length_cons] at enough; omega)
        refine ⟨cursor, allowed, line.trans skipped, stop, ?_⟩
        change allowed = (scan.keyAllowed || !scan.inFlow) ∨ scan.inFlow = false ∧ allowed = true
          at kept
        cases flow : scan.inFlow <;> simp_all
      · have blank : ∀ c ∈ layout, c = ' ' := fun c member =>
          (indents c member).resolve_right fun same => feed (same ▸ member)
        refine ⟨scan.cursor.advance layout.length, scan.keyAllowed, ?_, Cursor.rest_advance ahead,
          Or.inl rfl⟩
        rw [skipGap_line blank ahead fun c found => Or.inl (starts c found), if_neg]
        · rfl
        · exact fun found => (starts _ found).not_layout (Or.inr rfl)

/-! ## Between two pieces -/

/-- The scan is in a spot of a text, of which it has read the tokens. -/
structure Stands (scan : Scan) (spot : Spot) (tokens : List Token) (text : List Char) : Prop where
  ahead : trimmed scan.cursor.rest = trimmed text
  read : scan.tokens = tokens.reverse
  count : scan.tokenCount = tokens.length
  indents : scan.indents = []
  flowKeys : scan.flowKeys = List.replicate spot.depth none
  blockKey : ∀ key, scan.blockKey = some key → key.required = false
  keyAllowed : ∀ allowed, spot.allows = some allowed → scan.keyAllowed = allowed

theorem unroll_of_flat (flat : scan.indents = []) (column : Option Nat) :
    scan.unroll column = scan := by
  unfold unroll
  split
  · rfl
  · rw [flat, endBlocks]
    cases scan
    subst flat
    rfl

theorem refresh_of_free {here : Cursor} {key : Option PossibleKey}
    (free : ∀ found, key = some found → found.required = false) :
    ∃ kept, refresh here key = some kept ∧ ∀ found, kept = some found → found.required = false := by
  cases key with
  | none => exact ⟨none, rfl, free⟩
  | some found =>
      rw [refresh, free found rfl]
      split
      · exact ⟨none, rfl, by simp⟩
      · exact ⟨some found, rfl, free⟩

theorem mapM_refresh_replicate (here : Cursor) (depth : Nat) :
    (List.replicate depth none).mapM (refresh here) = some (List.replicate depth none) := by
  induction depth with
  | zero => rfl
  | succ depth ih =>
      rw [List.replicate_succ, List.mapM_cons, ih]
      rfl

section SetKey

variable {key other : Option PossibleKey}

theorem setKey_of_outer (outside : scan.flowKeys = []) :
    scan.setKey key = { scan with blockKey := key } := by
  rw [setKey, outside]

theorem setKey_of_inner {outer : List (Option PossibleKey)} (inside : scan.flowKeys = other :: outer) :
    scan.setKey key = { scan with flowKeys := key :: outer } := by
  rw [setKey, inside]

theorem setKey_setKey : (scan.setKey other).setKey key = scan.setKey key := by
  rcases scan with ⟨_, _, _, _, _ | _, _, _⟩ <;> rfl

end SetKey

theorem removeKey_of_free (free : ∀ key, scan.possibleKey = some key → key.required = false) :
    scan.removeKey = some (scan.setKey none) := by
  unfold removeKey
  cases possible : scan.possibleKey with
  | some key => simp [free key possible]
  | none =>
      unfold possibleKey at possible
      unfold setKey
      cases scan
      split at possible <;> simp_all

namespace Stands

variable {spot : Spot} {tokens : List Token} {text : List Char}

theorem inFlow_eq (stands : scan.Stands spot tokens text) : scan.inFlow = decide (0 < spot.depth) := by
  rw [inFlow, stands.flowKeys]
  cases spot.depth <;> rfl

theorem possibleKey_free (stands : scan.Stands spot tokens text) {key : PossibleKey}
    (possible : scan.possibleKey = some key) : key.required = false := by
  unfold possibleKey at possible
  rw [stands.flowKeys] at possible
  cases deep : spot.depth with
  | zero =>
      rw [deep] at possible
      exact stands.blockKey key possible
  | succ more =>
      rw [deep] at possible
      cases possible

/-- Nothing is lost on the way to the next piece. -/
theorem ready (stands : scan.Stands spot tokens text) {rest : List Char}
    (same : trimmed text = rest) (starts : ∀ c, rest.head? = some c → IsStart c)
    (enough : scan.cursor.rest.length < bound) :
    ∃ fresh, (skipGap bound scan).dropStaleKeys = some fresh ∧ fresh.Stands spot tokens text ∧
      fresh.cursor.rest = rest := by
  obtain ⟨layout, split, indents⟩ := split_of_trimmed (stands.ahead.trans same)
  have shorter : layout.length < bound := by
    rw [split, List.length_append] at enough
    omega
  obtain ⟨cursor, allowed, skipped, stop, kept⟩ := skipGap_layout indents split starts shorter
  obtain ⟨blockKey, refreshed, free⟩ := @refresh_of_free cursor _ stands.blockKey
  refine ⟨{ scan with cursor := cursor, keyAllowed := allowed, blockKey := blockKey }, ?_, ?_, stop⟩
  · rw [skipped, dropStaleKeys, stands.flowKeys]
    simp only [refreshed, mapM_refresh_replicate, Option.bind_eq_bind, Option.bind_some]
  · refine { stands with ahead := ?_, blockKey := free, keyAllowed := fun key allows => ?_ }
    · rw [stop, ← same]
      exact List.dropWhile_idempotent _ _
    · rcases kept with rfl | ⟨outside, rfl⟩
      · exact stands.keyAllowed key allows
      · rw [stands.inFlow_eq] at outside
        cases spot <;> simp_all [Spot.depth, Spot.allows]

end Stands

/-! ## One token after the other -/

/-- The scan comes to the end of its text and leaves these tokens. -/
def Yields (scan : Scan) (out : List Token) : Prop :=
  ∀ bound, scan.cursor.rest.length < bound → finish bound scan = some out

theorem finish_of_fetch {fresh next : Scan} {c : Char} {rest : List Char}
    (ready : (skipGap (bound + 1) scan).dropStaleKeys = some fresh) (flat : fresh.indents = [])
    (ahead : fresh.cursor.rest = c :: rest) (read : fresh.fetch (bound + 1) c = some next) :
    finish (bound + 1) scan = finish bound next := by
  simp only [finish, ready, unroll_of_flat flat, Cursor.peek?, ahead, List.head?_cons, read]

namespace Stands

variable {spot : Spot} {tokens out : List Token} {c : Char} {rest : List Char}

theorem yields (stands : scan.Stands spot tokens (c :: rest)) (start : IsStart c)
    (reads : ∀ (fresh : Scan) (bound : Nat), fresh.Stands spot tokens (c :: rest) →
      fresh.cursor.rest = c :: rest → rest.length + 1 < bound →
        ∃ next, fresh.fetch bound c = some next ∧ next.cursor.rest.length ≤ rest.length ∧
          next.Yields out) : scan.Yields out := by
  intro bound enough
  obtain ⟨less, rfl⟩ := Nat.exists_eq_add_one.mpr (Nat.zero_lt_of_lt enough)
  obtain ⟨fresh, ready, still, ahead⟩ := stands.ready (trimmed_of_start start)
    (fun d found => Option.some.inj found ▸ start) enough
  have fits : rest.length + 1 ≤ scan.cursor.rest.length := by
    obtain ⟨layout, split, -⟩ := split_of_trimmed (stands.ahead.trans (trimmed_of_start start))
    rw [split, List.length_append, List.length_cons]
    omega
  obtain ⟨next, read, shorter, later⟩ :=
    reads fresh (less + 1) still ahead (Nat.lt_of_le_of_lt fits enough)
  rw [finish_of_fetch ready still.indents ahead read]
  exact later less (by omega)

/-- At the end of the text the tokens are complete. -/
theorem yields_end (stands : scan.Stands (.done 0) tokens []) :
    scan.Yields (tokens ++ [.streamEnd]) := by
  intro bound enough
  obtain ⟨less, rfl⟩ := Nat.exists_eq_add_one.mpr (Nat.zero_lt_of_lt enough)
  obtain ⟨fresh, ready, still, ahead⟩ :=
    stands.ready (show trimmed [] = [] from rfl) (by simp) enough
  have free := removeKey_of_free fun key => still.possibleKey_free
  simp [finish, ready, unroll_of_flat still.indents, Cursor.peek?, ahead, fetchEnd, free,
    setKey_of_outer still.flowKeys, emit, allowKey, still.read]

/-! ## Pieces -/

theorem saveKey_of_allowed (stands : scan.Stands spot tokens rest)
    (allowed : spot.allows = some true) :
    scan.saveKey = some (scan.setKey (some ⟨tokens.length, false, scan.cursor⟩)) := by
  rw [saveKey, if_pos (stands.keyAllowed true allowed),
    removeKey_of_free fun key => stands.possibleKey_free]
  simp [indent?, stands.indents, stands.count, setKey_setKey]

theorem saveKey_of_forbidden (stands : scan.Stands spot tokens rest)
    (forbidden : spot.allows = some false) : scan.saveKey = some scan := by
  rw [saveKey, if_neg (by simp [stands.keyAllowed false forbidden])]

/-- A token is read in a spot. -/
theorem take {text : List Char} (stands : scan.Stands spot tokens text) {after : Cursor}
    (ahead : trimmed after.rest = trimmed rest) (token : Token) :
    ((scan.moveTo after).emit token).Stands spot (tokens ++ [token]) rest where
  ahead := ahead
  read := by rw [List.reverse_append]; exact congrArg _ stands.read
  count := by rw [List.length_append]; exact congrArg (· + 1) stands.count
  indents := stands.indents
  flowKeys := stands.flowKeys
  blockKey := stands.blockKey
  keyAllowed := stands.keyAllowed

/-- A token of one character is read, after the scan has been put in the spot behind it. -/
theorem yields_mark {next : Spot} {token : Token} (put : scan.Stands next tokens (c :: rest))
    (ahead : scan.cursor.rest = c :: rest)
    (later : ∀ after : Scan, after.Stands next (tokens ++ [token]) rest → after.Yields out) :
    (scan.mark 1 token).cursor.rest.length ≤ rest.length ∧ (scan.mark 1 token).Yields out := by
  have behind := Cursor.rest_advance_one ahead
  exact ⟨Nat.le_of_eq (congrArg _ behind), later _ (put.take (congrArg _ behind) token)⟩

theorem yields_opening {next : Spot} (stands : scan.Stands spot tokens ('{' :: rest))
    (moves : spot.next? .opening = some next)
    (later : ∀ after : Scan, after.Stands next (tokens ++ [.flowMappingStart]) rest →
      after.Yields out) : scan.Yields out := by
  refine stands.yields (Or.inr (by decide)) fun fresh bound still ahead enough => ?_
  have marks : fresh.fetch bound '{' = fresh.fetchFlowStart .flowMappingStart := by
    simp [fetch, Cursor.atMark_of_ne ahead]
  rw [marks, fetchFlowStart]
  cases spot with
  | outer =>
      cases moves
      rw [still.saveKey_of_allowed rfl, setKey_of_outer still.flowKeys]
      refine ⟨_, rfl, yields_mark ?_ ahead later⟩
      exact { still with
        flowKeys := congrArg _ still.flowKeys
        blockKey := fun key same => Option.some.inj same ▸ rfl
        keyAllowed := fun allowed same => Option.some.inj same }
  | value more =>
      cases moves
      rw [still.saveKey_of_forbidden rfl]
      refine ⟨_, rfl, yields_mark ?_ ahead later⟩
      exact { still with
        flowKeys := congrArg _ still.flowKeys
        keyAllowed := fun allowed same => Option.some.inj same }
  | member more => cases moves
  | done depth => cases depth <;> cases moves

theorem yields_closing {next : Spot} (stands : scan.Stands spot tokens ('}' :: rest))
    (moves : spot.next? .closing = some next)
    (later : ∀ after : Scan, after.Stands next (tokens ++ [.flowMappingEnd]) rest →
      after.Yields out) : scan.Yields out := by
  obtain ⟨more, deep, rfl⟩ := Spot.next?_closing moves
  refine stands.yields (Or.inr (by decide)) fun fresh bound still ahead enough => ?_
  have marks : fresh.fetch bound '}' = fresh.fetchFlowEnd .flowMappingEnd := by
    simp [fetch, Cursor.atMark_of_ne ahead]
  have keys := still.flowKeys
  rw [deep, List.replicate_succ] at keys
  rw [marks, fetchFlowEnd, removeKey_of_free fun key => still.possibleKey_free,
    setKey_of_inner keys]
  refine ⟨_, rfl, yields_mark ?_ ahead later⟩
  exact { still with
    flowKeys := rfl
    keyAllowed := fun allowed same => by cases same }

theorem yields_comma {next : Spot} (stands : scan.Stands spot tokens (',' :: rest))
    (moves : spot.next? .comma = some next)
    (later : ∀ after : Scan, after.Stands next (tokens ++ [.flowEntry]) rest →
      after.Yields out) : scan.Yields out := by
  obtain ⟨more, rfl, rfl⟩ := Spot.next?_comma moves
  refine stands.yields (Or.inr (by decide)) fun fresh bound still ahead enough => ?_
  have marks : fresh.fetch bound ',' = fresh.fetchFlowEntry := by
    simp [fetch, Cursor.atMark_of_ne ahead]
  rw [marks, fetchFlowEntry, removeKey_of_free fun key => still.possibleKey_free,
    setKey_of_inner still.flowKeys]
  refine ⟨_, rfl, yields_mark ?_ ahead later⟩
  exact { still with
    flowKeys := rfl
    keyAllowed := fun allowed same => Option.some.inj same }

theorem fetch_quote (ahead : scan.cursor.rest = '"' :: rest) (bound : Nat) :
    scan.fetch bound '"' = scan.fetchQuoted bound .double := by
  simp [fetch, Cursor.atMark_of_ne ahead]

theorem yields_text {next : Spot} {value : String}
    (stands : scan.Stands spot tokens (quotation value ++ rest))
    (printable : AllPrintable value.toList) (moves : spot.next? (.text value) = some next)
    (later : ∀ after : Scan,
      after.Stands next (tokens ++ [.scalar value.toList .doubleQuoted]) rest → after.Yields out) :
    scan.Yields out := by
  obtain ⟨more, rfl, rfl⟩ := Spot.next?_leaf (Or.inl ⟨value, rfl⟩) moves
  refine stands.yields (Or.inr (by decide)) fun fresh bound still ahead enough => ?_
  have fits : fresh.cursor.rest.length ≤ bound := by
    rw [ahead]
    exact Nat.le_of_lt enough
  obtain ⟨after, read, passed⟩ := quoted_quotation printable ahead fits
  have behind : after.rest = rest := List.append_cancel_left (passed.rest.symm.trans ahead)
  have put : (fresh.allowKey false).Stands (.done (more + 1)) tokens (quotation value ++ rest) :=
    { still with keyAllowed := fun allowed same => by cases same }
  rw [fetch_quote ahead, fetchQuoted, still.saveKey_of_forbidden rfl]
  simp only [Option.bind_eq_bind, Option.bind_some, read]
  refine ⟨_, rfl, ?_, later _ (put.take (congrArg _ behind) _)⟩
  change after.rest.length ≤ _
  rw [behind]
  exact (List.suffix_append _ rest).length_le

theorem fetch_word (plain : c.isAlphanum = true) (ahead : scan.cursor.rest = c :: rest)
    (bound : Nat) : scan.fetch bound c = scan.fetchPlain bound := by
  have visible := printable_of_isAlphanum plain
  simp [fetch, Cursor.atMark_of_ne ahead, ne_of_isAlphanum plain, startsPlain, isIndicator,
    isBlank_of_printable visible, isBreak_of_printable visible]

theorem yields_bare {next : Spot} {word : List Char} {mark : Char} {others : List Char}
    (stands : scan.Stands spot tokens (word ++ rest)) (sound : (Piece.bare word).Sound)
    (closes : Closes rest mark others) (moves : spot.next? (.bare word) = some next)
    (later : ∀ after : Scan,
      after.Stands next (tokens ++ [.scalar word .plain]) rest → after.Yields out) :
    scan.Yields out := by
  obtain ⟨more, rfl, rfl⟩ := Spot.next?_leaf (Or.inr ⟨word, rfl⟩) moves
  obtain ⟨nonempty, bare⟩ := sound
  have plain := List.all_eq_true.mp bare
  obtain ⟨c, word, rfl⟩ := List.exists_cons_of_ne_nil nonempty
  have first := plain c List.mem_cons_self
  refine stands.yields (Or.inl first) fun fresh bound still ahead enough => ?_
  have fits : fresh.cursor.rest.length < bound := by
    rw [ahead]
    exact enough
  obtain ⟨found, read, text, behind⟩ := plain_word plain ahead closes fits
  have put : (fresh.allowKey found.broken).Stands (.done (more + 1)) tokens (c :: word ++ rest) :=
    { still with keyAllowed := fun allowed same => by cases same }
  have flow : fresh.inFlow = true := still.inFlow_eq
  have flat : fresh.innerColumn = 0 := by rw [innerColumn, indent?, still.indents]; rfl
  rw [fetch_word first ahead, fetchPlain, still.saveKey_of_forbidden rfl]
  simp only [Option.bind_eq_bind, Option.bind_some, flow, flat, read, text]
  have same : trimmed found.after.rest = trimmed rest := by
    rw [behind, trimmed_of_start closes.isStart, closes.trimmed_eq]
  refine ⟨_, rfl, ?_, later _ (put.take same _)⟩
  change found.after.rest.length ≤ _
  rw [behind, List.length_cons]
  exact Nat.le_trans closes.length_le (List.suffix_append word rest).length_le

end Stands

/-! ## Names -/

/-- A text has been read that is a name if a colon comes, which may be some bytes off. -/
structure Named (scan : Scan) (more : Nat) (tokens : List Token) (title : List Char) (off : Nat) :
    Prop where
  read : scan.tokens = .scalar title .doubleQuoted :: tokens.reverse
  count : scan.tokenCount = tokens.length + 1
  indents : scan.indents = []
  flowKeys : ∃ place : Cursor, place.line = scan.cursor.line ∧
    scan.cursor.bytes + off ≤ place.bytes + keyLimit ∧
    scan.flowKeys = some ⟨tokens.length, false, place⟩ :: List.replicate more none
  blockKey : ∀ key, scan.blockKey = some key → key.required = false

namespace Named

variable {more : Nat} {tokens out : List Token} {title spaces rest : List Char}

/-- The name is still known when its colon is reached, as that is in the same line. -/
theorem ready (named : scan.Named more tokens title spaces.length)
    (ahead : scan.cursor.rest = spaces ++ ':' :: rest) (blank : ∀ c ∈ spaces, c = ' ') :
    ∃ fresh, (skipGap (bound + 1) scan).dropStaleKeys = some fresh ∧
      fresh.Named more tokens title 0 ∧ fresh.cursor.rest = ':' :: rest := by
  have colon : IsStart ':' := Or.inr (by decide)
  have printable : AllPrintable spaces := fun c member => by rw [blank c member]; decide
  have passed := Cursor.passes_advance ahead printable
  have behind := Cursor.rest_advance ahead
  have skipped := @skipGap_line scan bound spaces (':' :: rest) blank ahead
    fun c found => Or.inl (Option.some.inj found ▸ colon)
  rw [if_neg (by simp)] at skipped
  generalize scan.cursor.advance spaces.length = here at passed behind skipped
  obtain ⟨place, line, near, keys⟩ := named.flowKeys
  obtain ⟨blockKey, refreshed, free⟩ := @refresh_of_free here _ named.blockKey
  have sameLine : place.line = here.line := line.trans passed.line.symm
  have close : here.bytes ≤ place.bytes + keyLimit := passed.bytes ▸ near
  have kept : refresh here (some ⟨tokens.length, false, place⟩) =
      some (some ⟨tokens.length, false, place⟩) := by
    simp [refresh, sameLine, close]
  refine ⟨{ scan with cursor := here, blockKey := blockKey }, ?_, ?_, behind⟩
  · rw [skipped, dropStaleKeys, moveTo]
    simp [refreshed, keys, kept, mapM_refresh_replicate]
  · exact { named with flowKeys := ⟨place, sameLine, close, keys⟩, blockKey := free }

/-- The colon turns the text before it into a name. -/
theorem fetch_colon (named : scan.Named more tokens title 0)
    (ahead : scan.cursor.rest = ':' :: rest) :
    ∃ keyed : Scan, scan.fetch bound ':' = some (keyed.mark 1 .value) ∧
      keyed.Stands (.value more) (tokens ++ [.key, .scalar title .doubleQuoted]) (':' :: rest) ∧
      keyed.cursor.rest = ':' :: rest := by
  obtain ⟨place, -, -, keys⟩ := named.flowKeys
  have marks : scan.fetch bound ':' = scan.fetchValue := by
    simp [fetch, Cursor.atMark_of_ne ahead, inFlow, keys]
  refine ⟨{ scan with
    tokens := .scalar title .doubleQuoted :: .key :: tokens.reverse
    tokenCount := tokens.length + 2
    flowKeys := none :: List.replicate more none
    keyAllowed := false }, ?_, ?_, ahead⟩
  · rw [marks]
    simp [fetchValue, possibleKey, keys, insert, named.read, named.count, roll, inFlow, setKey,
      allowKey]
  · exact
      { ahead := congrArg _ ahead
        read := by simp
        count := by simp
        indents := named.indents
        flowKeys := rfl
        blockKey := named.blockKey
        keyAllowed := fun allowed same => Option.some.inj same }

theorem yields (named : scan.Named more tokens title spaces.length)
    (ahead : scan.cursor.rest = spaces ++ ':' :: rest) (blank : ∀ c ∈ spaces, c = ' ')
    (later : ∀ after : Scan,
      after.Stands (.value more) (tokens ++ [.key, .scalar title .doubleQuoted, .value]) rest →
        after.Yields out) : scan.Yields out := by
  intro bound enough
  obtain ⟨less, rfl⟩ := Nat.exists_eq_add_one.mpr (Nat.zero_lt_of_lt enough)
  obtain ⟨fresh, ready, still, behind⟩ := @ready _ less _ _ _ _ _ named ahead blank
  obtain ⟨keyed, read, put, next⟩ := still.fetch_colon behind
  have goesOn (after : Scan)
      (stands : after.Stands (.value more)
        (tokens ++ [.key, .scalar title .doubleQuoted] ++ [.value]) rest) : after.Yields out :=
    later after (by simpa using stands)
  obtain ⟨shorter, finished⟩ := put.yields_mark next goesOn
  rw [finish_of_fetch ready still.indents behind read]
  refine finished less (Nat.lt_of_le_of_lt shorter ?_)
  rw [ahead, List.length_append, List.length_cons] at enough
  omega

end Named

namespace Stands

variable {spot : Spot} {tokens out : List Token} {rest : List Char}

theorem yields_name {next : Spot} {title : String} {spaces : List Char}
    (stands : scan.Stands spot tokens (quotation title ++ (spaces ++ ':' :: rest)))
    (printable : AllPrintable title.toList) (blank : ∀ c ∈ spaces, c = ' ')
    (near : (quotation title ++ spaces).length ≤ keyLimit)
    (moves : spot.next? (.name title) = some next)
    (later : ∀ after : Scan,
      after.Stands next (tokens ++ (Piece.name title).tokens) rest → after.Yields out) :
    scan.Yields out := by
  obtain ⟨more, rfl, rfl⟩ := Spot.next?_name moves
  refine stands.yields (Or.inr (by decide)) fun fresh bound still ahead enough => ?_
  have fits : fresh.cursor.rest.length ≤ bound := by
    rw [ahead]
    exact Nat.le_of_lt enough
  obtain ⟨after, read, passed⟩ := quoted_quotation printable ahead fits
  have behind : after.rest = spaces ++ ':' :: rest :=
    List.append_cancel_left (passed.rest.symm.trans ahead)
  rw [fetch_quote ahead, fetchQuoted, still.saveKey_of_allowed rfl,
    setKey_of_inner still.flowKeys]
  simp only [Option.bind_eq_bind, Option.bind_some, read]
  refine ⟨_, rfl, ?_, Named.yields ?_ behind blank later⟩
  · change after.rest.length ≤ _
    rw [behind]
    exact (List.suffix_append _ (spaces ++ ':' :: rest)).length_le
  · rw [List.length_append] at near
    exact
      { read := congrArg _ still.read
        count := congrArg (· + 1) still.count
        indents := still.indents
        flowKeys := ⟨fresh.cursor, passed.line.symm, by
          change after.bytes + _ ≤ _
          rw [passed.bytes]
          omega, rfl⟩
        blockKey := still.blockKey }

end Stands

/-! ## A whole text -/

/-- After a value that is not the whole one there is a comma or a brace. -/
theorem closes_of_written {more : Nat} {pieces : List Piece} {text : List Char}
    (written : Written pieces text)
    (runs : pieces.foldlM Spot.next? (.done (more + 1)) = some (.done 0)) :
    ∃ mark others, Closes text mark others := by
  cases pieces with
  | nil => cases runs
  | cons piece others =>
      obtain ⟨layout, chars, rest, rfl, indents, spelled, -⟩ := written.split
      cases piece with
      | comma =>
          cases spelled
          exact ⟨',', rest, ⟨layout, rfl, indents⟩, Or.inl rfl⟩
      | closing =>
          cases spelled
          exact ⟨'}', rest, ⟨layout, rfl, indents⟩, Or.inr rfl⟩
      | _ => cases runs

theorem Stands.yields_of_written {pieces : List Piece} {spot : Spot} {tokens : List Token}
    {text : List Char} (stands : scan.Stands spot tokens text) (written : Written pieces text)
    (sound : ∀ piece ∈ pieces, piece.Sound)
    (runs : pieces.foldlM Spot.next? spot = some (.done 0)) :
    scan.Yields (tokens ++ pieces.flatMap Piece.tokens ++ [.streamEnd]) := by
  induction written generalizing scan spot tokens with
  | nil =>
      cases runs
      simpa using stands.yields_end
  | layout indents _ ih =>
      refine ih { stands with ahead := ?_ } sound runs
      exact stands.ahead.trans (trimmed_cons_layout indents _)
  | @piece piece others chars rest spelled written ih =>
      obtain ⟨first, later⟩ := List.forall_mem_cons.mp sound
      rw [List.foldlM_cons] at runs
      obtain ⟨next, moves, runs⟩ := Option.bind_eq_some_iff.mp runs
      have goesOn (after : Scan) (put : after.Stands next (tokens ++ piece.tokens) rest) :
          after.Yields (tokens ++ (piece :: others).flatMap Piece.tokens ++ [.streamEnd]) := by
        have yields := ih put later runs
        rwa [List.append_assoc tokens, ← List.flatMap_cons] at yields
      cases spelled with
      | opening => exact stands.yields_opening moves goesOn
      | closing => exact stands.yields_closing moves goesOn
      | comma => exact stands.yields_comma moves goesOn
      | name blank near =>
          rw [List.append_assoc, List.append_assoc] at stands
          exact stands.yields_name first blank near moves goesOn
      | text => exact stands.yields_text first moves goesOn
      | bare =>
          obtain ⟨more, rfl, rfl⟩ := Spot.next?_leaf (Or.inr ⟨chars, rfl⟩) moves
          obtain ⟨mark, others, closes⟩ := closes_of_written written runs
          exact stands.yields_bare first closes moves goesOn

end Scan

theorem Piece.Spells.printable {piece : Piece} {chars : List Char} (spelled : piece.Spells chars)
    (sound : piece.Sound) : AllPrintable chars := by
  cases spelled with
  | opening => decide
  | closing => decide
  | comma => decide
  | name blank near =>
      intro c member
      rcases List.mem_append.mp member with before | colon
      · rcases List.mem_append.mp before with inside | between
        · exact printable_of_mem_quotation sound inside
        · rw [blank c between]
          decide
      · rw [List.mem_singleton.mp colon]
        decide
  | text => exact fun c => printable_of_mem_quotation sound
  | bare => exact fun c member => printable_of_isAlphanum (List.all_eq_true.mp sound.2 c member)

theorem Written.allowed {pieces : List Piece} {text : List Char} (written : Written pieces text)
    (sound : ∀ piece ∈ pieces, piece.Sound) : ∀ c ∈ text, isAllowed c = true := by
  induction written with
  | nil => simp
  | layout indents _ ih => exact List.forall_mem_cons.mpr ⟨isAllowed_of_layout indents, ih sound⟩
  | piece spelled _ ih =>
      obtain ⟨first, later⟩ := List.forall_mem_cons.mp sound
      intro c member
      rcases List.mem_append.mp member with here | behind
      · exact isAllowed_of_printable (spelled.printable first c here)
      · exact ih later c behind

/-- A text is read as the tokens of the pieces that it is written with. -/
theorem tokens?_of_written {pieces : List Piece} {text : String}
    (written : Written pieces text.toList) (sound : ∀ piece ∈ pieces, piece.Sound)
    (runs : pieces.foldlM Spot.next? .outer = some (.done 0)) :
    tokens? text = some (pieces.flatMap Piece.tokens ++ [.streamEnd]) := by
  have start : ({ cursor := { rest := text.toList } } : Scan).Stands .outer [] text.toList :=
    { ahead := rfl
      read := rfl
      count := rfl
      indents := rfl
      flowKeys := rfl
      blockKey := by simp
      keyAllowed := fun allowed same => Option.some.inj same }
  have yields := start.yields_of_written written sound runs
  rw [tokens?, if_pos (List.all_eq_true.mpr (written.allowed sound))]
  exact yields _ (Nat.lt_succ_self _)

end Stagehand.Yaml
