import Mathlib.Data.List.Basic
import Mathlib.Data.List.TakeDrop
import Mathlib.Data.List.TakeWhile
import Mathlib.Tactic.SplitIfs
import Stagehand.Proofs.Json.Grammar

/-! # Reading one token

What is read off the front of a text is a token spelled by its rule, with what follows it.  The other
way round a spelled token is read as a whole: a number only if what follows cannot go on with it.
-/

set_option autoImplicit false

namespace Stagehand.Json

/-! ## Digits -/

/-- The text does not go on with a digit. -/
def StopsDigits (rest : Bytes) : Prop :=
  ∀ b, rest.head? = some b → isDigit b = false

/-- The text does not go on with a digit or a point. -/
def StopsFraction (rest : Bytes) : Prop :=
  ∀ b, rest.head? = some b → isDigit b = false ∧ b ≠ 0x2E

/-- The text does not go on with anything that a number could go on with. -/
def StopsNumber (rest : Bytes) : Prop :=
  ∀ b, rest.head? = some b → isDigit b = false ∧ b ≠ 0x2E ∧ b ≠ 0x65 ∧ b ≠ 0x45

theorem StopsNumber.digits {rest : Bytes} (stops : StopsNumber rest) : StopsDigits rest :=
  fun b first => (stops b first).1

theorem digits_of_digits? {bytes front rest : Bytes} (read : digits? bytes = some (front, rest)) :
    Digits front ∧ bytes = front ++ rest := by
  unfold digits? at read
  rw [List.span_eq_takeWhile_dropWhile] at read
  split at read
  · cases read
  · rename_i found nonempty
    cases Option.some.inj read
    refine ⟨⟨fun none => ?_, fun b member => List.mem_takeWhile_imp member⟩,
      List.takeWhile_append_dropWhile.symm⟩
    exact nonempty _ (by rw [none])

theorem digits?_append {front rest : Bytes} (digits : Digits front) (stops : StopsDigits rest) :
    digits? (front ++ rest) = some (front, rest) := by
  have ended : rest.takeWhile isDigit = [] ∧ rest.dropWhile isDigit = rest := by
    cases rest with
    | nil => simp
    | cons b others => simp [stops b rfl]
  have taken : (front ++ rest).takeWhile isDigit = front := by
    rw [List.takeWhile_append_of_pos digits.2, ended.1, List.append_nil]
  have dropped : (front ++ rest).dropWhile isDigit = rest := by
    rw [List.dropWhile_append_of_pos digits.2, ended.2]
  unfold digits?
  rw [List.span_eq_takeWhile_dropWhile, taken, dropped]
  split
  · rename_i found same
    exact absurd (Prod.mk.inj same).1 digits.1
  · rfl

theorem whole_of_whole? {bytes front rest : Bytes} (read : whole? bytes = some (front, rest)) :
    Whole front ∧ bytes = front ++ rest := by
  unfold whole? at read
  split at read
  · cases Option.some.inj read
    exact ⟨.zero, rfl⟩
  · rename_i leading
    obtain ⟨digits, split⟩ := digits_of_digits? read
    refine ⟨.digits digits fun zero => ?_, split⟩
    obtain ⟨others, rfl⟩ := List.head?_eq_some_iff.mp zero
    exact leading _ split

theorem whole?_append {front rest : Bytes} (whole : Whole front) (stops : StopsDigits rest) :
    whole? (front ++ rest) = some (front, rest) := by
  cases whole with
  | zero => rfl
  | digits digits leading =>
      unfold whole?
      split
      · rename_i found same
        obtain ⟨first, others, rfl⟩ := List.exists_cons_of_ne_nil digits.1
        cases (List.cons.inj same).1
        simp at leading
      · exact digits?_append digits stops

/-! ## Numbers -/

theorem fraction_of_fraction? {bytes front rest : Bytes}
    (read : fraction? bytes = some (front, rest)) : Fraction front ∧ bytes = front ++ rest := by
  unfold fraction? at read
  split at read
  · rename_i after
    obtain ⟨⟨digits, left⟩, found, same⟩ := Option.map_eq_some_iff.mp read
    cases same
    obtain ⟨some, split⟩ := digits_of_digits? found
    exact ⟨.point some, congrArg _ split⟩
  · cases Option.some.inj read
    exact ⟨.none, rfl⟩

theorem fraction?_append {front rest : Bytes} (fraction : Fraction front)
    (stops : StopsFraction rest) : fraction? (front ++ rest) = some (front, rest) := by
  cases fraction with
  | none =>
      rw [List.nil_append]
      unfold fraction?
      split
      · exact absurd rfl (stops 0x2E rfl).2
      · rfl
  | point digits =>
      rw [List.cons_append, fraction?, digits?_append digits fun b first => (stops b first).1]
      rfl

theorem sign_of_sign {bytes mark rest : Bytes} (read : sign bytes = (mark, rest)) :
    Sign mark ∧ bytes = mark ++ rest := by
  unfold sign at read
  split at read <;> obtain ⟨rfl, rfl⟩ := Prod.mk.inj read
  · exact ⟨Or.inr (Or.inl rfl), rfl⟩
  · exact ⟨Or.inr (Or.inr rfl), rfl⟩
  · exact ⟨Or.inl rfl, rfl⟩

theorem sign_append {mark digits rest : Bytes} (kind : Sign mark) (some : Digits digits) :
    sign (mark ++ (digits ++ rest)) = (mark, digits ++ rest) := by
  rcases kind with rfl | rfl | rfl
  · obtain ⟨first, others, rfl⟩ := List.exists_cons_of_ne_nil some.1
    have digit := some.2 first List.mem_cons_self
    rw [List.nil_append, List.cons_append]
    unfold sign
    split
    · rename_i same
      rw [(List.cons.inj same).1] at digit
      exact absurd digit (by decide)
    · rename_i same
      rw [(List.cons.inj same).1] at digit
      exact absurd digit (by decide)
    · rfl
  · rfl
  · rfl

theorem exponent_of_exponent? {bytes front rest : Bytes}
    (read : exponent? bytes = some (front, rest)) : Exponent front ∧ bytes = front ++ rest := by
  unfold exponent? at read
  split at read
  · cases Option.some.inj read
    exact ⟨.none, rfl⟩
  · rename_i letter after
    split_ifs at read with marked
    · generalize signing : sign after = signed at read
      obtain ⟨mark, unsigned⟩ := signed
      obtain ⟨kind, rfl⟩ := sign_of_sign signing
      obtain ⟨⟨digits, left⟩, found, same⟩ := Option.map_eq_some_iff.mp read
      obtain ⟨rfl, rfl⟩ := Prod.mk.inj same
      obtain ⟨some, rfl⟩ := digits_of_digits? found
      exact ⟨.mark marked kind some, by simp⟩
    · cases Option.some.inj read
      exact ⟨.none, rfl⟩

theorem exponent?_append {front rest : Bytes} (exponent : Exponent front)
    (stops : StopsNumber rest) : exponent? (front ++ rest) = some (front, rest) := by
  cases exponent with
  | none =>
      rw [List.nil_append]
      unfold exponent?
      split
      · rfl
      · rename_i b others
        obtain ⟨-, -, lower, upper⟩ := stops b rfl
        rw [if_neg (by simp [lower, upper])]
  | @mark letter mark digits marked kind some =>
      rw [List.cons_append, List.append_assoc, exponent?, if_pos marked, sign_append kind some]
      dsimp only
      rw [digits?_append some stops.digits]
      rfl

theorem unsigned_of_unsigned? {bytes front rest : Bytes}
    (read : unsigned? bytes = some (front, rest)) : Unsigned front ∧ bytes = front ++ rest := by
  unfold unsigned? at read
  simp only [Option.bind_eq_bind, Option.bind_eq_some_iff, Prod.exists, Option.some.injEq,
    Prod.mk.injEq] at read
  obtain ⟨whole, _, readWhole, fraction, _, readFraction, exponent, _, readExponent, rfl, rfl⟩ := read
  obtain ⟨isWhole, rfl⟩ := whole_of_whole? readWhole
  obtain ⟨isFraction, rfl⟩ := fraction_of_fraction? readFraction
  obtain ⟨isExponent, rfl⟩ := exponent_of_exponent? readExponent
  exact ⟨.parts isWhole isFraction isExponent, by simp⟩

theorem Exponent.stopsFraction {exponent rest : Bytes} (isExponent : Exponent exponent)
    (stops : StopsNumber rest) : StopsFraction (exponent ++ rest) := by
  intro b first
  cases isExponent with
  | none =>
      obtain ⟨digit, point, -⟩ := stops b first
      exact ⟨digit, point⟩
  | mark marked =>
      cases Option.some.inj first
      rcases marked with rfl | rfl <;> decide

theorem Fraction.stopsDigits {fraction rest : Bytes} (isFraction : Fraction fraction)
    (stops : StopsFraction rest) : StopsDigits (fraction ++ rest) := by
  intro b first
  cases isFraction with
  | none => exact (stops b first).1
  | point =>
      cases Option.some.inj first
      decide

theorem unsigned?_append {front rest : Bytes} (lexeme : Unsigned front)
    (stops : StopsNumber rest) : unsigned? (front ++ rest) = some (front, rest) := by
  obtain @⟨whole, fraction, exponent, isWhole, isFraction, isExponent⟩ := lexeme
  have afterFraction := isExponent.stopsFraction stops
  have afterWhole := isFraction.stopsDigits afterFraction
  unfold unsigned?
  simp only [Option.bind_eq_bind]
  rw [List.append_assoc, List.append_assoc, whole?_append isWhole afterWhole, Option.bind_some,
    fraction?_append isFraction afterFraction, Option.bind_some, exponent?_append isExponent stops,
    Option.bind_some, List.append_assoc]

/-- An unsigned number starts with a digit. -/
theorem Unsigned.first {lexeme : Bytes} (isUnsigned : Unsigned lexeme) :
    ∃ b others, lexeme = b :: others ∧ isDigit b = true := by
  obtain @⟨whole, fraction, exponent, isWhole, -, -⟩ := isUnsigned
  cases isWhole with
  | zero => exact ⟨_, _, rfl, by decide⟩
  | digits some =>
      obtain ⟨first, others, rfl⟩ := List.exists_cons_of_ne_nil some.1
      exact ⟨first, _, rfl, some.2 first List.mem_cons_self⟩

theorem number_of_number? {bytes front rest : Bytes} (read : number? bytes = some (front, rest)) :
    Number front ∧ bytes = front ++ rest := by
  unfold number? at read
  split at read
  · obtain ⟨⟨lexeme, left⟩, found, same⟩ := Option.map_eq_some_iff.mp read
    obtain ⟨rfl, rfl⟩ := Prod.mk.inj same
    obtain ⟨isUnsigned, rfl⟩ := unsigned_of_unsigned? found
    exact ⟨.negative isUnsigned, rfl⟩
  · obtain ⟨isUnsigned, split⟩ := unsigned_of_unsigned? read
    exact ⟨.unsigned isUnsigned, split⟩

theorem number?_append {front rest : Bytes} (number : Number front) (stops : StopsNumber rest) :
    number? (front ++ rest) = some (front, rest) := by
  cases number with
  | negative isUnsigned =>
      rw [List.cons_append, number?, unsigned?_append isUnsigned stops]
      rfl
  | unsigned isUnsigned =>
      obtain ⟨b, others, split, digit⟩ := isUnsigned.first
      unfold number?
      split
      · rename_i same
        rw [split, List.cons_append] at same
        rw [(List.cons.inj same).1] at digit
        exact absurd digit (by decide)
      · exact unsigned?_append isUnsigned stops

/-- A number starts with a digit or a minus. -/
theorem Number.first {lexeme : Bytes} (number : Number lexeme) :
    ∃ b others, lexeme = b :: others ∧ (isDigit b = true ∨ b = 0x2D) := by
  cases number with
  | unsigned isUnsigned =>
      obtain ⟨b, others, split, digit⟩ := isUnsigned.first
      exact ⟨b, others, split, Or.inl digit⟩
  | negative => exact ⟨_, _, rfl, Or.inr rfl⟩

/-! ## Strings -/

theorem quotable_of_stringRest {bytes raw rest : Bytes}
    (read : stringRest bytes = some (raw, rest)) : Quotable raw ∧ bytes = raw ++ 0x22 :: rest := by
  fun_induction stringRest bytes generalizing raw rest with
  | case1 => cases read
  | case2 after =>
      obtain ⟨rfl, rfl⟩ := Prod.mk.inj (Option.some.inj read)
      exact ⟨.nil, rfl⟩
  | case3 a b c d after unit inner left found hex ih =>
      obtain ⟨rfl, rfl⟩ := Prod.mk.inj (Option.some.inj read)
      obtain ⟨quotable, rfl⟩ := ih found
      exact ⟨.unit hex quotable, rfl⟩
  | case4 => cases read
  | case5 letter after _ meant inner left found escape ih =>
      obtain ⟨rfl, rfl⟩ := Prod.mk.inj (Option.some.inj read)
      obtain ⟨quotable, rfl⟩ := ih found
      exact ⟨.escape escape quotable, rfl⟩
  | case6 => cases read
  | case7 => cases read
  | case8 b after unquoted _ _ shown ih =>
      obtain ⟨⟨inner, left⟩, found, same⟩ := Option.map_eq_some_iff.mp read
      obtain ⟨rfl, rfl⟩ := Prod.mk.inj same
      obtain ⟨quotable, rfl⟩ := ih found
      rw [not_or, UInt8.not_lt] at shown
      exact ⟨.plain shown.1 unquoted shown.2 quotable, rfl⟩

theorem stringRest_append {raw : Bytes} (quotable : Quotable raw) (rest : Bytes) :
    stringRest (raw ++ 0x22 :: rest) = some (raw, rest) := by
  induction quotable with
  | nil => rfl
  | @plain b others shown unquoted unescaped _ ih =>
      have control : ¬ (b < 0x20 ∨ b = 0x5C) := by
        rw [not_or, UInt8.not_lt]
        exact ⟨shown, unescaped⟩
      rw [List.cons_append, stringRest, if_neg control, ih]
      · rfl
      · exact unquoted
      · exact fun _ _ _ _ _ same _ => unescaped same
      · exact fun _ _ same _ => unescaped same
  | @escape letter b others meant _ ih =>
      rw [List.cons_append, List.cons_append, stringRest, meant, ih]
      intro _ _ _ _ _ same _
      rw [same] at meant
      cases meant
  | @unit a b c d unit others hex _ ih =>
      simp only [List.cons_append, stringRest, hex, ih]

/-! ## Tokens -/

theorem token_of_nextToken? {bytes rest : Bytes} {token : Token}
    (read : nextToken? bytes = some (token, rest)) : token.Spelled ∧ bytes = token.bytes ++ rest := by
  unfold nextToken? at read
  split at read
  case h_1 => cases read
  case h_8 =>
    obtain ⟨⟨raw, left⟩, found, same⟩ := Option.map_eq_some_iff.mp read
    obtain ⟨rfl, rfl⟩ := Prod.mk.inj same
    obtain ⟨quotable, rfl⟩ := quotable_of_stringRest found
    exact ⟨quotable, by simp [Token.bytes]⟩
  case h_12 =>
    obtain ⟨⟨lexeme, left⟩, found, same⟩ := Option.map_eq_some_iff.mp read
    obtain ⟨rfl, rfl⟩ := Prod.mk.inj same
    obtain ⟨number, rfl⟩ := number_of_number? found
    exact ⟨number, rfl⟩
  all_goals
    obtain ⟨rfl, rfl⟩ := Prod.mk.inj (Option.some.inj read)
    exact ⟨trivial, rfl⟩

theorem nextToken?_append {token : Token} (spelled : token.Spelled) {rest : Bytes}
    (stops : ∀ lexeme, token = .number lexeme → StopsNumber rest) :
    nextToken? (token.bytes ++ rest) = some (token, rest) := by
  cases token with
  | number lexeme =>
      obtain ⟨b, others, rfl, leads⟩ := Number.first spelled
      have read := number?_append spelled (stops _ rfl)
      simp only [Token.bytes, List.cons_append] at read ⊢
      unfold nextToken?
      split
      case h_12 =>
        rw [read]
        rfl
      case h_1 same => cases same
      -- every other case starts with a byte that starts no number
      all_goals
        rename_i same
        rw [(List.cons.inj same).1] at leads
        exact absurd leads (by decide)
  | text raw =>
      simp [Token.bytes, nextToken?, stringRest_append spelled rest]
  | boolean b => cases b <;> rfl
  | _ => rfl

end Stagehand.Json
