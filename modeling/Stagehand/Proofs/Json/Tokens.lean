import Mathlib.Data.List.Chain
import Stagehand.Proofs.Json.Lexeme

/-! # Reading all tokens

The tokens read off a text are tokens that the text is written with.  Those that it is written with
are read, as long as no two numbers stand next to each other, which they never do in a value.
-/

set_option autoImplicit false

namespace Stagehand.Json

theorem isSpace_iff {b : UInt8} :
    isSpace b = true ↔ b = 0x20 ∨ b = 0x09 ∨ b = 0x0A ∨ b = 0x0D := by
  simp [isSpace, or_assoc]

namespace Token

def isNumber : Token → Bool
  | number _ => true
  | _ => false

/-- A spelled token starts with a byte that is no blank, and with one that no number goes on with
unless it is a number itself. -/
theorem bytes_eq_cons {token : Token} (spelled : token.Spelled) :
    ∃ b others, token.bytes = b :: others ∧ isSpace b = false ∧
      (token.isNumber = false → StopsNumber (b :: others)) := by
  have fixed {b : UInt8} {others : Bytes} (starts : isSpace b = false)
      (stops : isDigit b = false ∧ b ≠ 0x2E ∧ b ≠ 0x65 ∧ b ≠ 0x45) :
      ∃ first more, b :: others = first :: more ∧ isSpace first = false ∧
        (token.isNumber = false → StopsNumber (first :: more)) := by
    refine ⟨b, others, rfl, starts, fun _ found first => ?_⟩
    cases Option.some.inj first
    exact stops
  cases token with
  | number lexeme =>
      obtain ⟨b, others, split, leads⟩ := Number.first spelled
      refine ⟨b, others, split, ?_, fun other => by cases other⟩
      rcases leads with digit | rfl
      · refine Bool.eq_false_iff.mpr fun space => ?_
        rcases isSpace_iff.mp space with rfl | rfl | rfl | rfl <;> revert digit <;> decide
      · decide
  | boolean b => cases b <;> exact fixed (by decide) (by decide)
  | _ => exact fixed (by decide) (by decide)

end Token

/-- No two numbers stand next to each other. -/
def Apart (tokens : List Token) : Prop :=
  tokens.IsChain fun first second => first.isNumber = false ∨ second.isNumber = false

theorem written_of_tokensWithin {bound : Nat} {text : Bytes} {tokens : List Token}
    (read : tokensWithin bound text = some tokens) : Written tokens text := by
  induction bound generalizing text tokens with
  | zero =>
      cases text with
      | nil =>
          cases Option.some.inj read
          exact .nil
      | cons => cases read
  | succ bound ih =>
      cases text with
      | nil =>
          cases Option.some.inj read
          exact .nil
      | cons b rest =>
          rw [tokensWithin] at read
          split at read
          · rename_i space
            exact .blank space (ih read)
          · split at read
            · cases read
            · rename_i token left next
              obtain ⟨others, found, rfl⟩ := Option.map_eq_some_iff.mp read
              obtain ⟨spelled, split⟩ := token_of_nextToken? next
              rw [split]
              exact .token spelled (ih found)

theorem Written.stopsNumber {tokens : List Token} {text : Bytes} (written : Written tokens text)
    (other : ∀ token, tokens.head? = some token → token.isNumber = false) : StopsNumber text := by
  cases written with
  | nil => exact fun b first => by cases first
  | @blank _ b _ space =>
      intro first same
      cases Option.some.inj same
      rcases isSpace_iff.mp space with rfl | rfl | rfl | rfl <;> decide
  | @token token _ rest spelled _ =>
      obtain ⟨b, others, split, -, stops⟩ := Token.bytes_eq_cons spelled
      intro first same
      refine stops (other token rfl) first ?_
      rw [split] at same
      exact same

theorem tokensWithin_of_written {text : Bytes} {tokens : List Token}
    (written : Written tokens text) (apart : Apart tokens) {bound : Nat}
    (enough : text.length ≤ bound) : tokensWithin bound text = some tokens := by
  -- A blank and a token take a byte at least, so the bound lasts for what follows.
  induction written generalizing bound with
  | nil => cases bound <;> rfl
  | @blank tokens b rest space _ ih =>
      obtain ⟨bound, rfl⟩ : ∃ less, bound = less + 1 := ⟨bound - 1, by simp at enough; omega⟩
      rw [tokensWithin, if_pos space]
      exact ih apart (by simpa using enough)
  | @token token others rest spelled following ih =>
      obtain ⟨b, more, split, visible, -⟩ := Token.bytes_eq_cons spelled
      have next : nextToken? (token.bytes ++ rest) = some (token, rest) := by
        refine nextToken?_append spelled fun lexeme number => following.stopsNumber ?_
        intro second first
        obtain ⟨later, rfl⟩ := List.head?_eq_some_iff.mp first
        rw [number] at apart
        exact (List.isChain_cons_cons.mp apart).1.resolve_left (by simp [Token.isNumber])
      rw [split, List.cons_append] at next enough ⊢
      obtain ⟨bound, rfl⟩ : ∃ less, bound = less + 1 := ⟨bound - 1, by simp at enough; omega⟩
      rw [tokensWithin, if_neg (by simp [visible]), next]
      dsimp only
      rw [ih (List.IsChain.tail apart) (by simp at enough; omega)]
      rfl

theorem written_of_tokens? {text : Bytes} {tokens : List Token}
    (read : tokens? text = some tokens) : Written tokens text :=
  written_of_tokensWithin read

theorem tokens?_of_written {text : Bytes} {tokens : List Token} (written : Written tokens text)
    (apart : Apart tokens) : tokens? text = some tokens :=
  tokensWithin_of_written written apart (Nat.le_refl _)

end Stagehand.Json
