import Stagehand.Proofs.Json.Grammar
import Stagehand.Proofs.Text.Encoded

/-! # What a string spells

Resolving the escapes of a string and reading the bytes as text gives the characters that the string
spells, and gives nothing if it spells none.
-/

set_option autoImplicit false

namespace Stagehand.Json

/-! ## Codes -/

theorem hexValue?_lt : ∀ b, ∀ value ∈ hexValue? b, value < 16 :=
  Text.forall_byte (by decide +kernel)

theorem hexUnit?_lt {a b c d : UInt8} {unit : Nat} (read : hexUnit? a b c d = some unit) :
    unit < 0x10000 := by
  unfold hexUnit? at read
  split at read
  · rename_i p q r s first second third fourth
    have := hexValue?_lt _ _ first
    have := hexValue?_lt _ _ second
    have := hexValue?_lt _ _ third
    have := hexValue?_lt _ _ fourth
    cases Option.some.inj read
    omega
  · cases read

theorem toNat_ofNat_of_unit {code : Nat} (basic : code < 0x10000)
    (whole : ¬ (0xD800 ≤ code ∧ code < 0xE000)) : (Char.ofNat code).toNat = code := by
  have valid : code.isValidChar := by
    unfold Nat.isValidChar
    omega
  rw [Char.ofNat, dif_pos valid]
  rfl

theorem toNat_ofNat_of_pair {high low : Nat} (upper : high < 0xDC00) (lower : low < 0xE000) :
    (Char.ofNat (pairCode high low)).toNat = pairCode high low := by
  have valid : (pairCode high low).isValidChar := by
    unfold Nat.isValidChar pairCode
    omega
  rw [Char.ofNat, dif_pos valid]
  rfl

theorem codeBytes_toNat (c : Char) : codeBytes c.toNat = String.utf8EncodeChar c := by
  rw [codeBytes, Char.ofNat_toNat]

theorem not_surrogate (c : Char) : ¬ (0xD800 ≤ c.toNat ∧ c.toNat < 0xE000) := by
  have valid := c.valid
  simp only [UInt32.isValidChar, Nat.isValidChar] at valid
  unfold Char.toNat
  omega

theorem escaped?_lt : ∀ letter, ∀ b ∈ escaped? letter, b.toNat < 0x80 :=
  Text.forall_byte (by decide +kernel)

/-! ## Escapes resolved -/

theorem resolve?_plain {b : UInt8} (unescaped : b ≠ 0x5C) (rest : Bytes) :
    resolve? (b :: rest) = (resolve? rest).map (b :: ·) := by
  rw [resolve?]
  · exact fun _ _ _ _ _ _ _ _ _ same _ => unescaped same
  · exact fun _ _ _ _ _ same _ => unescaped same
  · exact fun _ _ same _ => unescaped same

theorem resolve?_append {front : Bytes} (unescaped : ∀ b ∈ front, b ≠ 0x5C) (rest : Bytes) :
    resolve? (front ++ rest) = (resolve? rest).map (front ++ ·) := by
  induction front with
  | nil => simp
  | cons b others ih =>
      obtain ⟨first, later⟩ := List.forall_mem_cons.mp unescaped
      rw [List.cons_append, resolve?_plain first, ih later, Option.map_map]
      rfl

theorem resolve?_letter {letter b : UInt8} (meant : escaped? letter = some b) (rest : Bytes) :
    resolve? (0x5C :: letter :: rest) = (resolve? rest).map (b :: ·) := by
  have other : letter ≠ 0x75 := by
    rintro rfl
    cases meant
  rw [resolve?, meant]
  · exact fun _ _ _ _ _ _ _ _ _ same _ => other same
  · exact fun _ _ _ _ _ same _ => other same

theorem resolve?_unit {a b c d : UInt8} {unit : Nat} (hex : hexUnit? a b c d = some unit)
    (whole : ¬ (0xD800 ≤ unit ∧ unit < 0xE000)) (rest : Bytes) :
    resolve? (0x5C :: 0x75 :: a :: b :: c :: d :: rest) =
      (resolve? rest).map (codeBytes unit ++ ·) := by
  by_cases followed : ∃ e f g h more, rest = 0x5C :: 0x75 :: e :: f :: g :: h :: more
  · obtain ⟨e, f, g, h, more, rfl⟩ := followed
    rw [resolve?, hex]
    dsimp only
    rw [if_neg (by omega), if_neg (by omega)]
  · rw [resolve?, hex]
    · dsimp only
      rw [if_neg whole]
    · exact fun e f g h more same => followed ⟨e, f, g, h, more, same⟩

theorem resolve?_pair {a b c d e f g h : UInt8} {high low : Nat}
    (first : hexUnit? a b c d = some high) (second : hexUnit? e f g h = some low)
    (upper : 0xD800 ≤ high ∧ high < 0xDC00) (lower : 0xDC00 ≤ low ∧ low < 0xE000) (rest : Bytes) :
    resolve? (0x5C :: 0x75 :: a :: b :: c :: d :: 0x5C :: 0x75 :: e :: f :: g :: h :: rest) =
      (resolve? rest).map (codeBytes (pairCode high low) ++ ·) := by
  rw [resolve?, first]
  dsimp only
  rw [if_pos upper, second]
  dsimp only
  rw [if_pos lower]

theorem encodeChar_of_escaped {letter b : UInt8} (meant : escaped? letter = some b) :
    String.utf8EncodeChar (Char.ofNat b.toNat) = [b] := by
  have ascii := escaped?_lt _ _ meant
  have code : (Char.ofNat b.toNat).toNat = b.toNat :=
    toNat_ofNat_of_unit (by omega) (by omega)
  rw [Text.encodeChar_of_ascii (by omega), code, UInt8.ofNat_toNat]

theorem Escape.resolves {mark : Bytes} {c : Char} (escape : Escape mark c) (rest : Bytes) :
    resolve? (mark ++ rest) = (resolve? rest).map (String.utf8EncodeChar c ++ ·) := by
  cases escape with
  | @letter letter b meant =>
      rw [encodeChar_of_escaped meant]
      exact resolve?_letter meant rest
  | unit hex =>
      rw [← codeBytes_toNat]
      exact resolve?_unit hex (not_surrogate c) rest
  | pair first second upper lower code =>
      rw [← codeBytes_toNat, code]
      exact resolve?_pair first second upper lower rest

theorem encodeChar_unescaped {c : Char} (other : c ≠ '\\') :
    ∀ b ∈ String.utf8EncodeChar c, b ≠ 0x5C := by
  rintro b member rfl
  by_cases ascii : c.toNat < 0x80
  · rw [Text.encodeChar_of_ascii ascii, List.mem_singleton] at member
    refine other (Char.ext (UInt32.toNat.inj ?_))
    have code := congrArg UInt8.toNat member
    rw [UInt8.toNat_ofNat', Nat.mod_eq_of_lt (by omega)] at code
    exact code.symm
  · have above := Text.le_of_mem_encodeChar (Nat.le_of_not_lt ascii) member
    exact absurd above (by decide)

theorem resolve?_of_spells {raw : Bytes} {text : List Char} (spells : Spells raw text) :
    resolve? raw = some (text.flatMap String.utf8EncodeChar) := by
  induction spells with
  | nil => rfl
  | plain _ _ unescaped _ ih =>
      rw [resolve?_append (encodeChar_unescaped unescaped), ih]
      rfl
  | escape escape _ ih =>
      rw [escape.resolves, ih]
      rfl

/-! ## What escapes are resolved to -/

/-- The bytes of a string and the bytes that they are resolved to. -/
inductive Resolves : Bytes → Bytes → Prop where
  | nil : Resolves [] []
  | plain {b : UInt8} {rest more : Bytes} : 0x20 ≤ b → b ≠ 0x22 → b ≠ 0x5C → Resolves rest more →
      Resolves (b :: rest) (b :: more)
  | escape {mark : Bytes} {c : Char} {rest more : Bytes} : Escape mark c → Resolves rest more →
      Resolves (mark ++ rest) (String.utf8EncodeChar c ++ more)

theorem Quotable.afterUnit {a b c d : UInt8} {rest : Bytes}
    (quotable : Quotable (0x5C :: 0x75 :: a :: b :: c :: d :: rest)) : Quotable rest := by
  cases quotable with
  | plain _ _ unescaped => exact absurd rfl unescaped
  | escape meant => cases meant
  | unit _ after => exact after

theorem Quotable.afterLetter {letter b : UInt8} {rest : Bytes} (meant : escaped? letter = some b)
    (quotable : Quotable (0x5C :: letter :: rest)) : Quotable rest := by
  cases quotable with
  | plain _ _ unescaped => exact absurd rfl unescaped
  | escape _ after => exact after
  | unit => cases meant

theorem resolves_of_resolve? {raw bytes : Bytes} (quotable : Quotable raw)
    (resolved : resolve? raw = some bytes) : Resolves raw bytes := by
  fun_induction resolve? raw generalizing bytes with
  | case1 =>
      cases Option.some.inj resolved
      exact .nil
  | case4 a b c d e f g h rest high first upper low second lower ih =>
      obtain ⟨more, found, rfl⟩ := Option.map_eq_some_iff.mp resolved
      have code := toNat_ofNat_of_pair upper.2 lower.2
      exact .escape (.pair first second upper lower code) (ih quotable.afterUnit.afterUnit found)
  | case7 a b c d e f g h rest unit hex low high ih =>
      obtain ⟨more, found, rfl⟩ := Option.map_eq_some_iff.mp resolved
      have code := toNat_ofNat_of_unit (hexUnit?_lt hex) (by omega)
      exact .escape (.unit (code.symm ▸ hex)) (ih quotable.afterUnit found)
  | case10 a b c d rest _ unit hex whole ih =>
      obtain ⟨more, found, rfl⟩ := Option.map_eq_some_iff.mp resolved
      have code := toNat_ofNat_of_unit (hexUnit?_lt hex) whole
      exact .escape (.unit (code.symm ▸ hex)) (ih quotable.afterUnit found)
  | case12 letter rest _ _ b meant ih =>
      obtain ⟨more, found, rfl⟩ := Option.map_eq_some_iff.mp resolved
      have single := encodeChar_of_escaped meant
      have after := Resolves.escape (.letter meant) (ih (quotable.afterLetter meant) found)
      rwa [single] at after
  | case13 b rest _ unit letter ih =>
      obtain ⟨more, found, rfl⟩ := Option.map_eq_some_iff.mp resolved
      cases quotable with
      | plain shown unquoted unescaped after =>
          exact .plain shown unquoted unescaped (ih after found)
      | escape => exact absurd rfl (letter _ _ rfl)
      | unit => exact absurd rfl (letter _ _ rfl)
  | _ => cases resolved

/-- Bytes that go on with a character stand in the string as they are. -/
theorem Resolves.of_continuing {others raw bytes : Bytes}
    (continuing : ∀ b ∈ others, ¬ b.IsUTF8FirstByte) (resolves : Resolves raw (others ++ bytes)) :
    ∃ rest, raw = others ++ rest ∧ Resolves rest bytes := by
  induction others generalizing raw with
  | nil => exact ⟨raw, rfl, resolves⟩
  | cons b others ih =>
      obtain ⟨first, later⟩ := List.forall_mem_cons.mp continuing
      rw [List.cons_append] at resolves
      generalize whole : b :: (others ++ bytes) = resolved at resolves
      cases resolves with
      | nil => cases whole
      | plain _ _ _ after =>
          obtain ⟨rfl, rfl⟩ := List.cons.inj whole
          obtain ⟨rest, rfl, last⟩ := ih later after
          exact ⟨rest, rfl, last⟩
      | @escape _ c _ _ _ after =>
          -- An escape gives a whole character, whose first byte goes on with no other.
          obtain ⟨lead, more, split, leads, -⟩ := Text.encodeChar_eq_cons c
          rw [split, List.cons_append] at whole
          rw [(List.cons.inj whole).1] at first
          exact absurd leads first

theorem shown_of_first {c : Char} {first : UInt8} {others : Bytes}
    (split : String.utf8EncodeChar c = first :: others) (shown : 0x20 ≤ first)
    (unquoted : first ≠ 0x22) (unescaped : first ≠ 0x5C) :
    0x20 ≤ c.toNat ∧ c ≠ '"' ∧ c ≠ '\\' := by
  refine ⟨?_, ?_, ?_⟩
  · by_cases ascii : c.toNat < 0x80
    · rw [Text.encodeChar_of_ascii ascii] at split
      rw [← (List.cons.inj split).1, UInt8.le_iff_toNat_le, UInt8.toNat_ofNat',
        Nat.mod_eq_of_lt (by omega)] at shown
      exact shown
    · omega
  · rintro rfl
    exact unquoted (List.cons.inj split).1.symm
  · rintro rfl
    exact unescaped (List.cons.inj split).1.symm

theorem Resolves.spells {raw : Bytes} {text : List Char}
    (resolves : Resolves raw (text.flatMap String.utf8EncodeChar)) : Spells raw text := by
  induction text generalizing raw with
  | nil =>
      rw [List.flatMap_nil] at resolves
      generalize none : ([] : Bytes) = resolved at resolves
      cases resolves with
      | nil => exact .nil
      | plain => cases none
      | @escape _ c =>
          have written := @String.utf8EncodeChar_ne_nil c
          simp [written] at none
  | cons c text ih =>
      obtain ⟨first, others, split, -, continuing⟩ := Text.encodeChar_eq_cons c
      rw [List.flatMap_cons] at resolves
      generalize whole : String.utf8EncodeChar c ++ text.flatMap String.utf8EncodeChar = resolved
        at resolves
      cases resolves with
      | nil => simp [split] at whole
      | plain shown unquoted unescaped after =>
          rw [split, List.cons_append] at whole
          obtain ⟨rfl, rfl⟩ := List.cons.inj whole
          obtain ⟨rest, rfl, last⟩ := after.of_continuing continuing
          obtain ⟨visible, quote, backslash⟩ := shown_of_first split shown unquoted unescaped
          have spells := Spells.plain visible quote backslash (ih last)
          rwa [split] at spells
      | escape escape after =>
          obtain ⟨rfl, rfl⟩ := Text.encodeChar_append_inj whole
          exact .escape escape (ih after)

/-- A string says a text exactly if it spells its characters. -/
theorem textOf?_eq_some_iff {raw : Bytes} (quotable : Quotable raw) {text : String} :
    textOf? raw = some text ↔ Spells raw text.toList := by
  unfold textOf?
  rw [Option.bind_eq_some_iff]
  constructor
  · rintro ⟨bytes, resolved, read⟩
    rw [Text.decode?_eq_some_iff, Text.encode_eq] at read
    exact (read ▸ resolves_of_resolve? quotable resolved).spells
  · intro spells
    refine ⟨_, resolve?_of_spells spells, ?_⟩
    rw [Text.decode?_eq_some_iff, Text.encode_eq]

end Stagehand.Json
