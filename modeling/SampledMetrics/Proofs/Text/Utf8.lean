import SampledMetrics.Defaults.Load
import SampledMetrics.Proofs.Failing
/-!
Decoding against the standard encoding of characters.  A character's first byte fixes how many follow it
and the range of the next; inside those ranges the codes are those of the code points that need so many
bytes, each once.  Main statement: decoding succeeds exactly on the bytes of a text, and gives that text.
-/

set_option autoImplicit false
set_option relaxedAutoImplicit false

namespace SampledMetrics.Text.Utf8

/-- Bytes end a character that has begun, and give it a code. -/
def Partial.EndsWith : Partial → List UInt8 → Nat → Prop
  | _, [], _ => False
  | p, byte :: rest, code =>
      p.least ≤ byte.toNat ∧ byte.toNat ≤ p.greatest ∧
        if p.missing = 1 then rest = [] ∧ code = p.join byte.toNat
        else (p.extend byte.toNat).EndsWith rest code

/-- A byte and those after it are one character with a code. -/
def Encodes (code : Nat) (byte : UInt8) (rest : List UInt8) : Prop :=
  (byte.toNat < 0x80 ∧ rest = [] ∧ code = byte.toNat) ∨
    ∃ p, Partial.ofFirst? byte.toNat = some p ∧ p.EndsWith rest code

private theorem ofFirst?_two {byte : Nat} (low : 0xc2 ≤ byte) (high : byte < 0xe0) :
    Partial.ofFirst? byte = some ⟨byte, 1, 1, 0x80, 0xbf, byte - 0xc0⟩ := by
  unfold Partial.ofFirst?
  rw [if_neg (by omega), if_pos high]

private theorem ofFirst?_three {byte : Nat} (low : 0xe0 ≤ byte) (high : byte < 0xf0) :
    Partial.ofFirst? byte = some ⟨byte, 1, 2, if byte = 0xe0 then 0xa0 else 0x80,
      if byte = 0xed then 0x9f else 0xbf, byte - 0xe0⟩ := by
  unfold Partial.ofFirst?
  rw [if_neg (by omega), if_neg (by omega)]
  grind

private theorem ofFirst?_four {byte : Nat} (low : 0xf0 ≤ byte) (high : byte < 0xf5) :
    Partial.ofFirst? byte = some ⟨byte, 1, 3, if byte = 0xf0 then 0x90 else 0x80,
      if byte = 0xf4 then 0x8f else 0xbf, byte - 0xf0⟩ := by
  unfold Partial.ofFirst?
  grind

section Ends

variable {p : Partial} {bytes : List UInt8} {code : Nat}

private theorem Partial.endsWith_last (last : p.missing = 1) :
    p.EndsWith bytes code ↔ ∃ byte, bytes = [byte] ∧ p.least ≤ byte.toNat ∧ byte.toNat ≤ p.greatest ∧
      code = p.join byte.toNat := by
  cases bytes with
  | nil => simp [EndsWith]
  | cons byte rest =>
    simp only [EndsWith, if_pos last, List.cons.injEq]
    constructor
    · rintro ⟨least, greatest, rfl, joined⟩
      exact ⟨byte, ⟨rfl, rfl⟩, least, greatest, joined⟩
    · rintro ⟨_, ⟨rfl, rfl⟩, least, greatest, joined⟩
      exact ⟨least, greatest, rfl, joined⟩

private theorem Partial.endsWith_further (further : p.missing ≠ 1) :
    p.EndsWith bytes code ↔ ∃ byte rest, bytes = byte :: rest ∧ p.least ≤ byte.toNat ∧
      byte.toNat ≤ p.greatest ∧ (p.extend byte.toNat).EndsWith rest code := by
  cases bytes with
  | nil => simp [EndsWith]
  | cons byte rest =>
    simp only [EndsWith, if_neg further, List.cons.injEq]
    constructor
    · rintro ⟨least, greatest, ends⟩
      exact ⟨byte, rest, ⟨rfl, rfl⟩, least, greatest, ends⟩
    · rintro ⟨_, _, ⟨rfl, rfl⟩, least, greatest, ends⟩
      exact ⟨least, greatest, ends⟩

end Ends

private theorem range_of_ofFirst? {byte : Nat} {p : Partial} (begun : Partial.ofFirst? byte = some p) :
    0xc2 ≤ byte ∧ byte < 0xf5 := by
  unfold Partial.ofFirst? at begun
  grind

section Codes

variable {first : UInt8} {rest : List UInt8} {code : Nat}

private theorem encodes_one (low : first.toNat < 0x80) :
    Encodes code first rest ↔ rest = [] ∧ code = first.toNat := by
  constructor
  · rintro (⟨-, alone, same⟩ | ⟨p, begun, -⟩)
    · exact ⟨alone, same⟩
    · have := range_of_ofFirst? begun
      omega
  · rintro ⟨alone, same⟩
    exact Or.inl ⟨low, alone, same⟩

private theorem encodes_of_some {p : Partial} (high : 0x80 ≤ first.toNat) (begun : Partial.ofFirst? first.toNat = some p) :
    Encodes code first rest ↔ p.EndsWith rest code := by
  constructor
  · rintro (⟨low, -⟩ | ⟨q, begun', ends⟩)
    · omega
    · obtain rfl := Option.some.inj (begun.symm.trans begun')
      exact ends
  · exact fun ends => Or.inr ⟨p, begun, ends⟩

private theorem encodes_two (low : 0xc2 ≤ first.toNat) (high : first.toNat < 0xe0) :
    Encodes code first rest ↔ ∃ second, rest = [second] ∧ 0x80 ≤ second.toNat ∧ second.toNat ≤ 0xbf ∧
      code = (first.toNat - 0xc0) * 64 + (second.toNat - 0x80) := by
  rw [encodes_of_some (by omega) (ofFirst?_two low high), Partial.endsWith_last rfl]
  rfl

private theorem encodes_three (low : 0xe0 ≤ first.toNat) (high : first.toNat < 0xf0) :
    Encodes code first rest ↔ ∃ second third, rest = [second, third] ∧
      (0x80 ≤ second.toNat ∧ second.toNat ≤ 0xbf ∧ (first.toNat = 0xe0 → 0xa0 ≤ second.toNat) ∧
        (first.toNat = 0xed → second.toNat ≤ 0x9f)) ∧
      (0x80 ≤ third.toNat ∧ third.toNat ≤ 0xbf) ∧
      code = ((first.toNat - 0xe0) * 64 + (second.toNat - 0x80)) * 64 + (third.toNat - 0x80) := by
  rw [encodes_of_some (by omega) (ofFirst?_three low high), Partial.endsWith_further (by simp)]
  constructor
  · rintro ⟨second, _, rfl, least, greatest, ends⟩
    obtain ⟨third, rfl, least', greatest', joined⟩ := (Partial.endsWith_last rfl).mp ends
    exact ⟨second, third, rfl, by grind, ⟨least', greatest'⟩, joined⟩
  · rintro ⟨second, third, rfl, within, ⟨least', greatest'⟩, joined⟩
    exact ⟨second, _, rfl, by grind, by grind,
      (Partial.endsWith_last rfl).mpr ⟨third, rfl, least', greatest', joined⟩⟩

private theorem encodes_four (low : 0xf0 ≤ first.toNat) (high : first.toNat < 0xf5) :
    Encodes code first rest ↔ ∃ second third fourth, rest = [second, third, fourth] ∧
      (0x80 ≤ second.toNat ∧ second.toNat ≤ 0xbf ∧ (first.toNat = 0xf0 → 0x90 ≤ second.toNat) ∧
        (first.toNat = 0xf4 → second.toNat ≤ 0x8f)) ∧
      (0x80 ≤ third.toNat ∧ third.toNat ≤ 0xbf) ∧ (0x80 ≤ fourth.toNat ∧ fourth.toNat ≤ 0xbf) ∧
      code = (((first.toNat - 0xf0) * 64 + (second.toNat - 0x80)) * 64 + (third.toNat - 0x80)) * 64 +
        (fourth.toNat - 0x80) := by
  rw [encodes_of_some (by omega) (ofFirst?_four low high), Partial.endsWith_further (by simp)]
  constructor
  · rintro ⟨second, _, rfl, least, greatest, ends⟩
    obtain ⟨third, _, rfl, least', greatest', ends⟩ :=
      (Partial.endsWith_further (by simp [Partial.extend])).mp ends
    obtain ⟨fourth, rfl, least'', greatest'', joined⟩ := (Partial.endsWith_last rfl).mp ends
    exact ⟨second, third, fourth, rfl, by grind, ⟨least', greatest'⟩, ⟨least'', greatest''⟩, joined⟩
  · rintro ⟨second, third, fourth, rfl, within, ⟨least', greatest'⟩, ⟨least'', greatest''⟩, joined⟩
    exact ⟨second, _, rfl, by grind, by grind, (Partial.endsWith_further (by simp [Partial.extend])).mpr
      ⟨third, _, rfl, least', greatest',
        (Partial.endsWith_last rfl).mpr ⟨fourth, rfl, least'', greatest'', joined⟩⟩⟩

end Codes

private theorem exists_char {code : Nat} (valid : code.isValidChar) :
    ∃ c : Char, c.toNat = code ∧ c.val.toNat = code := by
  have same : (Char.ofNatAux code valid).val.toNat = code := rfl
  exact ⟨_, same, same⟩

private theorem ofNat_eq_iff {code : Nat} {byte : UInt8} : UInt8.ofNat code = byte ↔ code % 256 = byte.toNat := by
  rw [← UInt8.toNat_inj, UInt8.toNat_ofNat']

private theorem exists_char_of_encodes {code : Nat} {first : UInt8} {rest : List UInt8}
    (encodes : Encodes code first rest) :
    ∃ c : Char, c.toNat = code ∧ String.utf8EncodeChar c = first :: rest := by
  have size : first.toNat < 0x80 ∨ (0xc2 ≤ first.toNat ∧ first.toNat < 0xe0) ∨
      (0xe0 ≤ first.toNat ∧ first.toNat < 0xf0) ∨ (0xf0 ≤ first.toNat ∧ first.toNat < 0xf5) := by
    rcases encodes with ⟨low, -⟩ | ⟨p, begun, -⟩
    · exact Or.inl low
    · have := range_of_ofFirst? begun
      omega
  unfold String.utf8EncodeChar
  rcases size with low | ⟨low, high⟩ | ⟨low, high⟩ | ⟨low, high⟩
  · obtain ⟨rfl, rfl⟩ := (encodes_one low).mp encodes
    obtain ⟨c, same, value⟩ := exists_char (show first.toNat.isValidChar from Or.inl (by omega))
    refine ⟨c, same, ?_⟩
    rw [value, if_pos (by omega)]
    simp only [List.cons.injEq, ofNat_eq_iff, and_true]
    omega
  · obtain ⟨second, rfl, least, greatest, joined⟩ := (encodes_two low high).mp encodes
    obtain ⟨c, same, value⟩ := exists_char (show code.isValidChar from Or.inl (by omega))
    refine ⟨c, same, ?_⟩
    rw [value, if_neg (by omega), if_pos (by omega)]
    simp only [List.cons.injEq, ofNat_eq_iff, and_true]
    omega
  · obtain ⟨second, third, rfl, within, within', joined⟩ := (encodes_three low high).mp encodes
    obtain ⟨c, same, value⟩ := exists_char (show code.isValidChar by simp only [Nat.isValidChar]; omega)
    refine ⟨c, same, ?_⟩
    rw [value, if_neg (by omega), if_neg (by omega), if_pos (by omega)]
    simp only [List.cons.injEq, ofNat_eq_iff, and_true]
    omega
  · obtain ⟨second, third, fourth, rfl, within, within', within'', joined⟩ :=
      (encodes_four low high).mp encodes
    obtain ⟨c, same, value⟩ := exists_char (show code.isValidChar by simp only [Nat.isValidChar]; omega)
    refine ⟨c, same, ?_⟩
    rw [value, if_neg (by omega), if_neg (by omega), if_neg (by omega)]
    simp only [List.cons.injEq, ofNat_eq_iff, and_true]
    omega

private theorem encodes_of_char (c : Char) :
    ∃ first rest, String.utf8EncodeChar c = first :: rest ∧ Encodes c.toNat first rest := by
  have valid := c.valid
  have value : c.val.toNat = c.toNat := rfl
  simp only [UInt32.isValidChar, Nat.isValidChar, value] at valid
  unfold String.utf8EncodeChar
  rw [value]
  dsimp only
  split
  · refine ⟨_, _, rfl, (encodes_one ?_).mpr ⟨rfl, ?_⟩⟩
    all_goals simp only [UInt8.toNat_ofNat']; omega
  · split
    · refine ⟨_, _, rfl, (encodes_two ?_ ?_).mpr ⟨_, rfl, ?_, ?_, ?_⟩⟩
      all_goals simp only [UInt8.toNat_ofNat']; omega
    · split
      · refine ⟨_, _, rfl, (encodes_three ?_ ?_).mpr ⟨_, _, rfl, ?_, ?_, ?_⟩⟩
        all_goals simp only [UInt8.toNat_ofNat']; omega
      · refine ⟨_, _, rfl, (encodes_four ?_ ?_).mpr ⟨_, _, _, rfl, ?_, ?_, ?_, ?_⟩⟩
        all_goals simp only [UInt8.toNat_ofNat']; omega

section Decoding

variable {position : Nat} {c : Char} {bytes : List UInt8} {cs after : List Char}

private theorem add_length_cons (position : Nat) (byte : UInt8) (bytes : List UInt8) :
    position + (byte :: bytes).length = position + 1 + bytes.length := by
  rw [List.length_cons, Nat.add_comm bytes.length, Nat.add_assoc]

/-- Decoding inside a character succeeds exactly when further bytes end the character, and decoding goes on
after them. -/
private theorem decodeFrom_some_eq_ok_iff {p : Partial} :
    decodeFrom position (some p) bytes = .ok cs ↔
      ∃ ending rest code after, bytes = ending ++ rest ∧ p.EndsWith ending code ∧
        cs = Char.ofNat code :: after ∧ decodeFrom (position + ending.length) none rest = .ok after := by
  induction bytes generalizing position p with
  | nil =>
    refine iff_of_false (by simp [decodeFrom]) ?_
    rintro ⟨ending, rest, code, after, empty, ends, -⟩
    obtain ⟨rfl, rfl⟩ := List.append_eq_nil_iff.mp empty.symm
    exact ends
  | cons byte rest ih =>
    rw [decodeFrom]
    constructor
    · intro done
      split at done
      · contradiction
      · rename_i within
        have range : p.least ≤ byte.toNat ∧ byte.toNat ≤ p.greatest := by simpa using within
        split at done
        · rename_i last
          obtain ⟨after, found, same⟩ := Failure.bind_eq_ok_iff.mp done
          cases same
          exact ⟨[byte], rest, _, after, rfl, ⟨range.1, range.2, by simp [last]⟩, rfl, found⟩
        · rename_i further
          obtain ⟨ending, rest, code, after, rfl, ends, rfl, found⟩ := ih.mp done
          refine ⟨byte :: ending, rest, code, after, rfl, ⟨range.1, range.2, ?_⟩, rfl, ?_⟩
          · rwa [if_neg further]
          · rwa [add_length_cons]
    · rintro ⟨_ | ⟨first, ending⟩, tail, code, after, same, ends, rfl, found⟩
      · exact ends.elim
      · obtain ⟨rfl, rfl⟩ := List.cons.inj same
        obtain ⟨least, greatest, ends⟩ := ends
        have within : ¬(decide (byte.toNat < p.least) || decide (p.greatest < byte.toNat)) = true := by
          simpa using ⟨least, greatest⟩
        rw [if_neg within]
        split
        · rename_i last
          rw [if_pos last] at ends
          obtain ⟨rfl, joined⟩ := ends
          rw [joined]
          exact Failure.bind_eq_ok_iff.mpr ⟨after, found, rfl⟩
        · rename_i further
          rw [if_neg further] at ends
          rw [add_length_cons] at found
          exact ih.mpr ⟨ending, tail, code, after, rfl, ends, rfl, found⟩

/-- Between characters decoding succeeds exactly at the end, or when the next bytes encode a character and
decoding goes on after them. -/
private theorem decodeFrom_none_eq_ok_iff :
    decodeFrom position none bytes = .ok cs ↔ (bytes = [] ∧ cs = []) ∨
      ∃ first ending rest code after, bytes = first :: ending ++ rest ∧ Encodes code first ending ∧
        cs = Char.ofNat code :: after ∧
        decodeFrom (position + (first :: ending).length) none rest = .ok after := by
  cases bytes with
  | nil => simp [decodeFrom, eq_comm]
  | cons byte tail =>
    rw [decodeFrom]
    constructor
    · intro done
      split at done
      · rename_i low
        obtain ⟨after, found, same⟩ := Failure.bind_eq_ok_iff.mp done
        cases same
        exact Or.inr ⟨byte, [], tail, _, after, rfl, (encodes_one low).mpr ⟨rfl, rfl⟩, rfl, found⟩
      · split at done
        · rename_i begun
          obtain ⟨ending, rest, code, after, rfl, ends, rfl, found⟩ := decodeFrom_some_eq_ok_iff.mp done
          refine Or.inr ⟨byte, ending, rest, code, after, rfl, Or.inr ⟨_, begun, ends⟩, rfl, ?_⟩
          rwa [add_length_cons]
        · contradiction
    · rintro (⟨empty, -⟩ | ⟨first, ending, rest, code, after, same, encodes, rfl, found⟩)
      · contradiction
      · obtain ⟨rfl, rfl⟩ := List.cons.inj same
        rcases encodes with ⟨low, rfl, rfl⟩ | ⟨p, begun, ends⟩
        · rw [if_pos low]
          exact Failure.bind_eq_ok_iff.mpr ⟨after, found, rfl⟩
        · have range := range_of_ofFirst? begun
          have high : ¬byte.toNat < 0x80 := by omega
          rw [if_neg high]
          rw [add_length_cons] at found
          simp only [begun]
          exact decodeFrom_some_eq_ok_iff.mpr ⟨ending, rest, code, after, rfl, ends, rfl, found⟩

private theorem decodeFrom_eq_ok_iff :
    decodeFrom position none bytes = .ok cs ↔ bytes = cs.flatMap String.utf8EncodeChar := by
  rw [decodeFrom_none_eq_ok_iff]
  induction cs generalizing bytes position with
  | nil => simp
  | cons c after ih =>
    rw [List.flatMap_cons]
    constructor
    · rintro (⟨-, wrong⟩ | ⟨first, ending, rest, code, _, rfl, encodes, same, found⟩)
      · contradiction
      · obtain ⟨rfl, rfl⟩ := List.cons.inj same
        obtain ⟨c, rfl, written⟩ := exists_char_of_encodes encodes
        rw [Char.ofNat_toNat, written, ← ih.mp (decodeFrom_none_eq_ok_iff.mp found)]
    · rintro rfl
      obtain ⟨first, ending, written, encodes⟩ := encodes_of_char c
      refine Or.inr ⟨first, ending, _, c.toNat, after, by rw [written], encodes, ?_, ?_⟩
      · rw [Char.ofNat_toNat]
      · exact decodeFrom_none_eq_ok_iff.mpr (ih.mpr rfl)

theorem failsOnly_decodeFrom (begun : Option Partial) :
    FailsOnly (·.kind = .undecodable) (decodeFrom position begun bytes) := by
  induction bytes generalizing position begun with
  | nil =>
    cases begun with
    | none => exact .ok []
    | some p => exact .error rfl
  | cons byte rest ih =>
    cases begun with
    | none =>
      rw [decodeFrom]
      refine .ite (.bind (ih none) fun _ => .ok _) ?_
      split
      · exact ih _
      · exact .error rfl
    | some p =>
      rw [decodeFrom]
      exact .ite (.error rfl) (.ite (.bind (ih none) fun _ => .ok _) (ih _))

end Decoding

theorem decode_eq_ok_iff {bytes : List UInt8} {cs : List Char} :
    decode bytes = .ok cs ↔ bytes = cs.flatMap String.utf8EncodeChar :=
  decodeFrom_eq_ok_iff

end SampledMetrics.Text.Utf8
