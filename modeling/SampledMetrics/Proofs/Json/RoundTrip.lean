import Mathlib.Algebra.Ring.Nat
import Mathlib.Data.List.Basic
import SampledMetrics.Json.Reader
/-!
What is written as JSON is read back.  Main statements: a quoted text is read as this text and nothing more,
and an object of quoted texts as an object of these texts, in the same order; such an object is one line.
-/

set_option autoImplicit false
set_option relaxedAutoImplicit false

namespace SampledMetrics.Json

open Text (backslash quotation hexDigits hexValue? hexNumber? scalar?)

private theorem hexValue?_digitChar {digit : Nat} (small : digit < 16) :
    hexValue? digit.digitChar = some digit := by
  have all : ∀ k < 16, hexValue? k.digitChar = some k := by decide
  exact all digit small

private theorem hexNumber?_hexDigits (width value : Nat) :
    hexNumber? (hexDigits width value) = some (value % 16 ^ width) := by
  induction width generalizing value with
  | zero => simp [hexNumber?, hexDigits, Nat.mod_one]
  | succ width ih =>
    have higher := ih (value / 16)
    unfold hexNumber? at higher ⊢
    rw [hexDigits, List.foldlM_append, higher]
    have digit := hexValue?_digitChar (Nat.mod_lt value (by decide : 0 < 16))
    simp only [Option.bind_eq_bind, Option.bind_some, List.foldlM_cons, List.foldlM_nil, digit,
      Option.map_some, Option.pure_def]
    congr 1
    rw [Nat.pow_succ', Nat.mod_mul]
    omega

private theorem unescape?_of_escapeLetter? {c letter : Char} (found : escapeLetter? c = some letter) :
    letter ≠ 'u' ∧ unescape? letter = some c := by
  unfold escapeLetter? at found
  split_ifs at found with h₁ h₂ h₃ h₄ h₅
  all_goals
    obtain rfl := Option.some.inj found
    subst_vars
    exact ⟨by decide, by decide⟩

private theorem readString_letter {letter : Char} (other : letter ≠ 'u') (rest : List Char) :
    readString none (backslash :: letter :: rest) = prepend (unescape? letter) (readString none rest) := by
  rw [backslash, readString]
  intro a b c d rest' same
  exact absurd same other

private theorem readString_code {c : Char} (small : c.toNat < 0x20) (rest : List Char) :
    readString none (backslash :: 'u' :: (hexDigits 4 c.toNat ++ rest)) =
      prepend (some c) (readString none rest) := by
  obtain ⟨w, x, y, z, digits⟩ : ∃ w x y z, hexDigits 4 c.toNat = [w, x, y, z] := ⟨_, _, _, _, rfl⟩
  have code : hexNumber? [w, x, y, z] = some c.toNat := by
    rw [← digits, hexNumber?_hexDigits, Nat.mod_eq_of_lt (by omega)]
  have alone : isHigh c.toNat = false := by
    unfold isHigh
    simp
    omega
  simp only [digits, List.cons_append, List.nil_append]
  rw [backslash, readString]
  simp only [code, alone, Option.isNone_none, Bool.and_false, Bool.false_eq_true, if_false, character?,
    Text.scalar?_toNat]

private theorem readString_plain {c : Char} (unmarked : c ≠ quotation) (unescaped : c ≠ backslash)
    (visible : 0x20 ≤ c.toNat) (rest : List Char) :
    readString none (c :: rest) = prepend (some c) (readString none rest) := by
  rw [readString.eq_def]
  split <;> simp_all [backslash]

private theorem readString_escape (c : Char) (rest : List Char) :
    readString none (escape c ++ rest) = prepend (some c) (readString none rest) := by
  unfold escape
  split
  · rename_i special
    simp only [Bool.or_eq_true, decide_eq_true_eq] at special
    rw [List.cons_append, List.singleton_append]
    rcases special with rfl | rfl
    · rw [readString_letter (by decide)]
      rfl
    · rw [readString_letter (by decide)]
      rfl
  · rename_i special
    simp only [Bool.or_eq_true, decide_eq_true_eq, not_or] at special
    split
    · rename_i letter found
      obtain ⟨other, stands⟩ := unescape?_of_escapeLetter? found
      rw [List.cons_append, List.singleton_append, readString_letter other, stands]
    · split
      · rename_i small
        exact readString_code small rest
      · rename_i large
        exact readString_plain special.1 special.2 (by omega) rest

private theorem readString_quoted (cs rest : List Char) :
    readString none (cs.flatMap escape ++ quotation :: rest) = some (cs, rest) := by
  induction cs with
  | nil =>
    rw [List.flatMap_nil, List.nil_append, readString, if_pos rfl]
    · intro a b c d rest' same
      exact absurd same (by decide)
    · intro letter rest' same
      exact absurd same (by decide)
  | cons c cs ih =>
    rw [List.flatMap_cons, List.append_assoc, readString_escape, ih]
    rfl

private theorem dropWhile_isSpace_cons {c : Char} (other : isSpace c = false) (cs : List Char) :
    (c :: cs).dropWhile isSpace = c :: cs :=
  List.dropWhile_cons_of_neg (by simp [other])

private theorem dropWhile_isSpace_space (cs : List Char) :
    (' ' :: cs).dropWhile isSpace = cs.dropWhile isSpace :=
  List.dropWhile_cons_of_pos (by decide)

private theorem quoteChars_append (cs rest : List Char) :
    quoteChars cs ++ rest = '\x22' :: (cs.flatMap escape ++ '\x22' :: rest) := by
  rw [quoteChars, List.cons_append, List.append_assoc, List.singleton_append]
  rfl

private theorem readName_quoteChars (name : String) (rest : List Char) :
    readName (quoteChars name.toList ++ ':' :: rest) = some (name, rest) := by
  have read := readString_quoted name.toList (':' :: rest)
  rw [readName, quoteChars_append, dropWhile_isSpace_cons (by decide)]
  simp only [quotation] at read
  simp [read, dropWhile_isSpace_cons (c := ':') (by decide)]

private theorem readValue_quoteChars (fuel : Nat) (s : String) (rest : List Char) :
    readValue (fuel + 1) (quoteChars s.toList ++ rest) = some (.string s, rest) := by
  have read := readString_quoted s.toList rest
  rw [readValue, quoteChars_append, dropWhile_isSpace_cons (by decide)]
  simp only [quotation] at read
  simp [read]

private theorem readValue_space (fuel : Nat) (cs : List Char) : readValue fuel (' ' :: cs) = readValue fuel cs := by
  cases fuel with
  | zero => rfl
  | succ fuel => rw [readValue, readValue, dropWhile_isSpace_space]

private theorem readMembers_space (fuel : Nat) (cs : List Char) :
    readMembers fuel (' ' :: cs) = readMembers fuel cs := by
  cases fuel with
  | zero => rfl
  | succ fuel => rw [readMembers, readMembers, readName, readName, dropWhile_isSpace_space]

def memberChars (member : String × String) : List Char :=
  quoteChars member.1.toList ++ ':' :: ' ' :: quoteChars member.2.toList

/-- The characters of members, with a mark between two of them. -/
def membersChars (members : List (String × String)) : List Char :=
  [',', ' '].intercalate (members.map memberChars)

private theorem membersChars_cons (member next : String × String) (members : List (String × String)) :
    membersChars (member :: next :: members) =
      memberChars member ++ ',' :: ' ' :: membersChars (next :: members) := by
  simp [membersChars, List.intercalate_cons_cons]

private theorem memberChars_append (member : String × String) (rest : List Char) :
    memberChars member ++ rest =
      quoteChars member.1.toList ++ ':' :: ' ' :: (quoteChars member.2.toList ++ rest) := by
  rw [memberChars, List.append_assoc, List.cons_append, List.cons_append]

private theorem readMembers_last (fuel : Nat) (member : String × String) (rest : List Char) :
    readMembers (fuel + 2) (memberChars member ++ '\x7d' :: rest) =
      some ([(member.1, .string member.2)], rest) := by
  rw [memberChars_append, readMembers, readName_quoteChars]
  simp [readValue_space, readValue_quoteChars, dropWhile_isSpace_cons (c := '\x7d') (by decide)]

private theorem readMembers_more (fuel : Nat) (member : String × String) (rest : List Char) :
    readMembers (fuel + 2) (memberChars member ++ ',' :: ' ' :: rest) =
      (readMembers (fuel + 1) rest).map fun read => ((member.1, .string member.2) :: read.1, read.2) := by
  rw [memberChars_append, readMembers, readName_quoteChars]
  simp only [Option.bind_eq_bind, Option.bind_some, readValue_space, readValue_quoteChars,
    dropWhile_isSpace_cons (c := ',') (by decide), readMembers_space, Option.map_eq_bind]
  rfl

private theorem readMembers_membersChars (member : String × String) (members : List (String × String))
    (rest : List Char) {fuel : Nat} (enough : members.length + 2 ≤ fuel) :
    readMembers fuel (membersChars (member :: members) ++ '\x7d' :: rest) =
      some ((member :: members).map fun m => (m.1, .string m.2), rest) := by
  induction members generalizing member fuel with
  | nil =>
    obtain ⟨fuel, rfl⟩ := Nat.exists_eq_add_of_le' enough
    rw [membersChars, List.map_singleton, List.intercalate_singleton]
    exact readMembers_last fuel member rest
  | cons next members ih =>
    obtain ⟨fuel, rfl⟩ := Nat.exists_eq_add_of_le' enough
    rw [membersChars_cons, List.append_assoc, List.cons_append, List.cons_append, ← Nat.add_assoc,
      readMembers_more, ih next (by simp only [List.length_cons]; omega)]
    rfl

private theorem length_le_length_membersChars (members : List (String × String)) :
    members.length ≤ (membersChars members).length := by
  induction members with
  | nil => exact Nat.zero_le _
  | cons member members ih =>
    cases members with
    | nil =>
      rw [membersChars, List.map_singleton, List.intercalate_singleton, memberChars, quoteChars]
      simp
    | cons next members =>
      rw [membersChars_cons]
      simp only [List.length_cons, List.length_append] at ih ⊢
      omega

private theorem toList_quote (s : String) : (quote s).toList = quoteChars s.toList :=
  String.toList_ofList

private theorem toList_object (members : List (String × String)) :
    (object (members.map fun m => (m.1, quote m.2))).toList =
      '\x7b' :: (membersChars members ++ ['\x7d']) := by
  have spelt : ∀ m : String × String, (quote m.1 ++ ": " ++ quote m.2).toList = memberChars m := by
    intro m
    simp [toList_quote, memberChars]
  simp only [object, membersChars, String.toList_append, String.toList_intercalate, List.map_map,
    Function.comp_def, spelt]
  rfl

private theorem membersChars_eq_quotation_cons (member : String × String) (members : List (String × String)) :
    ∃ more, membersChars (member :: members) = '\x22' :: more := by
  cases members with
  | nil =>
    rw [membersChars, List.map_singleton, List.intercalate_singleton, memberChars, quoteChars_append]
    exact ⟨_, rfl⟩
  | cons next members =>
    rw [membersChars_cons, memberChars_append, quoteChars_append]
    exact ⟨_, rfl⟩

private theorem readValue_object (member : String × String) (members : List (String × String)) (rest : List Char)
    {fuel : Nat} (enough : members.length + 2 ≤ fuel) :
    readValue (fuel + 1) ('\x7b' :: (membersChars (member :: members) ++ '\x7d' :: rest)) =
      some (.object ((member :: members).map fun m => (m.1, .string m.2)), rest) := by
  have read := readMembers_membersChars member members rest enough
  obtain ⟨more, spelt⟩ := membersChars_eq_quotation_cons member members
  rw [spelt, List.cons_append] at read ⊢
  rw [readValue, dropWhile_isSpace_cons (by decide)]
  simp [dropWhile_isSpace_cons (c := '\x22') (by decide), read]

/-- An object of texts is read back: the same members in the same order, and nothing else. -/
theorem read?_object (members : List (String × String)) :
    read? (object (members.map fun m => (m.1, quote m.2))) =
      some (.object (members.map fun m => (m.1, .string m.2))) := by
  rw [read?, ← String.length_toList, toList_object]
  cases members with
  | nil => rfl
  | cons member members =>
    have short := length_le_length_membersChars (member :: members)
    rw [readValue_object member members [] (by simp at short ⊢; omega)]
    rfl

private theorem visible_of_mem_quoteChars {cs : List Char} {c : Char} (member : c ∈ quoteChars cs) :
    0x20 ≤ c.toNat := by
  simp only [quoteChars, List.mem_cons, List.mem_append, List.mem_flatMap, List.not_mem_nil,
    or_false] at member
  obtain rfl | ⟨d, _, escaped⟩ | rfl := member
  · decide
  · exact visible_of_mem_escape escaped
  · decide

private theorem visible_of_mem_memberChars {m : String × String} {c : Char} (member : c ∈ memberChars m) :
    0x20 ≤ c.toNat := by
  simp only [memberChars, List.mem_append, List.mem_cons] at member
  obtain name | rfl | rfl | value := member
  · exact visible_of_mem_quoteChars name
  · decide
  · decide
  · exact visible_of_mem_quoteChars value

private theorem visible_of_mem_membersChars {members : List (String × String)} {c : Char}
    (member : c ∈ membersChars members) : 0x20 ≤ c.toNat := by
  induction members with
  | nil => cases member
  | cons first members ih =>
    cases members with
    | nil =>
      rw [membersChars, List.map_singleton, List.intercalate_singleton] at member
      exact visible_of_mem_memberChars member
    | cons next members =>
      rw [membersChars_cons, List.mem_append, List.mem_cons, List.mem_cons] at member
      obtain written | rfl | rfl | later := member
      · exact visible_of_mem_memberChars written
      · decide
      · decide
      · exact ih later

theorem visible_of_mem_object {members : List (String × String)} {c : Char}
    (member : c ∈ (object (members.map fun m => (m.1, quote m.2))).toList) : 0x20 ≤ c.toNat := by
  rw [toList_object] at member
  simp only [List.mem_cons, List.mem_append, List.not_mem_nil, or_false] at member
  obtain rfl | written | rfl := member
  · decide
  · exact visible_of_mem_membersChars written
  · decide

end SampledMetrics.Json
