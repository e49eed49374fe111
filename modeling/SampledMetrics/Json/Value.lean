import SampledMetrics.Text.Quoted
import SampledMetrics.Value.Printer
/-!
Values as JSON.  In a string the quotation mark, the backslash and the characters below U+0020 are
escaped, five of those by a letter and the others by their code; all else stands for itself.
-/

set_option autoImplicit false
set_option relaxedAutoImplicit false

namespace SampledMetrics

namespace Json

open Text (backslash quotation hexDigits)

/-- The letter of a character that is escaped by a letter. -/
def escapeLetter? (c : Char) : Option Char :=
  if c = '\n' then some 'n'
  else if c = '\r' then some 'r'
  else if c = '\t' then some 't'
  else if c = '\x08' then some 'b'
  else if c = '\x0c' then some 'f'
  else none

def escape (c : Char) : List Char :=
  if c = quotation || c = backslash then [backslash, c]
  else match escapeLetter? c with
    | some letter => [backslash, letter]
    | none => if c.toNat < 0x20 then backslash :: 'u' :: hexDigits 4 c.toNat else [c]

def quoteChars (cs : List Char) : List Char :=
  quotation :: (cs.flatMap escape ++ [quotation])

def quote (s : String) : String :=
  String.ofList (quoteChars s.toList)

/-- An object of members that are already written, in order. -/
def object (members : List (String × String)) : String :=
  "\x7b" ++ ", ".intercalate (members.map fun member => quote member.1 ++ ": " ++ member.2)
    ++ "\x7d"

def array (items : List String) : String :=
  "[" ++ ", ".intercalate items ++ "]"

/-- Nothing that is escaped is a control character. -/
theorem visible_of_mem_escape {c d : Char} (member : d ∈ escape c) : 0x20 ≤ d.toNat := by
  unfold escape at member
  split at member
  · rename_i special
    rw [Bool.or_eq_true, decide_eq_true_eq, decide_eq_true_eq] at special
    simp only [List.mem_cons, List.not_mem_nil, or_false] at member
    rcases member with rfl | rfl
    · decide
    · rcases special with rfl | rfl <;> decide
  · split at member
    · rename_i letter found
      have visible : 0x20 ≤ letter.toNat := by
        unfold escapeLetter? at found
        repeat' split at found
        all_goals simp at found
        all_goals subst found; decide
      simp only [List.mem_cons, List.not_mem_nil, or_false] at member
      rcases member with rfl | rfl
      · decide
      · exact visible
    · split at member
      · have digit : ∀ value, 0x20 ≤ (value % 16).digitChar.toNat := by
          intro value
          have bound : value % 16 < 16 := Nat.mod_lt _ (by decide)
          generalize value % 16 = k at bound
          have : ∀ k < 16, 0x20 ≤ k.digitChar.toNat := by decide
          exact this k bound
        simp only [hexDigits, List.nil_append, List.mem_cons, List.mem_append, List.not_mem_nil,
          or_false] at member
        rcases member with rfl | rfl | ((rfl | rfl) | rfl) | rfl <;>
          first | decide | exact digit _
      · simp only [List.mem_singleton] at member
        subst member
        omega

end Json

/-- A binary64 number in JSON, with words for what is not finite. -/
def Binary64.toJson : Binary64 → String
  | .nan => "NaN"
  | .infinity negative => if negative then "-Infinity" else "Infinity"
  | number => number.text

namespace Value

mutual

/-- A value as JSON; days and times, which JSON lacks, are given as strings. -/
def toJson : Value → String
  | .null => "null"
  | .bool value => if value then "true" else "false"
  | .number (.int value) => toString value
  | .number (.float value) => value.toJson
  | .loneNaN => Binary64.nan.toJson
  | .text value => Json.quote value
  | .list items => Json.array (toJsonItems items)
  | .dict entries => Json.object (toJsonEntries entries)
  | value => Json.quote value.render

def toJsonItems : List Value → List String
  | [] => []
  | item :: rest => item.toJson :: toJsonItems rest

def toJsonEntries : List (String × Value) → List (String × String)
  | [] => []
  | (key, value) :: rest => (key, value.toJson) :: toJsonEntries rest

end

end Value

end SampledMetrics
