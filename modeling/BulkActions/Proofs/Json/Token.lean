import Mathlib.Data.List.TakeDrop
import BulkActions.Json.Parser
import BulkActions.Json.Printer
import BulkActions.Proofs.Json.Shape

/-! Integers and texts as they are written. Each is read back to its end, and what follows it in a
document is left alone. -/

namespace BulkActions.Json

/-- What can follow a written value: nothing, a comma, or the end of an array or object. -/
def Closes : List Char → Prop
  | [] => True
  | c :: _ => c = ',' ∨ c = ']' ∨ c = '\x7d'

theorem Closes.not_digit {c : Char} {cs : List Char} (closes : Closes (c :: cs)) :
    c.isDigit = false := by
  rcases closes with rfl | rfl | rfl <;> rfl

/-! Integers. -/

theorem digitRun_append {digits rest : List Char} (all : ∀ d ∈ digits, d.isDigit = true)
    (closes : Closes rest) : digitRun (digits ++ rest) = (digits, rest) := by
  rw [digitRun, List.span_eq_takeWhile_dropWhile, List.takeWhile_append_of_pos all,
    List.dropWhile_append_of_pos all]
  cases rest with
  | nil => simp
  | cons c cs => simp [closes.not_digit]

theorem isDigit_of_mem_toDigits {n : Nat} {d : Char} (member : d ∈ Nat.toDigits 10 n) :
    d.isDigit = true :=
  Nat.isDigit_of_mem_toDigits (by decide) (by decide) member

/-- Only zero is written with a zero in front. -/
theorem toDigits_of_pos {n : Nat} (positive : 0 < n) :
    ∃ d rest, Nat.toDigits 10 n = d :: rest ∧ d.isDigit = true ∧ d ≠ '0' := by
  have first : ∀ m < 10, m ≠ 0 → Nat.digitChar m ≠ '0' := by decide
  induction n using Nat.strongRecOn with
  | ind n ih =>
    by_cases small : n < 10
    · have whole := Nat.toDigits_of_lt_base small
      exact ⟨_, [], whole, isDigit_of_mem_toDigits (whole ▸ List.mem_singleton.mpr rfl),
        first n small (Nat.ne_of_gt positive)⟩
    · obtain ⟨d, rest, whole, digit, nonzero⟩ := ih (n / 10) (by omega) (by omega)
      rw [Nat.toDigits_of_base_le (by decide) (by omega), whole]
      exact ⟨d, _, rfl, digit, nonzero⟩

theorem integerPart_toDigits (n : Nat) {rest : List Char} (closes : Closes rest) :
    integerPart (Nat.toDigits 10 n ++ rest) = .ok (Nat.toDigits 10 n, rest) := by
  rcases Nat.eq_zero_or_pos n with rfl | positive
  · cases rest with
    | nil => rfl
    | cons c cs => simp [integerPart, closes.not_digit]
  · obtain ⟨d, more, whole, _, nonzero⟩ := toDigits_of_pos positive
    have run := digitRun_append (fun d => isDigit_of_mem_toDigits (n := n)) closes
    rw [whole] at run ⊢
    unfold integerPart
    split
    · rename_i empty
      cases empty
    · rename_i zero
      exact absurd (List.cons.inj zero).1 nonzero
    · rw [run]

/-- Digits that denote a word are read to their end. -/
theorem leading_eq {digits : List Char} {significand : Nat}
    (fits : Nat.ofDigitChars 10 digits significand ≤ greatestUnsigned) :
    leading significand digits = (Nat.ofDigitChars 10 digits significand, 0) := by
  induction digits generalizing significand with
  | nil => rfl
  | cons d rest ih =>
    rw [Nat.ofDigitChars_cons] at fits ⊢
    have grows : ∀ m, m ≤ Nat.ofDigitChars 10 rest m := by
      intro m
      rw [Nat.ofDigitChars_eq_ofDigitChars_zero]
      have one := Nat.one_le_pow rest.length 10 (by decide)
      exact Nat.le_trans (Nat.le_mul_of_pos_left m one) (Nat.le_add_right _ _)
    have within := Nat.not_lt_of_le (Nat.le_trans (grows _) fits)
    simp only [leading, if_neg within, ih fits]

theorem leading_toDigits {n : Nat} (fits : n ≤ greatestUnsigned) :
    leading 0 (Nat.toDigits 10 n) = (n, 0) := by
  have value : Nat.ofDigitChars 10 (Nat.toDigits 10 n) 0 = n := Nat.ofDigitChars_ten_toDigits
  rw [leading_eq (by rw [value]; exact fits), value]

theorem number_toDigits (negative : Bool) (n : Nat) {rest : List Char} (closes : Closes rest) :
    number negative (Nat.toDigits 10 n ++ rest) =
      integer negative (Nat.toDigits 10 n) rest := by
  unfold number
  rw [integerPart_toDigits n closes]
  cases rest with
  | nil => rfl
  | cons c cs => rcases closes with rfl | rfl | rfl <;> rfl

/-- The digits of an integer, after the minus sign of a negative one, are read as the integer. -/
theorem number_natAbs {n : Int} (fits : isWord n = true) {rest : List Char}
    (closes : Closes rest) :
    number (n < 0) (Nat.toDigits 10 n.natAbs ++ rest) = .ok (.int n, rest) := by
  simp only [isWord, Bool.and_eq_true, decide_eq_true_eq, show Int.pow 2 63 = 9223372036854775808
    from rfl, show Int.pow 2 64 = 18446744073709551616 from rfl] at fits
  have word : n.natAbs ≤ greatestUnsigned := by
    rw [show greatestUnsigned = 18446744073709551615 from rfl]
    omega
  rw [number_toDigits _ _ closes, integer, leading_toDigits word]
  by_cases negative : n < 0
  · have positive : n.natAbs ≠ 0 := by omega
    have signed : n.natAbs ≤ Nat.pow 2 63 := by
      rw [show Nat.pow 2 63 = 9223372036854775808 from rfl]
      omega
    have value : -(n.natAbs : Int) = n := by omega
    simp only [negative, decide_true, Bool.not_true, Bool.false_eq_true, if_false, positive, signed,
      if_true, value]
  · have value : (n.natAbs : Int) = n := by omega
    simp only [negative, decide_false, Bool.not_false, if_true, value]

/-! Texts. -/

theorem isHex_digits {n : Nat} (control : n < 32) :
    isHex (hexDigit (n / 16)) = true ∧ isHex (hexDigit n) = true ∧
      hexValue (hexDigit (n / 16)) * 16 + hexValue (hexDigit n) = n := by
  have all : ∀ m < 32, isHex (hexDigit (m / 16)) = true ∧ isHex (hexDigit m) = true ∧
      hexValue (hexDigit (m / 16)) * 16 + hexValue (hexDigit m) = m := by decide
  exact all n control

theorem hexUnit_control {n : Nat} (control : n < 32) (rest : List Char) :
    hexUnit ('0' :: '0' :: hexDigit (n / 16) :: hexDigit n :: rest) = .ok (n, rest) := by
  obtain ⟨first, second, value⟩ := isHex_digits control
  have zero : isHex '0' = true ∧ hexValue '0' = 0 := ⟨rfl, rfl⟩
  simp [hexUnit, first, second, zero, value]

/-- A written character is read as one character. -/
theorem stringBody_escapeChar (fuel : Nat) (read : List Char) (c : Char) (rest : List Char) :
    stringBody (fuel + 1) read (escapeChar c ++ rest) = stringBody fuel (c :: read) rest := by
  by_cases short : c ∈ ['"', '\\', '\n', '\r', '\t', '\x08', '\x0c']
  · simp only [List.mem_cons, List.not_mem_nil, or_false] at short
    rcases short with rfl | rfl | rfl | rfl | rfl | rfl | rfl <;> rfl
  · simp only [List.mem_cons, List.not_mem_nil, or_false, not_or] at short
    by_cases control : c.toNat < 32
    · have same : Char.ofNat c.toNat = c := Char.ofNat_toNat c
      have low : isLowSurrogate c.toNat = false := by simp [isLowSurrogate]; omega
      have high : isHighSurrogate c.toNat = false := by simp [isHighSurrogate]; omega
      simp [escapeChar, short, control, stringBody, escaped, hexUnit_control control, low, high, same]
    · simp [escapeChar, short, control, stringBody]

theorem length_escapeChar_pos (c : Char) : 0 < (escapeChar c).length := by
  unfold escapeChar
  repeat' split
  all_goals simp

/-- A written text is read back up to its closing quote. -/
theorem stringBody_escape {cs : List Char} {fuel : Nat} (enough : cs.length < fuel)
    (read rest : List Char) :
    stringBody fuel read (escape cs ++ '"' :: rest) =
      .ok (String.ofList (read.reverse ++ cs), rest) := by
  induction cs generalizing fuel read with
  | nil =>
    obtain ⟨fuel, rfl⟩ := Nat.exists_eq_add_one_of_ne_zero (Nat.ne_of_gt enough)
    simp [escape, stringBody]
  | cons c cs ih =>
    obtain ⟨fuel, rfl⟩ := Nat.exists_eq_add_one_of_ne_zero (Nat.ne_of_gt (Nat.zero_lt_of_lt enough))
    have written : escape (c :: cs) ++ '"' :: rest = escapeChar c ++ (escape cs ++ '"' :: rest) := by
      simp [escape]
    rw [written, stringBody_escapeChar, ih (Nat.lt_of_succ_lt_succ enough) (c :: read)]
    simp

theorem length_le_escape (cs : List Char) : cs.length ≤ (escape cs).length := by
  induction cs with
  | nil => exact Nat.le_refl 0
  | cons c cs ih =>
    have one := length_escapeChar_pos c
    rw [escape, List.flatMap_cons, List.length_append, ← escape, List.length_cons]
    omega

/-- A quoted text takes no more fuel than it has characters. -/
theorem stringBody_quoted {text : String} {fuel : Nat} (enough : (quoted text).length ≤ fuel + 1)
    (rest : List Char) :
    ∃ body, quoted text ++ rest = '"' :: body ∧ stringBody fuel [] body = .ok (text, rest) := by
  have shorter := length_le_escape text.toList
  simp only [quoted, List.length_cons, List.length_append, List.length_nil] at enough
  refine ⟨escape text.toList ++ '"' :: rest, by simp [quoted], ?_⟩
  rw [stringBody_escape (by omega)]
  simp

end BulkActions.Json
