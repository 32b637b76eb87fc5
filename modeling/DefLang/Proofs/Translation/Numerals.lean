import DefLang.Proofs.Translation.Decoding
import Mathlib.Data.List.DropRight

/-!
# Integers keep their value

Digits denote a number, however many there are.  The numeral of some digits is
the decimal form of that number, so two numerals are the same exactly if the
numbers are; and the numeral of an integer is read from its own decimal form.
What a source says with digits, its script says with the decimal form.
-/

namespace DefLang

def digitsValue (digits : String) : Nat :=
  Nat.ofDigitChars 10 digits.toList 0

private theorem digitsValue_repr
    (value : Nat) : digitsValue value.repr = value := by
  rw [digitsValue, Nat.toList_repr, Nat.ofDigitChars_ten_toDigits]

private theorem exists_digitChar_of_isDigit {digit : Char}
    (h : digit.isDigit = true) :
    ∃ number, number < 10 ∧ number.digitChar = digit := by
  have bounds : 48 ≤ digit.toNat ∧ digit.toNat ≤ 57 :=
    Char.isDigit_iff_toNat.mp h
  have small : digit.toNat - 48 < 10 := by omega
  refine ⟨digit.toNat - 48, small, Char.toNat_inj.mp ?_⟩
  rw [Nat.toNat_digitChar_of_lt_ten small]
  omega

theorem toDigits_append {value : Nat} {digits : List Char}
    (positive : 0 < value) (h : ∀ digit ∈ digits, digit.isDigit = true) :
    Nat.toDigits 10 value ++ digits =
      Nat.toDigits 10 (Nat.ofDigitChars 10 digits value) := by
  induction digits generalizing value with
  | nil => simp
  | cons digit digits ih =>
      obtain ⟨isDigit, others⟩ := List.forall_mem_cons.mp h
      obtain ⟨number, small, rfl⟩ := exists_digitChar_of_isDigit isDigit
      have next : 0 < 10 * value + number := by omega
      rw [Nat.ofDigitChars_cons_digitChar_of_lt_ten small, ← ih next others,
        ← Nat.toDigits_append_toDigits (by decide) positive small,
        Nat.toDigits_of_lt_base small, List.append_assoc]
      rfl

private theorem IsCanonical.repr_digitsValue {digits : String}
    (h : IsCanonical digits) : (digitsValue digits).repr = digits := by
  have allDigits := h.isDigit
  cases shape : digits.toList with
  | nil => exact absurd (by simpa using shape) h.nonempty
  | cons first others =>
      by_cases zero : first = '0'
      · rw [h.unpadded (by simp [shape, zero])]
        rfl
      · rw [shape] at allDigits
        obtain ⟨isDigit, allOthers⟩ := List.forall_mem_cons.mp allDigits
        obtain ⟨number, small, rfl⟩ := exists_digitChar_of_isDigit isDigit
        have positive : 0 < number :=
          Nat.pos_of_ne_zero (zero ∘ Nat.digitChar_eq_zero.mpr)
        apply String.toList_inj.mp
        rw [Nat.toList_repr, digitsValue, shape,
          Nat.ofDigitChars_cons_digitChar_of_lt_ten small, Nat.mul_zero,
          Nat.zero_add, ← toDigits_append positive allOthers,
          Nat.toDigits_of_lt_base small]
        rfl

namespace Numeral

private theorem ofDigits_text_ofDigits (digits : String) :
    ofDigits (ofDigits digits).text = ofDigits digits := by
  cases h : digits.toList.dropWhile (· == '0') with
  | nil => simp [ofDigits, h]
  | cons first others =>
      have stable :
          (first :: others).dropWhile (· == '0') = first :: others := by
        rw [← h, List.dropWhile_idempotent]
      simp only [ofDigits, h, String.toList_ofList, stable]

private theorem ofDigitChars_dropWhile_zero (digits : List Char) :
    Nat.ofDigitChars 10 (digits.dropWhile (· == '0')) 0 =
      Nat.ofDigitChars 10 digits 0 := by
  induction digits with
  | nil => rfl
  | cons digit digits ih =>
      by_cases zero : digit = '0'
      · subst zero
        simpa [Nat.ofDigitChars_cons] using ih
      · simp [zero]

private theorem digitsValue_ofDigits (digits : String) :
    digitsValue (ofDigits digits).text = digitsValue digits := by
  have dropped := ofDigitChars_dropWhile_zero digits.toList
  unfold ofDigits digitsValue
  cases shape : digits.toList.dropWhile (· == '0') with
  | nil =>
      rw [shape] at dropped
      exact dropped
  | cons first others =>
      rw [shape] at dropped
      simpa using dropped

private theorem text_ofDigits {digits : String}
    (h : ∀ digit ∈ digits.toList, digit.isDigit = true) :
    (ofDigits digits).text = (digitsValue digits).repr := by
  rw [← digitsValue_ofDigits, (isCanonical_ofDigits h).repr_digitsValue]

theorem ofDigits_eq_iff {digits digits' : String}
    (h : ∀ digit ∈ digits.toList, digit.isDigit = true)
    (h' : ∀ digit ∈ digits'.toList, digit.isDigit = true) :
    ofDigits digits = ofDigits digits' ↔
      digitsValue digits = digitsValue digits' := by
  constructor
  · intro same
    rw [← digitsValue_ofDigits, same, digitsValue_ofDigits]
  · intro same
    have texts : (ofDigits digits).text = (ofDigits digits').text := by
      rw [text_ofDigits h, text_ofDigits h', same]
    exact congrArg Numeral.mk texts

private theorem ofDigits_repr
    (value : Nat) : ofDigits value.repr = ⟨value.repr⟩ := by
  have allDigits : ∀ digit ∈ value.repr.toList, digit.isDigit = true := by
    intro digit mem
    rw [Nat.toList_repr] at mem
    exact Nat.isDigit_of_mem_toDigits (by decide) (by decide) mem
  have text := text_ofDigits allDigits
  rw [digitsValue_repr] at text
  exact congrArg Numeral.mk text

private theorem ofDigits_toString (value : Int) :
    ofDigits (toString value) = ofInt value := by
  cases value with
  | ofNat value => exact ofDigits_repr value
  | negSucc value =>
      -- A sign is no zero, so nothing is dropped.
      simp [ofDigits, ofInt, Int.repr, Nat.repr_eq_ofList_toDigits]

end Numeral

/-! ## From digits in the source to the decimal form in the script -/

structure IsDigits (digits : String) : Prop where
  nonempty : digits ≠ ""
  isDigit : ∀ digit ∈ digits.toList, digit.isDigit = true

def constantDefinition (digits : String) : Definition :=
  ⟨"f", [], .literal (.ofDigits digits)⟩

private theorem isLexeme_f (rule : IdentifierRule) :
    IsLexeme rule ⟨.identifier, "f"⟩ := by
  cases rule with
  | word => exact .word rfl (by decide) (by simp) (by decide) (by decide)
  | singleLetter => exact .letter rfl (by decide)

namespace IsDigits

variable {digits : String}

private theorem isValid_constantDefinition (h : IsDigits digits)
    (rule : IdentifierRule) : (constantDefinition digits).IsValid rule where
  name := isLexeme_f rule
  parameters := by simp [constantDefinition]
  body := .literal (isCanonical_ofDigits h.isDigit)

private theorem scans_constant (h : IsDigits digits) (rule : IdentifierRule) :
    Scans rule ("def f() " ++ digits ++ " end")
      (⟨.defKeyword, "def"⟩ :: (applied "f" [] ++
        [⟨.integer, digits⟩, ⟨.endKeyword, "end"⟩])) := by
  have keyword : Scans rule "def" [⟨.defKeyword, "def"⟩] :=
    scans_lexeme .defKeyword
  have head : Scans rule "f()" (applied "f" []) :=
    (h.isValid_constantDefinition rule).scans_head
  have integer : Scans rule digits [⟨.integer, digits⟩] :=
    scans_lexeme (.integer h.nonempty h.isDigit)
  have stop : Scans rule "end" [⟨.endKeyword, "end"⟩] :=
    scans_lexeme .endKeyword
  have front : "def f() " = "def" ++ " " ++ ("f()" ++ " ") := rfl
  have back : " end" = " " ++ "end" := rfl
  have text : "def f() " ++ digits ++ " end" =
      "def" ++ " " ++ ("f()" ++ " " ++ (digits ++ " " ++ "end")) := by
    rw [front, back]
    simp only [String.append_assoc]
  rw [text]
  exact keyword.spaced (head.spaced (integer.spaced stop))

private theorem definition_constant (h : IsDigits digits)
    (settings : Settings) :
    settings.definition ("def f() " ++ digits ++ " end") =
      .ok (constantDefinition digits) := by
  obtain ⟨tokens, scanned, shape⟩ :=
    (h.scans_constant settings.rule).exists_tokenize
  refine Settings.definition_eq_ok_iff.mpr ⟨tokens, scanned, ?_, fun _ => rfl⟩
  rw [ofTokens_eq_ok_iff, shape]
  exact .definition .empty .integer

private theorem compile_constant (h : IsDigits digits) (settings : Settings) :
    settings.compile ("def f() " ++ digits ++ " end") =
      .ok ("function f() \x7b return " ++ toString (digitsValue digits) ++
        " \x7d;") := by
  refine Settings.compile_eq_ok_iff.mpr
    ⟨_, h.definition_constant settings, ?_⟩
  rw [Nat.toString_eq_repr, ← Numeral.text_ofDigits h.isDigit]
  rfl

end IsDigits

/-- A numeral is the decimal form of a number.  It keeps the number that its
digits denote, and no two numerals denote the same number. -/
theorem numerals_keep_values :
    (∀ digits, IsDigits digits →
      IsCanonical (Numeral.ofDigits digits).text ∧
        digitsValue (Numeral.ofDigits digits).text = digitsValue digits) ∧
    (∀ digits digits', IsDigits digits → IsDigits digits' →
      (Numeral.ofDigits digits = Numeral.ofDigits digits' ↔
        digitsValue digits = digitsValue digits')) ∧
    (∀ text, Numeral.ofDigits (Numeral.ofDigits text).text =
      Numeral.ofDigits text) ∧
    (∀ value : Int, Numeral.ofDigits (toString value) =
      Numeral.ofInt value) ∧
    ∀ settings digits, IsDigits digits →
      Settings.compile settings ("def f() " ++ digits ++ " end") =
        .ok ("function f() \x7b return " ++ toString (digitsValue digits) ++
          " \x7d;") := by
  refine ⟨?_, ?_, Numeral.ofDigits_text_ofDigits, Numeral.ofDigits_toString,
    ?_⟩
  · intro digits h
    exact ⟨isCanonical_ofDigits h.isDigit, Numeral.digitsValue_ofDigits digits⟩
  · intro digits digits' h h'
    exact Numeral.ofDigits_eq_iff h.isDigit h'.isDigit
  · intro settings digits h
    exact h.compile_constant settings

theorem wideDigits_keep_value :
    IsDigits "0099999999999999999999" ∧
      Settings.compile ⟨.singleLetter, true⟩
          "def f() 0099999999999999999999 end" =
        .ok "function f() \x7b return 99999999999999999999 \x7d;" ∧
      Numeral.ofDigits "-9223372036854775808" =
        Numeral.ofInt (-9223372036854775808) := by
  have isDigits : IsDigits "0099999999999999999999" :=
    ⟨by decide, List.all_eq_true.mp (by decide)⟩
  have wide : toString (digitsValue "0099999999999999999999") =
      "99999999999999999999" := by
    decide +kernel
  have least : toString (-9223372036854775808 : Int) =
      "-9223372036854775808" := by
    decide +kernel
  obtain ⟨-, -, -, integers, compiled⟩ := numerals_keep_values
  have printed := compiled ⟨.singleLetter, true⟩ _ isDigits
  have agrees := integers (-9223372036854775808)
  rw [wide] at printed
  rw [least] at agrees
  exact ⟨isDigits, printed, agrees⟩

end DefLang
