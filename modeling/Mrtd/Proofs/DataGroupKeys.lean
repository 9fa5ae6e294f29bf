import Mathlib.Data.Nat.Digits.Defs
import Mrtd.Cli.DataGroupArgument
import Mrtd.Proofs.Text.Blank
import Mrtd.Proofs.Text.Case

/-!
The keys that name data groups. A key is a number in decimal digits, with `DG` in front or without
it, and with any white space around. The numbers of data groups are read off exactly from such keys,
however many zeros a key begins with, and an argument is understood exactly if such a key stands
before its first equals sign and a path behind.
-/

namespace Mrtd

namespace DataGroup

open Text

/-- The parts of a key: `DG` in any letter case or nothing, then digits, between white space. -/
structure Key where
  before : List Char
  letters : List Char
  digits : List Char
  after : List Char
  areBlank_before : AreBlank before
  letters_eq : letters = [] ∨ letters.map Char.toLower = ['d', 'g']
  digits_ne_nil : digits ≠ []
  digit_range : ∀ c ∈ digits, '0' ≤ c ∧ c ≤ '9'
  areBlank_after : AreBlank after

/-- The key as it is written. -/
def Key.text (k : Key) : List Char :=
  k.before ++ (k.letters ++ k.digits) ++ k.after

/-- The number that the digits of a key denote. -/
def Key.number (k : Key) : Nat :=
  Nat.ofDigits 10 (k.digits.map fun c => c.toNat - '0'.toNat).reverse

/-- Some characters are a key for the data group of a number. -/
def Names (key : List Char) (n : Nat) : Prop :=
  ∃ k : Key, k.text = key ∧ k.number = n ∧ 1 ≤ n ∧ n ≤ 16

variable {c : Char} {digits : List Char} {n : Nat}

/-- The number is the value of the digits in base ten, of any number of them. -/
theorem decimal_eq_ofDigits (digits : List Char) :
    decimal digits = Nat.ofDigits 10 (digits.map fun c => c.toNat - '0'.toNat).reverse := by
  rw [decimal, Nat.ofDigits_eq_foldr, List.foldr_reverse, List.foldl_map]
  congr
  funext n c
  exact Nat.add_comm _ _

theorem isDigit_iff : c.isDigit = true ↔ '0' ≤ c ∧ c ≤ '9' := by
  rw [Char.isDigit, Bool.and_eq_true, decide_eq_true_eq, decide_eq_true_eq]
  rfl

/-- The letters that are taken off a key are `DG` in any letter case, or none. -/
theorem exists_withoutLetters (s : List Char) :
    ∃ letters, s = letters ++ withoutLetters s ∧
      (letters = [] ∨ letters.map Char.toLower = ['d', 'g']) := by
  unfold withoutLetters
  split
  · rename_i d g rest
    split
    · rename_i hletters
      rw [Bool.and_eq_true, beq_iff_eq, beq_iff_eq] at hletters
      exact ⟨[d, g], rfl, .inr (by simp [hletters])⟩
    · exact ⟨[], rfl, .inl rfl⟩
  · exact ⟨[], rfl, .inl rfl⟩

theorem toLower_ne_of_isDigit (h : c.isDigit = true) : c.toLower ≠ 'd' :=
  forall_isDigit (P := fun c => c.toLower ≠ 'd') (by decide) h

theorem isBlank_eq_false_of_isDigit (h : c.isDigit = true) : isBlank c = false :=
  forall_isDigit (P := fun c => isBlank c = false) (by decide) h

theorem withoutLetters_digits (hdigits : ∀ c ∈ digits, c.isDigit = true) :
    withoutLetters digits = digits := by
  unfold withoutLetters
  split
  · rename_i d g rest
    have hd := toLower_ne_of_isDigit (hdigits d List.mem_cons_self)
    simp [hd]
  · rfl

namespace Key

variable (k : Key)

theorem isDigit_digits : ∀ c ∈ k.digits, c.isDigit = true :=
  fun c hc => isDigit_iff.2 (k.digit_range c hc)

theorem letters_cases :
    k.letters = [] ∨ ∃ d g, k.letters = [d, g] ∧ d.toLower = 'd' ∧ g.toLower = 'g' := by
  rcases k.letters_eq with hnone | hletters
  · exact .inl hnone
  · right
    obtain ⟨d, rest, hd, hlower, hrest⟩ := List.map_eq_cons_iff.1 hletters
    obtain ⟨g, last, rfl, hlower', hlast⟩ := List.map_eq_cons_iff.1 hrest
    obtain rfl := List.map_eq_nil_iff.1 hlast
    exact ⟨d, g, hd, hlower, hlower'⟩

/-- Between the white space at its ends a key has none. -/
theorem isBlank_eq_false : ∀ c ∈ k.letters ++ k.digits, isBlank c = false := by
  refine List.forall_mem_append.2
    ⟨?_, fun c hc => isBlank_eq_false_of_isDigit (k.isDigit_digits c hc)⟩
  rcases k.letters_cases with hnone | ⟨d, g, hletters, hd, hg⟩
  · simp [hnone]
  · rw [hletters]
    intro c hc
    rcases List.mem_cons.1 hc with rfl | hc
    · rcases eq_or_eq_toUpper hd with rfl | rfl <;> decide
    · obtain rfl := List.mem_singleton.1 hc
      rcases eq_or_eq_toUpper hg with rfl | rfl <;> decide

theorem trimChars_text : trimChars k.text = k.letters ++ k.digits := by
  rw [text, trimChars_between k.areBlank_before k.areBlank_after]
  have hends {o : Option Char} (ho : ∀ c ∈ o, c ∈ k.letters ++ k.digits) :
      o.all (! isBlank ·) = true := by
    cases o with
    | none => rfl
    | some c => simpa using k.isBlank_eq_false c (ho c rfl)
  exact trimChars_eq_self (hends fun c hc => List.mem_of_mem_head? hc)
    (hends fun c hc => List.mem_of_mem_getLast? hc)

theorem withoutLetters_text : withoutLetters (trimChars k.text) = k.digits := by
  rw [trimChars_text]
  rcases k.letters_cases with hnone | ⟨d, g, hletters, hd, hg⟩
  · rw [hnone, List.nil_append, withoutLetters_digits k.isDigit_digits]
  · rw [hletters]
    simp [withoutLetters, hd, hg]

end Key

/-- The number of a data group is read off exactly from its keys. -/
theorem number?_eq_some_iff {key : String} : number? key = some n ↔ Names key.toList n := by
  constructor
  · intro h
    obtain ⟨before, after, hbefore, hafter, htext⟩ := exists_trimChars key.toList
    obtain ⟨letters, htrimmed, hletters⟩ := exists_withoutLetters (trimChars key.toList)
    rw [number?] at h
    dsimp only at h
    split at h
    · rename_i hdigits
      rw [Bool.and_eq_true, Bool.not_eq_true', List.isEmpty_eq_false_iff, List.all_eq_true]
        at hdigits
      split at h
      · rename_i hrange
        obtain rfl := Option.some.inj h
        refine ⟨⟨before, letters, withoutLetters (trimChars key.toList), after, hbefore, hletters,
          hdigits.1, fun c hc => isDigit_iff.1 (hdigits.2 c hc), hafter⟩, ?_, ?_, hrange⟩
        · rw [Key.text, ← htrimmed]
          exact htext.symm
        · exact (decimal_eq_ofDigits _).symm
      · cases h
    · cases h
  · rintro ⟨k, htext, rfl, hrange⟩
    have hdigits : (! k.digits.isEmpty && k.digits.all Char.isDigit) = true := by
      rw [Bool.and_eq_true, Bool.not_eq_true', List.isEmpty_eq_false_iff, List.all_eq_true]
      exact ⟨k.digits_ne_nil, k.isDigit_digits⟩
    rw [number?, ← htext, k.withoutLetters_text, decimal_eq_ofDigits]
    dsimp only
    rw [if_pos hdigits]
    exact if_pos hrange

/-- The value is not cut down to an octet, in which it would be the number of a data group. -/
example : number? " dg0002 " = some 2 ∧ number? "DG257" = none := by decide

end DataGroup

namespace Cli.DataGroupArgument

open DataGroup

variable {argument path : String} {n : Nat}

/-- An argument is understood exactly if it has a key before its first equals sign and a path
behind. -/
theorem parse_eq_ok_iff : parse argument = .ok ⟨n, path⟩ ↔ ∃ key : String,
    argument = key ++ "=" ++ path ∧ '=' ∉ key.toList ∧ Names key.toList n ∧ path ≠ "" := by
  constructor
  · intro h
    unfold parse at h
    split at h
    · cases h
    · rename_i key rest hcut
      obtain ⟨c, hargument, hc, hkey⟩ := Text.cutAt_eq_some_iff.1 hcut
      obtain rfl := eq_of_beq hc
      split at h
      · cases h
      · rename_i number hnumber
        split at h
        · cases h
        · rename_i hpath
          obtain ⟨rfl, rfl⟩ := DataGroupArgument.mk.inj (Except.ok.inj h)
          refine ⟨String.ofList key, ?_, ?_, number?_eq_some_iff.1 hnumber, ?_⟩
          · rw [← String.toList_inj, hargument]
            simp
          · intro hmem
            rw [String.toList_ofList] at hmem
            exact absurd (hkey _ hmem) (by decide)
          · simpa using hpath
  · rintro ⟨key, rfl, hequals, hnames, hpath⟩
    have hcut : Text.cutAt (· == '=') (key ++ "=" ++ path).toList = some (key.toList, path.toList) := by
      have hchars : (key ++ "=" ++ path).toList = key.toList ++ '=' :: path.toList := by simp
      rw [hchars]
      refine Text.cutAt_append_cons (fun c hc => ?_) (by decide)
      simpa using fun heq : c = '=' => hequals (heq ▸ hc)
    have hnumber : number? key = some n := number?_eq_some_iff.2 hnames
    have hnonempty : path.toList.isEmpty = false := by simpa using hpath
    simp only [parse, hcut, hnumber, hnonempty, String.ofList_toList]
    rfl

end Cli.DataGroupArgument

/-- Keys and arguments are understood by exactly their grammar. -/
theorem DataGroup.keys_and_arguments_iff (s : String) :
    (∀ n, DataGroup.number? s = some n ↔ DataGroup.Names s.toList n) ∧
      ∀ n path, Cli.DataGroupArgument.parse s = .ok ⟨n, path⟩ ↔ ∃ key : String,
        s = key ++ "=" ++ path ∧ '=' ∉ key.toList ∧ DataGroup.Names key.toList n ∧ path ≠ "" :=
  ⟨fun _ => DataGroup.number?_eq_some_iff, fun _ _ => Cli.DataGroupArgument.parse_eq_ok_iff⟩

end Mrtd
