import Mathlib.Data.Nat.Digits

namespace GoClaw

/-!
# Decimal text of integers

Go writes an `int64` in decimal, with `%d` in `fmt` and with `strconv.AppendInt` in
`encoding/json`: a `-` before the digits of a negative value, no sign otherwise.  That is Lean's
`toString` on `Int`, whose digits are `Nat.toDigits 10`.

* `readDigits_toDigits`: reading the digits of `n` back, most significant first, gives `n`.
* `isDigit_or_minus_of_mem_toString`: the text holds only digits and `-`.
* `toString_int_injective`: distinct integers have distinct texts.
* `toDigitsCore_head_ne_zero`: the text of a positive number does not start with `0`.
-/

/-- The value of decimal digits read after the value `acc`, most significant first. -/
def readDigits (acc : Nat) (ds : List Char) : Nat :=
  ds.foldl (fun v d => v * 10 + (d.toNat - 48)) acc

/-- `Nat.digitChar` of a decimal digit is a digit character standing for it. -/
theorem digitChar_decimal : ∀ k < 10, (Nat.digitChar k).toNat - 48 = k ∧ (Nat.digitChar k).isDigit := by
  decide

/-- `toDigitsCore` with enough fuel puts the digits of `n` before `ds`. -/
theorem readDigits_toDigitsCore : ∀ (f n : Nat) (ds : List Char), n < f →
    readDigits 0 (Nat.toDigitsCore 10 f n ds) = readDigits n ds
  | 0, n, _, h => absurd h (Nat.not_lt_zero n)
  | f + 1, n, ds, h => by
    have hd := (digitChar_decimal (n % 10) (Nat.mod_lt _ (by decide))).1
    simp only [Nat.toDigitsCore]
    split_ifs with h0
    · simp only [readDigits, List.foldl_cons, hd]
      congr 1
      omega
    · rw [readDigits_toDigitsCore f (n / 10) _ (by omega)]
      simp only [readDigits, List.foldl_cons, hd]
      congr 1
      omega

theorem isDigit_toDigitsCore : ∀ (f n : Nat) (ds : List Char), (∀ c ∈ ds, c.isDigit) →
    ∀ c ∈ Nat.toDigitsCore 10 f n ds, c.isDigit
  | 0, _, _, h => h
  | f + 1, n, ds, h => by
    have hd := (digitChar_decimal (n % 10) (Nat.mod_lt _ (by decide))).2
    simp only [Nat.toDigitsCore]
    split_ifs
    · exact List.forall_mem_cons.2 ⟨hd, h⟩
    · exact isDigit_toDigitsCore f _ _ (List.forall_mem_cons.2 ⟨hd, h⟩)

/-- The decimal digits of `n` read back to `n`. -/
theorem readDigits_toDigits (n : Nat) : readDigits 0 (Nat.toDigits 10 n) = n :=
  readDigits_toDigitsCore _ n [] (Nat.lt_succ_self n)

theorem isDigit_of_mem_toDigits {n : Nat} {c : Char} (h : c ∈ Nat.toDigits 10 n) : c.isDigit :=
  isDigit_toDigitsCore _ n [] (fun _ h => absurd h (List.not_mem_nil _)) c h

/-- A positive number's leading digit, the first that `toDigitsCore` writes, is not `0`. -/
theorem toDigitsCore_head_ne_zero : ∀ (f n : Nat) (ds : List Char), 0 < n → n < f →
    ∃ c cs, Nat.toDigitsCore 10 f n ds = c :: cs ∧ c ≠ '0'
  | 0, n, _, _, h => absurd h (Nat.not_lt_zero n)
  | f + 1, n, ds, hn, h => by
    have hpos : ∀ k < 10, 0 < k → Nat.digitChar k ≠ '0' := by decide
    simp only [Nat.toDigitsCore]
    split_ifs with h0
    · exact ⟨_, _, rfl, hpos _ (Nat.mod_lt _ (by decide)) (by omega)⟩
    · exact toDigitsCore_head_ne_zero f (n / 10) _ (by omega) (by omega)

theorem toString_ofNat_data (m : Nat) : (toString (Int.ofNat m)).data = Nat.toDigits 10 m := rfl

theorem toString_negSucc_data (m : Nat) :
    (toString (Int.negSucc m)).data = '-' :: Nat.toDigits 10 (m + 1) := rfl

/-- The decimal text of an integer is digits, after a `-` when it is negative. -/
theorem isDigit_or_minus_of_mem_toString {i : Int} {c : Char} (h : c ∈ (toString i).data) :
    c.isDigit ∨ c = '-' := by
  cases i with
  | ofNat m => exact .inl (isDigit_of_mem_toDigits (by rwa [toString_ofNat_data] at h))
  | negSucc m =>
    rw [toString_negSucc_data, List.mem_cons] at h
    exact h.elim .inr fun h => .inl (isDigit_of_mem_toDigits h)

/-- Distinct integers have distinct decimal texts. -/
theorem toString_int_injective {a b : Int} (h : toString a = toString b) : a = b := by
  have hd := congrArg String.data h
  have hminus : ∀ m, '-' ∉ Nat.toDigits 10 m := fun m hm => by
    simpa using isDigit_of_mem_toDigits hm
  rcases a with m | m <;> rcases b with n | n <;>
    simp only [toString_ofNat_data, toString_negSucc_data] at hd
  · rw [← readDigits_toDigits m, hd, readDigits_toDigits]
  · exact absurd (hd ▸ List.mem_cons_self _ _) (hminus _)
  · exact absurd (hd.symm ▸ List.mem_cons_self _ _) (hminus _)
  · have := congrArg (readDigits 0) (List.cons.inj hd).2
    simp only [readDigits_toDigits, Nat.add_right_cancel_iff] at this
    rw [this]

end GoClaw
