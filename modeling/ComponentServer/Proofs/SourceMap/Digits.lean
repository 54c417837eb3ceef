import Mathlib
import ComponentServer.SourceMap.Mappings

/-!
# Written numbers are read back

A number of at most thirteen digits comes back from its digits, whatever follows them. Seven digits
hold every difference of two words of 32 bits, so the limit on digits and the signed word that the
digits are summed in are both out of reach there.
-/

namespace ComponentServer.SourceMap

namespace Vlq

theorem digit?_digitChar {value : Nat} (h : value < 64) :
    digit? (digitChar value) = some value := by
  revert value
  decide

theorem isSeparator_digitChar {value : Nat} (h : value < 64) :
    isSeparator (digitChar value) = false := by
  revert value
  decide

theorem shiftLeft_eq_mul_pow (digit count : Nat) : digit <<< (5 * count) = digit * 32 ^ count := by
  rw [Nat.shiftLeft_eq, Nat.pow_mul]

/-- Reading the digits of `n` behind `count` others adds `n` at their place. -/
theorem read_encodeNat {count n : Nat} (start position total : Nat) (rest : Text)
    (hcount : count < maxDigits) (hn : n < 32 ^ (maxDigits - count)) :
    read start position count total (encodeNat n ++ rest) =
      .ok (value (total + n * 32 ^ count), position + (encodeNat n).length, rest) := by
  induction n using Nat.strongRecOn generalizing position count total with
  | ind n ih =>
    rw [encodeNat]
    by_cases hsmall : n < 32
    · rw [if_pos hsmall, List.singleton_append, read, digit?_digitChar (by omega)]
      simp only [Nat.not_le.mpr hcount, if_false, Nat.mod_eq_of_lt hsmall, if_pos hsmall,
        List.length_singleton, shiftLeft_eq_mul_pow]
    · have hmore : count + 1 < maxDigits := by
        apply Nat.lt_of_not_le
        intro hlast
        have hone : maxDigits - count = 1 := by omega
        rw [hone] at hn
        omega
      have hquotient : n / 32 < 32 ^ (maxDigits - (count + 1)) := by
        have hexponent : maxDigits - count = maxDigits - (count + 1) + 1 := by omega
        rw [hexponent, Nat.pow_succ] at hn
        exact Nat.div_lt_of_lt_mul (by omega)
      have hdigit : digit? (digitChar (n % 32 + 32)) = some (n % 32 + 32) :=
        digit?_digitChar (by omega)
      have hcontinued : ¬ n % 32 + 32 < 32 := by omega
      have hlow : (n % 32 + 32) % 32 = n % 32 := by omega
      have hsum : total + n % 32 * 32 ^ count + n / 32 * 32 ^ (count + 1) =
          total + n * 32 ^ count := by
        calc total + n % 32 * 32 ^ count + n / 32 * 32 ^ (count + 1)
            = total + (n % 32 + 32 * (n / 32)) * 32 ^ count := by
              rw [Nat.pow_succ, Nat.add_mul, Nat.mul_comm 32 (n / 32), Nat.mul_assoc,
                Nat.mul_comm 32 (32 ^ count), Nat.add_assoc]
          _ = total + n * 32 ^ count := by rw [Nat.mod_add_div]
      rw [if_neg hsmall, List.cons_append, read, hdigit]
      simp only [Nat.not_le.mpr hcount, if_false, hcontinued, hlow, shiftLeft_eq_mul_pow]
      rw [ih (n / 32) (by omega) (position + 1) (total + n % 32 * 32 ^ count) hmore hquotient, hsum,
        List.length_cons, Nat.add_assoc, Nat.add_comm 1]

/-- Below 2^63 the signed word holds the sum of the digits. -/
theorem value_eq_exactValue {total : Nat} (h : total < 2 ^ 63) :
    value total = exactValue total := by
  have hword : Int.bmod total (1 <<< 64) = total := by
    rw [Int.bmod_eq_of_le (by omega) (by omega)]
  simp only [value, exactValue, hword]

theorem exactValue_double (n : Int) :
    exactValue (if n < 0 then 2 * n.natAbs + 1 else 2 * n.natAbs) = n := by
  unfold exactValue
  split <;> split <;> omega

theorem read_encode {n : Int} (start position : Nat) (rest : Text) (hn : n.natAbs < 2 ^ 33) :
    read start position 0 0 (encode n ++ rest) =
      .ok (n, position + (encode n).length, rest) := by
  have hlimit : (if n < 0 then 2 * n.natAbs + 1 else 2 * n.natAbs) < 2 ^ 63 := by
    split <;> omega
  rw [encode, read_encodeNat start position 0 rest (by decide)
    (Nat.lt_of_lt_of_le hlimit (by decide)), Nat.pow_zero, Nat.mul_one, Nat.zero_add,
    value_eq_exactValue hlimit, exactValue_double]

theorem exists_encode_eq_cons (n : Int) :
    ∃ c rest, encode n = c :: rest ∧ isSeparator c = false := by
  rw [encode]
  generalize (if n < 0 then 2 * n.natAbs + 1 else 2 * n.natAbs) = doubled
  rw [encodeNat]
  split
  · next hsmall => exact ⟨_, [], rfl, isSeparator_digitChar (Nat.lt_trans hsmall (by decide))⟩
  · exact ⟨digitChar (doubled % 32 + 32), _, rfl, isSeparator_digitChar (by omega)⟩

end Vlq

/-- The text goes on with a separator or not at all. -/
def Separated (text : Text) : Prop := ∀ c ∈ text.head?, isSeparator c = true

theorem readFields_flatMap_encode {fields : List Int} {room : Nat} {rest : Text}
    (start position : Nat) (hfit : ∀ field ∈ fields, field.natAbs < 2 ^ 33)
    (hroom : fields.length ≤ room) (hrest : Separated rest) :
    ∃ next, readFields start room position (fields.flatMap Vlq.encode ++ rest) =
      .ok (fields, next, rest) := by
  induction fields generalizing room position with
  | nil =>
    refine ⟨position, ?_⟩
    cases rest with
    | nil => cases room <;> rfl
    | cons c tail =>
      have hc : isSeparator c = true := hrest c (by simp)
      cases room <;> simp [readFields, hc]
  | cons field others ih =>
    cases room with
    | zero => simp at hroom
    | succ room =>
      obtain ⟨c, tail, hcons, hc⟩ := Vlq.exists_encode_eq_cons field
      have hread := Vlq.read_encode position position (others.flatMap Vlq.encode ++ rest)
        (hfit field (by simp))
      obtain ⟨next, hothers⟩ := ih (position + (Vlq.encode field).length)
        (fun other hmem => hfit other (by simp [hmem])) (by simpa using hroom)
      refine ⟨next, ?_⟩
      rw [List.flatMap_cons, List.append_assoc, hcons, List.cons_append, readFields,
        if_neg (by simp [hc]), ← List.cons_append, ← hcons, hread]
      simp only [hothers]

end ComponentServer.SourceMap
