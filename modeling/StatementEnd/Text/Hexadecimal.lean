/-!
# Hexadecimal numbers

Numbers in lowercase hexadecimal digits, without leading zeros.
-/

namespace StatementEnd
namespace Text

/-- The digits of a number in base sixteen. -/
def hexDigits (number : Nat) : String :=
  String.ofList (Nat.toDigits 16 number)

/-!
## Different numbers have different digits
-/

theorem digitChar_inj :
    forall m : Fin 16, forall n : Fin 16, m.val.digitChar = n.val.digitChar -> m = n := by
  decide

theorem toDigits_inj {m n : Nat} (h : Nat.toDigits 16 m = Nat.toDigits 16 n) : m = n := by
  -- the last digits agree, and by induction the numbers that the digits in front stand for
  induction m using Nat.strongRecOn generalizing n with
  | ind m ih =>
      rw [Nat.toDigits_eq_if (by decide), Nat.toDigits_eq_if (n := n) (by decide)] at h
      by_cases hm : m < 16
      · by_cases hn : n < 16
        · rw [if_pos hm, if_pos hn, List.cons.injEq] at h
          exact congrArg Fin.val (digitChar_inj ⟨m, hm⟩ ⟨n, hn⟩ h.1)
        · rw [if_pos hm, if_neg hn, ← List.nil_append [m.digitChar],
            List.append_singleton_inj] at h
          exact absurd h.1.symm Nat.toDigits_ne_nil
      · by_cases hn : n < 16
        · rw [if_neg hm, if_pos hn, ← List.nil_append [n.digitChar],
            List.append_singleton_inj] at h
          exact absurd h.1 Nat.toDigits_ne_nil
        · rw [if_neg hm, if_neg hn, List.append_singleton_inj] at h
          have hhigh := ih (m / 16) (by omega) h.1
          have hlow := congrArg Fin.val (digitChar_inj ⟨m % 16, by omega⟩ ⟨n % 16, by omega⟩ h.2)
          dsimp only at hlow
          omega

theorem hexDigits_inj {m n : Nat} (h : hexDigits m = hexDigits n) : m = n :=
  toDigits_inj (String.ofList_injective h)

end Text
end StatementEnd
